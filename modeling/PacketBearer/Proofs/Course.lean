/-
What the radio is told in one generation.

Sorted by generations, the record falls into courses that are all alike: the radio is told to set
up a bearer for the request that was admitted, and once it has answered one more command can follow,
for which the answer is the reason.

* `Next` — what can come next in a course, and with which data;
* `Work.Due` — whatever is still to be done about a generation is what comes next in its course;
* `onRecord_step` — whatever happens, what comes next in a course is what can;
* `onRecord_run` — so in every run all generations take their course;
* `Course.told` — the commands of a course, and the reasons for them.

It is essential that of no generation, current or past, two tasks are ever under way: nothing comes
between what is due and what comes next.
-/
import Mathlib.Data.List.Induction
import PacketBearer.Proofs.Record

namespace PacketBearer

/-! ### Courses -/

/-- What can come next in a course. -/
inductive Next (s : Setting) : List Entry → Entry → Prop
  | admits (request : BringUp) : Next s [] (.admitted request)
  | orders {request : BringUp} {order : SetupOrder}
    (ordered : s.technology.orderFor? request.accessPoint = some order) :
    Next s [.admitted request] (.told (.setUp order request))
  | hears (request : BringUp) (order : SetupOrder) (result : Except RadioError SetupReply) :
    Next s [.admitted request, .told (.setUp order request)]
      (.heard (.setUp order request) (.setUpDone request result))
  /-- The answer says nothing of the cause, so that the radio is asked for it. -/
  | asks (request : BringUp) (order : SetupOrder) {error : RadioError}
    (available : error ≠ .radioNotAvailable)
    (vague : ∀ reply, error = .rejected reply → ¬ s.structuredSince ≤ reply.version) :
    Next s [.admitted request, .told (.setUp order request),
      .heard (.setUp order request) (.setUpDone request (.error error))]
      (.told (.lastCause request))
  | learns (request : BringUp) (order : SetupOrder) (error : RadioError)
    (result : Except RadioError Int32) :
    Next s [.admitted request, .told (.setUp order request),
      .heard (.setUp order request) (.setUpDone request (.error error)),
      .told (.lastCause request)]
      (.heard (.lastCause request) (.lastCauseDone request result))
  /-- The radio has set up a bearer, but its parameters are of no use. -/
  | cleansUp (request : BringUp) (order : SetupOrder) {reply : SetupReply}
    (status : reply.status = 0) :
    Next s [.admitted request, .told (.setUp order request),
      .heard (.setUp order request) (.setUpDone request (.ok reply))]
      (.told (.release reply.bearerId .unspecified (.cleanUp request)))
  | isClean (request : BringUp) (order : SetupOrder) {reply : SetupReply}
    (status : reply.status = 0) :
    Next s [.admitted request, .told (.setUp order request),
      .heard (.setUp order request) (.setUpDone request (.ok reply)),
      .told (.release reply.bearerId .unspecified (.cleanUp request))]
      (.heard (.release reply.bearerId .unspecified (.cleanUp request))
        (.releaseDone (.cleanUp request)))
  | empties (request : BringUp) (order : SetupOrder) {reply : SetupReply}
    (status : reply.status = 0) (tearDown : TearDown) :
    Next s [.admitted request, .told (.setUp order request),
      .heard (.setUp order request) (.setUpDone request (.ok reply))]
      (.emptied tearDown)
  | releases (request : BringUp) (order : SetupOrder) {reply : SetupReply}
    (status : reply.status = 0) (tearDown : TearDown) :
    Next s [.admitted request, .told (.setUp order request),
      .heard (.setUp order request) (.setUpDone request (.ok reply)), .emptied tearDown]
      (.told (.release reply.bearerId (.ofText tearDown.reason) (.tearDown tearDown)))
  | isReleased (request : BringUp) (order : SetupOrder) {reply : SetupReply}
    (status : reply.status = 0) (tearDown : TearDown) :
    Next s [.admitted request, .told (.setUp order request),
      .heard (.setUp order request) (.setUpDone request (.ok reply)), .emptied tearDown,
      .told (.release reply.bearerId (.ofText tearDown.reason) (.tearDown tearDown))]
      (.heard (.release reply.bearerId (.ofText tearDown.reason) (.tearDown tearDown))
        (.releaseDone (.tearDown tearDown)))

/-- The course of a generation, as far as it has gone. -/
inductive Course (s : Setting) : List Entry → Prop
  | nothing : Course s []
  | next {course : List Entry} {entry : Entry} (before : Course s course)
    (next : Next s course entry) : Course s (course ++ [entry])

/-- Whatever answers a command that can come next comes next then. -/
theorem Next.answered {s : Setting} {course : List Entry} {command : Command} {answer : Mail}
    {given : RadioAnswers} (h : Next s course (.told command))
    (ready : command.completion? given = some answer) :
    Next s (course ++ [.told command]) (.heard command answer) := by
  cases h with
  | orders ordered =>
    obtain ⟨result, -, rfl⟩ := Option.map_eq_some_iff.mp ready
    exact .hears _ _ _
  | asks =>
    obtain ⟨result, -, rfl⟩ := Option.map_eq_some_iff.mp ready
    exact .learns _ _ _ _
  | cleansUp _ _ status =>
    obtain ⟨result, -, rfl⟩ := Option.map_eq_some_iff.mp ready
    exact .isClean _ _ status
  | releases _ _ status =>
    obtain ⟨result, -, rfl⟩ := Option.map_eq_some_iff.mp ready
    exact .isReleased _ _ status _

/-! ### What is still to be done -/

/-- A piece of work is what comes next in its course, and the answer to a set-up has just come. -/
def Work.Due (s : Setting) (record : List Entry) : Work → Prop
  | order command => Next s (courseOf command.task.generation record) (.told command)
  | call _ command => ∀ given answer, command.completion? given = some answer →
    Next s (courseOf command.task.generation record) (.heard command answer)
  | mail (.setUpDone request result) => ∃ order, courseOf request.generation record =
    [.admitted request, .told (.setUp order request),
      .heard (.setUp order request) (.setUpDone request result)]
  | mail _ => True

/-- Where a bearer stands that works: what has begun is not of a generation to come, an idle bearer
has not begun anything, and one that is up has been set up by the radio. -/
structure Controller.Stands {ι : Type} (record : List Entry) (m : Controller ι) : Prop where
  bounded : ∀ entry ∈ record, entry.generation ≤ m.connection.generation
  idle : m.phase = .idle → courseOf m.connection.generation record = []
  up : m.phase = .up → ∃ request order reply,
    courseOf m.connection.generation record =
      [.admitted request, .told (.setUp order request),
        .heard (.setUp order request) (.setUpDone request (.ok reply))] ∧
      reply.status = 0 ∧ m.connection.bearerId = reply.bearerId

/-- A bearer is where the record says. -/
structure Bearer.OnRecord {ι : Type} (s : Setting) (record : List Entry) (b : Bearer ι) :
    Prop where
  course : ∀ generation, Course s (courseOf generation record)
  -- of no generation two tasks are under way
  distinct : (b.tasks.map Task.generation).Nodup
  due : ∀ work ∈ b.works, work.Due s record
  stands : b.isHalted = false → b.controller.Stands record

theorem Roster.isEmpty_of_ne_nil {r : Roster} (h : r.names ≠ []) : r.isEmpty = false := by
  rw [Roster.isEmpty, List.isEmpty_eq_false_iff]
  exact h

section

variable {ι : Type} {s : Setting} {record added : List Entry} {b b' : Bearer ι}

/-- What comes next in its course leaves all generations on their course. -/
theorem Course.concat (h : ∀ g, Course s (courseOf g record)) {entry : Entry}
    (next : Next s (courseOf entry.generation record) entry) (g : UInt64) :
    Course s (courseOf g (record ++ [entry])) := by
  rw [courseOf_append]
  by_cases hg : entry.generation = g
  · rw [courseOf_singleton hg, ← hg]
    exact .next (h _) next
  · rw [courseOf_singleton_of_ne hg, List.append_nil]
    exact h g

theorem Work.due_of_no_task {work : Work} (h : work.task? = none) : work.Due s record := by
  cases work with
  | order | call => cases h
  | mail mail =>
    cases mail with
    | setUpDone => cases h
    | _ => trivial

/-- What comes next is about a generation that has begun, or it is an admission. -/
theorem exists_of_next {entry : Entry} (h : Next s (courseOf entry.generation record) entry)
    (later : ∀ request, entry ≠ .admitted request) :
    ∃ other ∈ record, other.generation = entry.generation := by
  have hsome : courseOf entry.generation record ≠ [] := by
    intro hnil
    rw [hnil] at h
    cases h with
    | admits request => exact later request rfl
  obtain ⟨other, hother⟩ := List.exists_mem_of_ne_nil _ hsome
  obtain ⟨hmem, hsame⟩ := List.mem_filter.mp hother
  exact ⟨other, hmem, of_decide_eq_true hsame⟩

/-- What is put on record about other generations does not matter to a piece of work. -/
theorem Work.Due.append {work : Work} (h : work.Due s record)
    (apart : ∀ task, work.task? = some task → courseOf task.generation added = []) :
    work.Due s (record ++ added) := by
  cases work with
  | order command =>
    rw [Work.Due, courseOf_append, apart _ rfl, List.append_nil]
    exact h
  | call number command =>
    rw [Work.Due, courseOf_append, apart _ rfl, List.append_nil]
    exact h
  | mail mail =>
    cases mail with
    | setUpDone request result =>
      rw [Work.Due, courseOf_append, show courseOf request.generation added = [] from
        apart (.setUp request) rfl, List.append_nil]
      exact h
    | _ => trivial

/-- The answer to a set-up that comes next in its course is due then. -/
theorem Next.due {command : Command} {given : RadioAnswers} {answer : Mail}
    (h : Next s (courseOf (Entry.heard command answer).generation record) (.heard command answer))
    (ready : command.completion? given = some answer) :
    (Work.mail answer).Due s (record ++ [.heard command answer]) := by
  cases answer with
  | setUpDone request result =>
    cases command with
    | setUp order other =>
      obtain ⟨_, -, hanswer⟩ := Option.map_eq_some_iff.mp ready
      obtain ⟨rfl, -⟩ := Mail.setUpDone.inj hanswer
      refine ⟨order, ?_⟩
      have hheard : courseOf other.generation
          [.heard (.setUp order other) (.setUpDone other result)] =
            [.heard (.setUp order other) (.setUpDone other result)] := courseOf_singleton rfl
      rw [courseOf_append, hheard]
      change Next s (courseOf other.generation record) _ at h
      generalize courseOf other.generation record = course at h
      cases h
      rfl
    | lastCause | release =>
      obtain ⟨_, -, hanswer⟩ := Option.map_eq_some_iff.mp ready
      cases hanswer
  | _ => trivial

/-- More is put on record, and other work is to be done. -/
theorem Bearer.OnRecord.append (h : b.OnRecord s record)
    (course : ∀ g, Course s (courseOf g (record ++ added)))
    (apart : ∀ work ∈ b'.works, work ∈ b.works ∧
      (∀ task, work.task? = some task → courseOf task.generation added = []) ∨
        work.Due s (record ++ added))
    (distinct : (b'.tasks.map Task.generation).Nodup)
    (stands : b'.isHalted = false → b'.controller.Stands (record ++ added)) :
    b'.OnRecord s (record ++ added) := by
  refine ⟨course, distinct, fun work hwork => ?_, stands⟩
  rcases apart work hwork with ⟨hold, hadded⟩ | hdue
  · exact (h.due work hold).append hadded
  · exact hdue

/-! ### Reactions -/

/-- A reaction brings up nothing that a second task of the same generation could come of. -/
theorem Rule.distinct_after [Interceptor ι] {mail : Mail} {rest : List Mail} {r : Reaction ι}
    {m : Controller ι} (h : Rule s m.connection m.interceptor m.phase mail r)
    (first : b.controller.mailbox = mail :: rest) (hm : m = b.controller.withMailbox rest)
    (distinct : (b.tasks.map Task.generation).Nodup)
    (inOrder : r.halt = none → (b.withController (m.after s mail r).1).InOrder) :
    ((b.withController (m.after s mail r).1).tasks.map Task.generation).Nodup := by
  have hbefore := Bearer.tasks_first first
  rw [← hm] at hbefore
  have hothers : ((b.withController m).tasks.map Task.generation).Nodup := by
    refine Multiset.nodup_of_le (Multiset.map_le_map ?_) distinct
    rw [hbefore]
    exact Multiset.le_add_left _ _
  cases hhalt : r.halt with
  | some halt =>
    refine Multiset.nodup_of_le (Multiset.map_le_map ?_) hothers
    rw [Controller.after, hhalt, Bearer.tasks_eq, Bearer.tasks_eq]
    simp only [Tally.ofBearer, Bearer.withController, tally_halted, zero_add, add_assoc]
    exact Multiset.le_add_left _ _
  | none =>
    have hone := (inOrder hhalt).fits.card_le_one
    rw [Bearer.current, b.tasks_after s m mail hhalt] at hone
    rw [b.tasks_after s m mail hhalt]
    rcases h.issued with hnone | ⟨task, hissued, -⟩
    · rw [hnone, add_zero]
      exact hothers
    · -- what is issued is current, and nothing else is
      have hcurrent : task.generation = (m.after s mail r).1.connection.generation :=
        h.issued_current task (by rw [hissued]; exact Multiset.mem_singleton_self task)
      change (ofGeneration (m.after s mail r).1.connection.generation _).card ≤ 1 at hone
      rw [hissued, ofGeneration_add, ← hcurrent, ofGeneration_singleton rfl, Multiset.card_add,
        Multiset.card_singleton] at hone
      have hnone : (ofGeneration task.generation (b.withController m).tasks).card = 0 := by omega
      have halone := ofGeneration_eq_zero_iff.mp (Multiset.card_eq_zero.mp hnone)
      rw [hissued, Multiset.map_add, Multiset.map_singleton, add_comm, Multiset.singleton_add,
        Multiset.nodup_cons]
      refine ⟨fun hmem => ?_, hothers⟩
      obtain ⟨other, hother, hsame⟩ := Multiset.mem_map.mp hmem
      exact halone other hother hsame

/-! ### Where a bearer stands -/

namespace Controller.Stands

variable {m m' : Controller ι}

theorem of_eq (h : m.Stands record) (phase : m'.phase = m.phase)
    (generation : m'.connection.generation = m.connection.generation)
    (bearerId : m'.connection.bearerId = m.connection.bearerId) : m'.Stands record := by
  refine ⟨?_, ?_, ?_⟩
  · rw [generation]
    exact h.bounded
  · rw [phase, generation]
    exact h.idle
  · rw [phase, generation, bearerId]
    exact h.up

/-- Nothing is asked of a bearer that waits for the radio. -/
theorem of_isBusy (h : m.Stands record) (busy : m'.phase.isBusy = true)
    (generation : m'.connection.generation = m.connection.generation)
    (current : ∀ entry ∈ added, entry.generation = m.connection.generation) :
    m'.Stands (record ++ added) := by
  refine ⟨fun entry hentry => ?_, fun hidle => ?_, fun hup => ?_⟩
  · rw [generation]
    rcases List.mem_append.mp hentry with hold | hnew
    · exact h.bounded entry hold
    · rw [current entry hnew]
      exact UInt64.le_refl _
  · rw [hidle] at busy
    cases busy
  · rw [hup] at busy
    cases busy

/-- What has begun is of the past once the bearer becomes idle. -/
theorem of_return (h : m.Stands record) (phase : m'.phase = .idle)
    (generation : m'.connection.generation = m.connection.generation + 1)
    (room : m.connection.generation.toNat + 1 < 2 ^ 64) : m'.Stands record := by
  have hnext : m'.connection.generation.toNat = m.connection.generation.toNat + 1 := by
    have hone : (1 : UInt64).toNat = 1 := rfl
    rw [generation, UInt64.toNat_add, hone]
    omega
  have hpast : ∀ entry ∈ record, entry.generation.toNat < m'.connection.generation.toNat := by
    intro entry hentry
    have hle := UInt64.le_iff_toNat_le.mp (h.bounded entry hentry)
    omega
  refine ⟨fun entry hentry => ?_, fun _ => ?_, fun hup => ?_⟩
  · exact UInt64.le_iff_toNat_le.mpr (Nat.le_of_lt (hpast entry hentry))
  · refine List.filter_eq_nil_iff.mpr fun entry hentry hsame => ?_
    have hlt := hpast entry hentry
    rw [of_decide_eq_true hsame] at hlt
    exact absurd hlt (Nat.lt_irrefl _)
  · rw [phase] at hup
    cases hup

/-- A bearer that does not wait for the radio stands where it did whatever comes next in another
generation. -/
theorem concat {entry : Entry} (h : m.Stands record)
    (next : Next s (courseOf entry.generation record) entry)
    (later : ∀ request, entry ≠ .admitted request)
    (past : m.phase.isBusy = false → entry.generation ≠ m.connection.generation) :
    m.Stands (record ++ [entry]) := by
  obtain ⟨other, hother, hsame⟩ := exists_of_next next later
  refine ⟨fun one hone => ?_, fun hidle => ?_, fun hup => ?_⟩
  · rcases List.mem_append.mp hone with hold | hnew
    · exact h.bounded one hold
    · rw [List.mem_singleton.mp hnew, ← hsame]
      exact h.bounded other hother
  · rw [courseOf_append, h.idle hidle, courseOf_singleton_of_ne (past (by rw [hidle]; rfl))]
    rfl
  · rw [courseOf_append, courseOf_singleton_of_ne (past (by rw [hup]; rfl)), List.append_nil]
    exact h.up hup

end Controller.Stands

/-- What one reaction does to the course of the current generation, and where it leaves the
bearer. -/
structure Reaction.Proceeds (s t : Setting) (record : List Entry) (m : Controller Unit)
    (mail : Mail) (r : Reaction Unit) : Prop where
  -- what is put on record is what comes next, and the bearer does not wait for the radio then
  noted : m.noted t mail r = [] ∨ ∃ entry, m.noted t mail r = [entry] ∧
    entry.generation = m.connection.generation ∧ m.phase.isBusy = false ∧
      Next s (courseOf m.connection.generation record) entry
  commands : r.halt = none → ∀ command ∈ r.commands,
    Next s (courseOf command.task.generation (record ++ m.noted t mail r)) (.told command)
  stands : (m.after t mail r).1.isHalted = false →
    (m.after t mail r).1.Stands (record ++ m.noted t mail r)

theorem Reaction.Proceeds.of_nothing {t : Setting} {m : Controller Unit} {mail : Mail}
    {r : Reaction Unit} (noted : m.noted t mail r = []) (commands : r.commands = [])
    (stands : (m.after t mail r).1.isHalted = false → (m.after t mail r).1.Stands record) :
    r.Proceeds s t record m mail := by
  refine ⟨Or.inl noted, fun _ command hcommand => ?_, ?_⟩
  · rw [commands] at hcommand
    cases hcommand
  · rw [noted, List.append_nil]
    exact stands

/-- An entry comes next, and then the command that it is the reason for. -/
theorem Reaction.Proceeds.of_entry {t : Setting} {m : Controller Unit} {mail : Mail}
    {r : Reaction Unit} {entry : Entry} {command : Command} (noted : m.noted t mail r = [entry])
    (commands : r.commands = [command]) (about : entry.generation = m.connection.generation)
    (ordered : command.task.generation = m.connection.generation)
    (free : m.phase.isBusy = false)
    (first : Next s (courseOf m.connection.generation record) entry)
    (second : Next s (courseOf m.connection.generation record ++ [entry]) (.told command))
    (stands : m.Stands record) (busy : (m.after t mail r).1.phase.isBusy = true)
    (stays : (m.after t mail r).1.connection.generation = m.connection.generation) :
    r.Proceeds s t record m mail := by
  have hcourse : courseOf m.connection.generation [entry] = [entry] := courseOf_singleton about
  refine ⟨Or.inr ⟨entry, noted, about, free, first⟩, fun _ other hother => ?_, fun _ => ?_⟩
  · rw [commands] at hother
    rw [List.mem_singleton.mp hother, noted, ordered, courseOf_append, hcourse]
    exact second
  · rw [noted]
    refine stands.of_isBusy busy stays fun other hother => ?_
    rw [List.mem_singleton.mp hother]
    exact about

/-- A command comes next. -/
theorem Reaction.Proceeds.of_command {t : Setting} {m : Controller Unit} {mail : Mail}
    {r : Reaction Unit} {command : Command} (noted : m.noted t mail r = [])
    (commands : r.commands = [command])
    (next : Next s (courseOf command.task.generation record) (.told command))
    (stands : (m.after t mail r).1.Stands record) : r.Proceeds s t record m mail := by
  refine ⟨Or.inl noted, fun _ other hother => ?_, fun _ => ?_⟩
  · rw [commands] at hother
    rw [List.mem_singleton.mp hother, noted, List.append_nil]
    exact next
  · rw [noted, List.append_nil]
    exact stands

/-- Every reaction is what comes next in the course of the current generation. -/
theorem Rule.proceeds {t : Setting} {m : Controller Unit} {mail : Mail} {r : Reaction Unit}
    (h : Rule t m.connection m.interceptor m.phase mail r)
    (technology : t.technology = s.technology) (since : t.structuredSince = s.structuredSince)
    (stands : m.Stands record) (due : (Work.mail mail).Due s record)
    (attended : m.phase = .up →
      m.connection.clients.names ≠ [] ∧ m.connection.clients.names.Nodup)
    (room : m.connection.generation.toNat + (m.after t mail r).2.countP Event.isReturn < 2 ^ 64) :
    r.Proceeds s t record m mail := by
  have hreturn : r.halt = none → ∀ arrival, r.next = some (.idle, arrival) →
      m.connection.generation.toNat + 1 < 2 ^ 64 := by
    intro hhalt arrival hnext
    have hcount := Controller.isReturn_mem_after t m mail hhalt hnext
    omega
  obtain ⟨phase, c, i, mailbox, deferred, outbox, halted⟩ := m
  cases h with
  | waits | joins | vacuous | hears => exact .of_nothing rfl rfl fun _ => stands.of_eq rfl rfl rfl
  | strange =>
    have hsome := Roster.isEmpty_of_ne_nil (attended rfl).1
    refine .of_nothing ?_ rfl fun _ => stands.of_eq rfl rfl rfl
    rw [Controller.noted_eq]
    show List.filterMap (Event.entry? c.clients.isEmpty) _ = []
    rw [hsome]
    rfl
  | @leaves request client own member others =>
    have hsome := Roster.isEmpty_of_ne_nil (Roster.detach_ne_nil (attended rfl).2 member others)
    refine .of_nothing ?_ rfl fun _ => stands.of_eq rfl rfl rfl
    rw [Controller.noted_eq]
    show List.filterMap (Event.entry? (c.clients.detach client).2.isEmpty) _ = []
    rw [hsome]
    rfl
  | ignores reports =>
    refine .of_nothing ?_ rfl fun _ => stands.of_eq rfl rfl rfl
    cases mail with
    | setUpDone | lastCauseDone | releaseDone => rfl
    | _ => cases reports
  | @answers _ _ inquiry _ =>
    obtain ⟨link, intent, hanswer⟩ := c.answer_eq t phase inquiry
    refine .of_nothing rfl rfl fun _ => stands.of_eq rfl ?_ ?_
    · show (c.answer t phase inquiry).2.generation = c.generation
      rw [hanswer]
    · show (c.answer t phase inquiry).2.bearerId = c.bearerId
      rw [hanswer]
  | impossible | stops =>
    refine .of_nothing ?_ rfl fun hlive => by cases hlive
    rw [Controller.noted_eq]
    rfl
  | intercepted ordered caught => cases caught
  | @ordered request order _ ordered passed =>
    have hcourse : courseOf c.generation record = [] := stands.idle rfl
    rw [technology] at ordered
    refine .of_entry rfl rfl rfl rfl rfl ?_ ?_ stands rfl rfl
    · show Next s (courseOf c.generation record) (.admitted (request.stamped c))
      rw [hcourse]
      exact .admits _
    · show Next s (courseOf c.generation record ++ [.admitted (request.stamped c)]) _
      rw [hcourse]
      exact .orders ordered
  | @releases request last =>
    obtain ⟨bringUp, order, reply, hcourse, hstatus, hid⟩ := stands.up rfl
    have hcourse' : courseOf c.generation record = _ := hcourse
    have hid' : c.bearerId = reply.bearerId := hid
    refine .of_entry rfl rfl rfl rfl rfl ?_ ?_ stands rfl rfl
    · show Next s (courseOf c.generation record) (.emptied (request.stamped c))
      rw [hcourse']
      exact .empties _ _ hstatus _
    · show Next s (courseOf c.generation record ++ [.emptied (request.stamped c)])
        (.told (.release c.bearerId (.ofText request.reason) (.tearDown (request.stamped c))))
      rw [hcourse', hid']
      exact .releases _ _ hstatus _
  | fails | released | resets =>
    refine .of_nothing ?_ rfl fun _ => stands.of_return rfl rfl (hreturn rfl _ rfl)
    rw [Controller.noted_eq]
    rfl
  | @asks request error available vague current =>
    obtain ⟨order, hcourse⟩ := due
    rw [since] at vague
    refine .of_command rfl rfl ?_ (stands.of_eq rfl rfl rfl)
    show Next s (courseOf request.generation record) _
    rw [hcourse]
    exact .asks _ _ available vague
  | @accepts request reply link status agreed current =>
    obtain ⟨order, hcourse⟩ := due
    rw [current] at hcourse
    refine .of_nothing rfl rfl fun _ => ⟨stands.bounded, fun hidle => (by cases hidle), fun _ => ?_⟩
    exact ⟨request, order, reply, hcourse, status, rfl⟩
  | @refuses request reply rejection status refused current =>
    obtain ⟨order, hcourse⟩ := due
    refine .of_command rfl rfl ?_ ⟨stands.bounded, fun hidle => (by cases hidle), fun hup => ?_⟩
    · show Next s (courseOf request.generation record) _
      rw [hcourse]
      exact .cleansUp _ _ status
    · cases hup

namespace Bearer.OnRecord

/-- Handling a piece of mail is what comes next in the course of the current generation. -/
theorem proceeds {t : Setting} {b : Bearer Unit} {mail : Mail} {rest : List Mail}
    {r : Reaction Unit} {m : Controller Unit} (h : b.OnRecord s record) (inOrder : b.InOrder)
    (live : b.isHalted = false) (first : b.controller.mailbox = mail :: rest)
    (hm : m = b.controller.withMailbox rest)
    (hrule : Rule t m.connection m.interceptor m.phase mail r)
    (technology : t.technology = s.technology) (since : t.structuredSince = s.structuredSince)
    (room : m.connection.generation.toNat + (m.after t mail r).2.countP Event.isReturn < 2 ^ 64) :
    r.Proceeds s t record m mail := by
  have hstands : m.Stands record := by
    rw [hm]
    exact (h.stands live).of_eq rfl rfl rfl
  have hdue : (Work.mail mail).Due s record :=
    h.due _ (Bearer.mem_works.mpr (Or.inr (Or.inr ⟨mail, Bearer.mem_mails_of_first first, rfl⟩)))
  refine hrule.proceeds technology since hstands hdue (fun hup => ?_) room
  have hfits := inOrder.fits
  rw [hm] at hup ⊢
  rw [show b.controller.phase = .up from hup] at hfits
  exact ⟨hfits.2.1, hfits.2.2.1⟩

theorem after {t : Setting} {b : Bearer Unit} {mail : Mail} {rest : List Mail}
    {r : Reaction Unit} {m : Controller Unit} (h : b.OnRecord s record) (inOrder : b.InOrder)
    (first : b.controller.mailbox = mail :: rest) (hm : m = b.controller.withMailbox rest)
    (hrule : Rule t m.connection m.interceptor m.phase mail r)
    (hproceeds : r.Proceeds s t record m mail)
    (inOrder' : r.halt = none → (b.withController (m.after t mail r).1).InOrder) :
    (b.withController (m.after t mail r).1).OnRecord s (record ++ m.noted t mail r) := by
  refine h.append ?_ (fun work hwork => ?_) (hrule.distinct_after first hm h.distinct inOrder')
    hproceeds.stands
  · rcases hproceeds.noted with hnone | ⟨entry, hentry, hcurrent, -, hnext⟩
    · rw [hnone, List.append_nil]
      exact h.course
    · rw [hentry]
      rw [← hcurrent] at hnext
      exact Course.concat h.course hnext
  · rcases mem_works_after first hm hrule.posts_eq_nil hwork with hold | ⟨hhalt, command, hnew, rfl⟩
    · refine Or.inl ⟨hold, fun task habout => ?_⟩
      rcases hproceeds.noted with hnone | ⟨entry, hentry, hcurrent, hfree, -⟩
      · rw [hnone, courseOf_nil]
      · rw [hentry]
        refine courseOf_singleton_of_ne fun hsame => ?_
        rw [hm] at hcurrent hfree
        exact inOrder.generation_ne hfree (mem_tasks_of_works hold habout)
          (hsame.symm.trans hcurrent)
    · exact Or.inr (hproceeds.commands hhalt command hnew)

/-- The radio is told the first command. -/
theorem call {b : Bearer ι} {command : Command}
    (h : (b.withOutbox (command :: b.controller.outbox)).OnRecord s record)
    (inOrder : b.isHalted = false → (b.withOutbox (command :: b.controller.outbox)).InOrder) :
    (b.call command).1.OnRecord s (record ++ [.told command]) := by
  have hnext : Next s (courseOf (Entry.told command).generation record) (.told command) :=
    h.due (.order command) (Bearer.mem_works.mpr (Or.inl ⟨command, List.mem_cons_self, rfl⟩))
  have htasks : (b.withOutbox (command :: b.controller.outbox)).tasks = command.task ::ₘ b.tasks :=
    b.tasks_withOutbox command b.controller.outbox
  have hsame : (b.call command).1.tasks = command.task ::ₘ b.tasks := by
    rw [Bearer.tasks_eq, Bearer.tasks_eq, ← Multiset.singleton_add]
    simp only [Bearer.call, Tally.ofBearer, List.map_append, List.map_cons, List.map_nil,
      Tally.ofCommands_append, Tally.ofCommands_cons, Tally.ofCommands_nil, Tally.tasks_ofCommand]
    abel
  have hdistinct := h.distinct
  rw [htasks] at hdistinct
  have hpast := (Multiset.nodup_cons.mp (Multiset.map_cons _ _ _ ▸ hdistinct)).1
  refine h.append (Course.concat h.course hnext) (fun work hwork => ?_) ?_ fun live => ?_
  · rcases Bearer.mem_works_call hwork with hold | rfl
    · refine Or.inl ⟨?_, fun task habout => courseOf_singleton_of_ne fun heq => hpast ?_⟩
      · simp only [Bearer.works, Bearer.withOutbox, Bearer.mails, List.map_cons, List.mem_append,
          List.mem_cons] at hold ⊢
        tauto
      · exact Multiset.mem_map.mpr ⟨task, Bearer.mem_tasks_of_works hold habout, heq.symm⟩
    · refine Or.inr fun given answer ready => ?_
      have htold : courseOf command.task.generation [.told command] = [.told command] :=
        courseOf_singleton rfl
      rw [courseOf_append, htold]
      exact hnext.answered ready
  · rw [hsame]
    exact hdistinct
  · have hstands : b.controller.Stands record := (h.stands live).of_eq rfl rfl rfl
    refine hstands.concat hnext (fun request heq => by cases heq) fun free => ?_
    refine (inOrder live).generation_ne free ?_
    rw [htasks]
    exact Multiset.mem_cons_self _ _

/-- A radio that is off is not told to release anything. -/
theorem skip {b : Bearer ι} {id : Int32} {reason : ReleaseReason} {purpose : ReleasePurpose}
    (h : (b.withOutbox (.release id reason purpose :: b.controller.outbox)).OnRecord s record) :
    Bearer.OnRecord s record
      { b with controller := b.controller.post (.releaseDone purpose) } := by
  refine ⟨h.course, ?_, fun work hwork => ?_, fun live => (h.stands live).of_eq rfl rfl rfl⟩
  · have hsame : ({ b with controller := b.controller.post (.releaseDone purpose) }).tasks =
        (b.withOutbox (.release id reason purpose :: b.controller.outbox)).tasks := by
      rw [b.tasks_withOutbox, Bearer.tasks_eq, Bearer.tasks_eq, ← Multiset.singleton_add]
      simp only [Bearer.withOutbox, Tally.ofBearer, tally_post,
        Tally.tasks.ofMail_releaseDone id reason, Tally.tasks_ofCommand]
      abel
    rw [hsame]
    exact h.distinct
  · rcases Bearer.mem_works_post hwork with hold | rfl
    · refine h.due work ?_
      simp only [Bearer.works, Bearer.withOutbox, Bearer.mails, List.map_cons, List.mem_append,
        List.mem_cons] at hold ⊢
      tauto
    · trivial

theorem dispatch {t : Setting} {b : Bearer ι} {command : Command}
    (h : (b.withOutbox (command :: b.controller.outbox)).OnRecord s record)
    (inOrder : b.isHalted = false → (b.withOutbox (command :: b.controller.outbox)).InOrder)
    (emptied : Bool) :
    (b.dispatch t command).1.OnRecord s
      (record ++ (b.dispatch t command).2.filterMap (Event.entry? emptied)) := by
  rw [Bearer.dispatch.eq_def]
  split
  · rw [List.filterMap_nil, List.append_nil]
    exact h.skip
  · exact h.call inOrder

theorem dispatchAll {t : Setting} {b : Bearer ι} {commands : List Command}
    (h : (b.withOutbox commands).OnRecord s record) (empty : b.controller.outbox = [])
    (inOrder : b.isHalted = false → (b.withOutbox commands).InOrder) (emptied : Bool) :
    (b.dispatchAll t commands).1.OnRecord s
      (record ++ (b.dispatchAll t commands).2.filterMap (Event.entry? emptied)) := by
  induction commands generalizing b record with
  | nil =>
    have hsame : b.withOutbox [] = b := by
      rw [Bearer.withOutbox, ← empty]
    rw [hsame] at h
    rw [Bearer.dispatchAll, List.filterMap_nil, List.append_nil]
    exact h
  | cons command commands ih =>
    -- it makes no difference whether the later commands are still in the outbox
    have hdispatch : (b.withOutbox commands).dispatch t command =
        ((b.dispatch t command).1.withOutbox commands, (b.dispatch t command).2) := by
      rw [Bearer.dispatch.eq_def, Bearer.dispatch.eq_def]
      split <;> rfl
    have hfirst := dispatch (t := t) (b := b.withOutbox commands) h inOrder emptied
    rw [hdispatch] at hfirst
    have htasks : ((b.dispatch t command).1.withOutbox commands).tasks =
        (b.withOutbox (command :: commands)).tasks := by
      have htally := tally_dispatch Tally.tasks t (b.withOutbox commands) command
      rw [← Bearer.tasks_eq, ← Bearer.tasks_eq, hdispatch, Tally.tasks_ofCommand, add_comm,
        Multiset.singleton_add] at htally
      rw [htally, b.tasks_withOutbox]
    obtain ⟨purposes, hcontroller⟩ := Bearer.controller_dispatchAll t b [command]
    have hone : (b.dispatch t command).1.controller =
        { b.controller with
          mailbox := b.controller.mailbox ++ purposes.map Mail.releaseDone } := hcontroller
    rw [Bearer.dispatchAll, List.filterMap_append, ← List.append_assoc]
    refine ih hfirst (by rw [hone]; exact empty) fun live => ?_
    have hlive : b.isHalted = false := by
      rw [Bearer.isHalted, hone] at live
      exact live
    refine (inOrder hlive).of_eq htasks ?_ ?_ ?_
    · simp only [Bearer.withOutbox, hone]
    · simp only [Bearer.withOutbox, hone]
    · simp only [Bearer.withOutbox, hone]

/-- The radio answers a command. -/
theorem answer {b : Bearer ι} {call : Nat} {given : RadioAnswers} {command : Command}
    {mail : Mail} (h : b.OnRecord s record) (numbered : b.Numbered)
    (inOrder : b.isHalted = false → b.InOrder) (isOpen : (call, command) ∈ b.openCalls)
    (ready : command.completion? given = some mail) :
    ((b.close call).send [mail]).OnRecord s (record ++ [.heard command mail]) := by
  have hnext : Next s (courseOf (Entry.heard command mail).generation record)
      (.heard command mail) := by
    refine h.due (.call call command) ?_ given mail ready
    exact Bearer.mem_works.mpr (Or.inr (Or.inl ⟨_, isOpen, rfl⟩))
  have htasks := Bearer.tasks_close numbered isOpen
  have hdistinct := h.distinct
  rw [htasks, Multiset.map_cons] at hdistinct
  have hpast := (Multiset.nodup_cons.mp hdistinct).1
  refine h.append (Course.concat h.course hnext) (fun work hwork => ?_) ?_ fun live => ?_
  · rcases Bearer.mem_works_send hwork with hold | rfl
    · refine Or.inl ⟨?_, fun task habout => courseOf_singleton_of_ne fun heq => hpast ?_⟩
      · exact Bearer.mem_works_of_close hold
      · exact Multiset.mem_map.mpr ⟨task, Bearer.mem_tasks_of_works hold habout, heq.symm⟩
    · exact Or.inr (hnext.due ready)
  · have hsame := tally_answer Tally.tasks numbered isOpen ready
    rw [← Bearer.tasks_eq, ← Bearer.tasks_eq] at hsame
    rw [hsame]
    exact h.distinct
  · have hstands : b.controller.Stands record := h.stands live
    refine hstands.concat hnext (fun request heq => by cases heq) fun free => ?_
    refine (inOrder live).generation_ne free ?_
    rw [htasks]
    exact Multiset.mem_cons_self _ _

/-- Work that is about no task makes no difference, nor does work that is given up. -/
theorem quiet (h : b.OnRecord s record)
    (works : ∀ work ∈ b'.works, work ∈ b.works ∨ work.task? = none) (tasks : b'.tasks ≤ b.tasks)
    (halt : b'.controller.halt = b.controller.halt)
    (phase : b'.controller.phase = b.controller.phase)
    (connection : b'.controller.connection = b.controller.connection) :
    b'.OnRecord s record := by
  refine ⟨h.course, Multiset.nodup_of_le (Multiset.map_le_map tasks) h.distinct,
    fun work hwork => ?_, fun live => ?_⟩
  · rcases works work hwork with hold | hnone
    · exact h.due work hold
    · exact Work.due_of_no_task hnone
  · rw [Bearer.isHalted, Controller.isHalted, halt] at live
    exact (h.stands live).of_eq phase (by rw [connection]) (by rw [connection])

end Bearer.OnRecord

end

/-! ### Acts -/

namespace Scene

variable {ι : Type} [Interceptor ι] {s : Setting} {record : List Entry}

theorem Change.onRecord {w w' : Scene ι} {act : Act ι} {events : List Event}
    (h : Change w act w' events) (onRecord : w.bearer.OnRecord s record)
    (silent : ∀ call given, act ≠ .answer call given) (quiet : act ≠ .turn) :
    w'.bearer.OnRecord s record := by
  obtain ⟨hworks, htasks⟩ := h.works silent quiet
  rcases h.turned_or_quiet with ⟨mail, rest, r, hturn, -⟩ | hquiet
  · exact absurd hturn quiet
  · exact onRecord.quiet hworks htasks hquiet.halt hquiet.phase hquiet.connection

/-- What comes next on record is what comes next in the courses. -/
theorem onRecord_step {w : Scene Unit} {act : Act Unit} (onRecord : w.bearer.OnRecord s record)
    (numbered : w.bearer.Numbered) (spent : w.controller.Spent)
    (inOrder : w.bearer.isHalted = false → w.bearer.InOrder)
    (technology : w.setting.technology = s.technology)
    (since : w.setting.structuredSince = s.structuredSince)
    (room : w.controller.connection.generation.toNat +
      (w.step act).2.countP Event.isReturn < 2 ^ 64) :
    (w.step act).1.bearer.OnRecord s (record ++ w.entries act) := by
  have hchange := w.change_step act
  by_cases hquiet : act = .turn
  · subst hquiet
    cases hmail : w.controller.mailbox with
    | cons mail rest =>
      have hlive : w.bearer.isHalted = false := spent.live hmail
      obtain ⟨r, -, hrule, hstep⟩ := step_turn hmail
      have inOrder' : r.halt = none → (w.step .turn).1.bearer.InOrder := by
        intro hhalt
        refine hchange.inOrder (inOrder hlive) numbered ?_ room
        rw [hstep]
        exact Controller.live_after_iff.mpr ⟨hhalt, hlive⟩
      rw [hstep] at room inOrder'
      rw [entries, hstep]
      have hproceeds :=
        onRecord.proceeds (inOrder hlive) hlive hmail rfl hrule technology since room
      exact onRecord.after (inOrder hlive) hmail rfl hrule hproceeds inOrder'
    | nil =>
      by_cases hout : w.controller.outbox = []
      · have hstep : w.step .turn = (w, []) := by
          rw [step_turn_of_rest ⟨hmail, hout⟩]
        rw [entries, hstep]
        show w.bearer.OnRecord s (record ++ [])
        rw [List.append_nil]
        exact onRecord
      · rw [entries, step, Bearer.turn_of_nil hmail hout]
        exact onRecord.dispatchAll (b := w.bearer.clearOutbox) rfl inOrder _
  · by_cases hanswer : ∃ call given, act = .answer call given
    · obtain ⟨call, given, rfl⟩ := hanswer
      rcases w.answer_cases call given with
        ⟨hstep, hentries⟩ | ⟨command, mail, hopen, hready, hstep, hentries⟩
      · rw [hstep, hentries, List.append_nil]
        exact onRecord
      · rw [hstep, hentries]
        exact onRecord.answer numbered inOrder hopen hready
    · have hsilent : ∀ call given, act ≠ .answer call given :=
        fun call given heq => hanswer ⟨call, given, heq⟩
      rw [entries_of_silent hsilent hquiet, List.append_nil]
      exact hchange.onRecord onRecord hsilent hquiet

/-! ### Runs -/

/-- In every run whatever is still to be done is what comes next in its course. -/
theorem onRecord_run (s : Setting) (acts : List (Act Unit))
    (entries : idleEntries ((start s ()).run acts).2 < 2 ^ 64) :
    ((start s ()).run acts).1.bearer.OnRecord s ((start s ()).record acts) := by
  induction acts using List.reverseRecOn with
  | nil =>
    refine ⟨fun g => .nothing, Multiset.nodup_zero, fun work hwork => ?_, fun _ => ?_⟩
    · cases hwork
    · refine ⟨fun entry hentry => ?_, fun _ => rfl, fun hup => ?_⟩
      · cases hentry
      · cases hup
  | append_singleton acts act ih =>
    have hbefore := (idleEntries_run_le (start s ()) acts [act]).trans_lt entries
    obtain ⟨htechnology, hsince⟩ := setting_run (start s ()) acts
    rw [run_concat] at entries ⊢
    rw [record_concat]
    exact onRecord_step (ih hbefore) (numbered_run _ acts (Bearer.numbered_start ()))
      (spent_run acts (spent_start s ())) (inOrder_of_start hbefore) htechnology hsince
      (room_run entries)

end Scene

/-! ### Commands -/

/-- What the radio can be told in a course, and what in the course it is told for. -/
inductive Told (s : Setting) (course : List Entry) : List Command → Prop
  | nothing : Told s course []
  | setUp {request : BringUp} {order : SetupOrder} (admitted : .admitted request ∈ course)
    (ordered : s.technology.orderFor? request.accessPoint = some order) :
    Told s course [.setUp order request]
  /-- The radio has failed, and its answer says nothing of the cause. -/
  | lastCause {request : BringUp} {order : SetupOrder} {error : RadioError}
    (admitted : .admitted request ∈ course)
    (ordered : s.technology.orderFor? request.accessPoint = some order)
    (failed : .heard (.setUp order request) (.setUpDone request (.error error)) ∈ course)
    (available : error ≠ .radioNotAvailable)
    (vague : ∀ reply, error = .rejected reply → ¬ s.structuredSince ≤ reply.version) :
    Told s course [.setUp order request, .lastCause request]
  /-- The radio has set up a bearer that is of no use. -/
  | cleanUp {request : BringUp} {order : SetupOrder} {reply : SetupReply}
    (admitted : .admitted request ∈ course)
    (ordered : s.technology.orderFor? request.accessPoint = some order)
    (succeeded : .heard (.setUp order request) (.setUpDone request (.ok reply)) ∈ course)
    (status : reply.status = 0) :
    Told s course [.setUp order request, .release reply.bearerId .unspecified (.cleanUp request)]
  /-- A tear-down has taken the last clients away. -/
  | tearDown {request : BringUp} {order : SetupOrder} {reply : SetupReply} {last : TearDown}
    (admitted : .admitted request ∈ course)
    (ordered : s.technology.orderFor? request.accessPoint = some order)
    (succeeded : .heard (.setUp order request) (.setUpDone request (.ok reply)) ∈ course)
    (status : reply.status = 0) (emptied : .emptied last ∈ course) :
    Told s course
      [.setUp order request, .release reply.bearerId (.ofText last.reason) (.tearDown last)]

namespace Course

variable {s : Setting} {course : List Entry}

theorem ordered {request : BringUp} {order : SetupOrder} (h : Course s course)
    (mem : .told (.setUp order request) ∈ course) :
    s.technology.orderFor? request.accessPoint = some order := by
  induction h with
  | nothing => cases mem
  | next before next ih =>
    rcases List.mem_append.mp mem with hold | hnew
    · exact ih hold
    · rw [← List.mem_singleton.mp hnew] at next
      cases next with
      | orders ordered => exact ordered

theorem asked {request : BringUp} (h : Course s course)
    (mem : .told (.lastCause request) ∈ course) :
    ∃ order error, .heard (.setUp order request) (.setUpDone request (.error error)) ∈ course ∧
      error ≠ .radioNotAvailable ∧
      ∀ reply, error = .rejected reply → ¬ s.structuredSince ≤ reply.version := by
  induction h with
  | nothing => cases mem
  | next before next ih =>
    rcases List.mem_append.mp mem with hold | hnew
    · obtain ⟨order, error, hheard, hcause⟩ := ih hold
      exact ⟨order, error, List.mem_append_left _ hheard, hcause⟩
    · rw [← List.mem_singleton.mp hnew] at next
      cases next with
      | asks _ order available vague => exact ⟨order, _, by simp, available, vague⟩

/-- The radio is told at most two things in a course, the first is to set up a bearer, and there
is a reason for both in the course. -/
theorem told (h : Course s course) : Told s course (course.filterMap Entry.command?) := by
  have hcourse := h
  cases h with
  | nothing => exact .nothing
  | next before next =>
    cases next with
    | admits => exact .nothing
    | orders | hears | empties => exact .setUp (by simp) (hcourse.ordered (by simp))
    | asks request order available vague =>
      exact .lastCause (by simp) (hcourse.ordered (by simp)) (by simp) available vague
    | learns request order error result =>
      obtain ⟨order', error', hheard, available, vague⟩ :=
        hcourse.asked (show Entry.told (.lastCause request) ∈ _ by simp)
      obtain ⟨rfl, rfl⟩ : order' = order ∧ error' = error := by simpa using hheard
      exact .lastCause (by simp) (hcourse.ordered (by simp)) (by simp) available vague
    | cleansUp _ _ status | isClean _ _ status =>
      exact .cleanUp (by simp) (hcourse.ordered (by simp)) (by simp) status
    | releases _ _ status | isReleased _ _ status =>
      exact .tearDown (by simp) (hcourse.ordered (by simp)) (by simp) status (by simp)

end Course

end PacketBearer
