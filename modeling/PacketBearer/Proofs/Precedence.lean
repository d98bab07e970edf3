/-
First come, first served.

Requests wait in three places: those that were put aside, the mailbox and the inbox.  Taken in this
order they make one queue, and nothing that a bearer does changes the order of it: a request is put
aside only from the head of the mailbox, and what was put aside comes back to the front.  It is
essential that a phase puts all requests aside or none, and that a phase which puts none aside has
none put aside.

* `Rule.fate` — what becomes of the request of a piece of mail;
* `inTurn_after`, `inTurn_run` — what is handled and what still waits are the requests in the order
  in which they came, and so are what is completed, what is worked on and what still waits;
* `first_come_first_served` — so requests are handled in that order, and what is completed at all is
  completed in it.
-/
import PacketBearer.Proofs.Delivery
import PacketBearer.Proofs.Tidy

namespace PacketBearer

/-- The requests that were handled and did not have to wait, in the order in which they were. -/
def served (events : List Event) : List RequestId :=
  events.filterMap fun
    | .handled _ request => some request.id
    | _ => none

/-- The requests that were completed, in the order in which they were. -/
def ended (events : List Event) : List RequestId :=
  events.filterMap fun
    | .broughtUp request _ => some (RequestId.bringUp request.number)
    | .tornDown request => some (RequestId.tearDown request.number)
    | _ => none

/-- The requests of a bearer that wait to be handled, in the order in which they will be. -/
def Bearer.queue {ι : Type} (b : Bearer ι) : List RequestId := b.mails.filterMap Mail.asks?

/-- What a bearer works on: nothing, or the request of its current task. -/
inductive Bearer.WorksOn {ι : Type} (b : Bearer ι) : List RequestId → Prop
  | nothing : WorksOn b []
  | request {task : Task} (current : task ∈ b.current) : WorksOn b [task.request.id]

/-- Requests come, and those that are handled and completed, those that the bearer works on and
those that wait in the end are in the order in which they came. -/
structure Bearer.InTurn {ι : Type} (b : Bearer ι) (comers : List RequestId) (events : List Event)
    (b' : Bearer ι) : Prop where
  served : served events ++ b'.queue = b.queue ++ comers
  ended : ∀ work', b'.WorksOn work' → ∃ work, b.WorksOn work ∧
    (ended events ++ (work' ++ b'.queue)).Sublist (work ++ (b.queue ++ comers))

namespace Scene

/-- The request that is made by an act. -/
def arrival {ι : Type} (w : Scene ι) : Act ι → List RequestId
  | .ask wish => (w.mailOf wish).asks?.toList
  | _ => []

/-- The requests that are made in a run, in the order in which they are. -/
def arrivals {ι : Type} [Interceptor ι] (w : Scene ι) : List (Act ι) → List RequestId
  | [] => []
  | act :: acts => w.arrival act ++ (w.step act).1.arrivals acts

end Scene

@[simp] theorem served_append (first second : List Event) :
    served (first ++ second) = served first ++ served second := List.filterMap_append

@[simp] theorem ended_append (first second : List Event) :
    ended (first ++ second) = ended first ++ ended second := List.filterMap_append

theorem served_eq_nil {events : List Event}
    (h : ∀ event ∈ events, ∀ phase request, event ≠ .handled phase request) :
    served events = [] := by
  refine List.filterMap_eq_nil_iff.mpr fun event hevent => ?_
  cases event with
  | handled phase request => exact absurd rfl (h _ hevent phase request)
  | _ => rfl

/-- A phase that is entered ends the request that it begins with, and serves none. -/
theorem ended_lossNotices (s : Setting) (request : TearDown) :
    ended (s.lossNotices request) = [] := by
  refine List.filterMap_eq_nil_iff.mpr fun event hevent => ?_
  obtain ⟨notice, rfl⟩ := notice_of_mem_lossNotices hevent
  rfl

namespace Bearer.InTurn

variable {ι : Type} {b b' b'' : Bearer ι} {comers later : List RequestId} {events more : List Event}

theorem refl (b : Bearer ι) : b.InTurn [] [] b where
  served := (List.append_nil _).symm
  ended := fun work hworks => ⟨work, hworks, by rw [List.append_nil]; exact List.Sublist.refl _⟩

theorem of_nobody
    (h : PacketBearer.served events ++ b'.queue = b.queue ∧ ∀ work', b'.WorksOn work' →
      ∃ work, b.WorksOn work ∧
        (PacketBearer.ended events ++ (work' ++ b'.queue)).Sublist (work ++ b.queue)) :
    b.InTurn [] events b' := by
  refine ⟨?_, ?_⟩
  · rw [List.append_nil]
    exact h.1
  · rw [List.append_nil]
    exact h.2

theorem trans (h : b.InTurn comers events b') (h' : b'.InTurn later more b'') :
    b.InTurn (comers ++ later) (events ++ more) b'' := by
  refine ⟨?_, fun work'' hworks => ?_⟩
  · rw [served_append, List.append_assoc, h'.served, ← List.append_assoc, h.served,
      List.append_assoc]
  · obtain ⟨work', hworks', hlater⟩ := h'.ended work'' hworks
    obtain ⟨work, hwork, hnow⟩ := h.ended work' hworks'
    refine ⟨work, hwork, ?_⟩
    calc (PacketBearer.ended (events ++ more) ++ (work'' ++ b''.queue)).Sublist
          (PacketBearer.ended events ++ (work' ++ (b'.queue ++ later))) := by
            rw [ended_append, List.append_assoc]
            exact List.Sublist.append_left hlater _
      _ = (PacketBearer.ended events ++ (work' ++ b'.queue)) ++ later := by
            simp only [List.append_assoc]
      List.Sublist _ ((work ++ (b.queue ++ comers)) ++ later) := List.Sublist.append_right hnow _
      _ = work ++ (b.queue ++ (comers ++ later)) := by simp only [List.append_assoc]

end Bearer.InTurn

/-! ### What becomes of a request -/

section

variable {ι : Type} [Interceptor ι] {s : Setting}

/-- A request is brought to its end by a reaction, or it is handed over to a task. -/
def Settles (s : Setting) (m : Controller ι) (mail : Mail) (r : Reaction ι) (id : RequestId) :
    Prop :=
  ended (m.after s mail r).2 = [id] ∧ Tally.tasks.ofReaction mail r = 0 ∨
    ended (m.after s mail r).2 = [] ∧
      ∃ task, Tally.tasks.ofReaction mail r = {task} ∧ task.request.id = id

/-- What becomes of the request of a piece of mail. -/
inductive Fate (s : Setting) (m : Controller ι) (mail : Mail) (r : Reaction ι) : Prop
  /-- It has to wait. -/
  | waits (busy : m.phase.isBusy = true) (request : mail.isRequest = true)
    (reaction : r = wait m.connection m.interceptor mail)
  /-- It is handled. -/
  | serves {id : RequestId} (free : m.phase.isBusy = false) (asks : mail.asks? = some id)
    (stays : r.waits = false) (served : served (m.after s mail r).2 = [id])
    (settles : Settles s m mail r id)
  /-- It was worked on, and the answer has come. -/
  | answers {task : Task} (reports : mail.task? = some task)
    (current : task.generation = m.connection.generation)
    (stays : r.waits = false) (served : served (m.after s mail r).2 = [])
    (settles : Settles s m mail r task.request.id)
  /-- There is none that would count. -/
  | passes (neutral : mail.asks? = none) (stays : r.waits = false)
    (served : served (m.after s mail r).2 = []) (ended : ended (m.after s mail r).2 = [])
    (issued : Tally.tasks.ofReaction mail r = 0)

theorem Rule.fate {m : Controller ι} {mail : Mail} {r : Reaction ι}
    (h : Rule s m.connection m.interceptor m.phase mail r) (halt : r.halt = none) :
    Fate s m mail r := by
  obtain ⟨phase, c, i, mailbox, deferred, outbox, halted⟩ := m
  cases h with
  | waits busy request => exact .waits busy request rfl
  | impossible | stops => cases halt
  | @intercepted request order reply i' ordered caught =>
    refine .serves rfl rfl rfl rfl (Or.inr ⟨rfl, .setUp (request.stamped c), ?_, rfl⟩)
    simp [Tally.ofReaction, Mail.task?]
  | @ordered request order i' ordered passed =>
    refine .serves rfl rfl rfl rfl (Or.inr ⟨rfl, .setUp (request.stamped c), ?_, rfl⟩)
    simp [Tally.ofReaction, Command.task]
  | joins | vacuous | strange | leaves => exact .serves rfl rfl rfl rfl (Or.inl ⟨rfl, rfl⟩)
  | @releases request last =>
    refine .serves rfl rfl rfl rfl (Or.inr ⟨rfl, .release (.tearDown (request.stamped c)), ?_, rfl⟩)
    simp [Tally.ofReaction, Command.task]
  | fails setback current =>
    cases setback <;> exact .answers rfl current rfl rfl (Or.inl ⟨rfl, rfl⟩)
  | @asks request error available vague current =>
    refine .answers rfl current rfl rfl (Or.inr ⟨rfl, .lastCause request, ?_, rfl⟩)
    simp [Tally.ofReaction, Command.task]
  | accepts status agreed current => exact .answers rfl current rfl rfl (Or.inl ⟨rfl, rfl⟩)
  | @refuses request reply rejection status refused current =>
    refine .answers rfl current rfl rfl (Or.inr ⟨rfl, .release (.cleanUp request), ?_, rfl⟩)
    simp [Tally.ofReaction, Command.task]
  | @released _ purpose awaited current =>
    cases purpose with
    | tearDown request =>
      have hserved : served (s.lossNotices request) = [] := by
        refine served_eq_nil fun event hevent phase other heq => ?_
        subst heq
        obtain ⟨notice, hnotice⟩ := notice_of_mem_lossNotices hevent
        cases hnotice
      have hended := ended_lossNotices s request
      refine .answers rfl current rfl hserved (Or.inl ⟨?_, rfl⟩)
      exact congrArg (RequestId.tearDown request.number :: ·) hended
    | cleanUp request => exact .answers rfl current rfl rfl (Or.inl ⟨rfl, rfl⟩)
  | ignores reports stale =>
    cases mail with
    | setUpDone | lastCauseDone | releaseDone => exact .passes rfl rfl rfl rfl rfl
    | _ => cases reports
  | hears | answers | resets => exact .passes rfl rfl rfl rfl rfl

/-- A reaction that halts the bearer serves and ends nothing. -/
theorem Rule.silent_of_halt {m : Controller ι} {mail : Mail} {r : Reaction ι}
    (h : Rule s m.connection m.interceptor m.phase mail r) (halt : r.halt ≠ none) :
    served (m.after s mail r).2 = [] ∧ ended (m.after s mail r).2 = [] := by
  have hdropped : served (m.requests.map Event.dropped) = [] ∧
      ended (m.requests.map Event.dropped) = [] := by
    refine ⟨List.filterMap_eq_nil_iff.mpr fun event hevent => ?_,
      List.filterMap_eq_nil_iff.mpr fun event hevent => ?_⟩
    · obtain ⟨request, -, rfl⟩ := List.mem_map.mp hevent
      rfl
    · obtain ⟨request, -, rfl⟩ := List.mem_map.mp hevent
      rfl
  obtain ⟨halt', hhalt⟩ := Option.ne_none_iff_exists'.mp halt
  have hevents : (m.after s mail r).2 = r.events ++ m.requests.map Event.dropped := by
    rw [Controller.after, hhalt]
  have hown : served r.events = [] ∧ ended r.events = [] := by
    generalize m.phase = p at h
    cases h with
    | impossible | stops => exact ⟨rfl, rfl⟩
    | _ => exact absurd rfl halt
  rw [hevents, served_append, ended_append, hown.1, hown.2, hdropped.1, hdropped.2]
  exact ⟨rfl, rfl⟩

/-! ### The queue -/

omit [Interceptor ι] in
theorem queue_first {b : Bearer ι} {mail : Mail} {rest : List Mail}
    (first : b.controller.mailbox = mail :: rest)
    (free : mail.asks? = none ∨ b.controller.deferred = []) :
    b.queue = mail.asks?.toList ++ (b.withController (b.controller.withMailbox rest)).queue := by
  rcases free with hnone | hdeferred
  · simp [Bearer.queue, Bearer.mails, Bearer.withController, Controller.withMailbox, first, hnone]
  · cases hasks : mail.asks? with
    | none =>
      simp [Bearer.queue, Bearer.mails, Bearer.withController, Controller.withMailbox, first, hasks]
    | some id =>
      simp [Bearer.queue, Bearer.mails, Bearer.withController, Controller.withMailbox, first, hasks,
        hdeferred]

omit [Interceptor ι] in
/-- Mail that waits keeps its place in the queue. -/
theorem queue_wait {b : Bearer ι} {mail : Mail} {rest : List Mail}
    (first : b.controller.mailbox = mail :: rest) (c : Connection) (i : ι) :
    (b.withController ((b.controller.withMailbox rest).after s mail (wait c i mail)).1).queue =
      b.queue := by
  simp [Bearer.queue, Bearer.mails, Bearer.withController, Controller.withMailbox,
    Controller.after, Controller.absorb, wait, first]

/-- Mail that does not have to wait leaves the rest of the queue as it is. -/
theorem Rule.queue_after {b : Bearer ι} {mail : Mail} {r : Reaction ι} {m : Controller ι}
    (h : Rule s m.connection m.interceptor m.phase mail r) (halt : r.halt = none)
    (stays : r.waits = false) :
    (b.withController (m.after s mail r).1).queue = (b.withController m).queue := by
  have hposts : r.posts.filterMap Mail.asks? = [] := by
    refine List.filterMap_eq_nil_iff.mpr fun post hpost => ?_
    have hanswer := h.isAnswer_of_mem_posts hpost
    cases post <;> first | rfl | cases hanswer
  rw [Controller.after, halt]
  cases hnext : r.next with
  | none =>
    simp [Bearer.queue, Bearer.mails, Bearer.withController, Controller.absorb, stays, hposts]
  | some next =>
    simp [Bearer.queue, Bearer.mails, Bearer.withController, Controller.move, Controller.absorb,
      stays, hposts]

/-- What is current after a reaction was current before it, or has been issued by it. -/
theorem Rule.current_after {b : Bearer ι} {m : Controller ι} {mail : Mail} {r : Reaction ι}
    {task : Task} (h : Rule s m.connection m.interceptor m.phase mail r) (halt : r.halt = none)
    (inOrder : (b.withController (m.after s mail r).1).InOrder)
    (mem : task ∈ (b.withController (m.after s mail r).1).current) :
    task ∈ (b.withController m).current ∨ task ∈ Tally.tasks.ofReaction mail r := by
  by_cases hidle : ∃ arrival, r.next = some (.idle, arrival)
  · -- nothing is current for a bearer that has just become idle
    obtain ⟨arrival, hnext⟩ := hidle
    have hphase : (m.after s mail r).1.phase = .idle := by rw [Controller.after, halt, hnext]; rfl
    have hfits := inOrder.fits
    rw [show (b.withController _).controller.phase = _ from hphase] at hfits
    rw [hfits.1] at mem
    exact absurd mem (Multiset.notMem_zero task)
  · rw [Bearer.current, ofGeneration, Multiset.mem_filter, b.tasks_after s m mail halt] at mem
    obtain ⟨hmem, hgeneration⟩ := mem
    refine (Multiset.mem_add.mp hmem).imp_left fun hother => ?_
    refine Multiset.mem_filter.mpr ⟨hother, hgeneration.trans ?_⟩
    exact h.generation_stays fun arrival hnext => hidle ⟨arrival, hnext⟩

/-- A bearer that has nothing else to work on has a request to work on after a reaction only if it
has not been brought to its end. -/
theorem Settles.sublist {b : Bearer ι} {m : Controller ι} {mail : Mail} {r : Reaction ι}
    {id : RequestId} (h : Settles s m mail r id)
    (hrule : Rule s m.connection m.interceptor m.phase mail r) (halt : r.halt = none)
    (inOrder : (b.withController (m.after s mail r).1).InOrder)
    (free : (b.withController m).current = 0)
    {work : List RequestId} (works : (b.withController (m.after s mail r).1).WorksOn work) :
    (ended (m.after s mail r).2 ++ work).Sublist [id] := by
  have alone : ∀ task ∈ (b.withController (m.after s mail r).1).current,
      task ∈ Tally.tasks.ofReaction mail r := by
    intro task htask
    refine (hrule.current_after halt inOrder htask).resolve_left ?_
    rw [free]
    exact Multiset.notMem_zero task
  rcases h with ⟨hended, hnone⟩ | ⟨hended, only, honly, rfl⟩
  · rw [hended]
    cases works with
    | nothing => exact List.Sublist.refl _
    | @request task current =>
      have hmem := alone task current
      rw [hnone] at hmem
      exact absurd hmem (Multiset.notMem_zero task)
  · rw [hended, List.nil_append]
    cases works with
    | nothing => exact List.nil_sublist _
    | @request task current =>
      have hmem := alone task current
      rw [honly, Multiset.mem_singleton] at hmem
      rw [hmem]

/-- A reaction leaves everybody in turn. -/
theorem inTurn_after {b : Bearer ι} {mail : Mail} {rest : List Mail} {r : Reaction ι}
    {m : Controller ι} (inOrder : b.InOrder) (first : b.controller.mailbox = mail :: rest)
    (hm : m = b.controller.withMailbox rest)
    (hrule : Rule s m.connection m.interceptor m.phase mail r) (halt : r.halt = none)
    (inOrder' : (b.withController (m.after s mail r).1).InOrder) :
    b.InTurn [] (m.after s mail r).2 (b.withController (m.after s mail r).1) := by
  refine Bearer.InTurn.of_nobody ?_
  have hcurrent : b.current =
      ofGeneration m.connection.generation (Tally.tasks.ofMail mail) +
        (b.withController m).current := by
    rw [Bearer.current, Bearer.tasks_first first, ofGeneration_add, hm]
    rfl
  -- where nothing is issued, the bearer works on what it has worked on before
  have hkeeps : Tally.tasks.ofReaction mail r = 0 → ∀ work',
      (b.withController (m.after s mail r).1).WorksOn work' → b.WorksOn work' := by
    intro hnone work' hworks
    cases hworks with
    | nothing => exact .nothing
    | @request task current =>
      rcases hrule.current_after halt inOrder' current with hold | hissued
      · refine .request ?_
        rw [hcurrent]
        exact Multiset.mem_add.mpr (Or.inr hold)
      · rw [hnone] at hissued
        exact absurd hissued (Multiset.notMem_zero task)
  have hfits : Fits m.connection m.deferred b.current m.phase := by
    rw [hm]
    exact inOrder.fits
  cases hrule.fate halt with
  | waits busy request reaction =>
    have hnone : Tally.tasks.ofReaction mail r = 0 := by
      rw [reaction]
      simp [Tally.ofReaction, wait, Mail.task?_of_isRequest request]
    have hqueue : (b.withController (m.after s mail r).1).queue = b.queue := by
      rw [reaction, hm]
      exact queue_wait first _ _
    have hserved : served (m.after s mail r).2 = [] := by rw [reaction]; rfl
    have hended : ended (m.after s mail r).2 = [] := by rw [reaction]; rfl
    rw [hserved, hended, hqueue]
    exact ⟨rfl, fun work' hworks => ⟨work', hkeeps hnone work' hworks, List.Sublist.refl _⟩⟩
  | @serves id free asks stays hserved settles =>
    -- a phase in which requests are handled has none put aside, and nothing to work on
    obtain ⟨hidle, hdeferred⟩ := hfits.current_eq_zero free
    have hqueue := queue_first first (Or.inr (by rw [← hdeferred, hm]; rfl))
    rw [asks, ← hm, ← hrule.queue_after halt stays] at hqueue
    rw [hserved, hqueue]
    rw [hcurrent] at hidle
    have hfree : (b.withController m).current = 0 :=
      Multiset.le_zero.mp (hidle ▸ Multiset.le_add_left _ _)
    refine ⟨rfl, fun work' hworks => ⟨[], .nothing, ?_⟩⟩
    rw [← List.append_assoc]
    exact (settles.sublist hrule halt inOrder' hfree hworks).append_right _
  | @answers task reports current stays hserved settles =>
    have hneutral : mail.asks? = none := by
      cases mail with
      | bringUp | tearDown => cases reports
      | _ => rfl
    rw [Tally.tasks_ofMail_some reports, ofGeneration_singleton current] at hcurrent
    rw [hcurrent] at hfits
    have hqueue := queue_first first (Or.inl hneutral)
    rw [hneutral, ← hm, ← hrule.queue_after halt stays] at hqueue
    rw [hserved, hqueue]
    refine ⟨rfl, fun work' hworks => ⟨[task.request.id], .request ?_, ?_⟩⟩
    · rw [hcurrent]
      exact Multiset.mem_add.mpr (Or.inl (Multiset.mem_singleton_self task))
    · rw [← List.append_assoc]
      exact (settles.sublist hrule halt inOrder' hfits.awaits.2 hworks).append_right _
  | passes neutral stays hserved hended issued =>
    have hqueue := queue_first first (Or.inl neutral)
    rw [neutral, ← hm, ← hrule.queue_after halt stays] at hqueue
    rw [hserved, hended, hqueue]
    exact ⟨rfl, fun work' hworks => ⟨work', hkeeps issued work' hworks, List.Sublist.refl _⟩⟩

end

/-! ### Acts -/

namespace Scene

variable {ι : Type} [Interceptor ι] {w w' : Scene ι} {act : Act ι} {events : List Event}

/-- Where nothing is handled and nobody asks for anything, the queue stays as it is. -/
theorem Change.queue (h : Change w act w' events) (silent : ∀ wish, act ≠ .ask wish)
    (live : w.bearer.isHalted = false)
    (turned : ¬ ∃ mail rest r, Turned w act w' events mail rest r) :
    w'.bearer.queue = w.bearer.queue := by
  cases h with
  | asked wish => exact absurd rfl (silent wish)
  | refused first halted => exact absurd halted (Bool.eq_false_iff.mp live)
  | handled first rule => exact absurd ⟨_, _, _, ⟨rfl, first, rule, rfl, rfl⟩⟩ turned
  | taken first resting =>
    simp [Bearer.queue, Bearer.mails, Bearer.withController, Bearer.withInbox, Controller.post,
      first]
  | dispatched empty =>
    obtain ⟨purposes, hcontroller⟩ :=
      Bearer.controller_dispatchAll w.setting w.bearer.clearOutbox w.controller.outbox
    have hinbox := Bearer.inbox_dispatchAll w.setting w.bearer.clearOutbox w.controller.outbox
    have hposts : (purposes.map Mail.releaseDone).filterMap Mail.asks? = [] := by
      refine List.filterMap_eq_nil_iff.mpr fun post hpost => ?_
      obtain ⟨purpose, -, rfl⟩ := List.mem_map.mp hpost
      rfl
    rw [Bearer.queue, Bearer.mails, hcontroller, hinbox]
    simp [Bearer.queue, Bearer.mails, Bearer.clearOutbox, hposts]
  | @answered call given command answer isOpen ready =>
    have hanswer : answer.asks? = none := by
      have htask := Command.task?_completion ready
      cases answer with
      | bringUp | tearDown => cases htask
      | _ => rfl
    simp [Bearer.queue, Bearer.mails, send, Bearer.send, Bearer.close, hanswer]
  | heard =>
    simp [Bearer.queue, Bearer.mails, withController, Bearer.withController, Controller.post,
      List.filterMap_cons_none (show (Mail.radioConnected _).asks? = none from rfl)]
  | inquired | stopSent => simp [Bearer.queue, Bearer.mails, send, Bearer.send, Mail.asks?]
  | still | switched | trackerClosed | rearmed => rfl

/-- Where nothing is handled, who asks for something is the last in the queue. -/
theorem queue_step (live : w.bearer.isHalted = false)
    (turned : ¬ ∃ mail rest r, Turned w act (w.step act).1 (w.step act).2 mail rest r) :
    (w.step act).1.bearer.queue = w.bearer.queue ++ w.arrival act := by
  by_cases hasks : ∃ wish, act = .ask wish
  · obtain ⟨wish, rfl⟩ := hasks
    cases wish <;> simp [step, arrival, count, send, Bearer.send, Bearer.queue, Bearer.mails,
      mailOf, Mail.asks?]
  · have hsilent : ∀ wish, act ≠ .ask wish := fun wish heq => hasks ⟨wish, heq⟩
    have hnobody : w.arrival act = [] := by
      cases act with
      | ask wish => exact absurd rfl (hsilent wish)
      | _ => rfl
    rw [hnobody, List.append_nil]
    exact (w.change_step act).queue hsilent live turned

omit [Interceptor ι] in
/-- Where nothing is handled, no request is served or ended. -/
theorem Quiet.silent (h : Quiet w w' events) : served events = [] ∧ ended events = [] := by
  refine ⟨List.filterMap_eq_nil_iff.mpr fun event hevent => ?_,
    List.filterMap_eq_nil_iff.mpr fun event hevent => ?_⟩
  · rcases h.events event hevent with ⟨call, command, rfl⟩ | ⟨-, request, rfl⟩
    · rfl
    · rfl
  · rcases h.events event hevent with ⟨call, command, rfl⟩ | ⟨-, request, rfl⟩
    · rfl
    · rfl

/-- Every act leaves everybody in turn. -/
theorem inTurn_step (inOrder : w.bearer.InOrder) (numbered : w.bearer.Numbered)
    (live : (w.step act).1.bearer.isHalted = false)
    (room : w.controller.connection.generation.toNat +
      (w.step act).2.countP Event.isReturn < 2 ^ 64) :
    w.bearer.InTurn (w.arrival act) (w.step act).2 (w.step act).1.bearer := by
  have hchange := w.change_step act
  have inOrder' := hchange.inOrder inOrder numbered live room
  by_cases hturned : ∃ mail rest r, Turned w act (w.step act).1 (w.step act).2 mail rest r
  · obtain ⟨mail, rest, r, rfl, first, hrule, hscene, hevents⟩ := hturned
    rw [hscene] at live inOrder' ⊢
    rw [hevents]
    exact inTurn_after inOrder first rfl hrule (Controller.live_after_iff.mp live).1 inOrder'
  · obtain ⟨hquiet, htasks⟩ :=
      (hchange.turned_or_tasks numbered (hchange.live live)).resolve_left hturned
    obtain ⟨hserved, hended⟩ := hquiet.silent
    have hqueue := queue_step (hchange.live live) hturned
    refine ⟨by rw [hserved, hqueue, List.nil_append], fun work hworks => ⟨work, ?_, ?_⟩⟩
    · cases hworks with
      | nothing => exact .nothing
      | request current =>
        refine .request ?_
        rw [Bearer.current, htasks, hquiet.connection] at current
        exact current
    · rw [hended, hqueue]
      exact List.Sublist.refl _

/-! ### Runs -/

/-- Requests that wait, and that a bearer works on, are in turn as long as the bearer works. -/
theorem inTurn_run {w : Scene ι} {acts : List (Act ι)} (inOrder : w.bearer.InOrder)
    (numbered : w.bearer.Numbered)
    (room : w.controller.connection.generation.toNat +
      (w.run acts).2.countP Event.isReturn < 2 ^ 64)
    (live : (w.run acts).1.bearer.isHalted = false) :
    w.bearer.InTurn (w.arrivals acts) (w.run acts).2 (w.run acts).1.bearer := by
  induction acts generalizing w with
  | nil => exact .refl w.bearer
  | cons act acts ih =>
    have hchange := w.change_step act
    rw [run_cons] at room live ⊢
    have hnow : w.controller.connection.generation.toNat +
        (w.step act).2.countP Event.isReturn < 2 ^ 64 := by
      rw [List.countP_append] at room
      omega
    have hfirst := inTurn_step inOrder numbered (live_run live) hnow
    have hnext := hchange.inOrder inOrder numbered (live_run live) hnow
    exact hfirst.trans (ih hnext (hchange.numbered numbered) (hchange.room room) live)

/-- A bearer that halts serves and ends nothing by that, nor afterwards. -/
theorem Change.silent (h : Change w act w' events) (spent : w.controller.Spent)
    (halted : w'.bearer.isHalted = true) : served events = [] ∧ ended events = [] := by
  rcases h.turned_or_quiet with ⟨mail, rest, r, -, first, hrule, rfl, rfl⟩ | hquiet
  · have hlive : (w.controller.withMailbox rest).isHalted = false := spent.live first
    refine hrule.silent_of_halt (m := w.controller.withMailbox rest) fun hnone => ?_
    exact Bool.eq_false_iff.mp (Controller.live_after_iff.mpr ⟨hnone, hlive⟩) halted
  · exact hquiet.silent

/-- All that a bearer serves and ends in a run it does before it halts. -/
theorem exists_live {w : Scene ι} (acts : List (Act ι)) (spent : w.controller.Spent)
    (live : w.bearer.isHalted = false) :
    ∃ earlier later, acts = earlier ++ later ∧ (w.run earlier).1.bearer.isHalted = false ∧
      served (w.run acts).2 = served (w.run earlier).2 ∧
        ended (w.run acts).2 = ended (w.run earlier).2 := by
  induction acts using List.reverseRecOn with
  | nil => exact ⟨[], [], rfl, live, rfl, rfl⟩
  | append_singleton acts act ih =>
    have hchange := (w.run acts).1.change_step act
    cases hlast : (w.run (acts ++ [act])).1.bearer.isHalted with
    | false => exact ⟨acts ++ [act], [], (List.append_nil _).symm, hlast, rfl, rfl⟩
    | true =>
      obtain ⟨earlier, later, rfl, hearlier, hserved, hended⟩ := ih
      rw [run_concat] at hlast ⊢
      obtain ⟨hnone, hnone'⟩ := hchange.silent (spent_run _ spent) hlast
      refine ⟨earlier, later ++ [act], List.append_assoc _ _ _, hearlier, ?_, ?_⟩
      · rw [served_append, hnone, List.append_nil, hserved]
      · rw [ended_append, hnone', List.append_nil, hended]

theorem arrivals_append (w : Scene ι) (first second : List (Act ι)) :
    w.arrivals (first ++ second) = w.arrivals first ++ (w.run first).1.arrivals second := by
  induction first generalizing w with
  | nil => rfl
  | cons act first ih =>
    rw [List.cons_append, arrivals, arrivals, ih, List.append_assoc]
    rfl

/-- The requests that come are those that are made. -/
theorem issued_step (w : Scene ι) (act : Act ι) :
    (w.step act).1.issued = w.issued + ↑(w.arrival act) := by
  have silent : ∀ {act : Act ι} {w' : Scene ι} {events : List Event}, Change w act w' events →
      (∀ wish, act ≠ .ask wish) → w'.issued = w.issued + ((0 : Multiset RequestId)) := by
    intro act w' events h hsilent
    rw [add_zero]
    cases h with
    | asked wish => exact absurd rfl (hsilent wish)
    | _ => rfl
  have hchange := w.change_step act
  cases act with
  | ask wish =>
    refine (issued_ask w wish).trans ?_
    cases wish <;> rfl
  | _ => exact silent hchange fun wish heq => by cases heq

theorem issued_run (w : Scene ι) (acts : List (Act ι)) :
    (w.run acts).1.issued = w.issued + ↑(w.arrivals acts) := by
  induction acts generalizing w with
  | nil => exact (add_zero _).symm
  | cons act acts ih =>
    rw [run_cons, arrivals, ih, issued_step, add_assoc, Multiset.coe_add]

/-- No request comes twice. -/
theorem nodup_arrivals (s : Setting) (i : ι) (acts : List (Act ι)) :
    ((start s i).arrivals acts).Nodup := by
  have hissued := issued_run (start s i) acts
  rw [show (start s i).issued = 0 from rfl, zero_add] at hissued
  have hnodup := nodup_issued ((start s i).run acts).1
  rw [hissued] at hnodup
  exact hnodup

end Scene

/-- In a list without repetitions two things come in one order only. -/
theorem not_sublist_swap {α : Type} {all : List α} {i j : α} (nodup : all.Nodup)
    (h : [i, j].Sublist all) : ¬ [j, i].Sublist all := by
  induction all with
  | nil => cases h
  | cons first all ih =>
    obtain ⟨hfirst, hnodup⟩ := List.nodup_cons.mp nodup
    intro h'
    cases h with
    | cons _ h =>
      cases h' with
      | cons _ h' => exact ih hnodup h h'
      | cons_cons _ h' => exact hfirst (h.subset (by simp))
    | cons_cons _ h =>
      cases h' with
      | cons _ h' => exact hfirst (h'.subset (by simp))
      | cons_cons _ h' => exact hfirst (List.singleton_sublist.mp h')

/-- Of two things in a part of a list without repetitions, the first one in the list is the first
one in the part. -/
theorem sublist_of_mem {α : Type} {part all : List α} {i j : α} (nodup : all.Nodup)
    (h : part.Sublist all) (hi : i ∈ part) (hj : j ∈ part) (hij : [i, j].Sublist all) :
    [i, j].Sublist part := by
  obtain ⟨before, behind, rfl⟩ := List.append_of_mem hi
  have hne : j ≠ i := by
    rintro rfl
    exact absurd hij (not_sublist_swap nodup hij)
  rcases List.mem_append.mp hj with hbefore | hbehind
  · have hswap : [j, i].Sublist (before ++ i :: behind) :=
      (List.singleton_sublist.mpr hbefore).append (List.singleton_sublist.mpr List.mem_cons_self)
    exact absurd (hswap.trans h) (not_sublist_swap nodup hij)
  · have hlater : j ∈ behind := (List.mem_cons.mp hbehind).resolve_left hne
    exact ((List.singleton_sublist.mpr hlater).cons_cons i).trans (List.sublist_append_right _ _)

/-- First come, first served.  Whatever happens, requests are handled in the order in which they
come, and as long as the bearer works those that are not handled yet wait in this order.  The
requests that are completed are completed in the order in which they came. -/
theorem first_come_first_served {ι : Type} [Interceptor ι] (s : Setting) (i : ι)
    (acts : List (Act ι)) (entries : idleEntries ((Scene.start s i).run acts).2 < 2 ^ 64) :
    ((Scene.start s i).arrivals acts).Nodup ∧
    served ((Scene.start s i).run acts).2 <+: (Scene.start s i).arrivals acts ∧
    (((Scene.start s i).run acts).1.bearer.isHalted = false →
      served ((Scene.start s i).run acts).2 ++ ((Scene.start s i).run acts).1.bearer.queue =
        (Scene.start s i).arrivals acts) ∧
    (ended ((Scene.start s i).run acts).2).Sublist ((Scene.start s i).arrivals acts) ∧
    ∀ first second, [first, second].Sublist ((Scene.start s i).arrivals acts) →
      first ∈ ended ((Scene.start s i).run acts).2 →
      second ∈ ended ((Scene.start s i).run acts).2 →
        [first, second].Sublist (ended ((Scene.start s i).run acts).2) := by
  have inTurn : ∀ {earlier later : List (Act ι)}, acts = earlier ++ later →
      ((Scene.start s i).run earlier).1.bearer.isHalted = false →
        (Scene.start s i).bearer.InTurn ((Scene.start s i).arrivals earlier)
          ((Scene.start s i).run earlier).2 ((Scene.start s i).run earlier).1.bearer := by
    rintro earlier later rfl live
    have hbefore := (Scene.idleEntries_run_le _ earlier later).trans_lt entries
    exact Scene.inTurn_run (Bearer.inOrder_start i) (Bearer.numbered_start i)
      (Scene.room_start hbefore) live
  have hnodup := Scene.nodup_arrivals s i acts
  obtain ⟨earlier, later, hacts, hlive, hserved, hended⟩ :=
    Scene.exists_live acts (Scene.spent_start s i) rfl
  have hturn := inTurn hacts hlive
  have harrivals : (Scene.start s i).arrivals earlier <+: (Scene.start s i).arrivals acts := by
    rw [hacts, Scene.arrivals_append]
    exact List.prefix_append _ _
  have hsublist : (ended ((Scene.start s i).run acts).2).Sublist
      ((Scene.start s i).arrivals acts) := by
    rw [hended]
    obtain ⟨work, hworks, hwork⟩ := hturn.ended [] .nothing
    refine (List.sublist_append_left _ _).trans (hwork.trans ?_)
    cases hworks with
    | nothing => exact harrivals.sublist
    | request current => exact absurd current (Multiset.notMem_zero _)
  refine ⟨hnodup, ?_, fun live => ?_, hsublist, fun first second hcome hfirst hsecond => ?_⟩
  · have hprefix : served ((Scene.start s i).run earlier).2 <+:
        (Scene.start s i).arrivals earlier :=
      ⟨_, hturn.served⟩
    rw [hserved]
    exact hprefix.trans harrivals
  · exact (inTurn (List.append_nil acts).symm live).served
  · exact sublist_of_mem hnodup hsublist hfirst hsecond hcome

/-- A bring-up and a tear-down wait for an attempt that is then reset. -/
def patience : List (Act Unit) :=
  [.ask (.bringUp "a" {}), .take, .turn, .turn, .ask (.bringUp "b" {}), .take, .turn,
    .ask (.tearDown (some "b") "done"), .take, .turn, .inquire .reset, .take, .turn, .turn, .turn,
    .turn, .answer 1 { setUp := some (.ok plainReply) }, .take, .turn, .turn, .turn,
    .answer 2 { release := some (.ok ()) }, .take, .turn]

/-- All three are handled in turn, and the first of them is never completed. -/
theorem first_come_first_served_patience :
    (served ((Scene.start .cellular ()).run patience).2 = [.bringUp 0, .bringUp 1, .tearDown 0] ∧
      ended ((Scene.start .cellular ()).run patience).2 = [.bringUp 1, .tearDown 0] ∧
      idleEntries ((Scene.start .cellular ()).run patience).2 < 2 ^ 64) ∧
    (ended ((Scene.start .cellular ()).run patience).2).Sublist
      ((Scene.start .cellular ()).arrivals patience) :=
  ⟨⟨by decide, by decide, by decide⟩,
    (first_come_first_served .cellular () patience (by decide)).2.2.2.1⟩

end PacketBearer
