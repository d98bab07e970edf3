/-
What is put on record, and what is still to be done.

The admission of a request, each command to the radio, each answer of the radio and the tear-down
that takes the last clients away are put on record as they come.  The record is read off the events
and the answers of the radio; a bearer knows nothing of it.

* `Bearer.works` — the commands, calls and mail that are still to be seen to;
* `mem_works_after`, `Change.works` — work comes up only by a reaction, a call or an answer;
* `answer_cases`, `entries_of_silent` — and only then there is something to put on record;
* `record_concat` — the record of a run grows with its last act.
-/
import PacketBearer.Proofs.Tidy

namespace PacketBearer

/-! ### The record -/

/-- What is put on record. -/
inductive Entry where
  /-- A request was admitted: an attempt begins. -/
  | admitted (request : BringUp)
  /-- The radio was given a command. -/
  | told (command : Command)
  /-- The radio has answered a command, with this mail to the bearer. -/
  | heard (command : Command) (answer : Mail)
  /-- A tear-down has taken the last clients away. -/
  | emptied (request : TearDown)

/-- The generation that an entry is about. -/
def Entry.generation : Entry → UInt64
  | admitted request => request.generation
  | told command | heard command _ => command.task.generation
  | emptied request => request.generation

/-- The entry for an event.  A request that a bearer which is up carries out at once leaves somebody
on its roster. -/
def Event.entry? (emptied : Bool) : Event → Option Entry
  | .handled .idle (.bringUp request) => some (.admitted request)
  | .handled .up (.tearDown request) => if emptied then some (.emptied request) else none
  | .called _ command => some (.told command)
  | _ => none

/-- The entries about a generation. -/
def courseOf (generation : UInt64) (record : List Entry) : List Entry :=
  record.filter (·.generation = generation)

namespace Scene

variable {ι : Type} [Interceptor ι]

/-- The entry for an answer of the radio. -/
def hearing (w : Scene ι) : Act ι → List Entry
  | .answer call given =>
    match w.bearer.openCalls.find? fun c => c.1 == call with
    | none => []
    | some (_, command) => ((command.completion? given).map (Entry.heard command)).toList
  | _ => []

/-- What is put on record at an act. -/
def entries (w : Scene ι) (act : Act ι) : List Entry :=
  w.hearing act ++
    (w.step act).2.filterMap (Event.entry? (w.step act).1.controller.connection.clients.isEmpty)

/-- What is put on record in a run. -/
def record (w : Scene ι) : List (Act ι) → List Entry
  | [] => []
  | act :: acts => w.entries act ++ (w.step act).1.record acts

end Scene

/-- The command that the radio is given. -/
def Entry.command? : Entry → Option Command
  | told command => some command
  | _ => none

@[simp] theorem courseOf_nil (g : UInt64) : courseOf g [] = [] := rfl

@[simp] theorem courseOf_append (g : UInt64) (first second : List Entry) :
    courseOf g (first ++ second) = courseOf g first ++ courseOf g second :=
  List.filter_append _ _

theorem courseOf_singleton {g : UInt64} {entry : Entry} (h : entry.generation = g) :
    courseOf g [entry] = [entry] := by
  simp [courseOf, h]

theorem courseOf_singleton_of_ne {g : UInt64} {entry : Entry} (h : entry.generation ≠ g) :
    courseOf g [entry] = [] := by
  simp [courseOf, h]

/-! ### What is still to be done -/

/-- The task that a piece of work is about. -/
def Work.task? : Work → Option Task
  | order command | call _ command => some command.task
  | mail piece => piece.task?

/-- All that is still to be done, with the calls that the radio has not answered. -/
def Bearer.works {ι : Type} (b : Bearer ι) : List Work :=
  b.controller.outbox.map .order ++ b.openCalls.map (fun call => .call call.1 call.2) ++
    b.mails.map .mail

section

variable {ι : Type} {s : Setting} {b : Bearer ι}

theorem Bearer.mem_works {work : Work} :
    work ∈ b.works ↔ (∃ command ∈ b.controller.outbox, work = .order command) ∨
      (∃ call ∈ b.openCalls, work = .call call.1 call.2) ∨ ∃ mail ∈ b.mails, work = .mail mail := by
  simp [Bearer.works, eq_comm]

theorem Bearer.mem_tasks_of_works {work : Work} {task : Task} (mem : work ∈ b.works)
    (about : work.task? = some task) : task ∈ b.tasks := by
  rcases Bearer.mem_works.mp mem with
    ⟨command, hcommand, rfl⟩ | ⟨call, hopen, rfl⟩ | ⟨piece, hpiece, rfl⟩
  · cases about
    exact List.mem_append_left _ (List.mem_append_left _ (List.mem_map_of_mem hcommand))
  · cases about
    exact List.mem_append_left _ (List.mem_append_right _ (List.mem_map.mpr ⟨call, hopen, rfl⟩))
  · refine List.mem_append_right _ (List.mem_filterMap.mpr ⟨piece, ?_, about⟩)
    rw [Bearer.mails, List.append_assoc, List.mem_append, List.mem_append] at hpiece
    simp only [List.mem_append]
    tauto

/-- A task that is under way is some piece of work. -/
theorem Bearer.exists_work {task : Task} (mem : task ∈ b.tasks) :
    ∃ work ∈ b.works, work.task? = some task := by
  rcases List.mem_append.mp mem with hleft | hmail
  · rcases List.mem_append.mp hleft with horder | hcall
    · obtain ⟨command, hcommand, rfl⟩ := List.mem_map.mp horder
      exact ⟨.order command, Bearer.mem_works.mpr (Or.inl ⟨command, hcommand, rfl⟩), rfl⟩
    · obtain ⟨call, hopen, rfl⟩ := List.mem_map.mp hcall
      exact ⟨.call call.1 call.2, Bearer.mem_works.mpr (Or.inr (Or.inl ⟨call, hopen, rfl⟩)), rfl⟩
  · obtain ⟨mail, hmem, htask⟩ := List.mem_filterMap.mp hmail
    refine ⟨.mail mail, Bearer.mem_works.mpr (Or.inr (Or.inr ⟨mail, ?_, rfl⟩)), htask⟩
    simp only [Bearer.mails, List.mem_append] at hmem ⊢
    tauto

theorem Bearer.no_task_of_works (free : b.tasks = 0) {work : Work} (mem : work ∈ b.works) :
    work.task? = none := by
  by_contra hsome
  obtain ⟨task, htask⟩ := Option.ne_none_iff_exists'.mp hsome
  have hmem := Bearer.mem_tasks_of_works mem htask
  rw [free] at hmem
  exact Multiset.notMem_zero task hmem

theorem Bearer.mem_works_send {work : Work} {mail : Mail} (mem : work ∈ (b.send [mail]).works) :
    work ∈ b.works ∨ work = .mail mail := by
  simp only [Bearer.works, Bearer.send, Bearer.mails, List.map_append, List.map_cons,
    List.map_nil, List.mem_append, List.mem_singleton] at mem ⊢
  tauto

theorem Bearer.mem_works_post {work : Work} {mail : Mail}
    (mem : work ∈ (b.withController (b.controller.post mail)).works) :
    work ∈ b.works ∨ work = .mail mail := by
  simp only [Bearer.works, Bearer.mails, Bearer.withController, Controller.post, List.map_append,
    List.map_cons, List.map_nil, List.mem_append, List.mem_singleton] at mem ⊢
  tauto

theorem Bearer.mem_works_of_close {work : Work} {call : Nat} (mem : work ∈ (b.close call).works) :
    work ∈ b.works := by
  rw [Bearer.mem_works] at mem ⊢
  rcases mem with horder | ⟨other, hother, rfl⟩ | hmail
  · exact Or.inl horder
  · exact Or.inr (Or.inl ⟨other, (List.mem_filter.mp hother).1, rfl⟩)
  · exact Or.inr (Or.inr hmail)

theorem Bearer.mem_works_call {work : Work} {command : Command}
    (mem : work ∈ (b.call command).1.works) : work ∈ b.works ∨ work = .call b.calls command := by
  simp only [Bearer.works, Bearer.call, Bearer.mails, List.map_append, List.map_cons,
    List.map_nil, List.mem_append, List.mem_singleton] at mem ⊢
  tauto

/-! ### Reactions -/

/-- What is to be done after a reaction was to be done before, or it waits, or it is new. -/
theorem Bearer.mem_works_react {mail : Mail} {r : Reaction ι} {m : Controller ι} {work : Work}
    (mem : work ∈ (b.withController (m.after s mail r).1).works) :
    work ∈ (b.withController m).works ∨ r.halt = none ∧
      ((r.waits = true ∧ work = .mail mail) ∨ (∃ post ∈ r.posts, work = .mail post) ∨
        ∃ command ∈ r.commands, work = .order command) := by
  cases hhalt : r.halt with
  | some halt =>
    -- nothing is left but the inbox and the open calls
    refine Or.inl ?_
    rw [Controller.after, hhalt] at mem
    rw [Bearer.mem_works] at mem ⊢
    rcases mem with ⟨command, hcommand, -⟩ | hcall | ⟨piece, hpiece, rfl⟩
    · cases hcommand
    · exact Or.inr (Or.inl hcall)
    · exact Or.inr (Or.inr ⟨piece, List.mem_append_right _ hpiece, rfl⟩)
  | none =>
    have houtbox : (m.after s mail r).1.outbox = m.outbox ++ r.commands := by
      rw [Controller.after, hhalt]
      cases r.next <;> rfl
    rw [Bearer.mem_works]
    rcases Bearer.mem_works.mp mem with ⟨command, hcommand, rfl⟩ | hcall | ⟨piece, hpiece, rfl⟩
    · have hmem : command ∈ m.outbox ++ r.commands := houtbox ▸ hcommand
      rcases List.mem_append.mp hmem with hold | hnew
      · exact Or.inl (Or.inl ⟨command, hold, rfl⟩)
      · exact Or.inr ⟨rfl, Or.inr (Or.inr ⟨command, hnew, rfl⟩)⟩
    · exact Or.inl (Or.inr (Or.inl hcall))
    · rcases mem_mails_after (b := b.withController m) hhalt hpiece with
        ⟨hwaits, rfl⟩ | hpost | hold
      · exact Or.inr ⟨rfl, Or.inl ⟨hwaits, rfl⟩⟩
      · exact Or.inr ⟨rfl, Or.inr (Or.inl ⟨piece, hpost, rfl⟩)⟩
      · exact Or.inl (Or.inr (Or.inr ⟨piece, hold, rfl⟩))

/-- What is behind the first piece of mail is to be done, too. -/
theorem Bearer.mem_works_of_rest {mail : Mail} {rest : List Mail} {work : Work}
    (first : b.controller.mailbox = mail :: rest)
    (mem : work ∈ (b.withController (b.controller.withMailbox rest)).works) : work ∈ b.works := by
  rw [Bearer.mem_works] at mem ⊢
  rcases mem with horder | hcall | ⟨piece, hpiece, rfl⟩
  · exact Or.inl horder
  · exact Or.inr (Or.inl hcall)
  · exact Or.inr (Or.inr ⟨piece, Bearer.mails_withMailbox_subset first hpiece, rfl⟩)

theorem mem_works_after {mail : Mail} {rest : List Mail} {r : Reaction ι} {m : Controller ι}
    {work : Work} (first : b.controller.mailbox = mail :: rest)
    (hm : m = b.controller.withMailbox rest) (posts : r.posts = [])
    (mem : work ∈ (b.withController (m.after s mail r).1).works) :
    work ∈ b.works ∨ r.halt = none ∧ ∃ command ∈ r.commands, work = .order command := by
  rcases Bearer.mem_works_react mem with hold | ⟨hhalt, ⟨-, rfl⟩ | ⟨post, hpost, -⟩ | hnew⟩
  · rw [hm] at hold
    exact Or.inl (Bearer.mem_works_of_rest first hold)
  · exact Or.inl (Bearer.mem_works.mpr (Or.inr (Or.inr
      ⟨mail, Bearer.mem_mails_of_first first, rfl⟩)))
  · rw [posts] at hpost
    cases hpost
  · exact Or.inr ⟨hhalt, hnew⟩

/-- The interceptor that lets every set-up pass posts nothing. -/
theorem Rule.posts_eq_nil {c : Connection} {p : Phase} {mail : Mail} {r : Reaction Unit}
    (h : Rule s c () p mail r) : r.posts = [] := by
  cases h with
  | intercepted ordered caught => cases caught
  | _ => rfl

/-- A reaction by itself does not call the radio. -/
theorem Rule.not_called [Interceptor ι] {c : Connection} {i : ι} {p : Phase} {mail : Mail}
    {r : Reaction ι} (h : Rule s c i p mail r) (number : Nat) (command : Command) :
    .called number command ∉ r.events := by
  intro hcalled
  cases h.isOwn hcalled

/-- What a reaction puts on record. -/
def Controller.noted (s : Setting) (m : Controller ι) (mail : Mail) (r : Reaction ι) :
    List Entry :=
  (m.after s mail r).2.filterMap
    (Event.entry? (m.after s mail r).1.connection.clients.isEmpty)

/-- Neither a change of phase nor a halt puts anything on record by itself. -/
theorem Controller.noted_eq (s : Setting) (m : Controller ι) (mail : Mail) (r : Reaction ι) :
    m.noted s mail r =
      r.events.filterMap (Event.entry? (m.after s mail r).1.connection.clients.isEmpty) := by
  have hdropped : ∀ emptied, (m.requests.map Event.dropped).filterMap (Event.entry? emptied) = [] :=
    fun emptied => List.filterMap_eq_nil_iff.mpr fun event hevent => by
      obtain ⟨request, -, rfl⟩ := List.mem_map.mp hevent
      rfl
  have hentered : ∀ emptied target arrival,
      (r.connection.enter s target arrival).2.filterMap (Event.entry? emptied) = [] :=
    fun emptied target arrival => List.filterMap_eq_nil_iff.mpr fun event hevent => by
      rcases Connection.mem_enter hevent with ⟨_, _, rfl⟩ | ⟨_, rfl⟩ | ⟨_, rfl⟩ | ⟨_, rfl⟩
      · rfl
      · rfl
      · rfl
      · rfl
  rw [Controller.noted]
  generalize (m.after s mail r).1.connection.clients.isEmpty = emptied
  rw [Controller.after]
  cases r.halt with
  | some halt => rw [List.filterMap_append, hdropped, List.append_nil]
  | none =>
    cases r.next with
    | none => rfl
    | some next =>
      dsimp only
      rw [List.filterMap_append]
      exact (congrArg _ (hentered emptied next.1 next.2)).trans (List.append_nil _)

end

/-! ### Acts -/

namespace Scene

variable {ι : Type} [Interceptor ι]

/-- Unless the radio answers or the bearer takes a turn, nothing comes up that is to be done. -/
theorem Change.works {w w' : Scene ι} {act : Act ι} {events : List Event}
    (h : Change w act w' events) (silent : ∀ call given, act ≠ .answer call given)
    (quiet : act ≠ .turn) :
    (∀ work ∈ w'.bearer.works, work ∈ w.bearer.works ∨ work.task? = none) ∧
      w'.bearer.tasks ≤ w.bearer.tasks := by
  have same : ∀ {b : Bearer ι}, b.works = w.bearer.works → b.tasks = w.bearer.tasks →
      (∀ work ∈ b.works, work ∈ w.bearer.works ∨ work.task? = none) ∧
        b.tasks ≤ w.bearer.tasks := by
    intro b hworks htasks
    rw [hworks]
    exact ⟨fun work hwork => Or.inl hwork, le_of_eq htasks⟩
  have sends : ∀ {mail : Mail}, mail.task? = none →
      (∀ work ∈ (w.bearer.send [mail]).works, work ∈ w.bearer.works ∨ work.task? = none) ∧
        (w.bearer.send [mail]).tasks ≤ w.bearer.tasks := by
    intro mail no_task
    refine ⟨fun work hwork => ?_, le_of_eq ?_⟩
    · refine (Bearer.mem_works_send hwork).imp_right fun heq => ?_
      rw [heq]
      exact no_task
    · rw [Bearer.tasks_eq, Bearer.tasks_eq, tally_send, Tally.tasks_ofMail_none no_task, add_zero]
  cases h with
  | still | switched | trackerClosed | rearmed => exact same rfl rfl
  | asked wish => cases wish <;> exact sends rfl
  | inquired | stopSent => exact sends rfl
  | answered => exact absurd rfl (silent _ _)
  | handled | dispatched => exact absurd rfl quiet
  | heard result =>
    refine ⟨fun work hwork => ?_, le_of_eq ?_⟩
    · refine (Bearer.mem_works_post hwork).imp_right fun heq => ?_
      rw [heq]
      rfl
    · rw [Bearer.tasks_eq, Bearer.tasks_eq]
      simp only [withController, Tally.ofBearer, Bearer.withController, tally_post,
        Tally.tasks_ofMail_none (show (Mail.radioConnected result).task? = none from rfl), add_zero]
  | @taken mail rest first =>
    refine ⟨fun work hwork => Or.inl ?_, le_of_eq ?_⟩
    · simp only [Bearer.works, Bearer.mails, Bearer.withController, Bearer.withInbox,
        Controller.post, first, List.map_append, List.map_cons, List.map_nil, List.mem_append,
        List.mem_cons, List.not_mem_nil, or_false] at hwork ⊢
      tauto
    · rw [Bearer.tasks_eq, Bearer.tasks_eq]
      simp only [Tally.ofBearer, Bearer.withController, Bearer.withInbox, tally_post, first,
        Tally.ofMails_cons]
      abel
  | @refused mail rest first =>
    refine ⟨fun work hwork => Or.inl ?_, ?_⟩
    · simp only [Bearer.works, Bearer.mails, Bearer.withInbox, first, List.map_append,
        List.map_cons, List.mem_append, List.mem_cons] at hwork ⊢
      tauto
    · rw [Bearer.tasks_eq, Bearer.tasks_eq]
      simp only [Tally.ofBearer, Bearer.withInbox, first, Tally.ofMails_cons]
      exact add_le_add_left (add_le_add_right (Multiset.le_add_left _ _) _) _

theorem entries_of_silent {w : Scene ι} {act : Act ι}
    (silent : ∀ call given, act ≠ .answer call given) (quiet : act ≠ .turn) :
    w.entries act = [] := by
  have nothing : ∀ {act : Act ι} {w' : Scene ι} {events : List Event} (emptied : Bool),
      Change w act w' events → (∀ call given, act ≠ .answer call given) → act ≠ .turn →
        events.filterMap (Event.entry? emptied) = [] := by
    intro act w' events emptied h hsilent hquiet
    cases h with
    | handled | dispatched => exact absurd rfl hquiet
    | @refused mail => cases mail.request? <;> rfl
    | _ => rfl
  have hhearing : w.hearing act = [] := by
    cases act with
    | answer call given => exact absurd rfl (silent call given)
    | _ => rfl
  rw [entries, hhearing, nothing _ (w.change_step act) silent quiet]
  rfl

/-- The radio answers an open call, or nothing happens. -/
theorem answer_cases (w : Scene ι) (call : Nat) (given : RadioAnswers) :
    (w.step (.answer call given) = (w, []) ∧ w.entries (.answer call given) = []) ∨
      ∃ command mail, (call, command) ∈ w.bearer.openCalls ∧
        command.completion? given = some mail ∧
        w.step (.answer call given) = ({ w with bearer := w.bearer.close call }.send mail, []) ∧
        w.entries (.answer call given) = [.heard command mail] := by
  rw [entries, hearing]
  cases hfind : w.bearer.openCalls.find? fun c => c.1 == call with
  | none =>
    rw [step, hfind]
    exact Or.inl ⟨rfl, rfl⟩
  | some found =>
    obtain ⟨number, command⟩ := found
    have hnumber : number = call := by simpa using List.find?_some hfind
    have hopen := List.mem_of_find?_eq_some hfind
    rw [hnumber] at hopen
    cases hready : command.completion? given with
    | none =>
      rw [step, hfind]
      dsimp only
      rw [hready]
      exact Or.inl ⟨rfl, rfl⟩
    | some mail =>
      rw [step_answer hfind hready]
      dsimp only
      rw [hready]
      exact Or.inr ⟨command, mail, hopen, hready, rfl, rfl⟩

theorem record_concat (w : Scene ι) (acts : List (Act ι)) (act : Act ι) :
    w.record (acts ++ [act]) = w.record acts ++ (w.run acts).1.entries act := by
  induction acts generalizing w with
  | nil => exact (List.append_nil _).trans (List.nil_append _).symm
  | cons first acts ih =>
    rw [List.cons_append, record, record, ih, List.append_assoc]
    rfl

/-- Only the radio's switch and the tracker change in the surroundings of a bearer. -/
theorem setting_eq_run (w : Scene ι) (acts : List (Act ι)) :
    ∃ radioOn trackerOpen,
      (w.run acts).1.setting = { w.setting with radioOn, trackerOpen } := by
  have kept : ∀ {w w' : Scene ι} {act : Act ι} {events : List Event}, Change w act w' events →
      ∃ radioOn trackerOpen, w'.setting = { w.setting with radioOn, trackerOpen } := by
    intro w w' act events h
    cases h with
    | asked wish => cases wish <;> exact ⟨_, _, rfl⟩
    | _ => exact ⟨_, _, rfl⟩
  induction acts generalizing w with
  | nil => exact ⟨_, _, rfl⟩
  | cons act acts ih =>
    obtain ⟨radioOn, trackerOpen, hlater⟩ := ih (w.step act).1
    obtain ⟨_, _, hnow⟩ := kept (w.change_step act)
    refine ⟨radioOn, trackerOpen, hlater.trans ?_⟩
    rw [hnow]

/-- The technology stays what it is, and so does the version that rejections are trusted from. -/
theorem setting_run (w : Scene ι) (acts : List (Act ι)) :
    (w.run acts).1.setting.technology = w.setting.technology ∧
      (w.run acts).1.setting.structuredSince = w.setting.structuredSince := by
  obtain ⟨radioOn, trackerOpen, hsetting⟩ := w.setting_eq_run acts
  rw [hsetting]
  exact ⟨rfl, rfl⟩

end Scene

end PacketBearer
