/-
What comes of a bring-up.

A bearer makes one attempt at a time.  While it does, requests have to wait, and inquiries, the
answers of the past and what the radio reports of itself are nothing to the attempt.  So each act
takes it to what comes next, or ends it with its outcome, or leaves it where it is.

* `Attempts` — an attempt is made, and its one current task is what is due next;
* `attempts_step`, `attempts_run` — until the radio's answers have ended it;
* `outcome_of_answers` — what a bring-up is told is what the radio has answered to its attempt.
-/
import PacketBearer.Proofs.Attempt
import PacketBearer.Proofs.Promptness

namespace PacketBearer

/-! ### Acts -/

section

variable {ι : Type}

/-- A command becomes a call, but the release that a radio which is off has nothing to do for is
done at once. -/
theorem Bearer.dispatch_cases (s : Setting) (b : Bearer ι) (command : Command) :
    (∃ id reason purpose, command = .release id reason purpose ∧ b.dispatch s command =
      (b.withController (b.controller.post (.releaseDone purpose)), [])) ∨
    b.dispatch s command = b.call command := by
  rw [Bearer.dispatch.eq_def]
  split
  · next id reason purpose hoff => exact Or.inl ⟨id, reason, purpose, rfl, rfl⟩
  · exact Or.inr rfl

/-- Where a current task is under way, no other one is. -/
theorem Bearer.InOrder.alone {b : Bearer ι} (h : b.InOrder) {task other : Task}
    {others : Multiset Task} (tasks : b.tasks = task ::ₘ others)
    (current : task.generation = b.controller.connection.generation) (mem : other ∈ others) :
    other.generation ≠ b.controller.connection.generation := by
  have hone := h.fits.card_le_one
  rw [Bearer.current, tasks, ← Multiset.singleton_add, ofGeneration_add,
    ofGeneration_singleton current, Multiset.card_add, Multiset.card_singleton] at hone
  have hnone : (ofGeneration b.controller.connection.generation others).card = 0 := by omega
  rw [Multiset.card_eq_zero] at hnone
  exact ofGeneration_eq_zero_iff.mp hnone other mem

/-- The bearer makes an attempt for the request, and this is its course so far. -/
structure Scene.Attempts (s : Setting) (request : BringUp) (order : SetupOrder)
    (course : List Entry) (w : Scene ι) : Prop where
  live : w.bearer.isHalted = false
  generation : w.controller.connection.generation = request.generation
  busy : ∃ task ∈ w.bearer.tasks, task.generation = request.generation
  -- the current task is a piece of work that is due
  underway : ∀ work ∈ w.bearer.works, ∀ task, work.task? = some task →
    task.generation = request.generation →
      Underway s request order course w.controller.phase work

end

namespace Scene

variable {ι : Type} [Interceptor ι] {s : Setting} {request : BringUp} {order : SetupOrder}
  {course : List Entry} {w w' : Scene ι} {act : Act ι} {events : List Event}

section

omit [Interceptor ι]

/-- Something is next to be done for an attempt. -/
theorem Attempts.exists_work (h : w.Attempts s request order course) :
    ∃ work ∈ w.bearer.works, Underway s request order course w.controller.phase work := by
  obtain ⟨task, hmem, hcurrent⟩ := h.busy
  obtain ⟨work, hwork, hreports⟩ := Bearer.exists_work hmem
  exact ⟨work, hwork, h.underway work hwork task hreports hcurrent⟩

/-- A task is one of the attempt exactly if it is done for its request. -/
theorem Attempts.current_iff (h : w.Attempts s request order course) (distinct : w.atWork.Nodup)
    {task : Task} (mem : task ∈ w.bearer.tasks) :
    task.generation = request.generation ↔ task.request.id = .bringUp request.number := by
  have forRequest : ∀ task ∈ w.bearer.tasks, task.generation = request.generation →
      task.request.id = .bringUp request.number := by
    intro task hmem hcurrent
    obtain ⟨work, hwork, habout⟩ := Bearer.exists_work hmem
    rw [(h.underway work hwork task habout hcurrent).request_of_task habout]
    rfl
  refine ⟨forRequest task mem, fun hid => ?_⟩
  obtain ⟨only, honly, hcurrent⟩ := h.busy
  have hsame : task = only := Multiset.inj_on_of_nodup_map distinct task mem only honly
    (hid.trans (forRequest only honly hcurrent).symm)
  rw [hsame]
  exact hcurrent

/-- What is put on record about a task is about the attempt exactly if the task is current. -/
theorem Attempts.attemptOf_singleton (h : w.Attempts s request order course)
    (distinct : w.atWork.Nodup) {command : Command} (mem : command.task ∈ w.bearer.tasks)
    {entry : Entry} (about : entry = .told command ∨ ∃ mail, entry = .heard command mail) :
    attemptOf request.number [entry] =
      if command.task.generation = request.generation then [entry] else [] := by
  have hfor : entry.isFor request.number =
      decide (command.task.request.id = .bringUp request.number) := by
    rcases about with rfl | ⟨mail, rfl⟩
    · rfl
    · rfl
  by_cases hcurrent : command.task.generation = request.generation
  · rw [if_pos hcurrent, attemptOf, List.filter_cons_of_pos, List.filter_nil]
    rw [hfor, decide_eq_true_iff]
    exact (h.current_iff distinct mem).mp hcurrent
  · rw [if_neg hcurrent, attemptOf, List.filter_cons_of_neg, List.filter_nil]
    rw [hfor, decide_eq_true_iff]
    exact fun hid => hcurrent ((h.current_iff distinct mem).mpr hid)

/-- Where nothing is handled and the current work is what it was, so is the attempt. -/
theorem Attempts.of_works (h : w.Attempts s request order course) (quiet : Quiet w w' events)
    (tasks : w'.bearer.tasks = w.bearer.tasks)
    (works : ∀ work ∈ w'.bearer.works, ∀ task, work.task? = some task →
      task.generation = request.generation → work ∈ w.bearer.works) :
    w'.Attempts s request order course := by
  refine ⟨?_, ?_, ?_, fun work hwork task habout hcurrent => ?_⟩
  · rw [Bearer.isHalted, Controller.isHalted, quiet.halt]
    exact h.live
  · rw [quiet.connection]
    exact h.generation
  · rw [tasks]
    exact h.busy
  · rw [quiet.phase]
    exact h.underway work (works work hwork task habout hcurrent) task habout hcurrent

/-- Where nothing is handled and the current work makes way for what is next, the attempt goes
on. -/
theorem Attempts.proceed (h : w.Attempts s request order course) (inOrder : w.bearer.InOrder)
    (quiet : Quiet w w' events) (tasks : w'.bearer.tasks = w.bearer.tasks) {task : Task}
    {others : Bearer ι} (alone : w.bearer.tasks = task ::ₘ others.tasks)
    (current : task.generation = request.generation) {next : Work}
    (works : ∀ work ∈ w'.bearer.works, work ∈ others.works ∨ work = next) {course' : List Entry}
    (underway : Underway s request order course' w.controller.phase next) :
    w'.Attempts s request order course' := by
  refine ⟨?_, ?_, ?_, fun work hwork other habout hcurrent => ?_⟩
  · rw [Bearer.isHalted, Controller.isHalted, quiet.halt]
    exact h.live
  · rw [quiet.connection]
    exact h.generation
  · rw [tasks]
    exact h.busy
  · rw [quiet.phase]
    rcases works work hwork with hother | rfl
    · refine absurd (hcurrent.trans h.generation.symm) (inOrder.alone alone ?_ ?_)
      · exact current.trans h.generation.symm
      · exact Bearer.mem_tasks_of_works hother habout
    · exact underway

end

/-- Neither a turn nor an answer of the radio is what an attempt waits for. -/
theorem Attempts.of_silent (h : w.Attempts s request order course)
    (change : Change w act w' events) (numbered : w.bearer.Numbered)
    (silent : ∀ call given, act ≠ .answer call given) (still : act ≠ .turn) :
    w'.Attempts s request order course := by
  rcases change.turned_or_tasks numbered h.live with ⟨mail, rest, r, hact, -⟩ | ⟨hquiet, htasks⟩
  · exact absurd hact still
  · refine h.of_works hquiet htasks fun work hwork task habout hcurrent => ?_
    rcases (change.works silent still).1 work hwork with hold | hnone
    · exact hold
    · rw [habout] at hnone
      cases hnone

/-- The radio answers, and an attempt waits for the answer or does not. -/
theorem Attempts.answer (h : w.Attempts s request order course) (inOrder : w.bearer.InOrder)
    (numbered : w.bearer.Numbered) (distinct : w.atWork.Nodup) (call : Nat)
    (given : RadioAnswers) :
    (w.step (.answer call given)).1.Attempts s request order
      (course ++ attemptOf request.number (w.entries (.answer call given))) := by
  rcases w.answer_cases call given with
    ⟨hstep, hentries⟩ | ⟨command, mail, hopen, hready, hstep, hentries⟩
  · rw [hstep, hentries, attemptOf, List.filter_nil, List.append_nil]
    exact h
  · have htasks := Bearer.tasks_close numbered hopen
    have hmem : command.task ∈ w.bearer.tasks := by
      rw [htasks]
      exact Multiset.mem_cons_self _ _
    have hchange := w.change_step (.answer call given)
    rw [hstep] at hchange ⊢
    rw [hentries, h.attemptOf_singleton distinct hmem (Or.inr ⟨mail, rfl⟩)]
    rcases hchange.turned_or_tasks numbered h.live with ⟨-, -, -, hact, -⟩ | ⟨hquiet, hkept⟩
    · cases hact
    · by_cases hcurrent : command.task.generation = request.generation
      · rw [if_pos hcurrent]
        have hcall : Work.call call command ∈ w.bearer.works :=
          Bearer.mem_works.mpr (Or.inr (Or.inl ⟨_, hopen, rfl⟩))
        exact h.proceed inOrder hquiet hkept htasks hcurrent
          (fun work hwork => Bearer.mem_works_send hwork)
          ((h.underway _ hcall _ rfl hcurrent).answer hready)
      · -- it answers a command of the past
        rw [if_neg hcurrent, List.append_nil]
        refine h.of_works hquiet hkept fun work hwork task habout hnow => ?_
        rcases Bearer.mem_works_send hwork with hold | rfl
        · exact Bearer.mem_works_of_close hold
        · rw [show Work.task? (.mail mail) = some command.task from
            Command.task?_completion hready] at habout
          cases habout
          exact absurd hnow hcurrent

/-- The command of an attempt is carried out. -/
theorem Attempts.carry (h : w.Attempts s request order course) (inOrder : w.bearer.InOrder)
    (prompt : w.bearer.Prompt) (numbered : w.bearer.Numbered) (distinct : w.atWork.Nodup)
    (empty : w.controller.mailbox = []) :
    (w.step .turn).1.Attempts s request order
      (course ++ attemptOf request.number (w.entries .turn)) := by
  by_cases hnothing : w.controller.outbox = []
  · have hstep : w.step .turn = (w, []) := step_turn_of_rest ⟨empty, hnothing⟩
    have hentries : w.entries .turn = [] := by
      rw [entries, hstep]
      rfl
    rw [hstep, hentries, attemptOf, List.filter_nil, List.append_nil]
    exact h
  · obtain ⟨command, houtbox, hgeneration⟩ := prompt.single hnothing
    have hcurrent : command.task.generation = request.generation :=
      hgeneration.trans h.generation
    have htasks : w.bearer.tasks = command.task ::ₘ w.bearer.clearOutbox.tasks := by
      have hsame : w.bearer.withOutbox [command] = w.bearer := by
        rw [Bearer.withOutbox, ← houtbox]
      rw [← hsame]
      exact w.bearer.tasks_withOutbox command []
    have hmem : command.task ∈ w.bearer.tasks := by
      rw [htasks]
      exact Multiset.mem_cons_self _ _
    have hunderway : Underway s request order course w.controller.phase (.order command) := by
      refine h.underway _ (Bearer.mem_works.mpr (Or.inl ⟨command, ?_, rfl⟩)) _ rfl hcurrent
      rw [houtbox]
      exact List.mem_singleton_self command
    have hchange := w.change_step .turn
    have hstep : w.step .turn =
        ({ w with bearer := (w.bearer.clearOutbox.dispatch w.setting command).1 },
          (w.bearer.clearOutbox.dispatch w.setting command).2) := step_turn_of_order empty houtbox
    rcases hchange.turned_or_tasks numbered h.live with
      ⟨mail, rest, -, -, first, -⟩ | ⟨hquiet, hkept⟩
    · rw [empty] at first
      cases first
    · rcases w.bearer.clearOutbox.dispatch_cases w.setting command with
        ⟨id, reason, purpose, rfl, hdispatch⟩ | hdispatch
      · have hentries : w.entries .turn = [] := by
          rw [entries, hstep, hdispatch]
          rfl
        rw [hstep, hdispatch] at hquiet hkept ⊢
        rw [hentries, attemptOf, List.filter_nil, List.append_nil]
        exact h.proceed inOrder hquiet hkept htasks hcurrent
          (fun work hwork => Bearer.mem_works_post hwork) hunderway.skip
      · have hentries : w.entries .turn = [.told command] := by
          rw [entries, hstep, hdispatch]
          rfl
        rw [hstep, hdispatch] at hquiet hkept ⊢
        rw [hentries, h.attemptOf_singleton distinct hmem (Or.inl rfl), if_pos hcurrent]
        exact h.proceed inOrder hquiet hkept htasks hcurrent
          (fun work hwork => Bearer.mem_works_call hwork) (hunderway.call _)

section

variable {mail : Mail} {rest : List Mail} {r : Reaction ι}

/-- Mail that is nothing to the attempt is handled. -/
theorem Attempts.of_nothing (h : w.Attempts s request order course)
    (first : w.controller.mailbox = mail :: rest)
    (rule : Rule w.setting w.controller.connection w.controller.interceptor w.controller.phase
      mail r)
    (other : ∀ task, mail.task? = some task → task.generation ≠ request.generation)
    (posts : r.posts = []) (commands : r.commands = []) (next : r.next = none)
    (halt : r.halt = none) :
    (w.withController ((w.controller.withMailbox rest).after w.setting mail r).1).Attempts
      s request order course := by
  have hphase : ((w.controller.withMailbox rest).after w.setting mail r).1.phase =
      w.controller.phase := by
    rw [Controller.after, halt, next]
    rfl
  refine ⟨Controller.live_after_iff.mpr ⟨halt, h.live⟩, ?_, ?_, ?_⟩
  · refine Eq.trans ?_ h.generation
    refine Rule.generation_stays (m := w.controller.withMailbox rest) rule fun arrival hnext => ?_
    rw [next] at hnext
    cases hnext
  · -- the tasks are those that were under way besides the mail
    obtain ⟨task, hmem, hcurrent⟩ := h.busy
    refine ⟨task, ?_, hcurrent⟩
    show task ∈ (w.bearer.withController
      ((w.controller.withMailbox rest).after w.setting mail r).1).tasks
    rw [Bearer.tasks_first first, Multiset.mem_add] at hmem
    rw [Bearer.tasks_after _ _ _ _ halt, Multiset.mem_add]
    refine Or.inl (hmem.resolve_left fun hmail => ?_)
    rw [Tally.tasks_ofMail, Multiset.mem_coe, Option.mem_toList] at hmail
    exact other task hmail hcurrent
  · intro work hwork task habout hcurrent
    refine Eq.mp (congrArg (Underway s request order course · work) hphase.symm) ?_
    rcases mem_works_after first rfl posts hwork with hold | ⟨-, command, hnew, -⟩
    · exact h.underway work hold task habout hcurrent
    · rw [commands] at hnew
      cases hnew

/-- The attempt goes on with another command. -/
theorem Attempts.of_command (h : w.Attempts s request order course) (inOrder : w.bearer.InOrder)
    (first : w.controller.mailbox = mail :: rest)
    (rule : Rule w.setting w.controller.connection w.controller.interceptor w.controller.phase
      mail r) {task : Task} (about : mail.task? = some task)
    (current : task.generation = request.generation) {command : Command}
    (commands : r.commands = [command]) (posts : r.posts = []) (halt : r.halt = none)
    (generation : ((w.controller.withMailbox rest).after w.setting mail r).1.connection.generation =
      w.controller.connection.generation)
    (next : Underway s request order course
      ((w.controller.withMailbox rest).after w.setting mail r).1.phase (.order command)) :
    (w.withController ((w.controller.withMailbox rest).after w.setting mail r).1).Attempts
      s request order course := by
  have hwaits : r.waits = false := by
    refine Bool.of_not_eq_true fun hwaits => ?_
    have hrequest := (rule.busy_of_waits hwaits).2
    rw [Mail.task?_of_isRequest hrequest] at about
    cases about
  have halone : w.bearer.tasks = task ::ₘ
      (w.bearer.withController (w.controller.withMailbox rest)).tasks := by
    rw [Bearer.tasks_first first, Tally.tasks_ofMail_some about, Multiset.singleton_add]
  refine ⟨Controller.live_after_iff.mpr ⟨halt, h.live⟩, generation.trans h.generation, ?_, ?_⟩
  · obtain ⟨only, honly, hissued⟩ := rule.single_command (by rw [commands]; simp)
    refine ⟨only.task, ?_, ?_⟩
    · show only.task ∈ (w.bearer.withController
        ((w.controller.withMailbox rest).after w.setting mail r).1).tasks
      rw [Bearer.tasks_after _ _ _ _ halt]
      exact Multiset.mem_add.mpr (Or.inr hissued)
    · rw [Rule.issued_current (m := w.controller.withMailbox rest) rule _ hissued]
      exact generation.trans h.generation
  · intro work hwork other habout hcurrent
    rcases Bearer.mem_works_react hwork with
      hold | ⟨-, ⟨hwait, -⟩ | ⟨post, hpost, -⟩ | ⟨only, honly, rfl⟩⟩
    · -- what was to be done besides the mail is of the past
      refine absurd (hcurrent.trans h.generation.symm) (inOrder.alone halone ?_ ?_)
      · exact current.trans h.generation.symm
      · exact Bearer.mem_tasks_of_works hold habout
    · rw [hwaits] at hwait
      cases hwait
    · rw [posts] at hpost
      cases hpost
    · rw [commands, List.mem_singleton] at honly
      rw [honly]
      exact next

/-- A piece of mail is handled that does not disturb the attempt. -/
theorem Attempts.handle (h : w.Attempts s request order course) (inOrder : w.bearer.InOrder)
    (technology : w.setting.technology = s.technology)
    (since : w.setting.structuredSince = s.structuredSince)
    (first : w.controller.mailbox = mail :: rest) (calm : mail.disturbs = false) :
    attemptOf request.number (w.entries .turn) = [] ∧
      ((w.step .turn).1.Attempts s request order course ∨
        ∃ outcome, Ends s request order course outcome ∧
          outcomesOf request.number (w.step .turn).2 = [outcome]) := by
  obtain ⟨r, -, rule, hstep⟩ := step_turn first
  have hentries : w.entries .turn =
      (w.controller.withMailbox rest).noted w.setting mail r := by
    rw [entries, hstep]
    rfl
  rw [hentries, hstep]
  refine ⟨Rule.attemptOf_noted (m := w.controller.withMailbox rest) rule _, ?_⟩
  obtain ⟨only, honly, hunderway⟩ := h.exists_work
  cases hreports : mail.task? with
  | none =>
    obtain ⟨hposts, hcommands, hnext, hhalt⟩ :=
      rule.nothing_of_no_task hunderway.isBusy hreports calm
    refine Or.inl (h.of_nothing first rule ?_ hposts hcommands hnext hhalt)
    intro task htask
    rw [hreports] at htask
    cases htask
  | some task =>
    have hfits := inOrder.fits
    rw [Bearer.current, Bearer.tasks_first first] at hfits
    by_cases hcurrent : task.generation = request.generation
    · -- the answer that the attempt waits for
      have hnow : task.generation = w.controller.connection.generation :=
        hcurrent.trans h.generation.symm
      have hmail : Underway s request order course w.controller.phase (.mail mail) := by
        refine h.underway _ (Bearer.mem_works.mpr (Or.inr (Or.inr ⟨mail, ?_, rfl⟩))) task hreports
          hcurrent
        exact Bearer.mem_mails_of_first first
      have hattempt := hfits.of_current hreports hnow
      obtain ⟨hpoint, hid⟩ := hmail.record hreports hattempt
      rcases Underway.react (m := w.controller.withMailbox rest) hmail rule h.generation technology
        since hpoint hid with
        ⟨command, hcommands, hposts, hhalt, hgeneration, hnext⟩ | ⟨target, outcome, hends, hevents⟩
      · exact Or.inl (h.of_command inOrder first rule hreports hcurrent hcommands hposts hhalt
          hgeneration hnext)
      · refine Or.inr ⟨outcome, hends, ?_⟩
        rw [hevents]
        simp [outcomesOf]
    · -- an answer of the past goes unheeded
      rcases rule.ignored_or_awaited hreports with ⟨rfl, -⟩ | ⟨-, hnow, -⟩
      · refine Or.inl (h.of_nothing first rule ?_ rfl rfl rfl rfl)
        intro other hother
        rw [hreports] at hother
        cases hother
        exact hcurrent
      · exact absurd (hnow.trans h.generation) hcurrent

end

/-- The radio is called for a command of the outbox. -/
theorem Change.ordered_of_called (h : Change w act w' events) {number : Nat} {command : Command}
    (called : Event.called number command ∈ events) : command ∈ w.controller.outbox := by
  cases h with
  | handled first rule =>
    rcases Controller.mem_after called with
      hown | ⟨-, request, hdropped⟩ | ⟨-, target, arrival, -, hmoved | hentered⟩
    · exact absurd hown (rule.not_called number command)
    · cases hdropped
    · cases hmoved
    · rcases Connection.mem_enter hentered with ⟨_, _, heq⟩ | ⟨_, heq⟩ | ⟨_, heq⟩ | ⟨_, heq⟩ <;>
        cases heq
  | dispatched empty =>
    obtain ⟨call, other, hmem, heq⟩ := Bearer.called_of_mem_dispatchAll called
    cases heq
    exact hmem
  | @refused mail =>
    obtain ⟨request, -, heq⟩ := Option.map_eq_some_iff.mp (Option.mem_toList.mp called)
    cases heq
  | _ => cases called

/-- What is put on record about a request is about one that is worked on. -/
theorem mem_atWork_of_entry {entry : Entry} (mem : entry ∈ w.entries act) {n : Nat}
    (isFor : entry.isFor n = true) : .bringUp n ∈ w.atWork := by
  rcases List.mem_append.mp mem with hheard | hseen
  · rw [hearing.eq_def] at hheard
    split at hheard
    · split at hheard
      · cases hheard
      · next call command hfind =>
        obtain ⟨mail, -, rfl⟩ := Option.map_eq_some_iff.mp (Option.mem_toList.mp hheard)
        refine Multiset.mem_map.mpr ⟨command.task, ?_, of_decide_eq_true isFor⟩
        exact Bearer.mem_tasks_of_openCalls (List.mem_of_find?_eq_some hfind)
    · cases hheard
  · obtain ⟨event, hevent, hnoted⟩ := List.mem_filterMap.mp hseen
    obtain ⟨number, command, rfl⟩ := Event.called_of_isFor hnoted isFor
    cases hnoted
    have hordered := (w.change_step act).ordered_of_called hevent
    have hwork : Work.order command ∈ w.bearer.works :=
      Bearer.mem_works.mpr (Or.inl ⟨command, hordered, rfl⟩)
    exact Multiset.mem_map.mpr ⟨command.task, Bearer.mem_tasks_of_works hwork rfl,
      of_decide_eq_true isFor⟩

end Scene

/-! ### Runs -/

section

variable {events : List Event} {n : Nat}

theorem outcomesOf_append (n : Nat) (first second : List Event) :
    outcomesOf n (first ++ second) = outcomesOf n first ++ outcomesOf n second :=
  List.filterMap_append

/-- A request that is not completed is told nothing. -/
theorem outcomesOf_eq_nil (h : .bringUp n ∉ completed events) : outcomesOf n events = [] := by
  refine List.filterMap_eq_nil_iff.mpr fun event hevent => ?_
  cases event with
  | broughtUp request outcome =>
    refine if_neg fun hnumber => h ?_
    refine Multiset.mem_coe.mpr (List.mem_filterMap.mpr ⟨_, hevent, ?_⟩)
    rw [← hnumber]
  | _ => rfl

theorem mem_completed_of_outcomesOf (h : outcomesOf n events ≠ []) :
    .bringUp n ∈ completed events := by
  by_contra hnot
  exact h (outcomesOf_eq_nil hnot)

end

namespace Scene

variable {ι : Type} [Interceptor ι] {s : Setting} {i : ι} {request : BringUp} {order : SetupOrder}
  {course : List Entry} {acts earlier later : List (Act ι)} {act : Act ι}

theorem nodup_atWork (s : Setting) (i : ι) (acts : List (Act ι)) :
    ((start s i).run acts).1.atWork.Nodup := by
  refine Multiset.nodup_of_le ?_ (nodup_issued ((start s i).run acts).1)
  rw [← placed_eq_issued s i acts, Multiset.le_iff_count]
  intro id
  simp only [Multiset.count_add]
  omega

/-- A request that is completed is not completed again. -/
theorem completed_once {id : RequestId} (done : id ∈ completed ((start s i).run acts).2)
    (act : Act ι) : id ∉ completed (((start s i).run acts).1.step act).2 := by
  intro hagain
  have hplaced := congrArg (Multiset.count id) (placed_eq_issued s i (acts ++ [act]))
  have honce := Multiset.nodup_iff_count_le_one.mp
    (nodup_issued ((start s i).run (acts ++ [act])).1) id
  have hfirst := Multiset.one_le_count_iff_mem.mpr done
  have hsecond := Multiset.one_le_count_iff_mem.mpr hagain
  rw [← hplaced, run_concat] at honce
  simp only [completed_append, Multiset.count_add] at honce
  omega

/-- A reset or an order to stop is handled at an act. -/
def Disturbed (w : Scene ι) (act : Act ι) : Prop :=
  ∃ mail, w.Handles act mail ∧ mail.disturbs = true

/-- Where nobody asks for a reset or a stop, none is handled. -/
theorem not_disturbed (calm : ∀ act ∈ earlier ++ later, act.IsCalm) {first rest : List (Act ι)}
    (part : later = first ++ act :: rest) :
    ¬ (((start s i).run earlier).1.run first).1.Disturbed act := by
  rintro ⟨mail, handles, disturbs⟩
  have hcalm : ((start s i).run (earlier ++ first)).1.Calm := by
    refine calm_run fun other hother => calm other ?_
    rw [part]
    rcases List.mem_append.mp hother with hearlier | hfirst
    · exact List.mem_append_left _ hearlier
    · exact List.mem_append_right _ (List.mem_append_left _ hfirst)
  have hlast : ((start s i).run (earlier ++ first)).1 =
      (((start s i).run earlier).1.run first).1 := by rw [run_append]
  rw [← hlast] at handles
  obtain ⟨rest', hmail⟩ := handles.2
  rw [hcalm.not_disturbed (live_of_mailbox hmail) handles] at disturbs
  cases disturbs

/-- Whatever act comes, an attempt goes on or ends. -/
theorem attempts_step (entries : idleEntries ((start s i).run acts).2 < 2 ^ 64)
    (h : ((start s i).run acts).1.Attempts s request order course)
    (undisturbed : ¬ ((start s i).run acts).1.Disturbed act) :
    (((start s i).run acts).1.step act).1.Attempts s request order
        (course ++ attemptOf request.number (((start s i).run acts).1.entries act)) ∨
      attemptOf request.number (((start s i).run acts).1.entries act) = [] ∧
        ∃ outcome, Ends s request order course outcome ∧
          outcomesOf request.number (((start s i).run acts).1.step act).2 = [outcome] := by
  have hinOrder := inOrder_of_start entries h.live
  have hprompt := prompt_of_start entries h.live
  have hnumbered := numbered_run (start s i) acts (Bearer.numbered_start i)
  have hdistinct := nodup_atWork s i acts
  obtain ⟨htechnology, hsince⟩ := setting_run (start s i) acts
  generalize ((start s i).run acts).1 = w at *
  by_cases hturn : act = .turn
  · rw [hturn] at undisturbed ⊢
    cases hmail : w.controller.mailbox with
    | nil => exact Or.inl (h.carry hinOrder hprompt hnumbered hdistinct hmail)
    | cons mail rest =>
      have hcalm : mail.disturbs = false :=
        Bool.of_not_eq_true fun hdisturbs => undisturbed ⟨mail, ⟨rfl, rest, hmail⟩, hdisturbs⟩
      obtain ⟨hnone, hcase⟩ := h.handle hinOrder htechnology hsince hmail hcalm
      rw [hnone, List.append_nil]
      exact hcase.imp_right fun hends => ⟨rfl, hends⟩
  · by_cases hanswer : ∃ call given, act = .answer call given
    · obtain ⟨call, given, rfl⟩ := hanswer
      exact Or.inl (h.answer hinOrder hnumbered hdistinct call given)
    · have hsilent : ∀ call given, act ≠ .answer call given :=
        fun call given heq => hanswer ⟨call, given, heq⟩
      rw [entries_of_silent hsilent hturn, attemptOf, List.filter_nil, List.append_nil]
      exact Or.inl (h.of_silent (w.change_step act) hnumbered hsilent hturn)

/-- While an attempt goes on, its request is not told anything. -/
theorem Attempts.untold
    (h : ((start s i).run (earlier ++ later)).1.Attempts s request order course) :
    outcomesOf request.number (((start s i).run earlier).1.run later).2 = [] := by
  obtain ⟨task, hmem, hcurrent⟩ := h.busy
  have hid := (h.current_iff (nodup_atWork s i _) hmem).mp hcurrent
  have hnot := not_completed (Or.inl (Multiset.mem_map.mpr ⟨task, hmem, hid⟩))
  rw [run_append, completed_append, Multiset.mem_add] at hnot
  exact outcomesOf_eq_nil fun hdone => hnot (Or.inr hdone)

/-- What an attempt has come to after a run. -/
inductive Progress (s : Setting) (request : BringUp) (order : SetupOrder) (course : List Entry)
    (events : List Event) (w : Scene ι) : Prop
  | pending (attempts : w.Attempts s request order course)
  | ended (outcome : BringUpOutcome) (ends : Ends s request order course outcome)
    (told : outcomesOf request.number events = [outcome])

/-- An attempt goes on until the radio's answers have ended it, and it ends once. -/
theorem attempts_run (earlier later : List (Act ι)) (order : SetupOrder)
    (entries : idleEntries ((start s i).run (earlier ++ later)).2 < 2 ^ 64)
    (begun : ((start s i).run earlier).1.Attempts s request order [])
    (undisturbed : ∀ first act rest, later = first ++ act :: rest →
      outcomesOf request.number (((start s i).run earlier).1.run first).2 = [] →
        ¬ (((start s i).run earlier).1.run first).1.Disturbed act) :
    (((start s i).run earlier).1.run later).1.Progress s request order
      (attemptOf request.number (((start s i).run earlier).1.record later))
      (((start s i).run earlier).1.run later).2 := by
  induction later using List.reverseRecOn with
  | nil => exact .pending begun
  | append_singleton later act ih =>
    rw [← List.append_assoc] at entries
    have hbefore := (idleEntries_run_le (start s i) (earlier ++ later) [act]).trans_lt entries
    have hwhole : ((start s i).run (earlier ++ later)).1 =
        (((start s i).run earlier).1.run later).1 := by rw [run_append]
    rw [record_concat, attemptOf_append, run_concat]
    dsimp only
    have hfirst := ih hbefore fun first other rest heq =>
      undisturbed first other (rest ++ [act]) (by rw [heq, List.append_assoc]; rfl)
    cases hfirst with
    | pending attempts =>
      rw [← hwhole] at attempts
      have huntold := attempts.untold
      have hcalm := undisturbed later act [] rfl huntold
      rw [← hwhole] at hcalm ⊢
      rcases attempts_step hbefore attempts hcalm with hgoes | ⟨hnone, outcome, hends, htold⟩
      · exact .pending hgoes
      · refine .ended outcome ?_ ?_
        · rw [hnone, List.append_nil]
          exact hends
        · rw [outcomesOf_append, huntold, htold]
          rfl
    | ended outcome ends told =>
      -- its request is completed, so that neither the radio nor the bearer is concerned with it
      have hdone : .bringUp request.number ∈
          completed ((start s i).run (earlier ++ later)).2 := by
        rw [run_append, completed_append, Multiset.mem_add]
        refine Or.inr (mem_completed_of_outcomesOf ?_)
        rw [told]
        exact List.cons_ne_nil _ _
      have hagain := completed_once hdone act
      have hidle : .bringUp request.number ∉ ((start s i).run (earlier ++ later)).1.atWork :=
        fun hwork => not_completed (Or.inl hwork) hdone
      rw [hwhole] at hagain hidle
      refine .ended outcome ?_ ?_
      · have hnone : attemptOf request.number
            ((((start s i).run earlier).1.run later).1.entries act) = [] :=
          List.filter_eq_nil_iff.mpr fun entry hentry hfor =>
            hidle (mem_atWork_of_entry hentry hfor)
        rw [hnone, List.append_nil]
        exact ends
      · rw [outcomesOf_append, told, outcomesOf_eq_nil hagain, List.append_nil]

/-- A bearer that is idle is about to admit a request, and will tell the radio to set up a
bearer. -/
structure Admits (w : Scene ι) (request : BringUp) (order : SetupOrder) : Prop where
  idle : w.controller.phase = .idle
  first : w.Handles .turn (.bringUp request)
  ordered : w.setting.technology.orderFor? request.accessPoint = some order
  passed : (Interceptor.intercept order w.controller.connection.radioVersion
    w.controller.interceptor).1 = none

/-- An attempt begins with a command for the radio. -/
theorem Admits.attempts {w : Scene ι} (h : w.Admits request order) (inOrder : w.bearer.InOrder)
    (live : w.bearer.isHalted = false) :
    (w.step .turn).1.Attempts s (request.stamped w.controller.connection) order [] ∧
      w.entries .turn = [.admitted (request.stamped w.controller.connection)] ∧
      outcomesOf request.number (w.step .turn).2 = [] := by
  obtain ⟨rest, first⟩ := h.first.2
  have hidle := h.idle
  have hfree : w.controller.phase.isBusy = false := by
    rw [hidle]
    rfl
  have hpast : ∀ task ∈ w.bearer.tasks,
      task.generation ≠ w.controller.connection.generation :=
    fun task hmem => inOrder.generation_ne hfree hmem
  have hreaction : ∃ i', react w.setting w.controller.phase w.controller.connection
      w.controller.interceptor (.bringUp request) =
        { connection := w.controller.connection.begun request, interceptor := i'
          commands := [.setUp order (request.stamped w.controller.connection)]
          events := [.handled .idle (.bringUp (request.stamped w.controller.connection))]
          next := some (.settingUp, .quiet) } := by
    have hpassed := h.passed
    rw [hidle, react, launch]
    dsimp only
    rw [h.ordered]
    dsimp only
    split
    · next reply i' hcaught =>
      rw [hcaught] at hpassed
      cases hpassed
    · next i' hnone => exact ⟨i', rfl⟩
  obtain ⟨i', hreaction⟩ := hreaction
  obtain ⟨r, hr, rule, hstep⟩ := step_turn first
  rw [hreaction] at hr
  subst hr
  rw [entries, hstep]
  refine ⟨⟨Controller.live_after_iff.mpr ⟨rfl, live⟩, rfl, ?_, ?_⟩, rfl, rfl⟩
  · refine ⟨.setUp (request.stamped w.controller.connection), ?_, rfl⟩
    refine Eq.mpr (congrArg (_ ∈ ·) (Bearer.tasks_after w.setting w.bearer
      (w.controller.withMailbox rest) (.bringUp request) rfl)) ?_
    refine Multiset.mem_add.mpr (Or.inr ?_)
    simp [Tally.ofReaction, Command.task]
  · intro work hwork task habout hcurrent
    rcases mem_works_after first rfl rfl hwork with hold | ⟨-, command, hnew, rfl⟩
    · exact absurd hcurrent (hpast task (Bearer.mem_tasks_of_works hold habout))
    · rw [List.mem_singleton.mp hnew]
      exact .ordered

end Scene

/-- The request as an idle bearer admits it. -/
def Scene.admitted {ι : Type} (w : Scene ι) (request : BringUp) : BringUp :=
  request.stamped w.controller.connection

/-- In a run a bearer is about to admit a bring-up, and neither a reset nor an order to stop is
handled before that is told its outcome. -/
structure Scene.Tries {ι : Type} [Interceptor ι] (s : Setting) (w : Scene ι) (later : List (Act ι))
    (request : BringUp) (order : SetupOrder) : Prop where
  reached : ∃ i earlier, w = ((Scene.start s i).run earlier).1 ∧
    idleEntries ((Scene.start s i).run (earlier ++ .turn :: later)).2 < 2 ^ 64
  admits : w.Admits request order
  undisturbed : ∀ first act rest, later = first ++ act :: rest →
    outcomesOf request.number (w.run (.turn :: first)).2 = [] →
      ¬ (w.run (.turn :: first)).1.Disturbed act

section

variable {ι : Type} [Interceptor ι]

/-- The bring-up waits for its outcome, or it has been told the one that goes with its attempt. -/
theorem Scene.Tries.outcome {s : Setting} {w : Scene ι} {later : List (Act ι)} {request : BringUp}
    {order : SetupOrder} (h : w.Tries s later request order) :
    (outcomesOf request.number (w.run (.turn :: later)).2 = [] ∧
      ∃ work ∈ (w.run (.turn :: later)).1.bearer.works,
        Underway s (w.admitted request) order
          (attemptOf request.number (w.record (.turn :: later)))
          (w.run (.turn :: later)).1.controller.phase work) ∨
    ∃ outcome, outcomesOf request.number (w.run (.turn :: later)).2 = [outcome] ∧
      Ends s (w.admitted request) order
        (attemptOf request.number (w.record (.turn :: later))) outcome := by
  obtain ⟨i, earlier, rfl, entries⟩ := h.reached
  have hfirst := (idleEntries_run_le (start s i) earlier (.turn :: later)).trans_lt entries
  obtain ⟨rest, first⟩ := h.admits.first.2
  have hlive := live_of_mailbox first
  obtain ⟨hbegun, hadmission, huntold⟩ :=
    h.admits.attempts (s := s) (inOrder_of_start hfirst hlive) hlive
  -- the run from the admission on is the last part of a run from the start
  have hwhole : ((start s i).run (earlier ++ [.turn])).1 =
      (((start s i).run earlier).1.step .turn).1 := by rw [run_concat]
  have hrecord : attemptOf request.number (((start s i).run earlier).1.record (.turn :: later)) =
      attemptOf request.number ((((start s i).run earlier).1.step .turn).1.record later) := by
    rw [record, attemptOf_append, hadmission]
    rfl
  have htold : ∀ acts, outcomesOf request.number
      (((start s i).run earlier).1.run (.turn :: acts)).2 =
        outcomesOf request.number ((((start s i).run earlier).1.step .turn).1.run acts).2 := by
    intro acts
    rw [run_cons, outcomesOf_append, huntold, List.nil_append]
  rw [hrecord, htold, run_cons]
  rw [List.append_cons] at entries
  rw [← hwhole] at hbegun htold ⊢
  have hprogress := attempts_run (earlier ++ [.turn]) later order entries hbegun ?_
  · cases hprogress with
    | pending attempts =>
      refine Or.inl ⟨?_, attempts.exists_work⟩
      have hlast : ((start s i).run (earlier ++ [.turn] ++ later)).1 =
          (((start s i).run (earlier ++ [.turn])).1.run later).1 := by rw [run_append]
      rw [← hlast] at attempts
      exact attempts.untold
    | ended outcome ends told => exact Or.inr ⟨outcome, told, ends⟩
  · intro first act rest heq hnone
    have hcalm := h.undisturbed first act rest heq
    rw [htold, run_cons, ← hwhole] at hcalm
    exact hcalm hnone

end

/-- What a bring-up is told is what the radio has answered to its attempt.  A bring-up that an idle
bearer admits, and that the interceptor lets pass, is told its outcome once, as the radio's answers
to the commands for it say, and until then something is left to be done for it.  Whatever else
happens, short of a reset or an order to stop that is handled before the end, makes no difference:
wherever the radio answers the same, the outcome is the same. -/
theorem outcome_of_answers {ι : Type} [Interceptor ι] (s : Setting) (w : Scene ι)
    (later : List (Act ι)) (request : BringUp) (order : SetupOrder)
    (tries : w.Tries s later request order) :
    ((outcomesOf request.number (w.run (.turn :: later)).2 = [] ∧
        ∃ work ∈ (w.run (.turn :: later)).1.bearer.works,
          Underway s (w.admitted request) order
            (attemptOf request.number (w.record (.turn :: later)))
            (w.run (.turn :: later)).1.controller.phase work) ∨
      ∃ outcome, outcomesOf request.number (w.run (.turn :: later)).2 = [outcome] ∧
        Ends s (w.admitted request) order
          (attemptOf request.number (w.record (.turn :: later))) outcome) ∧
    ∀ (w' : Scene ι) (later' : List (Act ι)) (request' : BringUp) (order' : SetupOrder),
      w'.Tries s later' request' order' → request'.accessPoint = request.accessPoint →
      wordsOf (attemptOf request'.number (w'.record (.turn :: later'))) =
        wordsOf (attemptOf request.number (w.record (.turn :: later))) →
      ∀ outcome outcome', outcomesOf request.number (w.run (.turn :: later)).2 = [outcome] →
        outcomesOf request'.number (w'.run (.turn :: later')).2 = [outcome'] →
          outcome' = outcome := by
  refine ⟨tries.outcome, ?_⟩
  intro w' later' request' order' tries' accessPoint words outcome outcome' told told'
  have ended : ∀ {v : Scene ι} {acts : List (Act ι)} {q : BringUp} {o : SetupOrder}
      {result : BringUpOutcome}, v.Tries s acts q o →
      outcomesOf q.number (v.run (.turn :: acts)).2 = [result] →
        Ends s (v.admitted q) o (attemptOf q.number (v.record (.turn :: acts))) result := by
    intro v acts q o result htries htold
    rcases htries.outcome with ⟨hnone, -⟩ | ⟨other, hother, hends⟩
    · rw [hnone] at htold
      cases htold
    · rw [hother] at htold
      cases htold
      exact hends
  exact (ended tries told).determined (ended tries' told') accessPoint words

/-- A bring-up has been taken, and is next. -/
def asked : List (Act Unit) := [.ask (.bringUp "a" {}), .take]

/-- The radio cannot set up a bearer, and names the cause. -/
def undistracted : List (Act Unit) :=
  [.turn, .answer 0 { setUp := some (.error .genericFailure) }, .take, .turn, .turn,
    .answer 1 { lastCause := some (.ok 8) }, .take, .turn]

/-- The same, amid a tear-down, an inquiry, and reports of the radio. -/
def distracted : List (Act Unit) :=
  [.turn, .ask (.tearDown none "over"), .take, .turn, .inquire .link, .take, .turn, .hear (.ok 15),
    .turn, .answer 0 { setUp := some (.error .genericFailure) }, .take, .turn, .turn,
    .switchRadio false, .answer 1 { lastCause := some (.ok 8) }, .take, .turn, .turn]

/-- The bring-up that both are about. -/
def askedRequest : BringUp := { number := 0, client := "a", accessPoint := {} }

/-- The bring-up fails for the same cause in both runs. -/
theorem outcome_of_answers_distracted :
    ((Scene.start .cellular ()).run asked).1.Tries .cellular undistracted askedRequest plainOrder ∧
    ((Scene.start .cellular ()).run asked).1.Tries .cellular distracted askedRequest plainOrder ∧
    outcomesOf 0 (((Scene.start .cellular ()).run asked).1.run (.turn :: distracted)).2 =
      [.error ⟨.operatorBarred, none⟩] := by
  have tries : ∀ later : List (Act Unit), (∀ act ∈ asked ++ .turn :: later, act.IsCalm) →
      idleEntries ((Scene.start .cellular ()).run (asked ++ .turn :: later)).2 < 2 ^ 64 →
        ((Scene.start .cellular ()).run asked).1.Tries .cellular later askedRequest plainOrder := by
    intro later calm entries
    refine ⟨⟨(), asked, rfl, entries⟩, ⟨rfl, ⟨rfl, [], rfl⟩, rfl, rfl⟩, ?_⟩
    intro first act rest part _
    have hwhole : Act.turn :: later = (Act.turn :: first) ++ act :: rest := by rw [part]; rfl
    exact Scene.not_disturbed calm hwhole
  have hundistracted := tries undistracted (by simp [asked, undistracted, Act.IsCalm]) (by decide)
  have hdistracted := tries distracted (by simp [asked, distracted, Act.IsCalm]) (by decide)
  refine ⟨hundistracted, hdistracted, ?_⟩
  have htold : outcomesOf 0
      (((Scene.start .cellular ()).run asked).1.run (.turn :: undistracted)).2 =
        [.error ⟨.operatorBarred, none⟩] := by decide
  obtain ⟨-, hsame⟩ := outcome_of_answers .cellular _ undistracted askedRequest plainOrder
    hundistracted
  rcases (outcome_of_answers .cellular _ distracted askedRequest plainOrder hdistracted).1 with
    ⟨hnone, -⟩ | ⟨outcome, hother, -⟩
  · exact absurd hnone (by decide)
  · have heq :=
      hsame _ distracted askedRequest plainOrder hdistracted rfl rfl _ outcome htold hother
    rw [heq] at hother
    exact hother

end PacketBearer
