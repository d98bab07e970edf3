/-
Answers that come too late.

A call outlives the generation that it was made in, and the radio may answer it at any time or
never.  An answer that reaches the controller when its generation has passed is overdue.

* `step_of_wasted`, `step_of_kept` — an act that deals with nothing but overdue answers changes
  nothing that is in time, and all other acts do the same whether such answers are there or not;
* `run_timely` — a run shows what it would show if nothing overdue were ever left;
* `late_answers_harmless` — two runs that differ in late answers only show the same, what is overdue
  is never completed, and an answer goes unheeded exactly if it is overdue.

Design notes: two runs are compared by their acts, less those that are wasted.  Acts are wasted that
are not possible, and those by which the radio gives a late answer, or the bearer takes or handles
one.  Which answers are late may be said in advance (`late`), so that an answer counts that comes in
time but waits behind a reset.
-/
import PacketBearer.Proofs.Delivery
import PacketBearer.Proofs.Omission

namespace PacketBearer

/-- Something goes unheeded, or is given up. -/
def Event.isUnheeded : Event → Bool
  | .ignored _ | .dropped _ => true
  | _ => false

/-- What shows of events, apart from what goes unheeded. -/
def heeded (events : List Event) : List Event := events.filter (!·.isUnheeded)

section

variable {ι : Type}

namespace Scene

/-- A task whose answers are said to be late, or that is of a past generation. -/
def overdue (late : Task → Bool) (w : Scene ι) (task : Task) : Bool :=
  late task || task.generation != w.controller.connection.generation

/-- What is in time of a scene. -/
def timely (late : Task → Bool) (w : Scene ι) : Scene ι :=
  w.withBearer (w.bearer.without (w.overdue late))

/-- The act is not possible, or deals with an overdue answer and nothing else. -/
def wasted (late : Task → Bool) (w : Scene ι) : Act ι → Bool
  | .answer call _ =>
    (w.bearer.openCalls.find? fun c => c.1 == call).all fun c => w.overdue late c.2.task
  | .take => !decide w.Resting || w.bearer.inbox.head?.all (·.isAbout (w.overdue late))
  | .turn => match w.controller.mailbox with
    | mail :: _ => mail.isAbout (w.overdue late)
    | [] => w.controller.outbox.isEmpty
  | .hear _ => !decide w.Resting
  | _ => false

section

variable [Interceptor ι]

/-- The acts of a run that are not wasted. -/
def timelyActs (late : Task → Bool) (w : Scene ι) : List (Act ι) → List (Act ι)
  | [] => []
  | act :: acts =>
    if w.wasted late act then (w.step act).1.timelyActs late acts
    else act :: (w.step act).1.timelyActs late acts

/-- The answers about these tasks reach the controller only when their generation has passed. -/
def TooLate (late : Task → Bool) (w : Scene ι) (acts : List (Act ι)) : Prop :=
  ∀ earlier later, acts = earlier ++ later →
    ∀ mail ∈ (w.run earlier).1.controller.mailbox, ∀ task, mail.task? = some task →
      late task = true →
        task.generation ≠ (w.run earlier).1.controller.connection.generation

/-- Acts in turn, where nothing overdue is ever left, and what shows of them. -/
def runTimely (late : Task → Bool) (w : Scene ι) : List (Act ι) → Scene ι × List Event
  | [] => (w, [])
  | act :: acts =>
    let (w', later) := ((w.step act).1.timely late).runTimely late acts
    (w', heeded (w.step act).2 ++ later)

end

end Scene

end

@[simp] theorem heeded_append (first second : List Event) :
    heeded (first ++ second) = heeded first ++ heeded second :=
  List.filter_append _ _

/-- What goes unheeded is what is in vain if no request is of interest. -/
theorem besides_eq_heeded (events : List Event) : besides (fun _ => true) events = heeded events :=
  List.filter_congr fun event _ => by cases event <;> rfl

/-! ### Answers that go unheeded -/

section

variable {ι : Type} [Interceptor ι] {s : Setting}

/-- An answer goes unheeded exactly if its generation has passed, as long as every current answer
is awaited. -/
theorem Rule.ignored_iff {m : Controller ι} {mail : Mail} {r : Reaction ι} {task : Task}
    (h : Rule s m.connection m.interceptor m.phase mail r) (reports : mail.task? = some task)
    (awaited : task.generation = m.connection.generation → m.phase.awaits task = true) :
    Event.ignored mail.kind ∈ (m.after s mail r).2 ↔ task.generation ≠ m.connection.generation := by
  rcases h.ignored_or_awaited reports with ⟨rfl, hstale⟩ | ⟨-, hcurrent, hnone⟩
  · refine iff_of_true List.mem_cons_self ?_
    intro hcurrent
    exact hstale ⟨awaited hcurrent, hcurrent⟩
  · refine iff_of_false ?_ (fun hpast => hpast hcurrent)
    intro hmem
    rcases Controller.mem_after hmem with hown | ⟨-, request, hdropped⟩ | ⟨-, target, arrival, -,
      hmoved | hentered⟩
    · exact hnone _ hown
    · cases hdropped
    · cases hmoved
    · rcases Connection.mem_enter hentered with ⟨request, outcome, h⟩ | ⟨request, h⟩ | ⟨notice, h⟩ |
        ⟨request, h⟩
      · cases h
      · cases h
      · cases h
      · cases h

end

/-! ### Acts -/

namespace Scene

section

variable {ι : Type} [Interceptor ι] {late : Task → Bool} {w w' : Scene ι} {act : Act ι}
  {events : List Event}

/-- What is of the past stays of the past. -/
theorem Change.past_stays (h : Change w act w' events) (inOrder : w.bearer.InOrder)
    (room : w.controller.connection.generation.toNat + events.countP Event.isReturn < 2 ^ 64)
    {task : Task} (mem : task ∈ w.bearer.tasks)
    (past : task.generation ≠ w.controller.connection.generation) :
    task.generation ≠ w'.controller.connection.generation := by
  have hle : task.generation.toNat ≤ w.controller.connection.generation.toNat :=
    UInt64.le_iff_toNat_le.mp (inOrder.bounded task mem)
  have hne : task.generation.toNat ≠ w.controller.connection.generation.toNat :=
    fun heq => past (UInt64.toNat_inj.mp heq)
  intro hnow
  have hnat := congrArg UInt64.toNat (hnow.trans h.generation)
  rw [UInt64.toNat_add, UInt64.toNat_ofNat'] at hnat
  omega

omit [Interceptor ι] in
theorem overdue_eq_true_iff {task : Task} :
    w.overdue late task = true ↔
      late task = true ∨ task.generation ≠ w.controller.connection.generation := by
  rw [overdue, Bool.or_eq_true, bne_iff_ne]

omit [Interceptor ι] in
theorem wasted_eq (late : Task → Bool) (w : Scene ι) (act : Act ι) :
    w.wasted late act = w.idles (w.overdue late) act := by
  cases act <;> rfl

omit [Interceptor ι] in
/-- Scenes of one generation that are the same without what is overdue then agree on what is in
time. -/
theorem timely_eq {u v v' : Scene ι}
    (generation : v.controller.connection.generation = u.controller.connection.generation)
    (same : v.without (u.overdue late) = v'.without (u.overdue late)) :
    v.timely late = v'.timely late := by
  have hgeneration : v'.controller.connection.generation =
      u.controller.connection.generation := by
    rw [← generation]
    exact (congrArg (fun x : Scene ι => x.controller.connection.generation) same.symm :)
  have hoverdue : v.overdue late = u.overdue late := by
    funext task
    rw [overdue, overdue, generation]
  have hoverdue' : v'.overdue late = u.overdue late := by
    funext task
    rw [overdue, overdue, hgeneration]
  rw [timely, timely, hoverdue, hoverdue']
  exact same

/-- An act that deals with nothing but overdue answers changes nothing that is in time. -/
theorem step_of_wasted (numbered : w.bearer.Numbered)
    (tooLate : ∀ mail ∈ w.controller.mailbox, ∀ task, mail.task? = some task →
      late task = true → task.generation ≠ w.controller.connection.generation)
    (wasted : w.wasted late act = true) :
    (w.step act).1.timely late = w.timely late ∧ heeded (w.step act).2 = [] := by
  rw [wasted_eq] at wasted
  have hpast : ∀ mail ∈ w.controller.mailbox, ∀ task, mail.task? = some task →
      w.overdue late task = true → task.generation ≠ w.controller.connection.generation := by
    intro mail hmail task htask hoverdue
    exact (overdue_eq_true_iff.mp hoverdue).elim (tooLate mail hmail task htask) id
  obtain ⟨hscene, hevents⟩ :=
    step_of_idle (u := fun _ => true) numbered hpast (fun _ _ => rfl) wasted
  rw [besides_eq_heeded] at hevents
  refine ⟨timely_eq ?_ hscene, hevents⟩
  exact (congrArg (fun x : Scene ι => x.controller.connection.generation) hscene :)

/-- An act does the same whether anything is overdue or not. -/
def Indifferent (w : Scene ι) (late : Task → Bool) (act : Act ι) : Prop :=
  (w.step act).1.timely late = ((w.timely late).step act).1.timely late ∧
    heeded (w.step act).2 = heeded ((w.timely late).step act).2

/-- An act that deals with something in time does the same whether anything is overdue or not. -/
theorem step_of_kept (kept : w.wasted late act = false)
    (stays : ∀ task ∈ w.bearer.tasks, task.generation ≠ w.controller.connection.generation →
      task.generation ≠ (w.step act).1.controller.connection.generation) :
    w.Indifferent late act := by
  rw [wasted_eq] at kept
  rw [Indifferent, ← besides_eq_heeded, ← besides_eq_heeded]
  rcases (w.change_step act).turned_or_quiet with ⟨mail, rest, -, rfl, first, -⟩ | hquiet
  · -- what is overdue before the reaction is overdue after it
    have hgrows : ∀ task ∈ w.bearer.tasks, w.overdue late task = true →
        (w.step .turn).1.overdue late task = true := by
      intro task htask h
      rw [overdue_eq_true_iff] at h ⊢
      exact h.imp_right (stays task htask)
    obtain ⟨hscene, hevents⟩ := turn_without (u := fun _ => true) first (fun _ _ => rfl) kept hgrows
    exact ⟨timely_eq rfl hscene, hevents⟩
  · obtain ⟨hscene, hevents⟩ := step_overlooks (u := fun _ => true) (fun _ _ => rfl) kept
    exact ⟨timely_eq (congrArg Connection.generation hquiet.connection) hscene, hevents⟩

/-! ### Runs -/

variable {acts : List (Act ι)}

theorem TooLate.tail (h : w.TooLate late (act :: acts)) : (w.step act).1.TooLate late acts := by
  rintro earlier later rfl
  exact h (act :: earlier) later rfl

/-- A run shows what it would show if nothing overdue were ever left. -/
theorem run_timely (inOrder : w.bearer.InOrder) (numbered : w.bearer.Numbered)
    (room : w.controller.connection.generation.toNat +
      (w.run acts).2.countP Event.isReturn < 2 ^ 64)
    (live : (w.run acts).1.bearer.isHalted = false) (tooLate : w.TooLate late acts) :
    (w.timely late).runTimely late (w.timelyActs late acts) =
      ((w.run acts).1.timely late, heeded (w.run acts).2) := by
  induction acts generalizing w with
  | nil => rfl
  | cons act acts ih =>
    have hchange := w.change_step act
    rw [run_cons] at room live ⊢
    have hnow : w.controller.connection.generation.toNat +
        (w.step act).2.countP Event.isReturn < 2 ^ 64 := by
      rw [List.countP_append] at room
      omega
    have hrest := ih (hchange.inOrder inOrder numbered (live_run live) hnow)
      (hchange.numbered numbered) (hchange.room room) live tooLate.tail
    rw [timelyActs]
    cases hwasted : w.wasted late act with
    | true =>
      obtain ⟨hscene, hevents⟩ :=
        step_of_wasted numbered (tooLate [] (act :: acts) rfl) hwasted
      rw [if_pos rfl, ← hscene, hrest, heeded_append, hevents, List.nil_append]
    | false =>
      obtain ⟨hscene, hevents⟩ := step_of_kept hwasted
        fun task htask => hchange.past_stays inOrder hnow htask
      rw [if_neg Bool.false_ne_true, runTimely, ← hscene, hrest, heeded_append, hevents]

/-- A task of the past stays under way, or its request is given up. -/
theorem Change.overdue (h : Change w act w' events) (numbered : w.bearer.Numbered)
    (live : w'.bearer.isHalted = false) {task : Task} (mem : task ∈ w.bearer.tasks)
    (past : task.generation ≠ w.controller.connection.generation) :
    task ∈ w'.bearer.tasks ∨ task.request.id ∈ dropped events := by
  rcases h.turned_or_tasks numbered (h.live live) with
    ⟨mail, rest, r, -, first, hrule, rfl, rfl⟩ | ⟨-, htasks⟩
  · have hhalt := (Controller.live_after_iff.mp live).1
    rw [Bearer.tasks_first first] at mem
    rcases Multiset.mem_add.mp mem with hown | hother
    · -- the answer has come, and goes unheeded
      right
      cases htask : mail.task? with
      | none =>
        rw [Tally.tasks_ofMail_none htask] at hown
        exact absurd hown (Multiset.notMem_zero task)
      | some own =>
        rw [Tally.tasks_ofMail_some htask, Multiset.mem_singleton] at hown
        subst hown
        rcases hrule.ignored_or_awaited htask with ⟨rfl, -⟩ | ⟨-, hcurrent, -⟩
        · have hrequest := Mail.request?_of_task? htask
          have hevents : ((w.controller.withMailbox rest).after w.setting mail
              (ignore w.controller.connection w.controller.interceptor mail)).2 =
              [.ignored mail.kind, .dropped task.request] := by
            show _ :: (mail.request?.map Event.dropped).toList = _
            rw [hrequest]
            rfl
          rw [hevents]
          exact List.mem_singleton_self _
        · exact absurd hcurrent past
    · left
      rw [show (w.withController _).bearer.tasks = _ from
        w.bearer.tasks_after w.setting (w.controller.withMailbox rest) mail hhalt]
      exact Multiset.mem_add.mpr (Or.inl hother)
  · rw [htasks]
    exact Or.inl mem

theorem overdue_run (inOrder : w.bearer.InOrder) (numbered : w.bearer.Numbered)
    (live : (w.run acts).1.bearer.isHalted = false)
    (room : w.controller.connection.generation.toNat +
      (w.run acts).2.countP Event.isReturn < 2 ^ 64)
    {task : Task} (mem : task ∈ w.bearer.tasks)
    (past : task.generation ≠ w.controller.connection.generation) :
    task ∈ (w.run acts).1.bearer.tasks ∨ task.request.id ∈ dropped (w.run acts).2 := by
  induction acts generalizing w with
  | nil => exact Or.inl mem
  | cons act acts ih =>
    have hchange := w.change_step act
    rw [run_cons] at room live ⊢
    have hnow : w.controller.connection.generation.toNat +
        (w.step act).2.countP Event.isReturn < 2 ^ 64 := by
      rw [List.countP_append] at room
      omega
    rw [dropped_append]
    rcases hchange.overdue numbered (live_run live) mem past with hmem | hdropped
    · have hrest := ih (hchange.inOrder inOrder numbered (live_run live) hnow)
        (hchange.numbered numbered) live (hchange.room room) hmem
        (hchange.past_stays inOrder hnow mem past)
      exact hrest.imp_right fun h => Multiset.mem_add.mpr (Or.inr h)
    · exact Or.inr (Multiset.mem_add.mpr (Or.inl hdropped))

end

end Scene

section

variable {ι : Type} [Interceptor ι] {s : Setting} {i : ι} {acts : List (Act ι)}

/-- A request is not completed while it is worked on, or once it is given up. -/
theorem Scene.not_completed {id : RequestId}
    (h : id ∈ ((start s i).run acts).1.atWork ∨ id ∈ dropped ((start s i).run acts).2) :
    id ∉ completed ((start s i).run acts).2 := by
  intro hcompleted
  have hplaced := congrArg (Multiset.count id) (placed_eq_issued s i acts)
  have honce := Multiset.nodup_iff_count_le_one.mp (nodup_issued ((start s i).run acts).1) id
  simp only [Multiset.count_add] at hplaced
  have hdone := Multiset.one_le_count_iff_mem.mpr hcompleted
  rcases h with hwork | hdropped
  · have hcount := Multiset.one_le_count_iff_mem.mpr hwork
    omega
  · have hcount := Multiset.one_le_count_iff_mem.mpr hdropped
    omega

/-- A request that was overtaken by a reset is never completed. -/
theorem not_completed_of_past {earlier later : List (Act ι)} {task : Task}
    (entries : idleEntries ((Scene.start s i).run (earlier ++ later)).2 < 2 ^ 64)
    (live : ((Scene.start s i).run (earlier ++ later)).1.bearer.isHalted = false)
    (mem : task ∈ ((Scene.start s i).run earlier).1.bearer.tasks)
    (past : task.generation ≠
      ((Scene.start s i).run earlier).1.controller.connection.generation) :
    task.request.id ∉ completed ((Scene.start s i).run (earlier ++ later)).2 := by
  refine Scene.not_completed ?_
  have hbefore := (Scene.idleEntries_run_le _ earlier later).trans_lt entries
  rw [Scene.run_append] at live entries ⊢
  have hinOrder := Scene.inOrder_of_start hbefore (Scene.live_run live)
  have hroom := Scene.room_run entries
  rcases Scene.overdue_run hinOrder (Scene.numbered_run _ earlier (Bearer.numbered_start i)) live
    hroom mem past with hmem | hdropped
  · exact Or.inl (Multiset.mem_map_of_mem _ hmem)
  · rw [dropped_append]
    exact Or.inr (Multiset.mem_add.mpr (Or.inr hdropped))

/-- An answer that is handled goes unheeded exactly if it is overdue, and if it is not, the phase
awaits it. -/
theorem heeded_iff_current {mail : Mail} {rest : List Mail} {task : Task}
    (entries : idleEntries ((Scene.start s i).run acts).2 < 2 ^ 64)
    (first : ((Scene.start s i).run acts).1.controller.mailbox = mail :: rest)
    (reports : mail.task? = some task) :
    (Event.ignored mail.kind ∈ (((Scene.start s i).run acts).1.step .turn).2 ↔
        task.generation ≠ ((Scene.start s i).run acts).1.controller.connection.generation) ∧
      (task.generation = ((Scene.start s i).run acts).1.controller.connection.generation →
        ((Scene.start s i).run acts).1.controller.phase.awaits task = true) := by
  have hfits := (Scene.inOrder_of_start entries (Scene.live_of_mailbox first)).fits
  rw [Bearer.current, Bearer.tasks_first first] at hfits
  have hawaits : task.generation =
      ((Scene.start s i).run acts).1.controller.connection.generation →
        ((Scene.start s i).run acts).1.controller.phase.awaits task = true :=
    fun hcurrent => (hfits.of_current reports hcurrent).awaits.1
  obtain ⟨r, -, hrule, hstep⟩ := Scene.step_turn first
  rw [hstep]
  exact ⟨hrule.ignored_iff (m := Controller.withMailbox _ rest) reports hawaits, hawaits⟩

/-- Late answers are harmless.  Two runs that differ in late answers only show the same and end with
the same in time: in answers to calls whose generation has passed, and in answers about tasks that
are said to be late and reach the controller only when their generation has passed.  The request
of an overdue task is never completed.  And an answer goes unheeded exactly if it is overdue; a
current one is awaited by the phase that it finds. -/
theorem late_answers_harmless (s : Setting) (i : ι) (acts : List (Act ι))
    (entries : idleEntries ((Scene.start s i).run acts).2 < 2 ^ 64)
    (live : ((Scene.start s i).run acts).1.bearer.isHalted = false) :
    (∀ (late : Task → Bool) (others : List (Act ι)),
      idleEntries ((Scene.start s i).run others).2 < 2 ^ 64 →
      ((Scene.start s i).run others).1.bearer.isHalted = false →
      (Scene.start s i).TooLate late acts → (Scene.start s i).TooLate late others →
      (Scene.start s i).timelyActs late acts = (Scene.start s i).timelyActs late others →
        heeded ((Scene.start s i).run acts).2 = heeded ((Scene.start s i).run others).2 ∧
          ((Scene.start s i).run acts).1.timely late =
            ((Scene.start s i).run others).1.timely late) ∧
    (∀ earlier later task, acts = earlier ++ later →
      task ∈ ((Scene.start s i).run earlier).1.bearer.tasks →
      task.generation ≠ ((Scene.start s i).run earlier).1.controller.connection.generation →
        task.request.id ∉ completed ((Scene.start s i).run acts).2) ∧
    (∀ earlier later mail rest task, acts = earlier ++ later →
      ((Scene.start s i).run earlier).1.controller.mailbox = mail :: rest →
      mail.task? = some task →
        (Event.ignored mail.kind ∈ (((Scene.start s i).run earlier).1.step .turn).2 ↔
          task.generation ≠
            ((Scene.start s i).run earlier).1.controller.connection.generation) ∧
        (task.generation = ((Scene.start s i).run earlier).1.controller.connection.generation →
          ((Scene.start s i).run earlier).1.controller.phase.awaits task = true)) := by
  refine ⟨?_, ?_, ?_⟩
  · intro late others entries' live' tooLate tooLate' same
    have hleft := Scene.run_timely (Bearer.inOrder_start i) (Bearer.numbered_start i)
      (Scene.room_start entries) live tooLate
    have hright := Scene.run_timely (Bearer.inOrder_start i) (Bearer.numbered_start i)
      (Scene.room_start entries') live' tooLate'
    rw [same, hright] at hleft
    obtain ⟨hscene, hevents⟩ := Prod.mk.inj hleft
    exact ⟨hevents.symm, hscene.symm⟩
  · rintro earlier later task rfl mem past
    exact not_completed_of_past entries live mem past
  · rintro earlier later mail rest task rfl first reports
    have hbefore := (Scene.idleEntries_run_le _ earlier later).trans_lt entries
    exact heeded_iff_current hbefore first reports

end

/-- The second attempt is under way, and the call of the first one stays without an answer. -/
def unanswered : List (Act Unit) :=
  [.ask (.bringUp "a" {}), .take, .turn, .turn, .inquire .reset, .take, .turn,
    .ask (.bringUp "b" {}), .take, .turn, .turn]

/-- The radio answers the call of the second attempt. -/
def inTime : List (Act Unit) :=
  unanswered ++ [.answer 1 { setUp := some (.error .genericFailure) }, .take]

/-- The second attempt, as it is under way. -/
def secondAttempt : Task :=
  .setUp { number := 1, client := "b", accessPoint := {}, generation := 2 }

/-- The first request is not completed in either run, whether its answer comes or not, and nothing
else makes a difference.  The answer to the second attempt is awaited, and heeded. -/
theorem late_answers_overtaken :
    (idleEntries ((Scene.start .cellular ()).run overtaken).2 < 2 ^ 64 ∧
      ((Scene.start .cellular ()).run overtaken).1.bearer.isHalted = false ∧
      idleEntries ((Scene.start .cellular ()).run unanswered).2 < 2 ^ 64 ∧
      ((Scene.start .cellular ()).run unanswered).1.bearer.isHalted = false ∧
      (Scene.start .cellular ()).timelyActs (fun _ => false) overtaken = unanswered) ∧
    heeded ((Scene.start .cellular ()).run overtaken).2 =
      heeded ((Scene.start .cellular ()).run unanswered).2 ∧
    RequestId.bringUp 0 ∉ completed ((Scene.start .cellular ()).run overtaken).2 ∧
    (secondAttempt.generation =
        ((Scene.start .cellular ()).run inTime).1.controller.connection.generation ∧
      Event.ignored .setUpDone ∉ (((Scene.start .cellular ()).run inTime).1.step .turn).2 ∧
      ((Scene.start .cellular ()).run inTime).1.controller.phase.awaits secondAttempt = true) := by
  have entries : idleEntries ((Scene.start .cellular ()).run overtaken).2 < 2 ^ 64 := by decide
  have live : ((Scene.start .cellular ()).run overtaken).1.bearer.isHalted = false := by decide
  have entries' : idleEntries ((Scene.start .cellular ()).run unanswered).2 < 2 ^ 64 := by decide
  have live' : ((Scene.start .cellular ()).run unanswered).1.bearer.isHalted = false := by decide
  have same : (Scene.start .cellular ()).timelyActs (fun _ => false) overtaken = unanswered := rfl
  have same' : (Scene.start .cellular ()).timelyActs (fun _ => false) unanswered = unanswered := rfl
  obtain ⟨hharmless, hnever, -⟩ := late_answers_harmless .cellular () overtaken entries live
  obtain ⟨-, -, hheeded⟩ :=
    late_answers_harmless .cellular () inTime (by decide) (by decide)
  obtain ⟨hignored, hawaited⟩ := hheeded inTime [] _ [] secondAttempt (List.append_nil _).symm
    rfl rfl
  have hcurrent : secondAttempt.generation =
      ((Scene.start .cellular ()).run inTime).1.controller.connection.generation := by decide
  refine ⟨⟨entries, live, entries', live', same⟩, ?_, ?_, hcurrent,
    fun h => hignored.mp h hcurrent, hawaited hcurrent⟩
  · refine (hharmless (fun _ => false) unanswered entries' live' ?_ ?_ (same.trans same'.symm)).1
    · intro earlier later h mail hmail task htask hlate
      cases hlate
    · intro earlier later h mail hmail task htask hlate
      cases hlate
  · -- after the reset the first attempt is under way, and of the past
    exact hnever unanswered [.answer 0 { setUp := some (.error .genericFailure) }, .take, .turn]
      (.setUp firstRequest) rfl (by decide) (by decide)

end PacketBearer
