/-
No request is lost, and none is completed twice.

* `reset_of_past` — a task of a past generation was under way when the bearer was reset;
* `reason_of_dropped` — what is given up was worked on when the bearer was reset, or the bearer has
  halted;
* `every_request_once` — each request is in one place, it is dropped only after a reset that came
  while the radio worked on it or by a bearer that was told to stop, and where neither happens it
  is completed as soon as nothing is left to do.
-/
import Mathlib.Data.List.Induction
import PacketBearer.Proofs.Custody

namespace PacketBearer

/-- The mail that resets a bearer or stops it. -/
def Mail.disturbs : Mail → Bool
  | stop | inquiry _ .reset => true
  | _ => false

/-- The act neither resets the bearer nor stops it. -/
def Act.IsCalm {ι : Type} (act : Act ι) : Prop := act ≠ .stop ∧ act ≠ .inquire .reset

/-! ### Tasks of the past -/

section

variable {ι : Type} [Interceptor ι] {s : Setting}

/-- What takes a bearer back to idle: a reset, or the current task. -/
theorem Rule.returns {c : Connection} {i : ι} {p : Phase} {mail : Mail} {r : Reaction ι}
    {arrival : Arrival} (h : Rule s c i p mail r) (next : r.next = some (.idle, arrival)) :
    Tally.tasks.ofReaction mail r = 0 ∧
      ((∃ number, mail = .inquiry number .reset) ∨
        ∃ task, mail.task? = some task ∧ task.generation = c.generation) := by
  cases h with
  | @resets _ number away => exact ⟨rfl, Or.inl ⟨number, rfl⟩⟩
  | released awaited current => exact ⟨rfl, Or.inr ⟨_, rfl, current⟩⟩
  | fails setback current =>
    refine ⟨rfl, Or.inr ?_⟩
    cases setback <;> exact ⟨_, rfl, current⟩
  | _ => cases next

/-- A task of the past was current when the bearer was reset, or was of the past before. -/
theorem Scene.Change.past {w w' : Scene ι} {act : Act ι} {events : List Event} {task : Task}
    (h : Change w act w' events) (inOrder : w.bearer.InOrder) (numbered : w.bearer.Numbered)
    (live : w'.bearer.isHalted = false) (mem : task ∈ w'.bearer.tasks)
    (past : task.generation ≠ w'.controller.connection.generation) :
    task ∈ w.bearer.tasks ∧ (task.generation = w.controller.connection.generation →
      ∃ number, w.Handles act (.inquiry number .reset)) := by
  rcases h.turned_or_tasks numbered (h.live live) with
    ⟨mail, rest, r, rfl, first, hrule, rfl, rfl⟩ | ⟨hquiet, htasks⟩
  · have hhalt := (Controller.live_after_iff.mp live).1
    have hbefore := Bearer.tasks_first first
    have hafter := w.bearer.tasks_after w.setting (w.controller.withMailbox rest) mail hhalt
    generalize (w.bearer.withController (w.controller.withMailbox rest)).tasks = others
      at hbefore hafter
    rw [show (w.withController _).bearer.tasks = _ from hafter] at mem
    have hothers : task ∈ others → task ∈ w.bearer.tasks := by
      intro hother
      rw [hbefore]
      exact Multiset.mem_add.mpr (Or.inr hother)
    by_cases hreturn : ∃ arrival, r.next = some (.idle, arrival)
    · obtain ⟨arrival, hnext⟩ := hreturn
      obtain ⟨hnone, hcause⟩ := hrule.returns hnext
      rw [hnone, add_zero] at mem
      refine ⟨hothers mem, fun hcurrent => ?_⟩
      rcases hcause with ⟨number, rfl⟩ | ⟨only, honly, hgeneration⟩
      · exact ⟨number, rfl, rest, first⟩
      · -- the current task is the one that has just been done, and there is no other
        have hfits := inOrder.fits
        rw [Bearer.current, hbefore] at hfits
        have hzero := (hfits.of_current honly hgeneration).awaits.2
        exact absurd hcurrent (ofGeneration_eq_zero_iff.mp hzero task mem)
    · -- the generation lasts, and what is issued is of it
      have hstays : ∀ arrival, r.next ≠ some (.idle, arrival) :=
        fun arrival hnext => hreturn ⟨arrival, hnext⟩
      have hgeneration := hrule.generation_stays (m := w.controller.withMailbox rest) hstays
      have hpast : task.generation ≠ w.controller.connection.generation :=
        fun hcurrent => past (hcurrent.trans hgeneration.symm)
      refine ⟨?_, fun hcurrent => absurd hcurrent hpast⟩
      rcases Multiset.mem_add.mp mem with hother | hissued
      · exact hothers hother
      · rcases hrule.issued with hnone | ⟨only, honly, hcurrent⟩
        · rw [hnone] at hissued
          exact absurd hissued (Multiset.notMem_zero task)
        · rw [honly, Multiset.mem_singleton] at hissued
          rw [hissued] at hpast
          exact absurd hcurrent hpast
  · rw [htasks] at mem
    rw [hquiet.connection] at past
    exact ⟨mem, fun hcurrent => absurd hcurrent past⟩

/-- The bearer was reset while the radio worked on a request. -/
def Scene.ResetDuring (w : Scene ι) (acts : List (Act ι)) (id : RequestId) : Prop :=
  ∃ earlier act later number, acts = earlier ++ act :: later ∧
    (w.run earlier).1.Handles act (.inquiry number .reset) ∧ id ∈ (w.run earlier).1.atWork

theorem Scene.ResetDuring.concat {w : Scene ι} {acts : List (Act ι)} {id : RequestId}
    (h : w.ResetDuring acts id) (act : Act ι) : w.ResetDuring (acts ++ [act]) id := by
  obtain ⟨earlier, reset, later, number, rfl, hreset⟩ := h
  refine ⟨earlier, reset, later ++ [act], number, ?_, hreset⟩
  rw [List.append_assoc, List.cons_append]

/-- A task of a past generation was under way when the bearer was reset. -/
theorem reset_of_past {i : ι} {acts : List (Act ι)} {task : Task}
    (entries : idleEntries ((Scene.start s i).run acts).2 < 2 ^ 64)
    (live : ((Scene.start s i).run acts).1.bearer.isHalted = false)
    (mem : task ∈ ((Scene.start s i).run acts).1.bearer.tasks)
    (past : task.generation ≠
      ((Scene.start s i).run acts).1.controller.connection.generation) :
    (Scene.start s i).ResetDuring acts task.request.id := by
  induction acts using List.reverseRecOn with
  | nil => exact absurd mem (Multiset.notMem_zero task)
  | append_singleton acts act ih =>
    have hbefore := (Scene.idleEntries_run_le (Scene.start s i) acts [act]).trans_lt entries
    rw [Scene.run_concat] at live mem past
    have hchange := ((Scene.start s i).run acts).1.change_step act
    have hlive := hchange.live live
    have hinOrder := Scene.inOrder_of_start hbefore hlive
    obtain ⟨hmem, hreset⟩ := hchange.past hinOrder
      (Scene.numbered_run _ acts (Bearer.numbered_start i)) live mem past
    -- the reset is this act, or it is an earlier one
    by_cases hcurrent : task.generation =
        ((Scene.start s i).run acts).1.controller.connection.generation
    · obtain ⟨number, hhandles⟩ := hreset hcurrent
      exact ⟨acts, act, [], number, rfl, hhandles, Multiset.mem_map_of_mem _ hmem⟩
    · exact (ih hbefore hlive hmem hcurrent).concat act

/-! ### What is given up -/

/-- No phase is entered with a request that it does not complete. -/
theorem Rule.enters {c : Connection} {i : ι} {p target : Phase} {mail : Mail} {r : Reaction ι}
    {arrival : Arrival} (h : Rule s c i p mail r) (next : r.next = some (target, arrival))
    (request : ClientRequest) :
    Event.dropped request ∉ (r.connection.enter s target arrival).2 := by
  intro hdropped
  cases h with
  | intercepted | ordered | releases | refuses | resets =>
    cases next
    cases hdropped
  | fails | accepts =>
    cases next
    cases List.mem_singleton.mp hdropped
  | @released _ purpose =>
    cases purpose with
    | tearDown request' =>
      cases next
      rcases List.mem_cons.mp hdropped with htorn | hnotice
      · cases htorn
      · obtain ⟨notice, hevent⟩ := notice_of_mem_lossNotices hnotice
        cases hevent
    | cleanUp request' =>
      cases next
      cases List.mem_singleton.mp hdropped
  | _ => cases next

/-- A reaction that does not halt the bearer gives up the request of a late answer only. -/
theorem Rule.drops {m : Controller ι} {mail : Mail} {r : Reaction ι} {request : ClientRequest}
    (h : Rule s m.connection m.interceptor m.phase mail r) (hlive : r.halt = none)
    (mem : Event.dropped request ∈ (m.after s mail r).2) :
    ∃ task, mail.task? = some task ∧ task.request = request ∧
      ¬ (m.phase.awaits task = true ∧ task.generation = m.connection.generation) := by
  obtain ⟨phase, c, i, mailbox, deferred, outbox, halt⟩ := m
  rcases Controller.mem_after mem with hown | ⟨hhalt, -⟩ | ⟨-, target, arrival, hnext,
    hmoved | hentered⟩
  · cases h with
    | @ignores _ _ task reports stale =>
      refine ⟨task, reports, ?_, stale⟩
      rcases List.mem_cons.mp hown with hignored | hdropped
      · cases hignored
      · rw [Mail.request?_of_task? reports] at hdropped
        cases List.mem_singleton.mp hdropped
        rfl
    | impossible | stops => cases hlive
    | joins | vacuous | strange | leaves =>
      rcases List.mem_cons.mp hown with hhandled | hdone
      · cases hhandled
      · cases List.mem_singleton.mp hdone
    | waits | intercepted | ordered | releases | answers | resets =>
      cases List.mem_singleton.mp hown
    | fails | asks | accepts | refuses | released | hears => cases hown
  · exact absurd hlive hhalt
  · cases hmoved
  · exact absurd hentered (h.enters hnext request)

/-- A request is given up because the bearer was reset while the radio worked on it, or because
the bearer has halted. -/
theorem reason_of_dropped {i : ι} {acts : List (Act ι)} {act : Act ι} {request : ClientRequest}
    (entries : idleEntries ((Scene.start s i).run acts).2 < 2 ^ 64)
    (mem : Event.dropped request ∈ (((Scene.start s i).run acts).1.step act).2) :
    (Scene.start s i).ResetDuring acts request.id ∨
      (((Scene.start s i).run acts).1.step act).1.controller.halt ≠ none := by
  rcases (((Scene.start s i).run acts).1.change_step act).turned_or_quiet with
    ⟨mail, rest, r, rfl, first, hrule, hafter, hevents⟩ | hquiet
  · rw [hafter]
    cases hhalt : r.halt with
    | some halt =>
      refine Or.inr ?_
      show ((Controller.withMailbox _ rest).after _ mail r).1.halt ≠ none
      rw [Controller.after, hhalt]
      simp [Controller.halted]
    | none =>
      refine Or.inl ?_
      rw [hevents] at mem
      obtain ⟨task, htask, rfl, hstale⟩ :=
        hrule.drops (m := Controller.withMailbox _ rest) hhalt mem
      have hlive := Scene.live_of_mailbox first
      have htasks := Bearer.tasks_first first
      refine reset_of_past entries hlive ?_ fun hcurrent => ?_
      · rw [htasks, Tally.tasks_ofMail_some htask]
        exact Multiset.mem_add.mpr (Or.inl (Multiset.mem_singleton_self _))
      · -- a current answer would have been awaited
        have hfits := (Scene.inOrder_of_start entries hlive).fits
        rw [Bearer.current, htasks] at hfits
        exact hstale ⟨(hfits.of_current htask hcurrent).awaits.1, hcurrent⟩
  · rcases hquiet.events _ mem with ⟨call, command, h⟩ | ⟨halted, -⟩
    · cases h
    · refine Or.inr ?_
      rw [hquiet.halt]
      intro hnone
      rw [Bearer.isHalted, Controller.isHalted, hnone] at halted
      cases halted

/-! ### Runs without a reset -/

namespace Tally

/-- The mail that resets or stops. -/
def disturbances : Tally Nat where
  ofMail mail := if mail.disturbs then 1 else 0
  ofCommand _ := 0
  answered {_ command _} h := by
    cases command <;>
    · simp only [Command.completion?, Option.map_eq_some_iff] at h
      obtain ⟨answer, -, rfl⟩ := h
      rfl

end Tally

/-- No disturbance is on its way, or the bearer has halted by itself. -/
def Scene.Calm (w : Scene ι) : Prop :=
  w.controller.halt = some .impossibleOrder ∨
    w.controller.halt = none ∧ Tally.disturbances.ofBearer w.bearer = 0

/-- What is not disturbed by a piece of mail is not disturbed by what it leaves behind. -/
theorem Rule.calm {c : Connection} {i : ι} {p : Phase} {mail : Mail} {r : Reaction ι}
    (h : Rule s c i p mail r) (calm : Tally.disturbances.ofMail mail = 0) :
    r.halt = some .impossibleOrder ∨
      r.halt = none ∧ Tally.disturbances.ofReaction mail r = 0 := by
  cases h with
  | impossible => exact Or.inl rfl
  | stops => cases calm
  | waits busy request => exact Or.inr ⟨rfl, by simpa [Tally.ofReaction, wait] using calm⟩
  | _ => exact Or.inr ⟨rfl, rfl⟩

theorem Scene.Change.calm {w w' : Scene ι} {act : Act ι} {events : List Event}
    (h : Change w act w' events) (numbered : w.bearer.Numbered) (spent : w.controller.Spent)
    (hact : act.IsCalm) (calm : w.Calm) : w'.Calm := by
  rcases calm with hhalted | ⟨hhalt, hnone⟩
  · refine Or.inl ?_
    rw [h.halt_eq spent (by rw [hhalted]; simp), hhalted]
  · have hlive : w.bearer.isHalted = false := by
      rw [Bearer.isHalted, Controller.isHalted, hhalt]
      rfl
    rcases h.tally Tally.disturbances numbered hlive with
      ⟨mail, rest, r, rfl, first, hrule, rfl, rfl⟩ | ⟨hquiet, sent, hsent, htally⟩
    · rw [tally_first Tally.disturbances first] at hnone
      obtain ⟨hmail, hrest⟩ := Nat.add_eq_zero_iff.mp hnone
      have hafter := Controller.halt_after w.setting (w.controller.withMailbox rest) mail r
      rcases hrule.calm hmail with hstopped | ⟨hworks, hkept⟩
      · refine Or.inl (hafter.trans ?_)
        rw [hstopped]
        rfl
      · refine Or.inr ⟨hafter.trans ?_, ?_⟩
        · rw [hworks]
          exact hhalt
        · exact (tally_react Tally.disturbances w.setting w.bearer _ mail hworks).trans
            (Nat.add_eq_zero_iff.mpr ⟨hrest, hkept⟩)
    · refine Or.inr ⟨hquiet.halt.trans hhalt, ?_⟩
      have hzero : Tally.disturbances.ofMails sent = 0 := by
        refine Tally.ofMails_eq_zero Tally.disturbances fun mail hmail => ?_
        cases hsent mail hmail with
        | ask wish => cases wish <;> rfl
        | inquire inquiry =>
          cases inquiry with
          | reset => exact absurd rfl hact.2
          | _ => rfl
        | stop => exact absurd rfl hact.1
        | hear => rfl
      rw [htally, hnone, hzero]

theorem Scene.calm_run {i : ι} {acts : List (Act ι)} (hacts : ∀ act ∈ acts, act.IsCalm) :
    ((start s i).run acts).1.Calm := by
  induction acts using List.reverseRecOn with
  | nil => exact Or.inr ⟨rfl, rfl⟩
  | append_singleton acts act ih =>
    rw [run_concat]
    have hbefore := ih fun other hother => hacts other (List.mem_append_left _ hother)
    exact (((start s i).run acts).1.change_step act).calm
      (numbered_run _ acts (Bearer.numbered_start i)) (spent_run acts (spent_start s i))
      (hacts act (by simp)) hbefore

omit [Interceptor ι] in
theorem Scene.Calm.not_disturbed {w : Scene ι} {act : Act ι} {mail : Mail} (calm : w.Calm)
    (live : w.bearer.isHalted = false) (handles : w.Handles act mail) : mail.disturbs = false := by
  obtain ⟨-, rest, first⟩ := handles
  rcases calm with hhalted | ⟨-, hnone⟩
  · rw [Bearer.isHalted, Controller.isHalted, hhalted] at live
    cases live
  · rw [tally_first Tally.disturbances first] at hnone
    have hmail : (if mail.disturbs then 1 else 0) = 0 := (Nat.add_eq_zero_iff.mp hnone).1
    refine Bool.of_not_eq_true fun hdisturbs => ?_
    rw [if_pos hdisturbs] at hmail
    exact Nat.one_ne_zero hmail

/-- A bearer that still works was not reset where nothing disturbs. -/
theorem Scene.not_resetDuring {i : ι} {acts : List (Act ι)} {id : RequestId}
    (live : ((start s i).run acts).1.bearer.isHalted = false)
    (hacts : ∀ act ∈ acts, act.IsCalm) : ¬ (start s i).ResetDuring acts id := by
  rintro ⟨first, reset, rest, number, rfl, hreset, -⟩
  have hcalm : ((start s i).run first).1.Calm :=
    calm_run fun other hother => hacts other (List.mem_append_left _ hother)
  rw [run_append] at live
  cases hcalm.not_disturbed (live_run live) hreset

/-- Where nothing disturbs, nothing is given up. -/
theorem dropped_eq_zero {i : ι} {acts : List (Act ι)}
    (entries : idleEntries ((Scene.start s i).run acts).2 < 2 ^ 64)
    (live : ((Scene.start s i).run acts).1.bearer.isHalted = false)
    (hacts : ∀ act ∈ acts, act.IsCalm) : dropped ((Scene.start s i).run acts).2 = 0 := by
  have hkept : ∀ request, Event.dropped request ∉ ((Scene.start s i).run acts).2 := by
    intro request hmem
    obtain ⟨earlier, act, later, rfl, hdropped⟩ := Scene.exists_of_mem_run hmem
    have hbefore := (Scene.idleEntries_run_le _ earlier (act :: later)).trans_lt entries
    rw [Scene.run_append, Scene.run_cons] at live
    have hlive := Scene.live_run live
    -- there was neither a reset, as the run is calm, nor a halt, as the bearer still works
    rcases reason_of_dropped hbefore hdropped with hreset | hhalted
    · have hearlier := (((Scene.start s i).run earlier).1.change_step act).live hlive
      refine Scene.not_resetDuring hearlier (fun other hother => ?_) hreset
      exact hacts other (List.mem_append_left _ hother)
    · rw [Bearer.isHalted, Controller.isHalted, Option.isSome_eq_false_iff] at hlive
      exact hhalted (Option.isNone_iff_eq_none.mp hlive)
  exact dropped_of_forall_not_mem hkept

/-- A bearer that is left with nothing to do has no request left. -/
theorem completed_of_resting {i : ι} {acts : List (Act ι)}
    (entries : idleEntries ((Scene.start s i).run acts).2 < 2 ^ 64)
    (possible : ((Scene.start s i).run acts).1.controller.halt ≠ some .impossibleOrder)
    (hacts : ∀ act ∈ acts, act.IsCalm)
    (inbox : ((Scene.start s i).run acts).1.bearer.inbox = [])
    (resting : ((Scene.start s i).run acts).1.Resting)
    (calls : ((Scene.start s i).run acts).1.bearer.openCalls = []) :
    completed ((Scene.start s i).run acts).2 = ((Scene.start s i).run acts).1.issued := by
  have hlive : ((Scene.start s i).run acts).1.bearer.isHalted = false := by
    rcases Scene.calm_run hacts with hhalted | ⟨hhalt, -⟩
    · exact absurd hhalted possible
    · rw [Bearer.isHalted, Controller.isHalted, hhalt]
      rfl
  have hinOrder := Scene.inOrder_of_start entries hlive
  have hplaced := Scene.placed_eq_issued s i acts
  rw [dropped_eq_zero entries hlive hacts] at hplaced
  generalize ((Scene.start s i).run acts).1 = w at hplaced hinOrder inbox resting calls ⊢
  -- without a task there is no phase that requests would wait for
  have htasks : w.bearer.tasks = 0 :=
    Bearer.tasks_eq_zero resting.1 resting.2 inbox calls hinOrder.waiting
  have hdeferred : w.controller.deferred = [] := by
    have hfits := hinOrder.fits
    rw [Bearer.current, htasks] at hfits
    exact hfits.deferred_eq_nil
  rw [Scene.inMail, Scene.inDeferral, Scene.atWork, inbox, resting.1, hdeferred, htasks] at hplaced
  rw [← hplaced]
  show _ = (0 : Multiset RequestId) + 0 + 0 + _ + 0
  rw [add_zero, add_zero, add_zero, zero_add]

theorem told_of_dropped {i : ι} {earlier later : List (Act ι)} {act : Act ι}
    {request : ClientRequest}
    (entries : idleEntries ((Scene.start s i).run (earlier ++ act :: later)).2 < 2 ^ 64)
    (possible : ((Scene.start s i).run (earlier ++ act :: later)).1.controller.halt ≠
      some .impossibleOrder)
    (mem : Event.dropped request ∈ (((Scene.start s i).run earlier).1.step act).2) :
    (Scene.start s i).ResetDuring earlier request.id ∨
      (((Scene.start s i).run earlier).1.step act).1.controller.halt = some .told := by
  have hbefore := (Scene.idleEntries_run_le _ earlier (act :: later)).trans_lt entries
  refine (reason_of_dropped hbefore mem).imp_right fun hhalted => ?_
  -- what a bearer has halted for does not change any more
  have hspent := (((Scene.start s i).run earlier).1.change_step act).spent
    (Scene.spent_run earlier (Scene.spent_start s i))
  rw [Scene.run_append, Scene.run_cons] at possible
  dsimp only at possible
  rw [Scene.halt_run later hspent hhalted] at possible
  cases hhalt : (((Scene.start s i).run earlier).1.step act).1.controller.halt with
  | none => exact absurd hhalt hhalted
  | some halt =>
    cases halt with
    | told => rfl
    | impossibleOrder => exact absurd hhalt possible

omit [Interceptor ι] in
theorem Scene.nodup_issued (w : Scene ι) : w.issued.Nodup := by
  rw [issued, Multiset.coe_nodup, List.nodup_append]
  refine ⟨?_, ?_, ?_⟩
  · exact List.nodup_range.map fun first second h => RequestId.bringUp.inj h
  · exact List.nodup_range.map fun first second h => RequestId.tearDown.inj h
  · intro id hid other hother heq
    obtain ⟨number, -, rfl⟩ := List.mem_map.mp hid
    obtain ⟨number', -, rfl⟩ := List.mem_map.mp hother
    cases heq

/-- Each request is in one place.  It is given up only if the bearer was reset while the radio
worked on it, or was told to stop; and where neither happens, it is completed as soon as nothing is
left to do. -/
theorem every_request_once (s : Setting) (i : ι) (acts : List (Act ι))
    (entries : idleEntries ((Scene.start s i).run acts).2 < 2 ^ 64)
    (possible : ((Scene.start s i).run acts).1.controller.halt ≠ some .impossibleOrder) :
    (∀ id ∈ ((Scene.start s i).run acts).1.issued,
      ((Scene.start s i).run acts).1.inMail.count id +
        ((Scene.start s i).run acts).1.inDeferral.count id +
        ((Scene.start s i).run acts).1.atWork.count id +
        (completed ((Scene.start s i).run acts).2).count id +
        (dropped ((Scene.start s i).run acts).2).count id = 1) ∧
    (∀ earlier act later request, acts = earlier ++ act :: later →
      Event.dropped request ∈ (((Scene.start s i).run earlier).1.step act).2 →
        (Scene.start s i).ResetDuring earlier request.id ∨
          (((Scene.start s i).run earlier).1.step act).1.controller.halt = some .told) ∧
    ((∀ act ∈ acts, act.IsCalm) → ((Scene.start s i).run acts).1.bearer.inbox = [] →
      ((Scene.start s i).run acts).1.Resting →
      ((Scene.start s i).run acts).1.bearer.openCalls = [] →
        ∀ id ∈ ((Scene.start s i).run acts).1.issued,
          (completed ((Scene.start s i).run acts).2).count id = 1) := by
  have once : ∀ id ∈ ((Scene.start s i).run acts).1.issued,
      ((Scene.start s i).run acts).1.issued.count id = 1 :=
    fun id hid => Multiset.count_eq_one_of_mem (Scene.nodup_issued _) hid
  refine ⟨fun id hid => ?_, ?_, fun hacts inbox resting calls id hid => ?_⟩
  -- all places together hold what has been issued, and that is nothing twice
  · rw [← once id hid, ← Scene.placed_eq_issued s i acts]
    simp only [Multiset.count_add]
  · rintro earlier act later request rfl mem
    exact told_of_dropped entries possible mem
  · rw [completed_of_resting entries possible hacts inbox resting calls]
    exact once id hid

end

/-- The answer that comes too late for its request has been handled. -/
def overtaken : List (Act Unit) := (lateAnswer ++ [.take]) ++ [.turn]

/-- The first request is given up then, and the second one is still worked on. -/
theorem every_request_overtaken :
    (dropped ((Scene.start .cellular ()).run overtaken).2 = {.bringUp 0} ∧
      ((Scene.start .cellular ()).run overtaken).1.atWork = {.bringUp 1}) ∧
    (idleEntries ((Scene.start .cellular ()).run overtaken).2 < 2 ^ 64 ∧
      ((Scene.start .cellular ()).run overtaken).1.controller.halt ≠ some .impossibleOrder) ∧
    (Scene.start .cellular ()).ResetDuring (lateAnswer ++ [.take]) (.bringUp 0) := by
  refine ⟨by decide, by decide, ?_⟩
  have hdropped : Event.dropped (.bringUp firstRequest) ∈
      (((Scene.start .cellular ()).run (lateAnswer ++ [.take])).1.step .turn).2 :=
    List.mem_cons_of_mem _ List.mem_cons_self
  have hlive : (((Scene.start .cellular ()).run (lateAnswer ++ [.take])).1.step
      .turn).1.controller.halt ≠ some .told := by decide
  obtain ⟨-, hreason, -⟩ := every_request_once .cellular () overtaken (by decide) (by decide)
  have hcause := hreason (lateAnswer ++ [.take]) .turn [] (.bringUp firstRequest) rfl
  exact (hcause hdropped).resolve_right hlive

end PacketBearer
