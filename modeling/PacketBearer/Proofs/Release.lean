/-
Releases, from the order to the end.

The radio is told to release a bearer for a tear-down, or for a bring-up that has brought unusable
parameters.  The request goes with the command, with the call, and with the mail that reports the
end; other mail may be handled on the way, and a reset may overtake it.

* `ordered_of_current` — a current task was ordered in the run, and no reset has been handled since;
* `release_stays` — a release stays under way until its request is completed or given up;
* `done_of_ordered` — what is reported done is what was ordered, and without a reset it is current;
* `step_release` — the end of a current release takes the bearer back to idle, and completes the
  request.
-/
import PacketBearer.Proofs.Outcome
import PacketBearer.Proofs.Success

namespace PacketBearer

namespace ReleasePurpose

/-- The phase in which a release is under way. -/
def phase : ReleasePurpose → Phase
  | tearDown _ => .releasing
  | cleanUp _ => .cleaningUp

/-- What the end of a release begins the idle phase with. -/
def arrival : ReleasePurpose → Arrival
  | tearDown request => .tornDown request
  | cleanUp request => .failed request ⟨.unacceptableNetworkParameter, none⟩

@[simp] theorem id_arrival (purpose : ReleasePurpose) :
    purpose.arrival.request?.map ClientRequest.id = some purpose.request.id := by
  cases purpose <;> rfl

end ReleasePurpose

theorem onReleaseDone_eq {ι : Type} (c : Connection) (i : ι) (purpose : ReleasePurpose) :
    onReleaseDone c i purpose =
      { connection := c, interceptor := i, next := some (.idle, purpose.arrival) } := by
  cases purpose <;> rfl

/-- A current release is under way in its own phase. -/
theorem Fits.phase_of_release {p : Phase} {c : Connection} {deferred : List Mail}
    {purpose : ReleasePurpose} {others : Multiset Task}
    (h : Fits c deferred ({.release purpose} + others) p) : p = purpose.phase := by
  obtain ⟨hawaits, rfl⟩ := h.awaits
  rw [add_zero] at h
  cases p with
  | idle | settingUp | up => cases hawaits
  | releasing =>
    obtain ⟨request, hcurrent, -⟩ := h
    cases Multiset.singleton_inj.mp hcurrent
    rfl
  | cleaningUp =>
    obtain ⟨request, hcurrent, -⟩ := h
    cases Multiset.singleton_inj.mp hcurrent
    rfl

section

variable {ι : Type} [Interceptor ι] {s : Setting}

/-- The end of a release settles its request, whether it comes in time or too late. -/
theorem Rule.settles_release {m : Controller ι} {mail : Mail} {r : Reaction ι}
    {purpose : ReleasePurpose} (h : Rule s m.connection m.interceptor m.phase mail r)
    (reports : mail.task? = some (.release purpose)) :
    purpose.request.id ∈ settled (m.after s mail r).2 := by
  obtain ⟨phase, c, i, mailbox, deferred, outbox, halt⟩ := m
  cases h with
  | released awaited current =>
    cases reports
    rw [onReleaseDone_eq]
    show purpose.request.id ∈
      settled ([.moved phase .idle] ++ (c.enter s .idle purpose.arrival).2)
    rw [settled_append, settled_enter, ReleasePurpose.id_arrival]
    exact Multiset.mem_add.mpr (Or.inr (Multiset.mem_singleton_self _))
  | ignores =>
    show purpose.request.id ∈
      settled (.ignored mail.kind :: (mail.request?.map Event.dropped).toList)
    rw [Mail.request?_of_task? reports]
    exact Multiset.mem_add.mpr (Or.inr (Multiset.mem_singleton_self _))
  | fails setback current =>
    obtain ⟨task, htask, hof⟩ := setback.task
    cases htask.symm.trans reports
    rcases hof with h | h
    · cases h
    · cases h
  | waits busy request =>
    rw [Mail.task?_of_isRequest request] at reports
    cases reports
  | _ => cases reports

/-- A reset finds the bearer idle, or makes it idle. -/
theorem Rule.idle_of_reset {c : Connection} {i : ι} {p : Phase} {number : Nat} {r : Reaction ι}
    (h : Rule s c i p (.inquiry number .reset) r) :
    p = .idle ∨ r.next = some (.idle, .quiet) ∧ r.halt = none := by
  cases h with
  | answers kept => exact Or.inl (kept rfl)
  | resets => exact Or.inr ⟨rfl, rfl⟩
  | waits _ request => cases request
  | fails setback => cases setback
  | ignores reports => cases reports

end

namespace Scene

section

variable {ι : Type} [Interceptor ι]

/-- No reset is handled in a run. -/
def Unreset (w : Scene ι) (acts : List (Act ι)) : Prop :=
  ∀ earlier act later number, acts = earlier ++ act :: later →
    ¬ (w.run earlier).1.Handles act (.inquiry number .reset)

/-- A task is ordered at an act, by the reaction to a piece of mail. -/
def Orders (w : Scene ι) (act : Act ι) (task : Task) : Prop :=
  ∃ mail rest r, Turned w act (w.step act).1 (w.step act).2 mail rest r ∧ r.halt = none ∧
    task ∈ Tally.tasks.ofReaction mail r

/-- A task was ordered in a run, and no reset has been handled since. -/
def Ordered (w : Scene ι) (acts : List (Act ι)) (task : Task) : Prop :=
  ∃ earlier act later, acts = earlier ++ act :: later ∧ (w.run earlier).1.Orders act task ∧
    ((w.run earlier).1.step act).1.Unreset later

/-! ### One act -/

variable {w : Scene ι} {act : Act ι} {acts earlier later : List (Act ι)}

omit [Interceptor ι] in
/-- What is reported done was under way. -/
theorem mem_tasks_of_handles {mail : Mail} {task : Task} (handles : w.Handles act mail)
    (reports : mail.task? = some task) : task ∈ w.bearer.tasks := by
  obtain ⟨-, rest, first⟩ := handles
  rw [Bearer.tasks_first first, Tally.tasks_ofMail_some reports]
  exact Multiset.mem_add.mpr (Or.inl (Multiset.mem_singleton_self _))

omit [Interceptor ι] in
theorem mem_atWork_of_handles {mail : Mail} {task : Task} (handles : w.Handles act mail)
    (reports : mail.task? = some task) : task.request.id ∈ w.atWork :=
  Multiset.mem_map_of_mem (fun task : Task => task.request.id) (mem_tasks_of_handles handles reports)

/-- At an act the controller handles a piece of mail, or it handles none and all tasks stay. -/
theorem step_turned_or_tasks (w : Scene ι) (act : Act ι) (numbered : w.bearer.Numbered)
    (live : w.bearer.isHalted = false) :
    (∃ mail rest r, Turned w act (w.step act).1 (w.step act).2 mail rest r) ∨
      (∀ mail, ¬ w.Handles act mail) ∧ Quiet w (w.step act).1 (w.step act).2 ∧
        (w.step act).1.bearer.tasks = w.bearer.tasks := by
  by_cases hhandles : ∃ mail, w.Handles act mail
  · obtain ⟨mail, rfl, rest, first⟩ := hhandles
    obtain ⟨r, -, hrule, hstep⟩ := step_turn first
    refine Or.inl ⟨mail, rest, r, rfl, first, hrule, ?_, ?_⟩
    · rw [hstep]
    · rw [hstep]
  · refine ((w.change_step act).turned_or_tasks numbered live).imp_right fun h => ⟨?_, h⟩
    exact fun mail hmail => hhandles ⟨mail, hmail⟩

/-- A release stays under way until its end is handled, which settles its request. -/
theorem release_stays_step {purpose : ReleasePurpose} (numbered : w.bearer.Numbered)
    (live : (w.step act).1.bearer.isHalted = false)
    (mem : .release purpose ∈ w.bearer.tasks) :
    .release purpose ∈ (w.step act).1.bearer.tasks ∨
      purpose.request.id ∈ settled (w.step act).2 := by
  have hchange := w.change_step act
  rcases hchange.turned_or_tasks numbered (hchange.live live) with
    ⟨mail, rest, r, -, first, hrule, hafter, hevents⟩ | ⟨-, htasks⟩
  · rw [hafter] at live
    have hhalt := (Controller.live_after_iff.mp live).1
    rw [Bearer.tasks_first first, Multiset.mem_add] at mem
    rcases mem with hmail | hother
    · refine Or.inr ?_
      rw [Tally.tasks_ofMail, Multiset.mem_coe, Option.mem_toList] at hmail
      rw [hevents]
      exact hrule.settles_release (m := w.controller.withMailbox rest) hmail
    · refine Or.inl ?_
      rw [hafter]
      exact (Bearer.tasks_after _ _ _ _ hhalt).symm ▸ Multiset.mem_add.mpr (Or.inl hother)
  · rw [htasks]
    exact Or.inl mem

/-- A task that is current after an act and was under way before was current before, and the
bearer has not become idle: no reset was handled. -/
theorem unreset_of_current {task : Task} (inOrder : w.bearer.InOrder)
    (room : w.controller.connection.generation.toNat +
      (w.step act).2.countP Event.isReturn < 2 ^ 64) (mem : task ∈ w.bearer.tasks)
    (current : task.generation = (w.step act).1.controller.connection.generation) :
    task.generation = w.controller.connection.generation ∧
      ∀ number, ¬ w.Handles act (.inquiry number .reset) := by
  -- no task is younger than the generation in which it is under way
  have hbound := inOrder.bounded task mem
  have hnat := (w.change_step act).toNat_generation room
  rw [UInt64.le_iff_toNat_le] at hbound
  rw [← current] at hnat
  have hnow : task.generation = w.controller.connection.generation :=
    UInt64.toNat_inj.mp (le_antisymm hbound (by omega))
  refine ⟨hnow, ?_⟩
  rintro number ⟨rfl, rest, first⟩
  obtain ⟨r, -, hrule, hstep⟩ := step_turn first
  rcases hrule.idle_of_reset with hidle | ⟨hnext, hhalt⟩
  · -- an idle bearer has no current task
    have hfits := inOrder.fits
    rw [hidle] at hfits
    exact ofGeneration_eq_zero_iff.mp hfits.1 task mem hnow
  · have hreturn := Controller.isReturn_mem_after w.setting (w.controller.withMailbox rest)
      (.inquiry number .reset) hhalt hnext
    rw [hstep, hnow] at hnat
    dsimp only at hnat
    omega

/-- A task that is current after an act is ordered by it, or was current before and no reset is
handled. -/
theorem orders_or_unreset {task : Task} (inOrder : w.bearer.InOrder)
    (numbered : w.bearer.Numbered) (live : (w.step act).1.bearer.isHalted = false)
    (room : w.controller.connection.generation.toNat +
      (w.step act).2.countP Event.isReturn < 2 ^ 64)
    (mem : task ∈ (w.step act).1.bearer.tasks)
    (current : task.generation = (w.step act).1.controller.connection.generation) :
    w.Orders act task ∨ task ∈ w.bearer.tasks ∧
      task.generation = w.controller.connection.generation ∧
        ∀ number, ¬ w.Handles act (.inquiry number .reset) := by
  rcases step_turned_or_tasks w act numbered ((w.change_step act).live live) with
    ⟨mail, rest, r, hturned⟩ | ⟨hnone, hquiet, htasks⟩
  · have hafter := hturned.scene_eq
    have hmem := mem
    rw [hafter] at live hmem
    have hhalt := (Controller.live_after_iff.mp live).1
    rw [show (w.withController _).bearer.tasks = _ from
      w.bearer.tasks_after w.setting (w.controller.withMailbox rest) mail hhalt,
      Multiset.mem_add] at hmem
    rcases hmem with hother | hissued
    · have hbefore : task ∈ w.bearer.tasks := by
        rw [Bearer.tasks_first hturned.first]
        exact Multiset.mem_add.mpr (Or.inr hother)
      exact Or.inr ⟨hbefore, unreset_of_current inOrder room hbefore current⟩
    · exact Or.inl ⟨mail, rest, r, hturned, hhalt, hissued⟩
  · rw [htasks] at mem
    rw [hquiet.connection] at current
    exact Or.inr ⟨mem, current, fun number => hnone _⟩

/-! ### Runs -/

theorem unreset_nil (w : Scene ι) : w.Unreset [] := by
  intro earlier act later number h
  cases earlier <;> cases h

theorem unreset_concat : w.Unreset (acts ++ [act]) ↔
    w.Unreset acts ∧ ∀ number, ¬ (w.run acts).1.Handles act (.inquiry number .reset) := by
  constructor
  · intro h
    refine ⟨fun earlier one later number hacts => ?_, fun number => h acts act [] number rfl⟩
    refine h earlier one (later ++ [act]) number ?_
    rw [hacts, List.append_assoc, List.cons_append]
  · rintro ⟨hacts, hact⟩ earlier one later number hsplit
    rcases split_concat hsplit with ⟨rfl, rfl, -⟩ | ⟨later', -, rfl⟩
    · exact hact number
    · exact hacts earlier one later' number rfl

/-- Where nobody asks for a reset, none is handled. -/
theorem unreset_of_calm {s : Setting} {i : ι} (calm : ∀ act ∈ earlier ++ later, act.IsCalm) :
    ((start s i).run earlier).1.Unreset later :=
  fun _ _ _ _ part handles => not_disturbed calm part ⟨_, handles, rfl⟩

/-- A release stays under way until its request is settled. -/
theorem release_stays {purpose : ReleasePurpose} (numbered : w.bearer.Numbered)
    (live : (w.run acts).1.bearer.isHalted = false) (mem : .release purpose ∈ w.bearer.tasks) :
    .release purpose ∈ (w.run acts).1.bearer.tasks ∨
      purpose.request.id ∈ settled (w.run acts).2 := by
  induction acts generalizing w with
  | nil => exact Or.inl mem
  | cons act acts ih =>
    rw [run_cons, settled_append, Multiset.mem_add]
    rcases release_stays_step numbered (live_run live) mem with hmem | hsettled
    · exact (ih ((w.change_step act).numbered numbered) live hmem).imp_right Or.inr
    · exact Or.inr (Or.inl hsettled)

variable {s : Setting} {i : ι}

/-- A request that is worked on has not been settled. -/
theorem not_settled_of_atWork {id : RequestId} (mem : id ∈ ((start s i).run acts).1.atWork) :
    id ∉ settled ((start s i).run acts).2 := by
  intro hsettled
  have hplaced := congrArg (Multiset.count id) (placed_eq_issued s i acts)
  have honce := Multiset.nodup_iff_count_le_one.mp (nodup_issued ((start s i).run acts).1) id
  have hwork := Multiset.one_le_count_iff_mem.mpr mem
  have hdone := Multiset.one_le_count_iff_mem.mpr hsettled
  simp only [settled, Multiset.count_add] at hplaced hdone
  omega

/-- A task that was current stays so until a reset is handled. -/
theorem current_of_unreset {task : Task}
    (entries : idleEntries ((start s i).run (earlier ++ later)).2 < 2 ^ 64)
    (live : ((start s i).run (earlier ++ later)).1.bearer.isHalted = false)
    (mem : task ∈ ((start s i).run (earlier ++ later)).1.bearer.tasks)
    (current : task.generation = ((start s i).run earlier).1.controller.connection.generation)
    (unreset : ((start s i).run earlier).1.Unreset later) :
    task.generation =
      ((start s i).run (earlier ++ later)).1.controller.connection.generation := by
  induction later using List.reverseRecOn with
  | nil =>
    rw [List.append_nil]
    exact current
  | append_singleton later act ih =>
    rw [← List.append_assoc] at entries live mem ⊢
    obtain ⟨hbefore, hact⟩ := unreset_concat.mp unreset
    have hentries := (idleEntries_run_le (start s i) (earlier ++ later) [act]).trans_lt entries
    rw [run_concat] at live mem ⊢
    have hchange := ((start s i).run (earlier ++ later)).1.change_step act
    have hlive := hchange.live live
    have hinOrder := inOrder_of_start hentries hlive
    by_contra hpast
    obtain ⟨hmem, hreset⟩ :=
      hchange.past hinOrder (numbered_run _ _ (Bearer.numbered_start i)) live mem hpast
    -- it became a task of the past just now, and that takes a reset
    obtain ⟨number, hhandles⟩ := hreset (ih hentries hlive hmem hbefore)
    rw [run_append] at hhandles
    exact hact number hhandles

/-- Every current task was ordered in the run, and no reset has been handled since. -/
theorem ordered_of_current {task : Task}
    (entries : idleEntries ((start s i).run acts).2 < 2 ^ 64)
    (live : ((start s i).run acts).1.bearer.isHalted = false)
    (mem : task ∈ ((start s i).run acts).1.bearer.tasks)
    (current : task.generation =
      ((start s i).run acts).1.controller.connection.generation) :
    (start s i).Ordered acts task := by
  induction acts using List.reverseRecOn with
  | nil => exact absurd mem (Multiset.notMem_zero task)
  | append_singleton acts act ih =>
    have hentries := (idleEntries_run_le (start s i) acts [act]).trans_lt entries
    rw [run_concat] at entries live mem current
    have hlive := (((start s i).run acts).1.change_step act).live live
    have hnumbered := numbered_run (start s i) acts (Bearer.numbered_start i)
    rcases orders_or_unreset (inOrder_of_start hentries hlive) hnumbered live (room_run entries)
      mem current with horders | ⟨hmem, hcurrent, hkept⟩
    · exact ⟨acts, act, [], rfl, horders, unreset_nil _⟩
    · obtain ⟨earlier, one, later, rfl, horders, hunreset⟩ := ih hentries hlive hmem hcurrent
      rw [run_append, run_cons] at hkept
      refine ⟨earlier, one, later ++ [act], ?_, horders, unreset_concat.mpr ⟨hunreset, hkept⟩⟩
      rw [List.append_assoc, List.cons_append]

/-- What is reported done is what was ordered, if it is done for the same request; and without a
reset in between it is current. -/
theorem done_of_ordered {purpose done : ReleasePurpose}
    (entries : idleEntries ((start s i).run (earlier ++ later)).2 < 2 ^ 64)
    (ordered : .release purpose ∈ ((start s i).run earlier).1.bearer.tasks)
    (current : purpose.generation =
      ((start s i).run earlier).1.controller.connection.generation)
    (unreset : ((start s i).run earlier).1.Unreset later)
    (handles : ((start s i).run (earlier ++ later)).1.Handles act (.releaseDone done))
    (same : done.request.id = purpose.request.id) :
    done = purpose ∧ purpose.generation =
      ((start s i).run (earlier ++ later)).1.controller.connection.generation := by
  have hdone : .release done ∈ ((start s i).run (earlier ++ later)).1.bearer.tasks :=
    mem_tasks_of_handles handles rfl
  have hwork : purpose.request.id ∈ ((start s i).run (earlier ++ later)).1.atWork := by
    rw [← same]
    exact mem_atWork_of_handles handles rfl
  obtain ⟨-, rest, first⟩ := handles
  have hlive := live_of_mailbox first
  -- the request is not settled yet, so that the release is still under way
  have hordered : .release purpose ∈ ((start s i).run (earlier ++ later)).1.bearer.tasks := by
    have hunsettled := not_settled_of_atWork hwork
    rw [run_append, settled_append, Multiset.mem_add] at hunsettled
    rw [run_append] at hlive ⊢
    refine (release_stays (numbered_run _ earlier (Bearer.numbered_start i)) hlive
      ordered).resolve_right fun hsettled => hunsettled (Or.inr hsettled)
  have hsame : Task.release done = .release purpose :=
    Multiset.inj_on_of_nodup_map (nodup_atWork s i (earlier ++ later)) _ hdone _ hordered same
  exact ⟨Task.release.inj hsame, current_of_unreset entries hlive hordered current unreset⟩

/-- The end of a current release takes the bearer back to idle, and completes the request. -/
theorem step_release {purpose : ReleasePurpose}
    (entries : idleEntries ((start s i).run acts).2 < 2 ^ 64)
    (handles : ((start s i).run acts).1.Handles act (.releaseDone purpose))
    (current : purpose.generation =
      ((start s i).run acts).1.controller.connection.generation) :
    (((start s i).run acts).1.step act).1.controller.phase = .idle ∧
      (((start s i).run acts).1.step act).2 = .moved purpose.phase .idle ::
        (((start s i).run acts).1.controller.connection.enter ((start s i).run acts).1.setting
          .idle purpose.arrival).2 := by
  obtain ⟨rfl, rest, first⟩ := handles
  obtain ⟨others, -, hfits⟩ := fits_first s i entries first
  have hphase := (hfits.of_current rfl current).phase_of_release
  obtain ⟨r, hreact, -, hstep⟩ := step_turn first
  have hbusy : ((start s i).run acts).1.controller.phase = .releasing ∨
      ((start s i).run acts).1.controller.phase = .cleaningUp := by
    rw [hphase]
    cases purpose with
    | tearDown => exact Or.inl rfl
    | cleanUp => exact Or.inr rfl
  rw [react, if_pos ⟨hbusy, current⟩, onReleaseDone_eq] at hreact
  rw [hstep, ← hreact, ← hphase]
  exact ⟨rfl, rfl⟩

end

end Scene

/-- The radio is told to release the bearer, and does. -/
def radioReleases : List (Act Unit) := [.turn, .answer 1 { release := some (.ok ()) }, .take]

end PacketBearer
