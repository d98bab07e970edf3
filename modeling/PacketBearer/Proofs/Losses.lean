/-
Who is told that a bearer is lost.

A tear-down that takes the last clients away has them listed when it is handled.  The list goes
with the request to the radio and back, and is read when the bearer becomes idle: whoever is on it,
but the one that asked, is told.

* `Begins.ordered`, `begins_of_orders` — a release for a tear-down carries the list of those who were
  attached when it was ordered;
* `Concludes.ends` — its end tells the request first, and then everybody on the list, in turn;
* `concludes_of_notice` — nobody is told of a loss at any other time;
* `losses_told_once` — both together, for those who were attached by the requests handled so far.
-/
import PacketBearer.Proofs.Membership
import PacketBearer.Proofs.Release

namespace PacketBearer

namespace Scene

variable {ι : Type} [Interceptor ι]

/-- A tear-down takes the bearer that is up down. -/
structure Begins (w : Scene ι) (act : Act ι) (request : TearDown) : Prop where
  up : w.controller.phase = .up
  handles : w.Handles act (.tearDown request)
  releasing : (w.step act).1.controller.phase = .releasing

/-- At an act after a run the radio is done with the release that a tear-down has begun.  The
clients were attached when the tear-down was handled, and no reset has come in between. -/
structure Concludes (w : Scene ι) (acts : List (Act ι)) (act : Act ι) (request : TearDown)
    (attached : List String) : Prop where
  history : ∃ earlier start later, acts = earlier ++ start :: later ∧
    (w.run earlier).1.Begins start request ∧ attached = membership (w.run earlier).2 ∧
      ((w.run earlier).1.step start).1.Unreset later
  done : ∃ done : TearDown, done.number = request.number ∧
    (w.run acts).1.Handles act (.releaseDone (.tearDown done))

end Scene

section

variable {ι : Type} [Interceptor ι] {s : Setting} {m : Controller ι} {mail : Mail} {r : Reaction ι}

/-! ### Reactions -/

/-- A tear-down that takes the bearer down orders the release, with all clients listed. -/
theorem Rule.releases_tearDown {request : TearDown}
    (h : Rule s m.connection m.interceptor m.phase (.tearDown request) r) (up : m.phase = .up)
    (releasing : (m.after s (.tearDown request) r).1.phase = .releasing) :
    r.halt = none ∧ (∀ arrival, r.next ≠ some (.idle, arrival)) ∧
      .release (.tearDown (request.stamped m.connection)) ∈
        Tally.tasks.ofReaction (.tearDown request) r := by
  obtain ⟨phase, c, i, mailbox, deferred, outbox, halt⟩ := m
  cases h with
  | releases last =>
    refine ⟨rfl, fun arrival h => ?_, ?_⟩
    · cases h
    · simp [Tally.ofReaction, Command.task]
  | strange | leaves => cases releasing
  | vacuous => cases up
  | waits busy => rw [show phase = .up from up] at busy; cases busy
  | fails setback => cases setback
  | ignores reports => cases reports

/-- Only a tear-down that takes the bearer down orders a release for a tear-down. -/
theorem Rule.tearDown_of_issued {done : TearDown}
    (h : Rule s m.connection m.interceptor m.phase mail r)
    (mem : .release (.tearDown done) ∈ Tally.tasks.ofReaction mail r) :
    ∃ request, mail = .tearDown request ∧ done = request.stamped m.connection ∧ m.phase = .up ∧
      (m.after s mail r).1.phase = .releasing := by
  obtain ⟨phase, c, i, mailbox, deferred, outbox, halt⟩ := m
  cases h with
  | @releases request last =>
    have hdone : done = request.stamped c := by
      simpa [Tally.ofReaction, Command.task] using mem
    exact ⟨request, rfl, hdone, rfl, rfl⟩
  | waits busy request =>
    simp [Tally.ofReaction, wait, Mail.task?_of_isRequest request] at mem
  | intercepted => simp [Tally.ofReaction, Mail.task?] at mem
  | ordered | asks | refuses => simp [Tally.ofReaction, Command.task] at mem
  | _ => exact absurd mem (Multiset.notMem_zero _)

/-- Somebody is told of a loss only by the end of a current release for a tear-down. -/
theorem Rule.released_of_notice {notice : LossNotice}
    (h : Rule s m.connection m.interceptor m.phase mail r)
    (mem : .notice notice ∈ (m.after s mail r).2) :
    ∃ request : TearDown, mail = .releaseDone (.tearDown request) ∧
      request.generation = m.connection.generation := by
  obtain ⟨phase, c, i, mailbox, deferred, outbox, halt⟩ := m
  rcases Controller.mem_after mem with hown | ⟨-, request, hdropped⟩ | ⟨-, target, arrival, hnext,
    hmoved | hentered⟩
  · cases h with
    | ignores =>
      rcases List.mem_cons.mp hown with hignored | hdropped
      · cases hignored
      · obtain ⟨request, -, hrequest⟩ := Option.map_eq_some_iff.mp (Option.mem_toList.mp hdropped)
        cases hrequest
    | joins | vacuous | strange | leaves =>
      rcases List.mem_cons.mp hown with hhandled | hlast
      · cases hhandled
      · cases List.mem_singleton.mp hlast
    | waits | impossible | intercepted | ordered | releases | answers | resets =>
      cases List.mem_singleton.mp hown
    | fails | asks | accepts | refuses | released | hears | stops => cases hown
  · cases hdropped
  · cases hmoved
  · cases h with
    | @released _ purpose awaited current =>
      cases purpose with
      | tearDown request => exact ⟨request, rfl, current⟩
      | cleanUp request =>
        cases hnext
        cases List.mem_singleton.mp hentered
    | intercepted | ordered | releases | refuses | resets =>
      cases hnext
      cases hentered
    | fails | accepts =>
      cases hnext
      cases List.mem_singleton.mp hentered
    | _ => cases hnext

end

namespace Scene

variable {ι : Type} [Interceptor ι] {w : Scene ι} {act : Act ι} {request : TearDown}
  {s : Setting} {i : ι} {acts : List (Act ι)} {attached : List String}

/-! ### From the order to the end -/

/-- A tear-down that takes the bearer down orders its release in the current generation. -/
theorem Begins.ordered (h : w.Begins act request) :
    .release (.tearDown (request.stamped w.controller.connection)) ∈
        (w.step act).1.bearer.tasks ∧
      (w.step act).1.controller.connection.generation =
        w.controller.connection.generation := by
  obtain ⟨hup, ⟨rfl, rest, first⟩, hreleasing⟩ := h
  obtain ⟨r, -, hrule, hstep⟩ := step_turn first
  rw [hstep] at hreleasing ⊢
  obtain ⟨hhalt, hstays, hissued⟩ :=
    hrule.releases_tearDown (m := w.controller.withMailbox rest) hup hreleasing
  refine ⟨?_, hrule.generation_stays (m := w.controller.withMailbox rest) hstays⟩
  rw [show (w.withController _).bearer.tasks = _ from
    w.bearer.tasks_after w.setting (w.controller.withMailbox rest) _ hhalt]
  exact Multiset.mem_add.mpr (Or.inr hissued)

/-- A release for a tear-down is ordered by a tear-down that takes the bearer down. -/
theorem begins_of_orders {done : TearDown} (h : w.Orders act (.release (.tearDown done))) :
    ∃ request, w.Begins act request ∧ done = request.stamped w.controller.connection := by
  obtain ⟨mail, rest, r, ⟨rfl, first, hrule, hafter, -⟩, -, hissued⟩ := h
  obtain ⟨request, rfl, hdone, hup, hreleasing⟩ :=
    hrule.tearDown_of_issued (m := w.controller.withMailbox rest) hissued
  refine ⟨request, ⟨hup, ⟨rfl, rest, first⟩, ?_⟩, hdone⟩
  rw [hafter]
  exact hreleasing

/-- Whoever was attached when the bearer was taken down is listed in the request that has come
back, each once. -/
theorem Concludes.listed
    (h : (start s i).Concludes acts act request attached)
    (entries : idleEntries ((start s i).run acts).2 < 2 ^ 64) :
    ∃ done : TearDown, ((start s i).run acts).1.Handles act (.releaseDone (.tearDown done)) ∧
      done.generation = ((start s i).run acts).1.controller.connection.generation ∧
      done.number = request.number ∧ done.client = request.client ∧
      done.reason = request.reason ∧ done.detached = attached ∧ attached.Nodup := by
  obtain ⟨⟨earlier, begin_act, later, rfl, hbegins, rfl, hunreset⟩, done, hnumber, hdone⟩ := h
  have hlive : ((start s i).run earlier).1.bearer.isHalted = false := by
    obtain ⟨-, ⟨-, rest, first⟩, -⟩ := hbegins
    exact live_of_mailbox first
  obtain ⟨hordered, hgeneration⟩ := hbegins.ordered
  have hrolled := rolled_run s i earlier
  rw [List.append_cons] at entries hdone ⊢
  have hrun := congrArg Prod.fst ((start s i).run_concat earlier begin_act)
  rw [← hrun] at hordered hgeneration hunreset
  obtain ⟨hsame, hcurrent⟩ := done_of_ordered entries hordered hgeneration.symm hunreset hdone
    (congrArg RequestId.tearDown hnumber)
  rw [ReleasePurpose.tearDown.inj hsame] at hdone
  refine ⟨_, hdone, hcurrent, rfl, rfl, rfl, ?_, ?_⟩
  · exact (hrolled.membership_eq hlive).symm
  · rw [hrolled.membership_eq hlive]
    exact (hrolled.staffed hlive).nodup

/-- The end of the release tells the request first, and then everybody on the list but the one that
asked. -/
theorem Concludes.ends (h : (start s i).Concludes acts act request attached)
    (entries : idleEntries ((start s i).run acts).2 < 2 ^ 64) :
    ∃ done : TearDown, done.number = request.number ∧
      (((start s i).run acts).1.step act).2 = .moved .releasing .idle :: .tornDown done ::
        if ((start s i).run acts).1.setting.trackerOpen then
          (attached.filter (some · ≠ request.client)).map
            fun client => .notice ⟨s.id, client, request.reason⟩
        else [] := by
  obtain ⟨done, hdone, hcurrent, hnumber, hclient, hreason, rfl, -⟩ := h.listed entries
  refine ⟨done, hnumber, (step_release entries hdone hcurrent).2.trans ?_⟩
  obtain ⟨radioOn, trackerOpen, hsetting⟩ := (start s i).setting_eq_run acts
  rw [← hclient, ← hreason, hsetting]
  rfl

/-- Somebody is told of a loss only when the release is done that a tear-down has begun. -/
theorem concludes_of_notice {notice : LossNotice}
    (entries : idleEntries ((start s i).run acts).2 < 2 ^ 64)
    (mem : .notice notice ∈ (((start s i).run acts).1.step act).2) :
    ∃ request attached, (start s i).Concludes acts act request attached := by
  rcases (((start s i).run acts).1.change_step act).turned_or_quiet with
    ⟨mail, rest, r, rfl, first, hrule, -, hevents⟩ | hquiet
  · rw [hevents] at mem
    obtain ⟨done, rfl, hcurrent⟩ :=
      hrule.released_of_notice (m := Controller.withMailbox _ rest) mem
    have hdone : ((start s i).run acts).1.Handles .turn (.releaseDone (.tearDown done)) :=
      ⟨rfl, rest, first⟩
    obtain ⟨earlier, begin_act, later, rfl, horders, hunreset⟩ :=
      ordered_of_current entries (live_of_mailbox first) (mem_tasks_of_handles hdone rfl) hcurrent
    obtain ⟨request, hbegins, hsame⟩ := begins_of_orders horders
    refine ⟨request, _, ⟨earlier, begin_act, later, rfl, hbegins, rfl, hunreset⟩, done, ?_, hdone⟩
    rw [hsame]
    rfl
  · rcases hquiet.events _ mem with ⟨call, command, h⟩ | ⟨-, dropped, h⟩
    · cases h
    · cases h

/-- A release ends once. -/
theorem Concludes.once {earlier later : List (Act ι)} {past : Act ι} {attached' : List String}
    (h : (start s i).Concludes earlier past request attached)
    (entries : idleEntries ((start s i).run (earlier ++ past :: later)).2 < 2 ^ 64) :
    ¬ (start s i).Concludes (earlier ++ past :: later) act request attached' := by
  rintro ⟨-, done, hnumber, hdone⟩
  obtain ⟨done', hnumber', hevents⟩ :=
    h.ends ((idleEntries_run_le _ earlier (past :: later)).trans_lt entries)
  -- what is reported done is under way, and what has been completed is not
  have hunsettled := not_settled_of_atWork (mem_atWork_of_handles hdone rfl)
  refine hunsettled ?_
  rw [show (Task.release (.tearDown done)).request.id = .tearDown done'.number from
    congrArg RequestId.tearDown (hnumber.trans hnumber'.symm)]
  rw [run_append, run_cons, settled_append, settled_append, hevents]
  refine Multiset.mem_add.mpr (Or.inr (Multiset.mem_add.mpr (Or.inl ?_)))
  exact Multiset.mem_add.mpr (Or.inl (Multiset.mem_coe.mpr List.mem_cons_self))

end Scene

/-- Whoever is attached when a tear-down takes the bearer down is told of the loss when the radio is
done with the release, after the tear-down itself, each once and in the order in which they joined,
but not the one that asked; and nobody is told of a loss at any other time. -/
theorem losses_told_once {ι : Type} [Interceptor ι] (s : Setting) (i : ι) (acts : List (Act ι))
    (act : Act ι) (entries : idleEntries ((Scene.start s i).run acts).2 < 2 ^ 64) :
    (∀ request attached, (Scene.start s i).Concludes acts act request attached →
      ((Scene.start s i).run acts).1.setting.trackerOpen = true →
        attached.Nodup ∧ ∃ done : TearDown, done.number = request.number ∧
          (((Scene.start s i).run acts).1.step act).2 =
            .moved .releasing .idle :: .tornDown done ::
              (attached.filter (some · ≠ request.client)).map
                fun client => .notice ⟨s.id, client, request.reason⟩) ∧
    (∀ notice, .notice notice ∈ (((Scene.start s i).run acts).1.step act).2 →
      ∃ request attached, (Scene.start s i).Concludes acts act request attached) ∧
    ∀ earlier past later request attached attached', acts = earlier ++ past :: later →
      (Scene.start s i).Concludes earlier past request attached →
        ¬ (Scene.start s i).Concludes acts act request attached' := by
  refine ⟨fun request attached concludes opened => ?_, ?_, ?_⟩
  · obtain ⟨-, -, -, -, -, -, -, hnodup⟩ := concludes.listed entries
    obtain ⟨done, hnumber, hevents⟩ := concludes.ends entries
    rw [if_pos opened] at hevents
    exact ⟨hnodup, done, hnumber, hevents⟩
  · exact fun notice mem => Scene.concludes_of_notice entries mem
  · rintro earlier past later request attached attached' rfl concludes
    exact concludes.once entries

/-- A world with the cellular technology, in which someone listens to the notices. -/
def Setting.attentive : Setting where
  technology := CellularAccess.technology {}
  trackerOpen := true

/-- Two clients share a bearer, and a tear-down for all of them is on its way. -/
def sharedBearer : List (Act Unit) :=
  [.ask (.bringUp "a" {}), .take, .turn, .turn, .answer 0 { setUp := some (.ok plainReply) },
    .take, .turn, .ask (.bringUp "b" {}), .take, .turn, .ask (.tearDown none "over"), .take]

/-- The tear-down for all. -/
def sharedTearDown : TearDown where
  number := 0
  client := none
  reason := "over"

/-- Both are told as soon as the radio is done. -/
theorem losses_told_once_shared :
    idleEntries ((Scene.start .attentive ()).run (sharedBearer ++ .turn :: radioReleases)).2 <
      2 ^ 64 ∧
    (Scene.start .attentive ()).Concludes (sharedBearer ++ .turn :: radioReleases) .turn
      sharedTearDown ["a", "b"] ∧
    ∃ done : TearDown, done.number = 0 ∧
      (((Scene.start .attentive ()).run (sharedBearer ++ .turn :: radioReleases)).1.step .turn).2 =
        [.moved .releasing .idle, .tornDown done, .notice ⟨1, "a", "over"⟩,
          .notice ⟨1, "b", "over"⟩] := by
  have hcalm : ∀ act ∈ (sharedBearer ++ [.turn]) ++ radioReleases, act.IsCalm := by
    simp [sharedBearer, radioReleases, Act.IsCalm]
  have hunreset := Scene.unreset_of_calm (s := .attentive) (i := ()) hcalm
  rw [Scene.run_concat] at hunreset
  have hdone : ((Scene.start .attentive ()).run (sharedBearer ++ .turn :: radioReleases)).1.Handles
      .turn (.releaseDone (.tearDown ⟨0, none, "over", 1, ["a", "b"]⟩)) := ⟨rfl, [], rfl⟩
  have hconcludes : (Scene.start .attentive ()).Concludes
      (sharedBearer ++ .turn :: radioReleases) .turn sharedTearDown ["a", "b"] :=
    ⟨⟨sharedBearer, .turn, radioReleases, rfl, ⟨rfl, ⟨rfl, [], rfl⟩, rfl⟩, rfl, hunreset⟩,
      ⟨0, none, "over", 1, ["a", "b"]⟩, rfl, hdone⟩
  obtain ⟨htold, -⟩ := losses_told_once .attentive ()
    (sharedBearer ++ .turn :: radioReleases) .turn (by decide)
  obtain ⟨-, done, hnumber, hevents⟩ := htold sharedTearDown ["a", "b"] hconcludes rfl
  exact ⟨by decide, hconcludes, done, hnumber, hevents⟩

end PacketBearer
