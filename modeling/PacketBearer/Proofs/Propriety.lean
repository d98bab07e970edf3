/-
Cases that are provided for, and never come up.

Mail that a phase has no rule for falls to the rules of last resort, and on entering a phase each
arrival is provided for, fitting or not.  Some of these provisions would report a failure that has
not happened, or lose the outcome of a request.  None of them is ever needed.

* `react_of_no_rule` — the rules of last resort, told from the rules of the phases;
* `Rule.leadsTo`, `Rule.completes`, `Rule.not_succeeded` — what a reaction can ask for as the next
  phase, and what that phase can begin with;
* `Rule.not_failed` — a bring-up is never failed as it is handled;
* `nothing_improper` — in every run, every act is proper.
-/
import PacketBearer.Proofs.Release

namespace PacketBearer

variable {ι : Type}

/-! ### Rules of last resort -/

/-- The mail that a phase has a rule of its own for. -/
def Phase.hasRuleFor : Phase → Mail → Bool
  | idle, .bringUp _ | idle, .tearDown _ | idle, .inquiry _ .reset => true
  | settingUp, .bringUp _ | settingUp, .setUpDone _ _ | settingUp, .lastCauseDone _ _ => true
  | up, .bringUp _ | up, .tearDown _ => true
  | releasing, .bringUp _ | releasing, .releaseDone _ => true
  | cleaningUp, .bringUp _ | cleaningUp, .releaseDone _ => true
  | _, _ => false

@[simp] theorem Phase.leadsTo_idle (p : Phase) : p.leadsTo .idle = true := by
  cases p <;> rfl

/-- What mail brings about that no rule of the phase is for. -/
def lastResort (s : Setting) (phase : Phase) (c : Connection) (i : ι) (mail : Mail) :
    Reaction ι :=
  match mail with
  | .bringUp request =>
    { connection := c, interceptor := i
      events := [.broughtUp request (.error ⟨.unknown, none⟩)] }
  | .tearDown _ => wait c i mail
  | .setUpDone _ _ | .lastCauseDone _ _ | .releaseDone _ => ignore c i mail
  | .radioConnected result => noted { c with radioVersion := result.toOption.getD (-1) } i
  | .inquiry number inquiry =>
    { connection := (c.answer s phase inquiry).2, interceptor := i
      events := [.answered number (c.answer s phase inquiry).1]
      next := if inquiry = .reset then some (.idle, .quiet) else none }
  | .stop => { connection := c, interceptor := i, halt := some .told }

/-- Mail that a phase has no rule for meets the rules of last resort. -/
theorem react_of_no_rule [Interceptor ι] (s : Setting) {phase : Phase} (c : Connection) (i : ι)
    {mail : Mail} (unruled : phase.hasRuleFor mail = false) :
    react s phase c i mail = lastResort s phase c i mail := by
  cases mail with
  | bringUp | tearDown => cases phase <;> first | rfl | cases unruled
  | setUpDone | lastCauseDone =>
    have hphase : phase ≠ .settingUp := by
      rintro rfl
      cases unruled
    exact if_neg fun h => hphase h.1
  | releaseDone =>
    refine if_neg fun h => ?_
    rcases h.1 with rfl | rfl
    · cases unruled
    · cases unruled
  | inquiry number inquiry =>
    rw [react, lastResort]
    by_cases hreset : inquiry = .reset
    · -- only an idle bearer has a rule of its own for a reset
      have hphase : phase ≠ .idle := by
        rintro rfl
        rw [hreset] at unruled
        cases unruled
      rw [if_pos ⟨hreset, hphase⟩, if_pos hreset]
    · rw [if_neg fun h => hreset h.1, if_neg hreset]
  | radioConnected | stop => rfl

/-! ### Proper acts -/

/-- The event is the outcome of the request. -/
inductive Event.Completes : Event → ClientRequest → Prop
  | broughtUp (request : BringUp) (outcome : BringUpOutcome) :
    Completes (.broughtUp request outcome) (.bringUp request)
  | tornDown (request : TearDown) : Completes (.tornDown request) (.tearDown request)

namespace Scene

variable [Interceptor ι]

/-- What a piece of mail brings about here. -/
def reaction (w : Scene ι) (mail : Mail) : Reaction ι :=
  react w.setting w.controller.phase w.controller.connection w.controller.interceptor mail

/-- The bearer changes its phase at an act, and the next phase begins with this arrival. -/
def Enters (w : Scene ι) (act : Act ι) (target : Phase) (arrival : Arrival) : Prop :=
  ∃ mail, w.Handles act mail ∧ (w.reaction mail).halt = none ∧
    (w.reaction mail).next = some (target, arrival)

/-- Nothing happens at an act that is provided for only in case that something has gone wrong. -/
structure Proper (w : Scene ι) (act : Act ι) : Prop where
  /-- Every change of phase is one that the table of transitions has. -/
  leads : ∀ target arrival, w.Enters act target arrival →
    w.controller.phase.leadsTo target = true
  /-- No other change of phase is seen. -/
  seen : ∀ source target, .moved source target ∈ (w.step act).2 →
    source = w.controller.phase ∧ ∃ arrival, w.Enters act target arrival
  /-- A bring-up never meets the rules of last resort. -/
  ruled : ∀ request, w.Handles act (.bringUp request) →
    w.controller.phase.hasRuleFor (.bringUp request) = true
  /-- No bring-up is failed as one is handled. -/
  unfailed : ∀ request other failure, w.Handles act (.bringUp request) →
    .broughtUp other (.error failure) ∉ (w.step act).2
  /-- The request that a phase begins with is completed, and not given up. -/
  completed : ∀ target arrival request, w.Enters act target arrival →
    arrival.request? = some request →
      (∃ event ∈ (w.step act).2, event.Completes request) ∧ .dropped request ∉ (w.step act).2
  /-- No idle phase begins with a success. -/
  unsucceeded : ∀ request, ¬ w.Enters act .idle (.succeeded request)
  /-- The end of a current release comes in the phase that has ordered it. -/
  released : ∀ purpose, w.Handles act (.releaseDone purpose) →
    purpose.generation = w.controller.connection.generation →
      w.controller.phase = purpose.phase

end Scene

/-! ### Reactions -/

section

variable [Interceptor ι] {s : Setting} {c : Connection} {i : ι} {p target : Phase} {mail : Mail}
  {r : Reaction ι} {arrival : Arrival}

/-- The next phase is one that may follow. -/
theorem Rule.leadsTo (h : Rule s c i p mail r) (next : r.next = some (target, arrival)) :
    p.leadsTo target = true := by
  cases h with
  | intercepted | ordered | fails | accepts | refuses | releases =>
    cases next
    rfl
  | released | resets =>
    cases next
    exact p.leadsTo_idle
  | _ => cases next

/-- No reaction asks for an idle phase that begins with a success. -/
theorem Rule.not_succeeded (h : Rule s c i p mail r) (request : BringUp) :
    r.next ≠ some (.idle, .succeeded request) := by
  intro next
  cases h with
  | @released _ purpose =>
    cases purpose with
    | tearDown | cleanUp => cases next
  | _ => cases next

/-- The request that a phase begins with is completed there. -/
theorem Rule.completes (h : Rule s c i p mail r) (next : r.next = some (target, arrival))
    {request : ClientRequest} (carried : arrival.request? = some request) :
    ∃ event ∈ (r.connection.enter s target arrival).2, event.Completes request := by
  cases h with
  | intercepted | ordered | refuses | releases | resets =>
    cases next
    cases carried
  | fails | accepts =>
    cases next
    cases carried
    exact ⟨_, List.mem_singleton_self _, .broughtUp _ _⟩
  | @released _ purpose =>
    rw [onReleaseDone_eq] at next
    cases next
    cases purpose with
    | tearDown request' =>
      cases carried
      exact ⟨_, List.mem_cons_self, .tornDown request'⟩
    | cleanUp request' =>
      cases carried
      exact ⟨_, List.mem_singleton_self _, .broughtUp request' _⟩
  | _ => cases next

/-- What a bring-up leads to by itself begins with no request. -/
theorem Rule.quiet_of_bringUp {request : BringUp} (h : Rule s c i p (.bringUp request) r)
    (next : r.next = some (target, arrival)) : arrival = .quiet := by
  cases h with
  | intercepted | ordered =>
    cases next
    rfl
  | fails setback => cases setback
  | _ => cases next

/-- A bring-up is never failed as it is handled. -/
theorem Rule.not_failed {m : Controller ι} {request other : BringUp} {failure : SetupFailure}
    (h : Rule s m.connection m.interceptor m.phase (.bringUp request) r) :
    .broughtUp other (.error failure) ∉ (m.after s (.bringUp request) r).2 := by
  intro hfailed
  rcases Controller.mem_after hfailed with hown | ⟨-, dropped, hdropped⟩ |
    ⟨-, target, arrival, hnext, hmoved | hentered⟩
  · obtain ⟨-, -, -, hjoined⟩ := h.joins_of_mem hown
    cases hjoined
  · cases hdropped
  · cases hmoved
  · cases h.quiet_of_bringUp hnext
    rcases broughtUp_of_mem_enter hentered with ⟨hquiet, -⟩ | ⟨_, hquiet, -⟩
    · cases hquiet
    · cases hquiet

/-- Nothing is given up as a phase is entered. -/
theorem Rule.not_dropped {m : Controller ι} {request : ClientRequest}
    (h : Rule s m.connection m.interceptor m.phase mail r) (hlive : r.halt = none)
    (next : r.next = some (target, arrival)) : .dropped request ∉ (m.after s mail r).2 := by
  intro hdropped
  rcases Controller.mem_after hdropped with hown | ⟨hhalt, -⟩ |
    ⟨-, target', arrival', hnext, hmoved | hentered⟩
  · obtain ⟨phase, c, i, mailbox, deferred, outbox, halt⟩ := m
    cases h with
    | intercepted | ordered | releases | resets => cases List.mem_singleton.mp hown
    | fails | accepts | refuses | released => cases hown
    | _ => cases next
  · exact hhalt hlive
  · cases hmoved
  · exact h.enters hnext request hentered

end

/-! ### Acts -/

namespace Scene

variable [Interceptor ι] {w : Scene ι} {act : Act ι} {target : Phase} {arrival : Arrival}

/-- What is handled meets one of the rules, and what can be seen of the act is seen of that. -/
theorem Handles.rule {mail : Mail} (handles : w.Handles act mail) :
    ∃ m : Controller ι, m.phase = w.controller.phase ∧
      Rule w.setting m.connection m.interceptor m.phase mail (w.reaction mail) ∧
      (w.step act).2 = (m.after w.setting mail (w.reaction mail)).2 := by
  obtain ⟨rfl, rest, first⟩ := handles
  obtain ⟨_, rfl, hrule, hstep⟩ := step_turn first
  refine ⟨w.controller.withMailbox rest, rfl, hrule, ?_⟩
  rw [hstep]
  rfl

/-- A change of phase that is seen is made. -/
theorem enters_of_moved {source : Phase} (moved : .moved source target ∈ (w.step act).2) :
    source = w.controller.phase ∧ ∃ arrival, w.Enters act target arrival := by
  rcases (w.change_step act).turned_or_quiet with ⟨mail, rest, r, rfl, first, -, -, -⟩ | hquiet
  · have hhandles : w.Handles .turn mail := ⟨rfl, rest, first⟩
    obtain ⟨m, hphase, hrule, hevents⟩ := hhandles.rule
    rw [hevents] at moved
    rcases Controller.mem_after moved with hown | ⟨-, dropped, hdropped⟩ |
      ⟨hlive, target', arrival, hnext, hmoved | hentered⟩
    · cases hrule.isOwn hown
    · cases hdropped
    · cases hmoved
      exact ⟨hphase, arrival, mail, hhandles, hlive, hnext⟩
    · rcases Connection.mem_enter hentered with ⟨_, _, h⟩ | ⟨_, h⟩ | ⟨_, h⟩ | ⟨_, h⟩ <;> cases h
  · rcases hquiet.events _ moved with ⟨call, command, h⟩ | ⟨-, request, h⟩ <;> cases h

/-- The request that a phase begins with is completed, and not given up. -/
theorem Enters.completes (enters : w.Enters act target arrival) {request : ClientRequest}
    (carried : arrival.request? = some request) :
    (∃ event ∈ (w.step act).2, event.Completes request) ∧ .dropped request ∉ (w.step act).2 := by
  obtain ⟨mail, hhandles, hlive, hnext⟩ := enters
  obtain ⟨m, -, hrule, hevents⟩ := hhandles.rule
  rw [hevents]
  obtain ⟨event, hmem, hcompletes⟩ := hrule.completes hnext carried
  refine ⟨⟨event, ?_, hcompletes⟩, hrule.not_dropped hlive hnext⟩
  exact Controller.mem_after_of_enter hlive hnext hmem

/-- Where the ends of current releases come in time, every act is proper. -/
theorem proper_of_released (released : ∀ purpose, w.Handles act (.releaseDone purpose) →
    purpose.generation = w.controller.connection.generation →
      w.controller.phase = purpose.phase) : w.Proper act where
  leads := by
    rintro target arrival ⟨mail, hhandles, -, hnext⟩
    obtain ⟨m, hphase, hrule, -⟩ := hhandles.rule
    rw [← hphase]
    exact hrule.leadsTo hnext
  seen _ _ moved := enters_of_moved moved
  ruled request _ := by cases w.controller.phase <;> rfl
  unfailed request other failure hhandles := by
    obtain ⟨m, -, hrule, hevents⟩ := hhandles.rule
    rw [hevents]
    exact hrule.not_failed
  completed _ _ _ enters carried := enters.completes carried
  unsucceeded := by
    rintro request ⟨mail, hhandles, -, hnext⟩
    obtain ⟨m, -, hrule, -⟩ := hhandles.rule
    exact hrule.not_succeeded request hnext
  released := released

end Scene

/-- Whatever has happened, nothing happens next that is provided for only in case that something
has gone wrong. -/
theorem nothing_improper [Interceptor ι] (s : Setting) (i : ι) (acts : List (Act ι)) (act : Act ι)
    (entries : idleEntries ((Scene.start s i).run acts).2 < 2 ^ 64) :
    ((Scene.start s i).run acts).1.Proper act := by
  refine Scene.proper_of_released fun purpose handles current => ?_
  -- a task of this generation is under way only in the phase that awaits it
  obtain ⟨-, rest, first⟩ := handles
  obtain ⟨others, -, hfits⟩ := fits_first s i entries first
  exact (hfits.of_current rfl current).phase_of_release

/-- An attempt has brought unusable parameters, and its bearer has been released. -/
def cleanedUp : List (Act Unit) :=
  [.ask (.bringUp "a" {}), .take, .turn, .turn,
    .answer 0 { setUp := some (.ok { plainReply with addresses := [] }) }, .take, .turn, .turn,
    .answer 1 { release := some (.error .genericFailure) }, .take]

/-- The end of that release comes in the phase that waits for it, and completes the request. -/
theorem nothing_improper_cleanedUp :
    idleEntries ((Scene.start .cellular ()).run cleanedUp).2 < 2 ^ 64 ∧
      ((Scene.start .cellular ()).run cleanedUp).1.Handles .turn
        (.releaseDone (.cleanUp firstRequest)) ∧
      ((Scene.start .cellular ()).run cleanedUp).1.Enters .turn .idle
        (.failed firstRequest ⟨.unacceptableNetworkParameter, none⟩) ∧
      ((Scene.start .cellular ()).run cleanedUp).1.Proper .turn := by
  have hhandles : ((Scene.start .cellular ()).run cleanedUp).1.Handles .turn
      (.releaseDone (.cleanUp firstRequest)) := ⟨rfl, [], rfl⟩
  exact ⟨by decide, hhandles, ⟨_, hhandles, rfl, rfl⟩,
    nothing_improper .cellular () cleanedUp .turn (by decide)⟩

end PacketBearer
