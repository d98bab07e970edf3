/-
What stops a bearer.

A bearer stops when it is told to.  There is one other thing that stops it: a request that an idle
bearer admits, for a technology whose number at the radio does not fit.  Then the bearer halts, and
whatever waits in its mail goes with it.

* `Rule.halts_iff` — which mail halts a bearer, and in which phase;
* `exists_turns` — a bearer comes to rest whatever it has to do;
* `unharmed_run` — where nobody sends such mail, the bearer works on;
* `stops_iff` — a bearer stops exactly where it handles such mail, and it has been sent some;
* `stopped_stranger` — so a request of one client takes the request of another with it.
-/
import Mathlib.Tactic.Push
import PacketBearer.Proofs.Custody
import PacketBearer.Proofs.Record

namespace PacketBearer

/-- The radio has no number for the technology that an access point calls for. -/
def CellularAccess.Overtaxes (c : CellularAccess) (ap : AccessPoint) : Prop :=
  0xFFFFFFFE ≤ c.technologyFor ap

instance (c : CellularAccess) (ap : AccessPoint) : Decidable (c.Overtaxes ap) :=
  inferInstanceAs (Decidable (0xFFFFFFFE ≤ c.technologyFor ap))

/-- The world with this cellular technology. -/
def Setting.on (s : Setting) (c : CellularAccess) : Setting := { s with technology := c.technology }

/-- The mail halts a bearer that finds it in this phase. -/
def Mail.Halts (c : CellularAccess) (phase : Phase) (mail : Mail) : Prop :=
  mail = .stop ∨ phase = .idle ∧ ∃ request, mail = .bringUp request ∧
    c.Overtaxes request.accessPoint

/-- The mail halts a bearer in some phase. -/
def Mail.isPerilous (c : CellularAccess) : Mail → Bool
  | stop => true
  | bringUp request => decide (c.Overtaxes request.accessPoint)
  | _ => false

/-- The bearer is told to stop, or asked for what the radio has no number for. -/
def Act.isPerilous {ι : Type} (c : CellularAccess) : Act ι → Bool
  | stop => true
  | ask (.bringUp _ accessPoint) => decide (c.Overtaxes accessPoint)
  | _ => false

theorem Mail.Halts.isPerilous {c : CellularAccess} {phase : Phase} {mail : Mail}
    (h : mail.Halts c phase) : mail.isPerilous c = true := by
  rcases h with rfl | ⟨-, request, rfl, hovertaxes⟩
  · rfl
  · exact decide_eq_true hovertaxes

/-- The mail that halts a bearer in some phase. -/
def Tally.perils (c : CellularAccess) : Tally Nat where
  ofMail mail := if mail.isPerilous c then 1 else 0
  ofCommand _ := 0
  answered {_ command _} h := by
    cases command <;>
    · simp only [Command.completion?, Option.map_eq_some_iff] at h
      obtain ⟨answer, -, rfl⟩ := h
      rfl

section

variable {ι : Type} [Interceptor ι] {s : Setting}

/-! ### Reactions -/

/-- A reaction halts a bearer that is told to stop, or that is idle and cannot express an order. -/
theorem Rule.halts_iff {c : Connection} {i : ι} {p : Phase} {mail : Mail} {r : Reaction ι}
    {access : CellularAccess} (h : Rule s c i p mail r)
    (technology : s.technology = access.technology) : r.halt ≠ none ↔ mail.Halts access p := by
  have overtaxes_iff : ∀ request : BringUp,
      s.technology.orderFor? request.accessPoint = none ↔
        access.Overtaxes request.accessPoint := by
    intro request
    rw [technology]
    exact CellularAccess.orderFor?_eq_none_iff
  cases h with
  | stops => exact iff_of_true (by simp) (Or.inl rfl)
  | @impossible request order =>
    exact iff_of_true (by simp) (Or.inr ⟨rfl, request, rfl, (overtaxes_iff request).mp order⟩)
  | @intercepted request _ _ _ ordered | @ordered request _ _ ordered =>
    refine iff_of_false (by simp) ?_
    rintro (hstop | ⟨-, other, hother, hovertaxes⟩)
    · cases hstop
    · cases hother
      rw [(overtaxes_iff request).mpr hovertaxes] at ordered
      cases ordered
  | waits busy request =>
    refine iff_of_false (by simp [wait]) ?_
    rintro (rfl | ⟨rfl, -⟩)
    · cases request
    · cases busy
  | ignores reports =>
    refine iff_of_false (by simp [ignore]) ?_
    rintro (rfl | ⟨-, request, rfl, -⟩)
    · cases reports
    · cases reports
  | fails setback =>
    refine iff_of_false (by simp [fail]) ?_
    rintro (rfl | ⟨hidle, -⟩)
    · cases setback
    · cases hidle
  | joins =>
    refine iff_of_false (by simp [join]) ?_
    rintro (hstop | ⟨hidle, -⟩)
    · cases hstop
    · cases hidle
  | _ =>
    refine iff_of_false (fun hhalt => hhalt rfl) ?_
    rintro (hstop | ⟨-, request, hmail, -⟩)
    · cases hstop
    · cases hmail

/-- What does no harm by itself leaves nothing behind that does. -/
theorem Rule.perils {c : Connection} {i : ι} {p : Phase} {mail : Mail} {r : Reaction ι}
    {access : CellularAccess} (h : Rule s c i p mail r)
    (harmless : (Tally.perils access).ofMail mail = 0) :
    (Tally.perils access).ofReaction mail r = 0 := by
  cases h with
  | waits => simpa [Tally.ofReaction, wait] using harmless
  | _ => rfl

end

/-! ### Acts -/

namespace Scene

variable {ι : Type} [Interceptor ι] {w w' : Scene ι} {act : Act ι} {events : List Event}
  {c : CellularAccess}

/-- A bearer that works stops at an act exactly if it handles mail that halts it. -/
theorem halted_step_iff (technology : w.setting.technology = c.technology)
    (live : w.bearer.isHalted = false) :
    (w.step act).1.bearer.isHalted = true ↔
      ∃ mail, w.Handles act mail ∧ mail.Halts c w.controller.phase := by
  by_cases hhandles : ∃ mail, w.Handles act mail
  · obtain ⟨mail, rfl, rest, first⟩ := hhandles
    obtain ⟨r, -, hrule, hstep⟩ := step_turn first
    have hlive : (w.step .turn).1.bearer.isHalted = false ↔ r.halt = none := by
      rw [hstep]
      exact Controller.live_after_iff.trans (and_iff_left live)
    rw [← Bool.not_eq_false, hlive, ← ne_eq, hrule.halts_iff technology]
    refine ⟨fun hhalts => ⟨mail, ⟨rfl, rest, first⟩, hhalts⟩, ?_⟩
    rintro ⟨mail', ⟨-, rest', first'⟩, hhalts⟩
    rw [first] at first'
    cases first'
    exact hhalts
  · -- a bearer that handles nothing is as it was
    refine iff_of_false (fun halted => ?_) fun ⟨mail, hmail, _⟩ => hhandles ⟨mail, hmail⟩
    rcases (w.change_step act).turned_or_quiet with ⟨mail, rest, r, hact, first, -⟩ | hquiet
    · exact hhandles ⟨mail, hact, rest, first⟩
    · rw [Bearer.isHalted, Controller.isHalted, hquiet.halt] at halted
      exact absurd halted (Bool.eq_false_iff.mp live)

/-- The bearer works, and nothing that could halt it is on its way. -/
structure Unharmed (c : CellularAccess) (w : Scene ι) : Prop where
  live : w.bearer.isHalted = false
  safe : (Tally.perils c).ofBearer w.bearer = 0

omit [Interceptor ι] in
theorem Sends.perils {mail : Mail} (h : w.Sends act mail) (harmless : act.isPerilous c = false) :
    (Tally.perils c).ofMail mail = 0 := by
  cases h with
  | ask wish =>
    cases wish with
    | bringUp client accessPoint =>
      have hfits : ¬ c.Overtaxes accessPoint := of_decide_eq_false harmless
      simp [Tally.perils, mailOf, Mail.isPerilous, hfits]
    | tearDown => rfl
  | stop => cases harmless
  | inquire | hear => rfl

theorem Change.unharmed (h : Change w act w' events) (numbered : w.bearer.Numbered)
    (technology : w.setting.technology = c.technology) (harmless : act.isPerilous c = false)
    (unharmed : w.Unharmed c) : w'.Unharmed c := by
  obtain ⟨hlive, hsafe⟩ := unharmed
  rcases h.tally (Tally.perils c) numbered hlive with
    ⟨mail, rest, r, rfl, first, hrule, rfl, rfl⟩ | ⟨hquiet, sent, hsent, htally⟩
  · rw [tally_first (Tally.perils c) first] at hsafe
    obtain ⟨hmail, hrest⟩ := Nat.add_eq_zero_iff.mp hsafe
    have hhalt : r.halt = none := by
      by_contra hhalts
      have hperilous := ((hrule.halts_iff technology).mp hhalts).isPerilous
      simp [Tally.perils, hperilous] at hmail
    refine ⟨Controller.live_after_iff.mpr ⟨hhalt, hlive⟩, ?_⟩
    exact (tally_react (Tally.perils c) w.setting w.bearer _ mail hhalt).trans
      (Nat.add_eq_zero_iff.mpr ⟨hrest, hrule.perils hmail⟩)
  · have hnone : (Tally.perils c).ofMails sent = 0 :=
      Tally.ofMails_eq_zero _ fun mail hmail => (hsent mail hmail).perils harmless
    refine ⟨?_, by rw [htally, hsafe, hnone]⟩
    rw [Bearer.isHalted, Controller.isHalted, hquiet.halt]
    exact hlive

/-! ### Runs -/

/-- Where nobody sends what could halt the bearer, it works on. -/
theorem unharmed_run {acts : List (Act ι)} (numbered : w.bearer.Numbered)
    (technology : w.setting.technology = c.technology) (unharmed : w.Unharmed c)
    (harmless : ∀ act ∈ acts, act.isPerilous c = false) : (w.run acts).1.Unharmed c := by
  induction acts generalizing w with
  | nil => exact unharmed
  | cons act acts ih =>
    obtain ⟨hact, hacts⟩ := List.forall_mem_cons.mp harmless
    have hchange := w.change_step act
    have hsetting := (setting_run w [act]).1
    exact ih (hchange.numbered numbered) (hsetting.trans technology)
      (hchange.unharmed numbered technology hact unharmed) hacts

omit [Interceptor ι] in
theorem unharmed_start (s : Setting) (i : ι) : (start s i).Unharmed c := ⟨rfl, rfl⟩

/-- To work until nothing is left to do takes a number of turns. -/
theorem exists_turns (w : Scene ι) : ∃ n, (w.run (List.replicate n .turn)).1.Resting := by
  suffices h : ∀ b, ∃ n, ((w.withBearer b).run (List.replicate n .turn)).1.Resting from h w.bearer
  intro b
  fun_induction Bearer.drive w.setting b with
  | case1 b h => exact ⟨0, Bearer.turn_eq_none_iff.mp h⟩
  | case2 b b' now h _ b'' later hdrive ih =>
    obtain ⟨n, hn⟩ := ih
    refine ⟨n + 1, ?_⟩
    rw [List.replicate_succ, run_cons, step_turn_eq h]
    exact hn

end Scene

/-- A bearer stops exactly where it is told to, or where it is idle and finds a request for a
technology that the radio has no number for; somebody has asked for that, then.  And whatever has
been sent, it comes to rest. -/
theorem stops_iff {ι : Type} [Interceptor ι] (s : Setting) (c : CellularAccess) (i : ι)
    (acts : List (Act ι)) :
    (∀ act, ((Scene.start (s.on c) i).run acts).1.bearer.isHalted = false →
      ((((Scene.start (s.on c) i).run acts).1.step act).1.bearer.isHalted = true ↔
        ∃ mail, ((Scene.start (s.on c) i).run acts).1.Handles act mail ∧
          mail.Halts c ((Scene.start (s.on c) i).run acts).1.controller.phase)) ∧
    (((Scene.start (s.on c) i).run acts).1.bearer.isHalted = true →
      .stop ∈ acts ∨ ∃ client accessPoint,
        .ask (.bringUp client accessPoint) ∈ acts ∧ c.Overtaxes accessPoint) ∧
    ∃ n, ((Scene.start (s.on c) i).run (acts ++ List.replicate n .turn)).1.Resting := by
  refine ⟨fun act live => ?_, fun halted => ?_, ?_⟩
  · exact Scene.halted_step_iff (Scene.setting_run _ acts).1 live
  · by_contra hnone
    push Not at hnone
    obtain ⟨hstop, hask⟩ := hnone
    -- nobody has sent anything that could have halted the bearer
    have harmless : ∀ act ∈ acts, act.isPerilous c = false := by
      intro act hact
      cases act with
      | stop => exact absurd hact hstop
      | ask wish =>
        cases wish with
        | bringUp client accessPoint => exact decide_eq_false (hask client accessPoint hact)
        | tearDown => rfl
      | _ => rfl
    have hlive := (Scene.unharmed_run (Bearer.numbered_start i) rfl
      (Scene.unharmed_start (s.on c) i) harmless).live
    rw [hlive] at halted
    cases halted
  · obtain ⟨n, hn⟩ := ((Scene.start (s.on c) i).run acts).1.exists_turns
    refine ⟨n, ?_⟩
    rw [Scene.run_append]
    exact hn

/-- The highest number of a technology that the radio has a number for is asked for, and the bearer
is told to stop. -/
def highest : List (Act (Option FailureCountdown)) :=
  [.ask (.bringUp "a" { boundTechnology := 0xFFFFFFFD }), .take, .turn, .turn, .stop, .take]

/-- The request is admitted then, and the bearer stops as it is told to. -/
theorem stops_highest :
    (((Scene.start .cellular none).run highest).1.bearer.isHalted = false ∧
      ((Scene.start .cellular none).run highest).1.controller.phase = .settingUp) ∧
    (((Scene.start .cellular none).run highest).1.step .turn).1.bearer.isHalted = true := by
  have live : ((Scene.start .cellular none).run highest).1.bearer.isHalted = false := by decide
  refine ⟨⟨live, by decide⟩, ?_⟩
  exact ((stops_iff .cellular {} none highest).1 .turn live).mpr
    ⟨.stop, ⟨rfl, [], rfl⟩, Or.inl rfl⟩

/-- One client asks for a technology that the radio has no number for, and another for any. -/
def strangers : List (Act (Option FailureCountdown)) :=
  [.ask (.bringUp "a" { boundTechnology := 0xFFFFFFFF }), .ask (.bringUp "b" {}), .take, .turn,
    .take]

/-- The bearer has stopped then, which nobody has told it to, and has given up both requests. -/
theorem stopped_stranger :
    Act.stop ∉ strangers ∧
      ((Scene.start .cellular none).run strangers).1.bearer.isHalted = true ∧
      dropped ((Scene.start .cellular none).run strangers).2 = {.bringUp 0, .bringUp 1} :=
  ⟨by simp [strangers], by decide, by decide⟩

end PacketBearer
