/-
A bearer that is handed a piece of mail comes to rest.

What a piece of mail brings up can be long: every change of phase puts all that was put aside back
in front, an intercepted set-up comes back as an answer, and so does a release while the radio is
off.  `Controller.effort` bounds the turns that are left, whatever the mail, the interceptor, the
technology and the radio's switch.  The bound is quadratic in what was put aside, and it has to be:
each of the requests may fail in turn, and all that are behind it wait once more.

* `Smaller.effort`, `run_turns` — each turn takes effort, so that there are no more turns than that;
* `calls_drive` — a call to the radio is the last thing that happens;
* `comes_to_rest` — so a bearer that takes a piece of mail has soon nothing left to do, and has
  called the radio once at most.
-/
import Mathlib.Tactic.Ring
import PacketBearer.Proofs.Attention
import PacketBearer.Proofs.Embedding
import PacketBearer.Proofs.Record

namespace PacketBearer

/-- The radio is given a command. -/
def Event.isCall : Event → Bool
  | .called _ _ => true
  | _ => false

/-! ### Effort -/

theorem length_le_mailWeight (mails : List Mail) : mails.length ≤ mailWeight mails := by
  induction mails with
  | nil => exact le_rfl
  | cons mail mails ih =>
    have hpos := mail.weight_pos
    rw [List.length_cons, mailWeight_cons]
    omega

theorem Mail.weight_le (mail : Mail) : mail.weight ≤ 6 := by
  cases mail <;> simp [weight]

theorem mailWeight_le (mails : List Mail) : mailWeight mails ≤ 6 * mails.length := by
  induction mails with
  | nil => exact le_rfl
  | cons mail mails ih =>
    have hweight := mail.weight_le
    rw [List.length_cons, mailWeight_cons]
    omega

namespace Controller

variable {ι : Type} {m n : Controller ι}

/-- A bound on the turns that a controller can take. -/
def effort (m : Controller ι) : Nat := m.weight * (m.weight + 1) + m.mailbox.length

theorem length_mailbox_le (m : Controller ι) : m.mailbox.length ≤ m.weight := by
  have hlength := length_le_mailWeight m.mailbox
  rw [weight]
  omega

/-- A turn that makes the measure smaller leaves less to do. -/
theorem Smaller.effort (h : Smaller m n) : m.effort < n.effort := by
  rw [Controller.effort, Controller.effort]
  rcases h with hweight | ⟨hweight, hlength⟩
  · -- what is lost in weight outweighs any mailbox
    have hlength := m.length_mailbox_le
    have hsquare : (m.weight + 1) * (m.weight + 2) ≤ n.weight * (n.weight + 1) :=
      Nat.mul_le_mul hweight (Nat.succ_le_succ hweight)
    have hexpand : (m.weight + 1) * (m.weight + 2) =
        m.weight * (m.weight + 1) + 2 * m.weight + 2 := by ring
    omega
  · rw [hweight]
    omega

/-- A controller that rests takes little effort for a piece of mail. -/
theorem effort_post (mailbox : m.mailbox = []) (outbox : m.outbox = []) (mail : Mail) :
    (m.post mail).effort ≤ 43 * (m.deferred.length + 1) ^ 2 := by
  have hweight : (m.post mail).weight ≤ 6 * (m.deferred.length + 1) := by
    have hmail := mail.weight_le
    have hdeferred := mailWeight_le m.deferred
    simp only [weight, post, mailbox, outbox, List.nil_append, mailWeight_cons, mailWeight_nil,
      commandWeight_nil]
    omega
  have hlength : (m.post mail).mailbox.length = 1 := by
    simp only [post, mailbox, List.nil_append, List.length_singleton]
  have hpos : 1 ≤ m.deferred.length + 1 := Nat.le_add_left 1 _
  rw [effort, hlength]
  generalize m.deferred.length + 1 = k at hweight hpos ⊢
  calc (m.post mail).weight * ((m.post mail).weight + 1) + 1
      ≤ 6 * k * (6 * k + 1) + 1 :=
        Nat.succ_le_succ (Nat.mul_le_mul hweight (Nat.succ_le_succ hweight))
    _ ≤ 6 * k * (6 * k + k) + k * k :=
        Nat.add_le_add (Nat.mul_le_mul_left _ (by omega)) (Nat.mul_le_mul hpos hpos)
    _ = 43 * k ^ 2 := by ring

end Controller

/-! ### Turns -/

section

variable {ι : Type} [Interceptor ι] {s : Setting}

/-- Handling a piece of mail does not call the radio. -/
theorem Rule.countP_isCall {m : Controller ι} {mail : Mail} {r : Reaction ι}
    (rule : Rule s m.connection m.interceptor m.phase mail r) :
    (m.after s mail r).2.countP Event.isCall = 0 := by
  rw [List.countP_eq_zero]
  intro event hevent hcall
  obtain ⟨call, command, rfl⟩ : ∃ call command, event = .called call command := by
    cases event with
    | called call command => exact ⟨call, command, rfl⟩
    | _ => cases hcall
  rcases Controller.mem_after hevent with
    hown | ⟨-, request, hdropped⟩ | ⟨-, target, arrival, -, hmoved | hentered⟩
  · exact rule.not_called call command hown
  · cases hdropped
  · cases hmoved
  · rcases Connection.mem_enter hentered with ⟨_, _, h⟩ | ⟨_, h⟩ | ⟨_, h⟩ | ⟨_, h⟩ <;> cases h

/-- A turn handles the first piece of mail, or carries out the commands. -/
theorem Bearer.turn_cases {b b' : Bearer ι} {now : List Event} (h : b.turn s = some (b', now)) :
    (∃ mail rest r, b.controller.mailbox = mail :: rest ∧
      Rule s b.controller.connection b.controller.interceptor b.controller.phase mail r ∧
      b' = b.withController ((b.controller.withMailbox rest).after s mail r).1 ∧
      now = ((b.controller.withMailbox rest).after s mail r).2) ∨
    b.controller.mailbox = [] ∧ b.controller.outbox ≠ [] ∧
      b' = (b.clearOutbox.dispatchAll s b.controller.outbox).1 ∧
      now = (b.clearOutbox.dispatchAll s b.controller.outbox).2 := by
  cases hmailbox : b.controller.mailbox with
  | cons mail rest =>
    rw [turn_of_cons hmailbox, Controller.handle_eq_after] at h
    cases h
    exact Or.inl ⟨mail, rest, _, rfl, rule_react _ _ _ _ mail, rfl, rfl⟩
  | nil =>
    by_cases hout : b.controller.outbox = []
    · rw [turn_eq_none_iff.mpr ⟨hmailbox, hout⟩] at h
      cases h
    · rw [turn_of_nil hmailbox hout] at h
      obtain ⟨rfl, rfl⟩ := Prod.mk.inj (Option.some.inj h)
      exact Or.inr ⟨rfl, hout, rfl, rfl⟩

/-- A turn leaves a bearer attentive, and one that calls the radio is the last. -/
theorem Bearer.turn_calls {b b' : Bearer ι} {now : List Event} (h : b.turn s = some (b', now))
    (attentive : b.controller.Attentive) :
    b'.controller.Attentive ∧
      (now.countP Event.isCall = 0 ∨ now.countP Event.isCall = 1 ∧ b'.turn s = none) := by
  rcases turn_cases h with ⟨mail, rest, r, first, hrule, rfl, rfl⟩ | ⟨empty, hout, rfl, rfl⟩
  · exact ⟨attentive.after first hrule,
      Or.inl (hrule.countP_isCall (m := b.controller.withMailbox rest))⟩
  · refine ⟨Bearer.attentive_dispatchAll attentive empty, ?_⟩
    obtain ⟨command, hsingle⟩ := attentive.outbox_cases.resolve_left hout
    -- a call leaves nothing to do, and without one the release is done at once
    have hone : b.clearOutbox.dispatchAll s [command] =
        ((b.clearOutbox.dispatch s command).1, (b.clearOutbox.dispatch s command).2) :=
      congrArg (Prod.mk _) (List.append_nil _)
    rw [hsingle, hone, dispatch.eq_def]
    split
    · exact Or.inl rfl
    · exact Or.inr ⟨rfl, turn_eq_none_iff.mpr ⟨empty, rfl⟩⟩

theorem Bearer.drive_of_rest {b : Bearer ι} (rest : b.turn s = none) : b.drive s = (b, []) := by
  rw [drive]
  split
  · rfl
  · next h =>
    rw [rest] at h
    cases h

theorem Bearer.drive_of_turn {b b' : Bearer ι} {now : List Event} (h : b.turn s = some (b', now)) :
    b.drive s = ((b'.drive s).1, now ++ (b'.drive s).2) := by
  rw [drive]
  split
  · next hnone =>
    rw [hnone] at h
    cases h
  · next hsome =>
    rw [hsome] at h
    cases h
    rfl

/-- A bearer that works until nothing is left to do calls the radio once at most. -/
theorem Bearer.calls_drive (b : Bearer ι) (attentive : b.controller.Attentive) :
    (b.drive s).2.countP Event.isCall ≤ 1 := by
  fun_induction Bearer.drive s b with
  | case1 => exact Nat.zero_le 1
  | case2 b b' now h _ b'' later hdrive ih =>
    obtain ⟨hafter, hcalls⟩ := turn_calls h attentive
    rw [List.countP_append]
    rcases hcalls with hnone | ⟨hone, hlast⟩
    · have hlater := ih hafter
      rw [hdrive] at hlater
      rw [hnone, Nat.zero_add]
      exact hlater
    · -- nothing comes after the call
      rw [drive_of_rest hlast] at hdrive
      obtain ⟨-, rfl⟩ := Prod.mk.inj hdrive
      rw [hone]
      exact le_rfl

end

namespace Scene

variable {ι : Type} [Interceptor ι]

/-- To work until nothing is left to do takes so many turns at most. -/
theorem run_turns (w : Scene ι) (b : Bearer ι) :
    ∃ n ≤ b.controller.effort, (w.withBearer b).run (List.replicate n .turn) =
      (w.withBearer (b.drive w.setting).1, (b.drive w.setting).2) := by
  fun_induction Bearer.drive w.setting b with
  | case1 b h => exact ⟨0, Nat.zero_le _, rfl⟩
  | case2 b b' now h _ b'' later hdrive ih =>
    obtain ⟨n, hn, hrun⟩ := ih
    have hless := (Bearer.turn_smaller h).effort
    refine ⟨n + 1, by omega, ?_⟩
    rw [List.replicate_succ, run_cons, step_turn_eq h, hrun, hdrive]

end Scene

/-- Whatever piece of mail a bearer is handed that rests, whatever it has been through, and whatever
the interceptor answers, it has nothing left to do after a number of turns, and the radio has been
given one command at most. -/
theorem comes_to_rest {ι : Type} [Interceptor ι] (s : Setting) (i : ι) (acts : List (Act ι))
    (mail : Mail) (resting : ((Scene.start s i).run acts).1.Resting) :
    let w := ((Scene.start s i).run acts).1
    let b := (w.bearer.accept mail).1
    (∃ n ≤ 43 * (w.controller.deferred.length + 1) ^ 2,
        (w.withBearer b).run (List.replicate n .turn) =
          (w.withBearer (b.drive w.setting).1, (b.drive w.setting).2)) ∧
      ((b.drive w.setting).1.controller.mailbox = [] ∧
        (b.drive w.setting).1.controller.outbox = []) ∧
      (b.drive w.setting).2.countP Event.isCall ≤ 1 := by
  intro w b
  have hbefore : w.controller.Attentive := Scene.attentive_run acts (Scene.attentive_start s i)
  have hready : b.controller.Attentive ∧
      b.controller.effort ≤ 43 * (w.controller.deferred.length + 1) ^ 2 := by
    by_cases halted : w.bearer.isHalted = true
    · -- a bearer that has halted drops the mail, and has nothing to do
      obtain ⟨hmailbox, hdeferred, houtbox⟩ :=
        Scene.spent_run acts (Scene.spent_start s i) halted
      have hsame : b = w.bearer := congrArg Prod.fst (if_pos halted)
      have hnone : w.controller.effort = 0 := by
        rw [Controller.effort, Controller.weight, hmailbox, hdeferred, houtbox]
        rfl
      rw [hsame]
      exact ⟨hbefore, hnone ▸ Nat.zero_le _⟩
    · have hposted : b.controller = w.controller.post mail :=
        congrArg (Bearer.controller ∘ Prod.fst) (if_neg halted)
      rw [hposted]
      exact ⟨hbefore.post resting.1 resting.2 mail,
        Controller.effort_post resting.1 resting.2 mail⟩
  obtain ⟨n, hn, hrun⟩ := w.run_turns b
  exact ⟨⟨n, hn.trans hready.2, hrun⟩, Bearer.turn_eq_none_iff.mp (Bearer.turn_drive w.setting b),
    b.calls_drive hready.1⟩

/-- Two requests wait while a bearer is set up, and the next set-up is to fail. -/
def backlog : List (Act FailureCountdown) :=
  [.ask (.bringUp "a" {}), .ask (.bringUp "b" {}), .ask (.bringUp "c" {}), .take, .turn, .turn,
    .take, .turn, .take, .turn, .rearm { remaining := 1 }]

/-- When the radio turns out to be gone all three are seen to: one fails by the answer, one is
intercepted while the last one waits once more, and the radio is called for that one. -/
theorem comes_to_rest_backlog :
    let w := ((Scene.start .cellular ({} : FailureCountdown)).run backlog).1
    let b := (w.bearer.accept (.setUpDone firstRequest (.error .radioNotAvailable))).1
    (w.Resting ∧ w.controller.deferred.length = 2) ∧
      (∃ n ≤ 43 * (w.controller.deferred.length + 1) ^ 2,
        (w.withBearer b).run (List.replicate n .turn) =
          (w.withBearer (b.drive w.setting).1, (b.drive w.setting).2)) ∧
      ((b.drive w.setting).1.controller.mailbox = [] ∧
        (b.drive w.setting).1.controller.outbox = []) ∧
      (b.drive w.setting).2.countP Event.isCall ≤ 1 := by
  have hresting : ((Scene.start .cellular ({} : FailureCountdown)).run backlog).1.Resting :=
    ⟨rfl, rfl⟩
  have hlength : ((Scene.start .cellular ({} : FailureCountdown)).run
      backlog).1.controller.deferred.length = 2 := rfl
  obtain ⟨hturns, hrests, hcalls⟩ := comes_to_rest .cellular ({} : FailureCountdown) backlog
    (.setUpDone firstRequest (.error .radioNotAvailable)) hresting
  exact ⟨⟨hresting, hlength⟩, hturns, hrests, hcalls⟩

end PacketBearer
