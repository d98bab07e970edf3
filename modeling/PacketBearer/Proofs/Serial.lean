/-
One request after the other.

Requests may come at any time, and so may the answers of the radio.  In a serial execution nothing
comes before its time: each request is made only when all that went before is done, and a call is
answered as soon as nothing else is left to do.

* `attend` — acts until nothing is left to do, which comes to an end by `lighter_nextAct`;
* `serial` — requests one after the other;
* `exists_run_serial` — a serial execution is one of the runs that have these requests and answers.
-/
import PacketBearer.Proofs.Scene

namespace PacketBearer

variable {ι : Type}

/-- The request that an act makes. -/
def Act.wish? : Act ι → Option Wish
  | ask wish => some wish
  | _ => none

theorem Act.eq_ask {act : Act ι} {wish : Wish} (h : act.wish? = some wish) : act = .ask wish := by
  cases act with
  | ask other => rw [Option.some.inj h]
  | _ => cases h

/-- The act makes a request, answers a call as given, or is the bearer's own. -/
def Act.IsPlain (answers : Nat → RadioAnswers) : Act ι → Prop
  | ask _ | take | turn => True
  | answer call given => given = answers call
  | _ => False

/-- What calls at the radio can still bring about.  A call weighs a little less than its command,
and more than its answer; all other weights count twice. -/
def callWeight : List (Nat × Command) → Nat
  | [] => 0
  | call :: calls => 2 * call.2.weight - 1 + callWeight calls

/-- What a bearer can still bring about, and the radio for it. -/
def Bearer.labour (b : Bearer ι) : Nat :=
  2 * (b.controller.weight + mailWeight b.inbox) + callWeight b.openCalls

/-! ### Labour -/

@[simp] theorem callWeight_nil : callWeight [] = 0 := rfl

@[simp] theorem callWeight_cons (call : Nat × Command) (calls : List (Nat × Command)) :
    callWeight (call :: calls) = 2 * call.2.weight - 1 + callWeight calls := rfl

@[simp] theorem callWeight_append (first second : List (Nat × Command)) :
    callWeight (first ++ second) = callWeight first + callWeight second := by
  induction first with
  | nil => simp
  | cons call first ih => simp [ih, Nat.add_assoc]

theorem callWeight_filter_le (p : Nat × Command → Bool) (calls : List (Nat × Command)) :
    callWeight (calls.filter p) ≤ callWeight calls := by
  induction calls with
  | nil => exact Nat.le_refl 0
  | cons call calls ih =>
    rw [List.filter_cons]
    split
    · rw [callWeight_cons, callWeight_cons]
      omega
    · rw [callWeight_cons]
      omega

theorem callWeight_filter_add_le {calls : List (Nat × Command)} {call : Nat} {command : Command}
    (isOpen : (call, command) ∈ calls) :
    callWeight (calls.filter (·.1 ≠ call)) + (2 * command.weight - 1) ≤ callWeight calls := by
  induction calls with
  | nil => cases isOpen
  | cons first calls ih =>
    rcases List.mem_cons.mp isOpen with rfl | hmem
    · have hle := callWeight_filter_le (·.1 ≠ call) calls
      rw [List.filter_cons_of_neg (by simp), callWeight_cons]
      dsimp only
      omega
    · have hle := ih hmem
      rw [List.filter_cons]
      split
      · rw [callWeight_cons, callWeight_cons]
        omega
      · rw [callWeight_cons]
        omega

/-- An answer weighs less than its command. -/
theorem weight_completion {answers : RadioAnswers} {command : Command} {mail : Mail}
    (h : command.completion? answers = some mail) : mail.weight < command.weight := by
  cases command <;>
  · simp only [Command.completion?, Option.map_eq_some_iff] at h
    obtain ⟨answer, -, rfl⟩ := h
    simp [Mail.weight, Command.weight]

theorem labour_dispatch (s : Setting) (b : Bearer ι) (command : Command) :
    (b.dispatch s command).1.labour < b.labour + 2 * command.weight := by
  have hpos := command.weight_pos
  rw [Bearer.dispatch.eq_def]
  split
  · simp only [Bearer.labour, Controller.weight, Controller.post, mailWeight_append,
      mailWeight_cons, mailWeight_nil, Mail.weight, Command.weight]
    omega
  · simp only [Bearer.call, Bearer.labour, callWeight_append, callWeight_cons, callWeight_nil]
    omega

theorem labour_dispatchAll (s : Setting) (b : Bearer ι) (commands : List Command) :
    (b.dispatchAll s commands).1.labour + commands.length ≤
      b.labour + 2 * commandWeight commands := by
  induction commands generalizing b with
  | nil => simp [Bearer.dispatchAll]
  | cons command commands ih =>
    have hfirst := labour_dispatch s b command
    have hrest := ih (b.dispatch s command).1
    simp only [Bearer.dispatchAll, commandWeight_cons, List.length_cons]
    omega

namespace Scene

/-- What goes down with every act of a serial execution. -/
def measure (w : Scene ι) : Nat × Nat × Nat :=
  (w.bearer.labour, w.bearer.inbox.length, w.controller.mailbox.length)

instance (w : Scene ι) : Decidable w.Resting :=
  inferInstanceAs (Decidable (_ ∧ _))

/-- The next thing to happen if nobody asks for anything: the bearer works, takes its mail, or gets
its oldest call answered. -/
def nextAct (answers : Nat → RadioAnswers) (w : Scene ι) : Option (Act ι) :=
  if ¬ w.Resting then some .turn
  else match w.bearer.inbox, w.bearer.openCalls with
    | _ :: _, _ => some .take
    | [], (call, command) :: _ =>
      (command.completion? (answers call)).map fun _ => .answer call (answers call)
    | [], [] => none

section

variable {answers : Nat → RadioAnswers} {w : Scene ι}

/-- What comes next is a turn of the bearer, its first piece of mail, or the answer to its oldest
call. -/
theorem nextAct_cases {act : Act ι} (h : w.nextAct answers = some act) :
    act = .turn ∧ ¬ w.Resting ∨
      act = .take ∧ w.Resting ∧ (∃ mail rest, w.bearer.inbox = mail :: rest) ∨
      ∃ call command later mail, act = .answer call (answers call) ∧
        w.bearer.openCalls = (call, command) :: later ∧
        command.completion? (answers call) = some mail := by
  rw [nextAct] at h
  split at h
  · next busy => exact Or.inl ⟨(Option.some.inj h).symm, busy⟩
  · next hresting =>
    split at h
    · next mail rest hin =>
      exact Or.inr (Or.inl ⟨(Option.some.inj h).symm, not_not.mp hresting, mail, rest, hin⟩)
    · next call command later _ hcalls =>
      obtain ⟨mail, hready, hact⟩ := Option.map_eq_some_iff.mp h
      exact Or.inr (Or.inr ⟨call, command, later, mail, hact.symm, hcalls, hready⟩)
    · cases h

/-- Nothing comes next only where the bearer rests with no mail, and its oldest call stays without
an answer. -/
theorem resting_of_nextAct (h : w.nextAct answers = none) :
    w.Resting ∧ w.bearer.inbox = [] ∧
      ∀ call command later, w.bearer.openCalls = (call, command) :: later →
        command.completion? (answers call) = none := by
  rw [nextAct] at h
  split at h
  · cases h
  · next hresting =>
    split at h
    · cases h
    · next call command later hin hcalls =>
      refine ⟨not_not.mp hresting, hin, ?_⟩
      rintro call command later hother
      rw [hcalls] at hother
      obtain ⟨⟨rfl, rfl⟩, rfl⟩ := List.cons.inj hother
      exact Option.map_eq_none_iff.mp h
    · next hin hcalls =>
      refine ⟨not_not.mp hresting, hin, ?_⟩
      intro call command later hother
      rw [hcalls] at hother
      cases hother

theorem isPlain_nextAct {act : Act ι} (h : w.nextAct answers = some act) :
    act.IsPlain answers ∧ act.wish? = none := by
  rcases nextAct_cases h with ⟨rfl, -⟩ | ⟨rfl, -⟩ | ⟨call, command, later, mail, rfl, -⟩
  · exact ⟨trivial, rfl⟩
  · exact ⟨trivial, rfl⟩
  · exact ⟨rfl, rfl⟩

end

section

variable [Interceptor ι] {answers : Nat → RadioAnswers} {w : Scene ι}

/-- Every act of a serial execution makes the measure smaller. -/
theorem lighter_nextAct {act : Act ι} (h : w.nextAct answers = some act) :
    Prod.Lex (· < ·) (Prod.Lex (· < ·) (· < ·)) (w.step act).1.measure w.measure := by
  rcases nextAct_cases h with
    ⟨rfl, busy⟩ | ⟨rfl, hresting, mail, rest, hin⟩ |
    ⟨call, command, later, mail, rfl, hcalls, hready⟩
  · -- a turn makes the controller's own measure smaller, and moves commands to the calls
    cases hmail : w.bearer.controller.mailbox with
    | cons mail rest =>
      have hsmaller := Controller.handle_lt w.setting w.bearer.controller mail rest hmail
      rw [step, Bearer.turn_of_cons hmail]
      rcases hsmaller with hlt | ⟨heq, hlt⟩
      · refine Prod.Lex.left _ _ ?_
        simp only [Bearer.labour]
        omega
      · rw [measure, measure]
        simp only [Bearer.labour, heq]
        exact Prod.Lex.right _ (Prod.Lex.right _ hlt)
    | nil =>
      have hout : w.bearer.controller.outbox ≠ [] := fun hout => busy ⟨hmail, hout⟩
      rw [step, Bearer.turn_of_nil hmail hout]
      refine Prod.Lex.left _ _ ?_
      have hle := labour_dispatchAll w.setting w.bearer.clearOutbox w.bearer.controller.outbox
      have hpos := List.length_pos_iff.mpr hout
      have hclear : w.bearer.clearOutbox.labour + 2 * commandWeight w.bearer.controller.outbox =
          w.bearer.labour := by
        simp only [Bearer.clearOutbox, Bearer.labour, Controller.weight, commandWeight_nil]
        omega
      dsimp only
      omega
  · rw [step_take hresting hin, Bearer.accept]
    split
    · -- a bearer that has halted refuses the mail, and is rid of its weight
      refine Prod.Lex.left _ _ ?_
      have hpos := mail.weight_pos
      simp only [Bearer.withInbox, Bearer.labour, hin, mailWeight_cons]
      omega
    · -- mail that is taken is only moved, and leaves the inbox shorter
      have hlabour : (((w.bearer.withInbox rest).withController
          ((w.bearer.withInbox rest).controller.post mail))).labour = w.bearer.labour := by
        simp only [Bearer.withInbox, Bearer.withController, Bearer.labour, Controller.weight,
          Controller.post, hin, mailWeight_append, mailWeight_cons, mailWeight_nil]
        omega
      rw [measure, measure, hlabour]
      refine Prod.Lex.right _ (Prod.Lex.left _ _ ?_)
      rw [hin]
      exact Nat.lt_succ_self _
  · have hfind : w.bearer.openCalls.find? (fun c => c.1 == call) = some (call, command) := by
      rw [hcalls, List.find?_cons_of_pos (by simp)]
    rw [step_answer hfind hready]
    -- the call weighs more than twice its answer
    refine Prod.Lex.left _ _ ?_
    have hclosed := callWeight_filter_add_le (hcalls ▸ List.mem_cons_self :
      (call, command) ∈ w.bearer.openCalls)
    have hlt := weight_completion hready
    simp only [Bearer.close, Bearer.send, Scene.send, Bearer.labour, mailWeight_append,
      mailWeight_cons, mailWeight_nil]
    omega

/-- Acts until nothing is left to do, or the oldest call stays without an answer. -/
def attend (answers : Nat → RadioAnswers) (w : Scene ι) : Scene ι × List Event :=
  match h : w.nextAct answers with
  | none => (w, [])
  | some act =>
    have := lighter_nextAct h
    let (w', later) := (w.step act).1.attend answers
    (w', (w.step act).2 ++ later)
  termination_by w.measure
  decreasing_by exact this

/-- Requests one after the other, each made when all that went before is done. -/
def serial (answers : Nat → RadioAnswers) (w : Scene ι) : List Wish → Scene ι × List Event
  | [] => (w, [])
  | wish :: wishes =>
    let (done, now) := (w.step (.ask wish)).1.attend answers
    let (w', later) := done.serial answers wishes
    (w', now ++ later)

theorem nextAct_attend (answers : Nat → RadioAnswers) (w : Scene ι) :
    (w.attend answers).1.nextAct answers = none := by
  fun_induction attend answers w with
  | case1 w h => exact h
  | case2 w act h _ w' later hrest ih =>
    rw [hrest] at ih
    exact ih

/-- To attend to what is left is a run in which nobody asks for anything. -/
theorem exists_run_attend (answers : Nat → RadioAnswers) (w : Scene ι) :
    ∃ acts : List (Act ι), (∀ act ∈ acts, act.IsPlain answers) ∧
      acts.filterMap Act.wish? = [] ∧ w.run acts = w.attend answers := by
  fun_induction attend answers w with
  | case1 w h => exact ⟨[], fun act hact => absurd hact List.not_mem_nil, rfl, rfl⟩
  | case2 w act h _ w' later hrest ih =>
    obtain ⟨acts, hplain, hwishes, hrun⟩ := ih
    obtain ⟨hnow, hnone⟩ := isPlain_nextAct h
    refine ⟨act :: acts, List.forall_mem_cons.mpr ⟨hnow, hplain⟩, ?_, ?_⟩
    · rw [List.filterMap_cons_none hnone, hwishes]
    · rw [run_cons, hrun, hrest]

/-- A serial execution is one of the runs that have these requests. -/
theorem exists_run_serial (answers : Nat → RadioAnswers) (w : Scene ι) (wishes : List Wish) :
    ∃ acts : List (Act ι), (∀ act ∈ acts, act.IsPlain answers) ∧
      acts.filterMap Act.wish? = wishes ∧ w.run acts = w.serial answers wishes := by
  induction wishes generalizing w with
  | nil => exact ⟨[], fun act hact => absurd hact List.not_mem_nil, rfl, rfl⟩
  | cons wish wishes ih =>
    obtain ⟨first, hfirst, hnone, hattend⟩ := exists_run_attend answers (w.step (.ask wish)).1
    obtain ⟨second, hsecond, hwishes, hserial⟩ :=
      ih ((w.step (.ask wish)).1.attend answers).1
    refine ⟨.ask wish :: (first ++ second), ?_, ?_, ?_⟩
    · intro act hact
      rcases List.mem_cons.mp hact with rfl | hlater
      · trivial
      · exact (List.mem_append.mp hlater).elim (hfirst act) (hsecond act)
    · have hwish : (Act.ask wish : Act ι).wish? = some wish := rfl
      rw [List.filterMap_cons_some hwish, List.filterMap_append, hnone, hwishes, List.nil_append]
    · rw [run_cons, run_append, hattend, hserial, serial]
      rfl

/-- A serial execution goes on until the oldest call stays without an answer, or nothing is left
to do. -/
theorem nextAct_serial {answers : Nat → RadioAnswers} {w : Scene ι}
    (idle : w.nextAct answers = none) (wishes : List Wish) :
    (w.serial answers wishes).1.nextAct answers = none := by
  induction wishes generalizing w with
  | nil => exact idle
  | cons wish wishes ih => exact ih (nextAct_attend answers _)

end

end Scene

end PacketBearer
