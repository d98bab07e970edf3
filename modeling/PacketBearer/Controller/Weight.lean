/-
Why a controller comes to rest.

Each piece of mail and each command has a weight, such that what a piece of mail brings about
weighs less than the piece itself: a request weighs more than the commands issued for it, and a
command more than its answer.  Mail that waits keeps its weight, but it leaves the mailbox, and it
comes back only with a change of phase, which costs weight.  So the weight of all that a controller
holds, and then the length of its mailbox, go down lexicographically.

* `posts_lt_or_waits` — a reaction loses weight, or puts the mail aside and does nothing else;
* `handle_lt` — handling the first piece of mail makes the measure smaller.
-/
import PacketBearer.Controller.Basic

namespace PacketBearer

/-- What a piece of mail can still bring about. -/
def Mail.weight : Mail → Nat
  | bringUp _ => 6
  | tearDown _ | setUpDone _ _ => 4
  | releaseDone _ | lastCauseDone _ _ => 2
  | radioConnected _ | inquiry _ _ | stop => 1

/-- What a command can still bring about, and the answer to it. -/
def Command.weight : Command → Nat
  | setUp _ _ => 5
  | release _ _ _ | lastCause _ => 3

theorem Mail.weight_pos (mail : Mail) : 0 < mail.weight := by
  cases mail <;> simp [weight]

theorem Command.weight_pos (command : Command) : 0 < command.weight := by
  cases command <;> simp [weight]

/-- The weight of a list of mail. -/
def mailWeight : List Mail → Nat
  | [] => 0
  | mail :: mails => mail.weight + mailWeight mails

/-- The weight of a list of commands. -/
def commandWeight : List Command → Nat
  | [] => 0
  | command :: commands => command.weight + commandWeight commands

@[simp] theorem mailWeight_nil : mailWeight [] = 0 := rfl

@[simp] theorem mailWeight_cons (mail : Mail) (mails : List Mail) :
    mailWeight (mail :: mails) = mail.weight + mailWeight mails := rfl

@[simp] theorem mailWeight_append (l₁ l₂ : List Mail) :
    mailWeight (l₁ ++ l₂) = mailWeight l₁ + mailWeight l₂ := by
  induction l₁ with
  | nil => simp
  | cons mail l₁ ih => simp [ih, Nat.add_assoc]

@[simp] theorem commandWeight_nil : commandWeight [] = 0 := rfl

@[simp] theorem commandWeight_cons (command : Command) (commands : List Command) :
    commandWeight (command :: commands) = command.weight + commandWeight commands := rfl

@[simp] theorem commandWeight_append (l₁ l₂ : List Command) :
    commandWeight (l₁ ++ l₂) = commandWeight l₁ + commandWeight l₂ := by
  induction l₁ with
  | nil => simp
  | cons command l₁ ih => simp [ih, Nat.add_assoc]

section

variable {ι : Type} [Interceptor ι] (s : Setting) (c : Connection) (i : ι)

/-- A reaction puts the mail aside and does nothing else. -/
def Reaction.OnlyWaits (r : Reaction ι) : Prop :=
  r.waits = true ∧ r.posts = [] ∧ r.commands = [] ∧ r.next = none

/-- A reaction does not put the mail aside, and what it issues weighs less than `n`. -/
def Reaction.Lighter (r : Reaction ι) (n : Nat) : Prop :=
  r.waits = false ∧ mailWeight r.posts + commandWeight r.commands < n

omit [Interceptor ι] in
theorem lighter_leave (request : TearDown) : (leave c i request).Lighter 4 := by
  unfold leave
  split
  · exact ⟨rfl, by simp [releaseFor, Command.weight]⟩
  · split
    · exact ⟨rfl, by simp [finish]⟩
    · split
      · exact ⟨rfl, by simp [releaseFor, Command.weight]⟩
      · exact ⟨rfl, by simp [finish]⟩

theorem lighter_launch (request : BringUp) : (launch s c i request).Lighter 6 := by
  unfold launch
  dsimp only
  split
  · exact ⟨rfl, by simp⟩
  · split
    · exact ⟨rfl, by simp [Mail.weight]⟩
    · exact ⟨rfl, by simp [Command.weight]⟩

omit [Interceptor ι] in
theorem lighter_onSetUpDone (request : BringUp) (result : Except RadioError SetupReply) :
    (onSetUpDone s c i request result).Lighter 4 := by
  unfold onSetUpDone
  split
  · exact ⟨rfl, by simp [fail]⟩
  · split
    · exact ⟨rfl, by simp [fail]⟩
    · exact ⟨rfl, by simp [Command.weight]⟩
  · exact ⟨rfl, by simp [Command.weight]⟩
  · dsimp only
    split
    · exact ⟨rfl, by simp⟩
    · exact ⟨rfl, by simp [Command.weight]⟩
    · exact ⟨rfl, by simp [fail]⟩

/-- A reaction loses weight, or puts the mail aside and does nothing else. -/
theorem posts_lt_or_waits (phase : Phase) (mail : Mail) :
    (react s phase c i mail).Lighter mail.weight ∨ (react s phase c i mail).OnlyWaits := by
  cases mail with
  | bringUp request =>
    cases phase with
    | idle => exact Or.inl (lighter_launch s c i request)
    | up => exact Or.inl ⟨rfl, by simp [react, join, Mail.weight]⟩
    | settingUp | releasing | cleaningUp => exact Or.inr ⟨rfl, rfl, rfl, rfl⟩
  | tearDown request =>
    cases phase with
    | idle => exact Or.inl ⟨rfl, by simp [react, finish, Mail.weight]⟩
    | up => exact Or.inl (lighter_leave c i request)
    | settingUp | releasing | cleaningUp => exact Or.inr ⟨rfl, rfl, rfl, rfl⟩
  | setUpDone request result =>
    left
    unfold react
    dsimp only
    split
    · exact lighter_onSetUpDone s c i request result
    · exact ⟨rfl, by simp [ignore, Mail.weight]⟩
  | lastCauseDone request result =>
    left
    unfold react
    dsimp only
    split
    · cases result <;> exact ⟨rfl, by simp [onLastCauseDone, fail, Mail.weight]⟩
    · exact ⟨rfl, by simp [ignore, Mail.weight]⟩
  | releaseDone purpose =>
    left
    unfold react
    dsimp only
    split
    · exact ⟨rfl, by simp [onReleaseDone, Mail.weight]⟩
    · exact ⟨rfl, by simp [ignore, Mail.weight]⟩
  | radioConnected result => exact Or.inl ⟨rfl, by simp [react, noted, Mail.weight]⟩
  | inquiry number inquiry => exact Or.inl ⟨rfl, by simp [react, Mail.weight]⟩
  | stop => exact Or.inl ⟨rfl, by simp [react, Mail.weight]⟩

end

namespace Controller

variable {ι : Type}

/-- The weight of all that a controller holds. -/
def weight (m : Controller ι) : Nat :=
  mailWeight m.mailbox + mailWeight m.deferred + commandWeight m.outbox

/-- The measure that goes down while a controller works. -/
def measure (m : Controller ι) : Nat × Nat := (m.weight, m.mailbox.length)

/-- The order of measures: by weight, and of equal weights by the length of the mailbox. -/
def Smaller (m n : Controller ι) : Prop :=
  m.weight < n.weight ∨ (m.weight = n.weight ∧ m.mailbox.length < n.mailbox.length)

theorem Smaller.lex {m n : Controller ι} (h : Smaller m n) :
    Prod.Lex (· < ·) (· < ·) m.measure n.measure := by
  rcases h with h | ⟨h, h'⟩
  · exact Prod.Lex.left _ _ h
  · rw [measure, measure, h]
    exact Prod.Lex.right _ h'

theorem weight_absorb (m : Controller ι) (mail : Mail) (r : Reaction ι) :
    (m.absorb mail r).weight = m.weight + mailWeight r.posts + commandWeight r.commands +
      mailWeight (if r.waits then [mail] else []) := by
  simp only [absorb, weight, mailWeight_append, commandWeight_append]
  omega

theorem weight_move (s : Setting) (m : Controller ι) (target : Phase) (arrival : Arrival) :
    (m.move s target arrival).1.weight = m.weight := by
  simp only [move, weight, mailWeight_append, mailWeight_nil]
  omega

theorem weight_halted (m : Controller ι) (halt : Halt) : (m.halted halt).weight = 0 := rfl

/-- Handling the first piece of mail makes the measure smaller. -/
theorem handle_lt [Interceptor ι] (s : Setting) (m : Controller ι) (mail : Mail)
    (rest : List Mail) (h : m.mailbox = mail :: rest) :
    Smaller ({ m with mailbox := rest }.handle s mail).1 m := by
  have hw : m.weight = { m with mailbox := rest : Controller ι }.weight + mail.weight := by
    simp only [weight, h, mailWeight_cons]
    omega
  have hpos := mail.weight_pos
  unfold handle
  dsimp only
  have key := posts_lt_or_waits s m.connection m.interceptor m.phase mail
  generalize react s m.phase m.connection m.interceptor mail = r at key ⊢
  split
  · left
    rw [weight_halted]
    omega
  · -- mail that has to wait keeps its weight, but has left the mailbox
    rcases key with ⟨hwait, hlt⟩ | ⟨hwait, hp, hc, -⟩
    · left
      rw [weight_absorb, hwait]
      simp only [Bool.false_eq_true, if_false, mailWeight_nil]
      omega
    · right
      constructor
      · rw [weight_absorb, hwait, hp, hc]
        simp only [if_true, mailWeight_cons, mailWeight_nil, commandWeight_nil]
        omega
      · simp [absorb, hp, h]
  · next hnext =>
    -- the deferred mail comes back, and it has not been any lighter while it waited
    rcases key with ⟨hwait, hlt⟩ | ⟨-, -, -, hnone⟩
    · left
      rw [weight_move, weight_absorb, hwait]
      simp only [Bool.false_eq_true, if_false, mailWeight_nil]
      omega
    · rw [hnone] at hnext
      cases hnext

end Controller

end PacketBearer
