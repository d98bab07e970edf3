/-
A bearer at work: its controller, its inbox and the calls open at the radio.

A bearer takes its inbox one piece of mail at a time.  `drive` lets the controller handle the piece
and all that follows from it, until neither mail nor commands are left: commands become calls to
the radio, but the release of a bearer while the radio is off is done at once.  A call stays open
until the radio answers it; the answer then goes to the end of the inbox.  The inbox has no bound:
where it is bounded, whoever waits for room in it is taken to have sent the mail already.

* `turn_smaller` — every turn makes the controller's measure smaller, so that `drive` ends;
* `turn_eq_none_iff` — it ends with an empty mailbox and an empty outbox.
-/
import PacketBearer.Controller.Weight

namespace PacketBearer

/-- A bearer, with an interceptor of set-ups. -/
structure Bearer (ι : Type) where
  controller : Controller ι
  /-- What has been sent to the bearer and is not yet taken. -/
  inbox : List Mail := []
  /-- The calls that the radio has not answered, under their numbers, the oldest first. -/
  openCalls : List (Nat × Command) := []
  /-- How many calls the radio has had. -/
  calls : Nat := 0

/-- The radio's answer to a call, by the kind of command; none where it has none ready. -/
structure RadioAnswers where
  setUp : Option (Except RadioError SetupReply) := none
  release : Option (Except RadioError Unit) := none
  lastCause : Option (Except RadioError Int32) := none

/-- The mail that an answer to a command makes, if there is an answer of the right kind.  A
release counts as done whatever the answer. -/
def Command.completion? (answers : RadioAnswers) : Command → Option Mail
  | setUp _ request => answers.setUp.map (Mail.setUpDone request)
  | lastCause request => answers.lastCause.map (Mail.lastCauseDone request)
  | release _ _ purpose => answers.release.map fun _ => Mail.releaseDone purpose

namespace Bearer

variable {ι : Type}

/-- A bearer that has just come into being. -/
def start (interceptor : ι) : Bearer ι where
  controller := Controller.start interceptor

/-- The bearer works no longer. -/
def isHalted (b : Bearer ι) : Bool := b.controller.isHalted

/-- Sends mail to a bearer. -/
def send (b : Bearer ι) (mails : List Mail) : Bearer ι := { b with inbox := b.inbox ++ mails }

/-! ### Calls -/

/-- Opens a call to the radio. -/
def call (b : Bearer ι) (command : Command) : Bearer ι × List Event :=
  ({ b with openCalls := b.openCalls ++ [(b.calls, command)], calls := b.calls + 1 },
    [.called b.calls command])

/-- Carries out a command.  A radio that is off has nothing to release. -/
def dispatch (s : Setting) (b : Bearer ι) (command : Command) : Bearer ι × List Event :=
  match command, s.radioOn with
  | .release _ _ purpose, false =>
    ({ b with controller := b.controller.post (.releaseDone purpose) }, [])
  | _, _ => b.call command

/-- Carries out commands in turn. -/
def dispatchAll (s : Setting) (b : Bearer ι) : List Command → Bearer ι × List Event
  | [] => (b, [])
  | command :: commands =>
    let (b, now) := b.dispatch s command
    let (b, later) := b.dispatchAll s commands
    (b, now ++ later)

/-- The bearer with an empty outbox. -/
def clearOutbox (b : Bearer ι) : Bearer ι :=
  { b with controller := { b.controller with outbox := [] } }

/-- Closes an open call. -/
def close (b : Bearer ι) (call : Nat) : Bearer ι :=
  { b with openCalls := b.openCalls.filter (·.1 ≠ call) }

/-! ### Turns -/

/-- One turn: the controller handles its first piece of mail, or, if it has none, its commands are
carried out.  None if there is nothing to do. -/
def turn [Interceptor ι] (s : Setting) (b : Bearer ι) : Option (Bearer ι × List Event) :=
  match b.controller.mailbox with
  | mail :: rest =>
    let (controller, events) := { b.controller with mailbox := rest }.handle s mail
    some ({ b with controller }, events)
  | [] =>
    match b.controller.outbox with
    | [] => none
    -- What the commands post is handled in the turns that follow.
    | commands => some (b.clearOutbox.dispatchAll s commands)

theorem turn_of_cons [Interceptor ι] {s : Setting} {b : Bearer ι} {mail : Mail}
    {rest : List Mail} (h : b.controller.mailbox = mail :: rest) :
    b.turn s =
      some ({ b with controller := ({ b.controller with mailbox := rest }.handle s mail).1 },
        ({ b.controller with mailbox := rest }.handle s mail).2) := by
  rw [turn, h]

theorem turn_of_nil [Interceptor ι] {s : Setting} {b : Bearer ι}
    (h : b.controller.mailbox = []) (h' : b.controller.outbox ≠ []) :
    b.turn s = some (b.clearOutbox.dispatchAll s b.controller.outbox) := by
  rw [turn, h]
  dsimp only
  split
  · next hnil => exact absurd hnil h'
  · rfl

theorem weight_dispatch (s : Setting) (b : Bearer ι) (command : Command) :
    (b.dispatch s command).1.controller.weight < b.controller.weight + command.weight := by
  have hpos := command.weight_pos
  unfold dispatch
  split
  · simp only [Controller.weight, Controller.post, mailWeight_append, mailWeight_cons,
      mailWeight_nil, Mail.weight, Command.weight]
    omega
  · simp only [call]
    omega

theorem weight_dispatchAll (s : Setting) (b : Bearer ι) (commands : List Command) :
    (b.dispatchAll s commands).1.controller.weight + commands.length ≤
      b.controller.weight + commandWeight commands := by
  induction commands generalizing b with
  | nil => simp [dispatchAll]
  | cons command commands ih =>
    have h := weight_dispatch s b command
    have h' := ih (b.dispatch s command).1
    simp only [dispatchAll, commandWeight_cons, List.length_cons]
    omega

/-- Every turn makes the controller's measure smaller. -/
theorem turn_smaller [Interceptor ι] {s : Setting} {b b' : Bearer ι} {events : List Event}
    (h : b.turn s = some (b', events)) : Controller.Smaller b'.controller b.controller := by
  unfold turn at h
  split at h
  · next mail rest hmail =>
    simp only [Option.some.injEq, Prod.mk.injEq] at h
    rw [← h.1]
    exact Controller.handle_lt s b.controller mail rest hmail
  · next hmail =>
    split at h
    · cases h
    · next commands hne =>
      left
      -- each command weighs more than the mail that it may leave
      have hlen : 0 < b.controller.outbox.length := List.length_pos_iff.mpr hne
      have hw := weight_dispatchAll s b.clearOutbox b.controller.outbox
      have hc : b.clearOutbox.controller.weight + commandWeight b.controller.outbox =
          b.controller.weight := by
        simp only [clearOutbox, Controller.weight, commandWeight_nil]
        omega
      rw [Option.some.injEq] at h
      rw [h] at hw
      simp only at hw
      omega

/-- There is nothing to do exactly where neither mail nor commands are left. -/
theorem turn_eq_none_iff [Interceptor ι] {s : Setting} {b : Bearer ι} :
    b.turn s = none ↔ b.controller.mailbox = [] ∧ b.controller.outbox = [] := by
  unfold turn
  split
  · next h => simp [h]
  · next h =>
    split
    · next h' => simp [h, h']
    · next h' => simpa [h] using h'

theorem inbox_dispatchAll (s : Setting) (b : Bearer ι) (commands : List Command) :
    (b.dispatchAll s commands).1.inbox = b.inbox := by
  induction commands generalizing b with
  | nil => rfl
  | cons command commands ih =>
    rw [dispatchAll, ih]
    unfold dispatch
    split <;> rfl

/-- Carrying out commands posts the ends of releases at most. -/
theorem controller_dispatchAll (s : Setting) (b : Bearer ι) (commands : List Command) :
    ∃ purposes : List ReleasePurpose, (b.dispatchAll s commands).1.controller =
      { b.controller with
        mailbox := b.controller.mailbox ++ purposes.map Mail.releaseDone } := by
  induction commands generalizing b with
  | nil =>
    refine ⟨[], ?_⟩
    rw [List.map_nil, List.append_nil]
    rfl
  | cons command commands ih =>
    obtain ⟨later, hlater⟩ := ih (b.dispatch s command).1
    have hnow : ∃ purposes : List ReleasePurpose, (b.dispatch s command).1.controller =
        { b.controller with
          mailbox := b.controller.mailbox ++ purposes.map Mail.releaseDone } := by
      rw [dispatch.eq_def]
      split
      · next purpose _ => exact ⟨[purpose], rfl⟩
      · refine ⟨[], ?_⟩
        rw [List.map_nil, List.append_nil]
        rfl
    obtain ⟨now, hnow⟩ := hnow
    refine ⟨now ++ later, ?_⟩
    rw [dispatchAll]
    dsimp only
    rw [hlater, hnow, List.map_append, List.append_assoc]

/-- All that can be seen of carrying out commands is the calls. -/
theorem called_of_mem_dispatchAll {s : Setting} {b : Bearer ι} {commands : List Command}
    {event : Event} (h : event ∈ (b.dispatchAll s commands).2) :
    ∃ call, ∃ command ∈ commands, event = .called call command := by
  induction commands generalizing b with
  | nil => cases h
  | cons command commands ih =>
    have hevents : event ∈ (b.dispatch s command).2 ++
        ((b.dispatch s command).1.dispatchAll s commands).2 := h
    rcases List.mem_append.mp hevents with hnow | hlater
    · rw [dispatch.eq_def] at hnow
      split at hnow
      · cases hnow
      · exact ⟨_, _, List.mem_cons_self, List.mem_singleton.mp hnow⟩
    · obtain ⟨call, other, hmem, heq⟩ := ih hlater
      exact ⟨call, other, List.mem_cons_of_mem _ hmem, heq⟩

/-- A turn leaves the inbox alone. -/
theorem inbox_turn [Interceptor ι] {s : Setting} {b b' : Bearer ι} {events : List Event}
    (h : b.turn s = some (b', events)) : b'.inbox = b.inbox := by
  unfold turn at h
  split at h
  · simp only [Option.some.injEq, Prod.mk.injEq] at h
    rw [← h.1]
  · split at h
    · cases h
    · have hi := inbox_dispatchAll s b.clearOutbox b.controller.outbox
      rw [Option.some.injEq] at h
      rw [h] at hi
      exact hi

/-- Turns until there is nothing left to do. -/
def drive [Interceptor ι] (s : Setting) (b : Bearer ι) : Bearer ι × List Event :=
  match h : b.turn s with
  | none => (b, [])
  | some (b', now) =>
    have := turn_smaller h
    let (b'', later) := b'.drive s
    (b'', now ++ later)
  termination_by b.controller.measure
  decreasing_by exact this.lex

theorem inbox_drive [Interceptor ι] (s : Setting) (b : Bearer ι) :
    (b.drive s).1.inbox = b.inbox := by
  fun_induction drive s b with
  | case1 => rfl
  | case2 b b' now h _ b'' later hd ih => rw [← inbox_turn h, ← ih, hd]

/-! ### The inbox -/

/-- A bearer that has halted drops what is sent to it; any other takes the mail and all that
follows from it. -/
def take [Interceptor ι] (s : Setting) (b : Bearer ι) (mail : Mail) : Bearer ι × List Event :=
  if b.isHalted then (b, (mail.request?.map Event.dropped).toList)
  else { b with controller := b.controller.post mail }.drive s

theorem inbox_take [Interceptor ι] (s : Setting) (b : Bearer ι) (mail : Mail) :
    (b.take s mail).1.inbox = b.inbox := by
  unfold take
  split
  · rfl
  · exact inbox_drive s _

/-- Takes the first piece of mail from the inbox, if there is one. -/
def receive [Interceptor ι] (s : Setting) (b : Bearer ι) : Option (Bearer ι × List Event) :=
  match b.inbox with
  | [] => none
  | mail :: rest => some ({ b with inbox := rest }.take s mail)

theorem length_inbox_receive [Interceptor ι] {s : Setting} {b b' : Bearer ι}
    {events : List Event} (h : b.receive s = some (b', events)) :
    b'.inbox.length < b.inbox.length := by
  unfold receive at h
  split at h
  · cases h
  · next mail rest hi =>
    have ht := inbox_take s { b with inbox := rest } mail
    rw [Option.some.injEq] at h
    rw [h] at ht
    simp only at ht
    rw [ht, hi, List.length_cons]
    omega

/-- Takes all that is in the inbox. -/
def settle [Interceptor ι] (s : Setting) (b : Bearer ι) : Bearer ι × List Event :=
  match h : b.receive s with
  | none => (b, [])
  | some (b', now) =>
    have := length_inbox_receive h
    let (b'', later) := b'.settle s
    (b'', now ++ later)
  termination_by b.inbox.length

end Bearer

end PacketBearer
