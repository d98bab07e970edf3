/-
Sessions: a bearer with its owner, its radio and their surroundings.

The owner holds one handle to the bearer and sends requests and inquiries through it.  The radio
answers calls when it is told to, reports its version as long as the source of such events
exists, and may have a switch.  A session numbers the requests of each kind in the order in which
they were sent, and watches what becomes of them.
-/
import PacketBearer.Bearer
import PacketBearer.HandleError
import PacketBearer.Redial

namespace PacketBearer

/-- How bearers are named and how far old radios are trusted. -/
structure Profile where
  /-- From this version on, the reply that comes with a rejection can be relied on. -/
  structuredSince : Int32 := 4
  /-- What the names of bearers begin with. -/
  label : String := "DC"
  deriving DecidableEq, Repr

/-- The name of a bearer. -/
def Profile.bearerName (p : Profile) (id : UInt32) : String :=
  p.label ++ "-" ++ Numeral.decimal id.toNat

/-- A bearer in its surroundings. -/
structure Session where
  setting : Setting
  bearer : Bearer (Option FailureCountdown)
  /-- The radio can be switched off. -/
  hasSwitch : Bool := true
  /-- The source of the radio's versions exists. -/
  sourceOpen : Bool := true
  /-- The owner still has the handle. -/
  handleHeld : Bool := true
  redial : RedialPolicy := .never
  /-- The number of the next bring-up. -/
  bringUps : Nat := 0
  /-- The number of the next tear-down. -/
  tearDowns : Nat := 0
  /-- The number of the next inquiry. -/
  inquiries : Nat := 0
  /-- The bring-ups whose outcome is awaited, in ascending order. -/
  awaitedBringUps : List Nat := []
  /-- The tear-downs whose end is awaited, in ascending order. -/
  awaitedTearDowns : List Nat := []

namespace Session

/-- What the handle can be used for. -/
inductive Call where
  | bringUp (client : String) (accessPoint : AccessPoint)
  | tearDown (client : String) (reason : String)
  | tearDownAll (reason : String)
  | inquire (inquiry : Inquiry)
  | stop
  | isClosed
  | redial (call : RedialCall)

/-- Which open call of the radio is meant. -/
inductive CallChoice where
  | number (n : Nat)
  | oldest
  | newest

/-- What can be done in a batch: the handle is used, or the radio answers. -/
inductive Action where
  | call (call : Call)
  | respond (choice : CallChoice) (answers : RadioAnswers)

/-- One step of a session. -/
inductive Step where
  | single (action : Action)
  /-- Everything is sent before the bearer does anything. -/
  | batch (actions : List Action)
  | radioConnected (result : Except RadioError Int32)
  | closeSource
  | switchRadio (on : Bool)
  | arm (countdown : FailureCountdown)
  | dropTracker
  | abandonBringUp (n : Nat)
  | abandonTearDown (n : Nat)
  | dropHandle

/-- The kinds of commands that the radio answers. -/
inductive CommandKind where
  | setUp
  | release
  | lastCause
  deriving DecidableEq, Repr

/-- What an action results in. -/
inductive ActionResult where
  /-- The request was sent under this number. -/
  | sent (number : Nat)
  | done
  | answer (answer : Answer)
  | failed (error : HandleError)
  | noHandle
  | closed (value : Bool)
  | redial (answer : RedialAnswer)
  /-- The radio has answered this call. -/
  | responded (call : Nat)
  | noSuchCall
  /-- No answer of this kind is ready; the call stays open. -/
  | noAnswer (needed : CommandKind)

/-- What a step results in. -/
inductive StepResult where
  | single (result : ActionResult)
  | batch (results : List ActionResult)
  | delivered (heard : Bool)
  | done

/-- The end of a tear-down or bring-up that the owner watches. -/
inductive Resolution (α : Type) where
  | completed (value : α)
  | dropped

/-- What the owner sees of the bearer after a step. -/
inductive View where
  | closed (subscribed : Bool)
  | running (phase : Phase) (connection : Connection) (subscribed : Bool)

/-- What happened in a step. -/
structure Report where
  result : StepResult
  view : View
  transitions : List (Phase × Phase)
  deferred : List MailKind
  ignored : List MailKind
  calls : List (Nat × Command)
  bringUps : List (Nat × Resolution BringUpOutcome)
  tearDowns : List (Nat × Resolution TearDown)
  notices : List LossNotice
  /-- How many set-ups are still to fail, if there is a countdown. -/
  toFail : Option UInt32

/-- The kind of a command. -/
def CommandKind.of : Command → CommandKind
  | .setUp _ _ => setUp
  | .release _ _ _ => release
  | .lastCause _ => lastCause

/-- A session at its beginning. -/
def start (setting : Setting) (countdown : Option FailureCountdown) : Session where
  setting
  bearer := Bearer.start countdown

/-- The bearer listens for the radio's version, and the source exists. -/
def isSubscribed (s : Session) : Bool := !s.bearer.isHalted && s.sourceOpen

/-- What the owner sees of the bearer. -/
def view (s : Session) : View :=
  if s.bearer.isHalted || !s.handleHeld then .closed s.isSubscribed
  else .running s.bearer.controller.phase s.bearer.controller.connection s.isSubscribed

end Session

end PacketBearer
