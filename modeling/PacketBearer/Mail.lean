/-
What passes between a bearer and the world.

`Mail` is what a bearer takes in: requests, the radio's answers, the radio's version, inquiries
and the order to stop.  `Command` is what it tells the radio; a command owns the request it was
issued for.  `Event` is what can be seen of a bearer's work.
-/
import PacketBearer.Connection
import PacketBearer.Link.Negotiation
import PacketBearer.Phase
import PacketBearer.Radio.Order
import PacketBearer.ClientRequest

namespace PacketBearer

/-! ### Inquiries -/

/-- A question or an instruction about the bearer's record. -/
inductive Inquiry where
  | isIdle
  | bearerId
  | accessPoint
  | link
  | setProxy (proxy : Option Proxy)
  /-- Negotiate the link again, from a new reply of the radio. -/
  | updateLink (reply : SetupReply)
  | capabilities
  /-- Become idle without a word to the radio. -/
  | reset
  | clientCount
  | clients
  | setReconnectIntent (intent : Option String)
  | reconnectIntent
  deriving DecidableEq, Repr

/-- What became of a reply's parameters. -/
inductive LinkVerdict where
  | accepted
  /-- The parameters are unusable. -/
  | refused
  /-- The reply reports a failure. -/
  | failed (cause : Cause)
  deriving DecidableEq, Repr

/-- The result of negotiating the link again. -/
structure LinkUpdate where
  verdict : LinkVerdict
  /-- The link before. -/
  before : Link
  /-- The link after; empty unless the parameters were accepted. -/
  after : Link
  deriving DecidableEq, Repr

/-- The answer to an inquiry. -/
inductive Answer where
  | done
  | flag (value : Bool)
  | bearerId (id : Int32)
  | accessPoint (accessPoint : Option AccessPoint)
  | link (link : Link)
  | update (update : LinkUpdate)
  | capabilities (capabilities : Capabilities)
  | count (n : Nat)
  | clients (names : List String)
  | intent (intent : Option String)
  deriving DecidableEq, Repr

/-! ### Mail and commands -/

/-- What a bearer is released for. -/
inductive ReleasePurpose where
  /-- A client wants it torn down. -/
  | tearDown (request : TearDown)
  /-- Its set-up brought unusable parameters. -/
  | cleanUp (request : BringUp)
  deriving DecidableEq, Repr

/-- The generation in which the release was ordered. -/
def ReleasePurpose.generation : ReleasePurpose → UInt64
  | tearDown request => request.generation
  | cleanUp request => request.generation

/-- The request that a release works on. -/
def ReleasePurpose.request : ReleasePurpose → ClientRequest
  | tearDown request => .tearDown request
  | cleanUp request => .bringUp request

/-- A command to the radio. -/
inductive Command where
  | setUp (order : SetupOrder) (request : BringUp)
  /-- Ask for the cause of the last failure. -/
  | lastCause (request : BringUp)
  | release (bearerId : Int32) (reason : ReleaseReason) (purpose : ReleasePurpose)
  deriving DecidableEq, Repr

/-- The request that a command works on. -/
def Command.request : Command → ClientRequest
  | setUp _ request | lastCause request => .bringUp request
  | release _ _ purpose => purpose.request

/-- What a bearer takes in. -/
inductive Mail where
  | bringUp (request : BringUp)
  | tearDown (request : TearDown)
  | setUpDone (request : BringUp) (result : Except RadioError SetupReply)
  | lastCauseDone (request : BringUp) (result : Except RadioError Int32)
  | releaseDone (purpose : ReleasePurpose)
  /-- The radio is there, with this version. -/
  | radioConnected (result : Except RadioError Int32)
  | inquiry (number : Nat) (inquiry : Inquiry)
  | stop

/-- The request that a piece of mail carries. -/
def Mail.request? : Mail → Option ClientRequest
  | bringUp request | setUpDone request _ | lastCauseDone request _ => some (.bringUp request)
  | tearDown request => some (.tearDown request)
  | releaseDone purpose => some purpose.request
  | radioConnected _ | inquiry _ _ | stop => none

/-- The kinds of mail that wait, or go unheeded. -/
inductive MailKind where
  | bringUp
  | tearDown
  | tearDownAll
  | setUpDone
  | lastCauseDone
  | releaseDone
  | other
  deriving DecidableEq, Repr

/-- The kind of a piece of mail. -/
def Mail.kind : Mail → MailKind
  | bringUp _ => .bringUp
  | tearDown request => if request.client.isSome then .tearDown else .tearDownAll
  | setUpDone _ _ => .setUpDone
  | lastCauseDone _ _ => .lastCauseDone
  | releaseDone _ => .releaseDone
  | radioConnected _ | inquiry _ _ | stop => .other

/-! ### Events -/

/-- What can be seen of a bearer's work. -/
inductive Event where
  /-- A request was handled, in this phase, and did not have to wait. -/
  | handled (phase : Phase) (request : ClientRequest)
  /-- A piece of mail has to wait for another phase. -/
  | deferred (kind : MailKind)
  /-- An answer of the radio came too late, or out of place. -/
  | ignored (kind : MailKind)
  | moved (source target : Phase)
  | broughtUp (request : BringUp) (outcome : BringUpOutcome)
  | tornDown (request : TearDown)
  /-- A request was given up without an outcome. -/
  | dropped (request : ClientRequest)
  | notice (notice : LossNotice)
  | answered (number : Nat) (answer : Answer)
  /-- The radio was given a command. -/
  | called (call : Nat) (command : Command)

end PacketBearer
