/-
Requests of clients and what becomes of them.

A client asks for the bearer to be brought up for it, or torn down.  Requests of each kind are
numbered by their sender.  While a command to the radio works on a request, the request carries
the generation in which the command was issued, so that a late answer can be told from a current
one.
-/
import PacketBearer.AccessPoint
import PacketBearer.Cause

namespace PacketBearer

/-- A request to bring the bearer up for a client. -/
structure BringUp where
  number : Nat
  client : String
  accessPoint : AccessPoint
  /-- The generation in which the request was admitted. -/
  generation : UInt64 := 0
  deriving DecidableEq, Repr

/-- A request to tear the bearer down for one client, or for all of them. -/
structure TearDown where
  number : Nat
  /-- The client to detach; none stands for all. -/
  client : Option String
  reason : String
  /-- The generation in which the release was ordered. -/
  generation : UInt64 := 0
  /-- The clients that the request has detached, and that are to be told. -/
  detached : List String := []
  deriving DecidableEq, Repr

/-- A request of either kind. -/
inductive ClientRequest where
  | bringUp (request : BringUp)
  | tearDown (request : TearDown)
  deriving DecidableEq, Repr

/-- Why a bring-up failed. -/
structure SetupFailure where
  cause : Cause
  /-- The radio's suggestion when to try again, in milliseconds. -/
  retryDelay : Option Nat := none
  deriving DecidableEq, Repr

/-- The wording of a failure. -/
def SetupFailure.message (f : SetupFailure) : String :=
  "bearer setup failed: " ++ f.cause.text

/-- What a bring-up ends in: the radio's number of the bearer, or a failure. -/
abbrev BringUpOutcome := Except SetupFailure Int32

/-- Tells the keeper of the bearers that a client has lost its bearer through someone else's
request. -/
structure LossNotice where
  bearer : UInt32
  client : String
  reason : String
  deriving DecidableEq, Repr

end PacketBearer
