/-
What the radio says.

A `SetupReply` answers the command to set up a bearer; status zero means that a bearer exists.
A `RadioError` answers a command that could not be carried out.
-/
import PacketBearer.Cause

namespace PacketBearer

/-- The radio's answer to the command to set up a bearer.  Addresses are in written form, as the
radio reports them. -/
structure SetupReply where
  version : Int32
  /-- The code of the cause of failure, zero if the bearer exists. -/
  status : Int32
  bearerId : Int32
  active : Int32
  pdpType : String
  interface : String
  addresses : List String
  dns : List String
  gateways : List String
  /-- Milliseconds after which another attempt makes sense, negative for no suggestion. -/
  suggestedRetry : Int32
  deriving DecidableEq, Repr

/-- Why a command to the radio was not carried out. -/
inductive RadioError where
  | radioNotAvailable
  | genericFailure
  | requestNotSupported
  /-- The radio refused to set up a bearer, and says so in a reply. -/
  | rejected (reply : SetupReply)
  | other (text : String)
  deriving DecidableEq, Repr

namespace SetupReply

/-- A reply that reports a failure and nothing else. -/
def failure (version : Int32) (cause : Cause) (suggestedRetry : Int32) : SetupReply where
  version
  status := cause.code
  bearerId := 0
  active := 0
  pdpType := ""
  interface := ""
  addresses := []
  dns := []
  gateways := []
  suggestedRetry

/-- The radio's suggestion when to try again, in milliseconds. -/
def retryDelay? (reply : SetupReply) : Option Nat :=
  if reply.suggestedRetry < 0 then none else some reply.suggestedRetry.toInt.toNat

end SetupReply

/-- The wording of an error. -/
def RadioError.message : RadioError → String
  | radioNotAvailable => "radio not available"
  | genericFailure => "generic failure"
  | requestNotSupported => "request not supported"
  | rejected reply => "setup rejected with status " ++ Numeral.signed reply.status.toInt
  | other text => text

end PacketBearer
