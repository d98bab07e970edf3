/-
What the radio is told.

A `SetupOrder` is what the radio needs to know to set up a bearer; a `ReleaseReason` is the hint
that goes with the command to release one.
-/
import PacketBearer.AccessPoint

namespace PacketBearer

/-- Who uses the bearer: this device, or others through it. -/
inductive Usage where
  | own
  | tethered
  deriving DecidableEq, Repr

/-- The parameters of the command to set up a bearer. -/
structure SetupOrder where
  /-- The radio's number for the technology to use. -/
  technology : UInt32
  usage : Usage
  accessPoint : String
  user : Option String
  password : Option String
  authentication : Authentication
  protocol : IpProtocol
  deriving DecidableEq, Repr

/-- Why a bearer is released, as far as the radio wants to know. -/
inductive ReleaseReason where
  | unspecified
  | radioOff
  | pdpReset
  deriving DecidableEq, Repr

/-- The radio's reason for the reason that a client gives. -/
def ReleaseReason.ofText (reason : String) : ReleaseReason :=
  if reason = "radioTurnedOff" then radioOff
  else if reason = "pdpReset" then pdpReset
  else unspecified

end PacketBearer
