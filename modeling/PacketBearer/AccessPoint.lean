/-
Access points.

An access point is the set of parameters with which a client asks for a bearer.  Two questions
are asked of it: whether it serves picture messages first of all, and whether the proxy for
those messages is given by its address rather than by a host name.  An access point with both
properties works without any name server.
-/
import PacketBearer.Address.Reading

namespace PacketBearer

/-- How a client proves its identity to the access point. -/
inductive Authentication where
  | none
  | pap
  | chap
  | papOrChap
  deriving DecidableEq, Repr

/-- The protocols that a client wants to speak over the bearer. -/
inductive IpProtocol where
  | ipv4
  | ipv6
  | dual
  deriving DecidableEq, Repr

/-- The protocol's name, as the radio expects it. -/
def IpProtocol.name : IpProtocol → String
  | ipv4 => "IP"
  | ipv6 => "IPV6"
  | dual => "IPV4V6"

/-- The parameters of an access point. -/
structure AccessPoint where
  /-- The access point's name. -/
  name : String := ""
  /-- The services it offers, the most important one first. -/
  types : List String := []
  user : Option String := none
  password : Option String := none
  authentication : Authentication := .none
  protocol : IpProtocol := .ipv4
  /-- The proxy for picture messages: an address or a host name. -/
  mmsProxy : Option String := none
  /-- The radio technology that the access point is bound to, zero for none. -/
  boundTechnology : UInt32 := 0
  deriving DecidableEq, Repr

namespace AccessPoint

/-- Picture messages are the first service of the access point. -/
def isMmsPrimary (ap : AccessPoint) : Bool := ap.types.head? == some "mms"

/-- The proxy for picture messages is given by its address. -/
def hasLiteralProxy (ap : AccessPoint) : Bool := (ap.mmsProxy.bind Address.ofText?).isSome

/-- The access point needs no name server: its first service is picture messages, through a
proxy given by its address. -/
def worksWithoutDns (ap : AccessPoint) : Bool := ap.isMmsPrimary && ap.hasLiteralProxy

/-- The access point shares the connection with tethered devices. -/
def isTethered (ap : AccessPoint) : Bool := ap.types.contains "dun"

end AccessPoint

end PacketBearer
