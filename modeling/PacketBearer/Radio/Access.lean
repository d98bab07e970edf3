/-
Radio access technologies.

A technology knows how to order a bearer for an access point, which name servers and gateways
the system offers on an interface, and whether a list of name servers will do for an access
point.  `CellularAccess` is the technology of cellular networks; `CellularAccess.orderFor?`
fails where the radio's number for the technology, which is the system's number plus two,
does not fit its 32 bits:

* `CellularAccess.orderFor?_eq_none_iff` says exactly when.
-/
import PacketBearer.Radio.Order

namespace PacketBearer

/-- A radio access technology, as far as a bearer needs to know it. -/
structure AccessTechnology where
  /-- The order for a bearer to an access point; none if it cannot be expressed. -/
  orderFor? : AccessPoint → Option SetupOrder
  /-- The system's name servers for an interface. -/
  systemDns : String → List Address
  /-- The system's gateways for an interface, in written form. -/
  systemGateways : String → List String
  /-- Will a list of name servers do for an access point? -/
  acceptsDns : List Address → AccessPoint → Bool

/-- The settings of the cellular technology. -/
structure CellularAccess where
  /-- The system's number for the technology in service. -/
  inService : UInt32 := 0
  /-- Any list of name servers will do. -/
  dnsCheckDisabled : Bool := false
  systemDns : List Address := []
  systemGateways : List String := []
  deriving DecidableEq, Repr

namespace CellularAccess

/-- The radio's number for a technology; none if it does not fit. -/
def radioNumber? (technology : UInt32) : Option UInt32 :=
  if technology.toNat + 2 < UInt32.size then some (technology + 2) else none

/-- The technology to use for an access point: the one it is bound to, or the one in service. -/
def technologyFor (c : CellularAccess) (ap : AccessPoint) : UInt32 :=
  if 0 < ap.boundTechnology then ap.boundTechnology else c.inService

/-- A user name calls for authentication, even where none is configured. -/
def authenticationFor (ap : AccessPoint) : Authentication :=
  if ap.authentication = .none ∧ ap.user.getD "" ≠ "" then .papOrChap else ap.authentication

/-- The order for a bearer to an access point. -/
def orderFor? (c : CellularAccess) (ap : AccessPoint) : Option SetupOrder :=
  (radioNumber? (c.technologyFor ap)).map fun technology =>
    { technology
      usage := if ap.isTethered then .tethered else .own
      accessPoint := ap.name
      user := ap.user
      password := ap.password
      authentication := authenticationFor ap
      protocol := ap.protocol }

/-- A list of name servers that are all unspecified will do only for an access point that needs
none, unless the check is disabled. -/
def acceptsDns (c : CellularAccess) (servers : List Address) (ap : AccessPoint) : Bool :=
  if servers ≠ [] ∧ servers.all Address.isUnspecified ∧ c.dnsCheckDisabled = false then
    ap.worksWithoutDns
  else true

/-- The cellular technology with these settings. -/
def technology (c : CellularAccess) : AccessTechnology where
  orderFor? := c.orderFor?
  systemDns _ := c.systemDns
  systemGateways _ := c.systemGateways
  acceptsDns := c.acceptsDns

/-- The cellular technology on a system that offers neither name servers nor gateways, with a
fixed opinion on name servers. -/
def bareTechnology (c : CellularAccess) (dnsAcceptable : Bool) : AccessTechnology where
  orderFor? := c.orderFor?
  systemDns _ := []
  systemGateways _ := []
  acceptsDns _ _ := dnsAcceptable

/-- An order fails exactly for the two highest numbers of a technology. -/
theorem orderFor?_eq_none_iff {c : CellularAccess} {ap : AccessPoint} :
    c.orderFor? ap = none ↔ 0xFFFFFFFE ≤ c.technologyFor ap := by
  rw [orderFor?, Option.map_eq_none_iff, radioNumber?, UInt32.le_iff_toNat_le]
  simp only [ite_eq_right_iff, reduceCtorEq, imp_false, Nat.not_lt, UInt32.size]
  simp

end CellularAccess

end PacketBearer
