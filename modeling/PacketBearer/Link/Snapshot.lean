/-
Links.

A link is what the ends of a bearer agreed on: the interface, the local addresses, the name
servers and the routes, and beside them the proxy that the owner has configured.
-/
import PacketBearer.Link.LocalAddress

namespace PacketBearer

/-- A proxy for web traffic, as its owner configured it. -/
structure Proxy where
  host : String := ""
  port : UInt16 := 0
  /-- The hosts that are reached without the proxy. -/
  exclusions : List String := []
  deriving DecidableEq, Repr

/-- The addressing, name service and routing of a bearer at one moment. -/
structure Link where
  interface : Option String := none
  addresses : List LocalAddress := []
  dns : List Address := []
  /-- The gateways of the default routes. -/
  routes : List Address := []
  proxy : Option Proxy := none
  deriving DecidableEq, Repr

namespace Link

/-- Nothing is agreed on, and no proxy configured. -/
def isEmpty (l : Link) : Bool :=
  l.interface.isNone && l.addresses.isEmpty && l.dns.isEmpty && l.routes.isEmpty && l.proxy.isNone

/-- The link with another proxy, or none. -/
def withProxy (l : Link) (proxy : Option Proxy) : Link := { l with proxy }

@[simp] theorem withProxy_proxy (l : Link) (p : Option Proxy) : (l.withProxy p).proxy = p := rfl

@[simp] theorem withProxy_withProxy (l : Link) (p q : Option Proxy) :
    (l.withProxy p).withProxy q = l.withProxy q := rfl

theorem isEmpty_iff {l : Link} : l.isEmpty = true ↔ l = {} := by
  cases l
  simp only [isEmpty, Bool.and_eq_true, Option.isNone_iff_eq_none, List.isEmpty_iff, Link.mk.injEq,
    and_assoc]

end Link

end PacketBearer
