/-
Internet addresses.

An address is four octets (`Ipv4`) or eight groups of sixteen bits (`Ipv6`).  The number of
groups is part of the type, so that only reading has to count them.
-/
namespace PacketBearer

/-- An IPv4 address: its octets, in written order. -/
structure Ipv4 where
  first : UInt8
  second : UInt8
  third : UInt8
  fourth : UInt8
  deriving DecidableEq, Repr

/-- An IPv6 address: its eight groups, in written order. -/
structure Ipv6 where
  groups : List UInt16
  length_groups : groups.length = 8
  deriving DecidableEq, Repr

/-- An Internet address of either family. -/
inductive Address where
  | v4 (address : Ipv4)
  | v6 (address : Ipv6)
  deriving DecidableEq, Repr

namespace Ipv4

/-- The address whose octets are all zero. -/
def unspecified : Ipv4 := ⟨0, 0, 0, 0⟩

/-- The two groups that the octets fill, the first octet in the high half of the first. -/
def groups (a : Ipv4) : List UInt16 :=
  [a.first.toUInt16 * 256 + a.second.toUInt16, a.third.toUInt16 * 256 + a.fourth.toUInt16]

/-- The octets of two groups. -/
def ofGroups (high low : UInt16) : Ipv4 :=
  ⟨(high / 256).toUInt8, high.toUInt8, (low / 256).toUInt8, low.toUInt8⟩

@[simp] theorem length_groups (a : Ipv4) : a.groups.length = 2 := rfl

end Ipv4

namespace Ipv6

/-- The address whose groups are all zero. -/
def unspecified : Ipv6 := ⟨List.replicate 8 0, rfl⟩

/-- The address with the given groups, if there are eight of them. -/
def ofGroups? (groups : List UInt16) : Option Ipv6 :=
  if h : groups.length = 8 then some ⟨groups, h⟩ else none

@[simp] theorem ofGroups?_groups (a : Ipv6) : ofGroups? a.groups = some a := by
  simp [ofGroups?, a.length_groups]

/-- The IPv4 address that an address of the mapped range (five zero groups and a group of ones)
stands for. -/
def mapped? (a : Ipv6) : Option Ipv4 :=
  match a.groups with
  | [0, 0, 0, 0, 0, 0xFFFF, high, low] => some (Ipv4.ofGroups high low)
  | _ => none

end Ipv6

namespace Address

/-- The address that names no host: all its octets or groups are zero. -/
def isUnspecified : Address → Bool
  | v4 a => a == Ipv4.unspecified
  | v6 a => a == Ipv6.unspecified

/-- The number of bits of an address of the same family. -/
def width : Address → UInt8
  | v4 _ => 32
  | v6 _ => 128

end Address

end PacketBearer
