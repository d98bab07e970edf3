/-
The written form of an address.

An IPv4 address is written as its octets in decimal, separated by points.  An IPv6 address is
written as its groups in lower-case hexadecimal, separated by colons; the first of the longest
runs of two or more zero groups is left out, and two colons stand in its place.  Only an
address of the mapped range ends in a dotted IPv4 address.
-/
import PacketBearer.Address.Basic
import PacketBearer.Text.Numeral

namespace PacketBearer

/-- The written form of an IPv4 address. -/
def Ipv4.chars (a : Ipv4) : List Char :=
  ['.'].intercalate ([a.first, a.second, a.third, a.fourth].map fun o => Nat.toDigits 10 o.toNat)

namespace Ipv6

/-- Groups in hexadecimal digits, with a colon between each two. -/
def groupChars (groups : List UInt16) : List Char :=
  [':'].intercalate (groups.map fun g => Nat.toDigits 16 g.toNat)

/-- The length of the run of zero groups that starts at a position. -/
def zeroRun (groups : List UInt16) (start : Nat) : Nat :=
  ((groups.drop start).takeWhile (· == 0)).length

/-- The first position at which a longest run of zero groups starts. -/
def longestRun (groups : List UInt16) : Nat :=
  (List.range groups.length).foldl
    (fun best i => if zeroRun groups best < zeroRun groups i then i else best) 0

/-- The written form of an IPv6 address. -/
def chars (a : Ipv6) : List Char :=
  match a.mapped? with
  | some inner => [':', ':', 'f', 'f', 'f', 'f', ':'] ++ inner.chars
  | none =>
    let start := longestRun a.groups
    let length := zeroRun a.groups start
    if 1 < length then
      groupChars (a.groups.take start) ++ [':', ':'] ++ groupChars (a.groups.drop (start + length))
    else groupChars a.groups

end Ipv6

namespace Address

/-- The written form of an address, as characters. -/
def chars : Address → List Char
  | v4 a => a.chars
  | v6 a => a.chars

/-- The written form of an address. -/
def text (a : Address) : String := String.ofList a.chars

instance : ToString Address := ⟨text⟩

end Address

end PacketBearer
