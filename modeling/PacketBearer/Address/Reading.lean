/-
Reading addresses.

The whole text has to be an address: no blanks around it, no brackets, no zone.  An IPv4
address has exactly four decimal octets of at most three digits and without leading zeros.  An
IPv6 address has eight groups of one to four hexadecimal digits; two colons may stand once for
one or more zero groups, and a dotted IPv4 address may stand for the last two groups.
-/
import PacketBearer.Address.Basic
import PacketBearer.Text.Numeral

namespace PacketBearer

namespace Ipv4

/-- An octet: up to three decimal digits, the first of several not a zero, at most 255. -/
def octet? (cs : List Char) : Option UInt8 :=
  if 3 < cs.length ∨ (1 < cs.length ∧ cs.head? = some '0') then none
  else (Numeral.read? 10 cs).bind fun n => if n < 256 then some n.toUInt8 else none

/-- The IPv4 address that a text writes. -/
def ofChars? (cs : List Char) : Option Ipv4 :=
  match cs.splitOn '.' with
  | [a, b, c, d] => do return ⟨← octet? a, ← octet? b, ← octet? c, ← octet? d⟩
  | _ => none

end Ipv4

namespace Ipv6

/-- A group: one to four hexadecimal digits. -/
def group? (cs : List Char) : Option UInt16 :=
  if 4 < cs.length then none else (Numeral.read? 16 cs).map Nat.toUInt16

/-- The groups that a sequence of fields writes.  Where `dotted` holds, the last field may be an
IPv4 address, which stands for two groups. -/
def groups? (dotted : Bool) : List (List Char) → Option (List UInt16)
  | [] => some []
  | [field] =>
    match group? field with
    | some g => some [g]
    | none => if dotted then (Ipv4.ofChars? field).map Ipv4.groups else none
  | field :: next :: fields => do return (← group? field) :: (← groups? dotted (next :: fields))

/-- The groups that stand on one side of the two colons: possibly none. -/
def side? (dotted : Bool) (cs : List Char) : Option (List UInt16) :=
  if cs = [] then some [] else groups? dotted (cs.splitOn ':')

/-- Cuts a text at its first two colons in a row. -/
def cutGap? : List Char → Option (List Char × List Char)
  | [] => none
  | c :: cs =>
    if c = ':' ∧ cs.head? = some ':' then some ([], cs.tail)
    else (cutGap? cs).map fun (before, after) => (c :: before, after)

/-- The IPv6 address that a text writes. -/
def ofChars? (cs : List Char) : Option Ipv6 :=
  match cutGap? cs with
  | none => (groups? true (cs.splitOn ':')).bind ofGroups?
  | some (before, after) => do
    let head ← side? false before
    let tail ← side? true after
    -- The two colons stand for one group at least.
    if head.length + tail.length < 8 then
      ofGroups? (head ++ List.replicate (8 - (head.length + tail.length)) 0 ++ tail)
    else none

end Ipv6

namespace Address

/-- The address that a text writes, as characters. -/
def ofChars? (cs : List Char) : Option Address :=
  match Ipv4.ofChars? cs with
  | some a => some (v4 a)
  | none => (Ipv6.ofChars? cs).map v6

/-- The address that a text writes. -/
def ofText? (s : String) : Option Address := ofChars? s.toList

end Address

end PacketBearer
