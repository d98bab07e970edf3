/-
Local addresses: an address with the length of its network part.

`ofLength?` makes only local addresses whose length fits the family; a host address leaves no
bit to the network's other hosts.
-/
import PacketBearer.Address.Reading
import PacketBearer.Address.Written

namespace PacketBearer

/-- An address of this end of the link. -/
structure LocalAddress where
  address : Address
  /-- How many leading bits name the network. -/
  length : UInt8
  deriving DecidableEq, Repr

namespace LocalAddress

/-- The local address with a given length, if the length fits the family. -/
def ofLength? (address : Address) (length : UInt8) : Option LocalAddress :=
  if length ≤ address.width then some ⟨address, length⟩ else none

/-- The address alone, all its bits naming the network. -/
def host (address : Address) : LocalAddress := ⟨address, address.width⟩

/-- The written form: the address, a slash and the length. -/
def chars (a : LocalAddress) : List Char :=
  a.address.chars ++ '/' :: Nat.toDigits 10 a.length.toNat

/-- The written form of a local address. -/
def text (a : LocalAddress) : String := String.ofList a.chars

@[simp] theorem ofLength?_width (address : Address) :
    ofLength? address address.width = some (host address) := by
  rw [ofLength?, if_pos (UInt8.le_refl _), host]

end LocalAddress

end PacketBearer
