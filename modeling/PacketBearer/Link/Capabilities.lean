/-
The capabilities of a link: texts under names.

The meaning of a table is `get?`; a name has one value, the last one given:

* `get?_insert_self`, `get?_insert_of_ne` — the new value is found, all other names keep theirs.
-/
namespace PacketBearer

/-- A table of capabilities by name. -/
structure Capabilities where
  entries : List (String × String) := []
  deriving DecidableEq, Repr

namespace Capabilities

/-- The value under a name. -/
def get? (c : Capabilities) (name : String) : Option String := c.entries.lookup name

/-- The table with a value under a name, in place of any value it had. -/
def insert (c : Capabilities) (name value : String) : Capabilities :=
  ⟨(name, value) :: c.entries.filter (·.1 != name)⟩

/-- How many names have a value. -/
def size (c : Capabilities) : Nat := c.entries.length

/-- No name has a value. -/
def isEmpty (c : Capabilities) : Bool := c.entries.isEmpty

@[simp] theorem get?_insert_self (c : Capabilities) (name value : String) :
    (c.insert name value).get? name = some value := by
  simp [get?, insert]

/-- A table keeps the values under all other names. -/
theorem get?_insert_of_ne (c : Capabilities) {name other : String} (value : String)
    (h : other ≠ name) : (c.insert name value).get? other = c.get? other := by
  have hb : (other == name) = false := beq_eq_false_iff_ne.mpr h
  have hfilter : ∀ l : List (String × String),
      (l.filter (·.1 != name)).lookup other = l.lookup other := by
    intro l
    induction l with
    | nil => rfl
    | cons entry l ih =>
      obtain ⟨key, v⟩ := entry
      by_cases hk : key = name
      · subst hk
        simp [List.lookup_cons, hb, ih]
      · simp [List.lookup_cons, hk, ih]
  simp [get?, insert, List.lookup_cons, hb, hfilter]

end Capabilities

end PacketBearer
