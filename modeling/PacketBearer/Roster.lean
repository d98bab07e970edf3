/-
Rosters: the clients that share a bearer, in the order in which they joined.

A client is known by its name.  Every operation that may leave the roster as it is says whether
it did.
-/
namespace PacketBearer

/-- The clients attached to a bearer, the earliest first. -/
structure Roster where
  names : List String := []
  deriving DecidableEq, Repr

namespace Roster

instance : EmptyCollection Roster := ⟨⟨[]⟩⟩

instance : Membership String Roster := ⟨fun r name => name ∈ r.names⟩

instance (name : String) (r : Roster) : Decidable (name ∈ r) :=
  inferInstanceAs (Decidable (name ∈ r.names))

/-- How many clients are attached. -/
def size (r : Roster) : Nat := r.names.length

/-- No client is attached. -/
def isEmpty (r : Roster) : Bool := r.names.isEmpty

/-- Attaches a client at the end, unless it is attached; says whether it was not. -/
def attach (r : Roster) (name : String) : Bool × Roster :=
  if name ∈ r then (false, r) else (true, ⟨r.names ++ [name]⟩)

/-- Detaches a client; says whether it was attached. -/
def detach (r : Roster) (name : String) : Bool × Roster :=
  (decide (name ∈ r), ⟨r.names.filter (· ≠ name)⟩)

/-- Detaches all clients; says who was attached. -/
def clear (r : Roster) : List String × Roster := (r.names, ∅)

theorem mem_iff {r : Roster} {name : String} : name ∈ r ↔ name ∈ r.names := Iff.rfl

@[simp] theorem notMem_empty (name : String) : name ∉ (∅ : Roster) := by
  simp [mem_iff, EmptyCollection.emptyCollection]

theorem mem_attach {r : Roster} {name other : String} :
    other ∈ (r.attach name).2 ↔ other ∈ r ∨ other = name := by
  rw [attach]
  split
  · next h => exact ⟨Or.inl, fun h' => h'.elim id (· ▸ h)⟩
  · simp [mem_iff]

theorem mem_detach {r : Roster} {name other : String} :
    other ∈ (r.detach name).2 ↔ other ∈ r ∧ other ≠ name := by
  simp [detach, mem_iff]

@[simp] theorem names_empty : (∅ : Roster).names = [] := rfl

/-- The first client is attached alone. -/
@[simp] theorem names_attach_empty (name : String) :
    ((∅ : Roster).attach name).2.names = [name] := by
  rw [attach, if_neg (notMem_empty name)]
  rfl

theorem nodup_attach {r : Roster} (h : r.names.Nodup) (name : String) :
    (r.attach name).2.names.Nodup := by
  rw [attach]
  split
  · exact h
  · next hname =>
    rw [List.nodup_append]
    refine ⟨h, by simp, ?_⟩
    rintro other hother _ hlast rfl
    rw [List.mem_singleton.mp hlast] at hother
    exact hname hother

theorem nodup_detach {r : Roster} (h : r.names.Nodup) (name : String) :
    (r.detach name).2.names.Nodup := h.filter _

theorem attach_ne_nil (r : Roster) (name : String) : (r.attach name).2.names ≠ [] := by
  rw [attach]
  split
  · next h => exact List.ne_nil_of_mem (mem_iff.mp h)
  · simp

/-- Someone stays where one of several clients leaves. -/
theorem detach_ne_nil {r : Roster} (h : r.names.Nodup) {name : String} (hmem : name ∈ r)
    (hsize : r.size ≠ 1) : (r.detach name).2.names ≠ [] := by
  intro hnil
  have hall : ∀ other ∈ r.names, other = name := by
    intro other hother
    by_cases heq : other = name
    · exact heq
    · have hstay : other ∈ (r.detach name).2 := mem_detach.mpr ⟨hother, heq⟩
      rw [mem_iff, hnil] at hstay
      cases hstay
  obtain ⟨names⟩ := r
  match names, h, hall, hmem, hsize with
  | [], _, _, hmem, _ => cases hmem
  | [_], _, _, _, hsize => exact hsize rfl
  | first :: second :: rest, h, hall, _, _ =>
    have hsame : first = second := (hall first (by simp)).trans (hall second (by simp)).symm
    rw [hsame] at h
    simp at h

end Roster

end PacketBearer
