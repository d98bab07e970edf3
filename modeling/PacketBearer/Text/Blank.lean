/-
White space.

`isBlank` is the Unicode property White_Space: twenty-five code points in ten ranges.  `trim`
takes the blanks off both ends of a text:

* `trim_eq_iff` — what is left is the one text without blanks at its ends that the text is made
  of, but for blanks around it.
-/
namespace PacketBearer.Text

/-- The code points with the property White_Space, as closed ascending ranges. -/
def blankRanges : List (Nat × Nat) :=
  [(0x09, 0x0D), (0x20, 0x20), (0x85, 0x85), (0xA0, 0xA0), (0x1680, 0x1680), (0x2000, 0x200A),
   (0x2028, 0x2029), (0x202F, 0x202F), (0x205F, 0x205F), (0x3000, 0x3000)]

/-- Does a code point lie in one of the closed ranges? -/
def inRanges (ranges : List (Nat × Nat)) (n : Nat) : Bool :=
  ranges.any fun r => r.1 ≤ n && n ≤ r.2

/-- White space, in the sense of Unicode. -/
def isBlank (c : Char) : Bool := inRanges blankRanges c.toNat

/-- A text without the blanks at its two ends. -/
def trim (cs : List Char) : List Char :=
  ((cs.dropWhile isBlank).reverse.dropWhile isBlank).reverse

@[simp] theorem trim_nil : trim [] = [] := rfl

theorem dropWhile_eq_self {cs : List Char} (h : ∀ c ∈ cs.head?, isBlank c = false) :
    cs.dropWhile isBlank = cs := by
  cases cs with
  | nil => rfl
  | cons c cs => rw [List.dropWhile_cons, if_neg (by simp [h c (by simp)])]

/-- A text is a core with blanks around it, and the core neither begins nor ends with one. -/
structure Wraps (cs core : List Char) : Prop where
  around : ∃ before behind, cs = before ++ (core ++ behind) ∧
    (∀ c ∈ before, isBlank c = true) ∧ ∀ c ∈ behind, isBlank c = true
  first : ∀ c ∈ core.head?, isBlank c = false
  last : ∀ c ∈ core.getLast?, isBlank c = false

/-- Where dropping stops there is no blank. -/
theorem unblank_head_dropWhile (cs : List Char) :
    ∀ c ∈ (cs.dropWhile isBlank).head?, isBlank c = false := by
  intro c hc
  have hnot := List.head?_dropWhile_not isBlank cs
  rw [Option.mem_def.mp hc] at hnot
  simpa using hnot

theorem wraps_trim (cs : List Char) : Wraps cs (trim cs) := by
  let rest := cs.dropWhile isBlank
  have hrest : rest = trim cs ++ (rest.reverse.takeWhile isBlank).reverse := by
    rw [trim, ← List.reverse_append, List.takeWhile_append_dropWhile, List.reverse_reverse]
  have blank : ∀ (cs : List Char), ∀ c ∈ cs.takeWhile isBlank, isBlank c = true :=
    fun cs => List.all_eq_true.mp (List.all_takeWhile (p := isBlank))
  refine ⟨⟨cs.takeWhile isBlank, (rest.reverse.takeWhile isBlank).reverse, ?_, blank cs, ?_⟩,
    ?_, ?_⟩
  · rw [← hrest, List.takeWhile_append_dropWhile]
  · exact fun c hc => blank _ c (List.mem_reverse.mp hc)
  · intro c hc
    -- what is left begins as the text does without the blanks in front
    refine unblank_head_dropWhile cs c ?_
    show c ∈ rest.head?
    rw [hrest, List.head?_append, Option.mem_def.mp hc]
    rfl
  · rw [trim, List.getLast?_reverse]
    exact unblank_head_dropWhile _

/-- A text without the blanks at its ends is the core that it is wrapped around. -/
theorem trim_eq_iff {cs core : List Char} : trim cs = core ↔ Wraps cs core := by
  refine ⟨fun h => h ▸ wraps_trim cs, ?_⟩
  rintro ⟨⟨before, behind, rfl, hbefore, hbehind⟩, hfirst, hlast⟩
  have hend : ∀ c ∈ behind.reverse, isBlank c = true :=
    fun c hc => hbehind c (List.mem_reverse.mp hc)
  have hcore : (core.reverse).dropWhile isBlank = core.reverse :=
    dropWhile_eq_self (by simpa using hlast)
  rw [trim, List.dropWhile_append_of_pos hbefore]
  cases core with
  | nil =>
    have hnone : (behind ++ []).dropWhile isBlank = [].dropWhile isBlank :=
      List.dropWhile_append_of_pos hbehind
    rw [List.append_nil] at hnone
    rw [List.nil_append, hnone]
    rfl
  | cons c cs =>
    have hfront : (c :: cs ++ behind).dropWhile isBlank = c :: cs ++ behind :=
      dropWhile_eq_self hfirst
    rw [hfront, List.reverse_append, List.dropWhile_append_of_pos hend, hcore,
      List.reverse_reverse]

end PacketBearer.Text
