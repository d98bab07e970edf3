/-
Written addresses, read again.

What is written of an address is read as that address, and as no other: a dotted address has no
colon, so that it is told from one in groups, and the two colons of an address in groups are the
first two in a row.

* `Ipv4.ofChars?_chars` — four octets;
* `Ipv6.groups?_map`, `Ipv6.side?_groupChars` — groups, with a colon between each two;
* `Ipv6.cutGap?_append`, `Ipv6.regroup` — a gap is cut where it was left, and filled as it was;
* `Ipv6.zeroRun_longestRun` — the gap is left for the first of the longest runs of zero groups;
* `Address.ofChars?_chars` — addresses of either family.

Design notes: reading fills whatever run of zero groups is left out, and does not care which one the
writer has chosen.  So the choice is a fact of its own, and no proof here depends on it.
-/
import Mathlib.Data.List.Chain
import Mathlib.Data.List.TakeWhile
import PacketBearer.Proofs.Scrutiny

namespace PacketBearer

/-! ### Numerals -/

namespace Numeral

/-- The digits that are written. -/
def hexDigits : List Char :=
  ['0', '1', '2', '3', '4', '5', '6', '7', '8', '9', 'a', 'b', 'c', 'd', 'e', 'f']

variable {base n : Nat} {c : Char}

theorem mem_hexDigits (hb : 1 < base) (hb' : base ≤ 16) (mem : c ∈ Nat.toDigits base n) :
    c ∈ hexDigits := by
  have hdigit : ∀ d < 16, d.digitChar ∈ hexDigits := by decide
  induction n using Nat.strongRecOn with
  | _ n ih =>
    by_cases hlt : n < base
    · rw [Nat.toDigits_of_lt_base hlt] at mem
      rw [List.mem_singleton.mp mem]
      exact hdigit n (by omega)
    · rw [Nat.toDigits_of_base_le hb (by omega)] at mem
      rcases List.mem_append.mp mem with hfirst | hlast
      · exact ih (n / base) (Nat.div_lt_self (by omega) hb) hfirst
      · rw [List.mem_singleton.mp hlast]
        have := Nat.mod_lt n (show 0 < base by omega)
        exact hdigit (n % base) (by omega)

/-- A number above zero is written without leading zeros. -/
theorem head?_toDigits (hb : 1 < base) (hb' : base ≤ 16) (pos : 0 < n) :
    (Nat.toDigits base n).head? ≠ some '0' := by
  have hzero : ∀ d < 16, d.digitChar = '0' → d = 0 := by decide
  induction n using Nat.strongRecOn with
  | _ n ih =>
    by_cases hlt : n < base
    · rw [Nat.toDigits_of_lt_base hlt, List.head?_cons]
      intro h
      have := hzero n (by omega) (Option.some.inj h)
      omega
    · rw [Nat.toDigits_of_base_le hb (by omega),
        List.head?_append_of_ne_nil _ Nat.toDigits_ne_nil]
      exact ih (n / base) (Nat.div_lt_self pos hb) (Nat.div_pos (by omega) (by omega))

end Numeral

/-- What a list of texts with separators is made of. -/
theorem mem_intercalate {sep c : Char} {texts : List (List Char)}
    (mem : c ∈ [sep].intercalate texts) : c = sep ∨ ∃ text ∈ texts, c ∈ text := by
  induction texts with
  | nil => cases mem
  | cons text texts ih =>
    cases texts with
    | nil =>
      rw [List.intercalate_singleton] at mem
      exact Or.inr ⟨text, List.mem_cons_self, mem⟩
    | cons next texts =>
      rw [List.intercalate_cons_cons, List.append_assoc, List.mem_append, List.mem_append,
        List.mem_singleton] at mem
      rcases mem with htext | rfl | hrest
      · exact Or.inr ⟨text, List.mem_cons_self, htext⟩
      · exact Or.inl rfl
      · refine (ih hrest).imp_right ?_
        rintro ⟨other, hother, hmem⟩
        exact ⟨other, List.mem_cons_of_mem _ hother, hmem⟩

/-! ### Octets -/

namespace Ipv4

@[simp] theorem octet?_toDigits (o : UInt8) : octet? (Nat.toDigits 10 o.toNat) = some o := by
  have hlt := o.toNat_lt
  have hshort : (Nat.toDigits 10 o.toNat).length ≤ 3 :=
    (Nat.length_toDigits_le_iff (by decide) (by decide)).mpr (by omega)
  have hplain : ¬ (3 < (Nat.toDigits 10 o.toNat).length ∨
      1 < (Nat.toDigits 10 o.toNat).length ∧ (Nat.toDigits 10 o.toNat).head? = some '0') := by
    rintro (hlong | ⟨hseveral, hzero⟩)
    · omega
    · -- a number of several digits is not zero
      have hpos : 0 < o.toNat := by
        by_contra hnone
        have := (Nat.length_toDigits_le_iff (b := 10) (n := o.toNat) (k := 1) (by decide)
          (by decide)).mpr (by omega)
        omega
      exact Numeral.head?_toDigits (by decide) (by decide) hpos hzero
  rw [octet?, if_neg hplain, Numeral.read?_toDigits (by decide) (by decide), Option.bind_some,
    if_pos hlt, Nat.toUInt8, UInt8.ofNat_toNat]

/-- What is written of an address is read as that address. -/
@[simp] theorem ofChars?_chars (a : Ipv4) : ofChars? a.chars = some a := by
  have hpoint : ∀ field ∈ [a.first, a.second, a.third, a.fourth].map
      fun o => Nat.toDigits 10 o.toNat, '.' ∉ field := by
    intro field hfield hmem
    obtain ⟨o, -, rfl⟩ := List.mem_map.mp hfield
    exact absurd (Numeral.mem_hexDigits (by decide) (by decide) hmem) (by decide)
  rw [ofChars?, chars, List.splitOn_intercalate _ hpoint (by simp)]
  simp

theorem length_chars (a : Ipv4) : 6 < a.chars.length := by
  have hpos : ∀ o : UInt8, 0 < (Nat.toDigits 10 o.toNat).length := fun _ => Nat.length_toDigits_pos
  have h₁ := hpos a.first
  have h₂ := hpos a.second
  have h₃ := hpos a.third
  have h₄ := hpos a.fourth
  simp only [chars, List.map_cons, List.map_nil, List.intercalate_cons_cons,
    List.intercalate_singleton, List.length_append, List.length_singleton]
  omega

theorem mem_chars {a : Ipv4} {c : Char} (mem : c ∈ a.chars) : c = '.' ∨ c ∈ Numeral.hexDigits := by
  refine (mem_intercalate mem).imp_right ?_
  rintro ⟨field, hfield, hmem⟩
  obtain ⟨o, -, rfl⟩ := List.mem_map.mp hfield
  exact Numeral.mem_hexDigits (by decide) (by decide) hmem

theorem isDigit_of_octet? {field : List Char} {o : UInt8} (h : octet? field = some o) :
    ∀ c ∈ field, c.isDigit = true := by
  rw [octet?] at h
  split at h
  · cases h
  · obtain ⟨n, hread, -⟩ := Option.bind_eq_some_iff.mp h
    exact (Numeral.read?_ten.mp hread).2.1

/-- A text with a colon is not four octets. -/
theorem ofChars?_of_colon {cs : List Char} (colon : ':' ∈ cs) : ofChars? cs = none := by
  refine Option.eq_none_iff_forall_ne_some.mpr fun a h => ?_
  rw [ofChars?] at h
  split at h
  · next first second third fourth hsplit =>
    simp only [Option.bind_eq_bind, Option.bind_eq_some_iff] at h
    obtain ⟨o₁, h₁, o₂, h₂, o₃, h₃, o₄, h₄, -⟩ := h
    have hjoin : ['.'].intercalate (cs.splitOn '.') = cs := List.intercalate_splitOn '.'
    rw [← hjoin, hsplit] at colon
    rcases mem_intercalate colon with hsep | ⟨field, hfield, hmem⟩
    · exact absurd hsep (by decide)
    · have hdigit : ':'.isDigit = true := by
        simp only [List.mem_cons, List.not_mem_nil, or_false] at hfield
        rcases hfield with rfl | rfl | rfl | rfl
        · exact isDigit_of_octet? h₁ _ hmem
        · exact isDigit_of_octet? h₂ _ hmem
        · exact isDigit_of_octet? h₃ _ hmem
        · exact isDigit_of_octet? h₄ _ hmem
      cases hdigit
  · cases h

/-- Two groups are those of their octets. -/
@[simp] theorem groups_ofGroups (high low : UInt16) : (ofGroups high low).groups = [high, low] := by
  have hbytes : ∀ g : UInt16, (g / 256).toUInt8.toUInt16 * 256 + g.toUInt8.toUInt16 = g := by
    intro g
    have hlt := g.toNat_lt
    refine UInt16.toNat_inj.mp ?_
    simp only [UInt16.toNat_add, UInt16.toNat_mul, UInt8.toNat_toUInt16, UInt16.toNat_toUInt8,
      UInt16.toNat_div, UInt16.reduceToNat]
    omega
  rw [groups, ofGroups]
  dsimp only
  rw [hbytes, hbytes]

end Ipv4

/-! ### Groups -/

namespace Ipv6

theorem group?_toDigits (g : UInt16) : group? (Nat.toDigits 16 g.toNat) = some g := by
  have hlt := g.toNat_lt
  have hshort : (Nat.toDigits 16 g.toNat).length ≤ 4 :=
    (Nat.length_toDigits_le_iff (by decide) (by decide)).mpr (by omega)
  rw [group?, if_neg (by omega), Numeral.read?_toDigits (by decide) (by decide), Option.map_some,
    Nat.toUInt16, UInt16.ofNat_toNat]

theorem groups?_map (dotted : Bool) (groups : List UInt16) :
    groups? dotted (groups.map fun g => Nat.toDigits 16 g.toNat) = some groups := by
  induction groups with
  | nil => rfl
  | cons g groups ih =>
    cases groups with
    | nil =>
      rw [List.map_cons, List.map_nil, groups?, group?_toDigits]
    | cons next groups =>
      rw [List.map_cons] at ih
      rw [List.map_cons, List.map_cons, groups?, group?_toDigits, ih]
      rfl

theorem colon_notMem_toDigits (g : UInt16) : ':' ∉ Nat.toDigits 16 g.toNat := fun hmem =>
  absurd (Numeral.mem_hexDigits (by decide) (by decide) hmem) (by decide)

theorem splitOn_groupChars {groups : List UInt16} (filled : groups ≠ []) :
    (groupChars groups).splitOn ':' = groups.map fun g => Nat.toDigits 16 g.toNat := by
  refine List.splitOn_intercalate _ ?_ (by simpa using filled)
  intro field hfield
  obtain ⟨g, -, rfl⟩ := List.mem_map.mp hfield
  exact colon_notMem_toDigits g

theorem groupChars_cons (g next : UInt16) (groups : List UInt16) :
    groupChars (g :: next :: groups) =
      Nat.toDigits 16 g.toNat ++ ':' :: groupChars (next :: groups) := by
  rw [groupChars, List.map_cons, List.map_cons, List.intercalate_cons_cons, List.append_assoc]
  rfl

@[simp] theorem groupChars_singleton (g : UInt16) : groupChars [g] = Nat.toDigits 16 g.toNat :=
  List.intercalate_singleton

/-- Groups begin with a digit. -/
theorem exists_groupChars (g : UInt16) (groups : List UInt16) :
    ∃ c rest, groupChars (g :: groups) = c :: rest ∧ c ≠ ':' := by
  obtain ⟨c, rest, hdigits⟩ :=
    List.exists_cons_of_ne_nil (Nat.toDigits_ne_nil (b := 16) (n := g.toNat))
  have hcolon : c ≠ ':' := by
    rintro rfl
    exact colon_notMem_toDigits g (hdigits ▸ List.mem_cons_self)
  cases groups with
  | nil => exact ⟨c, rest, by rw [groupChars_singleton, hdigits], hcolon⟩
  | cons next groups =>
    refine ⟨c, rest ++ ':' :: groupChars (next :: groups), ?_, hcolon⟩
    rw [groupChars_cons, hdigits, List.cons_append]

@[simp] theorem side?_groupChars (dotted : Bool) (groups : List UInt16) :
    side? dotted (groupChars groups) = some groups := by
  cases groups with
  | nil => rfl
  | cons g groups =>
    obtain ⟨c, rest, hchars, -⟩ := exists_groupChars g groups
    have hne : groupChars (g :: groups) ≠ [] := by
      rw [hchars]
      exact List.cons_ne_nil c rest
    rw [side?, if_neg hne, splitOn_groupChars (List.cons_ne_nil g groups), groups?_map]

/-! ### The gap -/

/-- No two colons in a row. -/
def Tight (cs : List Char) : Prop := cs.IsChain fun c d => ¬ (c = ':' ∧ d = ':')

theorem cutGap?_of_tight {cs : List Char} (tight : Tight cs) : cutGap? cs = none := by
  induction cs with
  | nil => rfl
  | cons c cs ih =>
    obtain ⟨hfirst, hrest⟩ := List.isChain_cons.mp tight
    rw [cutGap?, if_neg fun h => hfirst ':' h.2 ⟨h.1, rfl⟩, ih hrest, Option.map_none]

/-- A text is cut at its first two colons in a row. -/
theorem cutGap?_append {before : List Char} (tight : Tight (before ++ [':'])) (after : List Char) :
    cutGap? (before ++ ':' :: ':' :: after) = some (before, after) := by
  induction before with
  | nil => rfl
  | cons c before ih =>
    obtain ⟨hfirst, hrest⟩ := List.isChain_cons.mp tight
    have hnot : ¬ (c = ':' ∧ (before ++ ':' :: ':' :: after).head? = some ':') := by
      rintro ⟨hc, hhead⟩
      refine hfirst ':' ?_ ⟨hc, rfl⟩
      cases before with
      | nil => rfl
      | cons d before => exact hhead
    rw [List.cons_append, cutGap?, if_neg hnot, ih hrest]
    rfl

/-- Groups have no two colons in a row, not even with a colon behind them. -/
theorem tight_groupChars (groups : List UInt16) : Tight (groupChars groups ++ [':']) := by
  have hdigits : ∀ g : UInt16, Tight (Nat.toDigits 16 g.toNat) := fun g =>
    (List.pairwise_of_forall_mem_list fun c hc d _ (h : c = ':' ∧ d = ':') =>
      colon_notMem_toDigits g (h.1 ▸ hc)).isChain
  have hlast : ∀ g : UInt16, ∀ c ∈ (Nat.toDigits 16 g.toNat).getLast?, ∀ d : Char,
      ¬ (c = ':' ∧ d = ':') := fun g c hc d h =>
    colon_notMem_toDigits g (h.1 ▸ List.mem_of_getLast? hc)
  induction groups with
  | nil => exact List.isChain_singleton _
  | cons g groups ih =>
    cases groups with
    | nil =>
      rw [groupChars_singleton]
      exact List.isChain_append.mpr
        ⟨hdigits g, List.isChain_singleton _, fun c hc d _ => hlast g c hc d⟩
    | cons next groups =>
      obtain ⟨c, rest, hchars, hcolon⟩ := exists_groupChars next groups
      rw [groupChars_cons, List.append_assoc, List.cons_append]
      refine List.isChain_append.mpr ⟨hdigits g, List.isChain_cons.mpr ⟨?_, ih⟩, ?_⟩
      · rw [hchars]
        rintro d hd ⟨-, rfl⟩
        exact hcolon (Option.some.inj hd)
      · exact fun c hc d _ => hlast g c hc d

/-- A run of zero groups that is left out is filled again. -/
theorem regroup (groups : List UInt16) (start : Nat) :
    groups.take start ++ List.replicate (zeroRun groups start) 0 ++
      groups.drop (start + zeroRun groups start) = groups := by
  have hrun : (groups.drop start).takeWhile (· == 0) = List.replicate (zeroRun groups start) 0 :=
    List.eq_replicate_iff.mpr ⟨rfl, fun g hg => by simpa using List.mem_takeWhile_imp hg⟩
  have hrest : (groups.drop start).dropWhile (· == 0) =
      groups.drop (start + zeroRun groups start) := by
    rw [← List.drop_drop]
    nth_rewrite 2 [← List.takeWhile_append_dropWhile (p := (· == 0)) (l := groups.drop start)]
    rw [zeroRun, List.drop_left]
  rw [← hrun, ← hrest, List.append_assoc, List.takeWhile_append_dropWhile, List.take_append_drop]

theorem length_regroup (groups : List UInt16) (start : Nat) :
    (groups.take start).length + (groups.drop (start + zeroRun groups start)).length +
      zeroRun groups start = groups.length := by
  conv_rhs => rw [← regroup groups start]
  simp only [List.length_append, List.length_replicate]
  omega

/-! ### Addresses -/

theorem mapped?_eq_some {a : Ipv6} {inner : Ipv4} (h : a.mapped? = some inner) :
    a.groups = [0, 0, 0, 0, 0, 0xFFFF] ++ inner.groups := by
  rw [mapped?] at h
  split at h
  · next high low hgroups =>
    cases h
    rw [hgroups, Ipv4.groups_ofGroups]
    rfl
  · cases h

/-- A dotted address behind two colons and a group of ones. -/
theorem ofChars?_mapped {a : Ipv6} {inner : Ipv4} (mapped : a.mapped? = some inner) :
    ofChars? ([':', ':', 'f', 'f', 'f', 'f', ':'] ++ inner.chars) = some a := by
  have hcolon : ':' ∉ inner.chars := fun hmem =>
    (Ipv4.mem_chars hmem).elim (by decide) (by decide)
  have hsplit : (['f', 'f', 'f', 'f'] ++ ':' :: inner.chars).splitOn ':' =
      [['f', 'f', 'f', 'f'], inner.chars] := by
    rw [List.splitOn_append_cons_self_of_not_mem (by decide), List.splitOn_eq_singleton hcolon]
  have hgroup : group? inner.chars = none := by
    have := inner.length_chars
    exact if_pos (by omega)
  have htail : side? true (['f', 'f', 'f', 'f'] ++ ':' :: inner.chars) =
      some (0xFFFF :: inner.groups) := by
    rw [side?, if_neg (by simp), hsplit, groups?, groups?, hgroup, if_pos rfl,
      Ipv4.ofChars?_chars]
    rfl
  have hgroups := mapped?_eq_some mapped
  have htight : Tight ([] ++ [':']) := List.isChain_singleton ':'
  show ofChars? ([] ++ ':' :: ':' :: (['f', 'f', 'f', 'f'] ++ ':' :: inner.chars)) = some a
  rw [ofChars?, cutGap?_append htight]
  dsimp only
  rw [htail]
  show ofGroups? ([0, 0, 0, 0, 0] ++ (0xFFFF :: inner.groups)) = some a
  rw [← ofGroups?_groups a, hgroups]
  rfl

/-- Groups with a run of zero groups left out. -/
theorem ofChars?_gap (a : Ipv6) (start : Nat) (long : 0 < zeroRun a.groups start) :
    ofChars? (groupChars (a.groups.take start) ++ [':', ':'] ++
      groupChars (a.groups.drop (start + zeroRun a.groups start))) = some a := by
  have hlength := length_regroup a.groups start
  rw [a.length_groups] at hlength
  rw [List.append_assoc, ofChars?, List.cons_append, List.cons_append, List.nil_append,
    cutGap?_append (tight_groupChars _)]
  simp only [side?_groupChars, Option.bind_eq_bind, Option.bind_some]
  rw [if_pos (by omega), show 8 - _ = zeroRun a.groups start by omega, regroup, ofGroups?_groups]

/-- Groups without a gap. -/
theorem ofChars?_groupChars (a : Ipv6) : ofChars? (groupChars a.groups) = some a := by
  have hne : a.groups ≠ [] := by
    intro hnil
    have := a.length_groups
    rw [hnil] at this
    cases this
  have htight : Tight (groupChars a.groups) := (List.isChain_append.mp (tight_groupChars _)).1
  rw [ofChars?, cutGap?_of_tight htight]
  dsimp only
  rw [splitOn_groupChars hne, groups?_map, Option.bind_some, ofGroups?_groups]

/-- What is written of an address is read as that address. -/
@[simp] theorem ofChars?_chars (a : Ipv6) : ofChars? a.chars = some a := by
  rw [chars]
  split
  · next inner mapped => exact ofChars?_mapped mapped
  · dsimp only
    split
    · next long => exact ofChars?_gap a _ (by omega)
    · exact ofChars?_groupChars a

theorem colon_mem_chars (a : Ipv6) : ':' ∈ a.chars := by
  rw [chars]
  split
  · exact List.mem_append_left _ List.mem_cons_self
  · dsimp only
    split
    · exact List.mem_append_left _ (List.mem_append_right _ List.mem_cons_self)
    · -- between eight groups there is a colon
      have hlength := a.length_groups
      obtain ⟨g, next, groups, hgroups⟩ : ∃ g next groups, a.groups = g :: next :: groups := by
        match a.groups, hlength with
        | g :: next :: groups, _ => exact ⟨g, next, groups, rfl⟩
      rw [hgroups, groupChars_cons]
      exact List.mem_append_right _ List.mem_cons_self

theorem mem_groupChars {groups : List UInt16} {c : Char} (mem : c ∈ groupChars groups) :
    c = ':' ∨ c ∈ Numeral.hexDigits := by
  refine (mem_intercalate mem).imp_right ?_
  rintro ⟨field, hfield, hmem⟩
  obtain ⟨g, -, rfl⟩ := List.mem_map.mp hfield
  exact Numeral.mem_hexDigits (by decide) (by decide) hmem

theorem mem_chars {a : Ipv6} {c : Char} (mem : c ∈ a.chars) :
    c = '.' ∨ c = ':' ∨ c ∈ Numeral.hexDigits := by
  rw [chars] at mem
  split at mem
  · rcases List.mem_append.mp mem with hprefix | hinner
    · have hmapped : [':', ':', 'f', 'f', 'f', 'f', ':'].all
          (fun d => d == ':' || Numeral.hexDigits.contains d) = true := rfl
      simpa using Or.inr (List.all_eq_true.mp hmapped c hprefix)
    · exact (Ipv4.mem_chars hinner).imp_right Or.inr
  · refine Or.inr ?_
    dsimp only at mem
    split at mem
    · rw [List.mem_append, List.mem_append] at mem
      rcases mem with (hhead | hgap) | htail
      · exact mem_groupChars hhead
      · simp only [List.mem_cons, List.not_mem_nil, or_false, or_self] at hgap
        exact Or.inl hgap
      · exact mem_groupChars htail
    · exact mem_groupChars mem

/-- The run of zero groups that is left out is the first of the longest ones. -/
theorem zeroRun_longestRun (groups : List UInt16) :
    (∀ i < groups.length, zeroRun groups i ≤ zeroRun groups (longestRun groups)) ∧
      ∀ i < longestRun groups, zeroRun groups i < zeroRun groups (longestRun groups) := by
  rw [longestRun]
  induction groups.length with
  | zero =>
    exact ⟨fun i h => absurd h (Nat.not_lt_zero i), fun i h => absurd h (Nat.not_lt_zero i)⟩
  | succ n ih =>
    obtain ⟨hall, hbefore⟩ := ih
    rw [List.range_succ, List.foldl_append, List.foldl_cons, List.foldl_nil]
    generalize (List.range n).foldl _ 0 = best at hall hbefore ⊢
    split
    · next hlonger =>
      refine ⟨fun i hi => ?_, fun i hi => (hall i hi).trans_lt hlonger⟩
      rcases Nat.lt_succ_iff_lt_or_eq.mp hi with hlt | rfl
      · exact (hall i hlt).trans hlonger.le
      · exact le_rfl
    · next hno =>
      refine ⟨fun i hi => ?_, hbefore⟩
      rcases Nat.lt_succ_iff_lt_or_eq.mp hi with hlt | rfl
      · exact hall i hlt
      · exact Nat.le_of_not_lt hno

end Ipv6

namespace Address

/-- What is written of an address is read as that address. -/
@[simp] theorem ofChars?_chars (a : Address) : ofChars? a.chars = some a := by
  cases a with
  | v4 a => rw [chars, ofChars?, Ipv4.ofChars?_chars]
  | v6 a =>
    rw [chars, ofChars?, Ipv4.ofChars?_of_colon a.colon_mem_chars, Ipv6.ofChars?_chars]
    rfl

theorem mem_chars {a : Address} {c : Char} (mem : c ∈ a.chars) :
    c = '.' ∨ c = ':' ∨ c ∈ Numeral.hexDigits := by
  cases a with
  | v4 a => exact (Ipv4.mem_chars mem).imp_right Or.inr
  | v6 a => exact Ipv6.mem_chars mem

end Address

/-- A run at either end is left out like any other, and the first one of two that are equally long;
only an address of the mapped range is written with points. -/
example : Address.text (.v6 ⟨[0, 0, 1, 0, 0, 0, 0, 0], rfl⟩) = "0:0:1::" ∧
    Address.text (.v6 ⟨[0, 0, 1, 2, 3, 4, 0, 0], rfl⟩) = "::1:2:3:4:0:0" ∧
    Address.text (.v6 ⟨[0, 0, 0, 0, 0, 0xFFFF, 0x0A00, 1], rfl⟩) = "::ffff:10.0.0.1" := by decide

end PacketBearer
