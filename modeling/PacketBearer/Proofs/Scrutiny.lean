/-
What a negotiation comes to.

A reply is looked at item by item: the entries of its address list, then its name servers or those
of the system, then its gateways or those of the system.  The first item that offends decides the
rejection.  If none does, the link has what the entries name, and of equal values the first.

* `Numeral.readByte?_eq_some_iff` — which texts write an octet, and which one;
* `LocalAddress.ofEntry_eq_some_iff`, `LocalAddress.ofEntry_eq_error_iff` — what an entry of the
  address list names, and when it offends;
* `firstOccurrences_eraseDups` — to keep the first of equal values is to erase the others;
* `ReadsAs.readEntries_cases` — a list is read as its items say;
* `negotiate_eq_iff` — a negotiation comes to what this says, and to nothing else.
-/
import Mathlib.Data.List.Induction
import Mathlib.Data.List.Nodup
import PacketBearer.Link.Negotiation

namespace PacketBearer

/-! ### Numerals -/

namespace Numeral

/-- What decimal digits amount to. -/
def amount (digits : List Char) : Nat :=
  digits.foldl (fun n c => 10 * n + (c.toNat - '0'.toNat)) 0

/-- A text writes an octet: by decimal digits, with a plus sign in front of them or without. -/
def WritesByte (text : List Char) (n : UInt8) : Prop :=
  ∃ digits, (text = digits ∨ text = '+' :: digits) ∧ digits ≠ [] ∧
    (∀ c ∈ digits, c.isDigit = true) ∧ amount digits = n.toNat

theorem isDigit_iff {c : Char} : c.isDigit = true ↔ 48 ≤ c.toNat ∧ c.toNat ≤ 57 := by
  rw [Char.isDigit, Bool.and_eq_true, decide_eq_true_eq, decide_eq_true_eq]
  exact Iff.rfl

/-- The decimal digits are the digits of base ten. -/
theorem digit?_ten (c : Char) :
    digit? 10 c = if c.isDigit = true then some (c.toNat - '0'.toNat) else none := by
  have hzero : '0' ≤ c ↔ 48 ≤ c.toNat := Iff.rfl
  have hnine : c ≤ '9' ↔ c.toNat ≤ 57 := Iff.rfl
  have hlower : 'a' ≤ c ↔ 97 ≤ c.toNat := Iff.rfl
  have hupper : 'A' ≤ c ↔ 65 ≤ c.toNat := Iff.rfl
  rw [digit?, digitValue?]
  by_cases hdigit : c.isDigit = true
  · have hbounds := isDigit_iff.mp hdigit
    rw [if_pos hdigit, if_pos ⟨hzero.mpr hbounds.1, hnine.mpr hbounds.2⟩, Option.filter_some,
      if_pos (decide_eq_true (by omega))]
    rfl
  · rw [if_neg hdigit, if_neg fun h => hdigit (isDigit_iff.mpr ⟨hzero.mp h.1, hnine.mp h.2⟩)]
    -- letters stand for ten and more
    split
    · next h =>
      have := hlower.mp h.1
      rw [Option.filter_some, if_neg (by simp; omega)]
    · split
      · next h =>
        have := hupper.mp h.1
        rw [Option.filter_some, if_neg (by simp; omega)]
      · rfl

theorem readOn?_ten (digits : List Char) (n m : Nat) :
    readOn? 10 digits n = some m ↔ (∀ c ∈ digits, c.isDigit = true) ∧
      digits.foldl (fun n c => 10 * n + (c.toNat - '0'.toNat)) n = m := by
  induction digits generalizing n with
  | nil =>
    rw [readOn?_nil, Option.some.injEq]
    exact ⟨fun h => ⟨fun _ hc => absurd hc List.not_mem_nil, h⟩, fun h => h.2⟩
  | cons c digits ih =>
    rw [readOn?_cons, digit?_ten]
    by_cases hdigit : c.isDigit = true
    · rw [if_pos hdigit, Option.bind_some, ih, List.forall_mem_cons, and_iff_right hdigit]
      rfl
    · rw [if_neg hdigit, Option.bind_none]
      exact ⟨fun h => (by cases h), fun h => absurd (h.1 c List.mem_cons_self) hdigit⟩

theorem read?_ten {digits : List Char} {n : Nat} :
    read? 10 digits = some n ↔
      digits ≠ [] ∧ (∀ c ∈ digits, c.isDigit = true) ∧ amount digits = n := by
  rw [read?]
  by_cases hnil : digits = []
  · rw [if_pos hnil]
    exact ⟨fun h => (by cases h), fun h => absurd hnil h.1⟩
  · rw [if_neg hnil, readOn?_ten, and_iff_right hnil]
    rfl

theorem byte_eq_some_iff {digits : List Char} {n : UInt8} :
    ((read? 10 digits).bind fun m => if m < 256 then some m.toUInt8 else none) = some n ↔
      digits ≠ [] ∧ (∀ c ∈ digits, c.isDigit = true) ∧ amount digits = n.toNat := by
  rw [Option.bind_eq_some_iff]
  constructor
  · rintro ⟨m, hread, hbyte⟩
    obtain ⟨hne, hdigits, rfl⟩ := read?_ten.mp hread
    split at hbyte
    · next hlt =>
      cases hbyte
      refine ⟨hne, hdigits, ?_⟩
      rw [Nat.toUInt8, UInt8.toNat_ofNat']
      omega
    · cases hbyte
  · rintro ⟨hne, hdigits, hamount⟩
    refine ⟨n.toNat, read?_ten.mpr ⟨hne, hdigits, hamount⟩, ?_⟩
    rw [if_pos n.toNat_lt, Nat.toUInt8, UInt8.ofNat_toNat]

/-- An octet is read exactly where one is written. -/
theorem readByte?_eq_some_iff {text : List Char} {n : UInt8} :
    readByte? text = some n ↔ WritesByte text n := by
  have hplus : '+'.isDigit = false := rfl
  constructor
  · intro h
    rw [readByte?.eq_def] at h
    dsimp only at h
    split at h
    · next rest => exact ⟨rest, Or.inr rfl, byte_eq_some_iff.mp h⟩
    · exact ⟨text, Or.inl rfl, byte_eq_some_iff.mp h⟩
  · rintro ⟨digits, rfl | rfl, hbyte⟩
    · rw [readByte?.eq_def]
      dsimp only
      split
      · next rest =>
        have hdigit := hbyte.2.1 '+' List.mem_cons_self
        rw [hplus] at hdigit
        cases hdigit
      · exact byte_eq_some_iff.mpr hbyte
    · exact byte_eq_some_iff.mpr hbyte

theorem readByte?_eq_none_iff {text : List Char} :
    readByte? text = none ↔ ∀ n, ¬ WritesByte text n := by
  rw [Option.eq_none_iff_forall_ne_some]
  exact forall_congr' fun n => not_congr readByte?_eq_some_iff

end Numeral

/-! ### Entries -/

/-- A text is cut at its first slash, if it has one. -/
inductive Cut : List Char → List Char → Option (List Char) → Prop
  | whole {text : List Char} (first : '/' ∉ text) : Cut text text none
  | slash {before after : List Char} (first : '/' ∉ before) :
    Cut (before ++ '/' :: after) before (some after)

theorem cut_cutSlash (text : List Char) : Cut text (cutSlash text).1 (cutSlash text).2 := by
  induction text with
  | nil => exact .whole List.not_mem_nil
  | cons c text ih =>
    rw [cutSlash]
    split
    · next hslash =>
      rw [hslash]
      exact .slash List.not_mem_nil
    · next hother =>
      -- a character that is no slash goes before the cut
      have hmem : ∀ {before : List Char}, '/' ∉ before → '/' ∉ c :: before := fun h hmem =>
        (List.mem_cons.mp hmem).elim (fun hc => hother hc.symm) h
      generalize cutSlash text = cut at ih
      obtain ⟨before, behind⟩ := cut
      cases ih with
      | whole first => exact .whole (hmem first)
      | slash first => exact .slash (hmem first)

theorem Cut.eq_cutSlash {text before : List Char} {behind : Option (List Char)}
    (cut : Cut text before behind) : cutSlash text = (before, behind) := by
  cases cut with
  | whole first =>
    induction text with
    | nil => rfl
    | cons c text ih =>
      obtain ⟨hc, hrest⟩ := not_or.mp (mt List.mem_cons.mpr first)
      rw [cutSlash, if_neg (Ne.symm hc), ih hrest]
  | @slash before after first =>
    induction before with
    | nil => rfl
    | cons c before ih =>
      obtain ⟨hc, hrest⟩ := not_or.mp (mt List.mem_cons.mpr first)
      rw [List.cons_append, cutSlash, if_neg (Ne.symm hc), ih hrest]

/-- An entry of the address list names a local address: by an address before the first slash that
is not the unspecified one, and the length behind it.  No length, or zero, is the full width. -/
inductive LocalAddress.NamedBy (entry : List Char) : LocalAddress → Prop
  | alone {literal : List Char} {address : Address} (cut : Cut entry literal none)
    (reads : Address.ofChars? literal = some address)
    (specified : address.isUnspecified = false) : NamedBy entry ⟨address, address.width⟩
  | zero {literal digits : List Char} {address : Address} (cut : Cut entry literal (some digits))
    (reads : Address.ofChars? literal = some address)
    (specified : address.isUnspecified = false)
    (written : Numeral.WritesByte (Text.trim digits) 0) : NamedBy entry ⟨address, address.width⟩
  | within {literal digits : List Char} {address : Address} {length : UInt8}
    (cut : Cut entry literal (some digits)) (reads : Address.ofChars? literal = some address)
    (specified : address.isUnspecified = false)
    (written : Numeral.WritesByte (Text.trim digits) length) (positive : length ≠ 0)
    (fits : length ≤ address.width) : NamedBy entry ⟨address, length⟩

/-- An entry names an address that is not the unspecified one. -/
def Address.NamedBy (entry : List Char) (address : Address) : Prop :=
  ofChars? entry = some address ∧ address.isUnspecified = false

/-- What is looked at in a reply, one after the other. -/
inductive Item where
  | address (entry : List Char)
  | dns (entry : List Char)
  /-- There is no name server to look at, neither the reply's nor the system's. -/
  | noServer
  | gateway (entry : List Char)

/-- An item offends, and the rejection says how. -/
inductive Item.Offends : Item → Rejection → Prop
  | noLiteral {entry literal : List Char} {behind : Option (List Char)}
    (cut : Cut entry literal behind) (reads : Address.ofChars? literal = none) :
    Offends (.address entry) (.badAddress (String.ofList entry))
  | noLength {entry literal digits : List Char} {address : Address}
    (cut : Cut entry literal (some digits)) (reads : Address.ofChars? literal = some address)
    (specified : address.isUnspecified = false)
    (written : ∀ length, ¬ Numeral.WritesByte (Text.trim digits) length) :
    Offends (.address entry) (.badLength (String.ofList entry))
  | tooLong {entry literal digits : List Char} {address : Address} {length : UInt8}
    (cut : Cut entry literal (some digits)) (reads : Address.ofChars? literal = some address)
    (specified : address.isUnspecified = false)
    (written : Numeral.WritesByte (Text.trim digits) length) (long : address.width < length) :
    Offends (.address entry) (.badLength (String.ofList entry))
  | badDns {entry : List Char} (reads : Address.ofChars? entry = none) :
    Offends (.dns entry) (.badDns (String.ofList entry))
  | noDns : Offends .noServer .noDns
  | badGateway {entry : List Char} (reads : Address.ofChars? entry = none) :
    Offends (.gateway entry) (.badGateway (String.ofList entry))

namespace LocalAddress

section

variable {address : Address} {entry literal digits : List Char} {behind : Option (List Char)}
  {a : LocalAddress} {rejection : Rejection}

theorem withWrittenLength?_of_byte {length : UInt8}
    (written : Numeral.WritesByte (Text.trim digits) length) :
    withWrittenLength? address (some digits) =
      if length = 0 then some (host address) else ofLength? address length := by
  rw [withWrittenLength?, Numeral.readByte?_eq_some_iff.mpr written]
  rfl

theorem withWrittenLength?_of_not
    (written : ∀ length, ¬ Numeral.WritesByte (Text.trim digits) length) :
    withWrittenLength? address (some digits) = none := by
  rw [withWrittenLength?, Numeral.readByte?_eq_none_iff.mpr written]
  rfl

/-- What is read from an entry, by how it is cut. -/
theorem ofEntry_of_cut (cut : Cut entry literal behind)
    (reads : Address.ofChars? literal = some address) (specified : address.isUnspecified = false) :
    ofEntry entry = (withWrittenLength? address behind).elim
      (.error (.badLength (String.ofList entry))) fun a => .ok (some a) := by
  rw [ofEntry, cut.eq_cutSlash, reads]
  dsimp only
  rw [specified, if_neg Bool.false_ne_true]
  cases withWrittenLength? address behind with
  | none => rfl
  | some a => rfl

theorem ofEntry_of_named (named : NamedBy entry a) : ofEntry entry = .ok (some a) := by
  cases named with
  | alone cut reads specified => exact ofEntry_of_cut cut reads specified
  | zero cut reads specified written =>
    rw [ofEntry_of_cut cut reads specified, withWrittenLength?_of_byte written]
    rfl
  | within cut reads specified written positive fits =>
    rw [ofEntry_of_cut cut reads specified, withWrittenLength?_of_byte written, if_neg positive,
      ofLength?, if_pos fits, Option.elim_some]

theorem ofEntry_of_offends (offends : (Item.address entry).Offends rejection) :
    ofEntry entry = .error rejection := by
  cases offends with
  | noLiteral cut reads => rw [ofEntry, cut.eq_cutSlash, reads]
  | noLength cut reads specified written =>
    rw [ofEntry_of_cut cut reads specified, withWrittenLength?_of_not written,
      Option.elim_none]
  | @tooLong _ _ _ address length cut reads specified written long =>
    have hpositive : length ≠ 0 := by
      rintro rfl
      exact absurd long (UInt8.not_lt.mpr (UInt8.zero_le))
    rw [ofEntry_of_cut cut reads specified, withWrittenLength?_of_byte written, if_neg hpositive,
      ofLength?, if_neg (UInt8.not_le.mpr long), Option.elim_none]

/-- An entry offends, names a local address, or writes the unspecified one. -/
theorem ofEntry_cases (entry : List Char) :
    (∃ rejection, (Item.address entry).Offends rejection) ∨ (∃ a, NamedBy entry a) ∨
      ofEntry entry = .ok none := by
  have hcut := cut_cutSlash entry
  generalize hsame : cutSlash entry = cut at hcut
  obtain ⟨literal, behind⟩ := cut
  cases hreads : Address.ofChars? literal with
  | none => exact Or.inl ⟨_, .noLiteral hcut hreads⟩
  | some address =>
    cases hspecified : address.isUnspecified with
    | true =>
      refine Or.inr (Or.inr ?_)
      rw [ofEntry, hsame, hreads]
      dsimp only
      rw [hspecified, if_pos rfl]
    | false =>
      cases behind with
      | none => exact Or.inr (Or.inl ⟨_, .alone hcut hreads hspecified⟩)
      | some digits =>
        by_cases hwritten : ∃ length, Numeral.WritesByte (Text.trim digits) length
        · obtain ⟨length, hwritten⟩ := hwritten
          by_cases hzero : length = 0
          · subst hzero
            exact Or.inr (Or.inl ⟨_, .zero hcut hreads hspecified hwritten⟩)
          · by_cases hfits : length ≤ address.width
            · exact Or.inr (Or.inl ⟨_, .within hcut hreads hspecified hwritten hzero hfits⟩)
            · exact Or.inl ⟨_, .tooLong hcut hreads hspecified hwritten (UInt8.not_le.mp hfits)⟩
        · exact Or.inl ⟨_, .noLength hcut hreads hspecified fun length h => hwritten ⟨length, h⟩⟩

/-- What an entry of the address list names is what is read from it. -/
theorem ofEntry_eq_some_iff : ofEntry entry = .ok (some a) ↔ NamedBy entry a := by
  refine ⟨fun h => ?_, ofEntry_of_named⟩
  rcases ofEntry_cases entry with ⟨rejection, hoffends⟩ | ⟨other, hnamed⟩ | hnone
  · rw [ofEntry_of_offends hoffends] at h
    cases h
  · rw [ofEntry_of_named hnamed] at h
    cases h
    exact hnamed
  · rw [hnone] at h
    cases h

/-- An entry of the address list is rejected exactly if it offends. -/
theorem ofEntry_eq_error_iff :
    ofEntry entry = .error rejection ↔ (Item.address entry).Offends rejection := by
  refine ⟨fun h => ?_, ofEntry_of_offends⟩
  rcases ofEntry_cases entry with ⟨other, hoffends⟩ | ⟨a, hnamed⟩ | hnone
  · rw [ofEntry_of_offends hoffends] at h
    cases h
    exact hoffends
  · rw [ofEntry_of_named hnamed] at h
    cases h
  · rw [hnone] at h
    cases h

end

end LocalAddress

namespace Address

variable {kind : String → Rejection} {entry : List Char} {address : Address}
  {rejection : Rejection}

theorem ofEntry_eq_some_iff : ofEntry kind entry = .ok (some address) ↔ NamedBy entry address := by
  rw [ofEntry, NamedBy]
  cases ofChars? entry with
  | none => exact ⟨fun h => (by cases h), fun h => (by cases h.1)⟩
  | some other =>
    dsimp only
    rw [Option.some.injEq]
    cases hspecified : other.isUnspecified with
    | true =>
      refine ⟨fun h => (by cases h), ?_⟩
      rintro ⟨rfl, hfalse⟩
      rw [hspecified] at hfalse
      cases hfalse
    | false =>
      refine ⟨fun h => ?_, fun h => ?_⟩
      · cases h
        exact ⟨rfl, hspecified⟩
      · rw [← h.1]
        rfl

theorem ofEntry_eq_error_iff : ofEntry kind entry = .error rejection ↔
    ofChars? entry = none ∧ rejection = kind (String.ofList entry) := by
  rw [ofEntry]
  cases ofChars? entry with
  | none => exact ⟨fun h => ⟨rfl, (by cases h; rfl)⟩, fun h => (by rw [h.2])⟩
  | some other => exact ⟨fun h => (by cases h), fun h => (by cases h.1)⟩

end Address

/-! ### Lists -/

/-- Every value of a list once, in the order in which the values first occur. -/
structure FirstOccurrences {α : Type} [BEq α] (all kept : List α) : Prop where
  mem : ∀ value, value ∈ kept ↔ value ∈ all
  order : kept.Pairwise fun earlier later => all.idxOf earlier < all.idxOf later

section

variable {α : Type} [BEq α] [LawfulBEq α] {all kept kept' : List α}

omit [LawfulBEq α] in
theorem FirstOccurrences.nodup (h : FirstOccurrences all kept) : kept.Nodup := by
  refine h.order.imp fun hlt => ?_
  rintro rfl
  exact Nat.lt_irrefl _ hlt

omit [LawfulBEq α] in
theorem FirstOccurrences.unique (h : FirstOccurrences all kept) (h' : FirstOccurrences all kept') :
    kept = kept' := by
  have hperm : kept.Perm kept' := (List.perm_ext_iff_of_nodup h.nodup h'.nodup).mpr fun value =>
    (h.mem value).trans (h'.mem value).symm
  exact hperm.eq_of_pairwise (fun _ _ _ _ hlt hgt => absurd hlt (Nat.lt_asymm hgt)) h.order h'.order

theorem eraseDups_concat (all : List α) (value : α) :
    (all ++ [value]).eraseDups =
      all.eraseDups ++ if all.contains value then [] else [value] := by
  have hsingle : [value].eraseDups = [value] := by
    rw [List.eraseDups_cons]
    rfl
  rw [List.eraseDups_append, List.removeAll, List.filter_singleton, List.contains]
  cases List.elem value all with
  | true => rfl
  | false =>
    rw [Bool.not_false, cond_true, hsingle]
    rfl

/-- To keep the first of equal values is to erase the others. -/
theorem firstOccurrences_eraseDups (all : List α) : FirstOccurrences all all.eraseDups := by
  refine ⟨fun _ => List.mem_eraseDups, ?_⟩
  induction all using List.reverseRecOn with
  | nil => exact .nil
  | append_singleton all value ih =>
    -- where a value first occurs does not change when the list goes on
    have hstays : (all.eraseDups).Pairwise fun earlier later =>
        (all ++ [value]).idxOf earlier < (all ++ [value]).idxOf later := by
      refine ih.imp_of_mem fun hearlier hlater hlt => ?_
      rw [List.idxOf_append_of_mem (List.mem_eraseDups.mp hearlier),
        List.idxOf_append_of_mem (List.mem_eraseDups.mp hlater)]
      exact hlt
    rw [eraseDups_concat]
    split
    · rw [List.append_nil]
      exact hstays
    · next hnew =>
      have hnew : value ∉ all := fun hmem => hnew (List.contains_iff_mem.mpr hmem)
      refine List.pairwise_append.mpr ⟨hstays, List.pairwise_singleton _ _, ?_⟩
      intro earlier hearlier later hlater
      obtain rfl := List.mem_singleton.mp hlater
      have hmem := List.mem_eraseDups.mp hearlier
      rw [List.idxOf_append_of_mem hmem, List.idxOf_append_of_notMem hnew]
      exact Nat.lt_add_right _ (List.idxOf_lt_length_iff.mpr hmem)

end

/-- What the entries of a list name, in order.  An entry may name nothing. -/
inductive Collects {α : Type} (names : List Char → α → Prop) : List (List Char) → List α → Prop
  | nil : Collects names [] []
  | keep {entry : List Char} {value : α} {entries : List (List Char)} {values : List α}
    (named : names entry value) (rest : Collects names entries values) :
    Collects names (entry :: entries) (value :: values)
  | skip {entry : List Char} {entries : List (List Char)} {values : List α}
    (unnamed : ∀ value, ¬ names entry value) (rest : Collects names entries values) :
    Collects names (entry :: entries) values

/-- What the entries of a list name, each value once. -/
def Gathers {α : Type} [BEq α] (names : List Char → α → Prop) (entries : List (List Char))
    (kept : List α) : Prop :=
  ∃ all, Collects names entries all ∧ FirstOccurrences all kept

/-- None of the items offends. -/
def Sound (items : List Item) : Prop := ∀ item ∈ items, ∀ rejection, ¬ item.Offends rejection

/-- The first of the items that offends does so in this way. -/
def FirstOffence (items : List Item) (rejection : Rejection) : Prop :=
  ∃ before item after, items = before ++ item :: after ∧ Sound before ∧ item.Offends rejection

section

variable {items others : List Item} {item : Item} {rejection rejection' : Rejection}

theorem Item.Offends.unique (h : item.Offends rejection) (h' : item.Offends rejection') :
    rejection = rejection' := by
  cases item with
  | address entry =>
    have hsame := LocalAddress.ofEntry_eq_error_iff.mpr h
    rw [LocalAddress.ofEntry_eq_error_iff.mpr h'] at hsame
    exact (Except.error.inj hsame).symm
  | dns | noServer | gateway =>
    cases h
    cases h'
    rfl

theorem Sound.append (h : Sound items) (h' : Sound others) : Sound (items ++ others) :=
  fun item hitem => (List.mem_append.mp hitem).elim (h item) (h' item)

theorem sound_nil : Sound [] := fun _ hitem => absurd hitem List.not_mem_nil

theorem FirstOffence.append_right (h : FirstOffence items rejection) :
    FirstOffence (items ++ others) rejection := by
  obtain ⟨before, item, after, rfl, hsound, hoffends⟩ := h
  exact ⟨before, item, after ++ others, List.append_assoc _ _ _, hsound, hoffends⟩

theorem FirstOffence.append_left (h : FirstOffence others rejection) (sound : Sound items) :
    FirstOffence (items ++ others) rejection := by
  obtain ⟨before, item, after, rfl, hsound, hoffends⟩ := h
  exact ⟨items ++ before, item, after, (List.append_assoc _ _ _).symm, sound.append hsound,
    hoffends⟩

theorem FirstOffence.not_sound (h : FirstOffence items rejection) : ¬ Sound items := by
  obtain ⟨before, item, after, rfl, -, hoffends⟩ := h
  exact fun sound => sound item (List.mem_append_right _ List.mem_cons_self) rejection hoffends

theorem FirstOffence.unique (h : FirstOffence items rejection)
    (h' : FirstOffence items rejection') : rejection = rejection' := by
  obtain ⟨before, item, after, rfl, hsound, hoffends⟩ := h
  obtain ⟨before', item', after', hsame, hsound', hoffends'⟩ := h'
  induction before generalizing before' with
  | nil =>
    cases before' with
    | nil =>
      cases hsame
      exact hoffends.unique hoffends'
    | cons first before' =>
      cases hsame
      exact absurd hoffends (hsound' item List.mem_cons_self rejection)
  | cons first before ih =>
    cases before' with
    | nil =>
      cases hsame
      exact absurd hoffends' (hsound item' List.mem_cons_self rejection')
    | cons first' before' =>
      rw [List.cons_append, List.cons_append, List.cons.injEq] at hsame
      exact ih (fun other hother => hsound other (List.mem_cons_of_mem _ hother)) before' hsame.2
        fun other hother => hsound' other (List.mem_cons_of_mem _ hother)

end

section

variable {α : Type} {names : List Char → α → Prop} {entries : List (List Char)}

theorem Collects.unique (functional : ∀ entry value value', names entry value →
      names entry value' → value = value') {values values' : List α}
    (h : Collects names entries values) (h' : Collects names entries values') :
    values = values' := by
  induction h generalizing values' with
  | nil =>
    cases h'
    rfl
  | keep named rest ih =>
    cases h' with
    | keep named' rest' => rw [functional _ _ _ named named', ih rest']
    | skip unnamed' rest' => exact absurd named (unnamed' _)
  | skip unnamed rest ih =>
    cases h' with
    | keep named' rest' => exact absurd named' (unnamed _)
    | skip unnamed' rest' => exact ih rest'

/-- A reader of entries rejects what offends as an item, and keeps what is named. -/
structure ReadsAs (read : List Char → Except Rejection (Option α)) (kind : List Char → Item)
    (names : List Char → α → Prop) : Prop where
  offends : ∀ {entry rejection}, read entry = .error rejection ↔ (kind entry).Offends rejection
  names : ∀ {entry value}, read entry = .ok (some value) ↔ names entry value

namespace ReadsAs

variable {read : List Char → Except Rejection (Option α)} {kind : List Char → Item}

theorem functional (h : ReadsAs read kind names) (entry : List Char) (value value' : α)
    (named : names entry value) (named' : names entry value') : value = value' := by
  have hsame := h.names.mpr named
  rw [h.names.mpr named'] at hsame
  cases hsame
  rfl

/-- All that is read from entries is decided by the first that offends, if there is one. -/
theorem readAll_cases (h : ReadsAs read kind names) (entries : List (List Char)) :
    (∃ rejection, FirstOffence (entries.map kind) rejection ∧
        readAll read entries = .error rejection) ∨
      Sound (entries.map kind) ∧ ∃ values, Collects names entries values ∧
        readAll read entries = .ok values := by
  induction entries with
  | nil => exact Or.inr ⟨sound_nil, [], .nil, rfl⟩
  | cons entry entries ih =>
    rw [readAll]
    cases hread : read entry with
    | error rejection =>
      exact Or.inl ⟨rejection, ⟨[], kind entry, entries.map kind, rfl, sound_nil,
        h.offends.mp hread⟩, rfl⟩
    | ok value =>
      have hsound : Sound [kind entry] := by
        intro item hitem rejection hoffends
        rw [List.mem_singleton.mp hitem, ← h.offends, hread] at hoffends
        cases hoffends
      rcases ih with ⟨rejection, hfirst, hrest⟩ | ⟨hrest, values, hcollects, hvalues⟩
      · refine Or.inl ⟨rejection, hfirst.append_left hsound, ?_⟩
        rw [hrest]
        rfl
      · refine Or.inr ⟨hsound.append hrest, value.toList ++ values, ?_, ?_⟩
        · cases value with
          | some value => exact .keep (h.names.mp hread) hcollects
          | none =>
            refine .skip (fun value hnamed => ?_) hcollects
            rw [← h.names, hread] at hnamed
            cases hnamed
        · rw [hvalues]
          rfl

theorem readEntries_cases [BEq α] [LawfulBEq α] (h : ReadsAs read kind names)
    (entries : List String) :
    (∃ rejection, FirstOffence ((usableEntries entries).map kind) rejection ∧
        readEntries read entries = .error rejection) ∨
      Sound ((usableEntries entries).map kind) ∧
        ∃ kept, Gathers names (usableEntries entries) kept ∧
          readEntries read entries = .ok kept := by
  rw [readEntries]
  rcases h.readAll_cases (usableEntries entries) with
    ⟨rejection, hfirst, hread⟩ | ⟨hsound, values, hcollects, hread⟩
  · refine Or.inl ⟨rejection, hfirst, ?_⟩
    rw [hread]
    rfl
  · refine Or.inr ⟨hsound, values.eraseDups,
      ⟨values, hcollects, firstOccurrences_eraseDups values⟩, ?_⟩
    rw [hread]
    rfl

theorem gathers_unique [BEq α] [LawfulBEq α] (h : ReadsAs read kind names) {kept kept' : List α}
    (gathers : Gathers names entries kept) (gathers' : Gathers names entries kept') :
    kept = kept' := by
  obtain ⟨all, hcollects, hkept⟩ := gathers
  obtain ⟨all', hcollects', hkept'⟩ := gathers'
  obtain rfl : all = all' := hcollects.unique h.functional hcollects'
  exact hkept.unique hkept'

end ReadsAs

end

theorem readsAs_address : ReadsAs LocalAddress.ofEntry .address LocalAddress.NamedBy :=
  ⟨LocalAddress.ofEntry_eq_error_iff, LocalAddress.ofEntry_eq_some_iff⟩

theorem readsAs_dns : ReadsAs (Address.ofEntry .badDns) .dns Address.NamedBy where
  offends := by
    intro entry rejection
    rw [Address.ofEntry_eq_error_iff]
    refine ⟨?_, fun h => (by cases h with | badDns reads => exact ⟨reads, rfl⟩)⟩
    rintro ⟨reads, rfl⟩
    exact .badDns reads
  names := Address.ofEntry_eq_some_iff

theorem readsAs_gateway : ReadsAs (Address.ofEntry .badGateway) .gateway Address.NamedBy where
  offends := by
    intro entry rejection
    rw [Address.ofEntry_eq_error_iff]
    refine ⟨?_, fun h => (by cases h with | badGateway reads => exact ⟨reads, rfl⟩)⟩
    rintro ⟨reads, rfl⟩
    exact .badGateway reads
  names := Address.ofEntry_eq_some_iff

/-! ### Replies -/

namespace SetupReply

/-- What is looked at for name servers: the reply's, or, if it has none, whether the system has. -/
def serverItems (reply : SetupReply) (fallback : Fallback) : List Item :=
  if reply.dns ≠ [] then (usableEntries reply.dns).map .dns
  else if fallback.dns = none then [.noServer] else []

/-- The gateways that count: the reply's, or, if it has none, the system's. -/
def gatewayEntries (reply : SetupReply) (fallback : Fallback) : List (List Char) :=
  usableEntries (if reply.gateways = [] then fallback.gateways else reply.gateways)

/-- What is looked at in a reply, in order. -/
def items (reply : SetupReply) (fallback : Fallback) : List Item :=
  (usableEntries reply.addresses).map .address ++
    (reply.serverItems fallback ++ (reply.gatewayEntries fallback).map .gateway)

/-- The name servers of a link are those that the reply names, or, if it has none, those that the
system offers and that are specified. -/
structure Serves (reply : SetupReply) (fallback : Fallback) (servers : List Address) : Prop where
  own : reply.dns ≠ [] → Gathers Address.NamedBy (usableEntries reply.dns) servers
  system : reply.dns = [] → ∀ offered, fallback.dns = some offered →
    FirstOccurrences (offered.filter fun server => !server.isUnspecified) servers

/-- A link is what a reply describes. -/
structure Describes (reply : SetupReply) (fallback : Fallback) (link : Link) : Prop where
  interface : link.interface = some reply.interface
  addresses : Gathers LocalAddress.NamedBy (usableEntries reply.addresses) link.addresses
  dns : reply.Serves fallback link.dns
  routes : Gathers Address.NamedBy (reply.gatewayEntries fallback) link.routes
  proxy : link.proxy = none

/-- What a negotiation comes to. -/
inductive Negotiates (reply : SetupReply) (fallback : Fallback) : Except Rejection Link → Prop
  | noAddresses (silent : reply.addresses = []) :
    Negotiates reply fallback (.error (.noAddresses reply.interface))
  | rejected {rejection : Rejection} (given : reply.addresses ≠ [])
    (first : FirstOffence (reply.items fallback) rejection) :
    Negotiates reply fallback (.error rejection)
  | agreed {link : Link} (given : reply.addresses ≠ []) (sound : Sound (reply.items fallback))
    (describes : reply.Describes fallback link) : Negotiates reply fallback (.ok link)

variable {reply : SetupReply} {fallback : Fallback}

theorem dnsServers_cases (reply : SetupReply) (fallback : Fallback) :
    (∃ rejection, FirstOffence (reply.serverItems fallback) rejection ∧
        reply.dnsServers fallback = .error rejection) ∨
      Sound (reply.serverItems fallback) ∧
        ∃ servers, reply.Serves fallback servers ∧ reply.dnsServers fallback = .ok servers := by
  rw [serverItems, dnsServers]
  by_cases hdns : reply.dns = []
  · rw [if_neg (not_not.mpr hdns), if_neg (not_not.mpr hdns)]
    cases hoffered : fallback.dns with
    | none =>
      exact Or.inl ⟨.noDns, ⟨[], .noServer, [], if_pos rfl, sound_nil, .noDns⟩, rfl⟩
    | some offered =>
      rw [if_neg (Option.some_ne_none offered)]
      refine Or.inr ⟨sound_nil, _, ⟨fun hother => absurd hdns hother, ?_⟩, rfl⟩
      intro _ other hother
      rw [hoffered] at hother
      cases hother
      exact firstOccurrences_eraseDups _
  · rw [if_pos hdns, if_pos hdns]
    rcases readsAs_dns.readEntries_cases reply.dns with
      hrejected | ⟨hsound, servers, hgathers, hread⟩
    · exact Or.inl hrejected
    · exact Or.inr ⟨hsound, servers, ⟨fun _ => hgathers, fun hnone => absurd hnone hdns⟩, hread⟩

theorem negotiates_negotiate (reply : SetupReply) (fallback : Fallback) :
    Negotiates reply fallback (negotiate reply fallback) := by
  by_cases hgiven : reply.addresses = []
  · rw [negotiate, localAddresses, if_pos hgiven]
    exact .noAddresses hgiven
  have haddresses : reply.localAddresses = readEntries LocalAddress.ofEntry reply.addresses :=
    if_neg hgiven
  rw [negotiate, haddresses]
  rcases readsAs_address.readEntries_cases reply.addresses with
    ⟨rejection, hfirst, hread⟩ | ⟨hsound, addresses, hgathers, hread⟩
  · rw [hread]
    exact .rejected hgiven hfirst.append_right
  rw [hread]
  rcases dnsServers_cases reply fallback with
    ⟨rejection, hfirst, hdns⟩ | ⟨hservers, servers, hserves, hdns⟩
  · rw [hdns]
    exact .rejected hgiven (hfirst.append_right.append_left hsound)
  rw [hdns]
  rcases readsAs_gateway.readEntries_cases
      (if reply.gateways = [] then fallback.gateways else reply.gateways) with
    ⟨rejection, hfirst, hroutes⟩ | ⟨hgateways, routes, hnamed, hroutes⟩
  · rw [SetupReply.routes, hroutes]
    exact .rejected hgiven ((hfirst.append_left hservers).append_left hsound)
  · rw [SetupReply.routes, hroutes]
    exact .agreed hgiven (hsound.append (hservers.append hgateways))
      ⟨rfl, hgathers, hserves, hnamed, rfl⟩

theorem Serves.unique {servers servers' : List Address} (sound : Sound (reply.serverItems fallback))
    (h : reply.Serves fallback servers) (h' : reply.Serves fallback servers') :
    servers = servers' := by
  by_cases hdns : reply.dns = []
  · cases hoffered : fallback.dns with
    | none =>
      rw [serverItems, if_neg (not_not.mpr hdns), if_pos hoffered] at sound
      exact absurd .noDns (sound .noServer List.mem_cons_self .noDns)
    | some offered =>
      exact (h.system hdns offered hoffered).unique (h'.system hdns offered hoffered)
  · exact readsAs_dns.gathers_unique (h.own hdns) (h'.own hdns)

theorem Describes.unique {link link' : Link} (sound : Sound (reply.items fallback))
    (h : reply.Describes fallback link) (h' : reply.Describes fallback link') : link = link' := by
  have hservers : Sound (reply.serverItems fallback) := fun item hitem =>
    sound item (List.mem_append_right _ (List.mem_append_left _ hitem))
  have hinterface := h.interface.trans h'.interface.symm
  have haddresses := readsAs_address.gathers_unique h.addresses h'.addresses
  have hdns := h.dns.unique hservers h'.dns
  have hroutes := readsAs_gateway.gathers_unique h.routes h'.routes
  have hproxy := h.proxy.trans h'.proxy.symm
  obtain ⟨interface, addresses, dns, routes, proxy⟩ := link
  obtain ⟨interface', addresses', dns', routes', proxy'⟩ := link'
  cases hinterface
  cases haddresses
  cases hdns
  cases hroutes
  cases hproxy
  rfl

theorem Negotiates.unique {outcome outcome' : Except Rejection Link}
    (h : Negotiates reply fallback outcome) (h' : Negotiates reply fallback outcome') :
    outcome = outcome' := by
  cases h with
  | noAddresses silent =>
    cases h' with
    | noAddresses => rfl
    | rejected given | agreed given => exact absurd silent given
  | rejected given first =>
    cases h' with
    | noAddresses silent => exact absurd silent given
    | rejected _ first' => rw [first.unique first']
    | agreed _ sound => exact absurd sound first.not_sound
  | agreed given sound describes =>
    cases h' with
    | noAddresses silent => exact absurd silent given
    | rejected _ first => exact absurd sound first.not_sound
    | agreed _ _ describes' => rw [describes.unique sound describes']

end SetupReply

/-- A reply without an address is rejected for that.  Otherwise the first item that offends decides
the rejection, and where none does the link is what the reply describes. -/
theorem negotiate_eq_iff (reply : SetupReply) (fallback : Fallback)
    (outcome : Except Rejection Link) :
    negotiate reply fallback = outcome ↔ reply.Negotiates fallback outcome := by
  refine ⟨?_, fun h => (reply.negotiates_negotiate fallback).unique h⟩
  rintro rfl
  exact reply.negotiates_negotiate fallback

/-- A blank entry, an unspecified address with an impossible length and a repeated value do no harm;
the gateways are looked at last. -/
example : negotiate
    { SetupReply.failure 4 .noCause (-1) with
      addresses := [" ", "0.0.0.0/99", "10.0.0.1/ 8", "10.0.0.1/8"]
      dns := ["::1"]
      gateways := ["10.0.0.2", "next"] } {} = .error (.badGateway "next") := rfl

end PacketBearer
