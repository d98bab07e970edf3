/-
Numerals over `List Char`.

Written numerals are those of `Nat.toDigits`: no sign, no padding, lower-case letters above
nine.  Reading accepts letters of either case and any number of leading zeros:

* `read?_toDigits` — reading takes back what was written, in every base up to sixteen;
* `readByte?` — the numerals of one octet, with an optional plus sign in front.
-/
namespace PacketBearer.Numeral

/-- The value of a digit in some base up to sixteen, letters in either case. -/
def digitValue? (c : Char) : Option Nat :=
  if '0' ≤ c ∧ c ≤ '9' then some (c.toNat - 48)
  else if 'a' ≤ c ∧ c ≤ 'f' then some (c.toNat - 87)
  else if 'A' ≤ c ∧ c ≤ 'F' then some (c.toNat - 55)
  else none

/-- The value of a digit of the given base. -/
def digit? (base : Nat) (c : Char) : Option Nat :=
  (digitValue? c).filter (· < base)

/-- Adds the digits of `cs` behind the digits already read. -/
def readOn? (base : Nat) : List Char → Nat → Option Nat
  | [], n => some n
  | c :: cs, n => (digit? base c).bind fun d => readOn? base cs (base * n + d)

/-- The number that a text of one or more digits stands for. -/
def read? (base : Nat) (cs : List Char) : Option Nat :=
  if cs = [] then none else readOn? base cs 0

/-- A number of one octet, an optional plus sign in front of its decimal digits. -/
def readByte? (cs : List Char) : Option UInt8 :=
  let digits := match cs with
    | '+' :: rest => rest
    | _ => cs
  (read? 10 digits).bind fun n => if n < 256 then some n.toUInt8 else none

/-- A number in decimal digits. -/
def decimal (n : Nat) : String := String.ofList (Nat.toDigits 10 n)

/-- A number in lower-case hexadecimal digits. -/
def hexadecimal (n : Nat) : String := String.ofList (Nat.toDigits 16 n)

/-- An integer in decimal digits, a minus sign in front of a negative one. -/
def signed (i : Int) : String :=
  if i < 0 then "-" ++ decimal i.natAbs else decimal i.natAbs

@[simp] theorem read?_nil (base : Nat) : read? base [] = none := rfl

@[simp] theorem readOn?_nil (base n : Nat) : readOn? base [] n = some n := rfl

theorem readOn?_cons (base n : Nat) (c : Char) (cs : List Char) :
    readOn? base (c :: cs) n = (digit? base c).bind fun d => readOn? base cs (base * n + d) := rfl

theorem readOn?_append (base n : Nat) (cs ds : List Char) :
    readOn? base (cs ++ ds) n = (readOn? base cs n).bind (readOn? base ds) := by
  induction cs generalizing n with
  | nil => rfl
  | cons c cs ih =>
    rw [List.cons_append, readOn?_cons, readOn?_cons, Option.bind_assoc]
    congr 1
    funext d
    exact ih _

/-- The sixteen written digits are read as what they stand for. -/
theorem digit?_digitChar {base d : Nat} (hb : base ≤ 16) (hd : d < base) :
    digit? base d.digitChar = some d := by
  have h : ∀ n < 16, digitValue? (Nat.digitChar n) = some n := by decide
  rw [digit?, h d (by omega)]
  simp [hd]

theorem readOn?_toDigits {base : Nat} (hb : 1 < base) (hb' : base ≤ 16) (n : Nat) :
    readOn? base (Nat.toDigits base n) 0 = some n := by
  induction n using Nat.strongRecOn with
  | _ n ih =>
    by_cases h : n < base
    · rw [Nat.toDigits_of_lt_base h, readOn?_cons, digit?_digitChar hb' h]
      simp
    · have hq : 0 < n / base := Nat.div_pos (by omega) (by omega)
      have hr : n % base < base := Nat.mod_lt _ (by omega)
      have hn : base * (n / base) + n % base = n := Nat.div_add_mod n base
      rw [← hn, ← Nat.toDigits_append_toDigits hb hq hr, readOn?_append,
        ih _ (Nat.div_lt_self (by omega) hb), Nat.toDigits_of_lt_base hr]
      simp [readOn?_cons, digit?_digitChar hb' hr]

/-- Reading takes back what was written. -/
theorem read?_toDigits {base : Nat} (hb : 1 < base) (hb' : base ≤ 16) (n : Nat) :
    read? base (Nat.toDigits base n) = some n := by
  rw [read?, if_neg Nat.toDigits_ne_nil, readOn?_toDigits hb hb']

end PacketBearer.Numeral
