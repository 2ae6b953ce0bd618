/-!
# Reading whole numbers

Whole numbers in a given base, with the range of the type they are read into.

* `digitValue?`: the value of one digit, of either case.
* `ofDigits?`: a non-empty run of digits and nothing else.
* `readUnsigned?`: an optional plus sign before the digits, and an upper bound.
* `readSigned?`: an optional sign of either kind, and the range of 64-bit words.
-/

namespace XmlTemplate.Decimal

/-- The value of a digit in a base of at most sixteen. -/
def digitValue? (base : Nat) (c : Char) : Option Nat :=
  let value? :=
    if '0' ≤ c ∧ c ≤ '9' then some (c.toNat - '0'.toNat)
    else if 'a' ≤ c ∧ c ≤ 'f' then some (c.toNat - 'a'.toNat + 10)
    else if 'A' ≤ c ∧ c ≤ 'F' then some (c.toNat - 'A'.toNat + 10)
    else none
  value?.filter (· < base)

/-- The number whose digits follow those of `acc`. -/
def ofDigitsFrom? (base acc : Nat) : List Char → Option Nat
  | [] => some acc
  | c :: r => (digitValue? base c).bind fun d => ofDigitsFrom? base (acc * base + d) r

/-- The number written by a non-empty text of digits. -/
def ofDigits? (base : Nat) (s : List Char) : Option Nat :=
  if s.isEmpty then none else ofDigitsFrom? base 0 s

/-- A number of at most `bound`; a plus sign may stand before the digits. -/
def readUnsigned? (base bound : Nat) (s : List Char) : Option Nat :=
  let digits := match s with
    | '+' :: r => r
    | _ => s
  (ofDigits? base digits).filter (· ≤ bound)

/-- The signed 64-bit word of an integer that has one. -/
def word? (n : Int) : Option Int64 :=
  if -9223372036854775808 ≤ n ∧ n ≤ 9223372036854775807 then some (Int64.ofInt n) else none

/-- The word stands for the integer it was made from. -/
theorem toInt_of_word? {n : Int} {w : Int64} (h : word? n = some w) : w.toInt = n := by
  unfold word? at h
  split at h
  · rename_i hr
    simp only [Option.some.injEq] at h
    subst h
    rw [Int64.toInt_ofInt, show Int64.size = 18446744073709551616 from rfl]
    apply Int.bmod_eq_of_le <;> omega
  · simp at h

/-- Every word is the word of its integer. -/
theorem word?_toInt (w : Int64) : word? w.toInt = some w := by
  have h₁ : -9223372036854775808 ≤ w.toInt := Int64.le_toInt w
  have h₂ : w.toInt ≤ 9223372036854775807 := Int.le_of_lt_add_one (Int64.toInt_lt w)
  rw [word?, if_pos ⟨h₁, h₂⟩, Int64.ofInt_toInt]

/-- A decimal number in the range of signed 64-bit words, with an optional sign. -/
def readSigned? (s : List Char) : Option Int64 :=
  match s with
  | '-' :: r => (ofDigits? 10 r).bind fun n => word? (-n)
  | '+' :: r => (ofDigits? 10 r).bind fun n => word? n
  | _ => (ofDigits? 10 s).bind fun n => word? n

/-- The decimal digits of an integer, with a minus sign if it is negative. -/
def ofInt (n : Int) : List Char :=
  if n < 0 then '-' :: Nat.toDigits 10 n.natAbs else Nat.toDigits 10 n.natAbs

end XmlTemplate.Decimal
