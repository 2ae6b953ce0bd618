import Mathlib
import XmlTemplate.Decimal.Integer

/-!
# Numerals

Which texts write whole numbers, said without a reader.

* `Writes base s n`: the characters of `s` are the digits of `n`, the first one the most
  significant.
* `Signed s n`: the same in base ten, with an optional sign of either kind.
* `word?_eq_some_iff`: which integers have a 64-bit word.
* `readUnsigned?_eq_some_iff`, `readSigned?_eq_some_iff`: what is read is what is written, within
  the bounds of the type.
-/

namespace XmlTemplate.Decimal

variable {base n : Nat} {s r : List Char}

/-! ## Digits -/

/-- A text of at least one digit that writes a number in a base. -/
def Writes (base : Nat) (s : List Char) (n : Nat) : Prop :=
  s ≠ [] ∧ ∃ ds, List.Forall₂ (fun c d => digitValue? base c = some d) s ds ∧
    Nat.ofDigits base ds.reverse = n

/-- Digits that follow others are worth less than these, by one place for each. -/
theorem ofDigitsFrom?_eq_some_iff {acc : Nat} : ofDigitsFrom? base acc s = some n ↔
    ∃ ds, List.Forall₂ (fun c d => digitValue? base c = some d) s ds ∧
      acc * base ^ ds.length + Nat.ofDigits base ds.reverse = n := by
  induction s generalizing acc with
  | nil => simp [ofDigitsFrom?]
  | cons c r ih =>
    have hplace (d : Nat) (ds : List Nat) :
        (acc * base + d) * base ^ ds.length + Nat.ofDigits base ds.reverse =
          acc * base ^ (d :: ds).length + Nat.ofDigits base (d :: ds).reverse := by
      rw [List.reverse_cons, Nat.ofDigits_append, Nat.ofDigits_singleton, List.length_reverse,
        List.length_cons]
      ring
    simp only [ofDigitsFrom?, Option.bind_eq_some_iff, ih]
    constructor
    · rintro ⟨d, hd, ds, hds, hn⟩
      exact ⟨d :: ds, .cons hd hds, by rw [← hplace, hn]⟩
    · rintro ⟨_, hds, hn⟩
      obtain _ | @⟨_, d, _, ds, hd, hrest⟩ := hds
      exact ⟨d, hd, ds, hrest, by rw [hplace, hn]⟩

theorem ofDigits?_eq_some_iff : ofDigits? base s = some n ↔ Writes base s n := by
  unfold ofDigits? Writes
  cases s with
  | nil => simp
  | cons c r => simp [ofDigitsFrom?_eq_some_iff]

/-- A number that is written begins with one of its digits. -/
theorem Writes.head {c : Char} (h : Writes base (c :: r) n) : ∃ d, digitValue? base c = some d := by
  obtain ⟨-, ds, hds, -⟩ := h
  obtain _ | ⟨hd, -⟩ := hds
  exact ⟨_, hd⟩

theorem not_writes_sign {c : Char} (hc : c = '+' ∨ c = '-') : ¬ Writes base (c :: r) n := by
  intro h
  obtain ⟨d, hd⟩ := h.head
  rcases hc with rfl | rfl <;> cases hd

/-! ## Words -/

/-- An integer has a word if and only if it is the integer of that word. -/
theorem word?_eq_some_iff {n : Int} {w : Int64} : word? n = some w ↔ n = w.toInt := by
  constructor
  · exact fun h => (toInt_of_word? h).symm
  · rintro rfl
    exact word?_toInt w

theorem word?_eq_none_iff {n : Int} : word? n = none ↔ ¬ ∃ w : Int64, n = w.toInt := by
  rw [Option.eq_none_iff_forall_ne_some]
  simp only [ne_eq, word?_eq_some_iff, not_exists]

/-! ## Signs -/

/-- A plus sign may stand before the digits of a natural number. -/
theorem readUnsigned?_eq_some_iff {bound : Nat} : readUnsigned? base bound s = some n ↔
    n ≤ bound ∧ (Writes base s n ∨ ∃ r, s = '+' :: r ∧ Writes base r n) := by
  unfold readUnsigned?
  rw [Option.filter_eq_some_iff, ofDigits?_eq_some_iff, decide_eq_true_eq, and_comm]
  refine and_congr_right fun _ => ?_
  split
  · rename_i r
    constructor
    · exact fun h => .inr ⟨r, rfl, h⟩
    · rintro (h | ⟨_, he, h⟩)
      · exact absurd h (not_writes_sign (.inl rfl))
      · cases he
        exact h
  · rename_i hsign
    constructor
    · exact .inl
    · rintro (h | ⟨r, he, -⟩)
      · exact h
      · exact absurd he (hsign r)

/-- A text that writes an integer in base ten. -/
inductive Signed : List Char → Int → Prop where
  | digits {s : List Char} {n : Nat} : Writes 10 s n → Signed s n
  | plus {r : List Char} {n : Nat} : Writes 10 r n → Signed ('+' :: r) n
  | minus {r : List Char} {n : Nat} : Writes 10 r n → Signed ('-' :: r) (-n)

theorem not_signed_nil {n : Int} : ¬ Signed [] n := by
  rintro ⟨h, -⟩
  exact h rfl

/-- An integer is read from the texts that write it, if it is in the range of 64-bit words. -/
theorem readSigned?_eq_some_iff {w : Int64} : readSigned? s = some w ↔ Signed s w.toInt := by
  have hread (f : Nat → Int) (r : List Char) :
      ((ofDigits? 10 r).bind fun n => word? (f n)) = some w ↔
        ∃ n, Writes 10 r n ∧ f n = w.toInt := by
    simp only [Option.bind_eq_some_iff, ofDigits?_eq_some_iff, word?_eq_some_iff]
  unfold readSigned?
  split
  · rename_i r
    rw [hread fun n => -n]
    constructor
    · rintro ⟨n, hn, he⟩
      exact he ▸ .minus hn
    · generalize w.toInt = m
      rintro (hn | _ | hn)
      · exact absurd hn (not_writes_sign (.inr rfl))
      · exact ⟨_, hn, rfl⟩
  · rename_i r
    rw [hread fun n => n]
    constructor
    · rintro ⟨n, hn, he⟩
      exact he ▸ .plus hn
    · generalize w.toInt = m
      rintro (hn | hn | _)
      · exact absurd hn (not_writes_sign (.inl rfl))
      · exact ⟨_, hn, rfl⟩
  · rename_i hminus hplus
    rw [hread fun n => n]
    constructor
    · rintro ⟨n, hn, he⟩
      exact he ▸ .digits hn
    · generalize w.toInt = m
      rintro (hn | _ | _)
      · exact ⟨_, hn, rfl⟩
      · exact absurd rfl (hplus _)
      · exact absurd rfl (hminus _)

end XmlTemplate.Decimal
