import Mathlib

/-!
# The double nearest to an integer

A double has 53 significant binary digits. So the integers that are doubles are `m · 2^e` with
`m` below `2^53`, and any other integer is rounded to one of its two neighbours among them, to the
even one if both are equally near.

* `roundedQuotient`: a quotient rounded to a whole number, of two equally near ones to the even.
* `spacing`: the distance of the doubles around a natural number.
* `nearestNat`, `nearest`: the rounding. It is monotone (`nearest_mono`) and leaves integers of at
  most 53 digits as they are (`nearest_of_natAbs_lt`).
* `natAbs_nearest_sub_le`: no double is nearer.
-/

namespace XmlTemplate.Decimal

variable {a b c d n m : Nat}

/-! ## Rounded quotients -/

/-- The whole number nearest to `a / d`, and the even one of two that are equally near. -/
def roundedQuotient (a d : Nat) : Nat :=
  if 2 * (a % d) < d ∨ 2 * (a % d) = d ∧ a / d % 2 = 0 then a / d else a / d + 1

theorem div_le_roundedQuotient (a d : Nat) : a / d ≤ roundedQuotient a d := by
  unfold roundedQuotient
  split <;> omega

theorem roundedQuotient_le (a d : Nat) : roundedQuotient a d ≤ a / d + 1 := by
  unfold roundedQuotient
  split <;> omega

theorem roundedQuotient_mono (h : a ≤ b) :
    roundedQuotient a d ≤ roundedQuotient b d := by
  have hdiv : a / d ≤ b / d := Nat.div_le_div_right h
  have ha := Nat.div_add_mod a d
  have hb := Nat.div_add_mod b d
  rcases hdiv.lt_or_eq with hlt | heq
  · have := roundedQuotient_le a d
    have := div_le_roundedQuotient b d
    omega
  · -- The quotients are the same, so the remainders are ordered like the dividends.
    have hmod : a % d ≤ b % d := by
      rw [← heq] at hb
      omega
    unfold roundedQuotient
    rw [heq]
    split <;> split <;> omega

theorem roundedQuotient_mul_right (hc : 0 < c) (a d : Nat) :
    roundedQuotient (a * c) (d * c) = roundedQuotient a d := by
  have hlt : 2 * (a % d * c) < d * c ↔ 2 * (a % d) < d := by
    rw [← Nat.mul_assoc]
    exact Nat.mul_lt_mul_right hc
  have heq : 2 * (a % d * c) = d * c ↔ 2 * (a % d) = d := by
    rw [← Nat.mul_assoc]
    exact Nat.mul_left_inj hc.ne'
  simp only [roundedQuotient, Nat.mul_div_mul_right a d hc, Nat.mul_mod_mul_right, hlt, heq]

theorem roundedQuotient_mul_self (hd : 0 < d) (a : Nat) : roundedQuotient (a * d) d = a := by
  rw [roundedQuotient, Nat.mul_mod_left, Nat.mul_div_cancel a hd, if_pos (.inl hd)]

/-! ## Natural numbers -/

/-- The distance of the doubles from the greatest power of two below `n` up to the next one. -/
def spacing (n : Nat) : Nat := 2 ^ (n.log2 - 52)

/-- The double nearest to a natural number. -/
def nearestNat (n : Nat) : Nat := roundedQuotient n (spacing n) * spacing n

theorem spacing_pos (n : Nat) : 0 < spacing n := Nat.two_pow_pos _

theorem spacing_of_lt (h : n < 2 ^ 53) : spacing n = 1 := by
  rcases n.eq_zero_or_pos with rfl | hn
  · rfl
  · have : n.log2 < 53 := (Nat.log2_lt hn.ne').mpr h
    rw [spacing, show n.log2 - 52 = 0 by omega, Nat.pow_zero]

theorem nearestNat_of_lt (h : n < 2 ^ 53) : nearestNat n = n := by
  have hself := roundedQuotient_mul_self Nat.one_pos n
  rw [Nat.mul_one] at hself
  rw [nearestNat, spacing_of_lt h, hself, Nat.mul_one]

/-- Where doubles are further apart, 53 digits remain of the quotient. -/
theorem two_pow_mul_spacing (h : 2 ^ 52 ≤ n) : 2 ^ 52 * spacing n = 2 ^ n.log2 := by
  have hlog : 52 ≤ n.log2 := (Nat.le_log2 (by omega)).mpr h
  rw [spacing, ← Nat.pow_add, show 52 + (n.log2 - 52) = n.log2 by omega]

theorem le_div_spacing (h : 2 ^ 52 ≤ n) : 2 ^ 52 ≤ n / spacing n := by
  rw [Nat.le_div_iff_mul_le (spacing_pos n), two_pow_mul_spacing h]
  exact Nat.log2_self_le (by omega)

theorem div_spacing_lt (n : Nat) : n / spacing n < 2 ^ 53 := by
  rcases Nat.lt_or_ge n (2 ^ 53) with h | h
  · rwa [spacing_of_lt h, Nat.div_one]
  · rw [Nat.div_lt_iff_lt_mul (spacing_pos n)]
    have hlt : n < 2 ^ (n.log2 + 1) := Nat.lt_log2_self
    have hpow := two_pow_mul_spacing (n := n) (by omega)
    omega

theorem roundedQuotient_spacing_le (n : Nat) : roundedQuotient n (spacing n) ≤ 2 ^ 53 :=
  (roundedQuotient_le n _).trans (div_spacing_lt n)

/-- The powers of two are doubles, so rounding passes none of them. -/
theorem two_pow_log2_le_nearestNat (h : 2 ^ 52 ≤ n) : 2 ^ n.log2 ≤ nearestNat n := by
  rw [← two_pow_mul_spacing h]
  exact Nat.mul_le_mul_right _ ((le_div_spacing h).trans (div_le_roundedQuotient n _))

theorem nearestNat_le_two_pow (h : 2 ^ 52 ≤ n) : nearestNat n ≤ 2 ^ (n.log2 + 1) := by
  have hle : nearestNat n ≤ 2 ^ 53 * spacing n :=
    Nat.mul_le_mul_right _ (roundedQuotient_spacing_le n)
  have hpow := two_pow_mul_spacing h
  omega

/-- **Rounding is monotone.** -/
theorem nearestNat_mono (h : n ≤ m) : nearestNat n ≤ nearestNat m := by
  rcases Nat.lt_or_ge m (2 ^ 53) with hm | hm
  · rwa [nearestNat_of_lt hm, nearestNat_of_lt (by omega)]
  · rcases Nat.lt_or_ge n (2 ^ 52) with hn | hn
    · rw [nearestNat_of_lt (by omega)]
      have hlog : 53 ≤ m.log2 := (Nat.le_log2 (by omega)).mpr hm
      have hpow : 2 ^ 53 ≤ 2 ^ m.log2 := Nat.pow_le_pow_right (by omega) hlog
      have := two_pow_log2_le_nearestNat (n := m) (by omega)
      omega
    · have hlog : n.log2 ≤ m.log2 :=
        (Nat.le_log2 (by omega)).mpr ((Nat.log2_self_le (by omega)).trans h)
      rcases hlog.lt_or_eq with hlt | heq
      · -- There is a power of two between the two numbers.
        calc nearestNat n ≤ 2 ^ (n.log2 + 1) := nearestNat_le_two_pow hn
          _ ≤ 2 ^ m.log2 := Nat.pow_le_pow_right (by omega) hlt
          _ ≤ nearestNat m := two_pow_log2_le_nearestNat (by omega)
      · have hspacing : spacing n = spacing m := by rw [spacing, spacing, heq]
        rw [nearestNat, nearestNat, hspacing]
        exact Nat.mul_le_mul_right _ (roundedQuotient_mono h)

/-! ## Integers -/

/-- The double nearest to an integer, and of two that are equally near the one with the even
significand. -/
def nearest : Int → Int
  | .ofNat n => nearestNat n
  | .negSucc n => -nearestNat (n + 1)

theorem nearest_natCast (n : Nat) : nearest n = nearestNat n := rfl

theorem nearest_neg (n : Int) : nearest (-n) = -nearest n := by
  match n with
  | .ofNat 0 => rfl
  | .ofNat (n + 1) => rfl
  | .negSucc n => exact (Int.neg_neg _).symm

theorem nearest_eq_neg (n : Int) : nearest n = -nearest (-n) := by rw [nearest_neg, Int.neg_neg]

theorem nearest_of_nonneg {n : Int} (h : 0 ≤ n) : nearest n = nearestNat n.natAbs := by
  obtain ⟨k, rfl⟩ := Int.eq_ofNat_of_zero_le h
  rfl

theorem nearest_nonneg {n : Int} (h : 0 ≤ n) : 0 ≤ nearest n := by
  rw [nearest_of_nonneg h]
  exact Int.natCast_nonneg _

theorem nearest_mono_of_nonneg {n m : Int} (hn : 0 ≤ n) (h : n ≤ m) : nearest n ≤ nearest m := by
  rw [nearest_of_nonneg hn, nearest_of_nonneg (hn.trans h)]
  exact Int.ofNat_le.mpr (nearestNat_mono (by omega))

/-- **Rounding is monotone.** -/
theorem nearest_mono {n m : Int} (h : n ≤ m) : nearest n ≤ nearest m := by
  rcases Int.le_total 0 n with hn | hn
  · exact nearest_mono_of_nonneg hn h
  · have hneg := nearest_eq_neg n
    rcases Int.le_total 0 m with hm | hm
    · have := nearest_nonneg hm
      have := nearest_nonneg (show 0 ≤ -n by omega)
      omega
    · have hneg' := nearest_eq_neg m
      have := nearest_mono_of_nonneg (show 0 ≤ -m by omega) (show -m ≤ -n by omega)
      omega

/-- An integer of at most 53 binary digits is a double itself. -/
theorem nearest_of_natAbs_lt {n : Int} (h : n.natAbs < 2 ^ 53) : nearest n = n := by
  rcases Int.le_total 0 n with hn | hn
  · rw [nearest_of_nonneg hn, nearestNat_of_lt h]
    exact Int.natAbs_of_nonneg hn
  · rw [nearest_eq_neg, nearest_of_nonneg (by omega), nearestNat_of_lt (by omega)]
    omega

/-! ## No double is nearer -/

/-- The integers that are doubles, as far as doubles reach. -/
def IsDouble (d : Int) : Prop := ∃ (m : Int) (e : Nat), m.natAbs < 2 ^ 53 ∧ d = m * 2 ^ e

theorem IsDouble.neg {d : Int} (h : IsDouble d) : IsDouble (-d) := by
  obtain ⟨m, e, hm, rfl⟩ := h
  exact ⟨-m, e, by rwa [Int.natAbs_neg], (Int.neg_mul ..).symm⟩

theorem isDouble_natCast {m e : Nat} (h : m ≤ 2 ^ 53) : IsDouble ((m * 2 ^ e : Nat) : Int) := by
  rcases h.lt_or_eq with h | rfl
  · exact ⟨m, e, h, by push_cast; rfl⟩
  · exact ⟨1, 53 + e, by decide, by rw [← Nat.pow_add]; push_cast; rw [Int.one_mul]⟩

theorem isDouble_nearest (n : Int) : IsDouble (nearest n) := by
  match n with
  | .ofNat n => exact isDouble_natCast (roundedQuotient_spacing_le n)
  | .negSucc n => exact (isDouble_natCast (roundedQuotient_spacing_le (n + 1))).neg

/-- From the greatest power of two below `n` up the doubles are multiples of the spacing. -/
theorem spacing_dvd {e : Nat} (hm : m < 2 ^ 53) (hd : 2 ^ n.log2 ≤ m * 2 ^ e) :
    spacing n ∣ m * 2 ^ e := by
  have hlt : 2 ^ n.log2 < 2 ^ (53 + e) := by
    rw [Nat.pow_add]
    exact hd.trans_lt (Nat.mul_lt_mul_of_pos_right hm (Nat.two_pow_pos e))
  have hlog : n.log2 < 53 + e := (Nat.pow_lt_pow_iff_right (by omega)).mp hlt
  exact (Nat.pow_dvd_pow 2 (by omega)).mul_left m

/-- The distance to the nearest double is the distance to one of the two multiples around. -/
theorem natAbs_nearestNat_sub_le (n : Nat) :
    ((nearestNat n : Int) - n).natAbs ≤ n % spacing n ∧
      ((nearestNat n : Int) - n).natAbs ≤ spacing n - n % spacing n := by
  have hn := Nat.div_add_mod n (spacing n)
  have hmod := Nat.mod_lt n (spacing_pos n)
  have hsucc : (n / spacing n + 1) * spacing n = spacing n * (n / spacing n) + spacing n := by ring
  have hcomm : n / spacing n * spacing n = spacing n * (n / spacing n) := Nat.mul_comm _ _
  rw [nearestNat, roundedQuotient]
  split
  · rw [hcomm]
    omega
  · rw [hsucc]
    omega

theorem natAbs_nearestNat_sub_le_of_double {e : Nat} (hm : m < 2 ^ 53) :
    ((nearestNat n : Int) - n).natAbs ≤ (((m * 2 ^ e : Nat) : Int) - n).natAbs := by
  rcases Nat.lt_or_ge n (2 ^ 53) with hn | hn
  · rw [nearestNat_of_lt hn, Int.sub_self]
    exact Nat.zero_le _
  · obtain ⟨hbelow, habove⟩ := natAbs_nearestNat_sub_le n
    have hdivision := Nat.div_add_mod n (spacing n)
    have hpow := two_pow_mul_spacing (n := n) (by omega)
    have hquotient : spacing n * 2 ^ 52 ≤ spacing n * (n / spacing n) :=
      Nat.mul_le_mul_left _ (le_div_spacing (by omega))
    generalize hd : m * 2 ^ e = d
    rcases Nat.lt_or_ge d (2 ^ n.log2) with hlt | hge
    · omega
    · obtain ⟨c, rfl⟩ : spacing n ∣ d := hd ▸ spacing_dvd hm (hd ▸ hge)
      rcases Nat.lt_or_ge (n / spacing n) c with hc | hc
      · have hmul := Nat.mul_le_mul_left (spacing n) hc
        rw [Nat.mul_succ] at hmul
        omega
      · have hmul := Nat.mul_le_mul_left (spacing n) hc
        omega

theorem natAbs_nearest_sub_le_of_nonneg {n d : Int} (hn : 0 ≤ n) (hd : IsDouble d) :
    (nearest n - n).natAbs ≤ (d - n).natAbs := by
  obtain ⟨k, rfl⟩ := Int.eq_ofNat_of_zero_le hn
  obtain ⟨m, e, hm, rfl⟩ := hd
  rw [nearest_natCast]
  rcases Int.le_total 0 m with h | h
  · obtain ⟨m, rfl⟩ := Int.eq_ofNat_of_zero_le h
    have hm : m < 2 ^ 53 := hm
    have := natAbs_nearestNat_sub_le_of_double (n := k) (e := e) hm
    push_cast at this
    exact this
  · -- Zero is a double too, and nearer than one below it.
    have hzero := natAbs_nearestNat_sub_le_of_double (n := k) (m := 0) (e := 0) (by decide)
    have hnonpos : m * 2 ^ e ≤ 0 := Int.mul_nonpos_of_nonpos_of_nonneg h (by positivity)
    omega

/-- **No double is nearer to an integer than the one that it is rounded to.** -/
theorem natAbs_nearest_sub_le {n d : Int} (hd : IsDouble d) :
    (nearest n - n).natAbs ≤ (d - n).natAbs := by
  rcases Int.le_total 0 n with hn | hn
  · exact natAbs_nearest_sub_le_of_nonneg hn hd
  · have hneg := natAbs_nearest_sub_le_of_nonneg (show 0 ≤ -n by omega) hd.neg
    rw [nearest_neg] at hneg
    omega

end XmlTemplate.Decimal
