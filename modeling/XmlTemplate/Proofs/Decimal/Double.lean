import XmlTemplate.Proofs.Decimal.Nearest

/-!
# Integers as doubles

An integer becomes a double by rounding it to the nearest one, and doubles that stand for integers
compare like the integers.

* `Cut`: what is left of a quotient when its division is done bit by bit.
* `HasValue`: the integer that an unpacked double stands for. `StandsFor`: that of a double.
* `compare_of_hasValue`: two of them compare like their integers.
* `unpack_pack_of_hasValue`: one that is stored is read back as it is.
* `standsFor_ofInt`: the double made of an integer stands for the nearest one.
-/

namespace XmlTemplate.Decimal

open Float.Model Float.Model.UnpackedFloat

variable {a d j m n t : Nat} {s : Sign} {x y : UnpackedFloat} {v w : Int}

/-! ## Cutting off bits -/

/-- A quotient `a / d` cut off after its whole part. Of the rest there is whether it is half of `d`
or more, and whether it is anything else than nothing or half of it. -/
structure Cut (a d : Nat) (em : ExtendedMantissa) : Prop where
  mantissa : em.mantissa = a / d
  roundBit : em.roundBit = true ↔ d ≤ 2 * (a % d)
  stickyBit : em.stickyBit = true ↔ a % d ≠ 0 ∧ 2 * (a % d) ≠ d

namespace Cut

theorem exact (a : Nat) : Cut a 1 (ExtendedMantissa.ofMantissaAndAccuracy a .exact) where
  mantissa := (Nat.div_one a).symm
  roundBit := by simp [ExtendedMantissa.ofMantissaAndAccuracy, Nat.mod_one]
  stickyBit := by simp [ExtendedMantissa.ofMantissaAndAccuracy, Nat.mod_one]

theorem shiftRightOne {em : ExtendedMantissa} (hd : 0 < d) (h : Cut a d em) :
    Cut a (d * 2) em.shiftRightOne := by
  have hmod : a % (d * 2) = a % d + d * (a / d % 2) := Nat.mod_mul
  have hlt := Nat.mod_lt a hd
  refine ⟨?_, ?_, ?_⟩
  · rw [ExtendedMantissa.shiftRightOne, h.mantissa, Nat.div_div_eq_div_mul]
  all_goals
    simp only [ExtendedMantissa.shiftRightOne, bne_iff_ne, Bool.or_eq_true, h.mantissa, h.roundBit,
      h.stickyBit, hmod]
    rcases Nat.mod_two_eq_zero_or_one (a / d) with hbit | hbit <;> rw [hbit] <;> omega

theorem shiftRight {em : ExtendedMantissa} (hd : 0 < d) (h : Cut a d em) (t : Nat) :
    Cut a (d * 2 ^ t) (em >>> t) := by
  show Cut a (d * 2 ^ t) (t.repeat ExtendedMantissa.shiftRightOne em)
  induction t with
  | zero => rwa [Nat.pow_zero, Nat.mul_one]
  | succ t ih =>
    rw [Nat.pow_succ, ← Nat.mul_assoc]
    exact ih.shiftRightOne (Nat.mul_pos hd (Nat.two_pow_pos t))

/-- The bits that are left tell how to round. -/
theorem roundedMantissa {em : ExtendedMantissa} (hd : 0 < d) (h : Cut a d em) :
    em.roundedMantissa = roundedQuotient a d := by
  obtain ⟨q, half, rest⟩ := em
  obtain ⟨rfl, hhalf, hrest⟩ := h
  dsimp only at hhalf hrest
  rw [roundedQuotient]
  cases half <;> cases rest <;>
    simp only [ExtendedMantissa.roundedMantissa, ExtendedMantissa.accuracy,
      Accuracy.roundToNearestEven, Bool.false_eq_true, false_iff, true_iff] at hhalf hrest ⊢ <;>
    split <;> omega

end Cut

/-! ## Rounding -/

theorem log2_mul_two_pow (hn : n ≠ 0) (j : Nat) : (n * 2 ^ j).log2 = n.log2 + j := by
  have hpos : 0 < 2 ^ j := Nat.two_pow_pos j
  rw [Nat.log2_eq_iff (Nat.mul_ne_zero hn hpos.ne'), Nat.add_right_comm, Nat.pow_add, Nat.pow_add]
  exact ⟨Nat.mul_le_mul_right _ (Nat.log2_self_le hn),
    Nat.mul_lt_mul_of_pos_right Nat.lt_log2_self hpos⟩

/-- A number with 53 significant digits or more keeps the leading ones. -/
theorem shiftToTargetExponent_eq {e : Int} (ha : a.log2 = 52 + t) (he : -1074 ≤ e + t) :
    shiftToTargetExponent .binary64 a e .exact =
      (ExtendedMantissa.ofMantissaAndAccuracy a .exact >>> t, e + t) := by
  have htarget : Format.binary64.targetExponent (totalExponent a e) = e + t := by
    have hmin : Format.binary64.minExponent = -1074 := rfl
    have hbits : (Format.binary64.mantissaBits : Int) = 53 := rfl
    rw [Format.targetExponent, totalExponent, hmin, hbits, ha]
    push_cast
    omega
  have hshift : (e + t - e).toNat = t := by omega
  rw [shiftToTargetExponent, htarget, shiftToExponent, hshift]

theorem log2_eq_of_lt (hlo : 2 ^ 52 ≤ m) (hhi : m < 2 ^ 53) : m.log2 = 52 := by
  have := (Nat.le_log2 (by omega)).mpr hlo
  have := (Nat.log2_lt (by omega)).mpr hhi
  omega

/-- Rounding a mantissa up can make it one digit longer. The digit that it ends with is zero. -/
theorem exists_shiftToTargetExponent {e : Int} (hlo : 2 ^ 52 ≤ a) (hhi : a ≤ 2 ^ 53)
    (he : -1074 ≤ e) :
    ∃ m k : Nat, (shiftToTargetExponent .binary64 a e .exact).1.mantissa = m ∧
      (shiftToTargetExponent .binary64 a e .exact).2 = e + k ∧
      2 ^ 52 ≤ m ∧ m < 2 ^ 53 ∧ k ≤ 1 ∧ m * 2 ^ k = a := by
  have hcut (t : Nat) := (Cut.exact a).shiftRight Nat.one_pos t
  rcases hhi.lt_or_eq with hlt | heq
  · rw [shiftToTargetExponent_eq (t := 0) (log2_eq_of_lt hlo hlt) (by omega), (hcut 0).mantissa]
    exact ⟨a, 0, by rw [Nat.one_mul, Nat.pow_zero, Nat.div_one], rfl, hlo, hlt, by omega,
      by rw [Nat.pow_zero, Nat.mul_one]⟩
  · have hlog : a.log2 = 53 := by rw [heq, Nat.log2_two_pow]
    rw [shiftToTargetExponent_eq (t := 1) hlog (by omega), (hcut 1).mantissa, heq]
    exact ⟨2 ^ 52, 1, by decide, rfl, by decide, by decide, by decide, by decide⟩

/-- The rounded number has 53 digits, those of the rounded quotient. -/
theorem exists_roundWithAccuracy {e : Int} (ha : a.log2 = 52 + t) (he : -1074 ≤ e + t) :
    ∃ (m k : Nat) (h : 0 < m),
      roundWithAccuracy .binary64 s a e .exact = .finite s m (e + t + k) h ∧
      2 ^ 52 ≤ m ∧ m < 2 ^ 53 ∧ k ≤ 1 ∧ m * 2 ^ k = roundedQuotient a (2 ^ t) := by
  have hpos : 0 < 2 ^ t := Nat.two_pow_pos t
  have hne : a ≠ 0 := by
    rintro rfl
    rw [Nat.log2_zero] at ha
    omega
  have hlo : 2 ^ 52 ≤ roundedQuotient a (2 ^ t) := by
    refine le_trans ?_ (div_le_roundedQuotient a _)
    rw [Nat.le_div_iff_mul_le hpos, ← Nat.pow_add, ← ha]
    exact Nat.log2_self_le hne
  have hhi : roundedQuotient a (2 ^ t) ≤ 2 ^ 53 := by
    refine (roundedQuotient_le a _).trans (Nat.succ_le_of_lt ?_)
    rw [Nat.div_lt_iff_lt_mul hpos, ← Nat.pow_add]
    have hlt : a < 2 ^ (a.log2 + 1) := Nat.lt_log2_self
    rwa [ha, show 52 + t + 1 = 53 + t by omega] at hlt
  have hcut := (Cut.exact a).shiftRight Nat.one_pos t
  rw [Nat.one_mul] at hcut
  obtain ⟨m, k, hm, hexponent, hlo', hhi', hk, hvalue⟩ := exists_shiftToTargetExponent hlo hhi he
  refine ⟨m, k, by omega, ?_, hlo', hhi', hk, hvalue⟩
  rw [roundWithAccuracy, shiftToTargetExponent_eq ha he]
  simp only [hcut.roundedMantissa hpos, hm, hexponent]
  rw [dif_neg (by omega)]

/-! ## Values -/

/-- The integer that an unpacked double stands for: the double is a zero, or its significand has 53
digits and its exponent is not too great. -/
inductive HasValue : UnpackedFloat → Int → Prop
  | zero (s : Sign) : HasValue (.zero s) 0
  | finite (s : Sign) {m k n : Nat} (h : 0 < m) (lo : 2 ^ 52 ≤ m) (hi : m < 2 ^ 53) (hk : k ≤ 1023)
      (hv : m * 2 ^ k = n * 2 ^ 52) : HasValue (.finite s m ((k : Int) - 52) h) (s.apply n)

/-- A natural number with `j` more binary digits behind it is rounded to the nearest double. -/
theorem roundedQuotient_two_pow (hn : n ≠ 0) (ht : n.log2 + j = 52 + t) :
    roundedQuotient (n * 2 ^ j) (2 ^ t) * 2 ^ n.log2 = nearestNat n * 2 ^ 52 := by
  rcases Nat.lt_or_ge n.log2 52 with hlog | hlog
  · have hlt : n < 2 ^ 53 := (Nat.log2_lt hn).mp (by omega)
    have hsplit : n * 2 ^ j = n * 2 ^ (52 - n.log2) * 2 ^ t := by
      rw [Nat.mul_assoc, ← Nat.pow_add, show 52 - n.log2 + t = j by omega]
    rw [hsplit, roundedQuotient_mul_self (Nat.two_pow_pos t), nearestNat_of_lt hlt, Nat.mul_assoc,
      ← Nat.pow_add, show 52 - n.log2 + n.log2 = 52 by omega]
  · have hsplit : 2 ^ t = spacing n * 2 ^ j := by
      rw [spacing, ← Nat.pow_add, show n.log2 - 52 + j = t by omega]
    have hpow : 2 ^ n.log2 = spacing n * 2 ^ 52 := by
      rw [spacing, ← Nat.pow_add, show n.log2 - 52 + 52 = n.log2 by omega]
    rw [hsplit, roundedQuotient_mul_right (Nat.two_pow_pos j), hpow, ← Nat.mul_assoc, nearestNat]

theorem hasValue_roundWithAccuracy (s : Sign) (hn : n ≠ 0) (hlog : n.log2 ≤ 1022)
    (hj : 52 ≤ n.log2 + j) :
    HasValue (roundWithAccuracy .binary64 s (n * 2 ^ j) (-j) .exact) (s.apply (nearestNat n)) := by
  obtain ⟨t, ht⟩ := Nat.exists_eq_add_of_le hj
  have hdigits : (n * 2 ^ j).log2 = 52 + t := by rw [log2_mul_two_pow hn, ht]
  obtain ⟨m, k, h, hround, hlo, hhi, hk, hvalue⟩ :=
    exists_roundWithAccuracy (s := s) (e := -j) hdigits (by omega)
  have hexponent : (-j : Int) + t + k = ((n.log2 + k : Nat) : Int) - 52 := by omega
  rw [hround, hexponent]
  refine .finite s h hlo hhi (by omega) ?_
  rw [Nat.add_comm, Nat.pow_add, ← Nat.mul_assoc, hvalue, roundedQuotient_two_pow hn ht]

/-- The number one as an unpacked double. -/
def one : UnpackedFloat := .finite .positive (2 ^ 52) (-52) (Nat.two_pow_pos 52)

/-- A product with one is rounded to the factor that it was. -/
theorem HasValue.mul_one (h : HasValue x v) : HasValue (x.mul .binary64 one) v := by
  cases h with
  | zero s => cases s <;> exact .zero _
  | @finite s m k n h lo hi hk hv =>
    have hsign : s * .positive = s := by cases s <;> rfl
    have hdigits : (m * 2 ^ 52).log2 = 52 + 52 := by
      rw [log2_mul_two_pow (by omega), log2_eq_of_lt lo hi]
    obtain ⟨m', k', h', hround, hlo, hhi, hk', hvalue⟩ :=
      exists_roundWithAccuracy (s := s) (e := (k : Int) - 52 + -52) hdigits (by omega)
    rw [roundedQuotient_mul_self (Nat.two_pow_pos 52)] at hvalue
    -- The significand has 53 digits already, so rounding adds none.
    obtain rfl : k' = 0 := by
      by_contra hne
      obtain rfl : k' = 1 := by omega
      omega
    obtain rfl : m' = m := by rwa [Nat.pow_zero, Nat.mul_one] at hvalue
    have hexponent : (k : Int) - 52 + -52 + (52 : Nat) + (0 : Nat) = (k : Int) - 52 := by omega
    show HasValue (roundWithAccuracy .binary64 (s * .positive) (m' * 2 ^ 52) _ .exact) _
    rw [hsign, hround, hexponent]
    exact .finite s h' hlo hhi hk hv

theorem HasValue.neg (h : HasValue x v) : HasValue x.neg (-v) := by
  cases h with
  | zero s => exact .zero _
  | @finite s m k n h lo hi hk hv =>
    have hsign : (-s).apply (n : Int) = -s.apply n := by
      cases s
      · exact (Int.neg_neg _).symm
      · rfl
    rw [← hsign]
    exact .finite (-s) h lo hi hk hv

/-! ## Comparing -/

/-- Of two significands with 53 digits, the one with the greater exponent is greater. -/
theorem mul_two_pow_lt {m' k k' : Nat} (hhi : m < 2 ^ 53) (hlo : 2 ^ 52 ≤ m') (hk : k < k') :
    m * 2 ^ k < m' * 2 ^ k' := by
  obtain ⟨i, rfl⟩ := Nat.exists_eq_add_of_lt hk
  calc m * 2 ^ k < 2 ^ 53 * 2 ^ k := Nat.mul_lt_mul_of_pos_right hhi (Nat.two_pow_pos k)
    _ = 2 ^ 52 * 2 ^ (k + 1) := by rw [← Nat.pow_add, ← Nat.pow_add]; congr 1; omega
    _ ≤ m' * 2 ^ (k + i + 1) :=
      Nat.mul_le_mul hlo (Nat.pow_le_pow_right (by omega) (by omega))

theorem lt_of_scaled_lt {a' n' : Nat} (hv : a = n * 2 ^ 52) (hv' : a' = n' * 2 ^ 52) (h : a < a') :
    n < n' := by
  rw [hv, hv'] at h
  exact Nat.lt_of_mul_lt_mul_right h

/-- Positive doubles compare by their exponents first and by their significands then, and that is
how their values compare. -/
theorem compare_significands {m' n' k k' : Nat} (hlo : 2 ^ 52 ≤ m) (hhi : m < 2 ^ 53)
    (hv : m * 2 ^ k = n * 2 ^ 52) (hlo' : 2 ^ 52 ≤ m') (hhi' : m' < 2 ^ 53)
    (hv' : m' * 2 ^ k' = n' * 2 ^ 52) :
    (compare ((k : Int) - 52) ((k' : Int) - 52)).then (compare m m') = compare (n : Int) n' := by
  have hpos : 0 < 2 ^ k := Nat.two_pow_pos k
  rcases lt_trichotomy k k' with hk | rfl | hk
  · have hn : n < n' := lt_of_scaled_lt hv hv' (mul_two_pow_lt hhi hlo' hk)
    rw [Int.compare_eq_lt.mpr (by omega), Int.compare_eq_lt.mpr (by omega)]
    rfl
  · rw [Int.compare_eq_eq.mpr rfl]
    show compare m m' = compare (n : Int) n'
    rcases lt_trichotomy m m' with hm | rfl | hm
    · have hn : n < n' := lt_of_scaled_lt hv hv' (Nat.mul_lt_mul_of_pos_right hm hpos)
      rw [Nat.compare_eq_lt.mpr hm, Int.compare_eq_lt.mpr (by omega)]
    · have hn : n = n' := by omega
      rw [hn, Nat.compare_eq_eq.mpr rfl, Int.compare_eq_eq.mpr rfl]
    · have hn : n' < n := lt_of_scaled_lt hv' hv (Nat.mul_lt_mul_of_pos_right hm hpos)
      rw [Nat.compare_eq_gt.mpr hm, Int.compare_eq_gt.mpr (by omega)]
  · have hn : n' < n := lt_of_scaled_lt hv' hv (mul_two_pow_lt hhi' hlo hk)
    rw [Int.compare_eq_gt.mpr (by omega), Int.compare_eq_gt.mpr (by omega)]
    rfl

/-- A double with a significand stands for another integer than zero. -/
theorem pos_of_scaled {k : Nat} (h : 0 < m) (hv : m * 2 ^ k = n * 2 ^ 52) : 0 < n := by
  have : 0 < m * 2 ^ k := Nat.mul_pos h (Nat.two_pow_pos k)
  omega

theorem compare_neg_neg (v w : Int) : compare (-v) (-w) = compare w v := by
  rcases lt_trichotomy v w with h | rfl | h
  · rw [Int.compare_eq_gt.mpr (by omega), Int.compare_eq_gt.mpr h]
  · rw [Int.compare_eq_eq.mpr rfl, Int.compare_eq_eq.mpr rfl]
  · rw [Int.compare_eq_lt.mpr (by omega), Int.compare_eq_lt.mpr h]

/-- **Doubles that stand for integers compare like the integers.** -/
theorem compare_of_hasValue (hx : HasValue x v) (hy : HasValue y w) :
    x.compare y = some (compare v w) := by
  cases hx with
  | zero s =>
    cases hy with
    | zero s' => rfl
    | @finite s' m' k' n' h' lo' hi' hk' hv' =>
      have hn := pos_of_scaled h' hv'
      cases s'
      · exact congrArg some (Int.compare_eq_gt.mpr (by simp only [Sign.apply]; omega)).symm
      · exact congrArg some (Int.compare_eq_lt.mpr (by simp only [Sign.apply]; omega)).symm
  | @finite s m k n h lo hi hk hv =>
    have hn := pos_of_scaled h hv
    cases hy with
    | zero s' =>
      cases s
      · exact congrArg some (Int.compare_eq_lt.mpr (by simp only [Sign.apply]; omega)).symm
      · exact congrArg some (Int.compare_eq_gt.mpr (by simp only [Sign.apply]; omega)).symm
    | @finite s' m' k' n' h' lo' hi' hk' hv' =>
      have hn' := pos_of_scaled h' hv'
      have hsame := compare_significands lo hi hv lo' hi' hv'
      cases s <;> cases s'
      · show some (Ordering.swap _) = some (compare (-(n : Int)) (-(n' : Int)))
        rw [hsame, Int.compare_swap, compare_neg_neg]
      · exact congrArg some (Int.compare_eq_lt.mpr (by simp only [Sign.apply]; omega)).symm
      · exact congrArg some (Int.compare_eq_gt.mpr (by simp only [Sign.apply]; omega)).symm
      · exact congrArg some hsame

/-! ## Bit patterns -/

theorem unpackSign_packComponents (s : Sign) (e : BitVec 11) (f : BitVec 52) :
    Sign.ofBitVec (unpackSign (packComponents .binary64 s e f)) = s := by
  simp only [unpackSign, packComponents, BitVec.extractLsb]
  rw [BitVec.extractLsb'_append_eq_of_le (by omega), BitVec.extractLsb'_append_eq_of_le (by omega)]
  cases s <;> rfl

/-- The leading digit of a significand is not stored. -/
theorem toNat_one_append (hlo : 2 ^ 52 ≤ m) (hhi : m < 2 ^ 53) :
    (1#1 ++ BitVec.ofNat 52 m).toNat = m := by
  have hstored : (BitVec.ofNat 52 m).toNat = m - 2 ^ 52 := by
    rw [BitVec.toNat_ofNat]
    omega
  rw [BitVec.toNat_append, ← Nat.shiftLeft_add_eq_or_of_lt (BitVec.ofNat 52 m).isLt, hstored,
    Nat.shiftLeft_eq]
  show 1 * 2 ^ 52 + (m - 2 ^ 52) = m
  omega

/-- **A double that stands for an integer is stored and read back as it is.** -/
theorem unpack_pack_of_hasValue (hx : HasValue x v) :
    UnpackedFloat.unpack .binary64 (x.pack .binary64) = x := by
  cases hx with
  | zero s => cases s <;> rfl
  | @finite s m k n h lo hi hk hv =>
    have hbias : ((k : Int) - 52 + (Format.binary64.exponentBias : Int) + (52 : Nat)).toNat =
        k + 1023 := by
      have : (Format.binary64.exponentBias : Int) = 1023 := rfl
      omega
    have hstored : (BitVec.ofNat 11 (k + 1023)).toNat = k + 1023 := by
      rw [BitVec.toNat_ofNat]
      omega
    have hones : BitVec.ofNat 11 (k + 1023) ≠ -1#11 := by
      intro he
      have := congrArg BitVec.toNat he
      rw [hstored] at this
      have hmax : (-1#11).toNat = 2047 := rfl
      omega
    have hzero : BitVec.ofNat 11 (k + 1023) ≠ 0#11 := by
      intro he
      have := congrArg BitVec.toNat he
      rw [hstored] at this
      have hmin : (0#11).toNat = 0 := rfl
      omega
    have hpack : UnpackedFloat.pack .binary64 (.finite s m ((k : Int) - 52) h) =
        packComponents .binary64 s (BitVec.ofNat 11 (k + 1023)) (BitVec.ofNat 52 m) := by
      rw [UnpackedFloat.pack]
      simp only [hbias, log2_eq_of_lt lo hi]
      rw [if_neg (by omega)]
      exact if_pos rfl
    rw [hpack, UnpackedFloat.unpack]
    simp only [unpackMantissa_packComponents, unpackExponent_packComponents,
      unpackSign_packComponents]
    rw [if_neg hones, if_neg hzero]
    have hexponent : ((BitVec.ofNat 11 (k + 1023)).toNat : Int) -
        ((Format.binary64.exponentBias : Int) + (52 : Nat)) = (k : Int) - 52 := by
      have hbias : (Format.binary64.exponentBias : Int) = 1023 := rfl
      omega
    rw [UnpackedFloat.finite.injEq]
    exact ⟨rfl, toNat_one_append lo hi, hexponent⟩

/-! ## Conversion -/

/-- The integer that a double stands for. -/
def StandsFor (d : Float) (v : Int) : Prop := HasValue d.toModel.unpack v

theorem standsFor_of_hasValue (h : HasValue x v) : StandsFor (.ofModel (Float.Model.pack x)) v := by
  show HasValue (UnpackedFloat.unpack .binary64 (x.pack .binary64)) v
  rwa [unpack_pack_of_hasValue h]

theorem StandsFor.neg {d : Float} (h : StandsFor d v) : StandsFor d.neg (-v) :=
  standsFor_of_hasValue (HasValue.neg h)

theorem hasValue_ofNat (hlog : n.log2 ≤ 1022) :
    HasValue (UnpackedFloat.ofNat .binary64 n) (nearestNat n) := by
  rcases n.eq_zero_or_pos with rfl | hn
  · exact .zero _
  · have htarget : Format.binary64.targetExponent (totalExponent n 0) = (n.log2 : Int) - 52 := by
      have hmin : Format.binary64.minExponent = -1074 := rfl
      have hbits : (Format.binary64.mantissaBits : Int) = 53 := rfl
      rw [Format.targetExponent, totalExponent, hmin, hbits]
      omega
    have hshift : (0 - ((n.log2 : Int) - 52)).toNat = 52 - n.log2 := by omega
    have hround : UnpackedFloat.ofNat .binary64 n =
        roundWithAccuracy .binary64 .positive (n * 2 ^ (52 - n.log2)) (-(52 - n.log2 : Nat))
          .exact := by
      unfold UnpackedFloat.ofNat UnpackedFloat.ofInt UnpackedFloat.normalize
      rw [Int.compare_eq_gt.mpr (by omega)]
      simp only [Int.toNat_natCast, UnpackedFloat.round, htarget, decreaseExponent, hshift,
        Nat.shiftLeft_eq]
      rw [Int.zero_sub]
    rw [hround]
    exact hasValue_roundWithAccuracy .positive hn.ne' hlog (by omega)

/-- A number that the conversion of words cannot take exactly is rounded once. -/
theorem hasValue_ofScientific (hn : n ≠ 0) (hlog : n.log2 ≤ 1022) :
    HasValue (UnpackedFloat.ofScientific .binary64 n 0) (nearestNat n) := by
  have hround : UnpackedFloat.ofScientific .binary64 n 0 =
      roundWithAccuracy .binary64 .positive (n * 2 ^ 53) (-(53 : Nat)) .exact := by
    have hexponents : (2 : Int) ^ Format.binary64.exponentBits = 2048 := rfl
    rw [UnpackedFloat.ofScientific, dif_neg hn, hexponents, if_neg (by decide), if_neg (by omega),
      if_pos (Int.le_refl 0), UnpackedFloat.mul]
    simp only [Nat.shiftLeft_eq, Int.toNat_zero, Nat.pow_zero, Nat.mul_one, Int.add_zero]
    rfl
  rw [hround]
  exact hasValue_roundWithAccuracy .positive hn hlog (by omega)

theorem unpack_powerOfTen_zero :
    Float.exactlyRepresentablePowersOfTen[0].toModel.unpack = one := rfl

theorem standsFor_ofNat (hlog : n.log2 ≤ 1022) : StandsFor (Float.ofNat n) (nearestNat n) := by
  show StandsFor (Float.ofScientific n false 0) _
  rw [Float.ofScientific]
  split
  · rename_i h
    have hword : n.toUInt64.toNat = n := by
      rw [Nat.toUInt64, UInt64.toNat_ofNat', Nat.mod_eq_of_lt (by omega)]
    have hfactor : StandsFor n.toUInt64.toFloat (nearestNat n) := by
      refine standsFor_of_hasValue ?_
      rw [UnpackedFloat.ofUInt64, hword]
      exact hasValue_ofNat hlog
    have hproduct := hfactor.mul_one
    rw [← unpack_powerOfTen_zero] at hproduct
    exact standsFor_of_hasValue hproduct
  · rename_i h
    have hn : n ≠ 0 := by
      rintro rfl
      exact h ⟨by decide, by decide⟩
    exact standsFor_of_hasValue (hasValue_ofScientific hn hlog)

/-- **The double that an integer becomes stands for the nearest one.** -/
theorem standsFor_ofInt {i : Int} (hlog : i.natAbs.log2 ≤ 1022) :
    StandsFor (Float.ofInt i) (nearest i) := by
  match i with
  | .ofNat n => exact standsFor_ofNat hlog
  | .negSucc n => exact (standsFor_ofNat hlog).neg

/-- **Doubles that stand for integers are ordered like the integers.** -/
theorem lt_iff_of_standsFor {d d' : Float} (h : StandsFor d v) (h' : StandsFor d' w) :
    d < d' ↔ v < w := by
  show decide (d.toModel < d'.toModel) = true ↔ v < w
  rw [decide_eq_true_iff]
  show (d.toModel.unpack.compare d'.toModel.unpack == some .lt) = true ↔ v < w
  rw [compare_of_hasValue h h', beq_iff_eq, Option.some_inj, Int.compare_eq_lt]

/-- Doubles that stand for integers are equal like the integers. -/
theorem beq_iff_of_standsFor {d d' : Float} (h : StandsFor d v) (h' : StandsFor d' w) :
    (d == d') = true ↔ v = w := by
  show (d.toModel.unpack.compare d'.toModel.unpack == some .eq) = true ↔ v = w
  rw [compare_of_hasValue h h', beq_iff_eq, Option.some_inj, Int.compare_eq_eq]

end XmlTemplate.Decimal
