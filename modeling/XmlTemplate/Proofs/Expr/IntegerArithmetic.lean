import XmlTemplate.Expr.Eval
import XmlTemplate.Proofs.Decimal.Numeral

/-!
# Arithmetic on integers

Operators on integers are exact as long as the result is an integer of 64 bits, and give a double
otherwise. There is one exception, a remainder that is lost although it is zero.

* `Arithmetic.value`: the mathematical result of an operator.
* `integral?_eq_some_iff`: the exact result is found wherever there is one.
* `Arithmetic.Promotes`, `arith_promotes_iff`: what is promised of an operator on integers, and
  where it is kept.
-/

namespace XmlTemplate.Expr

open Decimal

variable {op : Arithmetic} {l r : Int64}

namespace Arithmetic

/-- The mathematical result of an operator. The remainder is that of the division that truncates
toward zero. -/
def value : Arithmetic → Int → Int → ℚ
  | .add, a, b => (a + b : Int)
  | .sub, a, b => (a - b : Int)
  | .mul, a, b => (a * b : Int)
  | .div, a, b => (a : ℚ) / b
  | .mod, a, b => (a.tmod b : Int)

/-- The operators that divide. -/
def Divides (op : Arithmetic) : Prop := op = .div ∨ op = .mod

/-- The remainder that is not found: it is zero, but the quotient is no integer of 64 bits. -/
def LosesRemainder (op : Arithmetic) (l r : Int64) : Prop :=
  op = .mod ∧ l = Int64.minValue ∧ r = -1

/-- What is promised of an operator on two integers. Only a division by zero fails. A result that
is an integer of 64 bits is that integer, and any other result is a double. -/
structure Promotes (op : Arithmetic) (l r : Int64) (result : Except Error Sequence) : Prop where
  fails : result = .error .divisionByZero ↔ op.Divides ∧ r = 0
  exact : ¬(op.Divides ∧ r = 0) →
    ∀ v : Int64, result = .ok [.integer v] ↔ op.value l.toInt r.toInt = v.toInt
  inexact : ¬(op.Divides ∧ r = 0) → (¬ ∃ v : Int64, op.value l.toInt r.toInt = v.toInt) →
    ∃ d, result = .ok [.double d]

end Arithmetic

/-! ## The exact result -/

theorem toInt_eq_zero_iff : r.toInt = 0 ↔ r = 0 := by
  rw [← Int64.toInt_inj, Int64.toInt_zero]

/-- The test for an overflow of the division. -/
theorem overflows_iff :
    (l == Int64.minValue && r.toInt == -1) = true ↔ l = Int64.minValue ∧ r = -1 := by
  have hone : r.toInt = -1 ↔ r = -1 := Int64.toInt_inj (y := -1)
  rw [Bool.and_eq_true, beq_iff_eq, beq_iff_eq, hone]

/-- The only quotient of two words that is too great for a word. -/
theorem value_div_overflow (v : Int64) :
    Arithmetic.value .div Int64.minValue.toInt (-1 : Int64).toInt ≠ v.toInt := by
  have hlt : v.toInt < 2 ^ 63 := Int64.toInt_lt v
  have hvalue : Arithmetic.value .div Int64.minValue.toInt (-1 : Int64).toInt = (2 ^ 63 : Int) := by
    have hmin : Int64.minValue.toInt = -2 ^ 63 := Int64.toInt_minValue
    have hone : (-1 : Int64).toInt = -1 := rfl
    rw [Arithmetic.value, hmin, hone]
    norm_num
  rw [hvalue]
  intro h
  have := Int.cast_inj.mp h
  omega

/-- A quotient is an integer exactly if the division leaves no remainder. -/
theorem cast_div_eq_iff {a b v : Int} (hb : b ≠ 0) :
    (a : ℚ) / b = v ↔ a.tmod b = 0 ∧ a.tdiv b = v := by
  have hb' : (b : ℚ) ≠ 0 := Int.cast_ne_zero.mpr hb
  rw [div_eq_iff hb', ← Int.cast_mul, Int.cast_inj]
  constructor
  · rintro rfl
    exact ⟨Int.mul_tmod_left v b, Int.mul_tdiv_cancel v hb⟩
  · rintro ⟨hmod, rfl⟩
    have hdivision := Int.mul_tdiv_add_tmod a b
    rw [hmod, Int.add_zero, Int.mul_comm] at hdivision
    exact hdivision.symm

/-- The exact result of a division is found. -/
theorem integral?_div_eq_some_iff (hr : r ≠ 0) (v : Int64) :
    Number.integral? .div l r = some v ↔ Arithmetic.value .div l.toInt r.toInt = v.toInt := by
  have hr' : r.toInt ≠ 0 := fun h => hr (toInt_eq_zero_iff.mp h)
  by_cases hover : l = Int64.minValue ∧ r = -1
  · obtain ⟨rfl, rfl⟩ := hover
    exact ⟨nofun, fun h => absurd h (value_div_overflow v)⟩
  · have htest : (l == Int64.minValue && r.toInt == -1) = false :=
      Bool.eq_false_iff.mpr fun h => hover (overflows_iff.mp h)
    rw [Arithmetic.value, cast_div_eq_iff hr']
    simp only [Number.integral?, htest, Bool.false_or]
    by_cases hmod : l.toInt.tmod r.toInt = 0
    · simp [hmod, word?_eq_some_iff]
    · simp [hmod]

/-- The exact result is found wherever there is one, but for one remainder. -/
theorem integral?_eq_some_iff (hdiv : ¬(op.Divides ∧ r = 0)) (hlost : ¬ op.LosesRemainder l r)
    (v : Int64) : Number.integral? op l r = some v ↔ op.value l.toInt r.toInt = v.toInt := by
  cases op with
  | add | sub | mul =>
    rw [Arithmetic.value, Int.cast_inj]
    exact word?_eq_some_iff
  | div => exact integral?_div_eq_some_iff (fun h => hdiv ⟨.inl rfl, h⟩) v
  | mod =>
    have htest : (l == Int64.minValue && r.toInt == -1) = false :=
      Bool.eq_false_iff.mpr fun h => hlost ⟨rfl, overflows_iff.mp h⟩
    rw [Arithmetic.value, Int.cast_inj, Number.integral?, htest]
    exact word?_eq_some_iff

/-! ## Operators -/

/-- The result of an operator on integers, seen from the exact result. -/
theorem arith_integers (hdiv : ¬(op.Divides ∧ r = 0)) :
    Number.arith op (.integer l) (.integer r) = .ok (match Number.integral? op l r with
      | some n => .integer n
      | none =>
        .double (Number.inexact op (Number.integer l).toFloat (Number.integer r).toFloat)) := by
  have htest : ¬((op = .div ∨ op = .mod) ∧ r = 0) := hdiv
  rw [Number.arith, if_neg htest]
  cases Number.integral? op l r <;> rfl

variable {vars : Bindings} {left right : Expr}

/-- An operator on operands that are integers. -/
theorem eval_arith_integers (hl : eval vars left = .ok [.integer l])
    (hr : eval vars right = .ok [.integer r]) :
    eval vars (.arith op left right) =
      (Number.arith op (.integer l) (.integer r)).map fun n => [.number n] := by
  rw [eval, hl, hr]
  show (Number.arith op (.integer l) (.integer r) >>= fun n => pure [Value.number n]) = _
  cases Number.arith op (.integer l) (.integer r) <;> rfl

theorem eval_arith_divisionByZero (hl : eval vars left = .ok [.integer l])
    (hr : eval vars right = .ok [.integer r]) (hdiv : op.Divides ∧ r = 0) :
    eval vars (.arith op left right) = .error .divisionByZero := by
  have harith : Number.arith op (.integer l) (.integer r) = .error .divisionByZero := if_pos hdiv
  rw [eval_arith_integers hl hr, harith]
  rfl

/-- Away from zero divisors an operator gives the exact result if it is found, else a double. -/
theorem eval_arith_of_not_zero (hl : eval vars left = .ok [.integer l])
    (hr : eval vars right = .ok [.integer r]) (hdiv : ¬(op.Divides ∧ r = 0)) :
    (∀ v, eval vars (.arith op left right) = .ok [.integer v] ↔
      Number.integral? op l r = some v) ∧
    (Number.integral? op l r = none → ∃ d, eval vars (.arith op left right) = .ok [.double d]) := by
  rw [eval_arith_integers hl hr, arith_integers hdiv]
  cases Number.integral? op l r with
  | none => exact ⟨fun v => ⟨nofun, nofun⟩, fun _ => ⟨_, rfl⟩⟩
  | some n =>
    refine ⟨fun v => ⟨fun h => ?_, fun h => ?_⟩, nofun⟩
    · cases h
      rfl
    · cases h
      rfl

theorem eval_arith_promotes (hl : eval vars left = .ok [.integer l])
    (hr : eval vars right = .ok [.integer r]) (hlost : ¬ op.LosesRemainder l r) :
    op.Promotes l r (eval vars (.arith op left right)) where
  fails := by
    refine ⟨fun h => ?_, eval_arith_divisionByZero hl hr⟩
    by_contra hdiv
    rw [eval_arith_integers hl hr, arith_integers hdiv] at h
    cases h
  exact hdiv v :=
    ((eval_arith_of_not_zero hl hr hdiv).1 v).trans (integral?_eq_some_iff hdiv hlost v)
  inexact hdiv hnone := by
    refine (eval_arith_of_not_zero hl hr hdiv).2 (Option.eq_none_iff_forall_ne_some.mpr ?_)
    exact fun v hv => hnone ⟨v, (integral?_eq_some_iff hdiv hlost v).mp hv⟩

/-- The remainder that is lost is a zero, but a double. -/
theorem eval_arith_losesRemainder (hl : eval vars left = .ok [.integer l])
    (hr : eval vars right = .ok [.integer r]) (hlost : op.LosesRemainder l r) :
    eval vars (.arith op left right) = .ok [.double (-0.0)] := by
  obtain ⟨rfl, rfl, rfl⟩ := hlost
  rw [eval_arith_integers hl hr]
  rfl

/-! ## The minus sign -/

theorem eval_negate_integer (hl : eval vars left = .ok [.integer l]) :
    (∀ v : Int64, eval vars (.negate left) = .ok [.integer v] ↔ -l.toInt = v.toInt) ∧
    ((¬ ∃ v : Int64, -l.toInt = v.toInt) → ∃ d, eval vars (.negate left) = .ok [.double d]) := by
  have heval : eval vars (.negate left) = .ok [.number (Number.negate (.integer l))] := by
    rw [eval, hl]
    rfl
  rw [heval, Number.negate]
  cases hword : word? (-l.toInt) with
  | none =>
    have hnone := word?_eq_none_iff.mp hword
    exact ⟨fun v => ⟨nofun, fun h => absurd ⟨v, h⟩ hnone⟩, fun _ => ⟨_, rfl⟩⟩
  | some w =>
    have hw := word?_eq_some_iff.mp hword
    refine ⟨fun v => ⟨fun h => ?_, fun h => ?_⟩, fun h => absurd ⟨w, hw⟩ h⟩
    · cases h
      exact hw
    · rw [Int64.toInt_inj.mp (hw.symm.trans h)]

/-! ## Exact or promoted -/

/-- **Operators on integers are exact or promoted to doubles**, but for one remainder, that of the
least integer and minus one: it is zero, and given as a double. The opposite of an integer is exact
or promoted always. -/
theorem arith_promotes_iff (hl : eval vars left = .ok [.integer l])
    (hr : eval vars right = .ok [.integer r]) :
    (op.Promotes l r (eval vars (.arith op left right)) ↔ ¬ op.LosesRemainder l r) ∧
    (op.LosesRemainder l r → eval vars (.arith op left right) = .ok [.double (-0.0)]) ∧
    (∀ v : Int64, eval vars (.negate left) = .ok [.integer v] ↔ -l.toInt = v.toInt) ∧
    ((¬ ∃ v : Int64, -l.toInt = v.toInt) → ∃ d, eval vars (.negate left) = .ok [.double d]) := by
  refine ⟨⟨fun h hlost => ?_, eval_arith_promotes hl hr⟩, eval_arith_losesRemainder hl hr,
    eval_negate_integer hl⟩
  have hdouble := eval_arith_losesRemainder hl hr hlost
  obtain ⟨rfl, rfl, rfl⟩ := hlost
  have hzero : Arithmetic.value .mod Int64.minValue.toInt (-1 : Int64).toInt = (0 : Int64).toInt :=
    rfl
  have hinteger := (h.exact (fun hdiv => absurd hdiv.2 (by decide)) 0).mpr hzero
  cases hdouble.symm.trans hinteger

/-- Beyond the greatest integer the sum is a double, and the opposite of the greatest integer is
an integer. -/
theorem arith_promotes_iff_greatest :
    let greatest : Expr := .literal (.integer Int64.maxValue)
    let one : Expr := .literal (.integer 1)
    eval [] greatest = .ok [.integer Int64.maxValue] ∧ eval [] one = .ok [.integer 1] ∧
      Arithmetic.Promotes .add Int64.maxValue 1 (eval [] (.arith .add greatest one)) ∧
      eval [] (.negate greatest) = .ok [.integer (-Int64.maxValue)] := by
  intro greatest one
  have hgreatest : eval [] greatest = .ok [.integer Int64.maxValue] := rfl
  have hone : eval [] one = .ok [.integer 1] := rfl
  obtain ⟨hpromotes, -, hnegate, -⟩ :=
    @arith_promotes_iff .add Int64.maxValue 1 [] greatest one hgreatest hone
  exact ⟨hgreatest, hone, hpromotes.mpr nofun, (hnegate _).mpr (by decide)⟩

/-- Not every operator on integers is exact or promoted: the remainder of the least integer and
minus one is zero, which is an integer. -/
theorem arith_not_promotes :
    ¬ ∀ (op : Arithmetic) (l r : Int64),
      op.Promotes l r (eval [("l", [.integer l]), ("r", [.integer r])]
        (.arith op (.var "l") (.var "r"))) := by
  intro h
  have hinteger :=
    ((h .mod Int64.minValue (-1)).exact (fun hdiv => absurd hdiv.2 (by decide)) 0).mpr rfl
  have hdouble : eval [("l", [.integer Int64.minValue]), ("r", [.integer (-1)])]
      (.arith .mod (.var "l") (.var "r")) = .ok [.double (-0.0)] :=
    eval_arith_losesRemainder rfl rfl ⟨rfl, rfl, rfl⟩
  cases hdouble.symm.trans hinteger

end XmlTemplate.Expr
