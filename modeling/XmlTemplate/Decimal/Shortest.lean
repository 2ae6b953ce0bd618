import XmlTemplate.Decimal.Binary64

/-!
# The shortest decimal of a double

Among the decimals that are read back as a given double, those with the fewest digits, and of
these the nearest to it. All comparisons are between natural numbers.

* `Interval`: the decimals that are read back as the double.
* `Interval.nearest?`: the nearest whole number within the interval, on a grid of a power of ten.
* `shortest`: the same on the coarsest grid that has one.
* `positional`: such a decimal as text, without an exponent.
-/

namespace XmlTemplate.Decimal

/-- The numbers `n / unit` with `low ≤ n ≤ high`, the ends included if `closed`. The double
itself is `value / unit`. -/
structure Interval where
  unit : Nat
  low : Nat
  value : Nat
  high : Nat
  closed : Bool

namespace Interval

/-- The numbers that round to the positive double `m · 2^q`. Its neighbour below is half as far
away if `m` is a power of two at the start of a binade. A tie rounds to an even significand. -/
def ofParts (m : Nat) (q : Int) : Interval :=
  let scale := Nat.pow 2 (q - 2).toNat
  let below := if m = hiddenBit ∧ -1074 < q then 1 else 2
  ⟨Nat.pow 2 (2 - q).toNat, (4 * m - below) * scale, 4 * m * scale, (4 * m + 2) * scale, m % 2 == 0⟩

/-- The same numbers measured in multiples of `10^k`. -/
def onGrid (i : Interval) (k : Int) : Interval :=
  let scale := Nat.pow 10 (-k).toNat
  ⟨i.unit * Nat.pow 10 k.toNat, i.low * scale, i.value * scale, i.high * scale, i.closed⟩

/-- Whether the whole number `n` lies in the interval. -/
def mem (i : Interval) (n : Nat) : Bool :=
  if i.closed then i.low ≤ n * i.unit && n * i.unit ≤ i.high
  else i.low < n * i.unit && n * i.unit < i.high

/-- The whole number of the interval that is nearest to its value; of two equally near ones the
greater. -/
def nearest? (i : Interval) : Option Nat :=
  let below := i.value / i.unit
  match i.mem below, i.mem (below + 1) with
  | true, true => some (if (2 * below + 1) * i.unit ≤ 2 * i.value then below + 1 else below)
  | true, false => some below
  | false, true => some (below + 1)
  | false, false => none

end Interval

/-- A power of ten above the positive double `m · 2^q`. -/
def powerAbove (m : Nat) (q : Int) : Int :=
  Int.fdiv (((m.log2 : Int) + q + 1) * 30103) 100000 + 1

/-- The digits and the power of ten of the shortest decimal of the positive double `m · 2^q`.
Seventeen digits always suffice, so the twenty grids below `powerAbove` are enough. -/
def shortest (m : Nat) (q : Int) : Nat × Int :=
  let top := powerAbove m q
  let found := (List.range 20).findSome? fun (i : Nat) =>
    let k := top - i
    (((Interval.ofParts m q).onGrid k).nearest?).map fun n => (n, k)
  found.getD (m, q)

/-- The number `n · 10^k` written out, without an exponent. -/
def positional (n : Nat) (k : Int) : List Char :=
  let digits := Nat.toDigits 10 n
  if 0 ≤ k then digits ++ List.replicate k.toNat '0'
  else
    let places := (-k).toNat
    if places < digits.length then
      digits.take (digits.length - places) ++ '.' :: digits.drop (digits.length - places)
    else '0' :: '.' :: List.replicate (places - digits.length) '0' ++ digits

/-- The shortest decimal of a finite double, written out. -/
def ofFinite (d : Float) : List Char :=
  let p := parts d
  let sign := if p.negative then ['-'] else []
  if p.significand = 0 then sign ++ ['0']
  else
    let (n, k) := shortest p.significand p.exponent
    sign ++ positional n k

end XmlTemplate.Decimal
