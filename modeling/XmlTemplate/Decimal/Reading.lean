import XmlTemplate.Decimal.Integer

/-!
# Reading decimal fractions

Decimal numbers with an optional sign, fraction and exponent, rounded to the nearest double.

* `Literal`: a decimal as it is written.
* `Literal.ofText?`: the grammar. Digits must stand before or after the point, and after an
  exponent mark.
* `Literal.toFloat`: the nearest double, of two equally near ones the even.
-/

namespace XmlTemplate.Decimal

/-- The number `digits · 10^exponent`, with a sign that also a zero has. -/
structure Literal where
  negative : Bool
  digits : Nat
  exponent : Int
deriving DecidableEq, Repr

namespace Literal

/-- An ASCII digit. -/
def isDigit (c : Char) : Bool := '0' ≤ c && c ≤ '9'

/-- The exponent that the rest of a number writes: nothing, or a mark, a sign and digits. -/
def exponentOf? : List Char → Option Int
  | [] => some 0
  | mark :: r =>
    if mark == 'e' || mark == 'E' then
      match r with
      | '-' :: ds => (ofDigits? 10 ds).map fun n => -(n : Int)
      | '+' :: ds => (ofDigits? 10 ds).map fun n => (n : Int)
      | _ => (ofDigits? 10 r).map fun n => (n : Int)
    else none

/-- The number written without a sign. -/
def unsignedOf? (negative : Bool) (s : List Char) : Option Literal :=
  let whole := s.takeWhile isDigit
  let (fraction, r) := match s.dropWhile isDigit with
    | '.' :: r => (r.takeWhile isDigit, r.dropWhile isDigit)
    | r => ([], r)
  (ofDigits? 10 (whole ++ fraction)).bind fun digits =>
    (exponentOf? r).map fun e => ⟨negative, digits, e - fraction.length⟩

/-- The number that a text writes. -/
def ofText? : List Char → Option Literal
  | '-' :: r => unsignedOf? true r
  | '+' :: r => unsignedOf? false r
  | s => unsignedOf? false s

/-- The nearest double. Numbers of more than 310 digits before the point are beyond the largest
double, numbers with 330 zeros after it below half of the smallest. -/
def toFloat (l : Literal) : Float :=
  let length : Int := (Nat.toDigits 10 l.digits).length
  let magnitude : Float :=
    if l.digits = 0 || l.exponent + length < -330 then 0.0
    else if 310 < l.exponent + length then 1.0 / 0.0
    else Float.ofScientific l.digits (l.exponent < 0) l.exponent.natAbs
  if l.negative then -magnitude else magnitude

end Literal

end XmlTemplate.Decimal
