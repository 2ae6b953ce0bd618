import XmlTemplate.Decimal.Reading
import XmlTemplate.Decimal.Shortest
import XmlTemplate.Expr.Error
import XmlTemplate.Expr.Syntax
import XmlTemplate.Text.Blank

/-!
# Numbers of expressions

A number is an integer of 64 bits or a double.

* `Number.ofText?`: the number that a text writes.
* `Number.text`: the text of a number. A double that stands for an integer below 10^15 is written
  like one, any other with the fewest digits that are read back as it.
* `Number.arith`: arithmetic is exact on integers as long as the result is one, and falls back to
  doubles otherwise.
-/

namespace XmlTemplate.Expr

/-- An integer of 64 bits or a double. -/
inductive Number where
  | integer (value : Int64)
  | double (value : Float)

namespace Number

/-- The nearest double. -/
def toFloat : Number → Float
  | integer value => Float.ofInt value.toInt
  | double value => value

/-! ## Text -/

/-- Characters that the text of a double can hold. -/
def isDoubleChar (c : Char) : Bool := c.isDigit || c ∈ ['.', '-', '+', 'e', 'E']

/-- The number that a text writes, white space around it aside. -/
def ofText? (s : String) : Option Number :=
  let s := Text.trim s.toList
  match Decimal.readSigned? s with
  | some n => some (.integer n)
  | none =>
    if s.all isDoubleChar then (Decimal.Literal.ofText? s).map fun n => .double n.toFloat else none

/-- The bound below which whole doubles are written like integers. -/
def wholeBound : Nat := 1000000000000000

/-- The text of a double. -/
def doubleText (d : Float) : String :=
  if d.isNaN then "NaN"
  else if d.isInf then (if 0.0 < d then "INF" else "-INF")
  else
    match (Decimal.integer? d).filter (·.natAbs < wholeBound) with
    | some n => String.ofList (Decimal.ofInt n)
    | none => String.ofList (Decimal.ofFinite d)

/-- The text of an integer. -/
def integerText (n : Int64) : String := String.ofList (Decimal.ofInt n.toInt)

/-- The text of a number. -/
def text : Number → String
  | integer value => integerText value
  | double value => doubleText value

/-! ## Arithmetic -/

/-- The exact result of an operation on integers, where it is an integer of 64 bits. Division by
minus one of the least integer has none, and neither has its remainder. -/
def integral? (op : Arithmetic) (l r : Int64) : Option Int64 :=
  let a := l.toInt
  let b := r.toInt
  let overflows := l == Int64.minValue && b == -1
  match op with
  | .add => Decimal.word? (a + b)
  | .sub => Decimal.word? (a - b)
  | .mul => Decimal.word? (a * b)
  | .div => if overflows || a.tmod b != 0 then none else Decimal.word? (a.tdiv b)
  | .mod => if overflows then none else Decimal.word? (a.tmod b)

/-- The result of an operation on doubles. -/
def inexact (op : Arithmetic) (l r : Float) : Float :=
  match op with
  | .add => l + r
  | .sub => l - r
  | .mul => l * r
  | .div => l / r
  | .mod => Decimal.remainder l r

/-- The result of an operation. Integers cannot be divided by zero. -/
def arith (op : Arithmetic) (l r : Number) : Except Error Number :=
  match l, r with
  | .integer a, .integer b =>
    if (op = .div ∨ op = .mod) ∧ b = 0 then .error .divisionByZero
    else match integral? op a b with
      | some n => .ok (.integer n)
      | none => .ok (.double (inexact op l.toFloat r.toFloat))
  | _, _ => .ok (.double (inexact op l.toFloat r.toFloat))

/-- The number with the opposite sign. -/
def negate : Number → Number
  | .integer n =>
    match Decimal.word? (-n.toInt) with
    | some m => .integer m
    | none => .double (-(Float.ofInt n.toInt))
  | .double d => .double (-d)

/-- The number without its sign. -/
def abs : Number → Number
  | .integer n =>
    match Decimal.word? n.toInt.natAbs with
    | some m => .integer m
    | none => .double (Float.ofInt n.toInt.natAbs)
  | .double d => .double d.abs

end Number

end XmlTemplate.Expr
