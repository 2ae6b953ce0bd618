import XmlTemplate.Expr.Number
import XmlTemplate.Markup.Node

/-!
# Values of expressions

An expression has a sequence of values: truth values, numbers, texts and nodes.

* `Value.text`, `Value.toFloat`, `Value.number`: a value as text and as a number.
* `Sequence.truth`: the truth of a sequence, where it has one.
* `Sequence.single`: the item of a sequence that has at most one.
* `Sequence.compare`: two sequences compare if any two of their items do.
-/

namespace XmlTemplate.Expr

/-- One item of a sequence. -/
inductive Value where
  | boolean (value : Bool)
  | number (value : Number)
  | string (value : String)
  | node (value : Markup.Node)

namespace Value

/-- A value that is an integer. -/
abbrev integer (n : Int64) : Value := .number (.integer n)

/-- A value that is a double. -/
abbrev double (d : Float) : Value := .number (.double d)

/-- The text of a value. -/
def text : Value → String
  | boolean value => if value then "true" else "false"
  | number value => value.text
  | string value => value
  | node value => value.content

/-- The name of the type of a value. -/
def typeName : Value → String
  | boolean _ => "boolean"
  | number (.integer _) => "integer"
  | number (.double _) => "double"
  | string _ => "string"
  | node _ => "node"

/-- Whether a value is a number. -/
def isNumeric : Value → Bool
  | number _ => true
  | _ => false

/-- A node becomes its text; any other value is atomic already. -/
def atomize : Value → Value
  | node value => .string value.content
  | other => other

/-- The double that a value compares as. A text that is not a number compares as none. -/
def toFloat : Value → Float
  | boolean value => if value then 1.0 else 0.0
  | number value => value.toFloat
  | other => ((Number.ofText? other.text).map Number.toFloat).getD (0.0 / 0.0)

/-- The number that arithmetic takes a value for. -/
def toNumber : Value → Except Error Number
  | boolean value => .ok (.integer (if value then 1 else 0))
  | number value => .ok value
  | other =>
    match Number.ofText? other.text with
    | some n => .ok n
    | none => .error (.type (.notNumber other.text))

end Value

/-- The truth of a value on its own. -/
def Value.truth : Value → Bool
  | .boolean value => value
  | .string value => !value.isEmpty
  | .number (.integer n) => n != 0
  | .number (.double d) => d != 0.0 && !d.isNaN
  | .node _ => true

/-! ## Sequences -/

/-- The value of an expression. -/
abbrev Sequence := List Value

namespace Sequence

/-- The texts of all items, one after the other. -/
def text (s : Sequence) : String := String.join (s.map Value.text)

/-- The truth of a sequence. Nothing is false, and what begins with a node is true. -/
def truth : Sequence → Except Error Bool
  | [] => .ok false
  | .node _ :: _ => .ok true
  | [value] => .ok value.truth
  | many => .error (.type (.undefinedTruth many.length))

/-- The item of a sequence, if there is one. More than one is an error of `operation`. -/
def single (operation : String) : Sequence → Except Error (Option Value)
  | [] => .ok none
  | [value] => .ok (some value)
  | many => .error (.type (.tooMany operation many.length))

end Sequence

/-! ## Comparison -/

/-- The order of two doubles, if neither is a NaN. -/
def floatOrder (x y : Float) : Option Ordering :=
  if x < y then some .lt else if x == y then some .eq else if y < x then some .gt else none

/-- The order of two texts, by their characters. -/
def textOrder (x y : String) : Ordering := if x < y then .lt else if x = y then .eq else .gt

/-- The order of two truth values. -/
def boolOrder (x y : Bool) : Ordering := Ord.compare x.toNat y.toNat

/-- The truth value that an atomic value compares as. -/
def comparedTruth : Value → Bool
  | .boolean value => value
  | .string value => !value.isEmpty
  | other => other.toFloat != 0.0

/-- The order of two atomic values under an operator. A number makes both sides numbers, a truth
value makes both truth values. Two texts are equal or not as texts; which one is less depends on
the numbers they write, if both do. -/
def order (op : Comparison) (a b : Value) : Option Ordering :=
  if a.isNumeric || b.isNumeric then floatOrder a.toFloat b.toFloat
  else
    match a, b with
    | .boolean _, _ | _, .boolean _ => some (boolOrder (comparedTruth a) (comparedTruth b))
    | _, _ =>
      if op = .eq ∨ op = .ne then some (textOrder a.text b.text)
      else
        let x := a.toFloat
        let y := b.toFloat
        if x.isNaN || y.isNaN then some (textOrder a.text b.text) else floatOrder x y

/-- Whether an order satisfies an operator. Without an order only inequality holds. -/
def satisfies (op : Comparison) : Option Ordering → Bool
  | none => op == .ne
  | some o =>
    match op with
    | .eq => o == .eq
    | .ne => o != .eq
    | .lt => o == .lt
    | .le => o != .gt
    | .gt => o == .gt
    | .ge => o != .lt

/-- Whether an item of one sequence and an item of the other satisfy an operator. -/
def Sequence.compare (op : Comparison) (left right : Sequence) : Bool :=
  left.any fun a => right.any fun b => satisfies op (order op a.atomize b.atomize)

end XmlTemplate.Expr
