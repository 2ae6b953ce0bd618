import XmlTemplate.Expr.Grammar
import XmlTemplate.Expr.Number

/-!
# Printing expressions

The text of an expression, with parentheses only where a part is looser than its place allows.
Variables have a dollar sign, operators a space on either side, and a quotation mark inside a
string is doubled.

* `Precedence`, `Operator`: the table of operators.
* `Style`: which of the two quotation marks each string has.
* `Expr.print`: the text of an expression.
* `Expr.Printable`: expressions that have a text at all.
-/

namespace XmlTemplate.Expr

/-! ## The table -/

/-- The levels of precedence, from the loosest to the tightest. -/
inductive Precedence where
  | sequence | conditional | disjunction | conjunction | comparison | range | sum | product
  | unary | primary
deriving DecidableEq, Repr

namespace Precedence

/-- The place of a level in the table. -/
def rank : Precedence → Nat
  | sequence => 0
  | conditional => 1
  | disjunction => 2
  | conjunction => 3
  | comparison => 4
  | range => 5
  | sum => 6
  | product => 7
  | unary => 8
  | primary => 9

/-- The level one tighter. -/
def next : Precedence → Precedence
  | sequence => conditional
  | conditional => disjunction
  | disjunction => conjunction
  | conjunction => comparison
  | comparison => range
  | range => sum
  | sum => product
  | product => unary
  | unary | primary => primary

/-- Whether operators of a level may follow one another. They are then taken from left to right. -/
def associative : Precedence → Bool
  | disjunction | conjunction | sum | product => true
  | _ => false

end Precedence

/-- The operators between two operands. -/
inductive Operator where
  | logical (op : Logical)
  | compare (op : Comparison)
  | range
  | arith (op : Arithmetic)
deriving DecidableEq, Repr

namespace Operator

/-- The expression that an operator and its operands make. -/
def apply : Operator → Expr → Expr → Expr
  | logical op => .logical op
  | compare op => .compare op
  | range => .range
  | arith op => .arith op

/-- The word or the sign of an operator. -/
def text : Operator → String
  | logical .or => "or"
  | logical .and => "and"
  | compare .eq => "="
  | compare .ne => "!="
  | compare .lt => "<"
  | compare .le => "<="
  | compare .gt => ">"
  | compare .ge => ">="
  | range => "to"
  | arith .add => "+"
  | arith .sub => "-"
  | arith .mul => "*"
  | arith .div => "div"
  | arith .mod => "mod"

/-- The level of an operator. -/
def precedence : Operator → Precedence
  | logical .or => .disjunction
  | logical .and => .conjunction
  | compare _ => .comparison
  | range => .range
  | arith .add | arith .sub => .sum
  | arith .mul | arith .div | arith .mod => .product

/-- The loosest level that the left operand may have. -/
def left (o : Operator) : Precedence :=
  if o.precedence.associative then o.precedence else o.precedence.next

/-- The loosest level that the right operand may have. -/
def right (o : Operator) : Precedence := o.precedence.next

/-- An operator between the texts of its operands. -/
def between (o : Operator) (first second : List Char) : List Char :=
  first ++ ' ' :: (o.text.toList ++ ' ' :: second)

end Operator

/-- The level of an expression. -/
def precedence : Expr → Precedence
  | .literal _ | .var _ | .sequence [] | .call _ _ => .primary
  | .sequence (_ :: _) => .sequence
  | .cond _ _ _ => .conditional
  | .logical op _ _ => (Operator.logical op).precedence
  | .compare op _ _ => (Operator.compare op).precedence
  | .range _ _ => Operator.range.precedence
  | .arith op _ _ => (Operator.arith op).precedence
  | .negate _ => .unary

/-! ## Quotation marks -/

/-- The two kinds of quotation marks. -/
inductive Quotation where
  | single | double
deriving DecidableEq, Repr

/-- The character of a quotation mark. -/
def Quotation.mark : Quotation → Char
  | single => '\''
  | double => '"'

/-- A text in which a character is doubled. -/
def doubled (mark : Char) (s : List Char) : List Char :=
  s.flatMap fun c => if c == mark then [c, c] else [c]

/-- The quotation marks of each string of an expression, by the way to it from the root. -/
abbrev Style := List Nat → Quotation

/-- The quotation marks of the part at an index. -/
def Style.child (style : Style) (i : Nat) : Style := fun way => style (i :: way)

/-- The text of a literal. -/
def Literal.print (q : Quotation) : Literal → List Char
  | .boolean true => "true".toList
  | .boolean false => "false".toList
  | .integer value => (Number.text (.integer value)).toList
  | .double value => (Number.text (.double value)).toList
  | .string value => q.mark :: (doubled q.mark value.toList ++ [q.mark])

/-! ## Expressions -/

/-- The text of a part of level `actual` where none looser than `needed` may stand. -/
def enclosed (needed actual : Precedence) (s : List Char) : List Char :=
  if actual.rank < needed.rank then '(' :: (s ++ [')']) else s

/-- An operator between its operands, given their levels and their texts. -/
def Operator.print (o : Operator) (left right : Precedence) (first second : List Char) :
    List Char :=
  o.between (enclosed o.left left first) (enclosed o.right right second)

/-- A conditional, given the texts of its parts. -/
def choice (condition yes no : List Char) : List Char :=
  "if (".toList ++ (condition ++ (") then ".toList ++ (yes ++ (" else ".toList ++ no))))

/-- Texts with commas between them. -/
def listed (texts : List (List Char)) : List Char := [',', ' '].intercalate texts

mutual

/-- The text of an expression. -/
def print (style : Style) : Expr → List Char
  | .literal value => value.print (style [])
  | .var name => '$' :: name.toList
  | .sequence items => if items.isEmpty then ['(', ')'] else listed (printAll style 0 items)
  | .cond condition yes no =>
    choice (condition.print (style.child 0))
      (enclosed .conditional yes.precedence (yes.print (style.child 1)))
      (enclosed .conditional no.precedence (no.print (style.child 2)))
  | .logical op left right =>
    (Operator.logical op).print left.precedence right.precedence
      (left.print (style.child 0)) (right.print (style.child 1))
  | .compare op left right =>
    (Operator.compare op).print left.precedence right.precedence
      (left.print (style.child 0)) (right.print (style.child 1))
  | .range first last =>
    Operator.range.print first.precedence last.precedence
      (first.print (style.child 0)) (last.print (style.child 1))
  | .arith op left right =>
    (Operator.arith op).print left.precedence right.precedence
      (left.print (style.child 0)) (right.print (style.child 1))
  | .negate operand =>
    '-' :: enclosed .unary operand.precedence (operand.print (style.child 0))
  | .call name args => name.toList ++ '(' :: (listed (printAll style 0 args) ++ [')'])

/-- The texts of the items of a sequence or of the arguments of a function, the first of which has
the index `i`. -/
def printAll (style : Style) (i : Nat) : List Expr → List (List Char)
  | [] => []
  | e :: rest =>
    enclosed .conditional e.precedence (e.print (style.child i)) :: printAll style (i + 1) rest

end

/-! ## Expressions with a text -/

/-- A name, by the classes of its first and its other characters. -/
def isName (first other : Char → Bool) : List Char → Bool
  | c :: r => first c && r.all other
  | [] => false

mutual

/-- An expression that the grammar has a text for: no double, no negative integer, no sequence of
one item, and names that the grammar allows. -/
def Printable : Expr → Prop
  | .literal (.double _) => False
  | .literal (.integer value) => 0 ≤ value
  | .literal (.boolean _) | .literal (.string _) => True
  | .var name => isName Grammar.isNameStart Grammar.isWordChar name.toList = true
  | .sequence items => items.length ≠ 1 ∧ AllPrintable items
  | .cond condition yes no => condition.Printable ∧ yes.Printable ∧ no.Printable
  | .logical _ left right | .compare _ left right | .range left right | .arith _ left right =>
    left.Printable ∧ right.Printable
  | .negate operand => operand.Printable
  | .call name args =>
    (isName Char.isAlpha Grammar.isWordChar name.toList = true ∧ name ∉ Grammar.keywords) ∧
      AllPrintable args

/-- Expressions that all have a text. -/
def AllPrintable : List Expr → Prop
  | [] => True
  | e :: rest => e.Printable ∧ AllPrintable rest

end

end XmlTemplate.Expr
