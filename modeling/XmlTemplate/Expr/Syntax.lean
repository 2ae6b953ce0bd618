/-!
# Expressions

The tree of an expression.

* `Expr`: literals, variables, operators, conditionals and calls.
* `Expr.mentions`: every occurrence of a variable, from left to right.
* `Expr.variableNames`: the variables of an expression, each at its first occurrence.
-/

namespace XmlTemplate

namespace Expr

/-- A value written in an expression. -/
inductive Literal where
  | boolean (value : Bool)
  | integer (value : Int64)
  | double (value : Float)
  | string (value : String)

/-- The comparison operators. -/
inductive Comparison where
  | eq | ne | lt | le | gt | ge
deriving DecidableEq, Repr

/-- The arithmetic operators. -/
inductive Arithmetic where
  | add | sub | mul | div | mod
deriving DecidableEq, Repr

/-- The logical operators. -/
inductive Logical where
  | and | or
deriving DecidableEq, Repr

end Expr

/-- An expression. -/
inductive Expr where
  | literal (value : Expr.Literal)
  | var (name : String)
  /-- Several expressions whose values are joined; none for the empty sequence. -/
  | sequence (items : List Expr)
  | cond (condition yes no : Expr)
  | logical (op : Expr.Logical) (left right : Expr)
  | compare (op : Expr.Comparison) (left right : Expr)
  | range (first last : Expr)
  | arith (op : Expr.Arithmetic) (left right : Expr)
  | negate (operand : Expr)
  | call (name : String) (args : List Expr)

namespace Expr

instance : Inhabited Expr := ⟨.sequence []⟩

mutual

/-- The variables of an expression in the order of their occurrences. -/
def mentions : Expr → List String
  | .literal _ => []
  | .var name => [name]
  | .sequence items => mentionsAll items
  | .cond condition yes no => condition.mentions ++ yes.mentions ++ no.mentions
  | .logical _ left right | .compare _ left right | .arith _ left right =>
    left.mentions ++ right.mentions
  | .range first last => first.mentions ++ last.mentions
  | .negate operand => operand.mentions
  | .call _ args => mentionsAll args

/-- The variables of several expressions in the order of their occurrences. -/
def mentionsAll : List Expr → List String
  | [] => []
  | e :: rest => e.mentions ++ mentionsAll rest

end

/-- The variables of an expression without repetition, in the order of their first occurrences. -/
def variableNames (e : Expr) : List String := e.mentions.eraseDups

end Expr

end XmlTemplate
