import XmlTemplate.Expr.Builtin
import XmlTemplate.Expr.Grammar

/-!
# Evaluating expressions

* `Expr.eval`: the value of an expression, given the values of its variables.
* `Expression`: an expression with the text that it was read from.
-/

namespace XmlTemplate

namespace Expr

/-- The values of variables; the first one for a name counts. -/
abbrev Bindings := List (String × Sequence)

/-- An arithmetic operator on two sequences. If either is empty, so is the result. -/
def arithmetic (op : Arithmetic) (left right : Sequence) : Except Error Sequence := do
  let l ← Sequence.single "arithmetic" left
  let r ← Sequence.single "arithmetic" right
  match l, r with
  | some l, some r =>
    let a ← l.toNumber
    let b ← r.toNumber
    return [.number (← Number.arith op a b)]
  | _, _ => return []

/-- The minus sign on a sequence. -/
def negation (s : Sequence) : Except Error Sequence := do
  match ← Sequence.single "negation" s with
  | some value => return [.number (← value.toNumber).negate]
  | none => return []

/-- The bound of a range, none for the empty sequence. -/
def bound (s : Sequence) : Except Error (Option Int64) := do
  match ← Sequence.single "range" s with
  | none => return none
  | some value =>
    match ← value.toNumber with
    | .integer n => return some n
    | .double d => throw (.type (.rangeBound (Number.doubleText d)))

/-- The integers from one bound to another. -/
def rangeOf (first last : Int64) : Except Error Sequence :=
  let a := first.toInt
  let length := last.toInt - a
  if (maxRange : Int) ≤ length then .error (.type (.rangeLength a last.toInt))
  else .ok ((List.range (length + 1).toNat).map fun (i : Nat) => .integer (Int64.ofInt (a + i)))

/-- The value of a literal. -/
def Literal.value : Literal → Value
  | .boolean value => .boolean value
  | .integer value => .integer value
  | .double value => .double value
  | .string value => .string value

mutual

/-- The value of an expression. Logical operators do not look at their right operand if the left
one decides, and a conditional looks at one of its branches only. -/
def eval (vars : Bindings) : Expr → Except Error Sequence
  | .literal value => .ok [value.value]
  | .var name =>
    match vars.lookup name with
    | some value => .ok value
    | none => .error (.undefinedVariable name)
  | .sequence items => (evalAll vars items).map List.flatten
  | .cond condition yes no => do
    if ← Sequence.truth (← eval vars condition) then eval vars yes else eval vars no
  | .logical op left right => do
    let l ← Sequence.truth (← eval vars left)
    match op, l with
    | .and, false => return [.boolean false]
    | .or, true => return [.boolean true]
    | _, _ => return [.boolean (← Sequence.truth (← eval vars right))]
  | .compare op left right => do
    let l ← eval vars left
    let r ← eval vars right
    return [.boolean (Sequence.compare op l r)]
  | .range first last => do
    let a ← bound (← eval vars first)
    let b ← bound (← eval vars last)
    match a, b with
    | some a, some b => rangeOf a b
    | _, _ => return []
  | .arith op left right => do
    let l ← eval vars left
    let r ← eval vars right
    arithmetic op l r
  | .negate inner => do negation (← eval vars inner)
  | .call name args => do callFunction name (← evalAll vars args)

/-- The values of several expressions, from left to right. -/
def evalAll (vars : Bindings) : List Expr → Except Error (List Sequence)
  | [] => .ok []
  | e :: rest => do
    let first ← eval vars e
    return first :: (← evalAll vars rest)

end

end Expr

/-- An expression and the text that it was read from. -/
structure Expression where
  source : String
  tree : Expr
deriving Inhabited

namespace Expression

/-- The expression that a text holds. -/
def parse (source : String) : Except Expr.Error Expression :=
  match Expr.parse? source.toList with
  | some tree => .ok ⟨source, tree⟩
  | none => .error .malformed

/-- The variables of an expression, in the order of their first occurrences. -/
def variableNames (e : Expression) : List String := e.tree.variableNames

/-- The value of an expression. -/
def evaluate (e : Expression) (vars : Expr.Bindings) : Except Expr.Error Expr.Sequence :=
  e.tree.eval vars

/-- The truth of the value of an expression. -/
def evaluateTruth (e : Expression) (vars : Expr.Bindings) : Except Expr.Error Bool := do
  Expr.Sequence.truth (← e.evaluate vars)

/-- The text of the value of an expression. -/
def evaluateText (e : Expression) (vars : Expr.Bindings) : Except Expr.Error String :=
  (e.evaluate vars).map Expr.Sequence.text

end Expression

end XmlTemplate
