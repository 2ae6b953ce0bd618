import XmlTemplate.Expansion.Expand

/-!
# Loops

A loop expands its body several times, each time in a frame of its own, and joins the results.
Here a loop is given its steps as computations.

* `countLoop`: as often as a number says.
* `eachLoop`: once for each of several values.
* `forLoop`: as long as a test holds, but not more often than a limit.
-/

namespace XmlTemplate.Expansion

open Markup

/-- Expands `body` for the numbers from `index` on, `left` of them, with `name` bound to each. -/
def countLoop (name : String) (body : Expand (List Node)) :
    (left index : Nat) → (before : List Node) → Expand (List Node)
  | 0, _, before => return before.reverse
  | left + 1, index, before => do
    let nodes ← Expand.call do
      Expand.define name (.text (toString index))
      body
    countLoop name body left (index + 1) (pushNodes before nodes)

/-- What the variable of a loop is bound to for a value: the children of an element, or the text
of any other value. -/
def itemSymbol : Expr.Value → Symbol
  | .node (.element _ children) => .nodes children
  | other => .text other.text

/-- Expands `body` for each of several values, with `name` bound to it. -/
def eachLoop (name : String) (body : Expand (List Node)) :
    Expr.Sequence → (before : List Node) → Expand (List Node)
  | [], before => return before.reverse
  | value :: rest, before => do
    let nodes ← Expand.call do
      Expand.define name (itemSymbol value)
      body
    eachLoop name body rest (pushNodes before nodes)

/-- One iteration of a `for` loop in the frame that has been opened for it. The step sees what
the body has bound. There is no result if the test fails; a test that holds when no iteration is
left ends the expansion. -/
def forIteration (limit : Nat) (mayRun : Bool) (test : Expand Bool) (body : Expand (List Node))
    (step : Expand Int64) : Expand (Option (List Node × Int64)) := do
  if ← test then
    if mayRun then
      let nodes ← body
      let next ← step
      return some (nodes, next)
    else Expand.fail (.iterationLimit limit)
  else return none

/-- Repeats iterations, each of which is given the counter and whether its body may run, and
gives the nodes of the body and the next value of the counter. -/
def forLoop (iteration : Bool → Int64 → Expand (Option (List Node × Int64))) :
    (left : Nat) → (current : Int64) → (before : List Node) → Expand (List Node)
  | 0, current, before => do
    match ← iteration false current with
    | some (nodes, _) => return (pushNodes before nodes).reverse
    | none => return before.reverse
  | left + 1, current, before => do
    match ← iteration true current with
    | some (nodes, next) => forLoop iteration left next (pushNodes before nodes)
    | none => return before.reverse

end XmlTemplate.Expansion
