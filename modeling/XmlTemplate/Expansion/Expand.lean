import XmlTemplate.Environment
import XmlTemplate.Expansion.Options
import XmlTemplate.Interpolation
import XmlTemplate.Uri.Reference

/-!
# The steps of an expansion

An expansion is a computation that may fail and that keeps its state when it does. Frames,
documents and levels are opened and closed in pairs, whether what stands between succeeds or not.

* `State`: the environment and the current level of nesting.
* `Expand`: the computations. `within` is the one way to open something and close it again.
* `Level`: the expansion of nodes one level deeper. What follows is built on it: references to
  symbols, expressions, and included documents.
-/

namespace XmlTemplate.Expansion

open Markup Interpolation

/-- The environment, and how many expansions are nested around the current one. -/
structure State where
  environment : Environment
  depth : Nat
deriving Inhabited

/-- A computation on the state. The state after a failure is kept. -/
abbrev Expand (α : Type) := ExceptT Error (StateM State) α

namespace Expand

/-- Fails with a cause. -/
def fail {α : Type} (cause : Cause) : Expand α := throw (.ofCause cause)

/-- Succeeds or fails with a cause, without looking at the state. -/
def ofExcept {α : Type} : Except Cause α → Expand α
  | .ok a => pure a
  | .error cause => fail cause

/-- The current environment. -/
def environment : Expand Environment := do return (← get).environment

/-- Binds a name in the innermost frame. -/
def define (name : String) (value : Symbol) : Expand Unit :=
  modify fun s => { s with environment := s.environment.define name value }

/-- Runs a computation between two changes of the state. The second one is made in any case. -/
def within {α : Type} (enter leave : State → State) (body : Expand α) : Expand α :=
  ExceptT.mk fun s =>
    let (result, t) := body.run (enter s)
    (result, leave t)

/-- Opens a frame for the time of a computation. -/
def call {α : Type} : Expand α → Expand α :=
  within
    (fun s => { s with environment := { s.environment with frames := s.environment.frames.push } })
    (fun s => { s with environment := { s.environment with frames := s.environment.frames.pop } })

/-- Opens a document for the time of a computation. -/
def opening {α : Type} (uri : Uri) : Expand α → Expand α :=
  within
    (fun s => { s with environment := s.environment.pushInclude uri })
    (fun s => { s with environment := s.environment.popInclude })

/-- Runs a computation one level deeper, if the limit admits one more. -/
def descend {α : Type} (limit : Nat) (body : Expand α) : Expand α := do
  if limit ≤ (← get).depth then fail (.recursionLimit limit)
  else
    within (fun s => { s with depth := s.depth + 1 })
      (fun s => { s with depth := s.depth - 1 }) body

/-- Gives the error of a computation the place of a tag, unless it has one. A tag that was not
read from a document counts for the document that is open. -/
def locate {α : Type} (tag : Tag) (body : Expand α) : Expand α :=
  ExceptT.mk fun s =>
    match body.run s with
    | (.error e, t) =>
      let document := tag.document <|> t.environment.currentDocument?
      (.error (e.locate ⟨tag.name.qualified, document, tag.position⟩), t)
    | (.ok a, t) => (.ok a, t)

/-- The expression that a text holds. -/
def expression (source : String) : Expand Expression := do
  let s ← get
  let (result, environment) := s.environment.expression source
  set { s with environment := environment }
  match result with
  | .ok e => return e
  | .error e => fail (.ofExpr source e)

end Expand

/-- The expansion of siblings, and of one node before the siblings that follow it. -/
structure Level where
  siblings : Whitespace → List Node → Expand (List Node)
  first : Whitespace → Node → (following : List Node) → Expand (List Node)

/-- Siblings in reverse order with further ones after them. -/
def pushNodes (nodes more : List Node) : List Node := more.foldl pushNode nodes

section Steps

variable (options : Options) (deeper : Level)

/-! ## Symbols -/

/-- The expansion of a symbol in the current scope. -/
def evalSymbol (ws : Whitespace) (name : String) : Expand (List Node) := do
  match (← Expand.environment).lookup name with
  | none => Expand.fail (.undefinedSymbol name)
  | some (.text value) => return if value.isEmpty then [] else [.text value]
  | some (.nodes nodes) => Expand.descend options.maxDepth (deeper.siblings ws nodes)

/-- The nodes of segments after those in `before`, which are in reverse order. -/
def interpolateFrom (ws : Whitespace) (before : List Node) : List Segment → Expand (List Node)
  | [] => return before.reverse
  | .literal text :: rest => interpolateFrom ws (pushNode before (.text text)) rest
  | .symbol name :: rest => do
    let nodes ← evalSymbol options deeper ws name
    interpolateFrom ws (pushNodes before nodes) rest

/-- A text with the symbols that it refers to in their places. -/
def interpolate (ws : Whitespace) (text : String) : Expand (List Node) :=
  interpolateFrom options deeper ws [] (segments text)

/-- The same as a text. White space is preserved. -/
def interpolateText (text : String) : Expand String :=
  if text.toList.any isBrace then do
    return Node.contentAll (← interpolate options deeper .preserve text)
  else return text

/-! ## Expressions -/

/-- The values of symbols as variables, in front of those before them. Names that are not bound
are left out. -/
def bindVariables (ws : Whitespace) (before : Expr.Bindings) : List String → Expand Expr.Bindings
  | [] => return before
  | name :: rest => do
    match (← Expand.environment).lookup name with
    | none => bindVariables ws before rest
    | some (.text value) => bindVariables ws ((name, [.string value]) :: before) rest
    | some (.nodes _) =>
      let nodes ← evalSymbol options deeper ws name
      bindVariables ws ((name, nodes.map .node) :: before) rest

/-- The value of an expression whose variables are symbols. -/
def evalExpr (ws : Whitespace) (source : String) : Expand Expr.Sequence := do
  let e ← Expand.expression source
  let vars ← bindVariables options deeper ws [] e.variableNames
  Expand.ofExcept ((e.evaluate vars).mapError (.ofExpr source))

/-- A value as a node: a node as it is, any other value as text. -/
def nodeOf : Expr.Value → Node
  | .node node => node
  | other => .text other.text

/-- The value of an expression as nodes. -/
def evalNodes (ws : Whitespace) (source : String) : Expand (List Node) := do
  return (← evalExpr options deeper ws source).map nodeOf

/-- The value of an expression as text. -/
def evalText (ws : Whitespace) (source : String) : Expand String := do
  return Expr.Sequence.text (← evalExpr options deeper ws source)

/-- The truth of the value of an expression. -/
def evalTruth (ws : Whitespace) (source : String) : Expand Bool := do
  let value ← evalExpr options deeper ws source
  Expand.ofExcept ((Expr.Sequence.truth value).mapError (.ofExpr source))

/-- The integer that the text of the value of an expression writes. -/
def evalInteger (ws : Whitespace) (source : String) : Expand Int64 := do
  let text ← evalText options deeper ws source
  match Decimal.readSigned? (Text.trim text.toList) with
  | some n => return n
  | none => Expand.fail (.invalidExpression source (.notInteger text))

/-! ## Included documents -/

/-- The URI of a document that is included. -/
def resolve (href : String) : Expand Uri := do
  match Uri.resolve (← Expand.environment).currentDocument? href with
  | .ok uri => return uri
  | .error e => Expand.fail (.includeNotFound href (.invalidUri href e))

/-- Loads the document that a reference names and runs a computation while it is open. -/
def withInclude {α : Type} (href : String) (body : Document → Expand α) : Expand α := do
  let uri ← resolve href
  if (← Expand.environment).isOpen uri then Expand.fail (.includeCycle uri)
  else
    match options.loader uri with
    | .error (.malformed _ e) => Expand.fail (.parse e)
    | .error e => Expand.fail (.includeNotFound href e)
    | .ok document => Expand.descend options.maxDepth (Expand.opening uri (body document))

end Steps

end XmlTemplate.Expansion
