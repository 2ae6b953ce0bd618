import XmlTemplate.Expansion.Expander

/-!
# Running expansions

Expansion from a given state: how many levels are admitted follows from the depth that the state
has reached.

* `State.initial`: the state before anything is expanded.
* `Expander`: the operations on nodes, texts and expressions.
* `process`: the expansion of a document.
-/

namespace XmlTemplate.Expansion

open Markup

/-- The state before anything is expanded: the symbols of the options are defined, and the
document is open if it has a URI. -/
def State.initial (options : Options) (uri : Option Uri) : State :=
  let environment := options.definitions.foldl (fun env (name, value) => env.defineText name value)
    (Environment.ofCapacity options.cacheSize)
  ⟨match uri with
    | some u => environment.pushInclude u
    | none => environment, 0⟩

namespace Expander

variable (options : Options)

/-- Runs a computation with the expansion of nodes one level deeper than the state. -/
def atLevel {α : Type} (body : Level → Expand α) : Expand α := do
  body (below options (options.maxDepth - (← get).depth))

/-- The expansion of siblings. -/
def expandNodes (ws : Whitespace) (nodes : List Node) : Expand (List Node) :=
  atLevel options fun deeper => Expansion.expandNodes options deeper ws nodes []

/-- The expansion of one node before the siblings that follow it. -/
def expandNode (ws : Whitespace) (node : Node) (following : List Node) : Expand (List Node) :=
  atLevel options fun deeper =>
    Expansion.expandNode options deeper ws node (expandElse options deeper ws following)

/-- What a directive does for an element, whatever the name of the element is. -/
def directive (d : Directive) (ws : Whitespace) (e : Element) (following : List Node) :
    Expand (List Node) :=
  atLevel options fun deeper =>
    runDirective options deeper ws d e.tag e.children
      ⟨fun w => Expansion.expandNodes options deeper w e.children [],
        expandElse options deeper ws following,
        elementParts options deeper ws e.children [] []⟩

/-- What an element that is named for a symbol stands for, whatever its namespace is. -/
def invoke (ws : Whitespace) (e : Element) : Expand (List Node) :=
  atLevel options fun deeper => Expansion.invoke options deeper ws e.tag e.children

/-- The expansion of a text. -/
def interpolate (ws : Whitespace) (text : String) : Expand (List Node) :=
  atLevel options fun deeper => Expansion.interpolate options deeper ws text

/-- The expansion of a text as a text. -/
def interpolateText (text : String) : Expand String :=
  atLevel options fun deeper => Expansion.interpolateText options deeper text

/-- The expansion of a symbol. -/
def evalSymbol (ws : Whitespace) (name : String) : Expand (List Node) :=
  atLevel options fun deeper => Expansion.evalSymbol options deeper ws name

/-- The value of an expression. -/
def evalExpr (ws : Whitespace) (source : String) : Expand Expr.Sequence :=
  atLevel options fun deeper => Expansion.evalExpr options deeper ws source

/-- The value of an expression as nodes. -/
def evalNodes (ws : Whitespace) (source : String) : Expand (List Node) :=
  atLevel options fun deeper => Expansion.evalNodes options deeper ws source

/-- The value of an expression as text. -/
def evalText (ws : Whitespace) (source : String) : Expand String :=
  atLevel options fun deeper => Expansion.evalText options deeper ws source

/-- The truth of the value of an expression. -/
def evalTruth (ws : Whitespace) (source : String) : Expand Bool :=
  atLevel options fun deeper => Expansion.evalTruth options deeper ws source

/-- The integer that the value of an expression writes. -/
def evalInteger (ws : Whitespace) (source : String) : Expand Int64 :=
  atLevel options fun deeper => Expansion.evalInteger options deeper ws source

/-- The expansion of the top-level nodes of a document after those in `before`, which are in
reverse order. Declarations and doctypes are kept as they are. -/
def expandTop (ws : Whitespace) : List Node → (before : List Node) → Expand (List Node)
  | [], before => return before.reverse
  | node :: rest, before => do
    match node with
    | .declaration _ | .doctype _ => expandTop ws rest (node :: before)
    | _ =>
      let nodes ← expandNode options ws node rest
      expandTop ws rest (pushNodes before nodes)

/-- The expansion of the nodes of a document. -/
def expandDocument (ws : Whitespace) (d : Document) : Expand (List Node) :=
  expandTop options ws d.children []

end Expander

/-- The expansion of a document. -/
def process (options : Options) (d : Document) : Except Error Document :=
  let expansion := Expander.expandDocument options options.whitespace d
  (expansion.run (State.initial options d.uri)).1.map fun children => ⟨d.uri, children⟩

/-- The expansion of the document that a text holds. References to other documents are resolved
against `base`. -/
def processText (options : Options) (text : String) (base : Option Uri) : Except Error Document :=
  match Document.parse text base with
  | .ok d => process options d
  | .error e => .error (.ofCause (.parse e))

end XmlTemplate.Expansion
