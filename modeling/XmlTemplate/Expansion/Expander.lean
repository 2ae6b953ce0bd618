import XmlTemplate.Expansion.Attributes
import XmlTemplate.Expansion.Directive
import XmlTemplate.Expansion.Loop

/-!
# Expanding nodes

Elements of the directive namespace are replaced by what they stand for; all other nodes are
copied, with the symbols that their text refers to expanded.

The expansion of a node follows its syntax as long as it stays on one level of nesting. Whatever
brings in new syntax (the content of an element, a symbol, a computed value, an included document)
goes one level deeper, and the number of levels is bounded.

* `runDirective`: what each directive does.
* `expandNode`, `expandNodes`, `expandElse`, `elementParts`: expansion on one level.
* `below`: the expansion of nodes when so many further levels are admitted.
-/

namespace XmlTemplate.Expansion

open Markup

/-- What a directive can expand without going deeper: the children of its element, the branch
that follows it, and the attributes and children of an element that it builds. -/
structure Parts where
  children : Whitespace → Expand (List Node)
  otherwise : Expand (List Node)
  element : Expand (List Attribute × List Node)

section OneLevel

variable (options : Options) (deeper : Level)

/-- Whether an element is a given one of the directive namespace. -/
def isDirective (tag : Tag) (localName : String) : Bool := tag.name.isNamed options.space localName

/-! ## Copies and symbols -/

/-- The attributes of a copy. Declarations of the directive namespace are dropped, other
declarations are kept as they are. -/
def copyAttributes : List Attribute → Expand (List Attribute)
  | [] => return []
  | a :: rest => do
    if a.isDeclaration then
      if a.value == options.space then copyAttributes rest
      else return a :: (← copyAttributes rest)
    else
      let value ← interpolateText options deeper a.value
      return { a with value := value } :: (← copyAttributes rest)

/-- A copy of an element that is not a directive. -/
def copyElement (ws : Whitespace) (tag : Tag) (children : List Node) : Expand (List Node) := do
  let attributes ← copyAttributes options deeper tag.attributes
  let content ← Expand.descend options.maxDepth (deeper.siblings ws children)
  return [.element { tag with attributes := attributes } content]

/-- Binds a name to the children of an element, or each attribute name to the attribute's value. -/
def defineSymbols (tag : Tag) (children : List Node) : Expand Unit := do
  match tag.attribute? "name" with
  | some name => Expand.define name (.nodes children)
  | none => defineAll (← symbolArguments options deeper tag)

/-- Carries out the definitions among the children of an invocation. -/
def defineChildren : List Node → Expand Unit
  | [] => return
  | .element tag children :: rest => do
    if isDirective options tag "define" then defineSymbols options deeper tag children
    defineChildren rest
  | _ :: rest => defineChildren rest

/-- The symbol that an element is named for, with the attributes and the definitions of the
element bound for the time of its expansion. -/
def invoke (ws : Whitespace) (tag : Tag) (children : List Node) : Expand (List Node) := do
  let name := tag.name.localName
  if (← Expand.environment).isDefined name then
    let arguments ← symbolArguments options deeper tag
    Expand.call do
      defineAll arguments
      defineChildren options deeper children
      evalSymbol options deeper ws name
  else Expand.fail (.undefinedSymbol name)

/-! ## Directives -/

/-- A conditional: its children, or the branch that follows it. -/
def branch (ws : Whitespace) (parts : Parts) (condition : Bool) : Expand (List Node) :=
  if condition then parts.children ws else parts.otherwise

/-- The number of times that a `count` loop runs. -/
def loopCount (tag : Tag) : Expand Nat := do
  let text ← expandedValue options deeper tag "max"
  match Decimal.readUnsigned? 10 (UInt64.size - 1) (Text.trim text.toList) with
  | some n => return n
  | none => Expand.fail (.invalidExpression text .notCount)

/-- A `for` loop over an integer. -/
def forDirective (ws : Whitespace) (tag : Tag) (parts : Parts) : Expand (List Node) := do
  let value := expandedValue options deeper tag
  let counter := attributeValue tag "counter-name"
  let first ← evalInteger options deeper ws (← value "init-expr")
  forLoop (fun mayRun current => Expand.call do
    Expand.define counter (.text (Expr.Number.integerText current))
    forIteration options.maxIterations mayRun
      (do evalTruth options deeper ws (← value "test-expr"))
      (parts.children ws)
      (do evalInteger options deeper ws (← value "count-expr")))
    options.maxIterations first []

/-- The content of an included document: everything but declarations and doctypes. -/
def includedNodes (d : Document) : List Node :=
  d.children.filter fun
    | .declaration _ | .doctype _ => false
    | _ => true

/-- An element whose name is computed. -/
def elementDirective (tag : Tag) (parts : Parts) : Expand (List Node) := do
  let name ← expandedValue options deeper tag "name"
  let space ← match tag.attribute? "namespace" with
    | some uri => do pure (some (← interpolateText options deeper uri))
    | none => pure none
  let name ← Expand.ofExcept (elementName (Text.trim name.toList) space)
  let (attributes, children) ← parts.element
  return [.element { tag with name := name, attributes := attributes } children]

/-- An attribute of the element that is being built. -/
def attributeDirective (tag : Tag) (parts : Whitespace → Expand (List Node)) :
    Expand Attribute := do
  let _ ← Expand.ofExcept (requireAttributes tag ["name"])
  let name ← expandedValue options deeper tag "name"
  let name ← Expand.ofExcept (attributeName (Text.trim name.toList))
  return ⟨name, Node.contentAll (← parts .preserve)⟩

/-- A processing instruction whose target and data are computed. -/
def instructionDirective (tag : Tag) (parts : Parts) : Expand (List Node) := do
  let name ← expandedValue options deeper tag "name"
  let target ← Expand.ofExcept (instructionTarget (Text.trim name.toList))
  let data := Node.contentAll (← parts.children .preserve)
  if Text.contains ['?', '>'] data.toList then
    Expand.fail (.invalidExpression data .endsInstruction)
  else return [.instruction target data]

/-- The attributes that a directive has to have. -/
def requiredAttributes : Directive → List String
  | .ifTrue | .eval => ["expr"]
  | .ifDefined | .ifUndefined | .element | .instruction => ["name"]
  | .count => ["name", "max"]
  | .loop => ["counter-name", "init-expr", "test-expr", "count-expr"]
  | .each => ["iterator-name", "iterator-expr"]
  | .inclusion => ["href"]
  | _ => []

/-- What a directive does once it is known to have its attributes. -/
def actOn (ws : Whitespace) (d : Directive) (tag : Tag) (children : List Node) (parts : Parts) :
    Expand (List Node) := do
  let value := expandedValue options deeper tag
  match d with
  | .ifTrue => branch ws parts (← evalTruth options deeper ws (← value "expr"))
  | .ifDefined => branch ws parts ((← Expand.environment).isDefined (attributeValue tag "name"))
  | .ifUndefined => branch ws parts (!(← Expand.environment).isDefined (attributeValue tag "name"))
  | .alternative | .ignore => return []
  | .count =>
    let n ← loopCount options deeper tag
    countLoop (attributeValue tag "name") (parts.children ws) n 1 []
  | .loop => forDirective options deeper ws tag parts
  | .each =>
    let items ← evalExpr options deeper ws (← value "iterator-expr")
    eachLoop (attributeValue tag "iterator-name") (parts.children ws) items []
  | .define =>
    defineSymbols options deeper tag children
    return []
  | .eval =>
    let nodes ← evalNodes options deeper ws (← value "expr")
    Expand.descend options.maxDepth (deeper.siblings ws nodes)
  | .scope =>
    let bindings ← symbolArguments options deeper tag
    Expand.call do
      defineAll bindings
      parts.children ws
  | .inclusion =>
    let href := String.ofList (Text.trim (← value "href").toList)
    withInclude options href fun document => deeper.siblings ws (includedNodes document)
  | .template => parts.children ws
  | .element => elementDirective options deeper tag parts
  | .attr => Expand.fail (.misplacedDirective tag.name.qualified)
  | .instruction => instructionDirective options deeper tag parts

/-- The expansion of a directive. -/
def runDirective (ws : Whitespace) (d : Directive) (tag : Tag) (children : List Node)
    (parts : Parts) : Expand (List Node) := do
  let _ ← Expand.ofExcept (requireAttributes tag (requiredAttributes d))
  actOn options deeper ws d tag children parts

/-! ## Nodes -/

/-- The expansion of an element. -/
def expandElement (ws : Whitespace) (tag : Tag) (children : List Node) (parts : Parts) :
    Expand (List Node) :=
  if tag.name.isIn options.space then
    match Directive.ofName? tag.name.localName with
    | some d => runDirective options deeper ws d tag children parts
    | none => invoke options deeper ws tag children
  else copyElement options deeper ws tag children

/-- The expansion of a node that is not an element. -/
def expandLeaf (ws : Whitespace) (node : Node) : Expand (List Node) :=
  match node with
  | .text value =>
    if ws = .collapse ∧ Text.allBlank value.toList then return []
    else interpolate options deeper ws value
  | .declaration _ => Expand.fail (.unhandledNode node.kind)
  | _ => return [node]

/-- Whether a node may stand between a conditional and its `else`. -/
def isBetween (node : Node) : Bool := node.isBlankText || node.kind == .comment

/-- The attributes of an element with one more, which must not have the name of another. -/
def addAttribute (attributes : List Attribute) (a : Attribute) : Except Cause (List Attribute) :=
  if attributes.any (·.name == a.name) then
    .error (.invalidExpression a.name.qualified .repeatedAttribute)
  else .ok (attributes ++ [a])

mutual

/-- The expansion of a node. `otherwise` is the expansion of the `else` that follows it. -/
def expandNode (ws : Whitespace) : Node → (otherwise : Expand (List Node)) → Expand (List Node)
  | .element tag children, otherwise =>
    Expand.locate tag (expandElement options deeper ws tag children
      ⟨fun w => expandNodes w children [], otherwise, elementParts ws children [] []⟩)
  | .text value, _ => expandLeaf options deeper ws (.text value)
  | .cdata value, _ => expandLeaf options deeper ws (.cdata value)
  | .comment value, _ => expandLeaf options deeper ws (.comment value)
  | .instruction target data, _ => expandLeaf options deeper ws (.instruction target data)
  | .doctype value, _ => expandLeaf options deeper ws (.doctype value)
  | .reference name, _ => expandLeaf options deeper ws (.reference name)
  | .declaration value, _ => expandLeaf options deeper ws (.declaration value)

/-- The expansion of siblings after those in `before`, which are in reverse order. -/
def expandNodes (ws : Whitespace) : List Node → (before : List Node) → Expand (List Node)
  | [], before => return before.reverse
  | node :: rest, before => do
    let nodes ← expandNode ws node (expandElse ws rest)
    expandNodes ws rest (pushNodes before nodes)

/-- The expansion of the `else` that siblings begin with, blank text and comments aside; nothing if
they begin with anything else. -/
def expandElse (ws : Whitespace) : List Node → Expand (List Node)
  | [] => return []
  | .element tag children :: _ =>
    if isDirective options tag "else" then expandNodes ws children [] else return []
  | node :: rest => if isBetween node then expandElse ws rest else return []

/-- The attributes and the content of an element that is built from the given children. -/
def elementParts (ws : Whitespace) : List Node → (attributes : List Attribute) →
    (before : List Node) → Expand (List Attribute × List Node)
  | [], attributes, before => return (attributes, before.reverse)
  | .element tag children :: rest, attributes, before => do
    if isDirective options tag "attribute" then
      let a ← attributeDirective options deeper tag fun w => expandNodes w children []
      elementParts ws rest (← Expand.ofExcept (addAttribute attributes a)) before
    else
      let nodes ← Expand.descend options.maxDepth (deeper.first ws (.element tag children) rest)
      elementParts ws rest attributes (pushNodes before nodes)
  | node :: rest, attributes, before => do
    let nodes ← Expand.descend options.maxDepth (deeper.first ws node rest)
    elementParts ws rest attributes (pushNodes before nodes)

end

end OneLevel

/-! ## Levels -/

/-- The expansion of nodes when `room` levels are admitted below it. Where none is, nothing is
ever expanded, because the step to it fails before. -/
def below (options : Options) : (room : Nat) → Level
  | 0 => ⟨fun _ _ => Expand.fail (.recursionLimit options.maxDepth),
      fun _ _ _ => Expand.fail (.recursionLimit options.maxDepth)⟩
  | room + 1 =>
    ⟨fun ws nodes => expandNodes options (below options room) ws nodes [],
      fun ws node following =>
        expandNode options (below options room) ws node
          (expandElse options (below options room) ws following)⟩

end XmlTemplate.Expansion
