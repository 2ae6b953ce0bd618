import XmlTemplate.Proofs.Expansion.Operations

/-!
# The recursion of an expansion

An expansion calls itself for parts of its input, and for what the input stands for. Here the calls
are left open: what they do is taken from a level.

* `Call`, `Activation`: what an expansion is called for, and from which state.
* `Level.unfold`: an expansion whose calls are those of a level. `Operation.on`: the same for
  everything that an expander does. `Operation.inside`: what is done before an error gets a place.
* `unfold_eq`: an expansion that goes on with itself is an expansion that calls itself.
* `Activation.measure`: one level deeper, or on the same level with less syntax.
-/

namespace XmlTemplate

namespace Markup.Node

mutual

/-- The number of nodes in a tree. -/
def weight : Node → Nat
  | .element _ children => weightAll children + 1
  | _ => 1

/-- The number of nodes in several trees. -/
def weightAll : List Node → Nat
  | [] => 0
  | node :: rest => node.weight + weightAll rest

end

end Markup.Node

namespace Expansion

open Markup

/-! ## Calls -/

/-- What an expansion is called for: siblings, or one node before the siblings that follow it. -/
inductive Call where
  | siblings (ws : Whitespace) (nodes : List Node)
  | first (ws : Whitespace) (node : Node) (following : List Node)

/-- How a call deals with white space. -/
def Call.whitespace : Call → Whitespace
  | siblings ws _ => ws
  | first ws _ _ => ws

/-- The operation that makes a call. -/
def Call.operation : Call → Operation (List Node)
  | .siblings ws nodes => .expandNodes ws nodes
  | .first ws node following => .expandNode ws node following

/-- How much syntax is handed over. The siblings that follow a node count too, because the branch
of a conditional may be one of them; all siblings together are more than the first of them before
the others. -/
def Call.weight : Call → Nat
  | siblings _ nodes => 2 * Node.weightAll nodes + 1
  | first _ node following => 2 * (node.weight + Node.weightAll following)

/-- A call from a state. -/
structure Activation where
  call : Call
  state : State

/-- One activation is smaller than another if it is deeper, or on the same level with less syntax.
The levels are bounded. -/
def Activation.measure (o : Options) (a : Activation) : Nat ×ₗ Nat :=
  toLex (o.maxDepth - a.state.depth, a.call.weight)

/-- What comes of an activation: nodes or an error, and the state after it. -/
abbrev Answer := Except Error (List Node) × State

instance : Inhabited Level := ⟨⟨fun _ nodes => return nodes, fun _ node _ => return [node]⟩⟩

namespace Level

/-- The computation for a call. -/
def run (l : Level) : Call → Expand (List Node)
  | .siblings ws nodes => l.siblings ws nodes
  | .first ws node following => l.first ws node following

/-- Levels are equal if they do the same for every call. -/
theorem ext_run {l l' : Level} (h : ∀ c, l.run c = l'.run c) : l = l' := by
  obtain ⟨siblings, first⟩ := l
  obtain ⟨siblings', first'⟩ := l'
  have hsiblings : siblings = siblings' := by
    funext ws nodes
    exact h (.siblings ws nodes)
  have hfirst : first = first' := by
    funext ws node following
    exact h (.first ws node following)
  rw [hsiblings, hfirst]

/-- What comes of an activation. -/
def answer (l : Level) (a : Activation) : Answer := (l.run a.call).run a.state

/-- What is nested is left again. -/
def Restores (l : Level) : Prop := ∀ a, (l.answer a).2.depth = a.state.depth

/-! ## One activation -/

variable (o : Options) (l : Level)

/-- Siblings are expanded one after the other. -/
def walk (ws : Whitespace) : List Node → (before : List Node) → Expand (List Node)
  | [], before => return before.reverse
  | node :: rest, before => do
    let nodes ← l.first ws node rest
    walk ws rest (pushNodes before nodes)

/-- The same at the top of a document, where declarations and doctypes are kept. -/
def walkTop (ws : Whitespace) : List Node → (before : List Node) → Expand (List Node)
  | [], before => return before.reverse
  | node :: rest, before => do
    match node with
    | .declaration _ | .doctype _ => walkTop ws rest (node :: before)
    | _ =>
      let nodes ← l.first ws node rest
      walkTop ws rest (pushNodes before nodes)

/-- The branch of a conditional among the siblings that follow it. -/
def alternative (ws : Whitespace) : List Node → Expand (List Node)
  | [] => return []
  | .element tag children :: _ =>
    if isDirective o tag "else" then l.siblings ws children else return []
  | node :: rest => if isBetween node then alternative ws rest else return []

/-- The attributes and the content of an element that is built from the given children. -/
def assemble (ws : Whitespace) : List Node → (attributes : List Attribute) →
    (before : List Node) → Expand (List Attribute × List Node)
  | [], attributes, before => return (attributes, before.reverse)
  | .element tag children :: rest, attributes, before => do
    if isDirective o tag "attribute" then
      let a ← attributeDirective o l tag fun w => l.siblings w children
      assemble ws rest (← Expand.ofExcept (addAttribute attributes a)) before
    else
      let nodes ← Expand.descend o.maxDepth (l.first ws (.element tag children) rest)
      assemble ws rest attributes (pushNodes before nodes)
  | node :: rest, attributes, before => do
    let nodes ← Expand.descend o.maxDepth (l.first ws node rest)
    assemble ws rest attributes (pushNodes before nodes)

/-- What a directive expands without going deeper. -/
def parts (ws : Whitespace) (children following : List Node) : Parts :=
  ⟨fun w => l.siblings w children, l.alternative o ws following, l.assemble o ws children [] []⟩

/-- One activation of an expansion. Whatever it calls, deeper or on the same level, is done
by `l`. -/
def unfold : Level where
  siblings ws nodes := l.walk ws nodes []
  first ws node following :=
    match node with
    | .element tag children =>
      Expand.locate tag (expandElement o l ws tag children (l.parts o ws children following))
    | leaf => expandLeaf o l ws leaf

/-- The expansion on one level, where only what is deeper is done by `l`. -/
def above : Level where
  siblings ws nodes := expandNodes o l ws nodes []
  first ws node following := expandNode o l ws node (expandElse o l ws following)

end Level

/-! ## Calling itself -/

section Fixed

variable {o : Options} {l : Level} (h : l.above o = l)

include h

theorem siblings_eq (ws : Whitespace) (nodes : List Node) :
    l.siblings ws nodes = expandNodes o l ws nodes [] :=
  congrFun (congrFun (congrArg Level.siblings h.symm) ws) nodes

theorem first_eq (ws : Whitespace) (node : Node) (following : List Node) :
    l.first ws node following = expandNode o l ws node (expandElse o l ws following) :=
  congrFun (congrFun (congrFun (congrArg Level.first h.symm) ws) node) following

theorem walk_eq (ws : Whitespace) (nodes before : List Node) :
    l.walk ws nodes before = expandNodes o l ws nodes before := by
  induction nodes generalizing before with
  | nil => rw [Level.walk, expandNodes]
  | cons node rest ih =>
    rw [Level.walk, expandNodes, first_eq h]
    exact bind_congr fun _ => ih _

theorem alternative_eq (ws : Whitespace) (nodes : List Node) :
    l.alternative o ws nodes = expandElse o l ws nodes := by
  induction nodes with
  | nil => rw [Level.alternative, expandElse]
  | cons node rest ih =>
    cases node with
    | element tag children => rw [Level.alternative, expandElse, siblings_eq h]
    | _ => rw [Level.alternative, expandElse, ih] <;> exact fun _ _ e => by cases e

theorem assemble_eq (ws : Whitespace) (nodes : List Node) (attributes : List Attribute)
    (before : List Node) :
    l.assemble o ws nodes attributes before = elementParts o l ws nodes attributes before := by
  induction nodes generalizing attributes before with
  | nil => rw [Level.assemble, elementParts]
  | cons node rest ih =>
    cases node with
    | element tag children =>
      rw [Level.assemble, elementParts]
      split
      · simp only [siblings_eq h]
        exact bind_congr fun _ => bind_congr fun _ => ih _ _
      · exact bind_congr fun _ => ih _ _
    | _ =>
      rw [Level.assemble, elementParts]
      · exact bind_congr fun _ => ih _ _
      all_goals exact fun _ _ e => by cases e

theorem parts_eq (ws : Whitespace) (children following : List Node) :
    l.parts o ws children following =
      ⟨fun w => expandNodes o l w children [], expandElse o l ws following,
        elementParts o l ws children [] []⟩ := by
  rw [Level.parts, alternative_eq h, assemble_eq h]
  simp only [siblings_eq h]

/-- Where an expansion is what it does itself on one level, it is what it does by its calls. -/
theorem unfold_eq : l.unfold o = l := by
  refine .trans (Level.ext_run fun c => ?_) h
  cases c with
  | siblings ws nodes => exact walk_eq h ws nodes []
  | first ws node following =>
    cases node with
    | element tag children =>
      show Expand.locate tag (expandElement o l ws tag children _) = expandNode o l ws _ _
      rw [expandNode, parts_eq h]
    | _ =>
      dsimp only [Level.run, Level.unfold, Level.above]
      rw [expandNode]

end Fixed

/-! ## Operations -/

/-- Everything that an expander does, with its calls done by `l`. -/
def Operation.on (o : Options) (l : Level) {α : Type} : Operation α → Expand α
  | .define name value => Expand.define name value
  | .lookup name => do return (← Expand.environment).lookup name
  | .expandDocument ws d => l.walkTop ws d.children []
  | .expandNodes ws nodes => (l.unfold o).siblings ws nodes
  | .expandNode ws node following => (l.unfold o).first ws node following
  | .directive d ws e following =>
    runDirective o l ws d e.tag e.children (l.parts o ws e.children following)
  | .invoke ws e => Expansion.invoke o l ws e.tag e.children
  | .interpolate ws text => Expansion.interpolate o l ws text
  | .interpolateText text => Expansion.interpolateText o l text
  | .evalSymbol ws name => Expansion.evalSymbol o l ws name
  | .evalExpr ws source => Expansion.evalExpr o l ws source
  | .evalNodes ws source => Expansion.evalNodes o l ws source
  | .evalText ws source => Expansion.evalText o l ws source
  | .evalTruth ws source => Expansion.evalTruth o l ws source
  | .evalInteger ws source => Expansion.evalInteger o l ws source

theorem Call.on_operation (o : Options) (l : Level) (c : Call) :
    c.operation.on o l = (l.unfold o).run c := by
  cases c <;> rfl

/-- What an operation does before its error is given the place of the element that is expanded. -/
def Operation.inside (o : Options) (l : Level) {α : Type} : Operation α → Expand α
  | .expandNode ws (.element tag children) following =>
    expandElement o l ws tag children (l.parts o ws children following)
  | op => op.on o l

/-- The tag of the element that is expanded. -/
def Operation.tag? {α : Type} : Operation α → Option Tag
  | .expandNode _ (.element tag _) _ => some tag
  | _ => none

theorem Operation.on_eq (o : Options) {α : Type} (op : Operation α) (l : Level) :
    op.on o l = match op.tag? with
      | some tag => Expand.locate tag (op.inside o l)
      | none => op.inside o l := by
  cases op with
  | expandNode ws node following => cases node <;> rfl
  | _ => rfl

/-- How much syntax an operation works on without going deeper. -/
def Operation.weight {α : Type} : Operation α → Nat
  | .expandDocument _ d => 2 * Node.weightAll d.children + 1
  | .expandNodes ws nodes => (Call.siblings ws nodes).weight
  | .expandNode ws node following => (Call.first ws node following).weight
  | .directive _ ws e following => (Call.first ws e.toNode following).weight
  | _ => 0

end Expansion

end XmlTemplate
