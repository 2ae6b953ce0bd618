import XmlTemplate.Proofs.Expansion.Directives
import XmlTemplate.Proofs.Expansion.Frames

/-!
# Invocations are scopes around a reference

An element that is named for a symbol expands the symbol, with its attributes and the definitions
among its children bound meanwhile. A `scope` with the same attributes, these definitions and a
reference to the symbol does that too, although a scope expands all of its children, and a reference
is found in a text first.

* `IsInvocation`, `definitions`: such elements, and what counts among their children.
* `outcome_defineChildren`: definitions that are carried out, and definitions that are expanded.
* `expandNode_reference`: a text that is a reference is the expansion of the symbol.
* `invocation_is_scope`: the invocation and the scope have the same outcome.
-/

namespace XmlTemplate.Expansion

open Markup Interpolation

variable {o : Options} {ws : Whitespace} {tag : Tag} {name : String}

/-! ## References -/

/-- What a computation gives may be joined before it is closed. -/
theorem descend_after (limit : Nat) (before : List Node) (m : Expand (List Node)) :
    Expand.descend limit (after before m) = after before (Expand.descend limit m) := by
  funext s
  unfold after
  show (Expand.descend limit _).run s = (Expand.descend limit m >>= _).run s
  rw [Expand.run_bind, Expand.run_descend, Expand.run_descend, Expand.run_bind]
  split
  · rfl
  · obtain ⟨r, t⟩ := m.run { s with depth := s.depth + 1 }
    cases r <;> rfl

theorem siblings_after (ws : Whitespace) (nodes : List Node) :
    (Expander.level o).siblings ws nodes = after [] ((Expander.level o).siblings ws nodes) := by
  rw [siblings_eq (level_above o)]
  exact expandNodes_after _ ws nodes []

/-- In the expansion of a symbol there are no neighbouring texts. -/
theorem evalSymbol_after (ws : Whitespace) (name : String) :
    evalSymbol o (Expander.level o) ws name =
      after [] (evalSymbol o (Expander.level o) ws name) := by
  have hnodes (nodes : List Node) :
      Expand.descend o.maxDepth ((Expander.level o).siblings ws nodes) =
        after [] (Expand.descend o.maxDepth ((Expander.level o).siblings ws nodes)) := by
    rw [← descend_after, ← siblings_after]
  unfold evalSymbol after
  rw [bind_assoc]
  refine bind_congr fun env => ?_
  cases env.lookup name with
  | none => rfl
  | some value =>
    cases value with
    | text value =>
      dsimp only
      split <;> rfl
    | nodes nodes => exact hnodes nodes

theorem allBlank_reference (name : String) : Text.allBlank (reference name).toList = false := by
  rw [toList_reference]
  rfl

/-- A text that is a reference is the expansion of the symbol. -/
theorem expandNode_reference (h : isSymbolName name.toList = true) (ws : Whitespace)
    (following : List Node) :
    Expander.expandNode o ws (.text (reference name)) following =
      evalSymbol o (Expander.level o) ws name := by
  have hleaf : Expander.expandNode o ws (.text (reference name)) following =
      interpolate o (Expander.level o) ws (reference name) := by
    rw [show Expander.expandNode o = (Expander.level o).first from rfl, first_eq (level_above o),
      expandNode, expandLeaf, allBlank_reference]
    exact if_neg fun h => Bool.false_ne_true h.2
  rw [hleaf, interpolate, segments_reference h, evalSymbol_after]
  rfl

/-! ## Invocations -/

/-- An element that is named for a symbol. The name is not the one of a directive. -/
structure IsInvocation (o : Options) (tag : Tag) (name : String) : Prop where
  space : tag.name.isIn o.space = true
  localName : tag.name.localName = name
  unregistered : Directive.ofName? name = none
  symbol : isSymbolName name.toList = true

/-- Whether a node is a definition. -/
def isDefinition (o : Options) : Node → Bool
  | .element tag _ => isDirective o tag "define"
  | _ => false

/-- The definitions among the children of an invocation. -/
def definitions (o : Options) (children : List Node) : List Node :=
  children.filter (isDefinition o)

/-- Definitions that are carried out before siblings are definitions that stand before them. -/
theorem outcome_defineChildren (children rest before : List Node) :
    Expand.outcome (do
        defineChildren o (Expander.level o) children
        (Expander.level o).walk ws rest before) =
      Expand.outcome ((Expander.level o).walk ws (definitions o children ++ rest) before) := by
  induction children with
  | nil => rfl
  | cons n others ih =>
    rw [definitions, List.filter_cons]
    cases n with
    | element tag content =>
      rw [defineChildren, isDefinition]
      cases h : isDirective o tag "define" with
      | true =>
        -- its failures get a place only where it is expanded, which is no part of an outcome
        rw [if_pos rfl, if_pos rfl, List.cons_append, outcome_walk_define h, bind_assoc]
        exact Expand.outcome_bind_congr rfl fun _ => ih
      | false =>
        rw [if_neg Bool.false_ne_true, if_neg Bool.false_ne_true]
        exact ih
    | _ => exact ih

namespace IsInvocation

variable (h : IsInvocation o tag name)

include h

/-- What an invocation does where the symbol is bound. -/
theorem outcome (ws : Whitespace) (children following : List Node) {s : State}
    (hs : s.environment.isDefined name = true) :
    Expand.outcome (Expander.expandNode o ws (.element tag children) following) s =
      Expand.outcome (do
        let arguments ← symbolArguments o (Expander.level o) tag
        Expand.call do
          defineAll arguments
          defineChildren o (Expander.level o) children
          evalSymbol o (Expander.level o) ws name) s := by
  rw [expandNode_element, Expand.outcome_locate, expandElement, if_pos h.space, h.localName,
    h.unregistered]
  have henvironment : Expand.environment.run s = (.ok s.environment, s) := rfl
  dsimp only
  rw [invoke, h.localName, Expand.outcome, Expand.run_bind, henvironment]
  dsimp only
  rw [if_pos hs]
  rfl

/-- The same with the definitions and the reference as siblings. -/
theorem outcome_siblings (ws : Whitespace) (children following : List Node) {s : State}
    (hs : s.environment.isDefined name = true) :
    Expand.outcome (Expander.expandNode o ws (.element tag children) following) s =
      Expand.outcome (do
        let arguments ← symbolArguments o (Expander.level o) tag
        Expand.call do
          defineAll arguments
          Expander.expandNodes o ws (definitions o children ++ [.text (reference name)])) s := by
  have hreference : (Expander.level o).walk ws [.text (reference name)] [] =
      evalSymbol o (Expander.level o) ws name := by
    rw [evalSymbol_after, ← expandNode_reference h.symbol ws []]
    rfl
  rw [h.outcome ws children following hs]
  -- the symbol is looked up in the frame that is open, whichever way it is come to
  refine congrFun (Expand.outcome_bind_congr rfl fun arguments => ?_) s
  refine Expand.outcome_within_congr (Expand.outcome_bind_congr rfl fun _ => ?_)
  rw [expandNodes_eq_walk, ← outcome_defineChildren, hreference]

/-- The frames are those in which the arguments have been evaluated. -/
theorem frames (ws : Whitespace) (children following : List Node) {s : State}
    (hs : s.environment.isDefined name = true) :
    ((Expander.expandNode o ws (.element tag children) following).run s).2.environment.frames =
      ((symbolArguments o (Expander.level o) tag).run s).2.environment.frames := by
  have hnodes := operation_keeps o
    (.expandNodes ws (definitions o children ++ [.text (reference name)]))
  have hdefine (arguments : List (String × String)) :
      Keeps AnyNode (fun _ => True) (defineAll arguments) :=
    Accord.defineAll_accord (A := keeping (expands_anyNode o)) (k := 0) arguments
  have hbody (arguments : List (String × String)) (t : State) :=
    ((hdefine arguments).seq hnodes).call_frames t.of_anyNode
  have hstate := congrArg (fun r => r.2.environment.frames)
    (h.outcome_siblings ws children following hs)
  dsimp only [Expand.outcome] at hstate
  rw [hstate, Expand.run_bind]
  obtain ⟨r, t⟩ := (symbolArguments o (Expander.level o) tag).run s
  cases r with
  | error e => rfl
  | ok arguments => exact hbody arguments t

end IsInvocation

/-- **An invocation is a scope around a reference.** Where a symbol is bound, an element that is
named for it comes to the same as a scope with the same attributes that holds the definitions among
the children and a reference to the symbol: nodes, states and causes of failures are the same. Its
arguments are evaluated before a frame is opened for them, and the frames afterwards are those in
which they were evaluated. Other children do not matter. -/
theorem invocation_is_scope {o : Options} {tag scopeTag : Tag} {name : String}
    (h : IsInvocation o tag name) (hscope : isDirective o scopeTag "scope" = true)
    (hattributes : scopeTag.plainAttributes = tag.plainAttributes) (ws : Whitespace)
    (children following : List Node) {s : State} (hs : s.environment.isDefined name = true) :
    (∀ following', Expand.outcome (Expander.expandNode o ws (.element tag children) following) s =
      Expand.outcome (Expander.expandNode o ws
        (.element scopeTag (definitions o children ++ [.text (reference name)])) following') s) ∧
    Expand.outcome (Expander.expandNode o ws (.element tag children) following) s =
      Expand.outcome (do
        let arguments ← symbolArguments o (Expander.level o) tag
        Expand.call do
          defineAll arguments
          Expander.expandNodes o ws (definitions o children ++ [.text (reference name)])) s ∧
    ((Expander.expandNode o ws (.element tag children) following).run s).2.environment.frames =
      ((symbolArguments o (Expander.level o) tag).run s).2.environment.frames ∧
    ∀ others, definitions o others = definitions o children →
      Expand.outcome (Expander.expandNode o ws (.element tag others) following) s =
        Expand.outcome (Expander.expandNode o ws (.element tag children) following) s := by
  have hsiblings (children : List Node) := h.outcome_siblings ws children following hs
  refine ⟨fun following' => ?_, hsiblings children, h.frames ws children following hs,
    fun others hothers => ?_⟩
  · rw [hsiblings children, outcome_expandNode_scope hscope, symbolArguments, symbolArguments,
      hattributes]
  · rw [hsiblings others, hsiblings children, hothers]

/-- A greeting whose arguments are an attribute and a definition. -/
def greetTag : Tag := directiveTag "greet" [⟨.plain "who", "\x7bme\x7d"⟩]

/-- What it holds; the text has no effect. -/
def greetChildren : List Node :=
  [.text "dear", .element (directiveTag "define" [⟨.plain "name", "me"⟩]) [.text "you"]]

/-- The symbol, and one that is hidden by an argument. -/
def greetState : State :=
  ⟨⟨⟨[("greet", .nodes [.text "\x7bwho\x7d and \x7bme\x7d"]), ("me", .text "I")], []⟩, [],
    .ofCapacity 0⟩, 0⟩

/-- The attribute is evaluated where the caller stands, the symbol where the definition holds. -/
theorem invocation_is_scope_greeting :
    IsInvocation (.standard (Loader.ofTexts [])) greetTag "greet" ∧
      greetState.environment.isDefined "greet" = true ∧
      (Expand.outcome (Expander.expandNode (.standard (Loader.ofTexts [])) .collapse
        (.element (directiveTag "scope" [⟨.plain "who", "\x7bme\x7d"⟩])
          (definitions (.standard (Loader.ofTexts [])) greetChildren ++
            [.text (reference "greet")])) []) greetState).1.toOption.map Node.contentAll =
          some "I and you" := by
  have h : IsInvocation (.standard (Loader.ofTexts [])) greetTag "greet" :=
    ⟨rfl, rfl, by decide +kernel, by decide +kernel⟩
  have hdefined : greetState.environment.isDefined "greet" = true := by decide +kernel
  have hscope : isDirective (.standard (Loader.ofTexts []))
      (directiveTag "scope" [⟨.plain "who", "\x7bme\x7d"⟩]) "scope" = true := rfl
  refine ⟨h, hdefined, ?_⟩
  rw [← (invocation_is_scope h hscope rfl .collapse greetChildren [] hdefined).1 []]
  decide +kernel

end XmlTemplate.Expansion
