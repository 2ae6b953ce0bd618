import XmlTemplate.Proofs.Expansion.Conditional
import XmlTemplate.Proofs.Expansion.Verbatim
import XmlTemplate.Proofs.Interpolation

/-!
# Directives among the nodes

An element of the directive namespace is what its directive does, and whatever that calls is done
by an expander again.

* `expandNode_of_directive`, `directive_eq_actOn`: an element and its directive.
* `outcome_expandNode_scope`, `outcome_expandNode_define`: a `scope` is a call, a `define` binds
  names and gives nothing.
* `IsScope`, `IsDefine`: such elements with given names, wherever they stand.
-/

namespace XmlTemplate.Expansion

open Markup Interpolation

variable {o : Options} {tag : Tag} {d : Directive} {name : String}

/-! ## Elements and their directives -/

/-- An element is expanded by an expander. Its failures get the place of the element. -/
theorem expandNode_element (ws : Whitespace) (children following : List Node) :
    Expander.expandNode o ws (.element tag children) following =
      Expand.locate tag (expandElement o (Expander.level o) ws tag children
        ((Expander.level o).parts o ws children following)) := by
  have hunfold := congrArg Level.first (level_unfold o).symm
  exact congrFun (congrFun (congrFun hunfold ws) (.element tag children)) following

/-- An element that is named for a directive is what the directive does. -/
theorem expandNode_of_directive (hd : Directive.ofName? name = some d)
    (h : isDirective o tag name = true) (ws : Whitespace) (children following : List Node) :
    Expander.expandNode o ws (.element tag children) following =
      Expand.locate tag (Expander.directive o d ws ⟨tag, children⟩ following) := by
  rw [isDirective, QName.isNamed, Bool.and_eq_true, beq_iff_eq] at h
  rw [expandNode_element, expandElement, if_pos h.1, h.2, hd, directive_level]

/-- A directive that has its attributes does what it is there for. -/
theorem directive_eq_actOn (hc : missingAttributes tag (requiredAttributes d) = [])
    (ws : Whitespace) (children following : List Node) :
    Expander.directive o d ws ⟨tag, children⟩ following =
      actOn o (Expander.level o) ws d tag children
        ((Expander.level o).parts o ws children following) := by
  rw [directive_level, runDirective, requireAttributes, hc]
  rfl

theorem outcome_expandNode_of_directive (hd : Directive.ofName? name = some d)
    (h : isDirective o tag name = true)
    (hc : missingAttributes tag (requiredAttributes d) = []) (ws : Whitespace)
    (children following : List Node) :
    Expand.outcome (Expander.expandNode o ws (.element tag children) following) =
      Expand.outcome (actOn o (Expander.level o) ws d tag children
        ((Expander.level o).parts o ws children following)) := by
  rw [expandNode_of_directive hd h, Expand.outcome_locate, directive_eq_actOn hc]

theorem interpolateText_level : interpolateText o (Expander.level o) = Expander.interpolateText o :=
  funext fun text => (operation_level (.interpolateText text)).symm

theorem evalExpr_level (ws : Whitespace) :
    evalExpr o (Expander.level o) ws = Expander.evalExpr o ws :=
  funext fun source => (operation_level (.evalExpr ws source)).symm

theorem evalTruth_level (ws : Whitespace) :
    evalTruth o (Expander.level o) ws = Expander.evalTruth o ws :=
  funext fun source => (operation_level (.evalTruth ws source)).symm

theorem evalInteger_level (ws : Whitespace) :
    evalInteger o (Expander.level o) ws = Expander.evalInteger o ws :=
  funext fun source => (operation_level (.evalInteger ws source)).symm

/-! ## Attributes that are written out -/

theorem attributeValue_of_some {value : String} (h : tag.attribute? name = some value) :
    attributeValue tag name = value := by
  rw [attributeValue, h, Option.getD_some]

/-- An attribute without references has the value that is written. -/
theorem expandedValue_of_braceless {value : String} (h : tag.attribute? name = some value)
    (hvalue : value.toList.any isBrace = false) (l : Level) :
    expandedValue o l tag name = pure value := by
  rw [expandedValue, attributeValue_of_some h, interpolateText_of_braceless hvalue]

/-! ## Scopes and definitions -/

/-- A scope is a call in which its attributes are bound. -/
theorem outcome_expandNode_scope (h : isDirective o tag "scope" = true) (ws : Whitespace)
    (children following : List Node) :
    Expand.outcome (Expander.expandNode o ws (.element tag children) following) =
      Expand.outcome (do
        let bindings ← symbolArguments o (Expander.level o) tag
        Expand.call do
          defineAll bindings
          Expander.expandNodes o ws children) :=
  outcome_expandNode_of_directive (d := .scope) rfl h rfl ws children following

/-- A definition binds names and gives nothing. -/
theorem outcome_expandNode_define (h : isDirective o tag "define" = true) (ws : Whitespace)
    (children following : List Node) :
    Expand.outcome (Expander.expandNode o ws (.element tag children) following) =
      Expand.outcome (do
        defineSymbols o (Expander.level o) tag children
        return []) :=
  outcome_expandNode_of_directive (d := .define) rfl h rfl ws children following

/-- Siblings that begin with a definition. -/
theorem outcome_walk_define (h : isDirective o tag "define" = true) (ws : Whitespace)
    (content rest before : List Node) :
    Expand.outcome ((Expander.level o).walk ws (.element tag content :: rest) before) =
      Expand.outcome (do
        defineSymbols o (Expander.level o) tag content
        (Expander.level o).walk ws rest before) := by
  rw [Level.walk, show (Expander.level o).first = Expander.expandNode o from rfl]
  refine (Expand.outcome_bind_congr (outcome_expandNode_define h ws content rest)
    fun _ => rfl).trans ?_
  rw [bind_assoc]
  rfl

/-- A definition of a name as nodes, wherever it stands. -/
inductive IsDefine (o : Options) (name : String) (content : List Node) : Node → Prop where
  | mk {tag : Tag} (named : isDirective o tag "define" = true)
    (names : tag.attribute? "name" = some name) :
    IsDefine o name content (.element tag content)

/-- A definition of a name as it may be written. -/
def defineNode (o : Options) (name : String) (content : List Node) : Node :=
  .element ⟨⟨some "pp", "define", some o.space⟩, [⟨.plain "name", name⟩], none, none⟩ content

theorem isDefine_defineNode (o : Options) (name : String) (content : List Node) :
    IsDefine o name content (defineNode o name content) :=
  .mk (by simp [isDirective, QName.isNamed, QName.isIn]) rfl

theorem IsDefine.outcome_walk {content : List Node} {n : Node} (h : IsDefine o name content n)
    (ws : Whitespace) (rest before : List Node) :
    Expand.outcome ((Expander.level o).walk ws (n :: rest) before) =
      Expand.outcome (do
        Expand.define name (.nodes content)
        (Expander.level o).walk ws rest before) := by
  obtain ⟨named, names⟩ := h
  rw [outcome_walk_define named, defineSymbols, names]

/-- A scope whose attributes have the given names and are written as the given texts, wherever it
stands. -/
inductive IsScope (o : Options) (written : List (String × String)) (children : List Node) :
    Node → Prop where
  | mk {tag : Tag} (named : isDirective o tag "scope" = true)
    (attributes : tag.plainAttributes = written.map fun b => ⟨.plain b.1, b.2⟩) :
    IsScope o written children (.element tag children)

/-- A scope with the given attributes as it may be written. -/
def scopeNode (o : Options) (written : List (String × String)) (children : List Node) : Node :=
  .element ⟨⟨some "pp", "scope", some o.space⟩, written.map fun b => ⟨.plain b.1, b.2⟩, none, none⟩
    children

theorem isScope_scopeNode (o : Options) (written : List (String × String)) (children : List Node) :
    IsScope o written children (scopeNode o written children) := by
  refine .mk (by simp [isDirective, QName.isNamed, QName.isIn]) (List.filter_eq_self.mpr ?_)
  intro a ha
  obtain ⟨b, -, rfl⟩ := List.mem_map.mp ha
  rfl

theorem contentAll_text (text : String) : Node.contentAll [.text text] = text := by
  simp [Node.contentAll, Node.content]

/-- Where braces are doubled, a text is what it was. -/
theorem interpolateText_doubled (l : Level) (text : String) :
    interpolateText o l (doubled text) = pure text := by
  cases h : text.toList.any isBrace with
  | false => rw [doubled_of_braceless h, interpolateText_of_braceless h]
  | true =>
    rw [interpolateText, any_isBrace_doubled, if_pos h, interpolate, segments_doubled,
      interpolateFrom, interpolateFrom, pure_bind]
    exact congrArg pure (contentAll_text text)

theorem interpolateValues_doubled (l : Level) (bindings : List (String × String)) :
    interpolateValues o l (bindings.map fun b => ⟨.plain b.1, doubled b.2⟩) = pure bindings := by
  induction bindings with
  | nil => rfl
  | cons b rest ih =>
    rw [List.map_cons, interpolateValues, interpolateText_doubled, pure_bind, ih, pure_bind]
    rfl

/-- A scope with texts in which braces are doubled binds these texts. -/
theorem IsScope.outcome_expandNode {bindings : List (String × String)} {children : List Node}
    {n : Node} (h : IsScope o (bindings.map fun b => (b.1, doubled b.2)) children n)
    (ws : Whitespace) (following : List Node) :
    Expand.outcome (Expander.expandNode o ws n following) =
      Expand.outcome (Expand.call do
        defineAll bindings
        Expander.expandNodes o ws children) := by
  obtain ⟨named, attributes⟩ := h
  rw [List.map_map] at attributes
  rw [outcome_expandNode_scope named, symbolArguments, attributes]
  exact congrArg (fun m => Expand.outcome (m >>= _)) (interpolateValues_doubled _ bindings)

end XmlTemplate.Expansion
