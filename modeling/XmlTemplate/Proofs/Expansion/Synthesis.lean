import XmlTemplate.Proofs.Expansion.Directives
import XmlTemplate.Proofs.Expansion.Frames
import XmlTemplate.Proofs.Markup.Names

/-!
# Elements that are built are elements that are written

An `element` directive computes a name, takes its attributes from `attribute` children whose content
it expands, and goes one level deeper for each other child. A literal element has its attributes
interpolated, and goes one level deeper for all of its children at once. Where the name and the
attributes are written out, the two come to the same.

* `IsComputed`, `AttributeNode`: names that stand for themselves, and children that are attributes.
* `computedAttribute`: what an `attribute` directive gives. `elementParts_attribute`: it is added to
  the attributes of the element that is built.
* `assemble_attributes`: the attributes are those of a copy.
* `run_assemble`: going deeper for each child is going deeper for all of them.
* `synthesis_is_literal`: the directive and the literal element have the same outcome.
-/

namespace XmlTemplate.Expansion

open Markup Interpolation

variable {o : Options} {ws : Whitespace} {tag : Tag} {name value : String}

/-! ## Names -/

/-- A name that is what it is when it is computed: it has no colon, refers to no symbol, and has no
white space around it. Some characters of names are white space in Unicode. -/
structure IsComputed (name : String) : Prop where
  ncName : isNCName name.toList = true
  trimmed : Text.trim name.toList = name.toList

theorem not_isBrace_of_isNameChar {c : Char} (h : isNameChar c = true) : isBrace c = false :=
  not_isBrace_of_class h rfl rfl

namespace IsComputed

variable (h : IsComputed name)

include h

theorem cutAtColon? : Markup.cutAtColon? name.toList = none :=
  cutAtColon?_of_not_mem (colon_not_mem_of_isNCName h.ncName)

theorem braceless : name.toList.any isBrace = false :=
  List.any_eq_false.mpr fun c hc => by
    simp [not_isBrace_of_isNameChar (isNameChar_of_isNCName h.ncName c hc)]

theorem elementName : Expansion.elementName (Text.trim name.toList) none = .ok (.plain name) := by
  have hname : isQName name.toList = true := by rw [isQName, h.cutAtColon?, h.ncName]
  rw [h.trimmed, Expansion.elementName, hname, h.cutAtColon?, String.ofList_toList]
  rfl

theorem attributeName (hname : name ≠ "xmlns") :
    Expansion.attributeName (Text.trim name.toList) = .ok (.plain name) := by
  have hne : (name.toList != "xmlns".toList) = true :=
    bne_iff_ne.mpr fun e => hname (String.toList_inj.mp e)
  rw [h.trimmed, Expansion.attributeName, h.cutAtColon?, h.ncName, hne, String.ofList_toList]
  rfl

end IsComputed

/-! ## Texts -/

theorem contentAll_append (nodes more : List Node) :
    Node.contentAll (nodes ++ more) = Node.contentAll nodes ++ Node.contentAll more := by
  rw [Node.contentAll, List.map_append, String.join_append]
  rfl

/-- Texts that are joined stand for the same text. -/
theorem contentAll_pushNode (nodes : List Node) (n : Node) :
    Node.contentAll (pushNode nodes n).reverse =
      Node.contentAll nodes.reverse ++ Node.contentAll [n] := by
  have hstep {nodes : List Node} (h : pushNode nodes n = n :: nodes) :
      Node.contentAll (pushNode nodes n).reverse =
        Node.contentAll nodes.reverse ++ Node.contentAll [n] := by
    rw [h, List.reverse_cons, contentAll_append]
  cases nodes with
  | nil => exact hstep rfl
  | cons m rest =>
    cases m with
    | text a =>
      cases n with
      | text b =>
        rw [pushNode, List.reverse_cons, List.reverse_cons, contentAll_append, contentAll_append,
          contentAll_text, contentAll_text, contentAll_text, String.append_assoc]
      | _ => exact hstep rfl
    | _ => exact hstep rfl

theorem contentAll_merged (nodes : List Node) :
    Node.contentAll (merged nodes) = Node.contentAll nodes := by
  have hpushed (before : List Node) : Node.contentAll (pushNodes before nodes).reverse =
      Node.contentAll before.reverse ++ Node.contentAll nodes := by
    induction nodes generalizing before with
    | nil => exact (String.append_empty).symm
    | cons n rest ih =>
      have hcons : Node.contentAll (n :: rest) = Node.contentAll [n] ++ Node.contentAll rest :=
        contentAll_append [n] rest
      rw [hcons, ← String.append_assoc, ← contentAll_pushNode]
      exact ih (pushNode before n)
  exact (hpushed []).trans String.empty_append

/-- The content of an attribute comes to the same text as the value of one. -/
theorem contentAll_text_expanded (value : String) :
    (do return Node.contentAll (← expandNodes o (Expander.level o) .preserve [.text value] [])) =
      interpolateText o (Expander.level o) value := by
  have hnodes : (do
        return Node.contentAll (← expandNodes o (Expander.level o) .preserve [.text value] [])) =
      (do return Node.contentAll (← interpolate o (Expander.level o) .preserve value)) := by
    rw [expandNodes, expandNode, expandLeaf, if_neg (by simp), bind_assoc]
    refine bind_congr fun nodes => ?_
    rw [expandNodes, pure_bind]
    exact congrArg pure (contentAll_merged nodes)
  rw [hnodes]
  cases h : value.toList.any isBrace with
  | true => rw [interpolateText, if_pos h]
  | false =>
    rw [interpolateText_of_braceless h, interpolate_of_braceless h, pure_bind]
    exact congrArg pure (contentAll_text value)

/-! ## Attributes -/

/-- A child that is an attribute whose name and value are written out, wherever it stands. -/
inductive AttributeNode (o : Options) : Node → Attribute → Prop where
  | mk {tag : Tag} {name value : String} (named : isDirective o tag "attribute" = true)
    (names : tag.attribute? "name" = some name) (computed : IsComputed name)
    (plain : name ≠ "xmlns") : AttributeNode o (.element tag [.text value]) ⟨.plain name, value⟩

/-- The attribute that an `attribute` directive with these children gives to the element that it is
in. -/
def computedAttribute (o : Options) (tag : Tag) (children : List Node) : Expand Attribute :=
  attributeDirective o (Expander.level o) tag fun w =>
    expandNodes o (Expander.level o) w children []

/-- When an element is built and an `attribute` directive is come to, its attribute is computed and
added to those before it. -/
theorem elementParts_attribute (named : isDirective o tag "attribute" = true) (ws : Whitespace)
    (children rest : List Node) (attributes : List Attribute) (before : List Node) :
    elementParts o (Expander.level o) ws (.element tag children :: rest) attributes before = (do
      let a ← computedAttribute o tag children
      let attributes ← Expand.ofExcept (addAttribute attributes a)
      elementParts o (Expander.level o) ws rest attributes before) := by
  rw [elementParts, if_pos named]
  rfl

/-- An attribute that is given as a child comes to the one that is written in a tag. -/
theorem computedAttribute_text (names : tag.attribute? "name" = some name) (h : IsComputed name)
    (plain : name ≠ "xmlns") (value : String) :
    computedAttribute o tag [.text value] =
      (do return ⟨.plain name, ← interpolateText o (Expander.level o) value⟩) := by
  have hrequired : requireAttributes tag ["name"] = .ok [name] := by
    simp [requireAttributes, missingAttributes, attributeValue, names]
  rw [computedAttribute, attributeDirective, hrequired,
    expandedValue_of_braceless names h.braceless, Expand.ofExcept,
    pure_bind, pure_bind, h.attributeName plain, Expand.ofExcept, pure_bind,
    ← contentAll_text_expanded, bind_assoc]
  simp only [pure_bind]

theorem addAttribute_of_forall {attributes : List Attribute} {a : Attribute}
    (h : ∀ b ∈ attributes, b.name ≠ a.name) :
    addAttribute attributes a = .ok (attributes ++ [a]) := by
  have hany : attributes.any (·.name == a.name) = false :=
    List.any_eq_false.mpr fun b hb => by simpa using h b hb
  rw [addAttribute, hany]
  rfl

/-- The attributes among the children are those of a copy, in their order. -/
theorem assemble_attributes {nodes : List Node} {attributes : List Attribute}
    (h : List.Forall₂ (AttributeNode o) nodes attributes) (rest : List Node)
    (done : List Attribute) (hdistinct : ((done ++ attributes).map (·.name)).Nodup)
    (before : List Node) :
    (Expander.level o).assemble o ws (nodes ++ rest) done before = (do
      let more ← copyAttributes o (Expander.level o) attributes
      (Expander.level o).assemble o ws rest (done ++ more) before) := by
  induction h generalizing done with
  | nil => rw [List.nil_append, copyAttributes, pure_bind, List.append_nil]
  | @cons n a nodes attributes hn _ ih =>
    obtain ⟨named, names, computed, plain⟩ := hn
    rename_i tag name value
    have hfresh : ∀ b ∈ done, b.name ≠ .plain name := by
      rw [List.map_append, List.map_cons, List.nodup_append] at hdistinct
      exact fun b hb => hdistinct.2.2 _ (List.mem_map_of_mem hb) _ List.mem_cons_self
    -- only the names are compared, so that the values may be those that are expanded
    have hnames (v : String) :
        ((done ++ [⟨.plain name, v⟩] ++ attributes : List Attribute).map (·.name)).Nodup := by
      simpa using hdistinct
    have hplain : (⟨.plain name, value⟩ : Attribute).isDeclaration = false := rfl
    rw [List.cons_append, assemble_eq (level_above o), elementParts_attribute named,
      computedAttribute_text names computed plain, copyAttributes, hplain,
      if_neg Bool.false_ne_true]
    simp only [bind_assoc, pure_bind]
    refine bind_congr fun v => ?_
    rw [addAttribute_of_forall hfresh, Expand.ofExcept, pure_bind, ← assemble_eq (level_above o),
      ih _ (hnames v)]
    simp only [List.append_assoc, List.singleton_append]

/-! ## Children -/

/-- Whether a node is an `attribute` directive. -/
def isAttributeNode (o : Options) : Node → Bool
  | .element tag _ => isDirective o tag "attribute"
  | _ => false

/-- A child that is no attribute is expanded one level deeper. -/
theorem assemble_cons {n : Node} (h : isAttributeNode o n = false) (rest : List Node)
    (attributes : List Attribute) (before : List Node) :
    (Expander.level o).assemble o ws (n :: rest) attributes before = (do
      let nodes ← Expand.descend o.maxDepth ((Expander.level o).first ws n rest)
      (Expander.level o).assemble o ws rest attributes (pushNodes before nodes)) := by
  cases n with
  | element tag children =>
    rw [isAttributeNode] at h
    rw [Level.assemble, h, if_neg Bool.false_ne_true]
  | _ =>
    rw [Level.assemble]
    all_goals exact fun _ _ e => by cases e

/-- Where a level is left, going deeper for each child is going deeper for all of them. -/
theorem run_assemble (ws : Whitespace) {children : List Node}
    (h : ∀ n ∈ children, isAttributeNode o n = false) (attributes : List Attribute)
    (before : List Node) {s : State} (hs : s.depth < o.maxDepth) :
    ((Expander.level o).assemble o ws children attributes before).run s = (do
      let nodes ← Expand.descend o.maxDepth ((Expander.level o).walk ws children before)
      return (attributes, nodes) : Expand (List Attribute × List Node)).run s := by
  induction children generalizing before s with
  | nil =>
    rw [Level.assemble, Level.walk, Expand.run_bind, Expand.run_descend, if_neg (by omega)]
    rfl
  | cons n rest ih =>
    obtain ⟨hn, hrest⟩ := List.forall_mem_cons.mp h
    -- the level that a child comes back to is the one that the next child starts from
    have hdepth := level_restores (o := o) ⟨.first ws n rest, { s with depth := s.depth + 1 }⟩
    rw [assemble_cons hn, Level.walk, Expand.run_bind, Expand.run_bind, Expand.run_descend,
      Expand.run_descend, if_neg (by omega), if_neg (by omega), Expand.run_bind]
    dsimp only [Level.answer, Level.run] at hdepth
    revert hdepth
    obtain ⟨r, t⟩ := ((Expander.level o).first ws n rest).run { s with depth := s.depth + 1 }
    cases r with
    | error e => exact fun _ => rfl
    | ok nodes =>
      obtain ⟨environment, depth⟩ := t
      intro hdepth
      obtain rfl : depth = s.depth + 1 := hdepth
      have hrest := ih hrest (pushNodes before nodes) (s := ⟨environment, s.depth⟩) hs
      rw [Expand.run_bind, Expand.run_descend, if_neg (Nat.not_le.mpr hs)] at hrest
      exact hrest

/-! ## Elements -/

theorem copyAttributes_depth (attributes : List Attribute) (s : State) :
    ((copyAttributes o (Expander.level o) attributes).run s).2.depth = s.depth := by
  have hlevel : Expander.atLevel o (fun l => copyAttributes o l attributes) =
      copyAttributes o (Expander.level o) attributes :=
    atLevel_eq_of_holds fun s => Accord.copyAttributes_accord (levels_deeper s) attributes
  have hkeeps := Accord.copyAttributes_accord
    (keeping_below (expands_anyNode o) 0 (o.maxDepth - s.depth)).levels attributes
  rw [← hlevel, Expander.run_atLevel]
  exact (hkeeps s s.of_anyNode).1.depth

/-- An `element` directive with a name that is written out, for no namespace. -/
structure IsElement (o : Options) (tag : Tag) (name : String) : Prop where
  named : isDirective o tag "element" = true
  names : tag.attribute? "name" = some name
  unspaced : tag.attribute? "namespace" = none
  computed : IsComputed name

/-- What the directive does: it builds the element from its children. -/
theorem IsElement.outcome (h : IsElement o tag name) (ws : Whitespace)
    (children following : List Node) :
    Expand.outcome (Expander.expandNode o ws (.element tag children) following) =
      Expand.outcome (do
        let (attributes, content) ← (Expander.level o).assemble o ws children [] []
        return [.element { tag with name := .plain name, attributes := attributes } content]) := by
  have hc : missingAttributes tag (requiredAttributes .element) = [] := by
    simp [missingAttributes, requiredAttributes, h.names]
  rw [outcome_expandNode_of_directive rfl h.named hc]
  show Expand.outcome (elementDirective o (Expander.level o) tag _) = _
  rw [elementDirective, expandedValue_of_braceless h.names h.computed.braceless, h.unspaced,
    pure_bind]
  dsimp only
  rw [pure_bind, h.computed.elementName, Expand.ofExcept, pure_bind]
  rfl

/-- A literal element is copied. -/
theorem outcome_expandNode_literal (h : tag.name.isIn o.space = false) (ws : Whitespace)
    (children following : List Node) :
    Expand.outcome (Expander.expandNode o ws (.element tag children) following) =
      Expand.outcome (copyElement o (Expander.level o) ws tag children) := by
  rw [expandNode_element, Expand.outcome_locate, expandElement, h, if_neg Bool.false_ne_true]

/-- **Synthesis agrees with literal markup.** An `element` directive with attributes and a name that
are written out, in a state where a level is left, comes to the same as the literal element without
a prefix: nodes, states and causes of failures are the same. The literal element is where the
directive is. -/
theorem synthesis_is_literal {o : Options} {tag : Tag} {name : String} (h : IsElement o tag name)
    {nodes : List Node} {attributes : List Attribute}
    (hattributes : List.Forall₂ (AttributeNode o) nodes attributes)
    (hdistinct : (attributes.map (·.name)).Nodup) {children : List Node}
    (hchildren : ∀ n ∈ children, isAttributeNode o n = false) (ws : Whitespace) {s : State}
    (hs : s.depth < o.maxDepth) (following following' : List Node) :
    Expand.outcome (Expander.expandNode o ws (.element tag (nodes ++ children)) following) s =
      Expand.outcome (Expander.expandNode o ws
        (.element { tag with name := .plain name, attributes := attributes } children)
          following') s := by
  have hdepth := copyAttributes_depth (o := o) attributes s
  rw [h.outcome, outcome_expandNode_literal rfl, copyElement,
    assemble_attributes hattributes children [] hdistinct, bind_assoc, Expand.outcome,
    Expand.outcome, Expand.run_bind, Expand.run_bind]
  revert hdepth
  obtain ⟨r, t⟩ := (copyAttributes o (Expander.level o) attributes).run s
  cases r with
  | error e => exact fun _ => rfl
  | ok more =>
    intro hdepth
    have hcontent := run_assemble ws hchildren more [] (hdepth.trans_lt hs)
    have hrest (f : List Attribute × List Node → Expand (List Node)) :
        ((Expander.level o).assemble o ws children more [] >>= f).run t =
          (Expand.descend o.maxDepth ((Expander.level o).siblings ws children) >>= fun content =>
            f (more, content)).run t := by
      rw [Expand.run_bind, hcontent, ← Expand.run_bind, bind_assoc]
      simp only [pure_bind]
      rw [← expandNodes_eq_walk]
      rfl
    dsimp only
    rw [List.nil_append, hrest]

/-- An element with an attribute that refers to a symbol. -/
def builtTag : Tag := directiveTag "element" [⟨.plain "name", "n"⟩]

/-- The attribute. -/
def builtAttributes : List Node :=
  [.element (directiveTag "attribute" [⟨.plain "name", "a"⟩]) [.text "x\x7bd\x7d"]]

/-- The other children: a conditional and its other branch. -/
def builtChildren : List Node :=
  [.element (directiveTag "ifdef" [⟨.plain "name", "y"⟩]) [.text "y"],
    .element (directiveTag "else" []) [.text "\x7bd\x7d"]]

/-- The symbol. -/
def builtState : State := ⟨⟨⟨[("d", .text "1")], []⟩, [], .ofCapacity 0⟩, 0⟩

/-- The branch is found among the children of either element. -/
theorem synthesis_is_literal_alternative :
    IsElement (.standard (Loader.ofTexts [])) builtTag "n" ∧
      List.Forall₂ (AttributeNode (.standard (Loader.ofTexts []))) builtAttributes
        [⟨.plain "a", "x\x7bd\x7d"⟩] ∧
      (∀ n ∈ builtChildren, isAttributeNode (.standard (Loader.ofTexts [])) n = false) ∧
      builtState.depth < (Options.standard (Loader.ofTexts [])).maxDepth ∧
      (Expand.outcome (Expander.expandNode (.standard (Loader.ofTexts [])) .collapse
        (.element builtTag (builtAttributes ++ builtChildren)) []) builtState).1.toOption.map
          (printNodes none) = some "<n a=\"x1\">1</n>" := by
  have h : IsElement (.standard (Loader.ofTexts [])) builtTag "n" :=
    ⟨rfl, rfl, rfl, by decide +kernel, by decide +kernel⟩
  have hattributes : List.Forall₂ (AttributeNode (.standard (Loader.ofTexts []))) builtAttributes
      [⟨.plain "a", "x\x7bd\x7d"⟩] :=
    .cons (.mk rfl rfl ⟨by decide +kernel, by decide +kernel⟩ (by decide)) .nil
  have hchildren : ∀ n ∈ builtChildren,
      isAttributeNode (.standard (Loader.ofTexts [])) n = false := by
    simp only [builtChildren, List.forall_mem_cons, List.not_mem_nil]
    exact ⟨rfl, rfl, nofun⟩
  have hdepth : builtState.depth < (Options.standard (Loader.ofTexts [])).maxDepth := by
    decide +kernel
  refine ⟨h, hattributes, hchildren, hdepth, ?_⟩
  rw [synthesis_is_literal h hattributes (by decide) hchildren .collapse hdepth [] []]
  decide +kernel

end XmlTemplate.Expansion
