import XmlTemplate.Proofs.Expansion.Surroundings
import XmlTemplate.Proofs.Expansion.Synthesis

/-!
# The text of a computed attribute

An attribute that is computed takes the text that its content stands for, node by node. The text
within an element with the same content is another one: comments and processing instructions have
text of their own, which is not text of the element around them, and so have references.

* `IsTextual`: nodes that stand for what they add to the text around them.
* `innerAll_eq_contentAll_iff`: the two texts of siblings.
* `run_attributeDirective_eq_ok`: what a computed attribute is made of.
* `outcome_literal`: an element with the same content, which is expanded one level deeper.
* `attribute_is_text_iff`: when the attribute has the text of the element.
-/

namespace XmlTemplate

/-! ## Two texts -/

namespace Markup.Node

/-- Whether a node stands on its own for what it adds to the text around it. -/
def IsTextual : Node → Prop
  | .comment value => value = ""
  | .instruction _ data => data = ""
  | .reference _ => False
  | _ => True

instance (n : Node) : Decidable n.IsTextual := by
  cases n <;> unfold IsTextual <;> infer_instance

theorem inner_eq_content_or (n : Node) : n.inner = n.content ∨ n.inner = "" := by
  cases n with
  | comment | instruction | reference => exact .inr rfl
  | _ => exact .inl rfl

theorem inner_eq_content_iff (n : Node) : n.inner = n.content ↔ n.IsTextual := by
  cases n with
  | comment value => exact eq_comm
  | instruction target data => exact eq_comm
  | reference name =>
    refine iff_of_false (fun h => ?_) id
    have hlength : 0 = ("&" ++ name ++ ";").length := congrArg String.length h
    rw [String.length_append, show ";".length = 1 from rfl] at hlength
    omega
  | _ => exact iff_of_true rfl trivial

theorem length_innerAll_le (nodes : List Node) :
    (innerAll nodes).length ≤ (contentAll nodes).length := by
  induction nodes with
  | nil => exact le_rfl
  | cons n rest ih =>
    have hcons : contentAll (n :: rest) = n.content ++ contentAll rest := String.join_cons
    rw [innerAll, hcons, String.length_append, String.length_append]
    rcases n.inner_eq_content_or with h | h
    · rw [h]
      omega
    · rw [h, String.length_empty]
      omega

/-- The text within siblings is what they stand for only if this holds of each of them. -/
theorem innerAll_eq_contentAll_iff (nodes : List Node) :
    innerAll nodes = contentAll nodes ↔ ∀ n ∈ nodes, n.IsTextual := by
  induction nodes with
  | nil => exact iff_of_true rfl fun _ h => absurd h List.not_mem_nil
  | cons n rest ih =>
    have hcons : contentAll (n :: rest) = n.content ++ contentAll rest := String.join_cons
    rw [List.forall_mem_cons, ← ih, ← inner_eq_content_iff, innerAll, hcons]
    refine ⟨fun h => ?_, fun ⟨hn, hrest⟩ => by rw [hn, hrest]⟩
    -- what is missing of one node cannot be made up for by the others
    have hle := length_innerAll_le rest
    have hlength := congrArg String.length h
    rw [String.length_append, String.length_append] at hlength
    have hn : n.inner = n.content := by
      refine n.inner_eq_content_or.elim id fun hempty => ?_
      rw [hempty, String.length_empty] at hlength
      rw [hempty, String.length_eq_zero_iff.mp (show n.content.length = 0 by omega)]
    rw [hn] at h
    exact ⟨hn, String.append_right_inj _ |>.mp h⟩

end Markup.Node

namespace Expansion

open Markup Interpolation

variable {o : Options} {tag : Tag} {children : List Node} {s t : State} {a : Attribute}

/-! ## Attributes and elements -/

/-- A computed attribute is made of its name, which is evaluated first, and of its content, which is
expanded from there. -/
theorem run_attributeDirective_eq_ok {l : Level} {parts : Whitespace → Expand (List Node)}
    (h : (attributeDirective o l tag parts).run s = (.ok a, t)) :
    ∃ name u content, (expandedValue o l tag "name").run s = (.ok name, u) ∧
      (parts .preserve).run u = (.ok content, t) ∧ a.value = Node.contentAll content := by
  have hkept {α : Type} (r : Except Cause α) (s : State) : ((Expand.ofExcept r).run s).2 = s := by
    cases r <;> rfl
  obtain ⟨_, -, h⟩ := Expand.of_run_bind h
  rw [hkept] at h
  obtain ⟨name, hname, h⟩ := Expand.of_run_bind h
  obtain ⟨qname, -, h⟩ := Expand.of_run_bind h
  rw [hkept] at h
  obtain ⟨content, hcontent, h⟩ := Expand.of_run_bind h
  obtain ⟨ha, ht⟩ := Prod.mk.inj h
  cases ha
  exact ⟨name, _, content, Prod.ext hname rfl, Prod.ext hcontent ht, rfl⟩

/-- Runs one level deeper, with the same documents open. -/
def Surroundings.below : Surroundings := ⟨1, True⟩

/-- What is expanded on one level comes to the same on the level below it, unless this is one level
too many for it. -/
theorem outcome_descend_of_run {c : Call} {content : List Node}
    (h : ((Expander.level o).run c).run s = (.ok content, t)) :
    Expand.outcome (Expand.descend o.maxDepth ((Expander.level o).run c)) s = (.ok content, t) ∨
      ∃ v, Expand.outcome (Expand.descend o.maxDepth ((Expander.level o).run c)) s =
        (.error (.recursionLimit o.maxDepth), v) := by
  rw [Expand.outcome_descend]
  by_cases hdepth : o.maxDepth ≤ s.depth
  · exact .inr ⟨s, if_pos hdepth⟩
  rw [if_neg hdepth, Expand.outcome_within]
  have hrun : Expand.outcome ((Expander.level o).run c) s = (.ok content, t) := by
    rw [Expand.outcome, h]
    rfl
  have hbelow : Beside .below { s with depth := s.depth + 1 } s := ⟨rfl, rfl, rfl, fun _ => rfl⟩
  have hends : EndsBeside .below (· = .recursionLimit o.maxDepth) (fun _ => True)
      { s with depth := s.depth + 1 } s
      (Expand.outcome ((Expander.level o).run c) { s with depth := s.depth + 1 })
      (.ok content, t) := by
    rw [← hrun]
    refine level_beside ?_ trivial hbelow
    exact .inr rfl
  obtain ⟨_, u, rfl, hstopped⟩ | ⟨u, hended, hbeside, -⟩ := hends.of_ok
  · exact .inr ⟨_, by rw [hstopped]⟩
  · refine .inl ?_
    rw [hended]
    exact Prod.ext rfl (hbeside.eq_of_includes (hbeside.includes trivial))

/-- An element that is copied has what its content comes to, unless the level below it is one too
many. -/
theorem outcome_literal {ws : Whitespace} {content : List Node}
    (h : (expandNodes o (Expander.level o) ws children []).run s = (.ok content, t))
    (hspace : tag.name.isIn o.space = false) (hattributes : tag.attributes = [])
    (following : List Node) :
    Expand.outcome (Expander.expandNode o ws (.element tag children) following) s =
        (.ok [.element tag content], t) ∨
      ∃ v, Expand.outcome (Expander.expandNode o ws (.element tag children) following) s =
        (.error (.recursionLimit o.maxDepth), v) := by
  have htag : { tag with attributes := [] } = tag := by rw [← hattributes]
  have hcopy : copyElement o (Expander.level o) ws tag children = (do
      let content ← Expand.descend o.maxDepth ((Expander.level o).run (.siblings ws children))
      return [.element tag content]) := by
    rw [copyElement, hattributes, copyAttributes, pure_bind, htag]
    rfl
  rw [← siblings_eq (level_above o)] at h
  rw [outcome_expandNode_literal hspace, hcopy, Expand.outcome_bind]
  obtain hcontent | ⟨v, hlimit⟩ := outcome_descend_of_run (c := .siblings ws children) h
  · rw [hcontent]
    exact .inl rfl
  · rw [hlimit]
    exact .inr ⟨v, rfl⟩

/-- **When a computed attribute has the text of its content.** The value of an attribute is what the
nodes of its expanded content stand for. An element that is copied with the same content, from the
state in which the name has been evaluated, gets these nodes too and leaves the same state, unless
the level below it is one too many. The value is the text within this element if and only if none of
the nodes is a reference, or a comment or an instruction that is not empty. -/
theorem attribute_is_text_iff
    (h : (computedAttribute o tag children).run s = (.ok a, t)) :
    ∃ name u content,
      (expandedValue o (Expander.level o) tag "name").run s = (.ok name, u) ∧
      (∀ value, tag.attribute? "name" = some value → value.toList.any isBrace = false → u = s) ∧
      a.value = Node.contentAll content ∧
      ∀ literal : Tag, literal.name.isIn o.space = false → literal.attributes = [] →
        (∀ following,
          Expand.outcome
              (Expander.expandNode o .preserve (.element literal children) following) u =
            (.ok [.element literal content], t) ∨
          ∃ v, Expand.outcome
              (Expander.expandNode o .preserve (.element literal children) following) u =
            (.error (.recursionLimit o.maxDepth), v)) ∧
        (a.value = (Node.element literal content).content ↔ ∀ n ∈ content, n.IsTextual) := by
  obtain ⟨name, u, content, hname, hcontent, hvalue⟩ := run_attributeDirective_eq_ok h
  refine ⟨name, u, content, hname, fun value hv hplain => ?_, hvalue,
    fun literal hspace hattributes => ⟨outcome_literal hcontent hspace hattributes, ?_⟩⟩
  · rw [expandedValue_of_braceless hv hplain] at hname
    exact (Prod.mk.inj hname).2.symm
  · rw [hvalue, eq_comm]
    exact Node.innerAll_eq_contentAll_iff content

/-- An attribute that is computed. -/
def computedTag : Tag := directiveTag "attribute" [⟨.plain "name", "a"⟩]

/-- An element that is copied. -/
def literalTag : Tag := ⟨.plain "e", [], none, none⟩

/-- A comment within an element is not part of either text. -/
theorem attribute_is_text_iff_nested :
    (computedAttribute (.standard (Loader.ofTexts [])) computedTag
        [.element literalTag [.text "x", .comment "y"]]).run builtState =
      (.ok ⟨.plain "a", "x"⟩, builtState) ∧
    ∃ content,
      Expand.outcome (Expander.expandNode (.standard (Loader.ofTexts [])) .preserve
          (.element literalTag [.element literalTag [.text "x", .comment "y"]]) []) builtState =
        (.ok [.element literalTag content], builtState) ∧
      (Node.element literalTag content).content = "x" := by
  have hrun : (computedAttribute (.standard (Loader.ofTexts [])) computedTag
      [.element literalTag [.text "x", .comment "y"]]).run builtState =
      (.ok ⟨.plain "a", "x"⟩, builtState) := rfl
  have hcopy : Expand.outcome (Expander.expandNode (.standard (Loader.ofTexts [])) .preserve
      (.element literalTag [.element literalTag [.text "x", .comment "y"]]) []) builtState =
      (.ok [.element literalTag [.element literalTag [.text "x", .comment "y"]]], builtState) := rfl
  obtain ⟨name, u, content, -, hplain, -, hliteral⟩ := attribute_is_text_iff hrun
  obtain rfl := hplain "a" rfl rfl
  obtain ⟨hcontent, htext⟩ := hliteral literalTag rfl rfl
  obtain h | ⟨v, h⟩ := hcopy ▸ hcontent []
  · cases h
    exact ⟨hrun, _, hcopy, (htext.mpr (by decide)).symm⟩
  · cases h

/-- A comment beside the text is part of the value, but not of the text within the element. -/
theorem attribute_not_text :
    ¬ ∀ (o : Options) (tag literal : Tag) (children content : List Node) (s t u : State)
      (a : Attribute), (∀ value, tag.attribute? "name" = some value →
        value.toList.any isBrace = false) →
      (computedAttribute o tag children).run s = (.ok a, t) →
      literal.name.isIn o.space = false → literal.attributes = [] →
      Expand.outcome (Expander.expandNode o .preserve (.element literal children) []) s =
        (.ok [.element literal content], u) →
      a.value = (Node.element literal content).content := by
  intro h
  have hsame : "xy" = "x" := h (.standard (Loader.ofTexts [])) computedTag literalTag
    [.text "x", .comment "y"] [.text "x", .comment "y"] builtState builtState builtState
    ⟨.plain "a", "xy"⟩ (fun value hv => by cases hv; rfl) rfl rfl rfl rfl
  exact absurd hsame (by decide)

end Expansion

end XmlTemplate
