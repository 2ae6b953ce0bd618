import XmlTemplate.Proofs.Expansion.Coupling
import XmlTemplate.Proofs.Markup.RoundTrip

/-!
# Markup that is copied

Markup without directives and references to symbols is copied as it is, as deep as its elements
are nested: each level of them takes one of the levels that are left. Whatever is bound, nothing of
it is looked at.

* `Node.Inert`: trees in which nothing is replaced.
* `Node.nesting`: how deep elements are nested. `Node.copy`: what becomes of a tree.
* `Copies`: a computation that gives something known if there is room for it, and that fails at
  the limit otherwise.
* `expandNodes_of_inert`: the copy of siblings.
-/

namespace XmlTemplate

namespace Markup

namespace Node

open Expansion Interpolation

/-! ## Trees -/

mutual

/-- A tree without elements of a namespace, without declarations, without braces in texts and in
the values of attributes, and without neighbouring texts. -/
def Inert (space : String) : Node → Prop
  | .element tag children =>
    tag.name.isIn space = false ∧
      (∀ a ∈ tag.plainAttributes, a.value.toList.any isBrace = false) ∧
      Apart children ∧ InertAll space children
  | .text value => value.toList.any isBrace = false
  | .declaration _ => False
  | _ => True

/-- Siblings of this kind. -/
def InertAll (space : String) : List Node → Prop
  | [] => True
  | node :: rest => node.Inert space ∧ InertAll space rest

end

mutual

/-- How deep elements are nested in a tree. -/
def nesting : Node → Nat
  | .element _ children => nestingAll children + 1
  | _ => 0

/-- How deep elements are nested in one of several trees. -/
def nestingAll : List Node → Nat
  | [] => 0
  | node :: rest => max node.nesting (nestingAll rest)

end

/-- The attributes without those that declare a namespace. -/
def attributesWithout (space : String) (attributes : List Attribute) : List Attribute :=
  attributes.filter fun a => !(a.isDeclaration && a.value == space)

/-- Text that is dropped: blank text where white space is collapsed. -/
def isDropped (ws : Whitespace) (n : Node) : Bool := decide (ws = .collapse) && n.isBlankText

mutual

/-- The tree without declarations of a namespace. White space is collapsed or preserved. -/
def copy (space : String) (ws : Whitespace) : Node → Node
  | .element tag children =>
    .element { tag with attributes := attributesWithout space tag.attributes }
      (copyAll space ws children)
  | .text value => .text value
  | .cdata value => .cdata value
  | .comment value => .comment value
  | .instruction target data => .instruction target data
  | .doctype value => .doctype value
  | .reference name => .reference name
  | .declaration value => .declaration value

/-- The same for siblings, without those that are dropped. -/
def copyAll (space : String) (ws : Whitespace) : List Node → List Node
  | [] => []
  | node :: rest =>
    if isDropped ws node then copyAll space ws rest
    else node.copy space ws :: copyAll space ws rest

end

theorem text?_copy (space : String) (ws : Whitespace) (n : Node) :
    (n.copy space ws).text? = n.text? := by
  cases n <;> rfl

end Node

end Markup

namespace Expansion

open Markup Interpolation

/-! ## Room -/

/-- A computation that needs `depth` levels and leaves the state as it is: it gives `a` if there is
room for them, and it fails at the limit if there is not. -/
structure Copies {α : Type} (limit room depth : Nat) (m : Expand α) (s : State) (a : α) : Prop where
  fits : depth ≤ room → m.run s = (.ok a, s)
  exceeds : room < depth → ∃ e, m.run s = (.error e, s) ∧ e.cause = .recursionLimit limit

namespace Copies

variable {α β : Type} {limit room depth depth' : Nat} {m : Expand α} {s : State} {a : α}

theorem pure : Copies limit room 0 (Pure.pure a : Expand α) s a :=
  ⟨fun _ => rfl, fun h => absurd h (Nat.not_lt_zero _)⟩

theorem bind {f : α → Expand β} {b : β} (hm : Copies limit room depth m s a)
    (hf : Copies limit room depth' (f a) s b) :
    Copies limit room (max depth depth') (m >>= f) s b where
  fits h := by
    rw [Expand.run_bind, hm.fits (by omega)]
    exact hf.fits (by omega)
  exceeds h := by
    rw [Expand.run_bind]
    by_cases hdepth : room < depth
    · obtain ⟨e, he, hc⟩ := hm.exceeds hdepth
      exact ⟨e, by rw [he], hc⟩
    · rw [hm.fits (by omega)]
      exact hf.exceeds (by omega)

theorem locate (tag : Tag) (hm : Copies limit room depth m s a) :
    Copies limit room depth (Expand.locate tag m) s a where
  fits h := by rw [Expand.run_locate, hm.fits h]
  exceeds h := by
    obtain ⟨e, he, hc⟩ := hm.exceeds h
    rw [Expand.run_locate, he]
    exact ⟨_, rfl, (Error.cause_locate _ _).trans hc⟩

/-- One level deeper there is one level less. -/
theorem descend (hroom : limit - s.depth = room)
    (hm : 0 < room → Copies limit (room - 1) depth m { s with depth := s.depth + 1 } a) :
    Copies limit room (depth + 1) (Expand.descend limit m) s a where
  fits h := by
    rw [Expand.run_descend, if_neg (by omega), (hm (by omega)).fits (by omega)]
    rfl
  exceeds h := by
    rw [Expand.run_descend]
    by_cases hd : limit ≤ s.depth
    · rw [if_pos hd]
      exact ⟨_, rfl, rfl⟩
    · obtain ⟨e, he, hc⟩ := (hm (by omega)).exceeds (by omega)
      rw [if_neg hd, he]
      exact ⟨e, rfl, hc⟩

end Copies

/-! ## Leaves and attributes -/

section Level

variable {o : Options} {deeper : Level}

theorem interpolate_of_braceless {text : String} (h : text.toList.any isBrace = false)
    (ws : Whitespace) : interpolate o deeper ws text = pure [.text text] := by
  rw [interpolate, segments, if_neg (by simp [h])]
  rfl

theorem interpolateText_of_braceless {text : String} (h : text.toList.any isBrace = false) :
    interpolateText o deeper text = pure text := by
  rw [interpolateText, if_neg (by simp [h])]

theorem copyAttributes_of_braceless {attributes : List Attribute}
    (h : ∀ a ∈ attributes.filter (!·.isDeclaration), a.value.toList.any isBrace = false) :
    copyAttributes o deeper attributes = pure (Node.attributesWithout o.space attributes) := by
  induction attributes with
  | nil => rfl
  | cons a rest ih =>
    rw [copyAttributes, Node.attributesWithout, List.filter_cons]
    rw [List.filter_cons] at h
    cases hdecl : a.isDeclaration with
    | true =>
      rw [hdecl] at h
      rw [ih h]
      cases a.value == o.space <;> rfl
    | false =>
      rw [hdecl] at h
      obtain ⟨hvalue, hrest⟩ := List.forall_mem_cons.mp h
      rw [ih hrest, interpolateText_of_braceless hvalue]
      rfl

/-- A leaf in which nothing is replaced is kept, or it is dropped. -/
theorem expandLeaf_of_inert {n : Node} (hn : n.Inert o.space)
    (hleaf : ∀ tag children, n ≠ .element tag children) (ws : Whitespace) :
    expandLeaf o deeper ws n = pure (Node.copyAll o.space ws [n]) := by
  cases n with
  | element tag children => exact absurd rfl (hleaf tag children)
  | declaration => exact hn.elim
  | text value =>
    rw [expandLeaf, interpolate_of_braceless hn, Node.copyAll, Node.copyAll, Node.copy]
    cases ws <;> cases h : Text.allBlank value.toList <;>
      simp [Node.isDropped, Node.isBlankText, h]
  | _ => cases ws <;> rfl

/-! ## One level -/

variable {room : Nat} {s : State}

/-- The expansion one level deeper copies siblings as long as there is room. -/
def Level.CopiesAll (o : Options) (room : Nat) (l : Level) : Prop :=
  ∀ (ws : Whitespace) {nodes : List Node} {s : State}, Node.InertAll o.space nodes → Apart nodes →
    o.maxDepth - s.depth = room →
    Copies o.maxDepth room (Node.nestingAll nodes) (l.siblings ws nodes) s
      (Node.copyAll o.space ws nodes)

theorem expandNode_of_inert (hd : 0 < room → deeper.CopiesAll o (room - 1)) (ws : Whitespace)
    {n : Node} (hn : n.Inert o.space) (hs : o.maxDepth - s.depth = room)
    (otherwise : Expand (List Node)) :
    Copies o.maxDepth room n.nesting (expandNode o deeper ws n otherwise) s
      (Node.copyAll o.space ws [n]) := by
  cases n with
  | element tag children =>
    obtain ⟨hin, hvalues, hapart, hchildren⟩ := hn
    rw [expandNode, expandElement, if_neg (by simp [hin]), copyElement,
      copyAttributes_of_braceless hvalues]
    have hcontent : Copies o.maxDepth room (Node.nestingAll children + 1)
        (Expand.descend o.maxDepth (deeper.siblings ws children)) s
        (Node.copyAll o.space ws children) :=
      Copies.descend hs fun h => hd h ws hchildren hapart (by dsimp only; omega)
    have hkept : Node.isDropped ws (.element tag children) = false := Bool.and_false _
    rw [Node.copyAll, Node.copyAll, Node.copy, hkept, Node.nesting, ← Nat.max_zero (_ + 1)]
    exact Copies.locate tag (hcontent.bind (f := fun content => Pure.pure [Node.element
      { tag with attributes := Node.attributesWithout o.space tag.attributes } content]) .pure)
  | _ =>
    rw [expandNode, expandLeaf_of_inert hn fun _ _ e => by cases e]
    exact .pure

/-- A node that is copied comes after those before it; what is dropped does not. -/
theorem pushNodes_copyAll {before : List Node} {n : Node} (ws : Whitespace)
    (h : n.text? = none ∨ before.head?.bind Node.text? = none) :
    pushNodes before (Node.copyAll o.space ws [n]) =
      if Node.isDropped ws n then before else n.copy o.space ws :: before := by
  rw [Node.copyAll, Node.copyAll]
  split
  · rfl
  · exact pushNode_of_not_text (by rwa [Node.text?_copy])

/-- Siblings are copied one after the other. No text follows a text, so no two are joined. -/
theorem expandNodes_copies (hd : 0 < room → deeper.CopiesAll o (room - 1)) (ws : Whitespace)
    {nodes before : List Node} (hn : Node.InertAll o.space nodes) (ha : Apart nodes)
    (hb : nodes.head?.bind Node.text? = none ∨ before.head?.bind Node.text? = none)
    (hs : o.maxDepth - s.depth = room) :
    Copies o.maxDepth room (Node.nestingAll nodes) (expandNodes o deeper ws nodes before) s
      (before.reverse ++ Node.copyAll o.space ws nodes) := by
  induction nodes generalizing before with
  | nil =>
    rw [expandNodes, Node.copyAll, List.append_nil]
    exact .pure
  | cons n rest ih =>
    obtain ⟨hnode, hrest⟩ := hn
    obtain ⟨hnext, hapart⟩ := ha
    rw [expandNodes, Node.nestingAll, Node.copyAll]
    refine (expandNode_of_inert hd ws hnode hs _).bind ?_
    rw [pushNodes_copyAll ws hb]
    split
    · rename_i hdrop
      refine ih hrest hapart (.inl (hnext.resolve_left ?_))
      cases n with
      | text value => simp [Node.text?]
      | _ => simp [Node.isDropped, Node.isBlankText] at hdrop
    · rw [List.append_cons, ← List.reverse_cons]
      exact ih hrest hapart (hnext.symm.imp_right fun h => (Node.text?_copy _ _ _).trans h)

end Level

theorem below_copies (o : Options) (room : Nat) : (below o (room + 1)).CopiesAll o room := by
  induction room with
  | zero =>
    exact fun ws _ _ hn ha hs =>
      expandNodes_copies (fun h => absurd h (Nat.lt_irrefl 0)) ws hn ha (.inr rfl) hs
  | succ room ih =>
    exact fun ws _ _ hn ha hs => expandNodes_copies (fun _ => ih) ws hn ha (.inr rfl) hs

/-- **Markup without directives is copied.** Nothing is lost, added, moved or joined: siblings give
themselves, without the declarations of the namespace of directives, and without the blank texts
where white space is collapsed, and the state is left as it is. That takes as many levels as
elements are nested. Where there are fewer, the expansion fails at the limit. -/
theorem expandNodes_of_inert {o : Options} (ws : Whitespace) {nodes : List Node}
    (hn : Node.InertAll o.space nodes) (ha : Apart nodes) (s : State) :
    (Node.nestingAll nodes ≤ o.maxDepth - s.depth →
        (Expander.expandNodes o ws nodes).run s = (.ok (Node.copyAll o.space ws nodes), s)) ∧
      (o.maxDepth - s.depth < Node.nestingAll nodes →
        ∃ e, (Expander.expandNodes o ws nodes).run s = (.error e, s) ∧
          e.cause = .recursionLimit o.maxDepth) := by
  have h := below_copies o (o.maxDepth - s.depth) ws hn ha rfl
  rw [Expander.expandNodes, Expander.run_atLevel]
  exact ⟨h.fits, h.exceeds⟩

/-- An element in another one, with what would be replaced elsewhere. -/
def nestedMarkup : List Node :=
  [.element ⟨.plain "r", [.declaring (some "pp") defaultSpace, ⟨.plain "a", "1"⟩], none, none⟩
    [.text " ", .comment "\x7bc\x7d", .element ⟨.plain "b", [], none, none⟩
      [.text "t", .cdata "\x7b", .text " "]]]

/-- The markup without the blank texts and the declaration. -/
def nestedMarkupCopy : List Node :=
  [.element ⟨.plain "r", [⟨.plain "a", "1"⟩], none, none⟩
    [.comment "\x7bc\x7d", .element ⟨.plain "b", [], none, none⟩ [.text "t", .cdata "\x7b"]]]

/-- A state from which so many levels are left of the usual ones. -/
def leaving (levels : Nat) : State := ⟨.ofCapacity 0, 256 - levels⟩

/-- Two levels are enough, one is not. -/
theorem expandNodes_of_inert_nestedMarkup :
    (Expander.expandNodes (.standard (Loader.ofTexts [])) .collapse nestedMarkup).run (leaving 2) =
        (.ok nestedMarkupCopy, leaving 2) ∧
      ∃ e, (Expander.expandNodes (.standard (Loader.ofTexts [])) .collapse nestedMarkup).run
          (leaving 1) = (.error e, leaving 1) ∧ e.cause = .recursionLimit 256 := by
  have hinert : Node.InertAll defaultSpace nestedMarkup :=
    ⟨⟨rfl, by decide, ⟨.inr rfl, .inl rfl, .inl rfl, trivial⟩, rfl, trivial,
      ⟨rfl, by decide, ⟨.inr rfl, .inl rfl, .inr rfl, trivial⟩, rfl, trivial, rfl, trivial⟩,
      trivial⟩, trivial⟩
  have hapart : Apart nestedMarkup := ⟨.inl rfl, trivial⟩
  have hcopy (s : State) :=
    expandNodes_of_inert (o := .standard (Loader.ofTexts [])) .collapse hinert hapart s
  exact ⟨(hcopy (leaving 2)).1 (by decide), (hcopy (leaving 1)).2 (by decide)⟩

end Expansion

end XmlTemplate
