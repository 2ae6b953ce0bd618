import XmlTemplate.Proofs.Markup.Sound

/-!
# Where declarations are read

A declaration is put to the top level, wherever it stands in the text. So no element that was read
has one in it, and no tree but a declaration itself.

* `Node.DeclarationFree`: a tree without declarations.
* `declarationFree_of_parse`: what the top level of a document consists of.
-/

namespace XmlTemplate.Markup

namespace Node

/-- A tree without declarations. -/
def DeclarationFree (n : Node) : Prop := n.All (fun _ => True) fun leaf => leaf.kind ≠ .declaration

theorem declarationFree_element {tag : Tag} {children : List Node} :
    (element tag children).DeclarationFree ↔ ∀ n ∈ children, n.DeclarationFree := by
  unfold DeclarationFree
  rw [All, allOf_iff, true_and]

/-- A tree without declarations, or nothing but a declaration. -/
def TopDeclarationFree (n : Node) : Prop := n.DeclarationFree ∨ ∃ value, n = .declaration value

end Node

namespace Builder

/-- No declaration has been read into an element. -/
structure DeclarationFree (b : Builder) : Prop where
  opened : ∀ e ∈ b.opened, ∀ n ∈ e.children, n.DeclarationFree
  top : ∀ n ∈ b.top, n.TopDeclarationFree

namespace DeclarationFree

variable {b : Builder}

theorem start : Builder.start.DeclarationFree :=
  ⟨fun _ h => (List.not_mem_nil h).elim, fun _ h => (List.not_mem_nil h).elim⟩

theorem push (h : b.DeclarationFree) {n : Node} (hn : n.DeclarationFree) :
    (b.push n).DeclarationFree := by
  obtain ⟨opened, top⟩ := b
  cases opened with
  | nil => exact ⟨h.opened, List.forall_mem_cons.mpr ⟨.inl hn, h.top⟩⟩
  | cons e rest =>
    obtain ⟨he, hrest⟩ := List.forall_mem_cons.mp h.opened
    exact ⟨List.forall_mem_cons.mpr ⟨List.forall_mem_cons.mpr ⟨hn, he⟩, hrest⟩, h.top⟩

theorem pushText (h : b.DeclarationFree) (s : String) : (b.pushText s).DeclarationFree := by
  have htext (value : String) : (Node.text value).DeclarationFree := fun e => by cases e
  obtain ⟨opened, top⟩ := b
  cases opened with
  | nil => exact ⟨h.opened, forall_mem_pushText (fun value => .inl (htext value)) h.top s⟩
  | cons e rest =>
    obtain ⟨he, hrest⟩ := List.forall_mem_cons.mp h.opened
    exact ⟨List.forall_mem_cons.mpr ⟨forall_mem_pushText htext he s, hrest⟩, h.top⟩

/-- Only the top level gets a declaration. -/
theorem fed (h : b.DeclarationFree) {b' : Builder} {place : Place} {t : Token}
    (hf : b.Fed place t b') : b'.DeclarationFree := by
  cases hf with
  | text | number | character => exact h.pushText _
  | reference | comment | cdata | doctype => exact h.push fun e => by cases e
  | empty => exact h.push (Node.declarationFree_element.mpr fun _ hn => (List.not_mem_nil hn).elim)
  | start =>
    exact ⟨List.forall_mem_cons.mpr ⟨fun _ hn => (List.not_mem_nil hn).elim, h.opened⟩, h.top⟩
  | finish ho =>
    obtain ⟨opened, top⟩ := b
    cases ho
    obtain ⟨he, hrest⟩ := List.forall_mem_cons.mp h.opened
    have hinner : DeclarationFree ⟨_, top⟩ := ⟨hrest, h.top⟩
    exact hinner.push (Node.declarationFree_element.mpr fun n hn => he n (List.mem_reverse.mp hn))
  | declaration => exact ⟨h.opened, List.forall_mem_cons.mpr ⟨.inr ⟨_, rfl⟩, h.top⟩⟩
  | instruction =>
    refine h.push ?_
    unfold readInstruction
    split <;> exact fun e => by cases e

end DeclarationFree

end Builder

/-- A document that was read consists of trees without declarations and of declarations. -/
theorem declarationFree_of_parse {text : String} {uri : Option Uri} {d : Document}
    (h : Document.parse text uri = .ok d) : ∀ n ∈ d.children, n.TopDeclarationFree := by
  obtain ⟨last, hlast, hfinish⟩ := Builder.invariant_of_run
    (fun _ hfed (hb : Builder.DeclarationFree _) => hb.fed hfed) Builder.DeclarationFree.start h
  obtain ⟨-, -, rfl⟩ := Builder.finish_eq_ok_iff.mp hfinish
  exact fun n hn => hlast.top n (List.mem_reverse.mp hn)

end XmlTemplate.Markup
