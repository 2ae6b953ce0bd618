import XmlTemplate.Proofs.Markup.Original

/-!
# Trees in normal form

What the reader ensures of every tree, whatever its names are: texts are neither empty nor
neighbours, what has a character of its own is text and no reference, a declaration stands at the
top level, and a prefix stands for a namespace.

* `Tag.Resolved`, `Node.Normal`, `Document.Normal`: tags, trees and documents of this kind.
* `Siblings P nodes`: siblings that satisfy `P` and of which no two texts are neighbours.
* `Builder.Normal`: what every token keeps, of all elements that are open and of the top level.
* `normal_of_parse`: a document that was read is in normal form.
-/

namespace XmlTemplate.Markup

/-! ## Normal forms -/

/-- The names in a tag are in a namespace if they have a prefix. An attribute without one is in
none, unless it is a declaration. -/
structure Tag.Resolved (tag : Tag) : Prop where
  name : tag.name.Bound
  prefixed : ∀ a ∈ tag.plainAttributes, a.name.Bound
  unprefixed : ∀ a ∈ tag.plainAttributes, a.name.prefixName = none → a.name.space = none

/-- The name of an entity that a document has to say the meaning of: no number of a character, and
none of the five that every document knows. -/
structure IsGeneral (name : String) : Prop where
  number : name.toList.head? ≠ some '#'
  predefined : name ∉ ["lt", "gt", "amp", "apos", "quot"]

mutual

/-- A tree below the top level whose texts are joined and whose names are resolved. -/
def Node.Normal : Node → Prop
  | .element tag children => tag.Resolved ∧ Apart children ∧ Node.NormalAll children
  | .text value => value ≠ ""
  | .reference name => IsGeneral name
  | .cdata _ | .comment _ | .instruction .. | .doctype _ => True
  | .declaration _ => False

/-- The same of siblings, each by itself. -/
def Node.NormalAll : List Node → Prop
  | [] => True
  | node :: rest => node.Normal ∧ Node.NormalAll rest

end

theorem Node.normalAll_iff {nodes : List Node} :
    Node.NormalAll nodes ↔ ∀ n ∈ nodes, n.Normal := by
  induction nodes with
  | nil => simp [NormalAll]
  | cons node rest ih => rw [NormalAll, ih, List.forall_mem_cons]

/-- A node that may stand at the top level: a declaration may, too. -/
def Node.TopNormal (n : Node) : Prop := n.Normal ∨ ∃ value, n = .declaration value

/-- A document of which all levels are in normal form, with an element at its top level. -/
structure Document.Normal (d : Document) : Prop where
  apart : Apart d.children
  nodes : ∀ n ∈ d.children, n.TopNormal
  rooted : ∃ tag children, .element tag children ∈ d.children

/-! ## Names and references -/

theorem Means.resolved {scope : Scope} {key : List Char} {a : Attribute}
    (h : Means scope key a.name) (hplain : a.isDeclaration = false) :
    a.name.Bound ∧ (a.name.prefixName = none → a.name.space = none) := by
  obtain ⟨name, value⟩ := a
  simp only at h
  cases h with
  | default | declaration => cases hplain
  | plain => exact ⟨fun p hp => (Option.some_ne_none p hp.symm).elim, fun _ => rfl⟩
  | prefixed _ _ hu =>
    exact ⟨fun p _ => ⟨_, rfl, Scope.ofList_ne_empty_of_ofPrefix? hu⟩,
      fun hp => (Option.some_ne_none _ hp).elim⟩

/-- The names in a tag that was read are resolved. -/
theorem resolved_of_readTag {scope scope' : Scope} {place : Place} {inside : List Char} {tag : Tag}
    (h : readTag scope place inside = .ok (tag, scope')) : tag.Resolved := by
  obtain ⟨-, hname, hattributes, -⟩ := readTag_eq_ok_iff.mp h
  have hplain (a : Attribute) (ha : a ∈ tag.plainAttributes) :
      a.name.Bound ∧ (a.name.prefixName = none → a.name.space = none) := by
    obtain ⟨hmem, hdeclares⟩ := List.mem_filter.mp ha
    obtain ⟨key, hkey⟩ := ofAttribute_of_readAttributes hattributes a hmem
    exact (Means.of_ofAttribute hkey).resolved (by simpa using hdeclares)
  exact ⟨bound_of_ofElement hname, fun a ha => (hplain a ha).1, fun a ha => (hplain a ha).2⟩

/-- A name that stands for no character is a general one. -/
theorem isGeneral_ofList {name : List Char} (hnumber : name.head? ≠ some '#')
    (hunknown : predefined? name = none) : IsGeneral (String.ofList name) where
  number := by rwa [String.toList_ofList]
  predefined hmem := by
    have hname (known : String) (he : String.ofList name = known) : name = known.toList := by
      rw [← he, String.toList_ofList]
    simp only [List.mem_cons, List.not_mem_nil, or_false] at hmem
    rcases hmem with he | he | he | he | he <;> rw [hname _ he] at hunknown <;> cases hunknown

/-! ## Siblings -/

/-- Siblings in either order. Each of them satisfies `P`, and no two texts are neighbours. -/
structure Siblings (P : Node → Prop) (nodes : List Node) : Prop where
  apart : Apart nodes
  each : ∀ n ∈ nodes, P n

namespace Siblings

variable {P : Node → Prop} {nodes : List Node}

theorem nil : Siblings P [] := ⟨trivial, fun _ h => (List.not_mem_nil h).elim⟩

theorem cons (h : Siblings P nodes) {n : Node} (hn : P n) (ht : n.text? = none) :
    Siblings P (n :: nodes) :=
  ⟨⟨.inl ht, h.apart⟩, List.forall_mem_cons.mpr ⟨hn, h.each⟩⟩

/-- More text is joined to the text before it. -/
theorem pushText (h : Siblings P nodes) (hP : ∀ v, v ≠ "" → P (.text v)) {s : String}
    (hs : s ≠ "") : Siblings P (pushNode nodes (.text s)) :=
  ⟨h.apart.pushNode _, forall_mem_pushNode hP h.each hs⟩

theorem reverse (h : Siblings P nodes) : Siblings P nodes.reverse :=
  ⟨h.apart.reverse, fun n hn => h.each n (List.mem_reverse.mp hn)⟩

end Siblings

/-! ## What was read so far -/

/-- An element is open whose tag is resolved and whose content so far is in normal form. -/
structure OpenElement.Normal (e : OpenElement) : Prop where
  tag : e.tag.Resolved
  children : Siblings Node.Normal e.children

namespace Builder

/-- All levels are in normal form: those that are open and the top one. -/
structure Normal (b : Builder) : Prop where
  opened : ∀ e ∈ b.opened, e.Normal
  top : Siblings Node.TopNormal b.top

namespace Normal

variable {b : Builder}

theorem start : Builder.start.Normal := ⟨fun _ h => (List.not_mem_nil h).elim, .nil⟩

theorem push (h : b.Normal) {n : Node} (hn : n.Normal) (ht : n.text? = none) :
    (b.push n).Normal := by
  obtain ⟨opened, top⟩ := b
  cases opened with
  | nil => exact ⟨h.opened, h.top.cons (.inl hn) ht⟩
  | cons e rest =>
    obtain ⟨he, hrest⟩ := List.forall_mem_cons.mp h.opened
    exact ⟨List.forall_mem_cons.mpr ⟨⟨he.tag, he.children.cons hn ht⟩, hrest⟩, h.top⟩

theorem pushText (h : b.Normal) {s : String} (hs : s ≠ "") : (b.pushText s).Normal := by
  obtain ⟨opened, top⟩ := b
  cases opened with
  | nil => exact ⟨h.opened, h.top.pushText (fun _ hv => .inl hv) hs⟩
  | cons e rest =>
    obtain ⟨he, hrest⟩ := List.forall_mem_cons.mp h.opened
    have hchildren := he.children.pushText (fun _ hv => hv) hs
    exact ⟨List.forall_mem_cons.mpr ⟨⟨he.tag, hchildren⟩, hrest⟩, h.top⟩

/-- The innermost element becomes a tree of the level around it. -/
theorem close {e : OpenElement} {rest : List OpenElement} {top : List Node}
    (h : Normal ⟨e :: rest, top⟩) :
    (Builder.push ⟨rest, top⟩ (.element e.tag e.children.reverse)).Normal := by
  obtain ⟨he, hrest⟩ := List.forall_mem_cons.mp h.opened
  have hchildren := he.children.reverse
  have helement : (Node.element e.tag e.children.reverse).Normal :=
    ⟨he.tag, hchildren.apart, Node.normalAll_iff.mpr hchildren.each⟩
  have hinner : Normal ⟨rest, top⟩ := ⟨hrest, h.top⟩
  exact hinner.push helement rfl

/-- One more token keeps all levels in normal form. -/
theorem fed (h : b.Normal) {b' : Builder} {place : Place} {t : Token} (ht : t.source ≠ [])
    (hf : b.Fed place t b') : b'.Normal := by
  have hchar (c : Char) : String.singleton c ≠ "" := by simp
  cases hf with
  | text chars =>
    exact h.pushText (Token.ofList_ne_empty ht)
  | number | character => exact h.pushText (hchar _)
  | reference hnumber hunknown => exact h.push (isGeneral_ofList hnumber hunknown) rfl
  | start hr =>
    exact ⟨List.forall_mem_cons.mpr ⟨⟨resolved_of_readTag hr, .nil⟩, h.opened⟩, h.top⟩
  | empty hr => exact h.push ⟨resolved_of_readTag hr, trivial, trivial⟩ rfl
  | finish ho =>
    obtain ⟨opened, top⟩ := b
    cases ho
    exact h.close
  | comment | cdata | doctype => exact h.push trivial rfl
  | declaration =>
    -- wherever it stands, it is added to the top level
    exact ⟨h.opened, h.top.cons (.inr ⟨_, rfl⟩) rfl⟩
  | @instruction chars =>
    obtain ⟨target, data, he, -⟩ := divided_readInstruction chars
    rw [he]
    exact h.push trivial rfl

end Normal

theorem Rooted.exists_element {b : Builder} (h : b.Rooted) :
    ∃ tag children, .element tag children ∈ b.top := by
  obtain ⟨n, hn, he⟩ := h
  cases n with
  | element tag children => exact ⟨tag, children, hn⟩
  | _ => cases he

end Builder

/-! ## Documents -/

/-- **A document that was read is in normal form.** At every level no two texts are neighbours and
none is empty, every reference is to an entity that has no character of its own, and the names of
elements and attributes are in a namespace if they have a prefix, attributes only then. Declarations
stand at the top level, and so does an element. -/
theorem normal_of_parse {text : String} {uri : Option Uri} {d : Document}
    (h : Document.parse text uri = .ok d) : d.Normal := by
  obtain ⟨last, hlast, hfinish⟩ := Builder.invariant_of_run (I := Builder.Normal)
    (fun hnext hfed hb => by
      obtain ⟨hne, hscan, -, -⟩ := Builder.scan_of_next hnext
      exact hb.fed (Token.source_ne_nil_of_scan hne hscan) hfed)
    .start h
  obtain ⟨-, hroot, rfl⟩ := Builder.finish_eq_ok_iff.mp hfinish
  obtain ⟨hapart, heach⟩ := hlast.top.reverse
  obtain ⟨tag, children, hmem⟩ := hroot.exists_element
  exact ⟨hapart, heach, tag, children, List.mem_reverse.mpr hmem⟩

/-- Texts, references and a declaration at the top level and inside an element. -/
def interspersed : String :=
  "a&lt;&#66;&e;<p:r xmlns:p='u' p:k='' k=''>c&amp;d<?xml version='1.0'?>e<s/>f</p:r>"

theorem normal_of_parse_interspersed : ∃ d, Document.parse interspersed none = .ok d ∧
    d.children.map Node.kind = [.text, .reference, .declaration, .element] ∧
    d.root?.map (·.children.map Node.text?) = some [some "c&de", none, some "f"] ∧
    d.Normal := by
  have hrun : (Document.parse interspersed none).toOption.map
      (fun d => (d.children.map Node.kind, d.root?.map (·.children.map Node.text?))) =
        some ([.text, .reference, .declaration, .element],
          some [some "c&de", none, some "f"]) := by decide +kernel
  cases hd : Document.parse interspersed none with
  | error e =>
    rw [hd] at hrun
    cases hrun
  | ok d =>
    rw [hd] at hrun
    obtain ⟨hkinds, htexts⟩ := Prod.mk.inj (Option.some.inj hrun)
    exact ⟨d, rfl, hkinds, htexts, normal_of_parse hd⟩

end XmlTemplate.Markup
