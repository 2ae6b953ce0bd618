import XmlTemplate.Proofs.Expansion.Results
import XmlTemplate.Proofs.Markup.Acceptance

/-!
# Results that are read back

Everything that comes into a result was read from a text, or its name was checked when it was
computed. So a result can be written, and the only things that can keep it from being read again
are declarations that come into conflict, and leaves that mean something else where they stand.

* `proper_of_elementName`, `proper_of_attributeName`, `instructionText_of_target`: what is computed
  is as good as what was read.
* `sound_expands`: all ways in which nodes come into a result keep them sound.
* `processText_print_iff`: a result is read back if and only if its nodes are.
-/

namespace XmlTemplate.Expansion

open Markup

/-- Every document that is loaded was read from a text with valid names. -/
def Loader.Reads (loader : Loader) : Prop :=
  ∀ uri d, loader uri = .ok d →
    (∃ text base, Document.parse text base = .ok d) ∧ ∀ n ∈ d.children, n.Named

/-! ## Computed names -/

/-- A computed element name is a name, and it has a namespace if it has a prefix. -/
theorem proper_of_elementName {chars : List Char} {space : Option String} {name : QName}
    (h : elementName chars space = .ok name) : name.Proper ∧ name.Bound := by
  obtain ⟨hname, p, rest, hcut, rfl, hspace⟩ := elementName_eq_ok h
  refine ⟨proper_of_cutName space hcut hname, fun q hq => ?_⟩
  have hp : p.isSome = true := by
    rw [← Option.isSome_map (f := String.ofList)]
    exact Option.isSome_of_eq_some hq
  cases space with
  | none => cases hspace hp
  | some uri => exact ⟨uri, rfl, by simpa using hspace hp⟩

/-- A computed attribute name is a name, and no declaration. -/
theorem proper_of_attributeName {chars : List Char} {a : Attribute}
    (h : attributeName chars = .ok a.name) : a.Proper := by
  obtain ⟨name, value⟩ := a
  unfold attributeName at h
  split at h
  · split at h
    · rename_i p rest _ hp
      simp only [Bool.and_eq_true] at hp
      cases h
      have hn : (QName.mk (some "xml") (String.ofList rest) (some xmlNamespace)).Proper := by
        refine ⟨by simpa using hp.2, fun q hq => ?_⟩
        cases hq
        decide
      have hspace : (some xmlNamespace == some declarationNamespace) = false := by decide
      have hxmlns : some "xml" ≠ some "xmlns" := by decide
      exact .plain hspace hn (fun _ _ => ⟨xmlNamespace, rfl, by decide⟩) hxmlns
        fun hnone => by cases hnone
    · cases h
  · split at h
    · rename_i hn
      simp only [Bool.and_eq_true, bne_iff_ne] at hn
      cases h
      have hproper : (QName.plain (String.ofList chars)).Proper :=
        ⟨by simpa [QName.plain] using hn.1, fun q hq => by cases hq⟩
      refine .plain rfl hproper (fun p hp => by cases hp) (fun hp => by cases hp) fun _ => ⟨?_, rfl⟩
      intro he
      exact hn.2 (by rw [← he]; simp)
    · cases h

/-- The target of a computed instruction is a name. -/
theorem instructionText_of_target {chars : List Char} {target data : String}
    (h : instructionTarget chars = .ok target)
    (hd : Text.contains ['?', '>'] data.toList = false) : InstructionText target data := by
  unfold instructionTarget at h
  split at h
  · cases h
  · rename_i hn
    cases h
    simp only [Bool.or_eq_true, not_or, Bool.not_eq_true, Bool.not_eq_false'] at hn
    refine instructionText_of_name ?_ hd
    rw [String.toList_ofList]
    exact hn.1

/-! ## Copies -/

theorem proper_of_value {a : Attribute} (h : a.Proper) (hd : a.isDeclaration = false)
    (value : String) : Attribute.Proper { a with value := value } := by
  cases h with
  | declaration ha =>
    rw [ha, Attribute.isDeclaration_declaring] at hd
    cases hd
  | plain _ hn hb hx hl => exact .plain hd hn hb hx hl

/-- A copy of attributes is as good as the attributes. -/
theorem Copied.proper {space : String} {attributes copies : List Attribute}
    (h : Copied space attributes copies) (ha : ∀ a ∈ attributes, a.Proper) :
    ∀ a ∈ copies, a.Proper := by
  induction h with
  | nil => exact ha
  | dropped _ _ _ ih => exact ih fun a hm => ha a (List.mem_cons_of_mem _ hm)
  | kept _ _ _ ih =>
    exact List.forall_mem_cons.mpr
      ⟨ha _ (List.mem_cons_self ..), ih fun a hm => ha a (List.mem_cons_of_mem _ hm)⟩
  | valued value hd _ ih =>
    exact List.forall_mem_cons.mpr ⟨proper_of_value (ha _ (List.mem_cons_self ..)) hd value,
      ih fun a hm => ha a (List.mem_cons_of_mem _ hm)⟩

/-! ## Results -/

theorem sound_element {tag : Tag} {content : List Node} (ht : tag.Proper)
    (hc : Every Node.Sound content) : Node.Sound (.element tag content) :=
  ⟨ht, Node.allOf_iff.mpr hc⟩

theorem sound_loaded {loader : Loader} (hl : loader.Reads) {uri : Uri} {d : Document}
    (h : loader uri = .ok d) : Every Node.Sound d.children := by
  obtain ⟨⟨text, base, hp⟩, hn⟩ := hl uri d h
  exact sound_of_parse hp hn

/-- In all ways in which nodes come into a result they stay sound. -/
theorem sound_expands {options : Options} (hl : options.loader.Reads) :
    Expands options Node.Sound Node.Sound where
  again h := h
  child h := Node.allOf_iff.mp h.2
  text _ := trivial
  leaf _ h := h
  copy h _ hc hcontent := by
    refine sound_element ⟨h.1.name, h.1.bound, ?_⟩ hcontent
    exact hc.proper h.1.attributes
  build _ _ := by
    intro chars space name attributes content _ hname hattributes hcontent
    obtain ⟨hproper, hbound⟩ := proper_of_elementName hname
    refine sound_element ⟨hproper, hbound, fun a ha => ?_⟩ hcontent
    obtain ⟨chars, ha⟩ := hattributes.named a ha
    exact proper_of_attributeName ha
  instruction ht hd := instructionText_of_target ht hd
  loaded h n hn := sound_loaded hl h n (List.mem_filter.mp hn).1

theorem processText_sound {options : Options} {text : String} {base : Option Uri} {out : Document}
    (hn : ∀ d, Document.parse text base = .ok d → ∀ n ∈ d.children, n.Named)
    (hl : options.loader.Reads) (h : processText options text base = .ok out) :
    ∀ n ∈ out.children, n.Sound := by
  unfold processText at h
  split at h
  · rename_i d hd
    have hsource : Every Node.Sound d.children := sound_of_parse hd (hn d hd)
    intro n hm
    rcases process_every (sound_expands hl) hsource h n hm with hs | ⟨value, hs, rfl⟩
    · exact hs
    · exact hs
  · cases h

/-- **Results read back.** The result of an expansion is read from what is printed of it, whatever
the layout, if and only if it is a document that is read back. -/
theorem processText_print_iff {options : Options} {text : String} {base : Option Uri}
    {out : Document} (hn : ∀ d, Document.parse text base = .ok d → ∀ n ∈ d.children, n.Named)
    (hl : options.loader.Reads) (h : processText options text base = .ok out)
    (hr : out.root?.isSome = true) (layout : Layout) (uri : Option Uri) :
    (∃ d, Document.parse (out.print layout) uri = .ok d) ↔ out.ReadBack layout.declaration :=
  parse_print_iff_readBack (processText_sound hn hl h) hr layout uri

/-! ## A namespace that is written with a reference -/

/-- An element whose prefix stands for a URI with an ampersand. -/
def ampersand : String := "<x:r xmlns:x=\"a&amp;b\"/>"

/-- The usual settings without documents to include. -/
def alone : Options := .standard (Loader.ofTexts [])

theorem reads_alone : alone.loader.Reads := fun _ _ h => by cases h

theorem named_ampersand {d : Document} (h : Document.parse ampersand none = .ok d) :
    ∀ n ∈ d.children, n.Named := by
  have hall : ((Document.parse ampersand none).toOption.all fun d =>
      decide (∀ n ∈ d.children, n.Named)) = true := by decide +kernel
  rw [h] at hall
  exact of_decide_eq_true hall

/-- The declaration is written twice: the reader compares what stands between the quotation marks,
the writer what it means. -/
theorem print_ampersand : ∃ out, processText alone ampersand none = .ok out ∧
    out.root?.isSome = true ∧
    out.print ⟨none, false⟩ = "<x:r xmlns:x=\"a&amp;b\" xmlns:x=\"a&amp;amp;b\"/>" := by
  have hall : ((processText alone ampersand none).toOption.any fun out =>
      out.root?.isSome && decide (out.print ⟨none, false⟩ =
        "<x:r xmlns:x=\"a&amp;b\" xmlns:x=\"a&amp;amp;b\"/>")) = true := by decide +kernel
  cases hp : processText alone ampersand none with
  | error e =>
    rw [hp] at hall
    cases hall
  | ok out =>
    rw [hp] at hall
    have hboth := Bool.and_eq_true_iff.mp hall
    exact ⟨out, rfl, hboth.1, of_decide_eq_true hboth.2⟩

theorem refused_ampersand : ¬ ∃ d, Document.parse
    "<x:r xmlns:x=\"a&amp;b\" xmlns:x=\"a&amp;amp;b\"/>" none = .ok d := by
  have hnone : (Document.parse "<x:r xmlns:x=\"a&amp;b\" xmlns:x=\"a&amp;amp;b\"/>"
      none).toOption.isNone = true := by decide +kernel
  rintro ⟨d, hd⟩
  rw [hd] at hnone
  cases hnone

/-- Not every result is read back. -/
theorem processText_not_readBack :
    ¬ ∀ (options : Options) (text : String) (base : Option Uri) (out : Document) (layout : Layout)
      (uri : Option Uri), (∀ d, Document.parse text base = .ok d → ∀ n ∈ d.children, n.Named) →
      options.loader.Reads → processText options text base = .ok out → out.root?.isSome = true →
      ∃ d, Document.parse (out.print layout) uri = .ok d := by
  intro h
  obtain ⟨out, hout, hroot, hprint⟩ := print_ampersand
  have hread := h alone ampersand none out ⟨none, false⟩ none (fun _ => named_ampersand)
    reads_alone hout hroot
  rw [hprint] at hread
  exact refused_ampersand hread

theorem processText_print_iff_ampersand :
    ∃ out, processText alone ampersand none = .ok out ∧ out.root?.isSome = true ∧
      ¬ out.ReadBack false ∧ ¬ ∃ d, Document.parse (out.print ⟨none, false⟩) none = .ok d := by
  obtain ⟨out, hout, hroot, hprint⟩ := print_ampersand
  have hrefused : ¬ ∃ d, Document.parse (out.print ⟨none, false⟩) none = .ok d := by
    rw [hprint]
    exact refused_ampersand
  have hiff := processText_print_iff (fun _ => named_ampersand) reads_alone hout hroot
    ⟨none, false⟩ none
  exact ⟨out, hout, hroot, mt hiff.mpr hrefused, hrefused⟩

end XmlTemplate.Expansion
