import XmlTemplate.Proofs.Markup.Reread

/-!
# Documents that are written as they were read

A document that was read and printed without indentation is the same document when it is read
again, unless a URI is declared with a reference, or something in it means another thing where it
is written.

* `Node.Faithful n`: the trees that stay what they are.
* `Tag.Original.faithful_iff`, `Node.faithful_iff`: among the trees that were read these are the
  ones that are read back and read as what they were.
* `Document.Settled d declaration`: the documents that stay what they are.
* `parse_print_same_iff`: among the documents that were read these are the ones that are read again
  with the same content.
-/

namespace XmlTemplate.Markup

/-! ## Faithful trees -/

/-- A tag whose names have clean URIs and whose declarations may be made. The prefix `xmlns` is
none of an element. -/
structure Tag.Faithful (tag : Tag) : Prop where
  clean : ∀ use ∈ tag.uses, Clean use.2
  xmlns : tag.name.prefixName ≠ some "xmlns"
  admitted : Admitted tag.attributes

instance (p : Option String) (uri : String) : Decidable (Admissible p uri) :=
  match p with
  | none => isTrue fun _ h => (Option.some_ne_none _ h.symm).elim
  | some q =>
    decidable_of_iff (if q = "xml" then uri = xmlNamespace
        else q ≠ "xmlns" ∧ uri ≠ xmlNamespace ∧ uri ≠ declarationNamespace)
      ⟨fun h _ hq => Option.some.inj hq ▸ h, fun h => h q rfl⟩

instance : DecidablePred Tag.Faithful := fun tag =>
  have : Decidable (Admitted tag.attributes) :=
    inferInstanceAs (Decidable (∀ a ∈ tag.attributes, a.isDeclaration = true →
      Admissible a.declaredPrefix a.value))
  decidable_of_iff ((∀ use ∈ tag.uses, Clean use.2) ∧ tag.name.prefixName ≠ some "xmlns" ∧
      Admitted tag.attributes)
    ⟨fun h => ⟨h.1, h.2.1, h.2.2⟩, fun h => ⟨h.1, h.2, h.3⟩⟩

namespace Node

/-- An instruction that is not taken for a declaration, a doctype that names something, or any
other leaf. -/
def FaithfulLeaf : Node → Prop
  | .instruction target _ => target ≠ "xml"
  | .doctype value => value ≠ ""
  | _ => True

instance : DecidablePred FaithfulLeaf
  | .instruction target _ => inferInstanceAs (Decidable (target ≠ "xml"))
  | .doctype value => inferInstanceAs (Decidable (value ≠ ""))
  | .element .. | .text _ | .cdata _ | .comment _ | .reference _ | .declaration _ => isTrue trivial

/-- A tree that is the same when it is written and read. -/
def Faithful (n : Node) : Prop := n.All Tag.Faithful FaithfulLeaf

instance : DecidablePred Faithful := fun n =>
  inferInstanceAs (Decidable (n.All Tag.Faithful FaithfulLeaf))

end Node

/-! ## Names -/

/-- Nothing is lacking if everything that is used is bound. -/
theorem lacking_eq_nil_iff {bindings : Bindings} {uses : List (Option String × String)} :
    lacking bindings uses = [] ↔ ∀ use ∈ uses, (bindings.find? use.1).getD "" = use.2 := by
  induction uses with
  | nil => simp [lacking]
  | cons use rest ih =>
    rw [lacking, List.forall_mem_cons, ← ih]
    split <;> simp [*]

/-- The namespace of an element that was read is not empty. -/
theorem space_ne_empty_of_ofElement {scope : Scope} {s : List Char} {name : QName}
    (h : scope.ofElement s = .ok name) : name.space ≠ some "" := by
  obtain ⟨l, -, rfl⟩ | ⟨p, l, uri, -, hu, rfl⟩ := ofElement_cases h
  · intro he
    obtain ⟨uri, hu, hs⟩ := Option.map_eq_some_iff.mp he
    have hne : uri ≠ [] := by simpa using (Option.filter_eq_some_iff.mp hu).2
    exact hne (by simpa using congrArg String.toList hs)
  · exact fun he => Scope.ofList_ne_empty_of_ofPrefix? hu (Option.some.inj he)

/-- So is an attribute, if it needs to be bound at all. -/
theorem resolveAttribute_eq_iff {bindings : Bindings} {a : Attribute} (ha : a.Proper)
    (hf : a.isDeclaration = false → a.name.prefixName.isSome = true →
      (bindings.find? a.name.use.1).getD "" = a.name.use.2) :
    bindings.resolveAttribute a = a ↔
      (a.isDeclaration = false → a.name.prefixName.isSome = true → Clean a.name.use.2) := by
  unfold Bindings.resolveAttribute
  split
  · rename_i hd
    refine iff_of_true rfl fun hdecl hp => ?_
    simp only [hdecl, Bool.false_or, Option.isNone_iff_eq_none] at hd
    rw [hd] at hp
    cases hp
  · rename_i hd
    simp only [Bool.or_eq_true, not_or, Bool.not_eq_true, Option.isNone_eq_false_iff] at hd
    have hs : a.name.space ≠ some "" := by
      cases ha with
      | declaration he =>
        rw [he, Attribute.isDeclaration_declaring] at hd
        cases hd.1
      | plain _ _ hb =>
        obtain ⟨p, hp⟩ := Option.isSome_iff_exists.mp hd.2
        obtain ⟨uri, hu, hne⟩ := hb p hp
        rw [hu]
        simpa using hne
    have hname : ({ a with name := bindings.resolve a.name } : Attribute) = a ↔
        bindings.resolve a.name = a.name := by
      obtain ⟨name, value⟩ := a
      simp
    rw [hname, resolve_eq_iff hs (hf hd.1 hd.2)]
    exact ⟨fun hc _ _ => hc, fun hc => hc hd.1 hd.2⟩

/-! ## Tags -/

namespace Tag

variable {bindings : Bindings} {tag : Tag}

section Lacking

variable (hp : tag.Proper)
  (hl : lacking (bindings.declareAll tag.attributes) tag.uses = [])

include hp hl

theorem writtenAttributes_of_lacking : writtenAttributes bindings tag = tag.attributes := by
  rw [writtenAttributes_eq hp, hl]
  exact List.append_nil _

theorem repairs_fst_of_lacking :
    (repairs bindings tag).1 = bindings.declareAll tag.attributes := by
  rw [repairs_fst_eq_declareAll hp, writtenAttributes_of_lacking hp hl]

/-- A tag that lacks nothing is read as it was if its names are clean. -/
theorem reread_bare_iff (hs : tag.name.space ≠ some "") :
    (tag.reread bindings).bare = tag.bare ↔ ∀ use ∈ tag.uses, Clean use.2 := by
  have hbare : (tag.reread bindings).bare = tag.bare ↔
      (repairs bindings tag).1.resolve tag.name = tag.name ∧
        (writtenAttributes bindings tag).map (repairs bindings tag).1.resolveAttribute =
          tag.attributes.map id := by
    simp [reread, bare]
  obtain ⟨hname, hattributes⟩ := forall_uses_iff.mp (lacking_eq_nil_iff.mp hl)
  rw [hbare, repairs_fst_of_lacking hp hl, writtenAttributes_of_lacking hp hl, forall_uses_iff,
    List.map_inj_left]
  refine and_congr (resolve_eq_iff hs hname) (forall₂_congr fun a ha => ?_)
  exact resolveAttribute_eq_iff (hp.attributes a ha) (hattributes a ha)

end Lacking

/-- A tag that is read with as many attributes as it had lacked nothing. -/
theorem lacking_of_reread (hp : tag.Proper) (h : (tag.reread bindings).bare = tag.bare) :
    lacking (bindings.declareAll tag.attributes) tag.uses = [] := by
  have hattributes : (tag.reread bindings).bare.attributes = tag.attributes := by rw [h]; rfl
  have hlen := congrArg List.length hattributes
  simp only [reread, bare, List.length_map, writtenAttributes_eq hp, List.length_append,
    declarations] at hlen
  exact List.eq_nil_of_length_eq_zero (by omega)

namespace Original

variable (h : tag.Original bindings) (hp : tag.Proper)

include h hp

theorem lacking_of_faithful (hf : tag.Faithful) :
    lacking (bindings.declareAll tag.attributes) tag.uses = [] :=
  lacking_eq_nil_iff.mpr (h.find?_use hp hf.xmlns hf.clean)

/-- A tag that was read is faithful if and only if it is readable and read as what it was. -/
theorem faithful_iff :
    tag.Faithful ↔ tag.Readable bindings ∧ (tag.reread bindings).bare = tag.bare := by
  obtain ⟨scope, hd, hname, -⟩ := h.resolved
  have hs := space_ne_empty_of_ofElement hname
  constructor
  · intro hf
    have hl := h.lacking_of_faithful hp hf
    refine ⟨⟨?_, ?_⟩, (reread_bare_iff hp hl hs).mpr hf.clean⟩
    · rw [writtenAttributes_of_lacking hp hl]
      exact h.distinct
    · rw [writtenAttributes_of_lacking hp hl]
      exact hf.admitted
  · rintro ⟨hr, hbare⟩
    have hl := lacking_of_reread hp hbare
    have hadmitted := hr.admitted
    rw [writtenAttributes_of_lacking hp hl] at hadmitted
    refine ⟨(reread_bare_iff hp hl hs).mp hbare, fun hx => ?_, hadmitted⟩
    -- Nothing is bound to `xmlns`, so the name of the element would be lacking.
    have hfound := lacking_eq_nil_iff.mp hl _ (List.mem_cons_self ..)
    obtain ⟨uri, hu, hne⟩ := hp.bound "xmlns" hx
    simp only [QName.use, hx, hu, Bindings.find?, hd.xmlns] at hfound
    exact hne (by simpa using hfound.symm)

end Original

end Tag

/-! ## Trees -/

namespace Node

/-- A doctype without white space around it is blank only if it is empty. -/
theorem doctype_ne_empty_iff {v : String} (hb : Balanced v.toList)
    (ht : Text.trim v.toList = v.toList) : v ≠ "" ↔ ∃ c ∈ v.toList, isSpace c = false := by
  refine ⟨fun hne => ?_, fun h => (doctypeText_of_readBack hb ht h).named⟩
  obtain ⟨c, r, hv, hc⟩ := DoctypeText.exists_cons ⟨hb, ht, hne⟩
  exact ⟨c, hv ▸ List.mem_cons_self .., hc⟩

mutual

/-- A tree that was read is faithful if and only if it is read back and read as what it was. -/
theorem faithful_iff (bindings : Bindings) : ∀ n : Node, n.Sound → n.Original bindings →
    (n.Faithful ↔
      n.ReadBack bindings ∧ n.Undeclared ∧ (n.reread bindings).bare = n.bare)
  | .element tag children, h, ho => by
    obtain ⟨ht, hc⟩ := h
    obtain ⟨hot, -, hoc⟩ := ho
    have hchildren := faithfulAll_iff (bindings.declareAll tag.attributes) children hc hoc
    have hwithin (hl : lacking (bindings.declareAll tag.attributes) tag.uses = []) :=
      Tag.repairs_fst_of_lacking ht hl
    simp only [Faithful, All, ReadBack, Undeclared, reread, bare, element.injEq, true_and,
      hot.faithful_iff ht]
    constructor
    · rintro ⟨⟨hr, hbare⟩, hall⟩
      rw [hwithin (Tag.lacking_of_reread ht hbare)]
      obtain ⟨hrc, huc, hbc⟩ := hchildren.mp hall
      exact ⟨⟨hr, hrc⟩, huc, hbare, hbc⟩
    · rintro ⟨⟨hr, hrc⟩, huc, hbare, hbc⟩
      rw [hwithin (Tag.lacking_of_reread ht hbare)] at hrc hbc
      exact ⟨⟨hr, hbare⟩, hchildren.mpr ⟨hrc, huc, hbc⟩⟩
  | .instruction target data, _, _ => by
    show target ≠ "xml" ↔ (target = "xml" → _) ∧ target ≠ "xml" ∧ _
    exact ⟨fun h => ⟨fun hx => absurd hx h, h, rfl⟩, fun h => h.2.1⟩
  | .doctype value, h, ho => by
    show value ≠ "" ↔ (∃ c ∈ value.toList, isSpace c = false) ∧ True ∧ _
    rw [doctype_ne_empty_iff h ho]
    exact ⟨fun h => ⟨h, trivial, rfl⟩, fun h => h.1⟩
  | .text _, _, _ | .cdata _, _, _ | .comment _, _, _ | .reference _, _, _ =>
    iff_of_true trivial ⟨trivial, trivial, rfl⟩
  | .declaration _, _, ho => ho.elim

/-- So are siblings. -/
theorem faithfulAll_iff (bindings : Bindings) : ∀ nodes : List Node,
    AllOf Tag.Proper LeafText nodes → OriginalAll bindings nodes →
    (AllOf Tag.Faithful FaithfulLeaf nodes ↔
      ReadBackAll bindings nodes ∧ AllOf (fun _ => True) UndeclaredLeaf nodes ∧
        bareAll (rereadAll bindings nodes) = bareAll nodes)
  | [], _, _ => iff_of_true trivial ⟨trivial, trivial, rfl⟩
  | node :: rest, h, ho => by
    have hnode := faithful_iff bindings node h.1 ho.1
    have hrest := faithfulAll_iff bindings rest h.2 ho.2
    simp only [AllOf, ReadBackAll, rereadAll, bareAll, List.cons.injEq]
    constructor
    · rintro ⟨hf, hfs⟩
      obtain ⟨hr, hu, hb⟩ := hnode.mp hf
      obtain ⟨hrs, hus, hbs⟩ := hrest.mp hfs
      exact ⟨⟨hr, hrs⟩, ⟨hu, hus⟩, hb, hbs⟩
    · rintro ⟨⟨hr, hrs⟩, ⟨hu, hus⟩, hb, hbs⟩
      exact ⟨hnode.mpr ⟨hr, hu, hb⟩, hrest.mpr ⟨hrs, hus, hbs⟩⟩

end

end Node

/-! ## Documents -/

namespace Document

/-- A document that is read again with the same content: its content is faithful, no two texts in
it are joined, the declaration that is written can be read, and without one the text does not begin
with what is taken for a byte order mark. -/
structure Settled (d : Document) (declaration : Bool) : Prop where
  faithful : ∀ n ∈ d.content, n.Faithful
  apart : Apart d.content
  declared : declaration = true →
    ∃ v, readDeclaration (sourceOfAll (d.declaration?.getD .standard).parts) = .ok v
  unmarked : declaration = false → ¬ Marked d.content

instance (d : Document) (declaration : Bool) : Decidable (d.Settled declaration) :=
  let v := readDeclaration (sourceOfAll (d.declaration?.getD .standard).parts)
  have hv : v.toOption.isSome = true ↔ ∃ w, v = .ok w := by
    cases v <;> simp [Except.toOption]
  decidable_of_iff ((∀ n ∈ d.content, n.Faithful) ∧ Apart d.content ∧
      (declaration = true → v.toOption.isSome = true) ∧ (declaration = false → ¬ Marked d.content))
    ⟨fun h => ⟨h.1, h.2.1, fun hd => hv.mp (h.2.2.1 hd), h.2.2.2⟩,
      fun h => ⟨h.1, h.2, fun hd => hv.mpr (h.3 hd), h.4⟩⟩

variable {d e : Document} {declaration : Bool} {uri : Option Uri}

/-- What would be left of a content without its byte order mark is not the content. -/
theorem not_same_of_marked (hs : ∀ n ∈ d.children, n.Sound)
    (ho : ∀ n ∈ d.children, Builder.TopOriginal n) (hb : d.ReadBack false)
    (hm : Marked d.content) (hp : Document.parse (d.print ⟨none, false⟩) uri = .ok e) :
    Node.bareAll e.content ≠ Node.bareAll d.content := by
  obtain ⟨v, r, rest, hc, hv⟩ := hm
  have hread := rereads_of_marked hs ho hb hc hv hp
  unfold leftText at hread
  rw [hc]
  intro he
  by_cases hr : r = []
  · rw [if_pos hr, List.nil_append] at hread
    obtain ⟨-, -, hsame⟩ := hread.same he (fun hn => (List.forall_mem_cons.mp hn).2) (·.2)
    have hlen := congrArg List.length (Node.map_text?_eq hsame)
    rw [Node.map_text?_rereadAll] at hlen
    simp at hlen
  · rw [if_neg hr, List.singleton_append] at hread
    have hundeclared (hn : ∀ n ∈ Node.text v :: rest, n.Undeclared) :
        ∀ n ∈ Node.text (String.ofList r) :: rest, n.Undeclared :=
      List.forall_mem_cons.mpr ⟨trivial, (List.forall_mem_cons.mp hn).2⟩
    have hapart (ha : Apart (.text v :: rest)) : Apart (.text (String.ofList r) :: rest) :=
      ⟨ha.1.imp_left fun h => (Option.some_ne_none _ h).elim, ha.2⟩
    obtain ⟨-, -, hsame⟩ := hread.same he hundeclared hapart
    have htexts := Node.map_text?_eq hsame
    rw [Node.map_text?_rereadAll] at htexts
    have hfirst : String.ofList r = v := Option.some.inj (List.cons.inj htexts).1
    have hlen := congrArg List.length hv
    rw [← hfirst, String.toList_ofList, List.length_cons] at hlen
    omega

end Document

theorem root_of_run {b : Builder} {starts : List Nat} {uri : Option Uri} {l : Lexer} {d : Document}
    (h : b.run starts uri l = .ok d) : d.root?.isSome = true := by
  obtain ⟨last, -, hfinish⟩ :=
    Builder.invariant_of_run (I := fun _ => True) (fun _ _ _ => trivial) trivial h
  obtain ⟨-, ⟨n, hn, he⟩, rfl⟩ := Builder.finish_eq_ok_iff.mp hfinish
  exact Builder.isSome_root?_iff.mpr ⟨n, List.mem_reverse.mpr hn, he⟩

/-- **Reading what was written.** A document that was read with valid names and is printed without
indentation is read again with the same content, apart from the places of its tags, if and only if
it is settled. -/
theorem parse_print_same_iff {text : String} {uri : Option Uri} {d : Document}
    (h : Document.parse text uri = .ok d) (hn : ∀ n ∈ d.children, n.Named) (declaration : Bool)
    (base : Option Uri) :
    (∃ e, Document.parse (d.print ⟨none, declaration⟩) base = .ok e ∧
      Node.bareAll e.content = Node.bareAll d.content) ↔ d.Settled declaration := by
  have hs := sound_of_parse h hn
  have ho := original_of_parse h hn
  have hread := parse_print_iff_readBack hs (root_of_run h) ⟨none, declaration⟩ base
  have hfaithful := Node.faithfulAll_iff [] d.content (Document.sound_content hs)
    (Document.original_content ho)
  constructor
  · rintro ⟨e, hp, he⟩
    have hb := hread.mp ⟨e, hp⟩
    obtain ⟨hdeclared, hback⟩ := Document.readBack_iff.mp hb
    -- What was read cannot have lost its first character, so it is the whole content read again.
    have hm : declaration = false → ¬ Marked d.content := by
      rintro rfl hm
      exact Document.not_same_of_marked hs ho hb hm hp he
    obtain ⟨hu, ha, hsame⟩ := (Document.rereads_of_parse hs ho hb hm hp).same he id id
    have hall := hfaithful.mpr ⟨hback, Node.allOf_iff.mpr hu, hsame⟩
    exact ⟨Node.allOf_iff.mp hall, ha, hdeclared, hm⟩
  · rintro ⟨hall, ha, hdeclared, hm⟩
    obtain ⟨hback, hu, hsame⟩ := hfaithful.mp (Node.allOf_iff.mpr hall)
    have hb := Document.readBack_iff.mpr ⟨hdeclared, hback⟩
    obtain ⟨e, hp⟩ := hread.mpr hb
    have hcontent := (Document.rereads_of_parse hs ho hb hm hp).content_eq
      (Node.allOf_iff.mp hu) ha
    exact ⟨e, hp, hcontent.trans hsame⟩

/-- A document with a default namespace, a prefix and every kind of leaf. -/
def letter : String :=
  "<?xml version=\"1.0\"?><!DOCTYPE r><r xmlns=\"urn:1\" xmlns:a=\"urn:2\" a:k=\"1 &lt; 2\">" ++
    "<a:c/>x &amp; &y;<![CDATA[<]]><!--note--><?print now?></r>"

theorem parse_print_same_iff_letter : ∃ d, Document.parse letter none = .ok d ∧
    (∀ n ∈ d.children, n.Named) ∧ d.Settled true ∧
    ∃ e, Document.parse (d.print ⟨none, true⟩) none = .ok e ∧
      Node.bareAll e.content = Node.bareAll d.content := by
  have hall : ((Document.parse letter none).toOption.any fun d =>
      decide (∀ n ∈ d.children, n.Named) && decide (d.Settled true)) = true := by decide +kernel
  cases hd : Document.parse letter none with
  | error e =>
    rw [hd] at hall
    cases hall
  | ok d =>
    rw [hd] at hall
    obtain ⟨hn, hs⟩ := Bool.and_eq_true_iff.mp hall
    have hn := of_decide_eq_true hn
    have hs := of_decide_eq_true hs
    exact ⟨d, rfl, hn, hs, (parse_print_same_iff hd hn true none).mpr hs⟩

/-! ## A namespace that is declared with a reference -/

/-- An element in a namespace whose URI has an ampersand. -/
def conjoined : String := "<r xmlns=\"a&amp;b\"/>"

/-- Not every document is read again: the reader keeps the URI of a name as it is written, the
writer compares it to the value of the declaration. -/
theorem parse_print_not_same :
    ¬ ∀ (text : String) (uri : Option Uri) (d : Document) (declaration : Bool)
      (base : Option Uri), Document.parse text uri = .ok d → (∀ n ∈ d.children, n.Named) →
      ∃ e, Document.parse (d.print ⟨none, declaration⟩) base = .ok e ∧
        Node.bareAll e.content = Node.bareAll d.content := by
  intro h
  have hall : ((Document.parse conjoined none).toOption.any fun d =>
      decide (∀ n ∈ d.children, n.Named) && decide (d.print ⟨none, false⟩ =
        "<r xmlns=\"a&amp;b\" xmlns=\"a&amp;amp;b\"/>")) = true := by decide +kernel
  have hrefused : (Document.parse "<r xmlns=\"a&amp;b\" xmlns=\"a&amp;amp;b\"/>"
      none).toOption.isNone = true := by decide +kernel
  cases hd : Document.parse conjoined none with
  | error e =>
    rw [hd] at hall
    cases hall
  | ok d =>
    rw [hd] at hall
    obtain ⟨hn, hprint⟩ := Bool.and_eq_true_iff.mp hall
    obtain ⟨e, he, -⟩ := h conjoined none d false none hd (of_decide_eq_true hn)
    rw [of_decide_eq_true hprint] at he
    rw [he] at hrefused
    cases hrefused

end XmlTemplate.Markup
