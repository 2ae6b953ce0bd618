import XmlTemplate.Proofs.Markup.Leaves

/-!
# Trees that can be written

Which trees keep their meaning in a text. Their tags may lack declarations: those are added when
they are written, and nothing else of a tag changes.

* `Node.Writable`: the trees. A name means one namespace, and no text could be taken for markup.
* `Node.Repaired bindings n m`: `m` is `n` with the declarations that its tags lack where
  `bindings` are in force, each of them once and none of them in vain.
* `Tag.Writable.readable`, `Tag.Writable.resolve_name`: a writable tag is read again, and its names
  mean the same.
-/

namespace XmlTemplate.Markup

/-! ## Writable trees -/

/-- A URI that is written as it stands. -/
def Clean (uri : String) : Prop := ∀ c ∈ uri.toList, isSpecial c = false

instance (uri : String) : Decidable (Clean uri) :=
  List.decidableBAll (fun c => isSpecial c = false) uri.toList

/-- A name that is no declaration and whose prefix, if it has one, stands for a namespace. The
prefix `xml` is the one of its own namespace. -/
structure QName.Writable (name : QName) : Prop where
  proper : name.Proper
  bound : name.Bound
  xml : name.prefixName = some "xml" ↔ name.space = some xmlNamespace
  xmlns : name.prefixName ≠ some "xmlns"
  space : name.space ≠ some declarationNamespace
  nonempty : name.space ≠ some ""
  clean : ∀ uri, name.space = some uri → Clean uri

/-- A name in a namespace that is not reserved. -/
theorem QName.Writable.of_space {p : Option String} {l uri : String}
    (hp : ∀ q ∈ p, isNCName q.toList = true ∧ q ≠ "xml" ∧ q ≠ "xmlns")
    (hl : isNCName l.toList = true)
    (hu : uri ≠ "" ∧ uri ≠ xmlNamespace ∧ uri ≠ declarationNamespace ∧ Clean uri) :
    QName.Writable ⟨p, l, some uri⟩ where
  proper := ⟨hl, fun q hq => (hp q hq).1⟩
  bound _ _ := ⟨uri, rfl, hu.1⟩
  xml := ⟨fun h => absurd rfl (hp _ h).2.1, fun h => absurd (Option.some.inj h) hu.2.1⟩
  xmlns h := (hp _ h).2.2 rfl
  space h := hu.2.2.1 (Option.some.inj h)
  nonempty h := hu.1 (Option.some.inj h)
  clean _ h := Option.some.inj h ▸ hu.2.2.2

/-- A name without a prefix and a namespace. -/
theorem QName.Writable.of_plain {l : String} (hl : isNCName l.toList = true) :
    (QName.plain l).Writable where
  proper := ⟨hl, fun _ hq => (Option.some_ne_none _ hq.symm).elim⟩
  bound _ hq := (Option.some_ne_none _ hq.symm).elim
  xml := ⟨fun h => (Option.some_ne_none _ h.symm).elim,
    fun h => (Option.some_ne_none _ h.symm).elim⟩
  xmlns h := Option.some_ne_none _ h.symm
  space h := Option.some_ne_none _ h.symm
  nonempty h := Option.some_ne_none _ h.symm
  clean _ h := (Option.some_ne_none _ h.symm).elim

/-- A declaration of another prefix than the reserved ones, or an attribute in a namespace exactly
if it has a prefix. -/
inductive Attribute.Writable (a : Attribute) : Prop where
  | declaration {p : Option String} {uri : String} : a = .declaring p uri → Clean uri →
    (∀ q, p = some q → isNCName q.toList = true ∧ q ≠ "xml" ∧ q ≠ "xmlns" ∧
      uri ≠ "" ∧ uri ≠ xmlNamespace ∧ uri ≠ declarationNamespace) → Writable a
  | plain : a.name.Writable →
    (a.name.prefixName = none → a.name.localName ≠ "xmlns" ∧ a.name.space = none) → Writable a

/-- A tag without repeated keys whose names and declarations do not contradict each other. -/
structure Tag.Writable (tag : Tag) : Prop where
  name : tag.name.Writable
  attributes : ∀ a ∈ tag.attributes, a.Writable
  distinct : (tag.attributes.map (·.name.qualified)).Nodup
  agree : ∀ use ∈ tag.uses, ∀ other ∈ tag.uses, use.1 = other.1 → use.2 = other.2
  declared : ∀ a ∈ tag.attributes, a.isDeclaration = true →
    ∀ use ∈ tag.uses, use.1 = a.declaredPrefix → use.2 = a.value

/-- A tag without attributes. -/
theorem Tag.Writable.of_name {name : QName} (h : name.Writable) (position : Option Position)
    (document : Option Uri) : Tag.Writable ⟨name, [], position, document⟩ where
  name := h
  attributes a ha := by cases ha
  distinct := List.nodup_nil
  agree use hu other ho _ := by rw [List.mem_singleton.mp hu, List.mem_singleton.mp ho]
  declared a ha := by cases ha

/-- No two texts are neighbours. -/
def Apart : List Node → Prop
  | [] => True
  | node :: rest => (node.text? = none ∨ rest.head?.bind Node.text? = none) ∧ Apart rest

/-- An instruction that is divided where it was written, and no declaration. -/
structure InstructionParts (target data : String) : Prop extends Divided target data where
  name : isNCName target.toList = true
  notXml : target ≠ "xml"
  inside : Text.contains ['?', '>'] data.toList = false

namespace Node

mutual

/-- A tree of elements and leaves that can be told apart in a text. -/
def Writable : Node → Prop
  | .element tag children => tag.Writable ∧ Apart children ∧ WritableAll children
  | .text value => value ≠ ""
  | .cdata value => Text.contains [']', ']', '>'] value.toList = false
  | .comment value => Text.contains ['-', '-', '>'] value.toList = false
  | .instruction target data => InstructionParts target data
  | .doctype value => DoctypeText value
  | .reference name => EntityName name
  | .declaration _ => False

/-- Siblings that are writable. -/
def WritableAll : List Node → Prop
  | [] => True
  | node :: rest => node.Writable ∧ WritableAll rest

end

end Node

/-! ## Repaired trees -/

/-- What is added to a tag: some of what its names use, once for each prefix, none of it bound
before and all of it bound then. -/
structure Supplies (within : Bindings) (uses added : List (Option String × String)) : Prop where
  used : added.Sublist uses
  once : (added.map (·.1)).Nodup
  needed : ∀ use ∈ added, (within.find? use.1).getD "" ≠ use.2
  enough : ∀ use ∈ uses, (Bindings.find? (added.reverse ++ within) use.1).getD "" = use.2

namespace Node

mutual

/-- The second tree is the first one with the declarations that it lacks after the attributes of
each of its tags. -/
inductive Repaired : Bindings → Node → Node → Prop where
  | element {bindings : Bindings} {tag : Tag} {added : List (Option String × String)}
    {children content : List Node} :
    Supplies (bindings.declareAll tag.attributes) tag.uses added →
    RepairedAll (bindings.declareAll (tag.attributes ++ declarations added)) children content →
    Repaired bindings (.element tag children)
      (.element { tag with attributes := tag.attributes ++ declarations added } content)
  | leaf {bindings : Bindings} {n : Node} : n.element?.isNone = true → Repaired bindings n n

/-- The same for siblings. -/
inductive RepairedAll : Bindings → List Node → List Node → Prop where
  | nil {bindings : Bindings} : RepairedAll bindings [] []
  | cons {bindings : Bindings} {n m : Node} {rest others : List Node} : Repaired bindings n m →
    RepairedAll bindings rest others → RepairedAll bindings (n :: rest) (m :: others)

end

mutual

/-- The tree that is written for a tree. -/
def repair (bindings : Bindings) : Node → Node
  | .element tag children =>
    .element { tag with attributes := writtenAttributes bindings tag }
      (repairAll (repairs bindings tag).1 children)
  | n => n

/-- The trees that are written for siblings. -/
def repairAll (bindings : Bindings) : List Node → List Node
  | [] => []
  | node :: rest => node.repair bindings :: repairAll bindings rest

end

end Node

/-! ## Writable tags -/

theorem Attribute.Writable.proper {a : Attribute} (h : a.Writable) : a.Proper := by
  cases h with
  | declaration ha _ hq => exact .declaration ha fun q hp => (hq q hp).1
  | plain hn hl =>
    have hd : a.isDeclaration = false := by
      unfold Attribute.isDeclaration QName.isIn
      exact beq_eq_false_iff_ne.mpr hn.space
    exact .plain hd hn.proper hn.bound hn.xmlns hl

namespace Tag.Writable

variable {tag : Tag} (h : tag.Writable) {bindings : Bindings}

include h

theorem proper : tag.Proper :=
  ⟨h.name.proper, h.name.bound, fun a ha => (h.attributes a ha).proper⟩

theorem plainName {a : Attribute} (ha : a ∈ tag.attributes) (hd : a.isDeclaration = false) :
    a.name.Writable := by
  cases h.attributes a ha with
  | declaration he =>
    rw [he, Attribute.isDeclaration_declaring] at hd
    cases hd
  | plain hn _ => exact hn

/-- What is used is what some name of the tag means. -/
theorem name_of_use {use : Option String × String} (hu : use ∈ tag.uses) :
    ∃ name : QName, name.Writable ∧ use = name.use := by
  have hnames : ∀ use ∈ tag.uses, ∃ name : QName, name.Writable ∧ use = name.use :=
    forall_uses_iff.mpr ⟨⟨tag.name, h.name, rfl⟩, fun a ha hd _ => ⟨a.name, h.plainName ha hd, rfl⟩⟩
  exact hnames use hu

theorem coherent : Coherent tag.uses where
  agree := h.agree
  xml use hu hx := by
    obtain ⟨name, hn, rfl⟩ := h.name_of_use hu
    have hs := hn.xml.mp hx
    simp [QName.use, hs]

theorem supplies : Supplies (bindings.declareAll tag.attributes) tag.uses
    (lacking (bindings.declareAll tag.attributes) tag.uses) where
  used := lacking_sublist _ _
  once := nodup_lacking h.coherent _
  needed _ hm := not_provided_of_lacking h.coherent hm
  enough _ hm := provided_of_coherent h.coherent _ hm

end Tag.Writable

/-- What an element declares for a prefix is in force in it. -/
theorem lookup_declareAll {p : Option String} {uri : String} {attributes : List Attribute}
    (h : ∀ a ∈ attributes, a.isDeclaration = true → a.declaredPrefix = p → a.value = uri)
    (bindings : Bindings)
    (hd : bindings.lookup p = some uri ∨
      ∃ a ∈ attributes, a.isDeclaration = true ∧ a.declaredPrefix = p) :
    List.lookup p (bindings.declareAll attributes) = some uri := by
  induction attributes generalizing bindings with
  | nil =>
    rcases hd with hd | ⟨a, ha, -⟩
    · exact hd
    · cases ha
  | cons a rest ih =>
    have hr := fun b hb => h b (List.mem_cons_of_mem _ hb)
    rw [Bindings.declareAll]
    refine ih hr _ ?_
    by_cases ha : a.isDeclaration = true ∧ a.declaredPrefix = p
    · rw [if_pos ha.1, ha.2, h a (List.mem_cons_self ..) ha.1 ha.2]
      exact .inl (List.lookup_cons_self ..)
    · rcases hd with hd | ⟨b, hb, hdecl⟩
      · left
        split
        · rename_i hdecl
          rw [lookup_cons_of_ne (fun e => ha ⟨hdecl, e.symm⟩), hd]
        · exact hd
      · rcases List.mem_cons.mp hb with rfl | hb
        · exact absurd hdecl ha
        · exact .inr ⟨b, hb, hdecl⟩

theorem prefixText_inj {p q : Option String} (hp : ∀ r, p = some r → isNCName r.toList = true)
    (hq : ∀ r, q = some r → isNCName r.toList = true) (h : prefixText p = prefixText q) :
    p = q := by
  cases p with
  | none =>
    cases q with
    | none => rfl
    | some q => exact absurd h.symm (ne_nil_of_isNCName (hq q rfl))
  | some p =>
    cases q with
    | none => exact absurd h (ne_nil_of_isNCName (hp p rfl))
    | some q => exact congrArg some (String.toList_inj.mp h)

/-- The key of a declaration tells its prefix. -/
theorem declaredPrefix_of_key {a : Attribute} (ha : a.Proper) {p : Option String} {uri : String}
    (hp : ∀ r, p = some r → isNCName r.toList = true)
    (h : a.name.qualified = (Attribute.declaring p uri).name.qualified) :
    a.isDeclaration = true ∧ a.declaredPrefix = p := by
  have hkey := declaredPrefix?_of ha
  rw [RawAttribute.key_of, h, declaredPrefix?_declaring] at hkey
  split at hkey
  · rename_i hd
    refine ⟨hd, prefixText_inj (ha.eq_declaring hd).2 hp ?_⟩
    exact (Option.some.inj hkey).symm
  · cases hkey

namespace Tag.Writable

variable {tag : Tag} (h : tag.Writable) {bindings : Bindings}

include h

/-- What is lacking is not declared by the tag itself. -/
theorem not_declared {use : Option String × String}
    (hu : use ∈ lacking (bindings.declareAll tag.attributes) tag.uses) {a : Attribute}
    (ha : a ∈ tag.attributes) (hd : a.isDeclaration = true) : a.declaredPrefix ≠ use.1 := by
  intro hp
  have hm := (lacking_sublist _ _).subset hu
  have hvalue : ∀ b ∈ tag.attributes, b.isDeclaration = true → b.declaredPrefix = use.1 →
      b.value = use.2 := fun b hb hbd he => (h.declared b hb hbd use hm he.symm).symm
  have hl := lookup_declareAll hvalue bindings (.inr ⟨a, ha, hd, hp⟩)
  refine not_provided_of_lacking h.coherent hu ?_
  by_cases hx : use.1 = some "xml"
  · rw [hx, find?_xml]
    exact (h.coherent.xml use hm hx).symm
  · unfold Bindings.find?
    rw [if_neg hx, hl]
    rfl

theorem distinct_written : ((writtenAttributes bindings tag).map (·.name.qualified)).Nodup := by
  rw [writtenAttributes_eq h.proper, List.map_append, List.nodup_append]
  have hproper {use : Option String × String}
      (hu : use ∈ lacking (bindings.declareAll tag.attributes) tag.uses) :=
    proper_of_mem_uses h.proper ((lacking_sublist _ _).subset hu)
  refine ⟨h.distinct, ?_, ?_⟩
  · have hnodup := nodup_lacking h.coherent (bindings.declareAll tag.attributes)
    unfold declarations List.Nodup at *
    rw [List.pairwise_map] at hnodup
    rw [List.map_map, List.pairwise_map]
    refine hnodup.imp_of_mem fun {use other} hu ho hne he => hne ?_
    have hd := (declaredPrefix_of_key (.declaration rfl (hproper hu)) (hproper ho) he).2
    rwa [Attribute.declaredPrefix_declaring] at hd
  · intro key hkey other hother he
    subst he
    obtain ⟨a, ha, rfl⟩ := List.mem_map.mp hkey
    obtain ⟨b, hb, he⟩ := List.mem_map.mp hother
    obtain ⟨use, hu, rfl⟩ := List.mem_map.mp hb
    obtain ⟨hd, hp⟩ := declaredPrefix_of_key (h.proper.attributes a ha) (hproper hu) he.symm
    exact h.not_declared hu ha hd hp

theorem admitted_written : Admitted (writtenAttributes bindings tag) := by
  rw [writtenAttributes_eq h.proper]
  intro a ha hd q hq
  rcases List.mem_append.mp ha with ha | ha
  · cases h.attributes a ha with
    | declaration he _ hw =>
      subst he
      rw [Attribute.declaredPrefix_declaring] at hq
      obtain ⟨-, hx, hxmlns, -, hu⟩ := hw q hq
      rw [if_neg hx, Attribute.value_declaring]
      exact ⟨hxmlns, hu⟩
    | plain hn _ =>
      have hs : a.name.space = some declarationNamespace := beq_iff_eq.mp hd
      exact absurd hs hn.space
  · obtain ⟨use, hu, rfl⟩ := List.mem_map.mp ha
    rw [Attribute.declaredPrefix_declaring] at hq
    rw [Attribute.value_declaring]
    have hm := (lacking_sublist _ _).subset hu
    obtain ⟨name, hn, rfl⟩ := h.name_of_use hm
    have hne : q ≠ "xml" := by
      rintro rfl
      refine not_provided_of_lacking h.coherent hu ?_
      rw [hq, find?_xml]
      exact (h.coherent.xml _ hm hq).symm
    obtain ⟨uri, hs, -⟩ := hn.bound q hq
    have huse : name.use.2 = uri := by simp [QName.use, hs]
    rw [if_neg hne, huse]
    refine ⟨fun e => hn.xmlns (by rw [← e]; exact hq), fun e => ?_,
      fun e => hn.space (by rw [hs, e])⟩
    exact hne (Option.some.inj (hq.symm.trans (hn.xml.mpr (by rw [hs, e]))))

theorem readable : tag.Readable bindings := ⟨h.distinct_written, h.admitted_written⟩

end Tag.Writable

/-- A name whose meaning is in force is read as it is if and only if its URI is clean. -/
theorem resolve_eq_iff {bindings : Bindings} {name : QName} (hs : name.space ≠ some "")
    (hf : (bindings.find? name.prefixName).getD "" = name.space.getD "") :
    bindings.resolve name = name ↔ Clean name.use.2 := by
  obtain ⟨p, l, space⟩ := name
  simp only [Bindings.resolve, QName.use, QName.mk.injEq, true_and] at hs hf ⊢
  cases space with
  | none =>
    have hclean : Clean "" := fun c hc => by simp at hc
    cases hb : bindings.find? p with
    | none => simpa using hclean
    | some uri =>
      rw [hb] at hf
      have hu : uri = "" := hf
      simpa [hu] using hclean
  | some uri =>
    have hne : uri ≠ "" := fun e => hs (by rw [e])
    cases hb : bindings.find? p with
    | none =>
      rw [hb] at hf
      exact absurd hf.symm hne
    | some v =>
      rw [hb] at hf
      have hv : v = uri := hf
      simp [hv, hne, escapeValue_eq_self_iff, Clean]

theorem resolve_eq {bindings : Bindings} {name : QName} (h : name.Writable)
    (hf : (bindings.find? name.prefixName).getD "" = name.space.getD "") :
    bindings.resolve name = name := by
  refine (resolve_eq_iff h.nonempty hf).mpr ?_
  unfold QName.use
  cases hs : name.space with
  | none => exact fun c hc => by simp at hc
  | some uri => exact h.clean uri hs

namespace Tag.Writable

variable {tag : Tag} (h : tag.Writable) {bindings : Bindings}

include h

theorem find?_repairs {use : Option String × String} (hu : use ∈ tag.uses) :
    ((repairs bindings tag).1.find? use.1).getD "" = use.2 := by
  rw [repairs_fst h.proper]
  exact provided_of_coherent h.coherent _ hu

theorem resolve_name : (repairs bindings tag).1.resolve tag.name = tag.name :=
  resolve_eq h.name (h.find?_repairs (List.mem_cons_self ..))

theorem resolve_attributes :
    (writtenAttributes bindings tag).map (repairs bindings tag).1.resolveAttribute =
      writtenAttributes bindings tag := by
  conv => rhs; rw [← List.map_id (writtenAttributes bindings tag)]
  refine List.map_congr_left fun a ha => ?_
  unfold Bindings.resolveAttribute
  split
  · rfl
  · rename_i hd
    simp only [Bool.or_eq_true, not_or, Bool.not_eq_true] at hd
    rw [writtenAttributes_eq h.proper] at ha
    rcases List.mem_append.mp ha with ha | ha
    · have hu := use_mem_uses ha hd.1 (by simpa using hd.2)
      rw [resolve_eq (h.plainName ha hd.1) (h.find?_repairs hu)]
      rfl
    · obtain ⟨use, -, rfl⟩ := List.mem_map.mp ha
      rw [Attribute.isDeclaration_declaring] at hd
      cases hd.1

end Tag.Writable

namespace Node

mutual

theorem repaired_repair (bindings : Bindings) : ∀ n : Node, n.Writable →
    Repaired bindings n (n.repair bindings)
  | .element tag children, h => by
    obtain ⟨ht, -, hc⟩ := h
    have hr := repairedAll_repairAll (repairs bindings tag).1 children hc
    rw [repairs_fst_eq_declareAll ht.proper, writtenAttributes_eq ht.proper] at hr
    rw [repair, writtenAttributes_eq ht.proper, repairs_fst_eq_declareAll ht.proper,
      writtenAttributes_eq ht.proper]
    exact .element ht.supplies hr
  | .text _, _ | .cdata _, _ | .comment _, _ | .instruction .., _ | .doctype _, _
  | .reference _, _ => .leaf rfl
  | .declaration _, h => h.elim

theorem repairedAll_repairAll (bindings : Bindings) : ∀ nodes : List Node, WritableAll nodes →
    RepairedAll bindings nodes (repairAll bindings nodes)
  | [], _ => .nil
  | node :: rest, h =>
    .cons (repaired_repair bindings node h.1) (repairedAll_repairAll bindings rest h.2)

end

end Node

end XmlTemplate.Markup
