import XmlTemplate.Proofs.Markup.TagText
import XmlTemplate.Markup.Reader

/-!
# Namespaces written and read

The writer keeps the declarations that are in force in its output, the reader those that it has
met. They agree as long as the reader admits what is declared; the reader compares URIs as they
are written, with their references.

* `Admissible`: the declarations that the reader admits.
* `Attribute.Proper`, `Tag.Proper`: tags that are read as they are meant.
* `Agrees bindings scope`: every prefix stands for the same URI on both sides.
* `declare_attributes`: the declarations of a tag are admitted or not, and if they are, both sides
  agree within it.
* `Agrees.ofPrefix?`, `Agrees.default?`: what the reader finds for a name.
-/

namespace XmlTemplate.Markup

/-! ## Proper tags -/

/-- A name whose prefix, if it has one, stands for a namespace. -/
def QName.Bound (name : QName) : Prop :=
  ∀ p, name.prefixName = some p → ∃ uri, name.space = some uri ∧ uri ≠ ""

namespace Attribute

/-- A declaration of a name or of the default namespace, or an attribute that cannot be taken for a
declaration. -/
inductive Proper (a : Attribute) : Prop where
  | declaration {p : Option String} {uri : String} : a = .declaring p uri →
    (∀ q, p = some q → isNCName q.toList = true) → Proper a
  | plain : a.isDeclaration = false → a.name.Proper → a.name.Bound →
    a.name.prefixName ≠ some "xmlns" →
    (a.name.prefixName = none → a.name.localName ≠ "xmlns" ∧ a.name.space = none) → Proper a

theorem isDeclaration_declaring (p : Option String) (uri : String) :
    (declaring p uri).isDeclaration = true := by
  cases p <;> rfl

theorem declaredPrefix_declaring (p : Option String) (uri : String) :
    (declaring p uri).declaredPrefix = p := by
  cases p <;> rfl

theorem value_declaring (p : Option String) (uri : String) : (declaring p uri).value = uri := by
  cases p <;> rfl

/-- A proper attribute that is a declaration declares its prefix. -/
theorem Proper.eq_declaring {a : Attribute} (h : a.Proper) (hd : a.isDeclaration = true) :
    a = .declaring a.declaredPrefix a.value ∧
      ∀ q, a.declaredPrefix = some q → isNCName q.toList = true := by
  cases h with
  | declaration ha hq =>
    subst ha
    rw [declaredPrefix_declaring, value_declaring]
    exact ⟨rfl, hq⟩
  | plain hn => rw [hn] at hd; cases hd

end Attribute

/-- A tag whose names are read as they are meant. -/
structure Tag.Proper (tag : Tag) : Prop where
  name : tag.name.Proper
  bound : tag.name.Bound
  attributes : ∀ a ∈ tag.attributes, a.Proper

theorem plain_xmlns : Plain "xmlns".toList := plain_of_isNCName (by decide)

theorem plain_declaring {p : Option String} {uri : String}
    (h : ∀ q, p = some q → isNCName q.toList = true) :
    Plain (Attribute.declaring p uri).name.qualified.toList := by
  rw [QName.toList_qualified]
  cases p with
  | none =>
    simp only [Attribute.declaring, List.nil_append]
    exact plain_xmlns
  | some q =>
    simp only [Attribute.declaring]
    exact (plain_xmlns.append Plain.colon).append (plain_of_isNCName (h q rfl))

theorem Attribute.Proper.quotable {a : Attribute} (h : a.Proper) :
    (RawAttribute.of a).Quotable where
  key := by
    rw [RawAttribute.key_of]
    cases h with
    | declaration ha hq =>
      subst ha
      exact plain_declaring hq
    | plain _ hn _ _ _ => exact hn.plain
  ne_nil := by
    rw [RawAttribute.key_of]
    cases h with
    | declaration ha hq =>
      subst ha
      rw [QName.toList_qualified]
      rename_i p _
      cases p <;> simp [Attribute.declaring]
    | plain _ hn _ _ _ => exact hn.ne_nil
  value := by
    rw [RawAttribute.value_of]
    exact fun c hc => (escapeValue_free a.value c hc).2.2.1

/-! ## Declarations -/

/-- The reader admits it that the prefix is bound to the URI. -/
def Admissible (p : Option String) (uri : String) : Prop :=
  ∀ q, p = some q →
    if q = "xml" then uri = xmlNamespace
    else q ≠ "xmlns" ∧ uri ≠ xmlNamespace ∧ uri ≠ declarationNamespace

/-- All declarations among the attributes are admitted. -/
def Admitted (attributes : List Attribute) : Prop :=
  ∀ a ∈ attributes, a.isDeclaration = true → Admissible a.declaredPrefix a.value

/-- The URI of a prefix as it is written. -/
def written (uri : Option String) : Option (List Char) := uri.map fun u => (escapeValue u).toList

/-- Prefixes stand for the same on both sides. `xml` is bound once and for all, and `xmlns` is
never declared. -/
structure Agrees (bindings : Bindings) (scope : Scope) : Prop where
  named {p : String} : p ≠ "" → p ≠ "xml" → p ≠ "xmlns" →
    scope.lookup p.toList = written (bindings.lookup (some p))
  default : scope.lookup [] = written (bindings.lookup none)
  xml : scope.lookup "xml".toList = some xmlNamespace.toList
  xmlns : bindings.lookup (some "xmlns") = none

theorem lookup_cons_of_ne {α β : Type} [BEq α] [LawfulBEq α] {k k' : α} (h : k ≠ k') (v : β)
    (l : List (α × β)) : List.lookup k ((k', v) :: l) = List.lookup k l := by
  have hb : (k == k') = false := beq_eq_false_iff_ne.mpr h
  simp [List.lookup_cons, hb]

theorem Agrees.initial : Agrees [] Scope.initial where
  named {p} _ h₁ h₂ := by
    unfold Scope.initial
    rw [lookup_cons_of_ne (fun e => h₂ (String.toList_inj.mp e)),
      lookup_cons_of_ne (fun e => h₁ (String.toList_inj.mp e))]
    rfl
  default := rfl
  xml := rfl
  xmlns := rfl

namespace Agrees

variable {bindings : Bindings} {scope : Scope}

/-- A binding that the reader admits is one more on both sides. -/
theorem cons_default (h : Agrees bindings scope) (uri : String) :
    Agrees ((none, uri) :: bindings) (([], (escapeValue uri).toList) :: scope) where
  named {p} h₀ h₁ h₂ := by
    have hp : p.toList ≠ [] := fun e => h₀ (String.toList_inj.mp e)
    rw [lookup_cons_of_ne hp, lookup_cons_of_ne (by simp), h.named h₀ h₁ h₂]
  default := by simp [written]
  xml := by rw [lookup_cons_of_ne (by decide), h.xml]
  xmlns := by rw [lookup_cons_of_ne (by simp), h.xmlns]

theorem cons_named (h : Agrees bindings scope) {q : String} (h₀ : q ≠ "") (h₁ : q ≠ "xml")
    (h₂ : q ≠ "xmlns") (uri : String) :
    Agrees ((some q, uri) :: bindings) ((q.toList, (escapeValue uri).toList) :: scope) where
  named {p} hp₀ hp₁ hp₂ := by
    by_cases hpq : p = q
    · subst hpq
      simp [written]
    · rw [lookup_cons_of_ne (fun e => hpq (String.toList_inj.mp e)),
        lookup_cons_of_ne (by simpa using hpq), h.named hp₀ hp₁ hp₂]
  default := by
    have hq : [] ≠ q.toList := fun e => h₀ (String.toList_inj.mp e.symm)
    rw [lookup_cons_of_ne hq, lookup_cons_of_ne (by simp), h.default]
  xml := by
    rw [lookup_cons_of_ne (fun e => h₁ (String.toList_inj.mp e).symm), h.xml]
  xmlns := by
    rw [lookup_cons_of_ne (by simpa using h₂.symm), h.xmlns]

/-- A second binding of `xml` changes nothing. -/
theorem cons_xml (h : Agrees bindings scope) (uri : String) :
    Agrees ((some "xml", uri) :: bindings) scope where
  named {p} h₀ h₁ h₂ := by
    rw [lookup_cons_of_ne (by simpa using h₁), h.named h₀ h₁ h₂]
  default := by rw [lookup_cons_of_ne (by simp), h.default]
  xml := h.xml
  xmlns := by rw [lookup_cons_of_ne (by simp), h.xmlns]

end Agrees

/-- What is written for a URI is compared to a reserved one as the URI itself. -/
theorem toList_escapeValue_eq_iff {uri reserved : String}
    (h : ∀ c ∈ reserved.toList, isSpecial c = false) :
    (escapeValue uri).toList = reserved.toList ↔ uri = reserved := by
  rw [String.toList_inj, escapeValue_eq_iff h]

theorem isSpecial_xmlNamespace : ∀ c ∈ xmlNamespace.toList, isSpecial c = false :=
  Text.forall_of_all (by decide)

theorem isSpecial_declarationNamespace :
    ∀ c ∈ declarationNamespace.toList, isSpecial c = false :=
  Text.forall_of_all (by decide)

theorem toList_beq (s t : String) : (s.toList == t.toList) = (s == t) := by
  rw [Bool.eq_iff_iff, beq_iff_eq, beq_iff_eq, String.toList_inj]

section Declaring

variable (scope : Scope) (uri : String) (raw : List Char)

/-- The default namespace may be anything. -/
theorem bind_declaring_none : scope.bind (Attribute.declaring none uri).name.qualified.toList
    (prefixText none) raw = .ok (([], raw) :: scope) := by
  have hkey : ((Attribute.declaring none uri).name.qualified.toList == "xmlns".toList) = true := by
    simp only [Attribute.declaring]
    rfl
  rw [Scope.bind, if_pos hkey]
  rfl

/-- A prefix is bound to anything but what is reserved. -/
theorem bind_declaring_some (q : String) :
    scope.bind (Attribute.declaring (some q) uri).name.qualified.toList (prefixText (some q)) raw =
      if q = "xml" then
        if raw = xmlNamespace.toList then .ok scope else .error .rebindsXml
      else if q = "xmlns" then .error .bindsXmlns
      else if raw = xmlNamespace.toList then .error .prefixForXml
      else if raw = declarationNamespace.toList then .error .prefixForXmlns
      else .ok ((q.toList, raw) :: scope) := by
  have hkey :
      ((Attribute.declaring (some q) uri).name.qualified.toList == "xmlns".toList) = false := by
    rw [beq_eq_false_iff_ne, QName.toList_qualified]
    simp [Attribute.declaring]
  unfold Scope.bind prefixText
  simp only [hkey, toList_beq, beq_iff_eq, Bool.false_eq_true, if_false]

end Declaring

/-- What the reader makes of one declaration. -/
theorem bind_declaring {bindings : Bindings} {scope : Scope} (h : Agrees bindings scope)
    {p : Option String} (hp : ∀ q, p = some q → isNCName q.toList = true) (uri : String) :
    (Admissible p uri → ∃ scope', scope.bind (Attribute.declaring p uri).name.qualified.toList
      (prefixText p) (escapeValue uri).toList = .ok scope' ∧ Agrees ((p, uri) :: bindings) scope') ∧
    (¬ Admissible p uri → ∃ fault, scope.bind (Attribute.declaring p uri).name.qualified.toList
      (prefixText p) (escapeValue uri).toList = .error fault) := by
  cases p with
  | none =>
    rw [bind_declaring_none]
    exact ⟨fun _ => ⟨_, rfl, h.cons_default uri⟩, fun hn => (hn fun q hq => by cases hq).elim⟩
  | some q =>
    have hne : q ≠ "" := by
      rintro rfl
      have := hp "" rfl
      revert this
      decide
    have hadm : Admissible (some q) uri ↔
        if q = "xml" then uri = xmlNamespace
        else q ≠ "xmlns" ∧ uri ≠ xmlNamespace ∧ uri ≠ declarationNamespace :=
      ⟨fun ha => ha q rfl, fun ha r hr => by cases hr; exact ha⟩
    rw [hadm, bind_declaring_some]
    simp only [toList_escapeValue_eq_iff isSpecial_xmlNamespace,
      toList_escapeValue_eq_iff isSpecial_declarationNamespace]
    split
    · rename_i hq
      subst hq
      split
      · exact ⟨fun _ => ⟨scope, rfl, h.cons_xml _⟩, fun hn => absurd ‹_› hn⟩
      · exact ⟨fun ha => absurd ha ‹_›, fun _ => ⟨_, rfl⟩⟩
    · rename_i hxml
      split
      · exact ⟨fun ha => absurd ‹_› ha.1, fun _ => ⟨_, rfl⟩⟩
      · rename_i hx
        split
        · exact ⟨fun ha => absurd ‹_› ha.2.1, fun _ => ⟨_, rfl⟩⟩
        · rename_i hu
          split
          · exact ⟨fun ha => absurd ‹_› ha.2.2, fun _ => ⟨_, rfl⟩⟩
          · rename_i hd
            exact ⟨fun _ => ⟨_, rfl, h.cons_named hne hxml hx uri⟩,
              fun hn => absurd ⟨hx, hu, hd⟩ hn⟩

theorem declaredPrefix?_of {a : Attribute} (h : a.Proper) :
    Scope.declaredPrefix? (RawAttribute.of a).key =
      if a.isDeclaration then some (prefixText a.declaredPrefix) else none := by
  by_cases hd : a.isDeclaration = true
  · rw [if_pos hd, RawAttribute.key_of, (h.eq_declaring hd).1, Attribute.declaredPrefix_declaring]
    exact declaredPrefix?_declaring _ _
  · rw [if_neg hd, RawAttribute.key_of]
    cases h with
    | declaration ha => exact absurd (ha ▸ Attribute.isDeclaration_declaring _ _) hd
    | plain _ hn _ hx hl => exact declaredPrefix?_eq_none hn hx fun hp => (hl hp).1

theorem admitted_cons {a : Attribute} {rest : List Attribute} :
    Admitted (a :: rest) ↔
      (a.isDeclaration = true → Admissible a.declaredPrefix a.value) ∧ Admitted rest := by
  simp [Admitted]

/-- The declarations of a tag are admitted or not, and if they are, both sides agree within it. -/
theorem declare_attributes {bindings : Bindings} {scope : Scope} (h : Agrees bindings scope)
    {attributes : List Attribute} (hp : ∀ a ∈ attributes, a.Proper) :
    (Admitted attributes → ∃ scope', scope.declare (attributes.map RawAttribute.of) = .ok scope' ∧
      Agrees (bindings.declareAll attributes) scope') ∧
    (¬ Admitted attributes →
      ∃ fault, scope.declare (attributes.map RawAttribute.of) = .error fault) := by
  induction attributes generalizing bindings scope with
  | nil => exact ⟨fun _ => ⟨scope, rfl, h⟩, fun hn => (hn fun a ha => by cases ha).elim⟩
  | cons a rest ih =>
    have hrest : ∀ b ∈ rest, b.Proper := fun b hb => hp b (List.mem_cons_of_mem _ hb)
    have ha := hp a (List.mem_cons_self ..)
    rw [admitted_cons, List.map_cons, Scope.declare, declaredPrefix?_of ha, Bindings.declareAll]
    by_cases hd : a.isDeclaration = true
    · obtain ⟨he, hq⟩ := ha.eq_declaring hd
      obtain ⟨hok, herr⟩ := bind_declaring h hq a.value
      rw [← he, ← RawAttribute.key_of, ← RawAttribute.value_of] at hok herr
      simp only [hd, if_true, true_implies]
      by_cases hadm : Admissible a.declaredPrefix a.value
      · obtain ⟨scope₁, hb, hagree⟩ := hok hadm
        obtain ⟨hok', herr'⟩ := ih hagree hrest
        rw [hb]
        exact ⟨fun hr => hok' hr.2, fun hr => herr' fun hr' => hr ⟨hadm, hr'⟩⟩
      · obtain ⟨fault, hb⟩ := herr hadm
        rw [hb]
        exact ⟨fun hr => absurd hr.1 hadm, fun _ => ⟨fault, rfl⟩⟩
    · simp only [hd, if_false, false_implies, true_and, Bool.false_eq_true]
      exact ih h hrest

/-! ## Names -/

section Names

variable {bindings : Bindings} {scope : Scope} (h : Agrees bindings scope)

include h

/-- A prefix that is bound in the output is bound for the reader, to what is written for its
URI. -/
theorem Agrees.ofPrefix? {p uri : String} (hp : p ≠ "")
    (hf : bindings.find? (some p) = some uri) (hu : uri ≠ "") :
    scope.ofPrefix? p.toList = some (escapeValue uri).toList := by
  refine ofPrefix?_eq_some_iff.mpr ⟨fun e => hp (String.toList_inj.mp e), ?_,
    fun e => hu (escapeValue_eq_empty_iff.mp (String.toList_inj.mp e))⟩
  unfold Bindings.find? at hf
  split at hf
  · rename_i hx
    cases hx
    cases hf
    rw [h.xml, escapeValue_eq_xmlNamespace_iff.mpr rfl]
  · rename_i hx
    by_cases hn : p = "xmlns"
    · rw [hn, h.xmlns] at hf
      cases hf
    · rw [h.named hp (fun e => hx (by rw [e])) hn, hf]
      rfl

theorem Agrees.default? : scope.default? = written ((bindings.find? none).filter (· ≠ "")) := by
  unfold Scope.default? Bindings.find?
  rw [if_neg (by simp), h.default]
  cases hb : bindings.lookup none with
  | none => rfl
  | some uri =>
    by_cases hu : uri = ""
    · subst hu
      rfl
    · have hw : (!(escapeValue uri).toList.isEmpty) = true := by
        rw [Bool.not_eq_true', List.isEmpty_eq_false_iff]
        exact fun e => hu (escapeValue_eq_empty_iff.mp (String.toList_inj.mp e))
      simp only [written, Option.map_some, Option.filter_some, hw, if_true, ne_eq, hu,
        not_false_eq_true, decide_true]

end Names

end XmlTemplate.Markup
