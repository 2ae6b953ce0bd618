import XmlTemplate.Proofs.Markup.Namespaces
import XmlTemplate.Proofs.Markup.Reading

/-!
# Tags written and read

A tag is written with the declarations that its names still need, and it is read if no key is
repeated then and every declaration is admitted.

* `Tag.uses`, `lacking`: what the names of a tag need to be bound, and what of it is not.
  `repairs_eq` is the declarations that the writer adds in these terms.
* `Tag.Readable`: when a tag that was written is read.
* `readTag_inside`, `readTag_refused`: what is read then, and that nothing is otherwise.
-/

namespace XmlTemplate.Markup

/-! ## What names need -/

/-- What a name needs: that its prefix, or the default namespace, is bound to its namespace. -/
def QName.use (name : QName) : Option String × String := (name.prefixName, name.space.getD "")

/-- What the names of a tag need. An attribute without a prefix needs nothing. -/
def Tag.uses (tag : Tag) : List (Option String × String) :=
  tag.name.use ::
    ((tag.plainAttributes.map (·.name)).filter (·.prefixName.isSome)).map QName.use

theorem forall_uses_iff {tag : Tag} {P : Option String × String → Prop} :
    (∀ use ∈ tag.uses, P use) ↔ P tag.name.use ∧ ∀ a ∈ tag.attributes,
      a.isDeclaration = false → a.name.prefixName.isSome = true → P a.name.use := by
  rw [Tag.uses, List.forall_mem_cons]
  refine and_congr_right' ⟨fun h a ha hd hp => ?_, fun h use hu => ?_⟩
  · have hplain : a.name ∈ tag.plainAttributes.map (·.name) :=
      List.mem_map_of_mem (List.mem_filter.mpr ⟨ha, by simp [hd]⟩)
    exact h _ (List.mem_map_of_mem (List.mem_filter.mpr ⟨hplain, hp⟩))
  · obtain ⟨name, hn, rfl⟩ := List.mem_map.mp hu
    obtain ⟨hn, hp⟩ := List.mem_filter.mp hn
    obtain ⟨a, ha, rfl⟩ := List.mem_map.mp hn
    obtain ⟨ha, hd⟩ := List.mem_filter.mp ha
    exact h a ha (by simpa using hd) hp

/-- A name in a proper tag is proper, and its prefix stands for a namespace. -/
theorem Tag.Proper.plainName {tag : Tag} (h : tag.Proper) {a : Attribute}
    (ha : a ∈ tag.attributes) (hd : a.isDeclaration = false) : a.name.Proper ∧ a.name.Bound := by
  cases h.attributes a ha with
  | declaration he => simp [he, Attribute.isDeclaration_declaring] at hd
  | plain _ hname hbound _ _ => exact ⟨hname, hbound⟩

/-- What is needed in addition to what is bound. -/
def lacking (bindings : Bindings) : List (Option String × String) → List (Option String × String)
  | [] => []
  | use :: rest =>
    if (bindings.find? use.1).getD "" = use.2 then lacking bindings rest
    else use :: lacking (use :: bindings) rest

/-- Declarations of what is needed. -/
def declarations (uses : List (Option String × String)) : List Attribute :=
  uses.map fun use => .declaring use.1 use.2

theorem declareAll_append (bindings : Bindings) (as bs : List Attribute) :
    bindings.declareAll (as ++ bs) = (bindings.declareAll as).declareAll bs := by
  induction as generalizing bindings with
  | nil => rfl
  | cons a rest ih => exact ih _

theorem declareAll_declarations (bindings : Bindings) (uses : List (Option String × String)) :
    bindings.declareAll (declarations uses) = uses.reverse ++ bindings := by
  induction uses generalizing bindings with
  | nil => rfl
  | cons use rest ih =>
    simp only [declarations, List.map_cons, Bindings.declareAll,
      Attribute.isDeclaration_declaring, if_true, Attribute.declaredPrefix_declaring,
      Attribute.value_declaring]
    rw [← declarations, ih]
    simp

theorem lacking_sublist (bindings : Bindings) (uses : List (Option String × String)) :
    (lacking bindings uses).Sublist uses := by
  induction uses generalizing bindings with
  | nil => exact List.Sublist.slnil
  | cons use rest ih =>
    unfold lacking
    split
    · exact (ih _).cons use
    · exact (ih _).cons_cons use

/-! ## What the writer adds -/

section Repairs

variable {st : Bindings × List Attribute} {name : QName}

/-- The state of the writer after one more need. -/
def provide (st : Bindings × List Attribute) (use : Option String × String) :
    Bindings × List Attribute :=
  if (st.1.find? use.1).getD "" = use.2 then st
  else (use :: st.1, st.2 ++ [.declaring use.1 use.2])

theorem require_eq (hb : name.Bound) {isElement : Bool}
    (h : isElement = true ∨ name.prefixName.isSome = true) :
    Bindings.require isElement st name = provide st name.use := by
  have hne : (name.prefixName.isNone && !isElement) = false := by
    rcases h with rfl | h
    · simp
    · cases hp : name.prefixName with
      | none =>
        rw [hp] at h
        cases h
      | some p => rfl
  have hspace : (name.prefixName.isSome && (name.space.getD "").isEmpty) = false := by
    cases hp : name.prefixName with
    | none => rfl
    | some p =>
      obtain ⟨uri, hs, hu⟩ := hb p hp
      simp [hs, hu]
  unfold Bindings.require Bindings.missing? provide QName.use
  simp only [hne, hspace, Bool.false_or, Bool.or_false, decide_eq_true_eq]
  split
  · rename_i he
    split at he
    · cases he
    · rename_i hf
      cases he
      rw [if_neg hf]
  · rename_i he
    split at he
    · rename_i hf
      rw [if_pos hf]
    · cases he

theorem require_of_none (hp : name.prefixName = none) : Bindings.require false st name = st := by
  unfold Bindings.require Bindings.missing?
  simp [hp]

theorem foldl_require {names : List QName} (hb : ∀ n ∈ names, n.Bound) :
    names.foldl (Bindings.require false) st =
      ((names.filter (·.prefixName.isSome)).map QName.use).foldl provide st := by
  induction names generalizing st with
  | nil => rfl
  | cons name rest ih =>
    have hr := fun n hn => hb n (List.mem_cons_of_mem _ hn)
    rw [List.foldl_cons, ih hr]
    cases hp : name.prefixName with
    | none =>
      rw [require_of_none hp, List.filter_cons_of_neg (by simp [hp])]
    | some p =>
      rw [require_eq (hb name (List.mem_cons_self ..)) (.inr (by simp [hp])),
        List.filter_cons_of_pos (by simp [hp])]
      rfl

theorem foldl_provide (uses : List (Option String × String)) :
    uses.foldl provide st =
      ((lacking st.1 uses).reverse ++ st.1, st.2 ++ declarations (lacking st.1 uses)) := by
  induction uses generalizing st with
  | nil => simp [lacking, declarations]
  | cons use rest ih =>
    rw [List.foldl_cons, ih]
    by_cases h : (st.1.find? use.1).getD "" = use.2
    · rw [provide, if_pos h, lacking, if_pos h]
    · rw [provide, if_neg h, lacking, if_neg h]
      simp [declarations]

/-- A declaration is added for everything that the names of a tag need and that is not bound by
its own declarations or around it. -/
theorem repairs_eq (bindings : Bindings) {tag : Tag} (h : tag.Proper) :
    repairs bindings tag =
      let within := bindings.declareAll tag.attributes
      ((lacking within tag.uses).reverse ++ within, declarations (lacking within tag.uses)) := by
  have hb : ∀ n ∈ tag.plainAttributes.map (·.name), n.Bound := by
    intro n hn
    obtain ⟨a, ha, rfl⟩ := List.mem_map.mp hn
    obtain ⟨hm, hd⟩ := List.mem_filter.mp ha
    exact (h.plainName hm (by simpa using hd)).2
  unfold Tag.uses
  simp only [repairs]
  rw [require_eq h.bound (.inl rfl), foldl_require hb, ← List.foldl_cons (f := provide),
    foldl_provide]
  simp

end Repairs

/-! ## What is bound within a tag -/

/-- What is bound, together with what was lacking. -/
def provided (bindings : Bindings) (uses : List (Option String × String)) : Bindings :=
  (lacking bindings uses).reverse ++ bindings

theorem provided_cons (bindings : Bindings) (use : Option String × String)
    (rest : List (Option String × String)) :
    provided bindings (use :: rest) =
      if (bindings.find? use.1).getD "" = use.2 then provided bindings rest
      else provided (use :: bindings) rest := by
  unfold provided
  by_cases h : (bindings.find? use.1).getD "" = use.2
  · rw [if_pos h, lacking, if_pos h]
  · rw [if_neg h, lacking, if_neg h]
    simp

/-- What no use changes stays true of bindings to which is added what they lack. -/
theorem provided_induction {motive : Bindings → Prop} {uses : List (Option String × String)}
    (hcons : ∀ use ∈ uses, ∀ bindings, motive bindings → motive (use :: bindings))
    {bindings : Bindings} (h : motive bindings) : motive (provided bindings uses) := by
  induction uses generalizing bindings with
  | nil => exact h
  | cons use rest ih =>
    have hrest := fun u hm => hcons u (List.mem_cons_of_mem _ hm)
    rw [provided_cons]
    split
    · exact ih hrest h
    · exact ih hrest (hcons use (List.mem_cons_self ..) _ h)

theorem find?_cons_self {p : Option String} (hp : p ≠ some "xml") (uri : String)
    (bindings : Bindings) : Bindings.find? ((p, uri) :: bindings) p = some uri := by
  unfold Bindings.find?
  rw [if_neg hp, List.lookup_cons_self]

theorem find?_cons_of_ne {p q : Option String} (h : p ≠ q) (uri : String) (bindings : Bindings) :
    Bindings.find? ((q, uri) :: bindings) p = bindings.find? p := by
  unfold Bindings.find?
  rw [lookup_cons_of_ne h]

theorem find?_xml (bindings : Bindings) : bindings.find? (some "xml") = some xmlNamespace := by
  simp [Bindings.find?]

/-- A prefix stands for a namespace. -/
def BoundIn (bindings : Bindings) (p : String) : Prop :=
  ∃ uri, bindings.find? (some p) = some uri ∧ uri ≠ ""

/-- What is needed are namespaces, where prefixes are concerned. -/
def Meaningful (use : Option String × String) : Prop := ∀ p, use.1 = some p → use.2 ≠ ""

theorem BoundIn.cons {bindings : Bindings} {p : String} (h : BoundIn bindings p)
    {use : Option String × String} (hu : Meaningful use) : BoundIn (use :: bindings) p := by
  obtain ⟨uri, hf, hne⟩ := h
  by_cases hx : p = "xml"
  · subst hx
    exact ⟨xmlNamespace, find?_xml _, by decide⟩
  · by_cases hp : some p = use.1
    · exact ⟨use.2, by rw [hp]; exact find?_cons_self (by rw [← hp]; simpa using hx) _ _,
        hu p hp.symm⟩
    · exact ⟨uri, by rw [← hf]; exact find?_cons_of_ne hp _ _, hne⟩

theorem BoundIn.provided {bindings : Bindings} {p : String} (h : BoundIn bindings p)
    {uses : List (Option String × String)} (hu : ∀ use ∈ uses, Meaningful use) :
    BoundIn (provided bindings uses) p :=
  provided_induction (motive := (BoundIn · p)) (fun use hm _ hb => hb.cons (hu use hm)) h

/-- Every prefix that is used stands for a namespace, though it may be another one. -/
theorem boundIn_provided {bindings : Bindings} {uses : List (Option String × String)}
    (hu : ∀ use ∈ uses, Meaningful use) {p uri : String} (hm : (some p, uri) ∈ uses) :
    BoundIn (provided bindings uses) p := by
  induction uses generalizing bindings with
  | nil => cases hm
  | cons use rest ih =>
    have hr := fun u hm => hu u (List.mem_cons_of_mem _ hm)
    rw [provided_cons]
    rcases List.mem_cons.mp hm with rfl | hm
    · have hne : uri ≠ "" := hu (some p, uri) (List.mem_cons_self ..) p rfl
      split
      · rename_i he
        refine BoundIn.provided ⟨uri, ?_, hne⟩ hr
        cases hf : bindings.find? (some p) with
        | none =>
          rw [hf] at he
          exact absurd he.symm hne
        | some v =>
          rw [hf] at he
          exact congrArg some he
      · refine BoundIn.provided ?_ hr
        by_cases hx : p = "xml"
        · subst hx
          exact ⟨xmlNamespace, find?_xml _, by decide⟩
        · exact ⟨uri, find?_cons_self (by simpa using hx) _ _, hne⟩
    · split
      · exact ih hr hm
      · exact ih hr hm

/-! ## Uses that agree -/

/-- Names that share a prefix mean the same namespace by it, and `xml` means its own. -/
structure Coherent (uses : List (Option String × String)) : Prop where
  agree : ∀ use ∈ uses, ∀ other ∈ uses, use.1 = other.1 → use.2 = other.2
  xml : ∀ use ∈ uses, use.1 = some "xml" → use.2 = xmlNamespace

theorem Coherent.tail {use : Option String × String} {rest : List (Option String × String)}
    (h : Coherent (use :: rest)) : Coherent rest where
  agree a ha b hb := h.agree a (List.mem_cons_of_mem _ ha) b (List.mem_cons_of_mem _ hb)
  xml a ha := h.xml a (List.mem_cons_of_mem _ ha)

/-- A prefix that stands for what everything uses it for keeps standing for that. -/
theorem find?_cons_eq {bindings : Bindings} {p : Option String} {uri : String}
    (h : (bindings.find? p).getD "" = uri) {use : Option String × String}
    (hu : use.1 = p → use.2 = uri) : (Bindings.find? (use :: bindings) p).getD "" = uri := by
  by_cases hx : p = some "xml"
  · rw [← h, hx, find?_xml, find?_xml]
  · by_cases hp : p = use.1
    · have hne : use.1 ≠ some "xml" := hp ▸ hx
      rw [hp, find?_cons_self hne]
      exact hu hp.symm
    · rw [← h, find?_cons_of_ne hp]

theorem find?_provided_eq {bindings : Bindings} {p : Option String} {uri : String}
    (h : (bindings.find? p).getD "" = uri) {uses : List (Option String × String)}
    (hu : ∀ use ∈ uses, use.1 = p → use.2 = uri) :
    ((provided bindings uses).find? p).getD "" = uri :=
  provided_induction (motive := fun bindings => (bindings.find? p).getD "" = uri)
    (fun use hm _ hb => find?_cons_eq hb (hu use hm)) h

/-- Everything that is needed is provided. -/
theorem provided_of_coherent {uses : List (Option String × String)} (h : Coherent uses)
    (bindings : Bindings) {use : Option String × String} (hm : use ∈ uses) :
    ((provided bindings uses).find? use.1).getD "" = use.2 := by
  induction uses generalizing bindings with
  | nil => cases hm
  | cons first rest ih =>
    rw [provided_cons]
    rcases List.mem_cons.mp hm with rfl | hm
    · have hr : ∀ u ∈ rest, u.1 = use.1 → u.2 = use.2 := fun u hu he =>
        h.agree u (List.mem_cons_of_mem _ hu) use (List.mem_cons_self ..) he
      split
      · exact find?_provided_eq ‹_› hr
      · refine find?_provided_eq ?_ hr
        by_cases hx : use.1 = some "xml"
        · rw [hx, find?_xml]
          exact (h.xml use (List.mem_cons_self ..) hx).symm
        · rw [find?_cons_self hx]
          rfl
    · split
      · exact ih h.tail _ hm
      · exact ih h.tail _ hm

/-- What is lacking is not provided before. -/
theorem not_provided_of_lacking {uses : List (Option String × String)} (h : Coherent uses)
    {bindings : Bindings} {use : Option String × String} (hm : use ∈ lacking bindings uses) :
    (bindings.find? use.1).getD "" ≠ use.2 := by
  induction uses generalizing bindings with
  | nil => cases hm
  | cons first rest ih =>
    unfold lacking at hm
    split at hm
    · exact ih h.tail hm
    · rename_i hf
      rcases List.mem_cons.mp hm with rfl | hm
      · exact hf
      · intro he
        refine ih h.tail hm (find?_cons_eq he fun hp => ?_)
        exact h.agree first (List.mem_cons_self ..) use
          (List.mem_cons_of_mem _ ((lacking_sublist _ _).subset hm)) hp

/-- Nothing is lacking twice. -/
theorem nodup_lacking {uses : List (Option String × String)} (h : Coherent uses)
    (bindings : Bindings) : ((lacking bindings uses).map (·.1)).Nodup := by
  induction uses generalizing bindings with
  | nil => exact List.nodup_nil
  | cons use rest ih =>
    unfold lacking
    split
    · exact ih h.tail _
    · rw [List.map_cons, List.nodup_cons]
      refine ⟨fun hm => ?_, ih h.tail _⟩
      obtain ⟨other, ho, he⟩ := List.mem_map.mp hm
      have hmem : other ∈ rest := (lacking_sublist _ _).subset ho
      have hvalue : use.2 = other.2 := h.agree use (List.mem_cons_self ..) other
        (List.mem_cons_of_mem _ hmem) he.symm
      refine not_provided_of_lacking h.tail ho ?_
      by_cases hx : use.1 = some "xml"
      · rw [he, hx, find?_xml, ← hvalue]
        exact (h.xml use (List.mem_cons_self ..) hx).symm
      · rw [he, find?_cons_self hx, ← hvalue]
        rfl

/-! ## What is read -/

namespace Bindings

/-- A name as it is read where these bindings are in force. -/
def resolve (bindings : Bindings) (name : QName) : QName :=
  ⟨name.prefixName, name.localName,
    ((bindings.find? name.prefixName).filter (· ≠ "")).map escapeValue⟩

/-- An attribute as it is read there. -/
def resolveAttribute (bindings : Bindings) (a : Attribute) : Attribute :=
  if a.isDeclaration || a.name.prefixName.isNone then a
  else { a with name := bindings.resolve a.name }

end Bindings

/-- The attributes that are written for a tag. -/
def writtenAttributes (bindings : Bindings) (tag : Tag) : List Attribute :=
  tag.attributes ++ (repairs bindings tag).2

/-- The inside of the tag that is written. -/
def writtenTag (bindings : Bindings) (tag : Tag) : List Char :=
  tag.name.qualified.toList ++ sourceOfAll ((writtenAttributes bindings tag).map RawAttribute.of)

/-- A tag that is read again: no key is repeated and all declarations are admitted. -/
structure Tag.Readable (bindings : Bindings) (tag : Tag) : Prop where
  distinct : ((writtenAttributes bindings tag).map (·.name.qualified)).Nodup
  admitted : Admitted (writtenAttributes bindings tag)

theorem Tag.Proper.meaningful {tag : Tag} (h : tag.Proper) : ∀ use ∈ tag.uses, Meaningful use := by
  have of_bound {name : QName} (hb : name.Bound) : Meaningful name.use := by
    intro p hp
    obtain ⟨uri, hs, hne⟩ := hb p hp
    simpa [QName.use, hs] using hne
  exact forall_uses_iff.mpr ⟨of_bound h.bound, fun a ha hd _ => of_bound (h.plainName ha hd).2⟩

section Written

variable {bindings : Bindings} {tag : Tag}

theorem writtenAttributes_eq (h : tag.Proper) : writtenAttributes bindings tag =
    tag.attributes ++ declarations (lacking (bindings.declareAll tag.attributes) tag.uses) := by
  unfold writtenAttributes
  rw [repairs_eq bindings h]

theorem repairs_fst (h : tag.Proper) :
    (repairs bindings tag).1 = provided (bindings.declareAll tag.attributes) tag.uses := by
  rw [repairs_eq bindings h]
  rfl

/-- Within a tag what is written in it is in force. -/
theorem repairs_fst_eq_declareAll (h : tag.Proper) :
    (repairs bindings tag).1 = bindings.declareAll (writtenAttributes bindings tag) := by
  rw [writtenAttributes_eq h, declareAll_append, declareAll_declarations, repairs_fst h]
  rfl

/-- The names of a tag are those that its uses come from. -/
theorem use_mem_uses {a : Attribute} (ha : a ∈ tag.attributes) (hd : a.isDeclaration = false)
    (hp : a.name.prefixName.isSome = true) : a.name.use ∈ tag.uses :=
  (forall_uses_iff.mp fun _ hu => hu).2 a ha hd hp

theorem proper_of_mem_uses (h : tag.Proper) {use : Option String × String} (hm : use ∈ tag.uses) :
    ∀ q, use.1 = some q → isNCName q.toList = true := by
  have hproper : ∀ use ∈ tag.uses, ∀ q, use.1 = some q → isNCName q.toList = true :=
    forall_uses_iff.mpr
      ⟨h.name.prefixPart, fun a ha hd _ => (h.plainName ha hd).1.prefixPart⟩
  exact hproper use hm

theorem proper_written (h : tag.Proper) : ∀ a ∈ writtenAttributes bindings tag, a.Proper := by
  rw [writtenAttributes_eq h]
  intro a ha
  rcases List.mem_append.mp ha with ha | ha
  · exact h.attributes a ha
  · obtain ⟨use, hu, rfl⟩ := List.mem_map.mp ha
    exact .declaration rfl (proper_of_mem_uses h ((lacking_sublist _ _).subset hu))

end Written

section Names

variable {bindings : Bindings} {scope : Scope} (h : Agrees bindings scope)

include h

theorem ofPrefix?_resolve {name : QName} (hn : name.Proper) {p : String}
    (hp : name.prefixName = some p) (hb : BoundIn bindings p) :
    ∃ uri, scope.ofPrefix? p.toList = some uri ∧
      bindings.resolve name = ⟨some p, name.localName, some (String.ofList uri)⟩ := by
  obtain ⟨uri, hf, hne⟩ := hb
  have hnp : p ≠ "" := by
    rintro rfl
    exact ne_nil_of_isNCName (hn.prefixPart _ hp) rfl
  refine ⟨(escapeValue uri).toList, h.ofPrefix? hnp hf hne, ?_⟩
  unfold Bindings.resolve
  rw [hp, hf, String.ofList_toList]
  simp only [Option.filter_some, ne_eq, hne, not_false_eq_true, decide_true, if_true,
    Option.map_some]

/-- A name of an element whose prefix is bound is resolved. -/
theorem ofElement_eq {name : QName} (hn : name.Proper)
    (hb : ∀ p, name.prefixName = some p → BoundIn bindings p) :
    scope.ofElement name.qualified.toList = .ok (bindings.resolve name) := by
  unfold Scope.ofElement
  rw [cutName_qualified hn]
  cases hp : name.prefixName with
  | none =>
    have hd : scope.default?.map String.ofList =
        ((bindings.find? none).filter (· ≠ "")).map escapeValue := by
      rw [h.default?]
      cases (bindings.find? none).filter (· ≠ "") <;> simp [written]
    simp only [Option.map_none, String.ofList_toList, hd, Bindings.resolve, hp]
  | some p =>
    obtain ⟨uri, hof, hr⟩ := ofPrefix?_resolve h hn hp (hb p hp)
    simp only [Option.map_some, hof, String.ofList_toList, hr]

/-- So is the name of an attribute; a declaration stays what it is. -/
theorem ofAttribute_eq {a : Attribute} (ha : a.Proper)
    (hb : a.isDeclaration = false → ∀ p, a.name.prefixName = some p → BoundIn bindings p) :
    scope.ofAttribute a.name.qualified.toList = .ok (bindings.resolveAttribute a).name := by
  have hkey := declaredPrefix?_of ha
  rw [RawAttribute.key_of] at hkey
  unfold Scope.ofAttribute Bindings.resolveAttribute
  rw [hkey]
  by_cases hd : a.isDeclaration = true
  · obtain ⟨he, -⟩ := ha.eq_declaring hd
    simp only [hd, if_true, Bool.true_or]
    have hx (p : Option String) (uri : String) :
        (if ((Attribute.declaring p uri).name.qualified.toList == "xmlns".toList) = true then
          Except.ok (QName.mk none "xmlns" (some declarationNamespace))
        else Except.ok (⟨some "xmlns", String.ofList (prefixText p), some declarationNamespace⟩ :
          QName) : Except (List Char) QName) = .ok (Attribute.declaring p uri).name := by
      rw [QName.toList_qualified]
      cases p with
      | none => simp [Attribute.declaring]
      | some p => simp [Attribute.declaring, prefixText]
    have hx := hx a.declaredPrefix a.value
    rw [← he] at hx
    exact hx
  · have hd : a.isDeclaration = false := Bool.eq_false_iff.mpr hd
    cases ha with
    | declaration he => simp [he, Attribute.isDeclaration_declaring] at hd
    | plain _ hn _ _ hl =>
      simp only [hd, Bool.false_eq_true, if_false, Bool.false_or]
      rw [cutName_qualified hn]
      cases hp : a.name.prefixName with
      | none =>
        have hname : a.name = ⟨none, a.name.localName, none⟩ := by
          obtain ⟨-, hs⟩ := hl hp
          cases hname : a.name with
          | mk p l s =>
            rw [hname] at hp hs
            cases hp
            cases hs
            rfl
        simp only [Option.map_none, String.ofList_toList, Option.isNone_none, if_true]
        exact congrArg Except.ok hname.symm
      | some p =>
        obtain ⟨uri, hof, hr⟩ := ofPrefix?_resolve h hn hp (hb hd p hp)
        simp only [Option.map_some, hof, String.ofList_toList, Option.isNone_some,
          Bool.false_eq_true, if_false, hr]

/-- Attributes that were written are decoded to their values. -/
theorem readAttributes_eq {attributes : List Attribute} (ha : ∀ a ∈ attributes, a.Proper)
    (hb : ∀ a ∈ attributes, a.isDeclaration = false →
      ∀ p, a.name.prefixName = some p → BoundIn bindings p) (offset : Nat) :
    readAttributes scope offset (attributes.map RawAttribute.of) =
      .ok (attributes.map bindings.resolveAttribute) := by
  induction attributes with
  | nil => rfl
  | cons a rest ih =>
    have hr := ih (fun b hm => ha b (List.mem_cons_of_mem _ hm))
      (fun b hm => hb b (List.mem_cons_of_mem _ hm))
    have hname := ofAttribute_eq h (ha a (List.mem_cons_self ..)) (hb a (List.mem_cons_self ..))
    have hvalue : (⟨(bindings.resolveAttribute a).name, String.ofList a.value.toList⟩ : Attribute) =
        bindings.resolveAttribute a := by
      rw [String.ofList_toList]
      unfold Bindings.resolveAttribute
      split <;> rfl
    rw [List.map_cons, readAttributes, RawAttribute.value_of, unescapeValue_escapeValue,
      RawAttribute.key_of]
    simp only [hname, hr, hvalue]
    rfl

end Names

/-! ## Tags -/

section Tags

variable {bindings : Bindings} {scope : Scope} {tag : Tag}

theorem boundIn_repairs (h : tag.Proper) {use : Option String × String} (hu : use ∈ tag.uses) :
    ∀ p, use.1 = some p → BoundIn (repairs bindings tag).1 p := by
  rintro p hp
  rw [repairs_fst h]
  have hm : (some p, use.2) ∈ tag.uses := by
    rw [← hp]
    exact hu
  exact boundIn_provided h.meaningful hm

theorem keys_written :
    ((writtenAttributes bindings tag).map RawAttribute.of).map (·.key) =
      ((writtenAttributes bindings tag).map (·.name.qualified)).map String.toList := by
  rw [List.map_map, List.map_map]
  refine List.map_congr_left fun a _ => ?_
  exact RawAttribute.key_of a

theorem quotable_written (h : tag.Proper) :
    ∀ a ∈ (writtenAttributes bindings tag).map RawAttribute.of, a.Quotable := by
  intro raw hr
  obtain ⟨a, ha, rfl⟩ := List.mem_map.mp hr
  exact (proper_written h a ha).quotable

/-- What has to hold for a written tag to be read. -/
theorem readTag_written_iff (h : tag.Proper) {place : Place} {read : Tag} {scope' : Scope} :
    readTag scope place (writtenTag bindings tag) = .ok (read, scope') ↔
      scope.declare ((writtenAttributes bindings tag).map RawAttribute.of) = .ok scope' ∧
      scope'.ofElement tag.name.qualified.toList = .ok read.name ∧
      readAttributes scope' place.offset ((writtenAttributes bindings tag).map RawAttribute.of) =
        .ok read.attributes ∧
      ((writtenAttributes bindings tag).map (·.name.qualified)).Nodup ∧
      read.position = some (.ofOffset place.starts place.offset) ∧
      read.document = place.document := by
  have hq : ∀ a ∈ (writtenAttributes bindings tag).map RawAttribute.of, a.Quotable :=
    quotable_written h
  have hnodup :
      (((writtenAttributes bindings tag).map (·.name.qualified)).map String.toList).Nodup ↔
      ((writtenAttributes bindings tag).map (·.name.qualified)).Nodup := by
    unfold List.Nodup
    rw [List.pairwise_map]
    simp only [ne_eq, String.toList_inj]
  have hfault : (rawAttributes (some [])
      (sourceOfAll ((writtenAttributes bindings tag).map RawAttribute.of))).2 = none ↔
      ((writtenAttributes bindings tag).map (·.name.qualified)).Nodup := by
    rw [faultless_iff hq, keys_written, hnodup]
    simp
  rw [readTag_eq_ok_iff, writtenTag, tagName_inside h.name.plain, afterName_inside h.name.plain,
    rawAttributes_source hq, hfault]
  constructor
  · rintro ⟨hd, hn, ha, hdist, hpos, hdoc⟩
    rw [rawAttributes_of_faultless hq (hfault.mpr hdist)] at ha
    exact ⟨hd, hn, ha, hdist, hpos, hdoc⟩
  · rintro ⟨hd, hn, ha, hdist, hpos, hdoc⟩
    rw [rawAttributes_of_faultless hq (hfault.mpr hdist)]
    exact ⟨hd, hn, ha, hdist, hpos, hdoc⟩

/-- A tag that can be read again is read as what it says, and the bindings in force in it agree
with the scope. -/
theorem readTag_inside (h : tag.Proper) (hs : Agrees bindings scope)
    (hr : tag.Readable bindings) (place : Place) :
    ∃ scope', Agrees (repairs bindings tag).1 scope' ∧
      readTag scope place (writtenTag bindings tag) =
        .ok (⟨(repairs bindings tag).1.resolve tag.name,
          (writtenAttributes bindings tag).map (repairs bindings tag).1.resolveAttribute,
          some (.ofOffset place.starts place.offset), place.document⟩, scope') := by
  obtain ⟨scope', hd, hagree⟩ := (declare_attributes hs (proper_written h)).1 hr.admitted
  rw [← repairs_fst_eq_declareAll h] at hagree
  have hbound : ∀ a ∈ writtenAttributes bindings tag, a.isDeclaration = false →
      ∀ p, a.name.prefixName = some p → BoundIn (repairs bindings tag).1 p := by
    intro a ha hdecl p hp
    rw [writtenAttributes_eq h] at ha
    rcases List.mem_append.mp ha with ha | ha
    · exact boundIn_repairs h (use_mem_uses ha hdecl (by simp [hp])) p hp
    · obtain ⟨use, -, rfl⟩ := List.mem_map.mp ha
      rw [Attribute.isDeclaration_declaring] at hdecl
      cases hdecl
  refine ⟨scope', hagree, (readTag_written_iff h).mpr ⟨hd, ?_, ?_, hr.distinct, rfl, rfl⟩⟩
  · exact ofElement_eq hagree h.name (boundIn_repairs h (List.mem_cons_self ..))
  · exact readAttributes_eq hagree (proper_written h) hbound _

/-- Any other tag is refused. -/
theorem readTag_refused (h : tag.Proper) (hs : Agrees bindings scope)
    (hr : ¬ tag.Readable bindings) (place : Place) :
    ∃ e, readTag scope place (writtenTag bindings tag) = .error e := by
  cases hread : readTag scope place (writtenTag bindings tag) with
  | error e => exact ⟨e, rfl⟩
  | ok r =>
    obtain ⟨hd, -, -, hdist, -, -⟩ := (readTag_written_iff h).mp hread
    refine absurd ⟨hdist, Classical.byContradiction fun hadm => ?_⟩ hr
    obtain ⟨fault, he⟩ := (declare_attributes hs (proper_written h)).2 hadm
    rw [he] at hd
    cases hd

/-- The start tag of a proper tag is legible, and so is its empty tag. -/
theorem legible_writtenTag (h : tag.Proper) :
    Token.Legible (.start (writtenTag bindings tag)) ∧
      Token.Legible (.empty (writtenTag bindings tag)) :=
  ⟨legible_startTag h.name.plain h.name.ne_nil (quotable_written h),
    legible_emptyTag h.name.plain h.name.ne_nil (quotable_written h)⟩

/-- The end tag of the innermost element. -/
theorem after_finish {name : QName} (hn : name.Proper) {e : OpenElement} {rest : List OpenElement}
    {top : List Node} (he : e.tag.name.qualified = name.qualified) :
    Builder.After ⟨e :: rest, top⟩ (Token.finish name.qualified.toList).source
      (· = Builder.push ⟨rest, top⟩ (.element e.tag e.children.reverse)) := by
  have hlegible := Token.legible_finish (Closed.of_plain hn.plain)
  refine Builder.after_token hlegible trivial fun place => ⟨_, .finish rfl ?_, rfl⟩
  rw [endName_plain hn.plain, String.ofList_toList, he]

end Tags

end XmlTemplate.Markup
