import XmlTemplate.Proofs.Markup.Sound
import XmlTemplate.Proofs.Markup.Writable

/-!
# Names as they were read

The reader compares and keeps URIs as they are written, with their references; the values of the
declarations in the tree have none. What a name was read as is therefore what the declarations say
about it, as long as no reference is involved.

* `Decodes bindings scope`: every prefix stands for the same URI, once with and once without
  references.
* `Tag.Original bindings tag`: what the reader ensures of a tag where `bindings` are declared.
  `original_of_readTag` says that it does.
* `Decodes.find?_ofElement`, `Decodes.find?_ofAttribute`: what was read for a clean URI is declared.
-/

namespace XmlTemplate.Markup

/-! ## Declarations and scopes -/

/-- A URI as it is written, against its text without references. -/
inductive Decoded : Option (List Char) → Option String → Prop where
  | absent : Decoded none none
  | present {raw : List Char} {uri : String} : unescapeValue raw = .ok uri.toList →
    Decoded (some raw) (some uri)

/-- What is declared for a prefix is what its URI in the scope stands for. `xml` is bound once and
for all, and `xmlns` is never declared. -/
structure Decodes (bindings : Bindings) (scope : Scope) : Prop where
  named {p : String} : p ≠ "" → p ≠ "xml" → p ≠ "xmlns" →
    Decoded (scope.lookup p.toList) (bindings.lookup (some p))
  default : Decoded (scope.lookup []) (bindings.lookup none)
  xml : scope.lookup "xml".toList = some xmlNamespace.toList
  xmlns : bindings.lookup (some "xmlns") = none

namespace Decodes

variable {bindings : Bindings} {scope : Scope}

theorem initial : Decodes [] Scope.initial where
  named {p} _ h₁ h₂ := by
    unfold Scope.initial
    rw [lookup_cons_of_ne (fun e => h₂ (String.toList_inj.mp e)),
      lookup_cons_of_ne (fun e => h₁ (String.toList_inj.mp e))]
    exact .absent
  default := .absent
  xml := rfl
  xmlns := rfl

section Cons

variable (h : Decodes bindings scope) {raw : List Char} {uri : String}
  (hu : unescapeValue raw = .ok uri.toList)

include h

include hu in
theorem cons_default : Decodes ((none, uri) :: bindings) (([], raw) :: scope) where
  named {p} h₀ h₁ h₂ := by
    have hp : p.toList ≠ [] := fun e => h₀ (String.toList_inj.mp e)
    rw [lookup_cons_of_ne hp, lookup_cons_of_ne (by simp)]
    exact h.named h₀ h₁ h₂
  default := by
    rw [List.lookup_cons_self, List.lookup_cons_self]
    exact .present hu
  xml := by
    rw [lookup_cons_of_ne (by decide)]
    exact h.xml
  xmlns := by
    rw [lookup_cons_of_ne (by simp)]
    exact h.xmlns

include hu in
theorem cons_named {q : String} (h₀ : q ≠ "") (h₁ : q ≠ "xml") (h₂ : q ≠ "xmlns") :
    Decodes ((some q, uri) :: bindings) ((q.toList, raw) :: scope) where
  named {p} hp₀ hp₁ hp₂ := by
    by_cases hpq : p = q
    · subst hpq
      rw [List.lookup_cons_self, List.lookup_cons_self]
      exact .present hu
    · rw [lookup_cons_of_ne (fun e => hpq (String.toList_inj.mp e)),
        lookup_cons_of_ne (by simpa using hpq)]
      exact h.named hp₀ hp₁ hp₂
  default := by
    have hq : [] ≠ q.toList := fun e => h₀ (String.toList_inj.mp e.symm)
    rw [lookup_cons_of_ne hq, lookup_cons_of_ne (by simp)]
    exact h.default
  xml := by
    rw [lookup_cons_of_ne (fun e => h₁ (String.toList_inj.mp e).symm)]
    exact h.xml
  xmlns := by
    rw [lookup_cons_of_ne (by simpa using h₂.symm)]
    exact h.xmlns

/-- A declaration of `xml` leaves the scope as it is, and nothing is asked of it. -/
theorem cons_xml (uri : String) : Decodes ((some "xml", uri) :: bindings) scope where
  named {p} h₀ h₁ h₂ := by
    rw [lookup_cons_of_ne (by simpa using h₁)]
    exact h.named h₀ h₁ h₂
  default := by
    rw [lookup_cons_of_ne (by simp)]
    exact h.default
  xml := h.xml
  xmlns := by
    rw [lookup_cons_of_ne (by simp)]
    exact h.xmlns

/-- One more declaration that the reader admits. -/
theorem bind {p : Option String} (hp : ∀ q, p = some q → isNCName q.toList = true)
    (hu : unescapeValue raw = .ok uri.toList) {scope' : Scope}
    (hb : scope.bind (Attribute.declaring p uri).name.qualified.toList (prefixText p) raw =
      .ok scope') : Decodes ((p, uri) :: bindings) scope' := by
  cases p with
  | none =>
    rw [bind_declaring_none] at hb
    cases hb
    exact h.cons_default hu
  | some q =>
    have hq : q ≠ "" := by
      rintro rfl
      exact ne_nil_of_isNCName (hp "" rfl) rfl
    rw [bind_declaring_some] at hb
    split at hb
    · rename_i hx
      split at hb <;> cases hb
      rw [hx]
      exact h.cons_xml uri
    · rename_i hx
      split at hb
      · cases hb
      · rename_i hxmlns
        split at hb
        · cases hb
        · split at hb <;> cases hb
          exact h.cons_named hu hq hx hxmlns

end Cons

end Decodes

/-! ## Attributes as they are written -/

theorem keys_of_readAttributes {scope : Scope} {offset : Nat} {raw : List RawAttribute}
    {attributes : List Attribute} (h : readAttributes scope offset raw = .ok attributes) :
    attributes.map (·.name.qualified.toList) = raw.map (·.key) := by
  induction raw generalizing attributes with
  | nil =>
    cases h
    rfl
  | cons a rest ih =>
    obtain ⟨value, name, others, -, hname, hr, rfl⟩ := readAttributes_cons_eq_ok_iff.mp h
    rw [List.map_cons, List.map_cons, ih hr, (Means.of_ofAttribute hname).qualified]

/-- The declarations of a tag, read and decoded. -/
theorem Decodes.declare {bindings : Bindings} {scope scope' within : Scope} {offset : Nat}
    {raw : List RawAttribute} {attributes : List Attribute} (h : Decodes bindings scope)
    (hd : scope.declare raw = .ok scope') (hr : readAttributes within offset raw = .ok attributes)
    (hp : ∀ a ∈ attributes, a.Proper) : Decodes (bindings.declareAll attributes) scope' := by
  induction raw generalizing bindings scope attributes with
  | nil =>
    cases hd
    cases hr
    exact h
  | cons a rest ih =>
    obtain ⟨value, name, others, hvalue, hname, hrest, rfl⟩ := readAttributes_cons_eq_ok_iff.mp hr
    have ha := hp _ (List.mem_cons_self ..)
    have hothers := fun b hb => hp b (List.mem_cons_of_mem _ hb)
    have hkey := declaredPrefix?_of ha
    rw [RawAttribute.key_of, (Means.of_ofAttribute hname).qualified] at hkey
    rw [Scope.declare, hkey] at hd
    rw [Bindings.declareAll]
    by_cases hdecl : Attribute.isDeclaration ⟨name, String.ofList value⟩ = true
    · obtain ⟨he, hq⟩ := ha.eq_declaring hdecl
      have hk : a.key =
          (Attribute.declaring (Attribute.declaredPrefix ⟨name, String.ofList value⟩)
            (String.ofList value)).name.qualified.toList := by
        rw [← he, (Means.of_ofAttribute hname).qualified]
      simp only [hdecl, if_true] at hd ⊢
      cases hb : scope.bind a.key
          (prefixText (Attribute.declaredPrefix ⟨name, String.ofList value⟩)) a.value with
      | error fault =>
        rw [hb] at hd
        cases hd
      | ok scope₁ =>
        rw [hb] at hd
        rw [hk] at hb
        exact ih (h.bind hq (by rw [hvalue, String.toList_ofList]) hb) hd hrest hothers
    · simp only [hdecl, Bool.false_eq_true, if_false] at hd ⊢
      exact ih h hd hrest hothers

/-- Where no key is repeated it does not matter whether keys may be. -/
theorem rawAttributes_none {seen : Option (List (List Char))} {s : List Char}
    (h : (rawAttributes seen s).2 = none) : rawAttributes none s = rawAttributes seen s := by
  fun_induction rawAttributes seen s with
  | case1 seen s hs => rw [rawAttributes, if_pos hs]
  | case2 | case3 | case4 => cases h
  | case5 seen s hne key r hk hseen value rest hv others fault ho ih =>
    rw [ho] at ih
    rw [rawAttributes, if_neg hne]
    split
    · rename_i he
      rw [hk] at he
      cases he
    · rename_i he
      rw [hk] at he
      cases he
      rw [if_neg (by simp)]
      split
      · rename_i he
        rw [hv] at he
        cases he
      · rename_i he
        rw [hv] at he
        cases he
        rw [Option.map_none, ih h]

/-- Keys that are found are not among those that were seen, and none is found twice. -/
theorem nodup_rawAttributes {seen : Option (List (List Char))} {s : List Char}
    (h : (rawAttributes seen s).2 = none) (hseen : seen ≠ none) :
    ((rawAttributes seen s).1.map (·.key)).Nodup ∧
      ∀ a ∈ (rawAttributes seen s).1, a.key ∉ seen.getD [] := by
  fun_induction rawAttributes seen s with
  | case1 => exact ⟨List.nodup_nil, fun a ha => by cases ha⟩
  | case2 | case3 | case4 => cases h
  | case5 seen s hne key r hk hkey value rest hv others fault ho ih =>
    rw [ho] at ih
    obtain ⟨l, rfl⟩ := Option.ne_none_iff_exists'.mp hseen
    obtain ⟨hnodup, hnew⟩ := ih h (by simp)
    have hnot : key ∉ l := by simpa using hkey
    have hothers : ∀ a ∈ others, a.key ∉ key :: l := hnew
    refine ⟨List.nodup_cons.mpr ⟨fun hm => ?_, hnodup⟩, List.forall_mem_cons.mpr ⟨hnot, ?_⟩⟩
    · obtain ⟨a, ha, he⟩ := List.mem_map.mp hm
      exact hothers a ha (he ▸ List.mem_cons_self ..)
    · exact fun a ha hm => hothers a ha (List.mem_cons_of_mem _ hm)

/-! ## Tags as they were read -/

/-- A tag as it was read where `bindings` are declared: no key is repeated, and its names are what
some scope that decodes to its declarations says about them. -/
structure Tag.Original (bindings : Bindings) (tag : Tag) : Prop where
  distinct : (tag.attributes.map (·.name.qualified)).Nodup
  resolved : ∃ scope, Decodes (bindings.declareAll tag.attributes) scope ∧
    scope.ofElement tag.name.qualified.toList = .ok tag.name ∧
    ∀ a ∈ tag.attributes, scope.ofAttribute a.name.qualified.toList = .ok a.name

theorem original_of_readTag {bindings : Bindings} {scope scope' : Scope} {place : Place}
    {inside : List Char} {tag : Tag} (h : Decodes bindings scope) (hs : scope.Sound)
    (hr : readTag scope place inside = .ok (tag, scope')) (hn : tag.Named) :
    tag.Original bindings ∧ Decodes (bindings.declareAll tag.attributes) scope' := by
  have hproper := (readTag_proper hs hr).2 hn
  obtain ⟨hd, hname, ha, hf, -⟩ := readTag_eq_ok_iff.mp hr
  rw [rawAttributes_none hf] at hd
  have hdecodes := h.declare hd ha hproper.attributes
  refine ⟨⟨?_, scope', hdecodes, ?_, fun a hm => ?_⟩, hdecodes⟩
  · have hkeys := (nodup_rawAttributes hf (by simp)).1
    rw [← keys_of_readAttributes ha] at hkeys
    unfold List.Nodup at hkeys ⊢
    rw [List.pairwise_map] at hkeys ⊢
    exact hkeys.imp fun hne he => hne (congrArg String.toList he)
  · rw [qualified_of_ofElement hname]
    exact hname
  · obtain ⟨key, hk⟩ := ofAttribute_of_readAttributes ha a hm
    rw [(Means.of_ofAttribute hk).qualified]
    exact hk

/-! ## Clean names -/

/-- A URI that has no reference stands for itself. -/
theorem unescapeValue_of_clean {raw : List Char} (h : Clean (String.ofList raw)) :
    unescapeValue raw = .ok raw := by
  have hu := unescapeValue_escapeValue (String.ofList raw)
  rwa [escapeValue_eq_self h, String.toList_ofList] at hu

/-- A clean URI is declared as it was read. -/
theorem Decoded.eq_of_clean {raw : List Char} {uri : Option String}
    (h : Decoded (some raw) uri) (hc : Clean (String.ofList raw)) :
    uri = some (String.ofList raw) := by
  cases h with
  | @present _ uri hu =>
    rw [unescapeValue_of_clean hc] at hu
    rw [Except.ok.inj hu, String.ofList_toList]

namespace Decodes

variable {bindings : Bindings} {scope : Scope} (h : Decodes bindings scope)

include h

theorem find?_ofPrefix {p : String} {raw : List Char} (hx : p ≠ "xmlns")
    (hr : scope.ofPrefix? p.toList = some raw) (hc : Clean (String.ofList raw)) :
    bindings.find? (some p) = some (String.ofList raw) := by
  obtain ⟨hne, hl, -⟩ := ofPrefix?_eq_some_iff.mp hr
  unfold Bindings.find?
  split
  · rename_i hp
    cases hp
    rw [h.xml] at hl
    cases hl
    rw [String.ofList_toList]
  · rename_i hp
    have hempty : p ≠ "" := by
      rintro rfl
      exact hne rfl
    have hd := h.named hempty (fun e => hp (by rw [e])) hx
    rw [hl] at hd
    exact hd.eq_of_clean hc

theorem find?_default (hc : Clean ((scope.default?.map String.ofList).getD "")) :
    (bindings.find? none).getD "" = (scope.default?.map String.ofList).getD "" := by
  have hd := h.default
  unfold Scope.default? at hc ⊢
  unfold Bindings.find?
  rw [if_neg (by simp)]
  cases hl : scope.lookup [] with
  | none =>
    rw [hl] at hd
    cases hb : bindings.lookup none <;> rw [hb] at hd <;> cases hd
    rfl
  | some raw =>
    rw [hl] at hd hc
    cases raw with
    | nil => rw [hd.eq_of_clean (fun c hc => by simp at hc)]; rfl
    | cons c r => rw [hd.eq_of_clean hc]; rfl

/-- The name of an element is declared as it was read. -/
theorem find?_ofElement {name : QName} (hn : name.Proper) (hx : name.prefixName ≠ some "xmlns")
    (hc : Clean name.use.2) (hr : scope.ofElement name.qualified.toList = .ok name) :
    (bindings.find? name.use.1).getD "" = name.use.2 := by
  unfold Scope.ofElement at hr
  rw [cutName_qualified hn] at hr
  unfold QName.use at hc ⊢
  cases hp : name.prefixName with
  | none =>
    simp only [hp, Option.map_none, Except.ok.injEq] at hr
    rw [← hr] at hc ⊢
    exact h.find?_default hc
  | some p =>
    simp only [hp, Option.map_some] at hr
    split at hr
    · rename_i raw hraw
      have hspace : name.space = some (String.ofList raw) := by
        rw [← Except.ok.inj hr]
      rw [hspace] at hc ⊢
      rw [h.find?_ofPrefix (fun e => hx (by rw [hp, e])) hraw hc]
    · cases hr

/-- So is the name of an attribute that has a prefix. -/
theorem find?_ofAttribute {a : Attribute} (ha : a.Proper) (hd : a.isDeclaration = false)
    (hp : a.name.prefixName.isSome = true) (hc : Clean a.name.use.2)
    (hr : scope.ofAttribute a.name.qualified.toList = .ok a.name) :
    (bindings.find? a.name.use.1).getD "" = a.name.use.2 := by
  have hkey := declaredPrefix?_of ha
  rw [RawAttribute.key_of, hd, if_neg (by simp)] at hkey
  cases ha with
  | declaration he => simp [he, Attribute.isDeclaration_declaring] at hd
  | plain _ hn _ hx _ =>
    unfold Scope.ofAttribute at hr
    rw [hkey, cutName_qualified hn] at hr
    unfold QName.use at hc ⊢
    obtain ⟨p, hp⟩ := Option.isSome_iff_exists.mp hp
    simp only [hp, Option.map_some] at hr ⊢
    split at hr
    · rename_i raw hraw
      have hspace : a.name.space = some (String.ofList raw) := by
        rw [← Except.ok.inj hr]
      rw [hspace] at hc ⊢
      rw [h.find?_ofPrefix (fun e => hx (by rw [hp, e])) hraw hc]
    · cases hr

end Decodes

/-- Where no URI of a tag has a special character, its declarations bind what its names use. -/
theorem Tag.Original.find?_use {bindings : Bindings} {tag : Tag} (h : tag.Original bindings)
    (hp : tag.Proper) (hx : tag.name.prefixName ≠ some "xmlns")
    (hc : ∀ use ∈ tag.uses, Clean use.2) : ∀ use ∈ tag.uses,
      ((bindings.declareAll tag.attributes).find? use.1).getD "" = use.2 := by
  obtain ⟨scope, hs, hname, hattributes⟩ := h.resolved
  obtain ⟨hcname, hcattributes⟩ := forall_uses_iff.mp hc
  refine forall_uses_iff.mpr ⟨hs.find?_ofElement hp.name hx hcname hname, fun a ha hd hsome => ?_⟩
  exact hs.find?_ofAttribute (hp.attributes a ha) hd hsome (hcattributes a ha hd hsome)
    (hattributes a ha)

end XmlTemplate.Markup
