import XmlTemplate.Markup.Scope
import XmlTemplate.Proofs.Text

/-!
# Names in tags

Names are made of characters that mean nothing in a tag, so that a name ends where it is seen to
end, and a colon divides it in one way only.

* `isDelimiter`, `Plain`: the characters that structure a tag, and texts without them.
* `QName.Proper`: a name whose parts can be told apart again. `cutName_qualified` tells them apart,
  `proper_of_cutName` finds them in a text.
* `ofPrefix?_eq_some_iff`, `ofElement_cases`: what prefixes and names of elements stand for.
* `eq_of_declaredPrefix?`, `declaredPrefix?_eq_none`: which names declare a prefix.
-/

namespace XmlTemplate.Markup

/-! ## Characters of names -/

/-- The characters that structure a tag or begin another token. -/
def isDelimiter (c : Char) : Bool :=
  isSpace c || ['=', '/', '<', '>', '"', '\'', '&', ';', '!', '?', '#'].contains c

/-- A text of which no character structures a tag. -/
def Plain (s : List Char) : Prop := ∀ c ∈ s, isDelimiter c = false

theorem isDelimiter_of_isNameChar {c : Char} (h : isNameChar c = true) : isDelimiter c = false := by
  refine Bool.eq_false_iff.mpr fun hd => ?_
  simp only [isDelimiter, isSpace, Bool.or_eq_true, beq_iff_eq, List.contains_iff_mem,
    List.mem_cons, List.not_mem_nil, or_false] at hd
  have refuted {d : Char} (hd : isNameChar d = false) (e : c = d) : False := by
    rw [e, hd] at h
    cases h
  rcases hd with (((e | e) | e) | e) | e | e | e | e | e | e | e | e | e | e | e <;>
    exact refuted (by decide) e

theorem isNameChar_of_isNameStart {c : Char} (h : isNameStart c = true) : isNameChar c = true := by
  simp [isNameChar, h]

theorem ne_colon_of_isNameChar {c : Char} (h : isNameChar c = true) : c ≠ ':' := by
  rintro rfl
  revert h
  decide

theorem isNameChar_of_isNCName {s : List Char} (h : isNCName s = true) :
    ∀ c ∈ s, isNameChar c = true := by
  cases s with
  | nil => cases h
  | cons d r =>
    simp only [isNCName, Bool.and_eq_true, List.all_eq_true] at h
    intro c hc
    rcases List.mem_cons.mp hc with rfl | hc
    · exact isNameChar_of_isNameStart h.1
    · exact h.2 c hc

theorem ne_nil_of_isNCName {s : List Char} (h : isNCName s = true) : s ≠ [] := by
  rintro rfl
  cases h

theorem colon_not_mem_of_isNCName {s : List Char} (h : isNCName s = true) : ':' ∉ s :=
  fun hc => ne_colon_of_isNameChar (isNameChar_of_isNCName h _ hc) rfl

theorem plain_of_isNCName {s : List Char} (h : isNCName s = true) : Plain s :=
  fun c hc => isDelimiter_of_isNameChar (isNameChar_of_isNCName h c hc)

namespace Plain

variable {s t : List Char}

theorem append (hs : Plain s) (ht : Plain t) : Plain (s ++ t) := by
  intro c hc
  rcases List.mem_append.mp hc with hc | hc
  · exact hs c hc
  · exact ht c hc

theorem colon : Plain [':'] := by
  intro c hc
  rw [List.mem_singleton.mp hc]
  decide

theorem ne {c d : Char} (hs : Plain s) (hc : c ∈ s) (hd : isDelimiter d = true) : c ≠ d := by
  rintro rfl
  rw [hs c hc] at hd
  cases hd

theorem not_isSpace {c : Char} (hs : Plain s) (hc : c ∈ s) : isSpace c = false := by
  have h := hs c hc
  simp only [isDelimiter, Bool.or_eq_false_iff] at h
  exact h.1

end Plain

/-! ## Colons -/

/-- Every character of a text without colons is another one. -/
theorem ne_colon {s : List Char} (h : ':' ∉ s) : ∀ c ∈ s, (c == ':') = false := fun c hc => by
  rw [beq_eq_false_iff_ne]
  rintro rfl
  exact h hc

theorem cutAtColon?_append {p r : List Char} (h : ':' ∉ p) :
    cutAtColon? (p ++ ':' :: r) = some (p, r) :=
  Text.cutAt?_append (ne_colon h) (beq_self_eq_true ':') r

theorem cutAtColon?_of_not_mem {s : List Char} (h : ':' ∉ s) : cutAtColon? s = none :=
  Text.cutAt?_of_none (ne_colon h)

/-- The two parts and the colon between them make up the text, and it is the first one. -/
theorem eq_append_of_cutAtColon? {s p r : List Char} (h : cutAtColon? s = some (p, r)) :
    s = p ++ ':' :: r ∧ ':' ∉ p := by
  obtain ⟨c, hc, rfl, hp⟩ := Text.eq_append_of_cutAt? h
  rw [eq_of_beq hc]
  refine ⟨rfl, fun hm => ?_⟩
  have := hp ':' hm
  simp at this

/-! ## Qualified names -/

namespace QName

/-- A name of which each part is a name without a colon. -/
structure Proper (name : QName) : Prop where
  localPart : isNCName name.localName.toList = true
  prefixPart : ∀ p, name.prefixName = some p → isNCName p.toList = true

variable {name : QName}

theorem toList_qualified (name : QName) : name.qualified.toList =
    (match name.prefixName with
      | some p => p.toList ++ [':']
      | none => []) ++ name.localName.toList := by
  unfold qualified
  cases name.prefixName <;> simp

theorem Proper.plain (h : name.Proper) : Plain name.qualified.toList := by
  rw [toList_qualified]
  refine Plain.append ?_ (plain_of_isNCName h.localPart)
  cases hp : name.prefixName with
  | none => exact fun _ hc => by cases hc
  | some p => exact (plain_of_isNCName (h.prefixPart p hp)).append Plain.colon

theorem Proper.ne_nil (h : name.Proper) : name.qualified.toList ≠ [] := by
  rw [toList_qualified]
  simp [ne_nil_of_isNCName h.localPart]

end QName

theorem cutName_append {p : List Char} (h : ':' ∉ p) (r : List Char) :
    Scope.cutName (p ++ ':' :: r) = (some p, r) := by
  unfold Scope.cutName
  rw [cutAtColon?_append h]

theorem cutName_of_not_mem {s : List Char} (h : ':' ∉ s) : Scope.cutName s = (none, s) := by
  unfold Scope.cutName
  rw [cutAtColon?_of_not_mem h]

/-- A proper name is cut into its parts. -/
theorem cutName_qualified {name : QName} (h : name.Proper) :
    Scope.cutName name.qualified.toList =
      (name.prefixName.map String.toList, name.localName.toList) := by
  rw [QName.toList_qualified]
  cases hp : name.prefixName with
  | none =>
    simp only [List.nil_append]
    exact cutName_of_not_mem (colon_not_mem_of_isNCName h.localPart)
  | some p =>
    simp only [List.append_assoc, List.singleton_append]
    exact cutName_append (colon_not_mem_of_isNCName (h.prefixPart p hp)) _

/-- A name that is cut is written as it was. -/
theorem qualified_of_cutName {s r : List Char} {p : Option (List Char)} (space : Option String)
    (h : Scope.cutName s = (p, r)) :
    (QName.mk (p.map String.ofList) (String.ofList r) space).qualified.toList = s := by
  rw [QName.toList_qualified]
  unfold Scope.cutName at h
  split at h
  · rename_i hc
    cases h
    simp [(eq_append_of_cutAtColon? hc).1]
  · cases h
    simp

theorem eq_append_of_cutName {s p r : List Char} (h : Scope.cutName s = (some p, r)) :
    s = p ++ ':' :: r := by
  unfold Scope.cutName at h
  split at h
  · rename_i hc
    cases h
    exact (eq_append_of_cutAtColon? hc).1
  · cases h

/-- The parts of a text that is a name are names without a colon. -/
theorem proper_of_cutName {s r : List Char} {p : Option (List Char)} (space : Option String)
    (h : Scope.cutName s = (p, r)) (hs : isQName s = true) :
    (QName.mk (p.map String.ofList) (String.ofList r) space).Proper := by
  unfold Scope.cutName at h
  unfold isQName at hs
  split at h
  · rename_i hc
    cases h
    rw [hc] at hs
    simp only [Bool.and_eq_true] at hs
    refine ⟨by simpa using hs.2, fun q hq => ?_⟩
    cases hq
    simpa using hs.1
  · rename_i hc
    cases h
    rw [hc] at hs
    exact ⟨by simpa using hs, fun q hq => by cases hq⟩

/-! ## Prefixes -/

/-- A prefix stands for what it is bound to, unless one of them is empty. -/
theorem ofPrefix?_eq_some_iff {scope : Scope} {p uri : List Char} :
    scope.ofPrefix? p = some uri ↔ p ≠ [] ∧ scope.lookup p = some uri ∧ uri ≠ [] := by
  unfold Scope.ofPrefix?
  split <;> simp_all [Option.filter_eq_some_iff]

/-- What the name of an element stands for. -/
theorem ofElement_cases {scope : Scope} {s : List Char} {name : QName}
    (h : scope.ofElement s = .ok name) :
    (∃ l, Scope.cutName s = (none, l) ∧
      name = ⟨none, String.ofList l, scope.default?.map String.ofList⟩) ∨
    ∃ p l uri, Scope.cutName s = (some p, l) ∧ scope.ofPrefix? p = some uri ∧
      name = ⟨some (String.ofList p), String.ofList l, some (String.ofList uri)⟩ := by
  unfold Scope.ofElement at h
  split at h
  · rename_i l hcut
    cases h
    exact .inl ⟨l, hcut, rfl⟩
  · rename_i p l hcut
    split at h
    · rename_i uri hu
      cases h
      exact .inr ⟨p, l, uri, hcut, hu, rfl⟩
    · cases h

/-! ## Names of declarations -/

open Scope (declaredPrefix?)

theorem declaredPrefix?_append (name : List Char) :
    declaredPrefix? ("xmlns".toList ++ ':' :: name) = some name := rfl

theorem eq_of_declaredPrefix? {key name : List Char} (h : declaredPrefix? key = some name) :
    key = "xmlns".toList ∧ name = [] ∨ key = "xmlns".toList ++ ':' :: name := by
  unfold declaredPrefix? at h
  split at h
  · split at h
    · cases h
      exact .inl ⟨rfl, rfl⟩
    · cases h
      exact .inr rfl
    · cases h
  · cases h

/-- The text of a declared prefix; the empty one stands for the default namespace. -/
def prefixText : Option String → List Char
  | none => []
  | some p => p.toList

theorem declaredPrefix?_declaring (p : Option String) (uri : String) :
    declaredPrefix? (Attribute.declaring p uri).name.qualified.toList = some (prefixText p) := by
  rw [QName.toList_qualified]
  cases p with
  | none =>
    simp only [Attribute.declaring, List.nil_append]
    rfl
  | some p =>
    show declaredPrefix? (("xmlns".toList ++ [':']) ++ p.toList) = _
    rw [List.append_assoc]
    exact declaredPrefix?_append _

/-- No other proper name declares a prefix. -/
theorem declaredPrefix?_eq_none {name : QName} (h : name.Proper)
    (hp : name.prefixName ≠ some "xmlns")
    (hl : name.prefixName = none → name.localName ≠ "xmlns") :
    declaredPrefix? name.qualified.toList = none := by
  rw [← Option.not_isSome_iff_eq_none]
  intro hs
  obtain ⟨n, hn⟩ := Option.isSome_iff_exists.mp hs
  have hcut := cutName_qualified h
  rcases eq_of_declaredPrefix? hn with ⟨he, -⟩ | he
  · rw [he] at hcut
    have h₁ : (none, "xmlns".toList) = (name.prefixName.map String.toList, name.localName.toList) :=
      hcut
    rw [Prod.mk.injEq] at h₁
    obtain ⟨hnone, hloc⟩ := h₁
    exact hl (Option.map_eq_none_iff.mp hnone.symm) (String.toList_inj.mp hloc.symm)
  · rw [he] at hcut
    rw [cutName_append (by decide)] at hcut
    simp only [Prod.mk.injEq] at hcut
    obtain ⟨p, hq, hx⟩ := Option.map_eq_some_iff.mp hcut.1.symm
    exact hp (by rw [hq, String.toList_inj.mp hx])

end XmlTemplate.Markup
