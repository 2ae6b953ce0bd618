import Mathlib
import XmlTemplate.Markup.Escape
import XmlTemplate.Markup.Node

/-!
# Characters that are escaped

What is written for a value is read as the value again.

* `unescapeValue_escapeValue`: the round trip of attribute values.
* `escapeValue_free`: no mark that could end a value is left in it.
* `escapeValue_eq_self`, `escapeValue_inj`: values without special characters stay as they are, and
  different values stay different.
-/

namespace XmlTemplate.Markup

/-! ## Reading -/

theorem unescapeValue_nil : unescapeValue [] = .ok [] := by rw [unescapeValue]

theorem unescapeValue_cons {c : Char} (hc : c ≠ '&') (r : List Char) :
    unescapeValue (c :: r) = (unescapeValue r).map (c :: ·) := by
  rw [unescapeValue]
  · cases unescapeValue r <;> rfl
  · exact hc

theorem unescapeValue_reference {name : List Char} (hn : ∀ c ∈ name, endsName c = false)
    (r : List Char) : unescapeValue ('&' :: (name ++ ';' :: r)) =
      (valueReference name).bind fun c => (unescapeValue r).map (c :: ·) := by
  have hn : ∀ c ∈ name, (!endsName c) = true := fun c hc => by rw [hn c hc]; rfl
  have hd : (name ++ ';' :: r).dropWhile (fun c => !endsName c) = ';' :: r := by
    rw [List.dropWhile_append_of_pos hn]
    rfl
  have ht : (name ++ ';' :: r).takeWhile (fun c => !endsName c) = name := by
    rw [List.takeWhile_append_of_pos hn]
    simp [endsName]
  rw [unescapeValue]
  split
  · rename_i rest h
    rw [hd] at h
    cases h
    rw [ht]
    cases valueReference name <;> cases unescapeValue r <;> rfl
  · rename_i h
    exact absurd hd (h r)

/-! ## Writing -/

/-- A special character is written as a reference that stands for it, any other one as itself. -/
theorem escapeValueChar_cases (c : Char) :
    (∃ name, escapeValueChar c = '&' :: (name ++ [';']) ∧ (∀ d ∈ name, endsName d = false) ∧
      (∀ d ∈ name, d ≠ '<' ∧ d ≠ '>' ∧ d ≠ '"' ∧ d ≠ '\'') ∧ predefined? name = some c ∧
      valueReference name = .ok c) ∨
    (escapeValueChar c = [c] ∧ c ≠ '&' ∧ c ≠ '<' ∧ c ≠ '>' ∧ c ≠ '"' ∧ c ≠ '\'') := by
  unfold escapeValueChar escapeTextChar
  simp only [beq_iff_eq]
  split
  · rename_i h
    refine .inl ⟨"apos".toList, rfl, ?_, ?_, by rw [h]; rfl, by rw [h]; rfl⟩
    all_goals exact Text.forall_of_all (by decide)
  · split
    · rename_i h
      refine .inl ⟨"quot".toList, rfl, ?_, ?_, by rw [h]; rfl, by rw [h]; rfl⟩
      all_goals exact Text.forall_of_all (by decide)
    · split
      · rename_i h
        refine .inl ⟨"lt".toList, rfl, ?_, ?_, by rw [h]; rfl, by rw [h]; rfl⟩
        all_goals exact Text.forall_of_all (by decide)
      · split
        · rename_i h
          refine .inl ⟨"gt".toList, rfl, ?_, ?_, by rw [h]; rfl, by rw [h]; rfl⟩
          all_goals exact Text.forall_of_all (by decide)
        · split
          · rename_i h
            refine .inl ⟨"amp".toList, rfl, ?_, ?_, by rw [h]; rfl, by rw [h]; rfl⟩
            all_goals exact Text.forall_of_all (by decide)
          · rename_i h₁ h₂ h₃ h₄ h₅
            exact .inr ⟨rfl, h₅, h₃, h₄, h₂, h₁⟩

theorem unescapeValue_escape (s : List Char) :
    unescapeValue (s.flatMap escapeValueChar) = .ok s := by
  induction s with
  | nil => exact unescapeValue_nil
  | cons c r ih =>
    rw [List.flatMap_cons]
    rcases escapeValueChar_cases c with ⟨name, he, hn, -, -, hc⟩ | ⟨he, hc, -⟩
    · rw [he, List.cons_append, List.append_assoc, List.singleton_append,
        unescapeValue_reference hn, hc, ih]
      rfl
    · rw [he, List.singleton_append, unescapeValue_cons hc, ih]
      rfl

theorem toList_escapeValue (s : String) :
    (escapeValue s).toList = s.toList.flatMap escapeValueChar := by
  simp [escapeValue]

theorem unescapeValue_escapeValue (s : String) :
    unescapeValue (escapeValue s).toList = .ok s.toList := by
  rw [toList_escapeValue, unescapeValue_escape]

theorem escapeValue_inj {s t : String} (h : escapeValue s = escapeValue t) : s = t := by
  have hs := unescapeValue_escapeValue s
  rw [h, unescapeValue_escapeValue] at hs
  exact String.toList_inj.mp (Except.ok.inj hs).symm

/-- No mark that could end the value or the tag is left. -/
theorem escapeValue_free (s : String) :
    ∀ c ∈ (escapeValue s).toList, c ≠ '<' ∧ c ≠ '>' ∧ c ≠ '"' ∧ c ≠ '\'' := by
  intro c hc
  rw [toList_escapeValue] at hc
  obtain ⟨d, -, hc⟩ := List.mem_flatMap.mp hc
  rcases escapeValueChar_cases d with ⟨name, he, -, hfree, -, -⟩ | ⟨he, -, h₁, h₂, h₃, h₄⟩
  · rw [he] at hc
    rcases List.mem_cons.mp hc with rfl | hc
    · decide
    · rcases List.mem_append.mp hc with hc | hc
      · exact hfree c hc
      · rw [List.mem_singleton.mp hc]
        decide
  · rw [he] at hc
    rw [List.mem_singleton.mp hc]
    exact ⟨h₁, h₂, h₃, h₄⟩

/-- The characters that are written as references in values. -/
def isSpecial (c : Char) : Bool := ['&', '<', '>', '"', '\''].contains c

theorem escapeValueChar_of_not_isSpecial {c : Char} (h : isSpecial c = false) :
    escapeValueChar c = [c] := by
  have hne {d : Char} (hd : isSpecial d = true) : (c == d) = false := by
    rw [beq_eq_false_iff_ne]
    rintro rfl
    rw [h] at hd
    cases hd
  simp only [escapeValueChar, escapeTextChar, hne (show isSpecial '\'' = true from rfl),
    hne (show isSpecial '"' = true from rfl), hne (show isSpecial '<' = true from rfl),
    hne (show isSpecial '>' = true from rfl), hne (show isSpecial '&' = true from rfl)]
  rfl

theorem escapeValue_eq_self {s : String} (h : ∀ c ∈ s.toList, isSpecial c = false) :
    escapeValue s = s := by
  have hs (r : List Char) (hr : ∀ c ∈ r, isSpecial c = false) : r.flatMap escapeValueChar = r := by
    induction r with
    | nil => rfl
    | cons c r ih =>
      rw [List.flatMap_cons, escapeValueChar_of_not_isSpecial (hr c (List.mem_cons_self ..)),
        ih fun d hd => hr d (List.mem_cons_of_mem _ hd)]
      rfl
  rw [escapeValue, hs _ h, String.ofList_toList]

theorem length_le_escape (s : List Char) : s.length ≤ (s.flatMap escapeValueChar).length := by
  induction s with
  | nil => rfl
  | cons c r ih =>
    rw [List.flatMap_cons, List.length_append, List.length_cons]
    have hpos : 1 ≤ (escapeValueChar c).length := by
      rcases escapeValueChar_cases c with ⟨name, he, -⟩ | ⟨he, -⟩ <;> rw [he] <;> simp
    omega

/-- No other value is written as it stands. -/
theorem escapeValue_eq_self_iff {s : String} :
    escapeValue s = s ↔ ∀ c ∈ s.toList, isSpecial c = false := by
  have hlist (r : List Char) (h : r.flatMap escapeValueChar = r) :
      ∀ c ∈ r, isSpecial c = false := by
    induction r with
    | nil => exact fun c hc => by cases hc
    | cons c r ih =>
      have hlen := congrArg List.length h
      rw [List.flatMap_cons, List.length_append, List.length_cons] at hlen
      have hrest := length_le_escape r
      rcases escapeValueChar_cases c with ⟨name, he, -⟩ | ⟨he, h₁, h₂, h₃, h₄, h₅⟩
      · rw [he, List.length_cons, List.length_append, List.length_singleton] at hlen
        omega
      · rw [List.flatMap_cons, he] at h
        refine List.forall_mem_cons.mpr ⟨?_, ih (List.cons.inj h).2⟩
        simp [isSpecial, h₁, h₂, h₃, h₄, h₅]
  refine ⟨fun h => hlist s.toList ?_, escapeValue_eq_self⟩
  rw [← toList_escapeValue, h]

/-- A value and what is written for it are compared to a value without special characters alike. -/
theorem escapeValue_eq_iff {s t : String} (ht : ∀ c ∈ t.toList, isSpecial c = false) :
    escapeValue s = t ↔ s = t := by
  refine ⟨fun h => escapeValue_inj (h.trans (escapeValue_eq_self ht).symm), ?_⟩
  rintro rfl
  exact escapeValue_eq_self ht

theorem escapeValue_eq_empty_iff {s : String} : escapeValue s = "" ↔ s = "" :=
  escapeValue_eq_iff (Text.forall_of_all (by decide))

theorem escapeValue_eq_xmlNamespace_iff {s : String} :
    escapeValue s = xmlNamespace ↔ s = xmlNamespace :=
  escapeValue_eq_iff (Text.forall_of_all (by decide))

/-- A character of text is written as itself or as a reference that stands for it. -/
theorem escapeTextChar_cases (c : Char) :
    (∃ name, escapeTextChar c = '&' :: (name ++ [';']) ∧ predefined? name = some c ∧
      name.head? ≠ some '#' ∧ ∀ d ∈ name, d ≠ ';' ∧ d ≠ '&' ∧ d ≠ '<') ∨
    (escapeTextChar c = [c] ∧ c ≠ '&' ∧ c ≠ '<') := by
  unfold escapeTextChar
  simp only [beq_iff_eq]
  split
  · rename_i h
    exact .inl ⟨"lt".toList, rfl, by rw [h]; rfl, by decide, Text.forall_of_all (by decide)⟩
  · split
    · rename_i h
      exact .inl ⟨"gt".toList, rfl, by rw [h]; rfl, by decide, Text.forall_of_all (by decide)⟩
    · split
      · rename_i h
        exact .inl ⟨"amp".toList, rfl, by rw [h]; rfl, by decide, Text.forall_of_all (by decide)⟩
      · rename_i h₁ h₂ h₃
        exact .inr ⟨rfl, h₃, h₁⟩

theorem toList_escapeText (s : String) :
    (escapeText s).toList = s.toList.flatMap escapeTextChar := by
  simp [escapeText]

end XmlTemplate.Markup
