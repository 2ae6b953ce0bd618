import Mathlib
import XmlTemplate.Text.Blank
import XmlTemplate.Text.Search

/-!
# Texts that are searched, cut and trimmed

* `contains_iff_isInfix`, `not_contains_of_cut?`: what an occurrence of a text is, and that there is
  none in front of the first one.
* `cutAt?_append`, `eq_append_of_cutAt?`: a text is cut at the first character of a class.
* `trim_of_forall`: without white space there is nothing to trim.
-/

namespace XmlTemplate.Text

/-! ## Occurrences -/

theorem prefix_of_isPrefixOf {p s : List Char} (h : p.isPrefixOf s = true) : p <+: s :=
  List.isPrefixOf_iff_prefix.mp h

/-- What stands before the first occurrence has none in it. -/
theorem not_contains_of_cut? {p s before after : List Char} (hp : p ≠ [])
    (h : cut? p s = some (before, after)) : contains p before = false := by
  have hnil : contains p [] = false := by
    cases p with
    | nil => exact absurd rfl hp
    | cons => rfl
  induction s generalizing before with
  | nil =>
    cases p with
    | nil => exact absurd rfl hp
    | cons => simp [cut?] at h
  | cons c r ih =>
    simp only [cut?] at h
    split at h
    · cases h
      exact hnil
    · rename_i hc
      simp only [Option.map_eq_some_iff, Prod.mk.injEq, Prod.exists] at h
      obtain ⟨b, a, hb, rfl, rfl⟩ := h
      simp only [contains, Bool.or_eq_false_iff]
      refine ⟨Bool.eq_false_iff.mpr fun hpre => hc ?_, ih hb⟩
      have he := eq_append_of_cut? hb
      rw [he, List.append_assoc, ← List.cons_append]
      exact List.isPrefixOf_iff_prefix.mpr
        ((prefix_of_isPrefixOf hpre).trans (List.prefix_append ..))

theorem contains_iff_isInfix {p s : List Char} : contains p s = true ↔ p <:+: s := by
  induction s with
  | nil => simp [contains]
  | cons c r ih =>
    rw [contains, Bool.or_eq_true, ih, List.isPrefixOf_iff_prefix, List.infix_cons_iff]

/-- A part of a text has no mark in it that the text does not have. -/
theorem not_contains_of_isInfix {p s t : List Char} (h : t <:+: s) (hs : contains p s = false) :
    contains p t = false := by
  refine Bool.eq_false_iff.mpr fun ht => ?_
  rw [contains_iff_isInfix.mpr ((contains_iff_isInfix.mp ht).trans h)] at hs
  cases hs

/-! ## Classes of characters -/

variable {stop : Char → Bool} {s before after : List Char}

theorem cutAt?_append (h : ∀ c ∈ before, stop c = false) {c : Char} (hc : stop c = true)
    (after : List Char) : cutAt? stop (before ++ c :: after) = some (before, after) := by
  have hb : ∀ c ∈ before, (!stop c) = true := fun c hm => by rw [h c hm, Bool.not_false]
  rw [cutAt?, List.dropWhile_append_of_pos hb, List.takeWhile_append_of_pos hb]
  simp [hc]

theorem cutAt?_of_none (h : ∀ c ∈ s, stop c = false) : cutAt? stop s = none := by
  have hd : s.dropWhile (fun c => !stop c) = [] :=
    List.dropWhile_eq_nil_iff.mpr fun c hm => by rw [h c hm, Bool.not_false]
  rw [cutAt?, hd]

/-- The two parts and the character between them make up the text, and it is the first of its
class. -/
theorem eq_append_of_cutAt? (h : cutAt? stop s = some (before, after)) :
    ∃ c, stop c = true ∧ s = before ++ c :: after ∧ ∀ c ∈ before, stop c = false := by
  have hwhole : s.takeWhile (fun c => !stop c) ++ s.dropWhile (fun c => !stop c) = s :=
    List.takeWhile_append_dropWhile
  rw [cutAt?] at h
  cases hd : s.dropWhile (fun c => !stop c) with
  | nil => rw [hd] at h; cases h
  | cons c rest =>
    rw [hd] at h hwhole
    cases h
    have hc := List.head_dropWhile_not (fun c => !stop c) (by rw [hd]; exact List.cons_ne_nil _ _)
    simp only [hd, List.head_cons, Bool.not_eq_false'] at hc
    refine ⟨c, hc, hwhole.symm, fun c hm => ?_⟩
    simpa using List.all_eq_true.mp List.all_takeWhile c hm

/-- A text without white space has none at its ends. -/
theorem trim_of_forall {s : List Char} (h : ∀ c ∈ s, isBlank c = false) :
    trim s = s := by
  have hdrop {s : List Char} (h : ∀ c ∈ s, isBlank c = false) :
      s.dropWhile isBlank = s := by
    cases s with
    | nil => rfl
    | cons c r => exact List.dropWhile_cons_of_neg (by simp [h c List.mem_cons_self])
  rw [trim, trimStart, hdrop h, trimEnd,
    hdrop fun c hc => h c (List.mem_reverse.mp hc), List.reverse_reverse]

end XmlTemplate.Text
