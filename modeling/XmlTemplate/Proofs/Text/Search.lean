import XmlTemplate.Proofs.Text

/-!
# Searching, splitting and replacing

All functions that look for a text find the same occurrences of it.

* `isSome_cut?`, `cut?_eq_some_iff`: a text is cut at its first occurrence.
* `isPrefixOf_iff_cut?`: a text begins with an occurrence if nothing stands before the first one.
* `intercalate_split`: the pieces between the occurrences make up the text,
  `not_contains_of_mem_split`: and none is inside a piece.
* `replace_eq`: to replace is to split and to join with another text.
-/

namespace XmlTemplate.Text

variable {p s t before after u v piece : List Char}

/-! ## The first occurrence -/

theorem isSome_cut? (p s : List Char) : (cut? p s).isSome = contains p s := by
  induction s with
  | nil =>
    rw [cut?, contains]
    split <;> simp_all
  | cons c r ih =>
    rw [cut?, contains]
    split
    · rename_i hp
      rw [hp]
      rfl
    · rename_i hp
      rw [Option.isSome_map, ih, Bool.eq_false_iff.mpr hp, Bool.false_or]

theorem cut?_eq_none_iff : cut? p s = none ↔ contains p s = false := by
  rw [← isSome_cut?, Option.isSome_eq_false_iff, Option.isNone_iff_eq_none]

/-- No occurrence begins before the one at which the text is cut. -/
theorem length_le_of_cut? (h : cut? p s = some (before, after)) (hs : s = u ++ p ++ v) :
    before.length ≤ u.length := by
  induction s generalizing before u with
  | nil =>
    rw [cut?] at h
    split at h <;> cases h
    exact Nat.zero_le _
  | cons c r ih =>
    rw [cut?] at h
    split at h
    · cases h
      exact Nat.zero_le _
    · rename_i hp
      obtain ⟨⟨b, a⟩, hcut, heq⟩ := Option.map_eq_some_iff.mp h
      cases heq
      cases u with
      | nil => exact absurd (List.isPrefixOf_iff_prefix.mpr ⟨v, hs.symm⟩) hp
      | cons d u =>
        obtain ⟨rfl, hr⟩ := List.cons.inj hs
        exact Nat.succ_le_succ (ih hcut hr)

/-- **A text is cut at its first occurrence.** -/
theorem cut?_eq_some_iff : cut? p s = some (before, after) ↔
    s = before ++ p ++ after ∧ ∀ u v, s = u ++ p ++ v → before.length ≤ u.length := by
  constructor
  · intro h
    exact ⟨eq_append_of_cut? h, fun u v hs => length_le_of_cut? h hs⟩
  · rintro ⟨hs, hfirst⟩
    have hfound : (cut? p s).isSome = true := by
      rw [isSome_cut?, contains_iff_isInfix, hs]
      exact List.infix_append before p after
    obtain ⟨⟨b, a⟩, hcut⟩ := Option.isSome_iff_exists.mp hfound
    -- Both cut the text at the same place.
    have heq := eq_append_of_cut? hcut
    have hlen : b.length = before.length :=
      (length_le_of_cut? hcut hs).antisymm (hfirst b a heq)
    rw [hs, List.append_assoc, List.append_assoc] at heq
    obtain ⟨rfl, htail⟩ := List.append_inj heq hlen.symm
    rw [hcut, List.append_cancel_left htail]

theorem isPrefixOf_iff_cut? : p.isPrefixOf s = true ↔ ∃ after, cut? p s = some ([], after) := by
  constructor
  · intro h
    obtain ⟨after, hs⟩ := prefix_of_isPrefixOf h
    exact ⟨after, cut?_eq_some_iff.mpr ⟨hs.symm, fun u _ _ => Nat.zero_le _⟩⟩
  · rintro ⟨after, h⟩
    rw [eq_append_of_cut? h]
    exact List.isPrefixOf_iff_prefix.mpr ⟨after, rfl⟩

/-! ## Splitting -/

theorem split_of_cut?_eq_none (h : cut? p s = none) : split p s = [s] := by
  rw [split]
  split
  · rfl
  · split
    · rfl
    · rename_i heq
      rw [h] at heq
      cases heq

theorem split_of_cut? (hp : p ≠ []) (h : cut? p s = some (before, after)) :
    split p s = before :: split p after := by
  rw [split, dif_neg hp]
  split
  · rename_i heq
    rw [h] at heq
    cases heq
  · rename_i heq
    rw [h] at heq
    cases heq
    rfl

theorem split_ne_nil (p s : List Char) : split p s ≠ [] := by
  rw [split]
  split
  · exact List.cons_ne_nil _ _
  · split <;> exact List.cons_ne_nil _ _

/-- A text without an occurrence is its only piece. One with an occurrence has the pieces of what
follows the first one besides what stands before it. -/
theorem split_induction {motive : List Char → Prop} (hp : p ≠ [])
    (none : ∀ s, cut? p s = none → motive s)
    (some : ∀ s before after, cut? p s = some (before, after) → motive after → motive s)
    (s : List Char) : motive s := by
  induction h : s.length using Nat.strong_induction_on generalizing s with
  | _ n ih =>
    cases hcut : cut? p s with
    | none => exact none s hcut
    | some parts =>
      obtain ⟨before, after⟩ := parts
      refine some s before after hcut (ih after.length ?_ after rfl)
      have hlen := congrArg List.length (eq_append_of_cut? hcut)
      have hpos := List.length_pos_iff.mpr hp
      rw [List.length_append, List.length_append] at hlen
      omega

/-- **The pieces make up the text again**, with the text between them that it was split at. -/
theorem intercalate_split (hp : p ≠ []) (s : List Char) : p.intercalate (split p s) = s := by
  induction s using split_induction hp with
  | none s hcut =>
    rw [split_of_cut?_eq_none hcut, List.intercalate_singleton]
  | some s before after hcut ih =>
    rw [split_of_cut? hp hcut, List.intercalate_cons_of_ne_nil (split_ne_nil p after), ih,
      eq_append_of_cut? hcut]

/-- **No piece has an occurrence in it.** -/
theorem not_contains_of_mem_split (hp : p ≠ []) (h : piece ∈ split p s) :
    contains p piece = false := by
  induction s using split_induction hp with
  | none s hcut =>
    rw [split_of_cut?_eq_none hcut, List.mem_singleton] at h
    rw [h]
    exact cut?_eq_none_iff.mp hcut
  | some s before after hcut ih =>
    rw [split_of_cut? hp hcut] at h
    rcases List.mem_cons.mp h with rfl | h
    · exact not_contains_of_cut? hp hcut
    · exact ih h

/-! ## Replacing -/

theorem replaceFrom_eq (p t : List Char) (skip : Nat) (s : List Char) :
    replaceFrom p t skip s = replace p t (s.drop skip) := by
  induction skip generalizing s with
  | zero => rfl
  | succ skip ih =>
    cases s with
    | nil => rfl
    | cons c r => exact ih r

theorem replace_of_cut?_eq_none (h : cut? p s = none) : replace p t s = s := by
  induction s with
  | nil => rfl
  | cons c r ih =>
    rw [cut?] at h
    split at h
    · cases h
    · rename_i hp
      have hr : replace p t r = r := ih (Option.map_eq_none_iff.mp h)
      rw [replace, replaceFrom, if_neg hp]
      exact congrArg (c :: ·) hr

theorem replace_of_cut? (hp : p ≠ []) (h : cut? p s = some (before, after)) :
    replace p t s = before ++ t ++ replace p t after := by
  induction s generalizing before with
  | nil =>
    cases p with
    | nil => exact absurd rfl hp
    | cons => cases h
  | cons c r ih =>
    rw [cut?] at h
    rw [replace, replaceFrom]
    split at h
    · rename_i hpre
      cases h
      obtain ⟨d, q, rfl⟩ := List.exists_cons_of_ne_nil hp
      rw [if_pos hpre, replaceFrom_eq]
      rfl
    · rename_i hpre
      obtain ⟨⟨b, a⟩, hcut, heq⟩ := Option.map_eq_some_iff.mp h
      cases heq
      rw [if_neg hpre]
      exact congrArg (c :: ·) (ih hcut)

/-- **To replace is to split and to join with another text.** -/
theorem replace_eq (hp : p ≠ []) (t s : List Char) :
    replace p t s = t.intercalate (split p s) := by
  induction s using split_induction hp with
  | none s hcut =>
    rw [split_of_cut?_eq_none hcut, replace_of_cut?_eq_none hcut, List.intercalate_singleton]
  | some s before after hcut ih =>
    rw [split_of_cut? hp hcut, List.intercalate_cons_of_ne_nil (split_ne_nil p after),
      replace_of_cut? hp hcut, ih]

theorem replace_self (hp : p ≠ []) (s : List Char) : replace p p s = s := by
  rw [replace_eq hp, intercalate_split hp]

end XmlTemplate.Text
