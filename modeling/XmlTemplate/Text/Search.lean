/-!
# Searching for a text inside a text

All functions here mean the same thing by an occurrence: the leftmost one, and after it the
leftmost one that does not overlap it.

* `contains`: whether there is an occurrence.
* `cut?`: what stands before and after the first occurrence.
* `split`: what stands between the occurrences.
* `replace`: the text with every occurrence replaced.

`cutAt?` cuts a text at the first character of a class.
-/

namespace XmlTemplate.Text

/-- What is checked for one character after the other holds of all of them. -/
theorem forall_of_all {P : Char → Prop} [DecidablePred P] {s : List Char}
    (h : s.all (fun c => decide (P c)) = true) : ∀ c ∈ s, P c := by
  simpa using h

/-- Whether `p` occurs in the text. -/
def contains (p : List Char) : List Char → Bool
  | [] => p.isEmpty
  | c :: r => p.isPrefixOf (c :: r) || contains p r

/-- The parts of the text before and after the first occurrence of `p`. -/
def cut? (p : List Char) : List Char → Option (List Char × List Char)
  | [] => if p.isEmpty then some ([], []) else none
  | c :: r =>
    if p.isPrefixOf (c :: r) then some ([], (c :: r).drop p.length)
    else (cut? p r).map fun (before, after) => (c :: before, after)

/-- The two parts and the occurrence between them make up the text. -/
theorem eq_append_of_cut? {p s before after : List Char} (h : cut? p s = some (before, after)) :
    s = before ++ p ++ after := by
  induction s generalizing before after with
  | nil =>
    simp only [cut?, List.isEmpty_iff] at h
    split at h <;> simp_all
  | cons c r ih =>
    simp only [cut?] at h
    split at h
    · rename_i hp
      obtain ⟨t, ht⟩ := List.isPrefixOf_iff_prefix.1 hp
      simp only [Option.some.injEq, Prod.mk.injEq] at h
      obtain ⟨rfl, rfl⟩ := h
      simp [← ht]
    · simp only [Option.map_eq_some_iff, Prod.mk.injEq, Prod.exists] at h
      obtain ⟨b, a, hc, rfl, rfl⟩ := h
      simp [ih hc]

/-- The parts of the text before and after the first character of the class `stop`. -/
def cutAt? (stop : Char → Bool) (s : List Char) : Option (List Char × List Char) :=
  match s.dropWhile (!stop ·) with
  | [] => none
  | _ :: after => some (s.takeWhile (!stop ·), after)

/-- The pieces of the text between the occurrences of `p`; one piece if there is none or `p` is
empty. -/
def split (p s : List Char) : List (List Char) :=
  if _hp : p = [] then [s]
  else
    match _h : cut? p s with
    | none => [s]
    | some (before, after) => before :: split p after
termination_by s.length
decreasing_by
  have hl := congrArg List.length (eq_append_of_cut? _h)
  have := List.length_pos_iff.2 _hp
  simp only [List.length_append] at hl
  omega

/-- `replace` on a text whose first `skip` characters belong to an occurrence already replaced. -/
def replaceFrom (p t : List Char) : Nat → List Char → List Char
  | _, [] => []
  | skip + 1, _ :: r => replaceFrom p t skip r
  | 0, c :: r =>
    if p.isPrefixOf (c :: r) then t ++ replaceFrom p t (p.length - 1) r
    else c :: replaceFrom p t 0 r

/-- The text with every occurrence of the non-empty text `p` replaced by `t`. -/
def replace (p t s : List Char) : List Char := replaceFrom p t 0 s

end XmlTemplate.Text
