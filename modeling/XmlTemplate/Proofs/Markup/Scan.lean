import XmlTemplate.Proofs.Markup.Names

/-!
# Tokens that are read as they stand

A token ends at the first mark that ends tokens of its kind. One without such a mark in it is read
back whatever follows it.

* `Token.Legible`: what the scanner makes of a token that is written down is the token.
* `cut?_append`: the first occurrence of a mark is where it was put.
* `Closed`: texts in which no `>` ends a tag. `Balanced`: texts in which none ends a doctype.
* `Token.legible_comment`, `Token.legible_start`, ...: when the tokens of each kind are legible.
-/

namespace XmlTemplate

/-! ## Marks -/

namespace Text

/-- A mark that ends in a character which it has nowhere else cannot begin inside a text without
marks and end in the mark behind it. -/
theorem cut?_append {v s : List Char} {z : Char} (hz : z ∉ v)
    (hs : contains (v ++ [z]) s = false) (rest : List Char) :
    cut? (v ++ [z]) (s ++ ((v ++ [z]) ++ rest)) = some (s, rest) := by
  have hlen : (v ++ [z]).length = v.length + 1 := by simp
  generalize hw : v ++ [z] = w at hs hlen
  induction s with
  | nil =>
    cases w with
    | nil => simp at hlen
    | cons a w =>
      have hp : (a :: w).isPrefixOf (a :: (w ++ rest)) = true :=
        List.isPrefixOf_iff_prefix.mpr ⟨rest, rfl⟩
      simp only [List.nil_append, List.cons_append, cut?, hp, if_true]
      simp
  | cons c r ih =>
    simp only [contains, Bool.or_eq_false_iff] at hs
    have hp : w.isPrefixOf (c :: (r ++ (w ++ rest))) = false := by
      refine Bool.eq_false_iff.mpr fun hp => ?_
      have hp : w <+: (c :: r) ++ (w ++ rest) := prefix_of_isPrefixOf hp
      have hr : (c :: r) <+: (c :: r) ++ (w ++ rest) := List.prefix_append ..
      by_cases hle : w.length ≤ (c :: r).length
      · -- The occurrence lies in the text.
        have h := List.prefix_of_prefix_length_le hp hr hle
        rw [List.isPrefixOf_iff_prefix.mpr h] at hs
        cases hs.1
      · -- It overlaps the mark, and its last character stands inside that one.
        obtain ⟨t, ht⟩ := List.prefix_of_prefix_length_le hr hp (by omega)
        have hl := congrArg List.length ht
        simp only [List.length_append, List.length_cons] at hl hle
        rw [← ht] at hp
        have htw : t <+: ((c :: r) ++ t) ++ rest := (List.prefix_append_right_inj _).mp hp
        rw [ht, ← hw, List.append_assoc] at htw
        have htv : t <+: v :=
          List.prefix_of_prefix_length_le htw (List.prefix_append v ([z] ++ rest)) (by omega)
        have hlast : ((c :: r) ++ t).getLast? = some z := by rw [ht, ← hw]; simp
        have hne : t ≠ [] := by
          rintro rfl
          simp only [List.length_nil] at hl
          omega
        obtain ⟨d, hd⟩ := Option.ne_none_iff_exists'.mp (mt List.getLast?_eq_none_iff.mp hne)
        rw [List.getLast?_append, hd] at hlast
        cases hlast
        exact hz (htv.subset (List.mem_of_getLast? hd))
    simp only [List.cons_append, cut?, hp]
    rw [ih hs.2]
    rfl

/-- A mark of two characters does not come about where the second text begins with another one. -/
theorem not_contains_append {c d : Char} {s t : List Char} (hs : contains [c, d] s = false)
    (ht : contains [c, d] t = false) (hd : t.head? ≠ some d) :
    contains [c, d] (s ++ t) = false := by
  have hhead (t : List Char) : [d].isPrefixOf t = true ↔ t.head? = some d := by
    cases t with
    | nil => simp
    | cons e r =>
      rw [List.isPrefixOf, List.isPrefixOf, Bool.and_true, beq_iff_eq, List.head?_cons,
        Option.some.injEq]
      exact eq_comm
  induction s with
  | nil => exact ht
  | cons x r ih =>
    simp only [contains, Bool.or_eq_false_iff] at hs
    have hnot : [d].isPrefixOf (r ++ t) = true → [d].isPrefixOf r = true ∨ t.head? = some d := by
      cases r with
      | nil => exact fun h => .inr ((hhead _).mp h)
      | cons y r => exact fun h => .inl ((hhead _).mpr ((hhead _).mp h))
    rw [List.cons_append, contains, ih hs.2, Bool.or_false]
    refine Bool.eq_false_iff.mpr fun hp => ?_
    have hcons (y : List Char) : [c, d].isPrefixOf (x :: y) = ((c == x) && [d].isPrefixOf y) := rfl
    rw [hcons, Bool.and_eq_true] at hp
    rcases hnot hp.2 with h | h
    · rw [hcons, hp.1, h] at hs
      cases hs.1
    · exact hd h

end Text

namespace Markup

/-! ## Ends of tags -/

/-- A text in which no `>` ends a tag and no quotation is left open. -/
def Closed (s : List Char) : Prop :=
  ∀ t, Token.cutTag none (s ++ t) = (Token.cutTag none t).map fun (a, b) => (s ++ a, b)

namespace Closed

variable {s t : List Char}

theorem nil : Closed [] := fun t => by
  rw [List.nil_append]
  cases Token.cutTag none t <;> rfl

theorem append (hs : Closed s) (ht : Closed t) : Closed (s ++ t) := by
  intro u
  rw [List.append_assoc, hs, ht]
  cases Token.cutTag none u <;> simp

theorem of_all (h : ∀ c ∈ s, c ≠ '>' ∧ c ≠ '"' ∧ c ≠ '\'') : Closed s := by
  induction s with
  | nil => exact nil
  | cons c r ih =>
    intro t
    obtain ⟨h₁, h₂, h₃⟩ := h c (List.mem_cons_self ..)
    have hr := ih (fun d hd => h d (List.mem_cons_of_mem _ hd)) t
    simp only [List.cons_append, Token.cutTag, beq_iff_eq, h₁, h₂, h₃, Bool.or_eq_true, or_self,
      if_false, hr]
    cases Token.cutTag none t <;> rfl

theorem of_plain (h : Plain s) : Closed s :=
  of_all fun _ hc => ⟨h.ne hc rfl, h.ne hc rfl, h.ne hc rfl⟩

theorem quoted (h : ∀ c ∈ s, c ≠ '"') : Closed ('"' :: (s ++ ['"'])) := by
  have inside (t : List Char) : Token.cutTag (some '"') (s ++ '"' :: t) =
      (Token.cutTag none t).map fun (a, b) => (s ++ '"' :: a, b) := by
    induction s with
    | nil =>
      simp only [List.nil_append, Token.cutTag, beq_self_eq_true, if_true]
    | cons c r ih =>
      have hr := ih fun d hd => h d (List.mem_cons_of_mem _ hd)
      have hc : (c == '"') = false := by simpa using h c (List.mem_cons_self ..)
      simp only [List.cons_append, Token.cutTag, hc, Bool.false_eq_true, if_false, hr]
      cases Token.cutTag none t <;> rfl
  intro t
  have hi := inside t
  have hs : ('"' :: (s ++ ['"'])) ++ t = '"' :: (s ++ '"' :: t) := by simp
  rw [hs, Token.cutTag]
  simp only [show ('"' == '>') = false from rfl, beq_self_eq_true, Bool.true_or, if_true,
    Bool.false_eq_true, if_false, hi]
  cases Token.cutTag none t <;> simp

/-- A closed text ends where it is seen to end. -/
theorem cut (hs : Closed s) (rest : List Char) :
    Token.cutTag none (s ++ '>' :: rest) = some (s, rest) := by
  rw [hs]
  simp [Token.cutTag]

end Closed

/-! ## Ends of doctypes -/

/-- The number of `<` left open after a text, if no `>` closes more than were open. -/
def depthAfter (depth : Nat) : List Char → Option Nat
  | [] => some depth
  | c :: r =>
    if c == '>' then
      match depth with
      | 0 => none
      | depth + 1 => depthAfter depth r
    else depthAfter (if c == '<' then depth + 1 else depth) r

theorem depthAfter_cons (depth : Nat) (c : Char) (r : List Char) :
    depthAfter depth (c :: r) =
      if c == '>' then
        match depth with
        | 0 => none
        | depth + 1 => depthAfter depth r
      else depthAfter (if c == '<' then depth + 1 else depth) r := rfl

/-- A text in which every `<` is closed and every `>` closes one. -/
def Balanced (s : List Char) : Prop := depthAfter 0 s = some 0

theorem cutBalanced_append {s : List Char} {depth : Nat} (h : depthAfter depth s = some 0)
    (rest : List Char) : Token.cutBalanced depth (s ++ '>' :: rest) = some (s, rest) := by
  induction s generalizing depth with
  | nil =>
    cases h
    rfl
  | cons c r ih =>
    simp only [depthAfter_cons] at h
    simp only [List.cons_append, Token.cutBalanced]
    split
    · rename_i hc
      rw [if_pos hc] at h
      cases depth with
      | zero => cases h
      | succ depth => simp [ih h]
    · rename_i hc
      rw [if_neg hc] at h
      rw [ih h]
      rfl

theorem depthAfter_of_cutBalanced {s a b : List Char} {depth : Nat}
    (h : Token.cutBalanced depth s = some (a, b)) : depthAfter depth a = some 0 := by
  induction s generalizing depth a with
  | nil => cases h
  | cons c r ih =>
    simp only [Token.cutBalanced] at h
    split at h
    · rename_i hc
      cases depth with
      | zero =>
        cases h
        rfl
      | succ depth =>
        simp only [Option.map_eq_some_iff, Prod.mk.injEq, Prod.exists] at h
        obtain ⟨a', b', hb, rfl, rfl⟩ := h
        simp [depthAfter_cons, hc, ih hb]
    · rename_i hc
      simp only [Option.map_eq_some_iff, Prod.mk.injEq, Prod.exists] at h
      obtain ⟨a', b', hb, rfl, rfl⟩ := h
      simp only [depthAfter_cons]
      rw [if_neg hc]
      exact ih hb

theorem depthAfter_append {s t : List Char} {depth : Nat} :
    depthAfter depth (s ++ t) = (depthAfter depth s).bind fun d => depthAfter d t := by
  induction s generalizing depth with
  | nil => rfl
  | cons c r ih =>
    simp only [List.cons_append, depthAfter_cons]
    split
    · cases depth with
      | zero => rfl
      | succ depth => exact ih
    · exact ih

/-- A text without angle brackets leaves as many open as there were. -/
theorem depthAfter_of_all {s : List Char} {depth : Nat} (h : ∀ c ∈ s, c ≠ '<' ∧ c ≠ '>') :
    depthAfter depth s = some depth := by
  induction s with
  | nil => rfl
  | cons c r ih =>
    obtain ⟨h₁, h₂⟩ := h c (List.mem_cons_self ..)
    simp only [depthAfter_cons, beq_iff_eq, h₁, h₂, if_false]
    exact ih fun d hd => h d (List.mem_cons_of_mem _ hd)

theorem Balanced.space {s : List Char} (h : Balanced s) : Balanced (' ' :: s) := h

/-! ## Legible tokens -/

namespace Token

/-- A token that is read back where it is written, whatever follows. -/
def Legible (t : Token) : Prop := ∀ rest, scan (t.source ++ rest) = .ok (t, rest)

variable {s : List Char}

theorem legible_comment (h : Text.contains ['-', '-', '>'] s = false) : Legible (.comment s) := by
  intro rest
  have hc := Text.cut?_append (v := ['-', '-']) (z := '>') (by decide) h rest
  have he : ((comment s).source ++ rest) =
      '<' :: '!' :: '-' :: '-' :: (s ++ ((['-', '-'] ++ ['>']) ++ rest)) := by
    simp [source]
  rw [he]
  show scanComment ('-' :: (s ++ ((['-', '-'] ++ ['>']) ++ rest))) = _
  rw [scanComment, show (['-', '-', '>'] : List Char) = ['-', '-'] ++ ['>'] from rfl, hc]

theorem legible_cdata (h : Text.contains [']', ']', '>'] s = false) : Legible (.cdata s) := by
  intro rest
  have hc := Text.cut?_append (v := [']', ']']) (z := '>') (by decide) h rest
  have he : ((cdata s).source ++ rest) =
      '<' :: '!' :: '[' :: 'C' :: 'D' :: 'A' :: 'T' :: 'A' :: '[' ::
        (s ++ (([']', ']'] ++ ['>']) ++ rest)) := by
    simp [source]
  rw [he]
  show scanCData ('C' :: 'D' :: 'A' :: 'T' :: 'A' :: '[' ::
    (s ++ (([']', ']'] ++ ['>']) ++ rest))) = _
  rw [scanCData, show ([']', ']', '>'] : List Char) = [']', ']'] ++ ['>'] from rfl, hc]

theorem legible_instruction (hs : s.head? ≠ some '>')
    (h : Text.contains ['?', '>'] s = false) : Legible (.instruction s) := by
  intro rest
  have hc := Text.cut?_append (v := ['?']) (z := '>') (by decide) h rest
  have he : ((instruction s).source ++ rest) =
      '<' :: '?' :: (s ++ ((['?'] ++ ['>']) ++ rest)) := by
    simp [source]
  have hhead : (s ++ ((['?'] ++ ['>']) ++ rest)).head? ≠ some '>' := by
    cases s with
    | nil => simp
    | cons c r => simpa using hs
  rw [he]
  show scanInstruction (s ++ ((['?'] ++ ['>']) ++ rest)) = _
  rw [scanInstruction, if_neg hhead, show (['?', '>'] : List Char) = ['?'] ++ ['>'] from rfl, hc]

theorem legible_reference (h : ∀ c ∈ s, c ≠ ';' ∧ c ≠ '&' ∧ c ≠ '<') : Legible (.reference s) := by
  intro rest
  have hs : ∀ c ∈ s, (!endsReference c) = true := by
    intro c hc
    obtain ⟨h₁, h₂, h₃⟩ := h c hc
    simp [endsReference, h₁, h₂, h₃]
  have he : ((reference s).source ++ rest) = '&' :: (s ++ ';' :: rest) := by simp [source]
  rw [he]
  show scanReference (s ++ ';' :: rest) = _
  rw [scanReference, List.dropWhile_append_of_pos hs, List.takeWhile_append_of_pos hs]
  simp [endsReference]

theorem legible_doctype (h : Balanced s) : Legible (.doctype "DOCTYPE".toList s) := by
  intro rest
  have he : ((doctype "DOCTYPE".toList s).source ++ rest) =
      '<' :: '!' :: 'D' :: 'O' :: 'C' :: 'T' :: 'Y' :: 'P' :: 'E' :: (s ++ '>' :: rest) := by
    simp [source]
  rw [he]
  have hk : (List.take 7 ('D' :: 'O' :: 'C' :: 'T' :: 'Y' :: 'P' :: 'E' :: (s ++ '>' :: rest))) =
      "DOCTYPE".toList := rfl
  show scanDoctype ('D' :: 'O' :: 'C' :: 'T' :: 'Y' :: 'P' :: 'E' :: (s ++ '>' :: rest)) = _
  rw [scanDoctype, hk, if_pos (by decide)]
  simp only [List.drop_succ_cons, List.drop_zero, cutBalanced_append h]

/-- The name of a tag is not mistaken for the beginning of another token. -/
theorem scan_tag {c : Char} (hc : isDelimiter c = false) (r : List Char) :
    scan ('<' :: c :: r) = match cutTag none (c :: r) with
      | some (inside, rest) => .ok (ofTag inside, rest)
      | none => .error .unclosedTag := by
  have hne {d : Char} (hd : isDelimiter d = true) : c ≠ d := by
    rintro rfl
    rw [hc] at hd
    cases hd
  unfold scan
  split
  · rename_i he
    cases he
    exact absurd rfl (hne (d := '!') rfl)
  · rename_i he
    cases he
    exact absurd rfl (hne (d := '?') rfl)
  · rename_i he
    cases he
    unfold scanTag
    split
    · rename_i he
      cases he
      exact absurd rfl (hne (d := '/') rfl)
    · rfl
  · rename_i he
    cases he
  · rename_i h₁ h₂ h₃ h₄ he
    cases he
    exact (h₃ rfl).elim
  · rename_i he
    cases he

theorem legible_start {c : Char} {r : List Char} (hc : isDelimiter c = false)
    (h : Closed (c :: r)) (hl : (c :: r).getLast? ≠ some '/') : Legible (.start (c :: r)) := by
  intro rest
  have he : ((start (c :: r)).source ++ rest) = '<' :: c :: (r ++ '>' :: rest) := by simp [source]
  rw [he, scan_tag hc, ← List.cons_append, h.cut]
  simp only [ofTag, hl, if_false]

theorem legible_empty {c : Char} {r : List Char} (hc : isDelimiter c = false)
    (h : Closed (c :: r)) : Legible (.empty (c :: r)) := by
  intro rest
  have hs : Closed ((c :: r) ++ ['/']) := h.append (Closed.of_all (Text.forall_of_all (by decide)))
  have he : ((empty (c :: r)).source ++ rest) = '<' :: c :: (r ++ ['/'] ++ '>' :: rest) := by
    simp [source]
  have hl : ((c :: r) ++ ['/']).getLast? = some '/' := by
    rw [List.getLast?_append]
    rfl
  rw [he, scan_tag hc]
  show (match cutTag none ((c :: r) ++ ['/'] ++ '>' :: rest) with
    | some (inside, rest) => Except.ok (ofTag inside, rest)
    | none => .error Fault.unclosedTag) = _
  rw [hs.cut]
  simp only [ofTag, hl, if_true, List.dropLast_concat]

theorem legible_finish (h : Closed s) : Legible (.finish s) := by
  intro rest
  have he : ((finish s).source ++ rest) = '<' :: '/' :: (s ++ '>' :: rest) := by simp [source]
  rw [he]
  show scanTag ('/' :: (s ++ '>' :: rest)) = _
  simp only [scanTag, h.cut]

end Token

end Markup

end XmlTemplate
