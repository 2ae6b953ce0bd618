import XmlTemplate.Proofs.Expr.Combinators

/-!
# Strings and parentheses in expressions

Which strings and parentheses are open at a place of a text, from its characters alone.

* `Nesting`: what is open. `scan_deeper`: parentheses around a text are left alone by it.
* `Balanced`: a text that closes what it opens. `Uncut`: a text that does not end within what it
  opens, though it may close more.
* `scan_of_quoted`, `scan_of_quoted_eq_none`: a string as the parser of strings takes it.
* `after?_close`, `keyword?_close`, `quoted_close`: what the parsers of words and strings make of a
  closing parenthesis behind a text.
-/

namespace XmlTemplate.Expr.Grammar

variable {s t w r y : List Char} {c : Char}

/-! ## Strings and parentheses -/

/-- What is open at a place of a text: a string with this mark, and so many parentheses. -/
structure Nesting where
  mark : Option Char
  depth : Nat

namespace Nesting

/-- Nothing is open. -/
def outside : Nesting := ⟨none, 0⟩

/-- One more parenthesis is open, around the others. -/
def deeper (n : Nesting) : Nesting := ⟨n.mark, n.depth + 1⟩

/-- What is open after a character, unless it closes a parenthesis that is not open. -/
def step (n : Nesting) (c : Char) : Option Nesting :=
  match n.mark with
  | some m => some (if c = m then ⟨none, n.depth⟩ else n)
  | none =>
    if c = '(' then some n.deeper
    else if c = ')' then
      match n.depth with
      | 0 => none
      | depth + 1 => some ⟨none, depth⟩
    else if c = '"' ∨ c = '\'' then some ⟨some c, n.depth⟩
    else some n

/-- What is open after a text. -/
def scan (n : Nesting) (s : List Char) : Option Nesting := s.foldlM step n

theorem scan_cons (n : Nesting) (c : Char) (s : List Char) :
    n.scan (c :: s) = (n.step c).bind fun m => m.scan s := rfl

theorem scan_append (n : Nesting) (s t : List Char) :
    n.scan (s ++ t) = (n.scan s).bind fun m => m.scan t := List.foldlM_append

theorem step_deeper {n m : Nesting} (h : n.step c = some m) : n.deeper.step c = some m.deeper := by
  obtain ⟨_ | mark, depth⟩ := n
  · by_cases hclose : c = ')'
    · subst hclose
      cases depth with
      | zero => cases h
      | succ depth =>
        cases h
        rfl
    · simp only [step, deeper, hclose, if_false] at h ⊢
      split_ifs at h ⊢ <;> cases h <;> rfl
  · simp only [step, deeper] at h ⊢
    split_ifs at h ⊢ <;> cases h <;> rfl

/-- Parentheses around a text are left open by it. -/
theorem scan_deeper {n m : Nesting} (h : n.scan s = some m) : n.deeper.scan s = some m.deeper := by
  induction s generalizing n with
  | nil =>
    cases h
    rfl
  | cons c s ih =>
    obtain ⟨k, hk, hs⟩ := Option.bind_eq_some_iff.mp h
    rw [scan_cons, step_deeper hk]
    exact ih hs

end Nesting

open Nesting

/-- Characters that open and close nothing. -/
def isPlain (c : Char) : Bool := c != '(' && c != ')' && c != '"' && c != '\''

theorem isPlain_of_class {p : Char → Bool} (h : p c = true) (ho : p '(' = false)
    (hc : p ')' = false) (hd : p '"' = false) (hs : p '\'' = false) : isPlain c = true := by
  simp [isPlain, ne_of_class h ho, ne_of_class h hc, ne_of_class h hd, ne_of_class h hs]

theorem isPlain_of_isWordChar (h : isWordChar c = true) : isPlain c = true :=
  isPlain_of_class h rfl rfl rfl rfl

theorem isPlain_of_isSpace (h : isSpace c = true) : isPlain c = true :=
  isPlain_of_class h rfl rfl rfl rfl

theorem isPlain_of_isDigit (h : c.isDigit = true) : isPlain c = true :=
  isPlain_of_class h rfl rfl rfl rfl

/-- A text whose strings and parentheses are complete. -/
def Balanced (s : List Char) : Prop := outside.scan s = some outside

namespace Balanced

theorem nil : Balanced [] := rfl

theorem append (hs : Balanced s) (ht : Balanced t) : Balanced (s ++ t) := by
  rw [Balanced, scan_append, hs]
  exact ht

theorem of_plain (h : ∀ c ∈ s, isPlain c = true) : Balanced s := by
  induction s with
  | nil => exact nil
  | cons c s ih =>
    have hc := h c List.mem_cons_self
    have hstep : outside.step c = some outside := by
      simp_all [step, outside, isPlain]
    rw [Balanced, scan_cons, hstep]
    exact ih fun d hd => h d (List.mem_cons_of_mem c hd)

theorem enclosed (h : Balanced s) : Balanced ('(' :: (s ++ [')'])) := by
  have hopen : outside.scan ('(' :: (s ++ [')'])) = outside.deeper.scan (s ++ [')']) := rfl
  rw [Balanced, hopen, scan_append, scan_deeper h]
  rfl

end Balanced

/-- A text that does not end in parentheses or in a string that it opens. -/
def Uncut (s : List Char) : Prop := ∀ n, outside.scan s = some n → n = outside

theorem Balanced.uncut (h : Balanced s) : Uncut s := fun _ hn => Option.some.inj (hn.symm.trans h)

namespace Uncut

theorem of_append (h : Uncut (w ++ r)) (hw : Balanced w) : Uncut r := by
  intro n hn
  refine h n ?_
  rw [scan_append, hw]
  exact hn

theorem inside (h : Uncut ('(' :: s)) : Uncut s := by
  intro n hn
  have hopen : outside.scan ('(' :: s) = some n.deeper := scan_deeper hn
  exact absurd (congrArg depth (h _ hopen)) (Nat.succ_ne_zero _)

/-- What is open inside parentheses is not the end of the text. -/
theorem skip_ne_nil (h : Uncut ('(' :: (w ++ r))) (hw : Balanced w) : skip r ≠ [] := by
  intro hr
  have hspace : Balanced r :=
    .of_plain fun c hc => isPlain_of_isSpace (List.dropWhile_eq_nil_iff.mp hr c hc)
  have hopen : outside.scan ('(' :: (w ++ r)) = some outside.deeper :=
    scan_deeper (hw.append hspace)
  exact absurd (congrArg depth (h _ hopen)) (Nat.succ_ne_zero _)

end Uncut

/-! ## Strings -/

theorem step_mark (mark : Char) : (⟨some mark, 0⟩ : Nesting).step mark = some outside := by
  simp [step, outside]

theorem step_of_ne {mark : Char} (h : c ≠ mark) :
    (⟨some mark, 0⟩ : Nesting).step c = some ⟨some mark, 0⟩ := by
  simp [step, h]

section Marks

variable {mark : Char} (hm : mark = '"' ∨ mark = '\'')

include hm

theorem outside_step_mark : outside.step mark = some ⟨some mark, 0⟩ := by
  rcases hm with rfl | rfl <;> rfl

/-- A string is open up to its closing mark. -/
theorem scan_of_quoted {v : List Char} (h : quoted mark s = some (v, r)) :
    ∃ w, s = w ++ r ∧ scan ⟨some mark, 0⟩ w = some outside := by
  fun_induction quoted mark s generalizing v with
  | case1 => cases h
  | case2 c hc d s hd ih =>
    obtain rfl := beq_iff_eq.mp hc
    obtain rfl := beq_iff_eq.mp hd
    obtain ⟨x, hx, he⟩ := Option.map_eq_some_iff.mp h
    cases he
    obtain ⟨w, rfl, hw⟩ := ih hx
    exact ⟨d :: d :: w, rfl, by simpa [scan_cons, step_mark, outside_step_mark hm] using hw⟩
  | case3 c hc d s hd =>
    obtain rfl := beq_iff_eq.mp hc
    cases h
    exact ⟨[c], rfl, by rw [scan_cons, step_mark]; rfl⟩
  | case4 c hc =>
    obtain rfl := beq_iff_eq.mp hc
    cases h
    exact ⟨[c], rfl, by rw [scan_cons, step_mark]; rfl⟩
  | case5 c s hc ih =>
    obtain ⟨x, hx, he⟩ := Option.map_eq_some_iff.mp h
    cases he
    obtain ⟨w, rfl, hw⟩ := ih hx
    exact ⟨c :: w, rfl, by simpa [scan_cons, step_of_ne (beq_iff_eq.not.mp hc)] using hw⟩

/-- A string without a closing mark is open to the end. -/
theorem scan_of_quoted_eq_none (h : quoted mark s = none) :
    scan ⟨some mark, 0⟩ s = some ⟨some mark, 0⟩ := by
  fun_induction quoted mark s with
  | case1 => rfl
  | case2 c hc d s hd ih =>
    obtain rfl := beq_iff_eq.mp hc
    obtain rfl := beq_iff_eq.mp hd
    simpa [scan_cons, step_mark, outside_step_mark hm] using ih (Option.map_eq_none_iff.mp h)
  | case3 => cases h
  | case4 => cases h
  | case5 c s hc ih =>
    simpa [scan_cons, step_of_ne (beq_iff_eq.not.mp hc)] using ih (Option.map_eq_none_iff.mp h)

/-- A parenthesis behind a string does not double its closing mark. -/
theorem quoted_close {v : List Char} (h : quoted mark s = some (v, r)) :
    quoted mark (s ++ ')' :: y) = some (v, r ++ ')' :: y) := by
  fun_induction quoted mark s generalizing v with
  | case1 => cases h
  | case2 c hc d s hd ih =>
    obtain ⟨x, hx, he⟩ := Option.map_eq_some_iff.mp h
    cases he
    simp [quoted, hc, hd, ih hx]
  | case3 c hc d s hd =>
    cases h
    simp [quoted, hc, hd]
  | case4 c hc =>
    have hne : ')' ≠ mark := by rcases hm with rfl | rfl <;> decide
    cases h
    simp [quoted, hc, hne]
  | case5 c s hc ih =>
    obtain ⟨x, hx, he⟩ := Option.map_eq_some_iff.mp h
    cases he
    rw [List.cons_append, quoted.eq_def]
    simp [hc, ih hx]

end Marks

/-! ## Words before a parenthesis -/

theorem takeWhile_close {p : Char → Bool} (h : p ')' = false) (s y : List Char) :
    (s ++ ')' :: y).takeWhile p = s.takeWhile p := by
  induction s with
  | nil => simp [h]
  | cons c s ih => simp [List.takeWhile_cons, ih]

theorem dropWhile_close {p : Char → Bool} (h : p ')' = false) (s y : List Char) :
    (s ++ ')' :: y).dropWhile p = s.dropWhile p ++ ')' :: y := by
  induction s with
  | nil => simp [h]
  | cons c s ih =>
    simp only [List.cons_append, List.dropWhile_cons, ih]
    split <;> rfl

theorem skip_append_close (s y : List Char) : skip (s ++ ')' :: y) = skip s ++ ')' :: y :=
  dropWhile_close rfl s y

theorem after?_cons_cons (c d : Char) (w s : List Char) :
    after? (c :: w) (d :: s) = if c = d then after? w s else none := by
  by_cases h : c = d <;> simp [after?, List.isPrefixOf, h]

theorem after?_close (h : ∀ c ∈ w, isPlain c = true) (s y : List Char) :
    after? w (s ++ ')' :: y) = (after? w s).map (· ++ ')' :: y) := by
  induction w generalizing s with
  | nil => rfl
  | cons c w ih =>
    rw [List.forall_mem_cons] at h
    cases s with
    | nil => exact after?_cons_cons c ')' w y ▸ if_neg (ne_of_class h.1 rfl)
    | cons d s =>
      rw [List.cons_append, after?_cons_cons, after?_cons_cons, ih h.2]
      split <;> rfl

theorem keyword?_close {k : String} (h : ∀ c ∈ k.toList, isPlain c = true) (s y : List Char) :
    keyword? k (s ++ ')' :: y) = (keyword? k s).map (· ++ ')' :: y) := by
  rw [keyword?, keyword?, after?_close h]
  cases after? k.toList s with
  | none => rfl
  | some r =>
    have hhead : (r ++ ')' :: y).head?.any isWordChar = r.head?.any isWordChar := by
      cases r <;> rfl
    simp only [Option.map_some, Option.filter_some, hhead]
    split <;> rfl

end XmlTemplate.Expr.Grammar
