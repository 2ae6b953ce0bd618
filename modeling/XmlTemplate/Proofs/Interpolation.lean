import XmlTemplate.Interpolation
import XmlTemplate.Proofs.Text

/-!
# Writing text so that it is read as what it is

Text may hold braces that refer to nothing, and it may be a reference and nothing else.

* `doubled`: a text in which every brace is doubled. It is one literal, the text itself.
* `reference`: a name in braces. It is one symbol.

Both are read like this also where more text stands behind them (`segmentsFrom_escape_append`,
`segmentsFrom_reference`).
-/

namespace XmlTemplate.Interpolation

/-! ## Doubled braces -/

/-- A text in which every brace is doubled. -/
def doubled (text : String) : String := String.ofList (text.toList.flatMap escape)

theorem toList_doubled (text : String) : (doubled text).toList = text.toList.flatMap escape :=
  String.toList_ofList

theorem escape_of_isBrace {c : Char} (h : isBrace c = true) : escape c = [c, c] := if_pos h

theorem escape_of_not_isBrace {c : Char} (h : isBrace c = false) : escape c = [c] :=
  if_neg (by simp [h])

/-- Doubling brings in no braces and takes none away. -/
theorem any_isBrace_doubled (text : String) :
    (doubled text).toList.any isBrace = text.toList.any isBrace := by
  rw [toList_doubled]
  induction text.toList with
  | nil => rfl
  | cons c r ih =>
    rw [List.flatMap_cons, List.any_append, ih, List.any_cons]
    cases h : isBrace c with
    | true => rw [escape_of_isBrace h, List.any_cons, h, Bool.true_or]
    | false => rw [escape_of_not_isBrace h, List.any_cons, h, List.any_nil, Bool.false_or]

theorem flatMap_escape_of_braceless {s : List Char} (h : s.any isBrace = false) :
    s.flatMap escape = s := by
  induction s with
  | nil => rfl
  | cons c r ih =>
    rw [List.any_cons, Bool.or_eq_false_iff] at h
    rw [List.flatMap_cons, escape_of_not_isBrace h.1, ih h.2]
    rfl

theorem doubled_of_braceless {text : String} (h : text.toList.any isBrace = false) :
    doubled text = text := by
  rw [doubled, flatMap_escape_of_braceless h, String.ofList_toList]

/-- Doubled braces go into the literal that has been begun, each pair as one brace. -/
theorem segmentsFrom_escape_append (reversed s rest : List Char) :
    segmentsFrom reversed (s.flatMap escape ++ rest) =
      segmentsFrom (s.reverse ++ reversed) rest := by
  induction s generalizing reversed with
  | nil => rfl
  | cons c r ih =>
    rw [List.flatMap_cons, List.append_assoc, List.reverse_cons, List.append_assoc,
      List.singleton_append, ← ih (c :: reversed)]
    cases h : isBrace c with
    | true =>
      rw [escape_of_isBrace h, List.cons_append, segmentsFrom, if_pos h]
      exact if_pos rfl
    | false =>
      rw [escape_of_not_isBrace h, List.singleton_append, segmentsFrom, if_neg (by simp [h])]

theorem segmentsFrom_escape (reversed s : List Char) :
    segmentsFrom reversed (s.flatMap escape) = literalOf (s.reverse ++ reversed) := by
  rw [← List.append_nil (s.flatMap escape), segmentsFrom_escape_append, segmentsFrom]

/-- **A text with doubled braces is one literal**, the text itself. -/
theorem segments_doubled (text : String) : segments (doubled text) = [.literal text] := by
  rw [segments, any_isBrace_doubled]
  cases h : text.toList.any isBrace with
  | false => rw [doubled_of_braceless h, if_neg Bool.false_ne_true]
  | true =>
    have hne : text.toList.reverse.isEmpty = false := by
      cases hs : text.toList with
      | nil => rw [hs] at h; cases h
      | cons c r => simp
    rw [if_pos rfl, toList_doubled, segmentsFrom_escape, List.append_nil, literalOf, hne,
      if_neg Bool.false_ne_true, List.reverse_reverse, String.ofList_toList]

/-! ## References -/

/-- A reference to a symbol as it is written. -/
def reference (name : String) : String := String.ofList (Segment.symbol name).encode

theorem toList_reference (name : String) :
    (reference name).toList = opening :: (name.toList ++ [closing]) := String.toList_ofList

theorem isBrace_opening : isBrace opening = true := rfl

/-- The characters of a class that no brace belongs to. -/
theorem not_isBrace_of_class {p : Char → Bool} {c : Char} (h : p c = true)
    (ho : p opening = false) (hc : p closing = false) : isBrace c = false := by
  rw [isBrace, Bool.or_eq_false_iff, beq_eq_false_iff_ne, beq_eq_false_iff_ne]
  constructor
  · rintro rfl
    exact absurd h (by simp [ho])
  · rintro rfl
    exact absurd h (by simp [hc])

theorem not_isBrace_of_isSymbolChar {c : Char} (h : isSymbolChar c = true) : isBrace c = false :=
  not_isBrace_of_class h rfl rfl

theorem isSymbolChar_of_isSymbolStart {c : Char} (h : isSymbolStart c = true) :
    isSymbolChar c = true := by
  rw [isSymbolStart, Bool.or_eq_true] at h
  rw [isSymbolChar, Char.isAlphanum]
  rcases h with h | h <;> simp [h]

theorem isSymbolChar_of_isSymbolName {s : List Char} (h : isSymbolName s = true) :
    ∀ c ∈ s, isSymbolChar c = true := by
  cases s with
  | nil => cases h
  | cons c r =>
    rw [isSymbolName, Bool.and_eq_true, List.all_eq_true] at h
    exact List.forall_mem_cons.mpr ⟨isSymbolChar_of_isSymbolStart h.1, h.2⟩

/-- A name is read up to the brace behind it. -/
theorem referenceName?_append {s : List Char} (h : isSymbolName s = true) (rest : List Char) :
    referenceName? (s ++ closing :: rest) = some (s, rest) := by
  have hs : ∀ c ∈ s, (c == closing) = false := fun c hc => by
    have hb := not_isBrace_of_isSymbolChar (isSymbolChar_of_isSymbolName h c hc)
    rw [isBrace, Bool.or_eq_false_iff] at hb
    exact hb.2
  rw [referenceName?, Text.cutAt?_append hs (beq_self_eq_true closing), Option.filter_some,
    if_pos h]

/-- The name that is read is a name, and the brace behind it has been read too. -/
theorem eq_append_of_referenceName? {s name rest : List Char}
    (h : referenceName? s = some (name, rest)) :
    s = name ++ closing :: rest ∧ isSymbolName name = true := by
  obtain ⟨hcut, hname⟩ := Option.filter_eq_some_iff.mp h
  obtain ⟨c, hc, rfl, -⟩ := Text.eq_append_of_cutAt? hcut
  rw [eq_of_beq hc]
  exact ⟨rfl, hname⟩

/-- A name in braces ends the literal that has been begun. -/
theorem segmentsFrom_reference {name : List Char} (h : isSymbolName name = true)
    (reversed rest : List Char) :
    segmentsFrom reversed (opening :: (name ++ closing :: rest)) =
      literalOf reversed ++ .symbol (String.ofList name) :: segmentsFrom [] rest := by
  have hhead : (name ++ closing :: rest).head? ≠ some opening := by
    cases name with
    | nil => cases h
    | cons c r =>
      rintro e
      cases e
      exact absurd (isSymbolChar_of_isSymbolName h opening List.mem_cons_self) (by decide)
  have hname : (if opening = opening then referenceName? (name ++ closing :: rest) else none) =
      some (name, rest) := (if_pos rfl).trans (referenceName?_append h rest)
  rw [segmentsFrom, if_pos isBrace_opening, if_neg hhead]
  split
  · rename_i hs
    obtain ⟨rfl, rfl⟩ := Prod.mk.inj (Option.some.inj (hname.symm.trans hs))
    rfl
  · rename_i hs
    cases hname.symm.trans hs

/-- **A name in braces is one symbol.** -/
theorem segments_reference {name : String} (h : isSymbolName name.toList = true) :
    segments (reference name) = [.symbol name] := by
  rw [segments, toList_reference, List.any_cons, isBrace_opening, Bool.true_or, if_pos rfl,
    segmentsFrom_reference h, segmentsFrom, String.ofList_toList]
  rfl

end XmlTemplate.Interpolation
