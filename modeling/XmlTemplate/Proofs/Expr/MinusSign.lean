import XmlTemplate.Proofs.Expr.Enclosed

/-!
# A minus sign behind a name

A name without a dollar sign ends before a minus sign, but the name of a function may have one in
it, and a function is looked for first. So `n -(e)` is a subtraction, while `n-(e)` is a call of
`n-` as soon as the name begins as a function may.

* `IsBareName`: the names that a variable can have without a dollar sign.
* `minusText`: a name, a minus sign and an expression in parentheses, with white space between them.
* `spells_subtraction`, `exists_call_of_minus`: the two readings.
* `parse?_minus_iff`: which of them it is.
-/

namespace XmlTemplate.Expr

open Grammar

variable {n : String} {a b s rest : List Char} {e : Expr} {d : Nat}

/-- A name of a variable that needs no dollar sign. -/
structure IsBareName (n : String) : Prop where
  chars : isName isNameStart isBareChar n.toList = true
  not_keyword : n ∉ keywords
  not_constant : n ∉ ["true", "false"]

/-- A name, a minus sign and a text in parentheses, with white space before and after the sign. -/
def minusText (n : String) (a b s : List Char) : List Char :=
  n.toList ++ (a ++ '-' :: (b ++ '(' :: (s ++ [')'])))

/-- What stands behind the name is no part of it. -/
theorem exists_behind (ha : ∀ c ∈ a, isSpace c = true) (s : List Char) :
    ∃ c t, a ++ '-' :: s = c :: t ∧ isBareChar c = false := by
  cases a with
  | nil => exact ⟨'-', s, rfl, rfl⟩
  | cons c a =>
    have hword : isWordChar c = false := isWordChar_eq_false_of_isSpace (ha c List.mem_cons_self)
    refine ⟨c, a ++ '-' :: s, rfl, Bool.eq_false_iff.mpr fun hc => ?_⟩
    exact Bool.false_ne_true (hword.symm.trans (isWordChar_of_isBareChar hc))

namespace IsBareName

theorem toList_eq_cons (hn : IsBareName n) :
    ∃ c t, n.toList = c :: t ∧ isNameStart c = true ∧ ∀ d ∈ t, isBareChar d = true := by
  have h := hn.chars
  cases ht : n.toList with
  | nil => simp [ht, isName] at h
  | cons c t =>
    simp only [ht, isName, Bool.and_eq_true, List.all_eq_true] at h
    exact ⟨c, t, rfl, h⟩

theorem starts (hn : IsBareName n) (ha : ∀ c ∈ a, isSpace c = true) (s : List Char) :
    Starts .primary (n.toList ++ (a ++ '-' :: s)) := by
  have hmem : "if" ∈ keywords := by simp [keywords]
  have hne : n.toList ≠ "if".toList := fun h => hn.not_keyword (String.toList_inj.mp h ▸ hmem)
  have hbare := isBareChar_of_mem_name hn.chars
  obtain ⟨c, t, ht, hstart, -⟩ := hn.toList_eq_cons
  obtain ⟨d, r, hr, hd⟩ := exists_behind ha s
  rw [ht] at hne hbare ⊢
  rw [hr]
  exact starts_of_word (fun _ => isWordChar_of_isBareChar) (isBareChar_of_mem_keyword hmem) hstart
    hbare hne hd r

/-- No function is read where white space follows the name, or where the name begins with an
underscore. -/
theorem call_eq_none (hn : IsBareName n) (ha : ∀ c ∈ a, isSpace c = true)
    (h : a = [] → n.toList.head?.any Char.isAlpha = false) (inner : Parser Expr) (s : List Char) :
    Grammar.call inner (n.toList ++ (a ++ '-' :: s)) = none := by
  obtain ⟨c, t, ht, hstart, hbare⟩ := hn.toList_eq_cons
  by_cases hc : c.isAlpha = true
  · have hword : isName Char.isAlpha isWordChar n.toList = true := by
      rw [ht, isName, hc, Bool.true_and, List.all_eq_true]
      exact fun d hd => isWordChar_of_isBareChar (hbare d hd)
    cases a with
    | nil => simp [ht, hc] at h
    | cons d a =>
      have hspace : isWordChar d = false := isWordChar_eq_false_of_isSpace (ha d List.mem_cons_self)
      refine Grammar.call_eq_none hword hspace ?_
      rw [skip_blank ha rfl]
      rfl
  · rw [ht, List.cons_append]
    exact call_cons_eq_none (Bool.eq_false_iff.mpr hc)

/-- A name that no function takes is the variable. -/
theorem primary_eq (hn : IsBareName n) {inner : Parser Expr}
    (hr : rest.head?.any isBareChar = false) (hc : Grammar.call inner (n.toList ++ rest) = none) :
    Grammar.primary inner (n.toList ++ rest) = some (.var n, rest) := by
  have hbare : bareName (n.toList ++ rest) = some (.var n, rest) := by
    have hk : String.ofList n.toList ∉ keywords := String.ofList_toList ▸ hn.not_keyword
    rw [bareName_append hn.chars hk hr, String.ofList_toList]
    have hconstant := hn.not_constant
    unfold valueOfName
    split <;> simp_all
  obtain ⟨c, t, ht, hstart, -⟩ := hn.toList_eq_cons
  rw [ht, List.cons_append] at hc hbare ⊢
  rw [primary_of_isNameStart hstart, hc, hbare]
  rfl

/-- The variable is all of the left operand. -/
theorem product_eq (hn : IsBareName n) (ha : ∀ c ∈ a, isSpace c = true)
    (h : a = [] → n.toList.head?.any Char.isAlpha = false) (inner : Parser Expr) (s : List Char) :
    product inner (n.toList ++ (a ++ '-' :: s)) = some (.var n, a ++ '-' :: s) := by
  have hend : (a ++ '-' :: s).head?.any isBareChar = false := by
    obtain ⟨c, t, hr, hc⟩ := exists_behind ha s
    rw [hr]
    exact hc
  have hprimary : Grammar.primary inner (n.toList ++ (a ++ '-' :: s)) =
      some (.var n, a ++ '-' :: s) := hn.primary_eq hend (hn.call_eq_none ha h inner s)
  have hunary : unary inner (n.toList ++ (a ++ '-' :: s)) = some (.var n, a ++ '-' :: s) := by
    obtain ⟨c, t, ht, hspace, hminus⟩ := (hn.starts ha s).head
    rw [ht] at hprimary ⊢
    exact unary_of_primary hspace (hminus rfl) hprimary
  have hop : infixed .product (skip (a ++ '-' :: s)) = none := by
    rw [skip_blank ha rfl]
    simp [infixed, operator, sign, wordOp, keyword?, after?]
  have hproduct : product inner (n.toList ++ (a ++ '-' :: s)) =
      some (extend (infixed .product) (unary inner) (.var n) (a ++ '-' :: s)) :=
    chain_of_operand hunary
  rwa [extend_of_none hop] at hproduct

end IsBareName

/-- Where no function is read, the minus sign subtracts what is in the parentheses. -/
theorem spells_subtraction (hn : IsBareName n) (ha : ∀ c ∈ a, isSpace c = true)
    (hb : ∀ c ∈ b, isSpace c = true) (h : a = [] → n.toList.head?.any Char.isAlpha = false)
    (he : parse? s = some e) :
    Spells .sum (minusText n a b s) (.arith .sub (.var n) e) := by
  refine ⟨(hn.starts ha _).mono (by decide), fun d hd rest hf => ?_⟩
  let operand := '(' :: (s ++ [')'])
  have hoperand : Spells .product operand e := (Spells.parenthesized_of_parse? he).mono (by decide)
  let behind := a ++ '-' :: (b ++ (operand ++ rest))
  have htext : minusText n a b s ++ rest = n.toList ++ behind := by
    simp [minusText, behind, operand]
  have hleft : product (single d) (n.toList ++ behind) = some (.var n, behind) :=
    hn.product_eq ha h (single d) _
  have hright : tail (infixed .sum) (product (single d)) behind =
      some ((.arith .sub, e), rest) := by
    have hlength : operand.length ≤ d := by
      simp only [minusText, List.length_append, List.length_cons] at hd
      simp only [operand, List.length_append, List.length_cons]
      omega
    have hread : product (single d) (operand ++ rest) = some (e, rest) :=
      (hoperand.reads d hlength rest (hf.mono (by decide))).trans
        (congrArg some (hf.resume_eq (by decide)))
    have hminus : infixed .sum ('-' :: (b ++ (operand ++ rest))) =
        some (.arith .sub, b ++ (operand ++ rest)) := rfl
    have hopen : skip (b ++ (operand ++ rest)) = operand ++ rest := skip_blank hb rfl
    have hskip : skip behind = '-' :: (b ++ (operand ++ rest)) := skip_blank ha rfl
    rw [tail, hskip, hminus, Option.bind_some]
    simp only [hopen, hread, Option.map_some]
  have hshorter : rest.length < behind.length := by
    simp only [behind, List.length_append, List.length_cons]
    omega
  show chain (infixed .sum) (product (single d)) _ = _
  rw [htext, chain_of_operand hleft, extend_of_tail hright hshorter]
  rfl

/-- Directly behind a letter the minus sign belongs to the name of a function. -/
theorem exists_call_of_minus (hn : IsBareName n) (hletter : n.toList.head?.any Char.isAlpha = true)
    (hb : ∀ c ∈ b, isSpace c = true) (he : parse? s = some e) :
    ∃ args, ofItems args = e ∧ parse? (minusText n [] b s) = some (.call (n ++ "-") args) := by
  have hname : (n ++ "-").toList = n.toList ++ ['-'] := by simp
  have hword : isName Char.isAlpha isWordChar (n ++ "-").toList = true := by
    obtain ⟨c, t, ht, -, hbare⟩ := hn.toList_eq_cons
    rw [ht] at hletter hname
    rw [hname, List.cons_append, isName, Bool.and_eq_true, List.all_eq_true]
    refine ⟨hletter, fun d hd => ?_⟩
    rcases List.mem_append.mp hd with hd | hd
    · exact isWordChar_of_isBareChar (hbare d hd)
    · rw [List.mem_singleton.mp hd]
      rfl
  have hkeyword : n ++ "-" ∉ keywords := by
    intro h
    have := isBareChar_of_mem_keyword h '-' (by simp [hname])
    cases this
  obtain ⟨args, hargs, hspells⟩ := Spells.exists_call_of_parse? hword hkeyword hb he
  refine ⟨args, hargs, ?_⟩
  have htext : minusText n [] b s = (n ++ "-").toList ++ (b ++ '(' :: (s ++ [')'])) := by
    simp [minusText]
  rw [htext]
  exact (hspells.mono (Nat.zero_le _)).parses

/-- **White space before a minus sign decides** what stands behind a name, and so does the first
letter of the name. It is a subtraction exactly if there is white space or the name begins with an
underscore. Otherwise the sign belongs to the name of a function, and what would be subtracted is
its arguments. -/
theorem parse?_minus_iff (hn : IsBareName n) (ha : ∀ c ∈ a, isSpace c = true)
    (hb : ∀ c ∈ b, isSpace c = true) (he : parse? s = some e) :
    (parse? (minusText n a b s) = some (.arith .sub (.var n) e) ↔
      (a = [] → n.toList.head?.any Char.isAlpha = false)) ∧
    (a = [] → n.toList.head?.any Char.isAlpha = true →
      ∃ args, ofItems args = e ∧ parse? (minusText n a b s) = some (.call (n ++ "-") args)) := by
  refine ⟨⟨fun h hnil => ?_, fun h => ?_⟩, fun hnil hletter => ?_⟩
  · subst hnil
    refine Bool.eq_false_iff.mpr fun hletter => ?_
    obtain ⟨args, -, hcall⟩ := exists_call_of_minus hn hletter hb he
    rw [hcall] at h
    cases h
  · exact ((spells_subtraction hn ha hb h he).mono (Nat.zero_le _)).parses
  · subst hnil
    exact exists_call_of_minus hn hletter hb he

/-- A space before the sign makes the difference. -/
theorem parse?_minus_iff_total :
    parse? "total -(k)".toList = some (.arith .sub (.var "total") (.var "k")) ∧
      ∃ args, ofItems args = .var "k" ∧
        parse? "total-(k)".toList = some (.call "total-" args) := by
  have hn : IsBareName "total" := ⟨by cbv, by decide, by decide⟩
  have he : parse? "k".toList = some (.var "k") := by cbv
  have hspace : ∀ c ∈ [' '], isSpace c = true := by simp [isSpace]
  have hblank : ∀ c ∈ ([] : List Char), isSpace c = true := by simp
  have hspaced : minusText "total" [' '] [] "k".toList = "total -(k)".toList := by cbv
  have hclose : minusText "total" [] [] "k".toList = "total-(k)".toList := by cbv
  exact ⟨hspaced ▸ (parse?_minus_iff hn hspace hblank he).1.mpr (by simp),
    hclose ▸ (parse?_minus_iff hn hblank hblank he).2 rfl (by cbv)⟩

/-- White space around a minus sign does matter behind a name. -/
theorem parse?_minus_not_subtraction :
    ¬ ∀ (n : String) (s : List Char) (e : Expr), IsBareName n → parse? s = some e →
      ∀ a ∈ [[], [' ']], ∀ b ∈ [[], [' ']],
        parse? (minusText n a b s) = some (.arith .sub (.var n) e) := by
  intro h
  have hn : IsBareName "n" := ⟨by cbv, by decide, by decide⟩
  have he : parse? "1".toList = some (.literal (.integer 1)) := by cbv
  have hsub := h "n" "1".toList _ hn he [] (by simp) [] (by simp)
  obtain ⟨args, -, hcall⟩ := exists_call_of_minus (b := []) hn (by cbv) (by simp) he
  cases hcall.symm.trans hsub

end XmlTemplate.Expr
