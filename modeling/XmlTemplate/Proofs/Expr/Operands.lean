import Mathlib
import XmlTemplate.Proofs.Expr.Printer

/-!
# Reading operands

What the parsers of names, numbers and strings make of a text that was printed, whatever stands
behind it.

* `word?_append`, `keyword?_eq_none_of_class`: a word ends where its characters end.
* `readSigned?_ofInt`: the digits of an integer are read as that integer.
* `quoted_doubled`: a string ends at the first mark that is not doubled.
* `primary_integer`, `primary_string`, `primary_var`, `primary_call` and the others: the parser of
  operands takes the form that was printed.
-/

namespace XmlTemplate.Decimal

theorem digitValue?_of_isDigit {c : Char} (h : c.isDigit = true) :
    digitValue? 10 c = some (c.toNat - '0'.toNat) := by
  simp only [Char.isDigit, Bool.and_eq_true, decide_eq_true_eq] at h
  have hc : '0' ≤ c ∧ c ≤ '9' := h
  have hlt : c.toNat - '0'.toNat < 10 := by
    have : c.toNat ≤ 57 := h.2
    show c.toNat - 48 < 10
    omega
  rw [digitValue?, if_pos hc, Option.filter_some, if_pos (decide_eq_true hlt)]

theorem ofDigitsFrom?_of_isDigit {s : List Char} (acc : Nat) (h : ∀ c ∈ s, c.isDigit = true) :
    ofDigitsFrom? 10 acc s = some (Nat.ofDigitChars 10 s acc) := by
  induction s generalizing acc with
  | nil => rfl
  | cons c r ih =>
    have hr : ∀ d ∈ r, d.isDigit = true := fun d hd => h d (List.mem_cons_of_mem c hd)
    rw [ofDigitsFrom?, digitValue?_of_isDigit (h c List.mem_cons_self), Option.bind_some, ih _ hr,
      Nat.mul_comm]
    rfl

/-- A number is read from its digits. -/
theorem ofDigits?_toDigits (n : Nat) : ofDigits? 10 (Nat.toDigits 10 n) = some n := by
  have hne : (Nat.toDigits 10 n).isEmpty = false := by simp [Nat.toDigits_ne_nil]
  rw [ofDigits?, hne, if_neg Bool.false_ne_true, ofDigitsFrom?_of_isDigit 0
    fun c => Nat.isDigit_of_mem_toDigits (by decide) (by decide),
    Nat.ofDigitChars_toDigits (by decide) (by decide)]

theorem ofInt_of_nonneg {n : Int} (h : 0 ≤ n) : ofInt n = Nat.toDigits 10 n.natAbs :=
  if_neg (by omega)

theorem isDigit_of_mem_ofInt {n : Int} (h : 0 ≤ n) {c : Char} (hc : c ∈ ofInt n) :
    c.isDigit = true := by
  rw [ofInt_of_nonneg h] at hc
  exact Nat.isDigit_of_mem_toDigits (by decide) (by decide) hc

/-- An integer that is not negative begins with a digit. -/
theorem ofInt_eq_cons {n : Int} (h : 0 ≤ n) : ∃ c r, ofInt n = c :: r ∧ c.isDigit = true := by
  cases hs : ofInt n with
  | nil => exact absurd (ofInt_of_nonneg h ▸ hs) Nat.toDigits_ne_nil
  | cons c r =>
    exact ⟨c, r, rfl, isDigit_of_mem_ofInt h (hs ▸ List.mem_cons_self)⟩

/-- An integer that is not negative is read from its digits. -/
theorem readSigned?_ofInt {n : Int64} (h : 0 ≤ n.toInt) : readSigned? (ofInt n.toInt) = some n := by
  obtain ⟨c, r, he, hc⟩ := ofInt_eq_cons h
  have hd : ofDigits? 10 (c :: r) = some n.toInt.natAbs := by
    rw [← he, ofInt_of_nonneg h, ofDigits?_toDigits]
  rw [he, readSigned?, hd, Option.bind_some, Int.natAbs_of_nonneg h, word?_toInt]
  · exact fun r hr => absurd hc ((List.cons.inj hr).1 ▸ by decide)
  · exact fun r hr => absurd hc ((List.cons.inj hr).1 ▸ by decide)

end XmlTemplate.Decimal

namespace XmlTemplate.Expr.Grammar

variable {first other : Char → Bool} {w rest s : List Char} {inner : Parser Expr} {c : Char}

/-! ## Words -/

theorem ne_of_class {p : Char → Bool} {d : Char} (h : p c = true) (hd : p d = false) : c ≠ d := by
  rintro rfl
  exact absurd h (by simp [hd])

theorem isSpace_eq_false_of_isAlphanum (h : c.isAlphanum = true) : isSpace c = false := by
  simp [isSpace, ne_of_class (d := ' ') h rfl, ne_of_class (d := '\t') h rfl,
    ne_of_class (d := '\n') h rfl, ne_of_class (d := '\x0d') h rfl]

theorem isDigit_eq_false_of_isAlpha (h : c.isAlpha = true) : c.isDigit = false := by
  grind [Char.isAlpha, Char.isDigit, Char.isUpper, Char.isLower]

theorem isWordChar_of_isDigit (h : c.isDigit = true) : isWordChar c = true := by
  simp [isWordChar, Char.isAlphanum, h]

/-- A text that does not go on with a character of a class does not with one of a part of it. -/
theorem head_any_eq_false {p q : Char → Bool} (hp : ∀ c, p c = true → q c = true)
    (h : rest.head?.any q = false) : rest.head?.any p = false := by
  cases rest with
  | nil => rfl
  | cons c r => exact Bool.eq_false_iff.mpr fun hc => Bool.eq_false_iff.mp h (hp c hc)

theorem takeWhile_append_of_stop {p : Char → Bool} (h : ∀ c ∈ w, p c = true)
    (hr : rest.head?.any p = false) : (w ++ rest).takeWhile p = w := by
  rw [List.takeWhile_append_of_pos h]
  cases rest with
  | nil => simp
  | cons d r => simp_all

theorem dropWhile_append_of_stop {p : Char → Bool} (h : ∀ c ∈ w, p c = true)
    (hr : rest.head?.any p = false) : (w ++ rest).dropWhile p = rest := by
  rw [List.dropWhile_append_of_pos h]
  cases rest with
  | nil => rfl
  | cons d r => simp_all

/-- White space is skipped to its end. -/
theorem skip_blank (hw : ∀ c ∈ w, isSpace c = true) (hc : isSpace c = false) :
    skip (w ++ c :: s) = c :: s := dropWhile_append_of_stop hw hc

theorem isWordChar_eq_false_of_isSpace (h : isSpace c = true) : isWordChar c = false := by
  simp only [isSpace, Bool.or_eq_true, beq_iff_eq] at h
  rcases h with ((rfl | rfl) | rfl) | rfl <;> rfl

theorem word?_append (h : isName first other w = true) (hr : rest.head?.any other = false) :
    word? first other (w ++ rest) = some (w, rest) := by
  cases w with
  | nil => cases h
  | cons c r =>
    simp only [isName, Bool.and_eq_true, List.all_eq_true] at h
    simp only [word?, List.cons_append, h.1, if_true, takeWhile_append_of_stop h.2 hr,
      dropWhile_append_of_stop h.2 hr]

theorem after?_append (w rest : List Char) : after? w (w ++ rest) = some rest := by
  simp [after?]

theorem after?_cons_self (c : Char) (s : List Char) : after? [c] (c :: s) = some s :=
  after?_append [c] s

theorem after?_cons_eq_none {d : Char} (h : c ≠ d) : after? [d] (c :: s) = none := by
  simp [after?, List.isPrefixOf, Ne.symm h]

theorem eq_append_of_after? (h : after? w s = some rest) : s = w ++ rest := by
  unfold after? at h
  split at h
  · rename_i hp
    obtain ⟨r, rfl⟩ := List.isPrefixOf_iff_prefix.mp hp
    simp_all
  · cases h

theorem keyword?_append {k : String} (h : rest.head?.any isWordChar = false) :
    keyword? k (k.toList ++ rest) = some rest := by
  simp [keyword?, after?_append, h]

theorem keyword?_space (k : String) (s : List Char) :
    keyword? k (k.toList ++ ' ' :: s) = some (' ' :: s) := keyword?_append rfl

/-- A word that is not a keyword does not become one by what follows, if the keyword consists of
characters of the same class. -/
theorem keyword?_eq_none_of_class {k : String} {p : Char → Bool}
    (hp : ∀ c, p c = true → isWordChar c = true) (hk : ∀ c ∈ k.toList, p c = true)
    (hw : ∀ c ∈ w, p c = true) (hne : w ≠ k.toList) (hr : rest.head?.any p = false) :
    keyword? k (w ++ rest) = none := by
  refine Option.eq_none_iff_forall_ne_some.mpr fun r h => hne ?_
  obtain ⟨ha, hword⟩ := Option.filter_eq_some_iff.mp h
  have he : w ++ rest = k.toList ++ r := eq_append_of_after? ha
  have hend : r.head?.any p = false := head_any_eq_false hp (by simpa using hword)
  calc
    w = (w ++ rest).takeWhile p := (takeWhile_append_of_stop hw hr).symm
    _ = (k.toList ++ r).takeWhile p := by rw [he]
    _ = k.toList := takeWhile_append_of_stop hk hend

/-- Characters that continue a name without a dollar sign. -/
def isBareChar (c : Char) : Bool := c.isAlphanum || c == '_' || c == '.'

theorem isWordChar_of_isBareChar (h : isBareChar c = true) : isWordChar c = true := by
  simp_all [isBareChar, isWordChar]

theorem isBareChar_of_mem_keyword {k : String} (hk : k ∈ keywords) :
    ∀ c ∈ k.toList, isBareChar c = true := by
  have hall : keywords.all (fun k => k.toList.all isBareChar) = true := by cbv
  exact List.all_eq_true.mp (List.all_eq_true.mp hall k hk)

theorem isWordChar_of_mem_keyword {k : String} (hk : k ∈ keywords) :
    ∀ c ∈ k.toList, isWordChar c = true := fun c hc =>
  isWordChar_of_isBareChar (isBareChar_of_mem_keyword hk c hc)

theorem isBareChar_of_mem_name (h : isName isNameStart isBareChar w = true) :
    ∀ c ∈ w, isBareChar c = true := by
  cases w with
  | nil => simp
  | cons c r =>
    simp only [isName, Bool.and_eq_true, List.all_eq_true] at h
    refine List.forall_mem_cons.mpr ⟨?_, h.2⟩
    have hc : c.isAlpha = true ∨ c = '_' := by simpa [isNameStart] using h.1
    rcases hc with hc | rfl
    · simp [isBareChar, Char.isAlphanum, hc]
    · rfl

theorem isWordChar_of_mem_name (h : isName Char.isAlpha isWordChar w = true) :
    ∀ c ∈ w, isWordChar c = true := by
  cases w with
  | nil => simp
  | cons c r =>
    simp only [isName, Bool.and_eq_true, List.all_eq_true] at h
    have hc : isWordChar c = true := by simp [isWordChar, Char.isAlphanum, h.1]
    exact List.forall_mem_cons.mpr ⟨hc, h.2⟩

/-! ## Numbers -/

theorem integerLiteral_ofInt {n : Int64} (h : 0 ≤ n) :
    integerLiteral (Decimal.ofInt n.toInt) = .integer n := by
  rw [integerLiteral, Decimal.readSigned?_ofInt (Int64.le_iff_toInt_le.mp h)]

/-! ## Strings -/

/-- A string ends at the first mark that is not doubled. -/
theorem quoted_doubled (mark : Char) (s : List Char) (h : rest.head? ≠ some mark) :
    quoted mark (doubled mark s ++ mark :: rest) = some (s, rest) := by
  induction s with
  | nil =>
    cases rest with
    | nil => simp [doubled, quoted]
    | cons d r => simp_all [doubled, quoted]
  | cons c r ih =>
    by_cases hc : c = mark
    · subst hc
      have hd : doubled c (c :: r) = c :: c :: doubled c r := by simp [doubled]
      simp [hd, quoted, ih]
    · have hd : doubled mark (c :: r) = c :: doubled mark r := by simp [doubled, hc]
      rw [hd, List.cons_append, quoted.eq_def]
      simp [hc, ih]

/-! ## Operands -/

theorem word?_cons_eq_none (h : first c = false) : word? first other (c :: s) = none := by
  simp [word?, h]

theorem double_cons_eq_none (hd : c.isDigit = false) (hp : c ≠ '.') : double (c :: s) = none := by
  simp only [double, List.dropWhile_cons_of_neg (by simpa using hd)]
  split
  · rename_i h
    injection h with h _
    exact absurd h hp
  · rfl

theorem integer_cons_eq_none (h : c.isDigit = false) : integer (c :: s) = none := by
  rw [integer, word?_cons_eq_none h, Option.map_none]

theorem string_cons_eq_none (hs : c ≠ '\'') (hd : c ≠ '"') : string (c :: s) = none := by
  simp [string, hs, hd]

theorem call_cons_eq_none (h : c.isAlpha = false) : call inner (c :: s) = none := by
  rw [call, word?_cons_eq_none h]
  rfl

/-- A name is no function without a parenthesis behind it. -/
theorem call_eq_none (hn : isName Char.isAlpha isWordChar w = true)
    (hr : rest.head?.any isWordChar = false) (hp : after? ['('] (skip rest) = none) :
    call inner (w ++ rest) = none := by
  simp only [call, word?_append hn hr, Option.bind_eq_bind, Option.bind_some, hp, Option.bind_none]

theorem reference_cons_eq_none (h : c ≠ '$') : reference (c :: s) = none := by
  unfold reference
  split
  · rename_i e
    exact absurd (List.cons.inj e).1 h
  · rfl

theorem bareName_cons_eq_none (h : isNameStart c = false) : bareName (c :: s) = none := by
  rw [bareName, word?_cons_eq_none h]
  split <;> rfl

theorem parenthesized_cons_eq_none (h : c ≠ '(') : parenthesized inner (c :: s) = none := by
  rw [parenthesized, after?_cons_eq_none h]
  rfl

/-! ### The forms of an operand -/

/-- A letter or an underscore begins a function or a name without a dollar sign. -/
theorem primary_of_isNameStart (h : isNameStart c = true) :
    primary inner (c :: s) = (call inner (c :: s) <|> bareName (c :: s)) := by
  have hne {d : Char} (hd : isNameStart d = false) : c ≠ d := ne_of_class h hd
  have hd : c.isDigit = false := by
    have hc : c.isAlpha = true ∨ c = '_' := by simpa [isNameStart] using h
    rcases hc with hc | rfl
    · exact isDigit_eq_false_of_isAlpha hc
    · rfl
  rw [primary, double_cons_eq_none hd (hne rfl), integer_cons_eq_none hd,
    string_cons_eq_none (hne rfl) (hne rfl), reference_cons_eq_none (hne rfl),
    parenthesized_cons_eq_none (hne rfl)]
  simp

theorem isNameStart_of_isAlpha (h : c.isAlpha = true) : isNameStart c = true := by
  simp [isNameStart, h]

/-- What a name without a dollar sign stands for. -/
def valueOfName (name : String) : Expr :=
  match name with
  | "true" => .literal (.boolean true)
  | "false" => .literal (.boolean false)
  | name => .var name

/-- A name without a dollar sign is read to its end, if it is not a keyword. -/
theorem bareName_append (hn : isName isNameStart isBareChar w = true)
    (hk : String.ofList w ∉ keywords) (hr : rest.head?.any isBareChar = false) :
    bareName (w ++ rest) = some (valueOfName (String.ofList w), rest) := by
  have hkeyword : (keywords.any fun k => (keyword? k (w ++ rest)).isSome) = false := by
    rw [List.any_eq_false]
    intro k hmem
    have hne : w ≠ k.toList := fun he => hk (by rwa [he, String.ofList_toList])
    rw [keyword?_eq_none_of_class (fun _ => isWordChar_of_isBareChar)
      (isBareChar_of_mem_keyword hmem) (isBareChar_of_mem_name hn) hne hr]
    exact Bool.false_ne_true
  have hword : word? isNameStart isBareChar (w ++ rest) = some (w, rest) := word?_append hn hr
  rw [bareName, hkeyword, if_neg Bool.false_ne_true]
  show (word? isNameStart isBareChar (w ++ rest)).map _ = _
  rw [hword]
  rfl

/-- A number is read to the end of its digits. -/
theorem primary_integer {n : Int64} (hn : 0 ≤ n) (hr : rest.head?.any isWordChar = false) :
    primary inner (Decimal.ofInt n.toInt ++ rest) = some (.literal (.integer n), rest) := by
  have hpos : 0 ≤ n.toInt := Int64.le_iff_toInt_le.mp hn
  have hw : ∀ c ∈ Decimal.ofInt n.toInt, c.isDigit = true := fun c =>
    Decimal.isDigit_of_mem_ofInt hpos
  have hend : rest.head?.any Char.isDigit = false :=
    head_any_eq_false (fun _ => isWordChar_of_isDigit) hr
  have hd : double (Decimal.ofInt n.toInt ++ rest) = none := by
    rw [double, dropWhile_append_of_stop hw hend]
    split
    · cases hr
    · rfl
  have hi : integer (Decimal.ofInt n.toInt ++ rest) = some (.literal (.integer n), rest) := by
    have hname : isName Char.isDigit Char.isDigit (Decimal.ofInt n.toInt) = true := by
      obtain ⟨c, r, hs, -⟩ := Decimal.ofInt_eq_cons hpos
      rw [hs, List.forall_mem_cons] at hw
      simpa [hs, isName, hw.1] using hw.2
    simp only [integer, word?_append hname hend, Option.map_some, integerLiteral_ofInt hn]
  rw [primary, hd, hi]
  rfl

/-- A truth value is a name that no parenthesis follows. -/
theorem primary_boolean (q : Quotation) (b : Bool) (hr : rest.head?.any isWordChar = false)
    (hp : after? ['('] (skip rest) = none) :
    primary inner (Literal.print q (.boolean b) ++ rest) = some (.literal (.boolean b), rest) := by
  have hc : call inner (Literal.print q (.boolean b) ++ rest) = none :=
    call_eq_none (by cases b <;> cbv) hr hp
  have hb : bareName (Literal.print q (.boolean b) ++ rest) =
      some (.literal (.boolean b), rest) := by
    have hn : isName isNameStart isBareChar (Literal.print q (.boolean b)) = true := by
      cases b <;> cbv
    have hk : String.ofList (Literal.print q (.boolean b)) ∉ keywords := by
      cases b <;> simp [keywords, Literal.print]
    have hend : rest.head?.any isBareChar = false :=
      head_any_eq_false (fun _ => isWordChar_of_isBareChar) hr
    rw [bareName_append hn hk hend]
    cases b <;> simp [Literal.print, valueOfName]
  have hhead : ∃ c r, Literal.print q (.boolean b) = c :: r ∧ c.isAlpha = true := by
    cases b <;> exact ⟨_, _, rfl, rfl⟩
  obtain ⟨c, r, he, hcs⟩ := hhead
  rw [he, List.cons_append] at hc hb ⊢
  rw [primary_of_isNameStart (isNameStart_of_isAlpha hcs), hc, hb]
  rfl

/-- A string is read to its closing mark. -/
theorem primary_string (q : Quotation) (value : String) (hr : rest.head? ≠ some q.mark) :
    primary inner (Literal.print q (.string value) ++ rest) =
      some (.literal (.string value), rest) := by
  have hs : string (q.mark :: (doubled q.mark value.toList ++ q.mark :: rest)) =
      some (.literal (.string value), rest) := by
    have hq : (q.mark == '"' || q.mark == '\'') = true := by cases q <;> rfl
    simp only [string, hq, if_true, quoted_doubled q.mark value.toList hr, Option.map_some,
      String.ofList_toList]
  have hd : q.mark.isDigit = false := by cases q <;> rfl
  have hp : q.mark ≠ '.' := by cases q <;> decide
  have he : Literal.print q (.string value) ++ rest =
      q.mark :: (doubled q.mark value.toList ++ q.mark :: rest) := by
    simp [Literal.print]
  rw [he, primary, double_cons_eq_none hd hp, integer_cons_eq_none hd, hs]
  rfl

/-- A variable is read to the end of its name. -/
theorem primary_var {name : String} (hn : isName isNameStart isWordChar name.toList = true)
    (hr : rest.head?.any isWordChar = false) :
    primary inner ('$' :: (name.toList ++ rest)) = some (.var name, rest) := by
  have href : reference ('$' :: (name.toList ++ rest)) = some (.var name, rest) := by
    simp only [reference, word?_append hn hr, Option.map_some, String.ofList_toList]
  rw [primary, double_cons_eq_none rfl (by decide), integer_cons_eq_none rfl,
    string_cons_eq_none (by decide) (by decide), call_cons_eq_none rfl, href]
  rfl

/-- A name before a parenthesis is a function. -/
theorem primary_call (hn : isName Char.isAlpha isWordChar w = true) {x : Expr × List Char}
    (hc : call inner (w ++ rest) = some x) : primary inner (w ++ rest) = some x := by
  cases w with
  | nil => cases hn
  | cons c r =>
    simp only [isName, Bool.and_eq_true] at hn
    rw [List.cons_append] at hc ⊢
    rw [primary_of_isNameStart (isNameStart_of_isAlpha hn.1), hc]
    rfl

/-- A parenthesis begins nothing but an expression in parentheses. -/
theorem primary_parenthesis : primary inner ('(' :: s) = parenthesized inner ('(' :: s) := by
  rw [primary, double_cons_eq_none rfl (by decide), integer_cons_eq_none rfl,
    string_cons_eq_none (by decide) (by decide), call_cons_eq_none rfl,
    reference_cons_eq_none (by decide), bareName_cons_eq_none rfl]
  rfl

/-- No operand begins with a closing parenthesis. -/
theorem primary_close : primary inner (')' :: s) = none := by
  rw [primary, double_cons_eq_none rfl (by decide), integer_cons_eq_none rfl,
    string_cons_eq_none (by decide) (by decide), call_cons_eq_none rfl,
    reference_cons_eq_none (by decide), bareName_cons_eq_none rfl,
    parenthesized_cons_eq_none (by decide)]
  rfl

end XmlTemplate.Expr.Grammar
