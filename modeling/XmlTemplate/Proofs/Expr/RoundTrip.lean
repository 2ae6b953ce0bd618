import XmlTemplate.Proofs.Expr.Forms

/-!
# Printed expressions are read back

* `Spells`: a text that is read as an expression at a level, wherever it stands. There is one rule
  for each form of expression.
* `spells_print`: what is printed spells the expression.
* `printed_parses`: a printed expression is read back as it was.
-/

namespace XmlTemplate.Expr

open Grammar

variable {k j : Precedence} {t tl tr : List Char} {e left right : Expr} {d : Nat}

/-- A text that is read as an expression of a level, by a parser for at least its length. -/
structure Spells (k : Precedence) (t : List Char) (e : Expr) : Prop where
  starts : Starts k t
  reads : ∀ d, t.length ≤ d → Reads (single d) k t e

/-- A text that begins with a character that begins neither a keyword nor a minus sign. -/
theorem starts_of_head {c : Char} {s : List Char} (hs : isSpace c = false) (hm : c ≠ '-')
    (hi : c ≠ 'i') : Starts k (c :: s) := by
  refine ⟨⟨c, s, rfl, hs, fun _ => hm⟩, fun _ rest => ?_⟩
  simp [keyword?, after?, Ne.symm hi]

/-- A word of a class begins a text at every level, if it is not the keyword of a conditional. -/
theorem starts_of_word {p : Char → Bool} (hp : ∀ c, p c = true → isWordChar c = true)
    (hif : ∀ c ∈ "if".toList, p c = true) {c d : Char} {w : List Char} (hc : isNameStart c = true)
    (hw : ∀ b ∈ c :: w, p b = true) (hne : c :: w ≠ "if".toList) (hd : p d = false)
    (s : List Char) : Starts .primary (c :: w ++ d :: s) := by
  have hspace : isSpace c = false := Bool.eq_false_iff.mpr fun h =>
    Bool.false_ne_true ((isWordChar_eq_false_of_isSpace h).symm.trans
      (hp c (hw c List.mem_cons_self)))
  refine ⟨⟨c, w ++ d :: s, rfl, hspace, fun _ => ne_of_class hc rfl⟩, fun _ rest => ?_⟩
  rw [List.append_assoc]
  exact keyword?_eq_none_of_class hp hif hw hne hd

/-- A function begins with its name, which is no keyword. -/
theorem starts_of_name {name : String} (hn : isName Char.isAlpha isWordChar name.toList = true)
    (hk : name ∉ keywords) {c : Char} (hc : isWordChar c = false) (s : List Char) :
    Starts .primary (name.toList ++ c :: s) := by
  have hmem : "if" ∈ keywords := by simp [keywords]
  have hne : name.toList ≠ "if".toList := fun he => hk (String.toList_inj.mp he ▸ hmem)
  have hword := isWordChar_of_mem_name hn
  cases he : name.toList with
  | nil => simp [he, isName] at hn
  | cons d r =>
    rw [he] at hn hne hword
    simp only [isName, Bool.and_eq_true] at hn
    exact starts_of_word (fun _ h => h) (isWordChar_of_mem_keyword hmem)
      (isNameStart_of_isAlpha hn.1) hword hne hc s

namespace Spells

/-- What is read at a level is read at every looser one. -/
theorem mono (h : Spells j t e) (hk : k.rank ≤ j.rank) : Spells k t e :=
  ⟨h.starts.mono hk, fun d hd => (h.reads d hd).mono h.starts hk⟩

/-! ### Operands -/

theorem of_primary (hs : Starts .primary t)
    (h : ∀ inner rest, Follows .primary rest → primary inner (t ++ rest) = some (e, rest)) :
    Spells .primary t e :=
  ⟨hs, fun d _ rest hf => h (single d) rest hf⟩

theorem boolean (q : Quotation) (b : Bool) :
    Spells .primary (Literal.print q (.boolean b)) (.literal (.boolean b)) := by
  refine of_primary ?_ fun _ _ hf =>
    primary_boolean q b hf.head_not_isWordChar hf.head_ne_parenthesis
  cases b <;> exact starts_of_head rfl (by decide) (by decide)

theorem integer (q : Quotation) {n : Int64} (hn : 0 ≤ n) :
    Spells .primary (Literal.print q (.integer n)) (.literal (.integer n)) := by
  have htext : Literal.print q (.integer n) = Decimal.ofInt n.toInt := String.toList_ofList
  obtain ⟨c, s, hs, hc⟩ := Decimal.ofInt_eq_cons (Int64.le_iff_toInt_le.mp hn)
  have hspace : isSpace c = false :=
    isSpace_eq_false_of_isAlphanum (by simp [Char.isAlphanum, hc])
  rw [htext]
  refine of_primary ?_ fun _ _ hf => primary_integer hn hf.head_not_isWordChar
  rw [hs]
  exact starts_of_head hspace (ne_of_class hc rfl) (ne_of_class hc rfl)

theorem string (q : Quotation) (value : String) :
    Spells .primary (Literal.print q (.string value)) (.literal (.string value)) := by
  refine of_primary ?_ fun _ _ hf => primary_string q value (hf.head_ne_mark q)
  cases q <;> exact starts_of_head rfl (by decide) (by decide)

theorem literal (q : Quotation) {v : Literal} (h : (Expr.literal v).Printable) :
    Spells .primary (v.print q) (.literal v) := by
  cases v with
  | boolean b => exact boolean q b
  | integer n => exact integer q (by simpa [Printable] using h)
  | double x => simp [Printable] at h
  | string s => exact string q s

theorem var {name : String} (h : isName isNameStart isWordChar name.toList = true) :
    Spells .primary ('$' :: name.toList) (.var name) :=
  of_primary (starts_of_head rfl (by decide) (by decide)) fun _ _ hf =>
    primary_var h hf.head_not_isWordChar

/-! ### Operators -/

theorem infixed (o : Operator) (hl : Spells o.left tl left) (hr : Spells o.right tr right) :
    Spells o.precedence (o.between tl tr) (o.apply left right) := by
  refine ⟨(hl.starts.append _).mono (rank_precedence_le_left o), fun d hd => ?_⟩
  simp only [Operator.between, List.length_append, List.length_cons] at hd
  exact .infixed o (hl.reads d (by omega)) hr.starts (hr.reads d (by omega))

theorem negate (h : Spells .unary t e) : Spells .unary ('-' :: t) (.negate e) := by
  refine ⟨⟨⟨'-', t, rfl, rfl, nofun⟩, fun _ rest => rfl⟩, fun d hd => ?_⟩
  simp only [List.length_cons] at hd
  exact .negate (h.reads d (by omega))

/-! ### Parentheses -/

theorem parenthesized (h : Spells .sequence t e) : Spells .primary ('(' :: (t ++ [')'])) e := by
  refine ⟨starts_of_head rfl (by decide) (by decide), fun n hn => ?_⟩
  simp only [List.length_cons, List.length_append] at hn
  cases n with
  | zero => omega
  | succ d => exact .parenthesized h.starts (h.reads d (by omega))

theorem empty : Spells .primary ['(', ')'] (.sequence []) := by
  refine ⟨starts_of_head rfl (by decide) (by decide), fun n hn => ?_⟩
  cases n with
  | zero => simp at hn
  | succ d => exact .empty

theorem enclosed (h : Spells j t e) (k : Precedence) : Spells k (Expr.enclosed k j t) e := by
  unfold Expr.enclosed
  split
  · exact (h.mono (Nat.zero_le _)).parenthesized.mono (by cases k <;> decide)
  · exact h.mono (by omega)

/-! ### Lists -/

variable {ts : List (List Char)} {es : List Expr}

/-- The items of a list are read by a parser for the list. -/
theorem readsAll (h : List.Forall₂ (Spells .conditional) ts es) (hd : (listed ts).length ≤ d) :
    ReadsAll (single d) ts es := by
  induction h with
  | nil => exact .nil
  | @cons t e ts es ht hs ih =>
    rw [listed_cons, List.length_append] at hd
    refine .cons ⟨ht.starts, ht.reads d (by omega)⟩ (ih (le_trans ?_ (le_of_add_le_right hd)))
    cases ts with
    | nil => simp [listed]
    | cons u us =>
      rw [listed_cons, List.flatMap_cons, List.length_append, List.length_append,
        List.length_append]
      omega

theorem sequence (h : List.Forall₂ (Spells .conditional) ts es) (hne : es ≠ [])
    (hlength : es.length ≠ 1) : Spells .sequence (listed ts) (.sequence es) := by
  match ts, es, h with
  | [], [], _ => exact absurd rfl hne
  | [t], [e], _ => exact absurd rfl hlength
  | t :: u :: ts, e :: f :: es, h =>
    refine ⟨?_, fun d hd => .sequence (readsAll h hd)⟩
    rw [listed_cons]
    exact (((List.forall₂_cons.mp h).1.starts).append _).mono (by decide)

theorem call {name : String} (hn : isName Char.isAlpha isWordChar name.toList = true)
    (hk : name ∉ keywords) (h : List.Forall₂ (Spells .conditional) ts es) :
    Spells .primary (name.toList ++ '(' :: (listed ts ++ [')'])) (.call name es) := by
  refine ⟨starts_of_name hn hk rfl _, fun n hd => ?_⟩
  simp only [List.length_append, List.length_cons] at hd
  cases n with
  | zero => omega
  | succ d => exact .call hn (readsAll h (by omega))

/-! ### Conditionals -/

theorem cond {tc ty tn : List Char} {c y n : Expr} (hc : Spells .sequence tc c)
    (hy : Spells .conditional ty y) (hn : Spells .conditional tn n) :
    Spells .conditional (choice tc ty tn) (.cond c y n) := by
  have hif : Starts .conditional "if (".toList :=
    ⟨⟨'i', _, rfl, rfl, nofun⟩, fun hlt => absurd hlt (by decide)⟩
  refine ⟨hif.append _, fun m hd => ?_⟩
  have hword : "if (".toList.length = 4 := by simp
  simp only [choice, List.length_append, hword] at hd
  cases m with
  | zero => omega
  | succ d =>
    exact .cond hc.starts (hc.reads d (by omega)) hy.starts (hy.reads d (by omega)) hn.starts
      (hn.reads d (by omega))

/-! ### Whole texts -/

/-- A text that spells an expression is parsed as this expression. -/
theorem parses (h : Spells .sequence t e) : parse? t = some e := by
  have hskip : skip t = t := by simpa using h.starts.skip_eq []
  have hreads : Grammar.sequence (single (t.length + 1)) t = some (e, []) := by
    have := h.reads t.length le_rfl [] .finish
    rwa [List.append_nil] at this
  rw [parse?, hskip, hreads]
  rfl

end Spells

mutual

/-- What is printed spells the expression. -/
theorem spells_print (style : Style) : (e : Expr) → e.Printable →
    Spells e.precedence (e.print style) e
  | .literal _, h => .literal (style []) h
  | .var _, h => .var h
  | .sequence [], _ => .empty
  | .sequence (e :: rest), h =>
    .sequence (spells_printAll style 0 (e :: rest) h.2) (List.cons_ne_nil e rest) h.1
  | .cond condition yes no, h =>
    .cond ((spells_print _ condition h.1).mono (Nat.zero_le _))
      ((spells_print _ yes h.2.1).enclosed _) ((spells_print _ no h.2.2).enclosed _)
  | .logical op left right, h =>
    .infixed (.logical op) ((spells_print _ left h.1).enclosed _)
      ((spells_print _ right h.2).enclosed _)
  | .compare op left right, h =>
    .infixed (.compare op) ((spells_print _ left h.1).enclosed _)
      ((spells_print _ right h.2).enclosed _)
  | .range first last, h =>
    .infixed .range ((spells_print _ first h.1).enclosed _) ((spells_print _ last h.2).enclosed _)
  | .arith op left right, h =>
    .infixed (.arith op) ((spells_print _ left h.1).enclosed _)
      ((spells_print _ right h.2).enclosed _)
  | .negate operand, h => .negate ((spells_print _ operand h).enclosed _)
  | .call _ args, h => .call h.1.1 h.1.2 (spells_printAll style 0 args h.2)

/-- What is printed for each of several expressions spells it as an item. -/
theorem spells_printAll (style : Style) (i : Nat) : (es : List Expr) → AllPrintable es →
    List.Forall₂ (Spells .conditional) (printAll style i es) es
  | [], _ => .nil
  | e :: rest, h =>
    .cons ((spells_print _ e h.1).enclosed _) (spells_printAll style (i + 1) rest h.2)

end

/-- A printed expression is read back as it was, whichever quotation marks its strings have. -/
theorem printed_parses (style : Style) {e : Expr} (h : e.Printable) :
    parse? (e.print style) = some e :=
  ((spells_print style e h).mono (Nat.zero_le _)).parses

/-- Of two differences one needs parentheses, and so does a sequence among arguments. -/
theorem printed_parses_conditional :
    let e : Expr :=
      .cond (.compare .lt (.var "a") (.arith .sub (.arith .sub (.var "b") (.literal (.integer 1)))
          (.arith .sub (.var "c") (.negate (.var "d")))))
        (.literal (.string "it's"))
        (.call "f" [.sequence [.literal (.boolean true), .sequence []], .var "x"])
    let style : Style := fun _ => .single
    e.Printable ∧ e.print style =
        "if ($a < $b - 1 - ($c - -$d)) then 'it''s' else f((true, ()), $x)".toList ∧
      parse? "if ($a < $b - 1 - ($c - -$d)) then 'it''s' else f((true, ()), $x)".toList =
        some e := by
  intro e style
  have hp : e.Printable := by
    simp [e, Printable, AllPrintable, isName, isNameStart, keywords]
  have ht : e.print style =
      "if ($a < $b - 1 - ($c - -$d)) then 'it''s' else f((true, ()), $x)".toList := by
    cbv
  exact ⟨hp, ht, ht ▸ printed_parses style hp⟩

end XmlTemplate.Expr
