import XmlTemplate.Proofs.Expr.Levels

/-!
# Reading each form of expression

One rule for each form: if the parts are read as they should be, so is the whole. Parts that are
nested in parentheses or in a conditional are read by the parser of whole expressions.

* `Reads.infixed`, `Reads.negate`, `Reads.parenthesized`, `Reads.call`, `Reads.cond` and the others:
  the rules.
* `ReadsAll`, `commaList_listed`: texts with commas between them are read one by one.
-/

namespace XmlTemplate.Expr.Grammar

variable {inner : Parser Expr} {k : Precedence} {t tl tr rest r s : List Char}
  {e left right : Expr}

/-! ## Operators between operands -/

/-- An operator of the table is read with its right operand. -/
theorem tail_operator {operand : Parser Expr} (o : Operator) (hs : skip s = s)
    (h : operand s = some (right, r)) :
    tail (infixed o.precedence) operand (' ' :: (o.text.toList ++ ' ' :: s)) =
      some ((o.apply, right), r) := by
  rw [tail, skip_operator, infixed_text, if_pos rfl, Option.bind_some]
  simp only [skip_space, hs, h, Option.map_some]

/-- The left operand of an operator ends where the operator begins. -/
theorem resume_left (o : Operator) (ha : o.precedence.associative = false) :
    resume inner o.left left (' ' :: (o.text.toList ++ ' ' :: s)) =
      (left, ' ' :: (o.text.toList ++ ' ' :: s)) := by
  have hleft : o.precedence ≠ o.left := by
    have := rank_precedence_lt_next o
    intro he
    rw [Operator.left, ha, if_neg Bool.false_ne_true] at he
    exact this.ne (congrArg Precedence.rank he)
  unfold resume
  split
  · exact extend_of_none (by rw [skip_operator, infixed_text, if_neg hleft])
  · rfl

namespace Reads

/-- An operator is read with both of its operands, as a chain goes on with it or as a pair ends. -/
theorem infixed (o : Operator) (hl : Reads inner o.left tl left) (hs : Starts o.right tr)
    (hr : Reads inner o.right tr right) :
    Reads inner o.precedence (o.between tl tr) (o.apply left right) := by
  intro rest hf
  let behind := ' ' :: (o.text.toList ++ ' ' :: (tr ++ rest))
  have htext : o.between tl tr ++ rest = tl ++ behind := by simp [Operator.between, behind]
  have hleft : level inner o.left (tl ++ behind) = some (resume inner o.left left behind) :=
    hl behind (.operator o le_rfl _)
  have hright : level inner o.right (tr ++ rest) = some (right, rest) := by
    have hlt : o.precedence.rank < o.right.rank := rank_precedence_lt_next o
    rw [hr rest (hf.mono hlt.le), hf.resume_eq hlt]
  have htail : tail (Grammar.infixed o.precedence) (level inner o.precedence.next) behind =
      some ((o.apply, right), rest) := tail_operator o (hs.skip_eq rest) hright
  have hshorter : rest.length < behind.length := by
    simp only [behind, List.length_append, List.length_cons]
    omega
  rw [htext]
  cases ha : o.precedence.associative with
  | true =>
    -- The chain has read the left operand and goes on with this operator.
    have ho : o.left = o.precedence := if_pos ha
    rw [ho] at hleft
    rw [hleft, resume, if_pos ha, extend_of_tail htail hshorter, resume, if_pos ha]
  | false =>
    have ho : o.left = o.precedence.next := by rw [Operator.left, ha, if_neg Bool.false_ne_true]
    rw [resume_left o ha, ho] at hleft
    rw [level_precedence, ha, if_neg Bool.false_ne_true, pair_of_tail hleft htail, resume, ha,
      if_neg Bool.false_ne_true]

end Reads

/-! ## Minus signs -/

theorem unary_minus (s : List Char) :
    unary inner ('-' :: s) = (unary inner s).map fun (e, r) => (.negate e, r) := by
  have hsigns : ('-' :: s).takeWhile (fun c => c == '-' || isSpace c) =
      '-' :: s.takeWhile fun c => c == '-' || isSpace c := List.takeWhile_cons_of_pos rfl
  simp only [unary, hsigns, List.length_cons, List.drop_succ_cons, List.count_cons_self,
    Option.map_map]
  rfl

/-- A minus sign is read with those behind it. -/
theorem Reads.negate (h : Reads inner .unary t e) : Reads inner .unary ('-' :: t) (.negate e) := by
  intro rest hf
  have hr : unary inner (t ++ rest) = some (e, rest) := h rest hf
  show unary inner ('-' :: (t ++ rest)) = some (.negate e, rest)
  rw [unary_minus, hr]
  rfl

/-! ## Lists of expressions -/

theorem listed_cons (t : List Char) (ts : List (List Char)) :
    listed (t :: ts) = t ++ ts.flatMap ([',', ' '] ++ ·) := by
  induction ts generalizing t with
  | nil => simp [listed]
  | cons u us ih =>
    rw [listed, List.intercalate_cons_cons, ← listed, ih]
    simp

variable {ts : List (List Char)} {es : List Expr}

/-- Texts that are read as items of a list. -/
def ReadsAll (inner : Parser Expr) (ts : List (List Char)) (es : List Expr) : Prop :=
  List.Forall₂ (fun t e => Starts .conditional t ∧ Reads inner .conditional t e) ts es

/-- What follows an item before other items. -/
theorem follows_items (hf : Follows .sequence rest) :
    Follows .conditional (ts.flatMap ([',', ' '] ++ ·) ++ rest) := by
  cases ts with
  | nil => exact hf.mono (by decide)
  | cons t ts => exact .comma (by decide) _

/-- Items behind commas are read one by one. -/
theorem many_afterComma (h : ReadsAll inner ts es) (hf : Follows .sequence rest) :
    many (afterComma (level inner .conditional)) (ts.flatMap ([',', ' '] ++ ·) ++ rest) =
      (es, rest) := by
  induction h with
  | nil => exact many_of_none (hf.afterComma_eq_none _)
  | @cons t e ts es h hs ih =>
    let behind := ts.flatMap ([',', ' '] ++ ·) ++ rest
    have hr : level inner .conditional (t ++ behind) = some (e, behind) := h.2 _ (follows_items hf)
    have htext : (t :: ts).flatMap ([',', ' '] ++ ·) ++ rest = [','] ++ ' ' :: (t ++ behind) := by
      simp [behind]
    have hcomma : skip ([','] ++ ' ' :: (t ++ behind)) = [','] ++ ' ' :: (t ++ behind) := rfl
    have hstep : afterComma (level inner .conditional) ([','] ++ ' ' :: (t ++ behind)) =
        some (e, behind) := by
      rw [afterComma, hcomma, after?_append, Option.bind_some, skip_space, h.1.skip_eq, hr]
    have hlength : behind.length < ([','] ++ ' ' :: (t ++ behind)).length := by
      simp only [List.length_append, List.length_cons]
      omega
    rw [htext, many_of_some hstep hlength, ih]

/-- A list of expressions is read to its end. -/
theorem commaList_listed (h : ReadsAll inner (t :: ts) (e :: es))
    (hf : Follows .sequence rest) :
    commaList (level inner .conditional) (listed (t :: ts) ++ rest) = some (e :: es, rest) := by
  obtain ⟨⟨-, h⟩, hs⟩ := List.forall₂_cons.mp h
  have hr : level inner .conditional (t ++ (ts.flatMap ([',', ' '] ++ ·) ++ rest)) =
      some (e, ts.flatMap ([',', ' '] ++ ·) ++ rest) := h _ (follows_items hf)
  rw [listed_cons, List.append_assoc, commaList_of_item hr, many_afterComma hs hf]

/-- No list begins with a closing parenthesis. -/
theorem commaList_close (s : List Char) :
    commaList (level inner .conditional) (')' :: s) = none := by
  have hd : disjunction inner (')' :: s) = none := by
    simp [disjunction, conjunction, comparison, range, sum, product, chain, pair, unary,
      primary_close, isSpace]
  have hif : keyword? "if" (')' :: s) = none := by simp [keyword?, after?]
  have hc : conditional inner (')' :: s) = none := by
    rw [conditional, hif]
    rfl
  have hl : level inner .conditional (')' :: s) = none := by
    show (conditional inner (')' :: s) <|> disjunction inner (')' :: s)) = none
    rw [hc, hd]
    rfl
  rw [commaList, hl, Option.map_none]

theorem skip_close (s : List Char) : skip (')' :: s) = ')' :: s := rfl

/-- What a function has between its parentheses, if only the closing one. -/
theorem arguments_read (h : ReadsAll inner ts es) (rest : List Char) :
    (commaList (level inner .conditional) (skip (listed ts ++ ')' :: rest))).getD
      ([], skip (listed ts ++ ')' :: rest)) = (es, ')' :: rest) := by
  cases h with
  | nil =>
    show (commaList (level inner .conditional) (')' :: rest)).getD ([], ')' :: rest) = _
    rw [commaList_close]
    rfl
  | @cons t e ts es ht hs =>
    have hskip : skip (listed (t :: ts) ++ ')' :: rest) = listed (t :: ts) ++ ')' :: rest := by
      rw [listed_cons]
      exact (ht.1.append _).skip_eq _
    rw [hskip, commaList_listed (.cons ht hs) (.close rest)]
    rfl

namespace Reads

/-- A sequence of several expressions is read as one, and not as the first of them. -/
theorem sequence {u : List Char} {f : Expr} (h : ReadsAll inner (t :: u :: ts) (e :: f :: es)) :
    Reads inner .sequence (listed (t :: u :: ts)) (.sequence (e :: f :: es)) := by
  intro rest hf
  show Grammar.sequence (level inner .conditional) _ = _
  rw [Grammar.sequence, commaList_listed h hf]
  rfl

/-! ## Parentheses -/

/-- An expression in parentheses is an operand. -/
theorem parenthesized (hs : Starts .sequence t) (h : Reads inner .sequence t e) :
    Reads (level inner .conditional) .primary ('(' :: (t ++ [')'])) e := by
  intro rest hf
  have hr : Grammar.sequence (level inner .conditional) (t ++ ')' :: rest) =
      some (e, ')' :: rest) := h _ (.close rest)
  have htext : '(' :: (t ++ [')']) ++ rest = '(' :: (t ++ ')' :: rest) := by simp
  show primary _ ('(' :: (t ++ [')']) ++ rest) = some (e, rest)
  rw [htext, primary_parenthesis]
  simp only [Grammar.parenthesized, after?_cons_self, hs.skip_eq, hr, skip_close,
    Option.bind_eq_bind, Option.bind_some, Option.getD_some]
  rfl

/-- Nothing in parentheses is the empty sequence. -/
theorem empty : Reads (level inner .conditional) .primary ['(', ')'] (.sequence []) := by
  intro rest hf
  show primary _ ('(' :: ')' :: rest) = some (.sequence [], rest)
  rw [primary_parenthesis]
  simp only [Grammar.parenthesized, Grammar.sequence, after?_cons_self, skip_close,
    commaList_close, Option.bind_eq_bind, Option.bind_some, Option.map_none, Option.getD_none]
  rfl

/-! ## Functions -/

/-- A function is read with its arguments. -/
theorem call {name : String} (hn : isName Char.isAlpha isWordChar name.toList = true)
    (h : ReadsAll inner ts es) :
    Reads (level inner .conditional) .primary (name.toList ++ '(' :: (listed ts ++ [')']))
      (.call name es) := by
  intro rest hf
  have htext : name.toList ++ '(' :: (listed ts ++ [')']) ++ rest =
      name.toList ++ '(' :: (listed ts ++ ')' :: rest) := by simp
  have hskip : skip ('(' :: (listed ts ++ ')' :: rest)) = '(' :: (listed ts ++ ')' :: rest) := rfl
  have hargs := arguments_read h rest
  have hname : word? Char.isAlpha isWordChar (name.toList ++ '(' :: (listed ts ++ ')' :: rest)) =
      some (name.toList, '(' :: (listed ts ++ ')' :: rest)) := word?_append hn rfl
  have hcall : Grammar.call (level inner .conditional)
      (name.toList ++ '(' :: (listed ts ++ ')' :: rest)) = some (.call name es, rest) := by
    simp only [Grammar.call, hname, hskip, after?_cons_self, hargs, skip_close,
      Option.bind_eq_bind, Option.bind_some, String.ofList_toList]
    rfl
  show primary _ (name.toList ++ '(' :: (listed ts ++ [')']) ++ rest) = some (.call name es, rest)
  rw [htext]
  exact primary_call hn hcall

/-! ## Conditionals -/

/-- A conditional is read with its three parts. -/
theorem cond {tc ty tn : List Char} {c y n : Expr} (hcs : Starts .sequence tc)
    (hc : Reads inner .sequence tc c) (hys : Starts .conditional ty)
    (hy : Reads inner .conditional ty y) (hns : Starts .conditional tn)
    (hn : Reads inner .conditional tn n) :
    Reads (level inner .conditional) .conditional (choice tc ty tn) (.cond c y n) := by
  intro rest hf
  let second := ' ' :: ("else".toList ++ ' ' :: (tn ++ rest))
  let first := ')' :: ' ' :: ("then".toList ++ ' ' :: (ty ++ second))
  have htext : choice tc ty tn ++ rest = "if".toList ++ ' ' :: '(' :: (tc ++ first) := by
    simp [choice, first, second]
  have hcond : Grammar.sequence (level inner .conditional) (tc ++ first) = some (c, first) :=
    hc _ (.close _)
  have hyes : level inner .conditional (ty ++ second) = some (y, second) := by
    have helse : second = " else ".toList ++ (tn ++ rest) := by simp [second]
    exact hy _ (helse ▸ .otherwise _)
  have hno : level inner .conditional (tn ++ rest) = some (n, rest) := hn _ hf
  have hopen : skip (' ' :: '(' :: (tc ++ first)) = '(' :: (tc ++ first) := rfl
  have hthen : skip (' ' :: ("then".toList ++ ' ' :: (ty ++ second))) =
      "then".toList ++ ' ' :: (ty ++ second) := by
    simp [skip, isSpace]
  have helse : skip second = "else".toList ++ ' ' :: (tn ++ rest) := by
    simp [skip, isSpace, second]
  have hresult : conditional (level inner .conditional)
      ("if".toList ++ ' ' :: '(' :: (tc ++ first)) = some (.cond c y n, rest) := by
    rw [conditional, keyword?_append rfl]
    simp only [hopen, after?_cons_self, hcs.skip_eq, hcond, Option.bind_eq_bind, Option.bind_some]
    simp only [first, skip_close, after?_cons_self, hthen, keyword?_space, skip_space, hys.skip_eq,
      hyes, helse, hns.skip_eq, hno, Option.bind_some]
    rfl
  show (conditional _ _ <|> disjunction _ _) = some (.cond c y n, rest)
  rw [htext, hresult]
  rfl

end Reads

end XmlTemplate.Expr.Grammar
