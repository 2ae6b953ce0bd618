import XmlTemplate.Proofs.Expr.Operands

/-!
# Reading level by level

How far the parser of each level of precedence reads. What follows an expression decides it: the
end, a closing parenthesis, a comma, `else`, or an operator that is too loose to take the
expression away.

* `infixed`, `level`: the operators and the parser of each level. `infixed_text` says that the
  operators of the table and no others are found at their levels.
* `Follows`: what may stand after an expression of a level.
* `Reads`: a text is read as an expression, whatever of that follows it.
* `Reads.loosen`: an expression is read alike at every level that allows it.
-/

namespace XmlTemplate.Expr.Grammar

variable {inner : Parser Expr} {k j : Precedence} {e : Expr} {t rest r s : List Char}

/-! ## The levels -/

/-- The operators of a level. -/
def infixed : Precedence → Infixed
  | .disjunction => operator [(wordOp "or", .logical .or)]
  | .conjunction => operator [(wordOp "and", .logical .and)]
  | .comparison =>
    operator [(sign "!=", .compare .ne), (sign "<=", .compare .le), (sign ">=", .compare .ge),
      (sign "=", .compare .eq), (sign "<", .compare .lt), (sign ">", .compare .gt)]
  | .range => operator [(wordOp "to", .range)]
  | .sum => operator [(sign "+", .arith .add), (sign "-", .arith .sub)]
  | .product =>
    operator [(sign "*", .arith .mul), (wordOp "div", .arith .div), (wordOp "mod", .arith .mod)]
  | _ => operator []

/-- The parser of a level, with a parser for what is nested in an expression. -/
def level (inner : Parser Expr) : Precedence → Parser Expr
  | .sequence => sequence fun s => conditional inner s <|> disjunction inner s
  | .conditional => fun s => conditional inner s <|> disjunction inner s
  | .disjunction => disjunction inner
  | .conjunction => conjunction inner
  | .comparison => comparison inner
  | .range => range inner
  | .sum => sum inner
  | .product => product inner
  | .unary => unary inner
  | .primary => primary inner

/-- The parser of a level with operators. -/
theorem level_precedence (o : Operator) :
    level inner o.precedence =
      (if o.precedence.associative then chain else pair) (infixed o.precedence)
        (level inner o.precedence.next) := by
  rcases o with (_ | _) | _ | _ | (_ | _ | _ | _ | _) <;> rfl

/-- An operator of the table is found at its level and at no other. -/
theorem infixed_text (k : Precedence) (o : Operator) (r : List Char) :
    infixed k (o.text.toList ++ ' ' :: r) =
      if o.precedence = k then some (o.apply, ' ' :: r) else none := by
  have hspace : isWordChar ' ' = false := rfl
  rcases o with (_ | _) | (_ | _ | _ | _ | _ | _) | _ | (_ | _ | _ | _ | _) <;> cases k <;>
    simp [infixed, operator, sign, wordOp, keyword?, after?, Operator.text, Operator.precedence,
      Operator.apply, hspace]

theorem skip_space (s : List Char) : skip (' ' :: s) = skip s := rfl

/-- No operator begins like anything else that may follow an expression. -/
theorem text_eq_cons (o : Operator) :
    ∃ c r, o.text.toList = c :: r ∧ isSpace c = false ∧ c ≠ '(' ∧ c ≠ ',' := by
  rcases o with (_ | _) | (_ | _ | _ | _ | _ | _) | _ | (_ | _ | _ | _ | _) <;>
    exact ⟨_, _, rfl, rfl, by decide, by decide⟩

theorem skip_operator (o : Operator) (r : List Char) :
    skip (' ' :: (o.text.toList ++ ' ' :: r)) = o.text.toList ++ ' ' :: r := by
  obtain ⟨c, s, he, hc, -⟩ := text_eq_cons o
  rw [skip_space, he]
  exact List.dropWhile_cons_of_neg (by simp [hc])

/-! ## What follows an expression -/

/-- What may stand after an expression of a level. -/
inductive Follows (k : Precedence) : List Char → Prop where
  | finish : Follows k []
  | close (r : List Char) : Follows k (')' :: r)
  | comma (h : k ≠ .sequence) (r : List Char) : Follows k (',' :: r)
  | otherwise (r : List Char) : Follows k (" else ".toList ++ r)
  /-- An operator that takes expressions of the level as its left operand. -/
  | operator (o : Operator) (h : o.left.rank ≤ k.rank) (r : List Char) :
    Follows k (' ' :: (o.text.toList ++ ' ' :: r))

namespace Follows

/-- What may follow an expression may follow a tighter one. -/
theorem mono (h : Follows k rest) (hk : k.rank ≤ j.rank) : Follows j rest := by
  cases h with
  | finish => exact .finish
  | close r => exact .close r
  | comma hne r =>
    refine .comma ?_ r
    rintro rfl
    cases k <;> simp_all [Precedence.rank]
  | otherwise r => exact .otherwise r
  | operator o ho r => exact .operator o (ho.trans hk) r

/-- Nothing that may follow an expression goes on with its last word. -/
theorem head_not_isWordChar (h : Follows k rest) : rest.head?.any isWordChar = false := by
  cases h <;> rfl

theorem head_ne_mark (h : Follows k rest) (q : Quotation) : rest.head? ≠ some q.mark := by
  cases h <;> cases q <;> simp [Quotation.mark]

theorem head_ne_parenthesis (h : Follows k rest) : after? ['('] (skip rest) = none := by
  cases h with
  | operator o ho r =>
    obtain ⟨c, s, he, -, hc, -⟩ := text_eq_cons o
    rw [skip_operator, he]
    exact after?_cons_eq_none hc
  | _ => simp [skip, isSpace, after?]

/-- After an expression a level has an operator only if the table has one that may stand there. -/
theorem infixed_eq_none (h : Follows k rest)
    (hj : ∀ o : Operator, o.left.rank ≤ k.rank → o.precedence ≠ j) :
    infixed j (skip rest) = none := by
  cases h with
  | operator o ho r =>
    rw [skip_operator, infixed_text, if_neg (hj o ho)]
  | _ => cases j <;> simp [infixed, Grammar.operator, sign, wordOp, keyword?, skip, isSpace, after?]

end Follows

/-! ## Repetition -/

theorem many_of_none {α : Type} {step : Parser α} (h : step s = none) : many step s = ([], s) := by
  rw [many, h]

theorem many_of_some {α : Type} {step : Parser α} {a : α} (h : step s = some (a, r))
    (hr : r.length < s.length) : many step s = (a :: (many step r).1, (many step r).2) := by
  rw [many, h]
  simp [hr]

/-! ## Chains of operators -/

/-- What a chain makes of its first operand, with the operators and operands behind it. -/
def extend (op : Infixed) (operand : Parser Expr) (e : Expr) (s : List Char) : Expr × List Char :=
  let (others, rest) := many (tail op operand) s
  (others.foldl (fun left (f, right) => f left right) e, rest)

section Chain

variable {op : Infixed} {operand : Parser Expr} {f : Expr → Expr → Expr} {right : Expr}

theorem chain_of_operand (h : operand s = some (e, r)) :
    chain op operand s = some (extend op operand e r) := by
  simp [chain, h, extend]

/-- Without an operator the chain ends. -/
theorem extend_of_none (h : op (skip s) = none) : extend op operand e s = (e, s) := by
  have ht : tail op operand s = none := by simp [tail, h]
  rw [extend, many_of_none ht]
  rfl

/-- An operator and its operand are joined to what is on their left. -/
theorem extend_of_tail (h : tail op operand s = some ((f, right), r)) (hr : r.length < s.length) :
    extend op operand e s = extend op operand (f e right) r := by
  rw [extend, many_of_some h hr]
  rfl

/-- An operand without a minus sign before it. -/
theorem unary_of_primary {c : Char} (hc : isSpace c = false) (hm : c ≠ '-')
    (h : primary inner (c :: s) = some (e, r)) : unary inner (c :: s) = some (e, r) := by
  have hsigns : ((c :: s).takeWhile fun c => c == '-' || isSpace c) = [] :=
    List.takeWhile_cons_of_neg (by simp [hc, hm])
  rw [unary, hsigns]
  simp only [List.length_nil, List.drop_zero, h, Option.map_some, List.count_nil]
  rfl

theorem pair_of_none (h : operand s = some (e, r)) (hop : op (skip r) = none) :
    pair op operand s = some (e, r) := by
  have ht : tail op operand r = none := by simp [tail, hop]
  simp [pair, h, ht]

theorem pair_of_tail (h : operand s = some (e, r)) (ht : tail op operand r = some ((f, right), t)) :
    pair op operand s = some (f e right, t) := by
  simp [pair, h, ht]

end Chain

/-! ## Expressions with commas -/

/-- A comma and the expression behind it. -/
def afterComma (item : Parser Expr) : Parser Expr := fun s =>
  (after? [','] (skip s)).bind fun r => item (skip r)

/-- No comma follows an expression that may have commas itself. -/
theorem Follows.afterComma_eq_none (h : Follows .sequence rest) (item : Parser Expr) :
    afterComma item rest = none := by
  have hc : after? [','] (skip rest) = none := by
    cases h with
    | comma hne r => exact absurd rfl hne
    | operator o ho r =>
      obtain ⟨c, s, he, -, -, hc⟩ := text_eq_cons o
      rw [skip_operator, he]
      exact after?_cons_eq_none hc
    | _ => simp [skip, isSpace, after?]
  rw [afterComma, hc, Option.bind_none]

theorem commaList_of_item {item : Parser Expr} (h : item s = some (e, r)) :
    commaList item s =
      some (e :: (many (afterComma item) r).1, (many (afterComma item) r).2) := by
  rw [commaList, h]
  rfl

/-! ## Texts of a level -/

/-- How the text of an expression of a level begins. -/
structure Starts (k : Precedence) (t : List Char) : Prop where
  head : ∃ c r, t = c :: r ∧ isSpace c = false ∧ (k = .primary → c ≠ '-')
  /-- Only conditionals, and sequences of them, begin with the keyword. -/
  not_if : Precedence.conditional.rank < k.rank → ∀ rest, keyword? "if" (t ++ rest) = none

namespace Starts

theorem append (h : Starts k t) (r : List Char) : Starts k (t ++ r) := by
  obtain ⟨c, s, rfl, hc⟩ := h.head
  refine ⟨⟨c, s ++ r, rfl, hc⟩, fun hk rest => ?_⟩
  rw [List.append_assoc]
  exact h.not_if hk (r ++ rest)

theorem skip_eq (h : Starts k t) (rest : List Char) : skip (t ++ rest) = t ++ rest := by
  obtain ⟨c, s, rfl, hc, -⟩ := h.head
  exact List.dropWhile_cons_of_neg (by simp [hc])

theorem mono (h : Starts j t) (hk : k.rank ≤ j.rank) : Starts k t := by
  obtain ⟨c, s, rfl, hc, hm⟩ := h.head
  refine ⟨⟨c, s, rfl, hc, fun he => hm ?_⟩, fun hlt => h.not_if (hlt.trans_le hk)⟩
  subst he
  cases j <;> simp_all [Precedence.rank]

end Starts

/-- What the parser of a level makes of an expression that it has read, and of the rest. -/
def resume (inner : Parser Expr) (k : Precedence) (e : Expr) (rest : List Char) :
    Expr × List Char :=
  if k.associative then extend (infixed k) (level inner k.next) e rest else (e, rest)

/-- A text is read as an expression, whatever may follow it. -/
def Reads (inner : Parser Expr) (k : Precedence) (t : List Char) (e : Expr) : Prop :=
  ∀ rest, Follows k rest → level inner k (t ++ rest) = some (resume inner k e rest)

theorem rank_precedence_lt_next (o : Operator) :
    o.precedence.rank < o.precedence.next.rank := by
  rcases o with (_ | _) | _ | _ | (_ | _ | _ | _ | _) <;>
    simp [Operator.precedence, Precedence.next, Precedence.rank]

theorem rank_precedence_le_left (o : Operator) : o.precedence.rank ≤ o.left.rank := by
  unfold Operator.left
  split
  · exact le_rfl
  · exact (rank_precedence_lt_next o).le

/-- What may follow an expression is not taken by the parsers of tighter levels. -/
theorem Follows.resume_eq (h : Follows k rest) (hj : k.rank < j.rank) :
    resume inner j e rest = (e, rest) := by
  unfold resume
  split
  · refine extend_of_none (h.infixed_eq_none fun o ho he => ?_)
    have := rank_precedence_le_left o
    rw [he] at this
    omega
  · rfl

namespace Reads

/-! ### One level looser -/

theorem loosen_operator (o : Operator) (h : Reads inner o.precedence.next t e) :
    Reads inner o.precedence t e := by
  intro rest hf
  have hlt := rank_precedence_lt_next o
  have hr := h rest (hf.mono hlt.le)
  rw [hf.resume_eq hlt] at hr
  rw [level_precedence]
  by_cases ha : o.precedence.associative
  · rw [if_pos ha, chain_of_operand hr, resume, if_pos ha]
  · have hop : infixed o.precedence (skip rest) = none := by
      refine hf.infixed_eq_none fun p hp he => ?_
      rw [Operator.left, he, if_neg ha] at hp
      omega
    rw [if_neg ha, pair_of_none hr hop, resume, if_neg ha]

theorem loosen_primary (hs : Starts .primary t) (h : Reads inner .primary t e) :
    Reads inner .unary t e := by
  intro rest hf
  have hr : primary inner (t ++ rest) = some (e, rest) := h rest (hf.mono (by decide))
  obtain ⟨c, r, rfl, hc, hm⟩ := hs.head
  exact unary_of_primary hc (hm rfl) hr

theorem loosen_disjunction (hs : Starts .disjunction t) (h : Reads inner .disjunction t e) :
    Reads inner .conditional t e := by
  intro rest hf
  have hr := h rest (hf.mono (by decide))
  rw [hf.resume_eq (by decide)] at hr
  have hc : conditional inner (t ++ rest) = none := by
    rw [conditional, hs.not_if (by decide)]
    rfl
  show (conditional inner (t ++ rest) <|> level inner .disjunction (t ++ rest)) = some (e, rest)
  rw [hc, hr]
  rfl

/-- Where no comma follows, one expression is all that is read. -/
theorem loosen_conditional (h : Reads inner .conditional t e) : Reads inner .sequence t e := by
  intro rest hf
  have hr : level inner .conditional (t ++ rest) = some (e, rest) := h rest (hf.mono (by decide))
  show sequence (level inner .conditional) (t ++ rest) = some (e, rest)
  rw [sequence, commaList_of_item hr, many_of_none (hf.afterComma_eq_none _)]
  rfl

/-- An expression is read alike at the next looser level. -/
theorem loosen (hk : k ≠ .primary) (hs : Starts k.next t) (h : Reads inner k.next t e) :
    Reads inner k t e := by
  cases k with
  | sequence => exact loosen_conditional h
  | conditional => exact loosen_disjunction hs h
  | disjunction => exact loosen_operator (.logical .or) h
  | conjunction => exact loosen_operator (.logical .and) h
  | comparison => exact loosen_operator (.compare .eq) h
  | range => exact loosen_operator .range h
  | sum => exact loosen_operator (.arith .add) h
  | product => exact loosen_operator (.arith .mul) h
  | unary => exact loosen_primary hs h
  | primary => exact absurd rfl hk

/-- An expression is read alike at every looser level. -/
theorem mono (hs : Starts j t) (h : Reads inner j t e) (hk : k.rank ≤ j.rank) :
    Reads inner k t e := by
  obtain ⟨n, hn⟩ := Nat.exists_eq_add_of_le hk
  -- The induction goes down the table, one level at a time.
  induction n generalizing k with
  | zero =>
    have he : k = j := by cases k <;> cases j <;> simp_all [Precedence.rank]
    rwa [he]
  | succ n ih =>
    have hp : k ≠ .primary := by
      rintro rfl
      cases j <;> simp [Precedence.rank] at hn <;> omega
    have hnext : k.next.rank = k.rank + 1 := by
      cases k <;> simp_all [Precedence.rank, Precedence.next]
    exact loosen hp (hs.mono (by omega)) (ih (by omega) (by omega))

end Reads

end XmlTemplate.Expr.Grammar
