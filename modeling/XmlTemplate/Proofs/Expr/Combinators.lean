import XmlTemplate.Proofs.Expr.Levels

/-!
# The parsers as combinations

Parsers that the grammar writes out, as parsers that follow one another.

* `operator_cons`, `pair_eq`, `unary_eq`: operators and signs.
* `double_eq`, `reference_eq`: operands of one word behind a character.
* `bracketed`: what stands in parentheses. `parenthesized_eq`, `call_eq` and `conditional_eq` are
  the three places of the grammar.
-/

namespace XmlTemplate.Expr.Grammar

variable {α : Type} {s : List Char} {c : Char}

/-! ## Operators -/

theorem operator_cons (p : Parser Unit) (f : Expr → Expr → Expr)
    (table : List (Parser Unit × (Expr → Expr → Expr))) (s : List Char) :
    operator ((p, f) :: table) s = ((p s).map (fun x => (f, x.2)) <|> operator table s) := by
  simp only [operator, List.findSome?_cons]
  cases p s <;> rfl

theorem pair_eq (op : Infixed) (operand : Parser Expr) : pair op operand = fun s =>
    (operand s).map fun x =>
      ((tail op operand x.2).map fun z => (z.1.1 x.1 z.1.2, z.2)).getD (x.1, x.2) := by
  funext s
  refine congrArg (Option.map · (operand s)) (funext fun x => ?_)
  cases h : tail op operand x.2 <;> simp [h]

/-- Characters that may stand before an operand. -/
def isSign (c : Char) : Bool := c == '-' || isSpace c

theorem unary_eq (inner : Parser Expr) (s : List Char) : unary inner s =
    (primary inner (s.dropWhile isSign)).map fun x =>
      (Nat.repeat .negate ((s.takeWhile isSign).count '-') x.1, x.2) := by
  have hdrop : s.drop (s.takeWhile isSign).length = s.dropWhile isSign := calc
    _ = (s.takeWhile isSign ++ s.dropWhile isSign).drop (s.takeWhile isSign).length := by
      rw [List.takeWhile_append_dropWhile]
    _ = _ := List.drop_left
  rw [← hdrop]
  rfl

/-! ## Words behind a character -/

theorem after?_eq_none_of_ne_cons (h : ∀ r, s = c :: r → False) : after? [c] s = none := by
  cases s with
  | nil => rfl
  | cons d r => exact after?_cons_eq_none fun hd => h r (hd ▸ rfl)

/-- The rest of a number behind its point, and the number, whose digits before it are given. -/
def fraction (whole : List Char) : Parser Expr := fun r =>
  if (r.takeWhile Char.isDigit).isEmpty then none
  else
    (Decimal.Literal.ofText? (whole ++ '.' :: r.takeWhile Char.isDigit)).map fun n =>
      (.literal (.double n.toFloat), r.dropWhile Char.isDigit)

theorem double_eq (s : List Char) : double s =
    (after? ['.'] (s.dropWhile Char.isDigit)).bind (fraction (s.takeWhile Char.isDigit)) := by
  unfold double
  split
  · rename_i r hr
    rw [hr, after?_cons_self]
    rfl
  · rename_i hr
    rw [after?_eq_none_of_ne_cons hr, Option.bind_none]

theorem reference_eq : reference = fun s => (after? ['$'] s).bind fun r =>
    (word? isNameStart isWordChar r).map fun x => (.var (String.ofList x.1), x.2) := by
  funext s
  unfold reference
  split
  · rw [after?_cons_self]
    rfl
  · rename_i h
    rw [after?_eq_none_of_ne_cons h, Option.bind_none]

/-! ## Parentheses -/

/-- What a parser reads between parentheses. -/
def bracketed (body : Parser α) : Parser α := fun s =>
  (after? ['('] s).bind fun r => (body r).bind fun x =>
    (after? [')'] (skip x.2)).bind fun t => some (x.1, t)

theorem parenthesized_eq (inner : Parser Expr) : parenthesized inner =
    bracketed fun r => some ((sequence inner (skip r)).getD (.sequence [], skip r)) := by
  funext s
  simp only [parenthesized, bracketed, Option.bind_eq_bind, Option.bind_some]
  rfl

theorem call_eq (inner : Parser Expr) : call inner = fun s =>
    (word? Char.isAlpha isWordChar s).bind fun x =>
      (bracketed (fun r => some ((commaList inner (skip r)).getD ([], skip r))) (skip x.2)).bind
        fun z => some (.call (String.ofList x.1) z.1, z.2) := by
  funext s
  simp only [call, bracketed, Option.bind_eq_bind, Option.bind_some, Option.bind_assoc]
  rfl

theorem conditional_eq (inner : Parser Expr) : conditional inner = fun s =>
    (keyword? "if" s).bind fun r => (bracketed (fun r => sequence inner (skip r)) (skip r)).bind
      fun x => (keyword? "then" (skip x.2)).bind fun r => (inner (skip r)).bind fun y =>
        (keyword? "else" (skip y.2)).bind fun r => (inner (skip r)).bind fun z =>
          some (.cond x.1 y.1 z.1, z.2) := by
  funext s
  simp only [conditional, bracketed, Option.bind_eq_bind, Option.bind_some, Option.bind_assoc]
  rfl

end XmlTemplate.Expr.Grammar
