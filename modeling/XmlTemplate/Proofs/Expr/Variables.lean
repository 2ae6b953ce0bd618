import XmlTemplate.Proofs.Expr.RoundTrip

/-!
# Expressions that are a variable

Operators, signs and commas make something else of the operands that they join. So when a whole
text is read as a variable, the parser of operands has read it.

* `operand_of_chain`, `operand_of_pair`: a chain of operators that is a variable is an operand.
* `primary_of_level`: what is read as a variable at any level is an operand.
* `Names`: a parser that reads only variables with names. There is one rule for each construct of
  the grammar.
* `parse?_reference_iff`: a text with a dollar sign before it is read as a variable of this name
  if and only if it is a name. `isName_of_mem_variableNames`: other variables do not occur.
-/

namespace XmlTemplate.Expr.Grammar

variable {inner operand : Parser Expr} {op : Infixed} {k : Precedence} {s r : List Char}
  {name : String}

/-! ## Operators -/

/-- What is read as an operator is one of the operators of the table. -/
def Tabled (op : Infixed) : Prop := ∀ s f r, op s = some (f, r) → ∃ o : Operator, f = o.apply

theorem tabled_operator {table : List (Parser Unit × (Expr → Expr → Expr))}
    (h : ∀ row ∈ table, ∃ o : Operator, row.2 = o.apply) : Tabled (operator table) := by
  intro s f r hf
  obtain ⟨row, hrow, hs⟩ := List.exists_of_findSome?_eq_some hf
  obtain ⟨x, -, hx⟩ := Option.map_eq_some_iff.mp hs
  cases hx
  exact h row hrow

theorem tabled_infixed (k : Precedence) : Tabled (infixed k) := by
  have hlogical (op : Logical) : ∃ o : Operator, Expr.logical op = o.apply := ⟨.logical op, rfl⟩
  have hcompare (op : Comparison) : ∃ o : Operator, Expr.compare op = o.apply := ⟨.compare op, rfl⟩
  have harith (op : Arithmetic) : ∃ o : Operator, Expr.arith op = o.apply := ⟨.arith op, rfl⟩
  have hrange : ∃ o : Operator, Expr.range = o.apply := ⟨.range, rfl⟩
  cases k <;>
    exact tabled_operator (by simp [hlogical, hcompare, harith, hrange])

theorem apply_ne_var (o : Operator) (left right : Expr) (name : String) :
    o.apply left right ≠ .var name := by
  cases o <;> exact nofun

theorem mentions_apply (o : Operator) (left right : Expr) :
    (o.apply left right).mentions = left.mentions ++ right.mentions := by
  cases o <;> rw [Operator.apply, mentions]

/-! ## Repetition -/

/-- What is read again and again has been read each time. -/
theorem exists_of_mem_many {α : Type} {step : Parser α} {a : α} (h : a ∈ (many step s).1) :
    ∃ t r, step t = some (a, r) := by
  fun_induction many step s with
  | case1 s hs => cases h
  | case2 s b r hs hr others rest hmany ih =>
    rcases List.mem_cons.mp h with rfl | h
    · exact ⟨s, r, hs⟩
    · exact ih (hmany ▸ h)
  | case3 s b r hs hr => cases h

/-- Where nothing is read, nothing is taken from the text. -/
theorem many_rest_of_nil {α : Type} {step : Parser α} (h : (many step s).1 = []) :
    (many step s).2 = s := by
  fun_cases many step s with
  | case1 hs => rfl
  | case2 b r hs hr others rest hmany =>
    rw [many_of_some hs hr] at h
    cases h
  | case3 b r hs hr => rfl

/-- An operator and an operand have been read each by its own parser. -/
theorem exists_of_tail {f : Expr → Expr → Expr} {right : Expr}
    (h : tail op operand s = some ((f, right), r)) :
    (∃ t u, op t = some (f, u)) ∧ ∃ t, operand t = some (right, r) := by
  obtain ⟨⟨g, t⟩, hop, hright⟩ := Option.bind_eq_some_iff.mp h
  obtain ⟨x, hread, hx⟩ := Option.map_eq_some_iff.mp hright
  cases hx
  exact ⟨⟨_, t, hop⟩, _, hread⟩

/-- What stands behind the first operand of a chain are operators and operands. -/
theorem exists_of_mem_tails (hop : Tabled op) {x : (Expr → Expr → Expr) × Expr}
    (h : x ∈ (many (tail op operand) s).1) :
    (∃ o : Operator, x.1 = o.apply) ∧ ∃ t r, operand t = some (x.2, r) := by
  obtain ⟨t, r, htail⟩ := exists_of_mem_many h
  obtain ⟨⟨u, v, hread⟩, w, hright⟩ := exists_of_tail htail
  exact ⟨hop u x.1 v hread, w, r, hright⟩

/-- A chain of operators that is a variable has no operator. -/
theorem operand_of_chain (hop : Tabled op)
    (h : chain op operand s = some (.var name, r)) : operand s = some (.var name, r) := by
  obtain ⟨⟨first, t⟩, hfirst, he⟩ := Option.map_eq_some_iff.mp h
  obtain ⟨hfold, rfl⟩ := Prod.mk.inj he
  rcases List.eq_nil_or_concat (many (tail op operand) t).1 with hnil | ⟨others, ⟨f, right⟩, hlast⟩
  · rw [hnil, List.foldl_nil] at hfold
    rw [many_rest_of_nil hnil, hfirst, hfold]
  · rw [List.concat_eq_append] at hlast
    obtain ⟨⟨o, ho⟩, -⟩ := exists_of_mem_tails (x := (f, right)) hop (by rw [hlast]; simp)
    have hf : f = o.apply := ho
    rw [hlast, List.foldl_append, List.foldl_cons, List.foldl_nil, hf] at hfold
    exact absurd hfold (apply_ne_var o _ right name)

/-- A pair of operands that is a variable is only one. -/
theorem operand_of_pair (hop : Tabled op)
    (h : pair op operand s = some (.var name, r)) : operand s = some (.var name, r) := by
  obtain ⟨⟨first, t⟩, hfirst, he⟩ := Option.map_eq_some_iff.mp h
  cases htail : tail op operand t with
  | none =>
    simp only [htail] at he
    rw [hfirst, he]
  | some x =>
    obtain ⟨⟨f, right⟩, rest⟩ := x
    simp only [htail] at he
    obtain ⟨⟨u, v, hread⟩, -⟩ := exists_of_tail htail
    obtain ⟨o, ho⟩ := hop u f v hread
    rw [ho] at he
    exact absurd (Prod.mk.inj he).1 (apply_ne_var o first right name)

/-! ## Levels -/

theorem next_of_operator (o : Operator) (h : level inner o.precedence s = some (.var name, r)) :
    level inner o.precedence.next s = some (.var name, r) := by
  rw [level_precedence] at h
  split at h
  · exact operand_of_chain (tabled_infixed _) h
  · exact operand_of_pair (tabled_infixed _) h

/-- A minus sign makes a negation. -/
theorem repeat_negate_eq_var {n : Nat} {e : Expr} (h : Nat.repeat .negate n e = .var name) :
    e = .var name ∧ n = 0 := by
  cases n with
  | zero => exact ⟨h, rfl⟩
  | succ n => cases h

/-- Several expressions are no variable. -/
theorem ofItems_eq_var {es : List Expr} (h : ofItems es = .var name) : es = [.var name] := by
  match es with
  | [] => cases h
  | [e] => exact congrArg (fun e => [e]) h
  | e :: f :: rest => cases h

/-- A variable is read alike at the next tighter level. -/
theorem next_of_level (hs : Starts .primary s)
    (h : level inner k s = some (.var name, r)) : level inner k.next s = some (.var name, r) := by
  have hif : keyword? "if" s = none := by simpa using hs.not_if (by decide) []
  cases k with
  | sequence =>
    obtain ⟨⟨items, t⟩, hitems, he⟩ := Option.map_eq_some_iff.mp h
    obtain ⟨hone, rfl⟩ := Prod.mk.inj he
    obtain ⟨⟨first, u⟩, hfirst, hlist⟩ := Option.map_eq_some_iff.mp hitems
    obtain ⟨hcons, hrest⟩ := Prod.mk.inj hlist
    rw [ofItems_eq_var hone] at hcons
    obtain ⟨rfl, hnil⟩ := List.cons.inj hcons
    rw [many_rest_of_nil hnil] at hrest
    rw [← hrest]
    exact hfirst
  | conditional =>
    have hc : conditional inner s = none := by
      rw [conditional, hif]
      rfl
    have hor : (conditional inner s <|> disjunction inner s) = some (.var name, r) := h
    rw [hc] at hor
    exact hor
  | disjunction => exact next_of_operator (.logical .or) h
  | conjunction => exact next_of_operator (.logical .and) h
  | comparison => exact next_of_operator (.compare .eq) h
  | range => exact next_of_operator .range h
  | sum => exact next_of_operator (.arith .add) h
  | product => exact next_of_operator (.arith .mul) h
  | unary =>
    obtain ⟨⟨e, t⟩, hprimary, he⟩ := Option.map_eq_some_iff.mp h
    obtain ⟨hnegate, rfl⟩ := Prod.mk.inj he
    obtain ⟨c, u, rfl, hc, hm⟩ := hs.head
    have hsigns : ((c :: u).takeWhile fun c => c == '-' || isSpace c) = [] :=
      List.takeWhile_cons_of_neg (by simp [hc, hm rfl])
    rw [hsigns] at hprimary
    rw [(repeat_negate_eq_var hnegate).1] at hprimary
    exact hprimary
  | primary => exact h

/-- A variable is read by the parser of operands. -/
theorem primary_of_level (hs : Starts .primary s) (h : level inner k s = some (.var name, r)) :
    primary inner s = some (.var name, r) := by
  have hdown : ∀ n (k : Precedence), k.rank + n = 9 → level inner k s = some (.var name, r) →
      primary inner s = some (.var name, r) := by
    -- The induction goes down the table, one level at a time.
    intro n
    induction n with
    | zero =>
      intro k hk h
      have he : k = .primary := by cases k <;> simp_all [Precedence.rank]
      rwa [he] at h
    | succ n ih =>
      intro k hk h
      have hnext : k.next.rank + n = 9 := by
        cases k <;> simp_all [Precedence.rank, Precedence.next] <;> omega
      exact ih k.next hnext (next_of_level hs h)
  have hrank : k.rank ≤ 9 := by cases k <;> decide
  exact hdown (9 - k.rank) k (by omega) h

/-! ## Variables with a dollar sign -/

/-- A dollar sign begins nothing but a variable. -/
theorem primary_dollar : primary inner ('$' :: s) = reference ('$' :: s) := by
  rw [primary, double_cons_eq_none rfl (by decide), integer_cons_eq_none rfl,
    string_cons_eq_none (by decide) (by decide), call_cons_eq_none rfl,
    bareName_cons_eq_none rfl, parenthesized_cons_eq_none (by decide)]
  cases reference ('$' :: s) <;> rfl

/-- A word that is read is a name of its classes. -/
theorem isName_of_word? {first other : Char → Bool} {w : List Char}
    (h : word? first other s = some (w, r)) : isName first other w = true := by
  cases s with
  | nil => cases h
  | cons c t =>
    rw [word?] at h
    split at h
    · rename_i hc
      cases h
      rw [isName, hc, Bool.true_and]
      exact List.all_takeWhile
    · cases h

theorem isName_mono {first other wider : Char → Bool} {w : List Char}
    (hc : ∀ c, other c = true → wider c = true) (h : isName first other w = true) :
    isName first wider w = true := by
  cases w with
  | nil => cases h
  | cons c r =>
    rw [isName, Bool.and_eq_true, List.all_eq_true] at h ⊢
    exact ⟨h.1, fun d hd => hc d (h.2 d hd)⟩

/-- A variable with a dollar sign has a name. -/
theorem exists_of_reference {e : Expr} (h : reference s = some (e, r)) :
    ∃ name : String, e = .var name ∧ isName isNameStart isWordChar name.toList = true := by
  unfold reference at h
  split at h
  · obtain ⟨⟨word, t⟩, hword, he⟩ := Option.map_eq_some_iff.mp h
    cases he
    exact ⟨_, rfl, by rw [String.toList_ofList]; exact isName_of_word? hword⟩
  · cases h

/-! ## Names of variables -/

/-- The variables of an expression have names. -/
def Named (e : Expr) : Prop :=
  ∀ name ∈ e.mentions, isName isNameStart isWordChar name.toList = true

/-- What a parser reads has variables with names only. -/
def Names (p : Parser Expr) : Prop := ∀ s e r, p s = some (e, r) → Named e

namespace Named

theorem var (h : isName isNameStart isWordChar name.toList = true) : Named (.var name) := by
  intro other hm
  rwa [List.mem_singleton.mp hm]

theorem apply (o : Operator) {left right : Expr} (hl : Named left) (hr : Named right) :
    Named (o.apply left right) := by
  intro name h
  rw [mentions_apply] at h
  exact (List.mem_append.mp h).elim (hl name) (hr name)

theorem repeat_negate {e : Expr} (h : Named e) (n : Nat) : Named (Nat.repeat .negate n e) := by
  induction n with
  | zero => exact h
  | succ n ih => exact ih

theorem mentionsAll {es : List Expr} (h : ∀ e ∈ es, Named e) :
    ∀ name ∈ Expr.mentionsAll es, isName isNameStart isWordChar name.toList = true := by
  induction es with
  | nil => nofun
  | cons e rest ih =>
    intro name hm
    rw [Expr.mentionsAll, List.mem_append] at hm
    exact hm.elim (h e List.mem_cons_self name)
      (ih (fun e he => h e (List.mem_cons_of_mem _ he)) name)

theorem ofItems {es : List Expr} (h : ∀ e ∈ es, Named e) : Named (ofItems es) := by
  match es with
  | [] => exact nofun
  | [e] => exact h e List.mem_cons_self
  | e :: f :: rest => exact mentionsAll h

end Named

namespace Names

variable {p q : Parser Expr}

theorem orElse (hp : Names p) (hq : Names q) : Names fun s => p s <|> q s := by
  intro s e r h
  rcases (Option.orElse_eq_some _ _ _).mp h with h | ⟨-, h⟩
  · exact hp s e r h
  · exact hq s e r h

theorem chain (hop : Tabled op) (hp : Names p) : Names (Grammar.chain op p) := by
  intro s e r h
  obtain ⟨⟨first, t⟩, hfirst, he⟩ := Option.map_eq_some_iff.mp h
  obtain ⟨rfl, -⟩ := Prod.mk.inj he
  have htails : ∀ x ∈ (many (tail op p) t).1, (∃ o : Operator, x.1 = o.apply) ∧ Named x.2 := by
    intro x hx
    obtain ⟨ho, u, v, hread⟩ := exists_of_mem_tails hop hx
    exact ⟨ho, hp u x.2 v hread⟩
  -- The left operand grows from one operator to the next.
  generalize (many (tail op p) t).1 = tails at htails
  have hfold : ∀ left, Named left →
      Named (tails.foldl (fun left (x : (Expr → Expr → Expr) × Expr) => x.1 left x.2) left) := by
    induction tails with
    | nil => exact fun left h => h
    | cons x rest ih =>
      intro left hl
      rw [List.forall_mem_cons] at htails
      obtain ⟨⟨⟨o, ho⟩, hr⟩, hrest⟩ := htails
      rw [List.foldl_cons]
      exact ih hrest _ (ho ▸ Named.apply o hl hr)
  exact hfold first (hp s first t hfirst)

theorem pair (hop : Tabled op) (hp : Names p) : Names (Grammar.pair op p) := by
  intro s e r h
  obtain ⟨⟨first, t⟩, hfirst, he⟩ := Option.map_eq_some_iff.mp h
  have hnamed := hp s first t hfirst
  cases htail : tail op p t with
  | none =>
    simp only [htail] at he
    cases he
    exact hnamed
  | some x =>
    obtain ⟨⟨f, right⟩, rest⟩ := x
    simp only [htail] at he
    cases he
    obtain ⟨⟨u, v, hread⟩, w, hright⟩ := exists_of_tail htail
    obtain ⟨o, rfl⟩ := hop u f v hread
    exact hnamed.apply o (hp w right _ hright)

theorem commaList (hp : Names p) {es : List Expr} (h : Grammar.commaList p s = some (es, r)) :
    ∀ e ∈ es, Named e := by
  obtain ⟨⟨first, t⟩, hfirst, he⟩ := Option.map_eq_some_iff.mp h
  obtain ⟨rfl, -⟩ := Prod.mk.inj he
  refine List.forall_mem_cons.mpr ⟨hp s first t hfirst, fun e hm => ?_⟩
  obtain ⟨u, v, hread⟩ := exists_of_mem_many hm
  obtain ⟨w, -, hitem⟩ := Option.bind_eq_some_iff.mp hread
  exact hp _ e v hitem

theorem sequence (hp : Names p) : Names (Grammar.sequence p) := by
  intro s e r h
  obtain ⟨⟨items, t⟩, hitems, he⟩ := Option.map_eq_some_iff.mp h
  cases he
  exact Named.ofItems (commaList hp hitems)

/-! ### Operands -/

theorem reference : Names reference := by
  intro s e r h
  obtain ⟨name, rfl, hname⟩ := exists_of_reference h
  exact Named.var hname

theorem double : Names double := by
  intro s e r h
  unfold Grammar.double at h
  split at h
  · dsimp only at h
    split at h
    · cases h
    · obtain ⟨n, -, he⟩ := Option.map_eq_some_iff.mp h
      cases he
      exact nofun
  · cases h

theorem integer : Names integer := by
  intro s e r h
  obtain ⟨x, -, he⟩ := Option.map_eq_some_iff.mp h
  cases he
  exact nofun

theorem string : Names string := by
  intro s e r h
  unfold Grammar.string at h
  split at h
  · split at h
    · obtain ⟨x, -, he⟩ := Option.map_eq_some_iff.mp h
      cases he
      exact nofun
    · cases h
  · cases h

/-- A name without a dollar sign has no hyphens. -/
theorem bareName : Names bareName := by
  intro s e r h
  unfold Grammar.bareName at h
  split at h
  · cases h
  · obtain ⟨⟨word, t⟩, hword, he⟩ := Option.map_eq_some_iff.mp h
    cases he
    split
    · exact nofun
    · exact nofun
    · refine Named.var ?_
      rw [String.toList_ofList]
      exact isName_mono (by simp +contextual [isWordChar]) (isName_of_word? hword)

theorem call (hs : Names inner) : Names (Grammar.call inner) := by
  intro s e r h
  simp only [Grammar.call, Option.bind_eq_bind, Option.bind_eq_some_iff] at h
  obtain ⟨⟨name, t⟩, -, u, -, v, -, he⟩ := h
  cases he
  refine Named.mentionsAll ?_
  cases hargs : Grammar.commaList inner (skip u) with
  | none => exact fun e h => absurd h List.not_mem_nil
  | some x => exact commaList hs hargs

theorem parenthesized (hs : Names inner) : Names (Grammar.parenthesized inner) := by
  intro s e r h
  simp only [Grammar.parenthesized, Option.bind_eq_bind, Option.bind_eq_some_iff] at h
  obtain ⟨u, -, v, -, he⟩ := h
  cases he
  cases hitems : Grammar.sequence inner (skip u) with
  | none => exact fun e h => absurd h List.not_mem_nil
  | some x => exact sequence hs _ _ _ hitems

theorem primary (hs : Names inner) : Names (primary inner) :=
  double.orElse (integer.orElse (string.orElse ((call hs).orElse
    (reference.orElse (bareName.orElse (parenthesized hs))))))

/-! ### Levels -/

theorem unary (hs : Names inner) : Names (unary inner) := by
  intro s e r h
  obtain ⟨⟨operand, t⟩, hread, he⟩ := Option.map_eq_some_iff.mp h
  obtain ⟨rfl, -⟩ := Prod.mk.inj he
  exact (primary hs _ operand t hread).repeat_negate _

theorem disjunction (hs : Names inner) : Names (disjunction inner) :=
  have product := chain (tabled_infixed .product) (unary hs)
  have sum := chain (tabled_infixed .sum) product
  have range := pair (tabled_infixed .range) sum
  have comparison := pair (tabled_infixed .comparison) range
  have conjunction := chain (tabled_infixed .conjunction) comparison
  chain (tabled_infixed .disjunction) conjunction

theorem conditional (hs : Names inner) : Names (conditional inner) := by
  intro s e r h
  simp only [Grammar.conditional, Option.bind_eq_bind, Option.bind_eq_some_iff] at h
  obtain ⟨_, -, _, -, ⟨condition, t⟩, hc, _, -, _, -, ⟨yes, u⟩, hy, _, -, ⟨no, v⟩, hn, he⟩ := h
  cases he
  intro name hm
  rw [mentions, List.mem_append, List.mem_append] at hm
  rcases hm with (hm | hm) | hm
  · exact sequence hs _ _ _ hc name hm
  · exact hs _ _ _ hy name hm
  · exact hs _ _ _ hn name hm

/-- However deep expressions are nested, their variables have names. -/
theorem single (depth : Nat) : Names (Grammar.single depth) := by
  induction depth with
  | zero => exact nofun
  | succ depth ih => exact (conditional ih).orElse (disjunction ih)

end Names

end XmlTemplate.Expr.Grammar

namespace XmlTemplate.Expr

open Grammar

/-- **A text with a dollar sign before it is the variable of this name** exactly if it is a
name. -/
theorem parse?_reference_iff (name : String) :
    parse? ('$' :: name.toList) = some (.var name) ↔
      isName isNameStart isWordChar name.toList = true := by
  have hstarts : Starts .primary ('$' :: name.toList) :=
    starts_of_head rfl (by decide) (by decide)
  constructor
  · intro h
    have hskip : skip ('$' :: name.toList) = '$' :: name.toList := rfl
    rw [parse?, hskip] at h
    split at h
    · rename_i e r hread
      split at h
      · cases h
        have hvar : primary (single ('$' :: name.toList).length) ('$' :: name.toList) =
            some (.var name, r) := primary_of_level (k := .sequence) hstarts hread
        rw [primary_dollar] at hvar
        obtain ⟨other, he, hname⟩ := exists_of_reference hvar
        rwa [Expr.var.inj he]
      · cases h
    · cases h
  · exact fun h => ((Spells.var h).mono (Nat.zero_le _)).parses

/-- **The variables of an expression have names**, whatever the text is that it is read from. -/
theorem isName_of_mem_variableNames {s : List Char} {e : Expr} {name : String}
    (h : parse? s = some e) (hm : name ∈ e.variableNames) :
    isName isNameStart isWordChar name.toList = true := by
  have hm : name ∈ e.mentions := List.mem_eraseDups.mp hm
  rw [parse?] at h
  split at h
  · rename_i e' r hread
    split at h
    · cases h
      exact Names.sequence (Names.single _) _ e r hread name hm
    · cases h
  · split at h
    · cases h
      cases hm
    · cases h

end XmlTemplate.Expr
