import XmlTemplate.Proofs.Expr.Brackets
import XmlTemplate.Proofs.Expr.RoundTrip

/-!
# Expressions inside parentheses

A text that is read as an expression is read alike with a closing parenthesis behind it. This is
not so of every text: `f(x` is the variable `f` with a rest, and `f(x)` is a call. But a text that
is read to its end ends neither in parentheses nor in a string, and then nothing that was refused
at its end is taken because a parenthesis follows.

* `Undisturbed`: what is read of a text, and what is read of it before a closing parenthesis.
* `Steady`: two parsers of which this holds for all short texts. There is one rule for each
  construct of the grammar; `Steady.single` is about any two bounds on the depth.
* `Spells.parenthesized_of_parse?`, `Spells.exists_call_of_parse?`: whatever parses is an operand,
  between parentheses, and the arguments of a function.
-/

namespace XmlTemplate.Expr.Grammar

open Nesting

variable {α β : Type} {s t w r y : List Char}

/-! ## Reading before a parenthesis -/

/-- What is read of a text, and what is read of it with a closing parenthesis behind it. -/
structure Undisturbed (y s : List Char) (o o' : Option (α × List Char)) : Prop where
  /-- Strings and parentheses are read as a whole. -/
  balanced : ∀ {a r}, o = some (a, r) → ∃ w, Balanced w ∧ s = w ++ r
  /-- A text that is not cut off is read alike before the parenthesis. -/
  same : Uncut s → o' = o.map fun (a, r) => (a, r ++ ')' :: y)

namespace Undisturbed

variable {o o' p p' : Option (α × List Char)} {a : α}

theorem refused : Undisturbed y s (none : Option (α × List Char)) none := by
  refine ⟨fun h => ?_, fun _ => rfl⟩
  cases h

theorem returned (a : α) : Undisturbed y s (some (a, s)) (some (a, s ++ ')' :: y)) := by
  refine ⟨fun h => ?_, fun _ => rfl⟩
  cases h
  exact ⟨[], .nil, rfl⟩

theorem length_le (h : Undisturbed y s o o') (ho : o = some (a, r)) : r.length ≤ s.length := by
  obtain ⟨w, -, rfl⟩ := h.balanced ho
  simp

/-- Only for a text that is not cut off does it matter what is read before the parenthesis. -/
theorem congr (h : Undisturbed y s o o') (hp : Uncut s → p' = o') : Undisturbed y s o p' :=
  ⟨h.balanced, fun hs => (hp hs).trans (h.same hs)⟩

/-- What is read further on. -/
theorem behind (hw : Balanced w) (h : Undisturbed y r o o') : Undisturbed y (w ++ r) o o' := by
  refine ⟨fun ho => ?_, fun hs => h.same (hs.of_append hw)⟩
  obtain ⟨v, hv, rfl⟩ := h.balanced ho
  exact ⟨w ++ v, hw.append hv, (List.append_assoc ..).symm⟩

theorem dropWhile {q : Char → Bool} (hq : ∀ c, q c = true → isPlain c = true)
    (h : Undisturbed y (s.dropWhile q) o o') : Undisturbed y s o o' := by
  have hw : Balanced (s.takeWhile q) := .of_plain fun c hc => hq c (List.mem_takeWhile_imp hc)
  simpa only [List.takeWhile_append_dropWhile] using h.behind hw

theorem skip (h : Undisturbed y (skip s) o o') : Undisturbed y s o o' :=
  h.dropWhile fun _ => isPlain_of_isSpace

theorem bind {f f' : α × List Char → Option (β × List Char)} (h : Undisturbed y s o o')
    (hf : ∀ a r, o = some (a, r) → Undisturbed y r (f (a, r)) (f' (a, r ++ ')' :: y))) :
    Undisturbed y s (o.bind f) (o'.bind f') := by
  cases ho : o with
  | none => exact refused.congr fun hs => by rw [h.same hs, ho]; rfl
  | some x =>
    obtain ⟨w, hw, rfl⟩ := h.balanced ho
    exact ((hf x.1 x.2 ho).behind hw).congr fun hs => by rw [h.same hs, ho]; rfl

theorem map (g : α → β) (h : Undisturbed y s o o') :
    Undisturbed y s (o.map fun x => (g x.1, x.2)) (o'.map fun x => (g x.1, x.2)) := by
  rw [Option.map_eq_bind, Option.map_eq_bind]
  exact h.bind fun a _ _ => returned (g a)

theorem orElse (h : Undisturbed y s o o') (hp : Undisturbed y s p p') :
    Undisturbed y s (o <|> p) (o' <|> p') := by
  cases ho : o with
  | none => exact hp.congr fun hs => by rw [h.same hs, ho]; rfl
  | some x => exact (ho ▸ h).congr fun hs => by rw [h.same hs, ho]; rfl

theorem getD (a : α) (h : Undisturbed y s o o') :
    Undisturbed y s (some (o.getD (a, s))) (some (o'.getD (a, s ++ ')' :: y))) := by
  cases ho : o with
  | none => exact (returned a).congr fun hs => by rw [h.same hs, ho]; rfl
  | some x => exact (ho ▸ h).congr fun hs => by rw [h.same hs, ho]; rfl

theorem many {step step' : Parser α}
    (h : ∀ t, t.length ≤ s.length → Undisturbed y t (step t) (step' (t ++ ')' :: y))) :
    Undisturbed y s (some (many step s)) (some (many step' (s ++ ')' :: y))) := by
  fun_induction Grammar.many step s with
  | case1 s hs =>
    refine (returned []).congr fun hu => congrArg some (many_of_none ?_)
    rw [(h s le_rfl).same hu, hs, Option.map_none]
  | case2 s a r hs hr others rest hmany ih =>
    obtain ⟨w, hw, rfl⟩ := (h s le_rfl).balanced hs
    have hrest := (ih fun t ht => h t (ht.trans hr.le)).behind hw
    rw [hmany] at hrest
    refine (hrest.map (a :: ·)).congr fun hu => ?_
    have hs' : step' (w ++ r ++ ')' :: y) = some (a, r ++ ')' :: y) := by
      rw [(h _ le_rfl).same hu, hs, Option.map_some]
    rw [many_of_some hs' (by simpa using hr), Option.map_some]
  | case3 s a r hs hr =>
    refine (returned []).congr fun hu => ?_
    have hs' : step' (s ++ ')' :: y) = some (a, r ++ ')' :: y) := by
      rw [(h s le_rfl).same hu, hs, Option.map_some]
    have hr' : ¬(r ++ ')' :: y).length < (s ++ ')' :: y).length := by simpa using hr
    rw [Grammar.many, hs']
    simp only [if_neg hr']

end Undisturbed

/-- Two parsers read short texts alike, the second one before a closing parenthesis. -/
def Steady (y : List Char) (n : Nat) (p p' : Parser α) : Prop :=
  ∀ s, s.length < n → Undisturbed y s (p s) (p' (s ++ ')' :: y))

namespace Steady

variable {n : Nat} {p p' q q' : Parser α}

theorem mono {m : Nat} (hp : Steady y n p p') (h : m ≤ n) : Steady y m p p' :=
  fun s hs => hp s (hs.trans_le h)

theorem returned (a : α) : Steady y n (fun s => some (a, s)) fun s => some (a, s) :=
  fun _ _ => .returned a

theorem skip (hp : Steady y n p p') : Steady y n (fun s => p (skip s)) fun s => p' (skip s) := by
  intro s hs
  have hlt : (Grammar.skip s).length < n := (List.length_dropWhile_le ..).trans_lt hs
  simpa only [skip_append_close] using (hp _ hlt).skip

theorem bind {f g : α × List Char → Option (β × List Char)} (hp : Steady y n p p')
    (hf : ∀ a, Steady y n (fun r => f (a, r)) fun r => g (a, r)) :
    Steady y n (fun s => (p s).bind f) fun s => (p' s).bind g :=
  fun s hs => (hp s hs).bind fun a r hr => hf a r (((hp s hs).length_le hr).trans_lt hs)

/-- What has been read is made into something else, and perhaps more is read. -/
theorem mapWith {f g : α × List Char → β × List Char} (hp : Steady y n p p')
    (hf : ∀ a, Steady y n (fun r => some (f (a, r))) fun r => some (g (a, r))) :
    Steady y n (fun s => (p s).map f) fun s => (p' s).map g := by
  simp only [Option.map_eq_bind]
  exact hp.bind hf

theorem map (g : α → β) (hp : Steady y n p p') :
    Steady y n (fun s => (p s).map fun x => (g x.1, x.2))
      fun s => (p' s).map fun x => (g x.1, x.2) :=
  fun s hs => (hp s hs).map g

theorem orElse (hp : Steady y n p p') (hq : Steady y n q q') :
    Steady y n (fun s => p s <|> q s) fun s => p' s <|> q' s :=
  fun s hs => (hp s hs).orElse (hq s hs)

theorem getD (a : α) (hp : Steady y n p p') :
    Steady y n (fun s => some ((p s).getD (a, s))) fun s => some ((p' s).getD (a, s)) :=
  fun s hs => (hp s hs).getD a

theorem many (hp : Steady y n p p') :
    Steady y n (fun s => some (many p s)) fun s => some (Grammar.many p' s) :=
  fun _ hs => .many fun t ht => hp t (ht.trans_lt hs)

/-! ### Words -/

theorem after {f g : Parser α} (hw : w.all isPlain = true) (hne : w ≠ []) (hf : Steady y n f g) :
    Steady y (n + 1) (fun s => (after? w s).bind f) fun s => (after? w s).bind g := by
  rw [List.all_eq_true] at hw
  intro s hs
  dsimp only
  rw [after?_close hw]
  cases ha : after? w s with
  | none => exact .refused
  | some r =>
    obtain rfl := eq_append_of_after? ha
    have hlt : r.length < n := by
      have := List.length_pos_iff.mpr hne
      rw [List.length_append] at hs
      omega
    exact (hf r hlt).behind (.of_plain hw)

theorem keyword (k : String) {f g : Parser α} (hk : k.toList.all isPlain = true)
    (hne : k.toList ≠ []) (hf : Steady y n f g) :
    Steady y (n + 1) (fun s => (keyword? k s).bind f) fun s => (keyword? k s).bind g := by
  have hplain := List.all_eq_true.mp hk
  intro s hs
  have hafter := after hk hne hf s hs
  dsimp only at hafter ⊢
  rw [keyword?_close hplain]
  rw [after?_close hplain] at hafter
  cases h : keyword? k s with
  | none => exact .refused
  | some r =>
    rw [(Option.filter_eq_some_iff.mp h).1] at hafter
    exact hafter

theorem word? {first other : Char → Bool} (hf : ∀ c, first c = true → isPlain c = true)
    (ho : ∀ c, other c = true → isPlain c = true) :
    Steady y n (word? first other) (word? first other) := by
  have hclose {p : Char → Bool} (hp : ∀ c, p c = true → isPlain c = true) : p ')' = false :=
    Bool.eq_false_iff.mpr fun h => ne_of_class (hp _ h) rfl rfl
  intro s _
  cases s with
  | nil => simpa [Grammar.word?, hclose hf] using .refused
  | cons c s =>
    simp only [Grammar.word?, List.cons_append, takeWhile_close (hclose ho),
      dropWhile_close (hclose ho)]
    split
    · rename_i hc
      have hw : Balanced [c] := .of_plain fun d hd => List.mem_singleton.mp hd ▸ hf c hc
      exact ((Undisturbed.returned _).dropWhile ho).behind hw
    · exact .refused

/-! ### Operators -/

theorem operator {table : List (Parser Unit × (Expr → Expr → Expr))}
    (h : ∀ row ∈ table, Steady y n row.1 row.1) :
    Steady y n (operator table) (operator table) := by
  induction table with
  | nil => exact fun _ _ => .refused
  | cons row table ih =>
    rw [List.forall_mem_cons] at h
    obtain ⟨p, f⟩ := row
    intro s hs
    rw [operator_cons, operator_cons]
    exact ((h.1 s hs).map fun _ => f).orElse (ih h.2 s hs)

theorem sign {text : String} (h : text.toList.all isPlain = true) (hne : text.toList ≠ []) :
    Steady y n (sign text) (sign text) := by
  have heq : Grammar.sign text = fun s => (after? text.toList s).bind fun r => some ((), r) :=
    funext fun _ => Option.map_eq_bind
  rw [heq]
  exact (after h hne (returned ())).mono n.le_succ

theorem wordOp {text : String} (h : text.toList.all isPlain = true) (hne : text.toList ≠ []) :
    Steady y n (wordOp text) (wordOp text) := by
  have heq : Grammar.wordOp text = fun s => (keyword? text s).bind fun r => some ((), r) :=
    funext fun _ => Option.map_eq_bind
  rw [heq]
  exact (keyword text h hne (returned ())).mono n.le_succ

/-- No operator has a parenthesis or a quotation mark in it. -/
theorem infixed (k : Precedence) : Steady y n (infixed k) (infixed k) := by
  cases k <;> exact operator (by simp [sign, wordOp, isPlain])

end Steady

/-! ## Operands before a parenthesis -/

namespace Steady

variable {n : Nat} {p p' : Parser Expr} {op op' : Infixed}

theorem tail (hop : Steady y n op op') (hp : Steady y n p p') :
    Steady y n (tail op p) (tail op' p') :=
  hop.skip.bind fun f => hp.skip.map fun e => (f, e)

theorem chain (hop : Steady y n op op') (hp : Steady y n p p') :
    Steady y n (chain op p) (chain op' p') := by
  have hextend (e : Expr) : Steady y n (fun r => some (extend op p e r))
      fun r => some (extend op' p' e r) := by
    let join (others : List ((Expr → Expr → Expr) × Expr)) : Expr :=
      others.foldl (fun left x => x.1 left x.2) e
    exact (tail hop hp).many.map join
  exact hp.mapWith hextend

theorem pair (hop : Steady y n op op') (hp : Steady y n p p') :
    Steady y n (pair op p) (pair op' p') := by
  have hsecond (e : Expr) := ((tail hop hp).map fun z => z.1 e z.2).getD e
  rw [pair_eq, pair_eq]
  exact hp.mapWith hsecond

theorem commaList (hp : Steady y n p p') : Steady y n (commaList p) (commaList p') := by
  have hcomma : Steady y n (afterComma p) (afterComma p') :=
    ((after rfl (List.cons_ne_nil _ _) hp.skip).mono n.le_succ).skip
  exact hp.mapWith fun e => hcomma.many.map (e :: ·)

theorem sequence (hp : Steady y n p p') : Steady y n (sequence p) (sequence p') :=
  hp.commaList.map ofItems

/-! ### Operands -/

theorem integer : Steady y n integer integer := by
  have hword : Steady y n (Grammar.word? Char.isDigit Char.isDigit)
      (Grammar.word? Char.isDigit Char.isDigit) :=
    word? (fun _ => isPlain_of_isDigit) fun _ => isPlain_of_isDigit
  exact hword.map fun digits => Expr.literal (integerLiteral digits)

theorem fraction (whole : List Char) : Steady y n (fraction whole) (fraction whole) := by
  intro r _
  simp only [Grammar.fraction, takeWhile_close (p := Char.isDigit) rfl,
    dropWhile_close (p := Char.isDigit) rfl]
  split
  · exact .refused
  · cases Decimal.Literal.ofText? (whole ++ '.' :: r.takeWhile Char.isDigit) with
    | none => exact .refused
    | some x => exact (Undisturbed.returned _).dropWhile fun _ => isPlain_of_isDigit

theorem double : Steady y n double double := by
  intro s hs
  have hpoint := after rfl (List.cons_ne_nil '.' [])
    (fraction (y := y) (n := n) (s.takeWhile Char.isDigit))
  have hlt : (s.dropWhile Char.isDigit).length < n + 1 :=
    (List.length_dropWhile_le ..).trans_lt (by omega)
  rw [double_eq, double_eq, takeWhile_close rfl, dropWhile_close rfl]
  exact (hpoint _ hlt).dropWhile fun _ => isPlain_of_isDigit

theorem reference : Steady y n reference reference := by
  have hword : Steady y n (Grammar.word? isNameStart isWordChar)
      (Grammar.word? isNameStart isWordChar) :=
    word? (fun _ h => isPlain_of_class h rfl rfl rfl rfl) fun _ => isPlain_of_isWordChar
  have hname := hword.map fun name => Expr.var (String.ofList name)
  rw [reference_eq]
  exact (after rfl (List.cons_ne_nil _ _) hname).mono n.le_succ

theorem bareName : Steady y n bareName bareName := by
  intro s hs
  have hkeyword : (keywords.any fun k => (keyword? k (s ++ ')' :: y)).isSome) =
      keywords.any fun k => (keyword? k s).isSome := by
    rw [Bool.eq_iff_iff, List.any_eq_true, List.any_eq_true]
    refine exists_congr fun k => and_congr_right fun hk => ?_
    rw [keyword?_close fun c hc => isPlain_of_isWordChar (isWordChar_of_mem_keyword hk c hc),
      Option.isSome_map]
  have hword : Steady y n (Grammar.word? isNameStart isBareChar)
      (Grammar.word? isNameStart isBareChar) :=
    word? (fun _ h => isPlain_of_class (p := isNameStart) h rfl rfl rfl rfl) fun _ h =>
      isPlain_of_class (p := isBareChar) h rfl rfl rfl rfl
  unfold Grammar.bareName
  rw [hkeyword]
  split
  · exact .refused
  · exact (hword s hs).map fun name => valueOfName (String.ofList name)

theorem string : Steady y n string string := by
  intro s hs
  cases s with
  | nil => exact .refused
  | cons mark s =>
    simp only [Grammar.string, List.cons_append]
    split
    · rename_i hmark
      have hm : mark = '"' ∨ mark = '\'' := by simpa using hmark
      have hopen (w : List Char) : outside.scan (mark :: w) = Nesting.scan ⟨some mark, 0⟩ w := by
        rw [scan_cons, outside_step_mark hm, Option.bind_some]
      have hquoted : Undisturbed y (mark :: s) (quoted mark s) (quoted mark (s ++ ')' :: y)) := by
        refine ⟨fun ho => ?_, fun hu => ?_⟩
        · obtain ⟨w, rfl, hw⟩ := scan_of_quoted hm ho
          exact ⟨mark :: w, (hopen w).trans hw, rfl⟩
        · cases hq : quoted mark s with
          | none =>
            -- The text would end inside the string.
            cases hu _ ((hopen s).trans (scan_of_quoted_eq_none hm hq))
          | some x => exact quoted_close hm hq
      exact hquoted.map fun value => Expr.literal (.string (String.ofList value))
    · exact .refused

end Steady

/-! ## Parentheses before a parenthesis -/

/-- Only white space stands before a closing parenthesis that is read. -/
theorem exists_of_close (h : after? [')'] (skip s) = some t) :
    ∃ v, Balanced v ∧ s = v ++ ')' :: t := by
  refine ⟨s.takeWhile isSpace, .of_plain fun d hd => isPlain_of_isSpace (List.mem_takeWhile_imp hd),
    ?_⟩
  calc
    s = s.takeWhile isSpace ++ skip s := List.takeWhile_append_dropWhile.symm
    _ = s.takeWhile isSpace ++ ')' :: t := by
      rw [eq_append_of_after? h, List.singleton_append]

namespace Steady

variable {n : Nat} {body body' : Parser α} {inner inner' : Parser Expr}

/-- A text that is not cut off goes on after what is read in parentheses. -/
theorem bracketed (h : Steady y n body body') :
    Steady y (n + 1) (bracketed body) (bracketed body') := by
  refine fun s hs => ?_
  cases s with
  | nil => exact .refused
  | cons c r =>
    by_cases hc : c = '('
    · subst hc
      simp only [Grammar.bracketed, List.cons_append, after?_cons_self, Option.bind_some]
      have hb := h r (Nat.lt_of_succ_lt_succ hs)
      cases hbody : body r with
      | none =>
        exact Undisturbed.refused.congr fun hu => by rw [hb.same hu.inside, hbody]; rfl
      | some x =>
        obtain ⟨a, u⟩ := x
        obtain ⟨w, hw, rfl⟩ := hb.balanced hbody
        simp only [Option.bind_some]
        refine ⟨fun ho => ?_, fun hu => ?_⟩
        · obtain ⟨t, ht, he⟩ := Option.bind_eq_some_iff.mp ho
          obtain ⟨v, hv, rfl⟩ := exists_of_close ht
          cases he
          exact ⟨_, (hw.append hv).enclosed, by simp⟩
        · rw [hb.same hu.inside, hbody]
          simp only [Option.map_some, Option.bind_some, skip_append_close]
          cases hrest : Grammar.skip u with
          | nil => exact absurd hrest (hu.skip_ne_nil hw)
          | cons d t =>
            rw [List.cons_append, after?_cons_cons, after?_cons_cons]
            split <;> rfl
    · simp only [Grammar.bracketed, List.cons_append, after?_cons_eq_none hc]
      exact .refused

theorem call (h : Steady y n inner inner') : Steady y (n + 1) (call inner) (call inner') := by
  have hargs := bracketed (h.commaList.getD []).skip
  have hword : Steady y (n + 1) (Grammar.word? Char.isAlpha isWordChar)
      (Grammar.word? Char.isAlpha isWordChar) :=
    word? (fun _ h => isPlain_of_class h rfl rfl rfl rfl) fun _ => isPlain_of_isWordChar
  rw [call_eq, call_eq]
  refine hword.bind fun name => ?_
  dsimp only
  exact hargs.skip.bind fun args => returned (Expr.call (String.ofList name) args)

theorem parenthesized (h : Steady y n inner inner') :
    Steady y (n + 1) (parenthesized inner) (parenthesized inner') := by
  rw [parenthesized_eq, parenthesized_eq]
  exact bracketed (h.sequence.getD (.sequence [])).skip

theorem conditional (h : Steady y n inner inner') :
    Steady y (n + 1) (conditional inner) (conditional inner') := by
  have hclause {p q : Parser Expr} (hp : Steady y (n + 1) p q) :
      Steady y n (fun s => p (Grammar.skip s)) fun s => q (Grammar.skip s) :=
    (hp.mono n.le_succ).skip
  rw [conditional_eq, conditional_eq]
  refine keyword "if" rfl (by simp) ((hclause (bracketed h.sequence.skip)).bind fun c => ?_)
  dsimp only
  refine hclause (keyword "then" rfl (by simp) (h.skip.bind fun yes => ?_))
  dsimp only
  exact hclause (keyword "else" rfl (by simp) (h.skip.bind fun no => returned (Expr.cond c yes no)))

theorem primary (h : Steady y n inner inner') : Steady y (n + 1) (primary inner) (primary inner') :=
  double.orElse (integer.orElse (string.orElse ((call h).orElse
    (reference.orElse (bareName.orElse (parenthesized h))))))

theorem unary (h : Steady y n inner inner') : Steady y (n + 1) (unary inner) (unary inner') := by
  intro s hs
  have hlt : (s.dropWhile isSign).length < n + 1 := (List.length_dropWhile_le ..).trans_lt hs
  rw [unary_eq, unary_eq, takeWhile_close rfl, dropWhile_close rfl]
  exact ((primary h _ hlt).map (Nat.repeat .negate ((s.takeWhile isSign).count '-'))).dropWhile
    fun _ h => isPlain_of_class h rfl rfl rfl rfl

theorem disjunction (h : Steady y n inner inner') :
    Steady y (n + 1) (disjunction inner) (disjunction inner') :=
  have product := chain (infixed .product) (unary h)
  have sum := chain (infixed .sum) product
  have range := pair (infixed .range) sum
  have comparison := pair (infixed .comparison) range
  have conjunction := chain (infixed .conjunction) comparison
  chain (infixed .disjunction) conjunction

/-- Parsers of any two depths read texts that are shorter alike. -/
theorem single (d d' : Nat) : Steady y (min d d') (single d) (single d') := by
  induction d generalizing d' with
  | zero => exact fun s hs => absurd hs (by simp)
  | succ d ih =>
    cases d' with
    | zero => exact fun s hs => absurd hs (by simp)
    | succ d' =>
      rw [Nat.succ_min_succ]
      exact (conditional (ih d')).orElse (disjunction (ih d'))

end Steady

/-! ## Whole texts in parentheses -/

/-- The closing parenthesis is found behind what has been read. -/
theorem bracketed_of_body {body : Parser α} {a : α} {u rest : List Char}
    (h : body s = some (a, u ++ ')' :: rest)) (hu : skip u = []) :
    bracketed body ('(' :: s) = some (a, rest) := by
  simp only [bracketed, after?_cons_self, Option.bind_some, h, skip_append_close, hu,
    List.nil_append]

/-- Parentheses hold as many expressions as a function has arguments. -/
theorem sequence_getD (inner : Parser Expr) (s : List Char) :
    (sequence inner s).getD (.sequence [], s) =
      (ofItems ((commaList inner s).getD ([], s)).1, ((commaList inner s).getD ([], s)).2) := by
  cases h : commaList inner s <;> simp [sequence, h, ofItems]

end XmlTemplate.Expr.Grammar

namespace XmlTemplate.Expr

open Grammar

variable {s b : List Char} {e : Expr}

/-- A text that parses is a list of expressions, and is one before a closing parenthesis too. -/
theorem exists_items_of_parse? (h : parse? s = some e) :
    ∃ items u, ofItems items = e ∧ skip u = [] ∧ ∀ d rest, s.length < d →
      (commaList (single d) (skip (s ++ ')' :: rest))).getD ([], skip (s ++ ')' :: rest)) =
        (items, u ++ ')' :: rest) := by
  have hlength : (skip s).length ≤ s.length := List.length_dropWhile_le ..
  have hread (d : Nat) (rest : List Char) (hd : s.length < d) :
      Undisturbed rest (skip s) (commaList (single ((skip s).length + 1)) (skip s))
        (commaList (single d) (skip s ++ ')' :: rest)) :=
    (Steady.single _ d).commaList (skip s) (by omega)
  rw [parse?] at h
  split at h
  · rename_i e' v hitems
    obtain ⟨⟨items, u⟩, hlist, he⟩ := Option.map_eq_some_iff.mp hitems
    cases he
    split at h
    · rename_i hu
      have hu : skip v = [] := List.isEmpty_iff.mp hu
      cases h
      refine ⟨items, v, rfl, hu, fun d rest hd => ?_⟩
      -- Nothing is open at the end of the text, which is read to its end.
      have huncut : Uncut (skip s) := by
        obtain ⟨w, hw, he⟩ := (hread (s.length + 1) [] (by omega)).balanced hlist
        have hv : Balanced v :=
          .of_plain fun c hc => isPlain_of_isSpace (List.dropWhile_eq_nil_iff.mp hu c hc)
        exact (he ▸ hw.append hv).uncut
      rw [skip_append_close, (hread d rest hd).same huncut, hlist]
      rfl
    · cases h
  · rename_i hitems
    split at h
    · rename_i hs
      have hs : skip s = [] := List.isEmpty_iff.mp hs
      cases h
      refine ⟨[], [], rfl, rfl, fun d rest hd => ?_⟩
      have huncut : Uncut (skip s) := hs ▸ Balanced.nil.uncut
      rw [skip_append_close, (hread d rest hd).same huncut, Option.map_eq_none_iff.mp hitems, hs]
      rfl
    · cases h

namespace Spells

/-- Whatever parses is an operand, between parentheses. -/
theorem parenthesized_of_parse? (h : parse? s = some e) :
    Spells .primary ('(' :: (s ++ [')'])) e := by
  obtain ⟨items, u, rfl, hu, hread⟩ := exists_items_of_parse? h
  refine ⟨starts_of_head rfl (by decide) (by decide), fun d hd rest _ => ?_⟩
  simp only [List.length_cons, List.length_append] at hd
  have htext : '(' :: (s ++ [')']) ++ rest = '(' :: (s ++ ')' :: rest) := by simp
  show Grammar.primary (single d) _ = some (ofItems items, rest)
  rw [htext, primary_parenthesis, parenthesized_eq]
  refine bracketed_of_body ?_ hu
  rw [sequence_getD, hread d rest (by omega)]

/-- What parses is the arguments of a function, between its parentheses. -/
theorem exists_call_of_parse? {name : String}
    (hn : isName Char.isAlpha isWordChar name.toList = true) (hk : name ∉ keywords)
    (hb : ∀ c ∈ b, isSpace c = true) (h : parse? s = some e) :
    ∃ args, ofItems args = e ∧
      Spells .primary (name.toList ++ (b ++ '(' :: (s ++ [')']))) (.call name args) := by
  obtain ⟨args, u, rfl, hu, hread⟩ := exists_items_of_parse? h
  have hend (t : List Char) : (b ++ '(' :: t).head?.any isWordChar = false := by
    cases b with
    | nil => rfl
    | cons c b => exact isWordChar_eq_false_of_isSpace (hb c List.mem_cons_self)
  refine ⟨args, rfl, ?_, fun d hd rest _ => ?_⟩
  · cases ht : b ++ '(' :: (s ++ [')']) with
    | nil => simp at ht
    | cons c t =>
      have hc := hend (s ++ [')'])
      rw [ht] at hc
      exact starts_of_name hn hk hc t
  · simp only [List.length_append, List.length_cons] at hd
    have htext : name.toList ++ (b ++ '(' :: (s ++ [')'])) ++ rest =
        name.toList ++ (b ++ '(' :: (s ++ ')' :: rest)) := by simp
    have hargs : bracketed (fun r => some ((commaList (single d) (skip r)).getD ([], skip r)))
        (skip (b ++ '(' :: (s ++ ')' :: rest))) = some (args, rest) := by
      rw [skip_blank hb rfl]
      exact bracketed_of_body (congrArg some (hread d rest (by omega))) hu
    show Grammar.primary (single d) _ = some (.call name args, rest)
    rw [htext]
    refine primary_call hn ?_
    rw [call_eq]
    simp only [word?_append hn (hend _), Option.bind_some, hargs, String.ofList_toList]

end Spells

end XmlTemplate.Expr
