import XmlTemplate.Proofs.Decimal.Numeral
import XmlTemplate.Proofs.Expansion.CounterLoop

/-!
# Where a counter takes its values from

A counter begins with the integer that the text of an expression's value writes, and goes on with
another one after each iteration. The text of a value is the one of all its items, without anything
between them, so digits of several items can come to be one numeral.

* `Sequence.WritesInteger`: the text of a sequence writes an integer, white space aside.
  `Sequence.Spliced`: it does, but no single item does it.
* `evalInteger_eq_ok_iff`, `evalInteger_of_unreadable`: what comes of an expression as an integer.
* `Takes`: in which states a `for` element evaluates an expression for its counter.
* `OneValue`: a counter takes its value from a single item, and nothing else will do.
  `oneValue_iff`: it is so where the value is not spliced, and nowhere else.
-/

namespace XmlTemplate

/-! ## Sequences that write an integer -/

namespace Expr.Sequence

variable {v : Sequence} {n : Int64}

/-- The text of a sequence writes an integer, white space at its ends aside. -/
def WritesInteger (v : Sequence) (n : Int64) : Prop :=
  Decimal.Signed (Text.trim v.text.toList) n.toInt

/-- An integer is written by several items together. -/
def Spliced (v : Sequence) : Prop := 1 < v.length ∧ ∃ n, v.WritesInteger n

theorem readSigned?_text_eq_some_iff :
    Decimal.readSigned? (Text.trim v.text.toList) = some n ↔ v.WritesInteger n :=
  Decimal.readSigned?_eq_some_iff

theorem readSigned?_text_eq_none_iff :
    Decimal.readSigned? (Text.trim v.text.toList) = none ↔ ∀ n, ¬ v.WritesInteger n := by
  rw [Option.eq_none_iff_forall_ne_some]
  exact forall_congr' fun n => not_congr readSigned?_text_eq_some_iff

theorem text_singleton (item : Value) : text [item] = item.text := by
  simp [text]

/-- Without items there is no text, and so no integer. -/
theorem not_writesInteger_nil : ¬ WritesInteger [] n := Decimal.not_signed_nil

/-- What writes an integer is a single item or spliced. -/
theorem WritesInteger.single_or_spliced (h : v.WritesInteger n) :
    (∃ item, v = [item]) ∨ v.Spliced := by
  match v, h with
  | [], h => exact absurd h not_writesInteger_nil
  | [item], _ => exact .inl ⟨item, rfl⟩
  | _ :: _ :: _, h => exact .inr ⟨by simp, n, h⟩

end Expr.Sequence

namespace Expansion

open Markup

variable {o : Options} {ws : Whitespace} {source : String} {s t : State} {v : Expr.Sequence}
  {n : Int64}

/-! ## Expressions as integers -/

/-- The integer of an expression is read from its value. -/
theorem evalInteger_eq_bind : Expander.evalInteger o ws source = (do
    let v ← Expander.evalExpr o ws source
    match Decimal.readSigned? (Text.trim v.text.toList) with
    | some n => return n
    | none => Expand.fail (.invalidExpression source (.notInteger v.text))) := by
  rw [← evalInteger_level, ← evalExpr_level, evalInteger, evalText, bind_assoc]
  exact bind_congr fun v => pure_bind _ _

theorem run_evalInteger (hv : (Expander.evalExpr o ws source).run s = (.ok v, t)) :
    (Expander.evalInteger o ws source).run s =
      (match Decimal.readSigned? (Text.trim v.text.toList) with
        | some n => .ok n
        | none => .error (.ofCause (.invalidExpression source (.notInteger v.text))), t) := by
  rw [evalInteger_eq_bind, Expand.run_bind, hv]
  dsimp only
  cases Decimal.readSigned? (Text.trim v.text.toList) <;> rfl

/-- An expression gives the integer that its value writes. -/
theorem evalInteger_eq_ok_iff : (Expander.evalInteger o ws source).run s = (.ok n, t) ↔
    ∃ v : Expr.Sequence, (Expander.evalExpr o ws source).run s = (.ok v, t) ∧
      v.WritesInteger n := by
  simp only [← Expr.Sequence.readSigned?_text_eq_some_iff]
  constructor
  · intro h
    match hv : (Expander.evalExpr o ws source).run s with
    | (.error e, u) =>
      rw [evalInteger_eq_bind, Expand.run_bind, hv] at h
      cases h
    | (.ok v, u) =>
      rw [run_evalInteger hv, Prod.mk.injEq] at h
      obtain ⟨hread, rfl⟩ := h
      refine ⟨v, rfl, ?_⟩
      split at hread
      · rename_i m hm
        rw [hm, Except.ok.inj hread]
      · cases hread
  · rintro ⟨v, hv, hread⟩
    rw [run_evalInteger hv, hread]

/-- A value that does not write an integer is refused with its text. -/
theorem evalInteger_of_unreadable (hv : (Expander.evalExpr o ws source).run s = (.ok v, t))
    (hn : ∀ n, ¬ v.WritesInteger n) : (Expander.evalInteger o ws source).run s =
      (.error (.ofCause (.invalidExpression source (.notInteger v.text))), t) := by
  rw [run_evalInteger hv, Expr.Sequence.readSigned?_text_eq_none_iff.mpr hn]

/-! ## Elements that take an integer -/

/-- A `for` element that is expanded from the state `s₀` evaluates `source` in the state `s`, for
what its counter begins with or for the next value of its counter. -/
inductive Takes (o : Options) (ws : Whitespace) (tag : Tag) (children : List Node) (s₀ : State)
    (source : String) (s : State) : Prop where
  | first (text : (Expander.interpolateText o (attributeValue tag "init-expr")).run s₀ =
    (.ok source, s))
  | next {t u v w : State} {first last : Int64} {bodies : List (List Node)} {nodes : List Node}
    (begins : (integerAttribute o ws tag "init-expr").run s₀ = (.ok first, t))
    (iterations : (forElement o ws tag children).Iterations t first bodies last u)
    (more : bodies.length < o.maxIterations)
    (test : (forElement o ws tag children).test.run
      ((forElement o ws tag children).start last u) = (.ok true, v))
    (body : (forElement o ws tag children).body.run v = (.ok nodes, w))
    (text : (Expander.interpolateText o (attributeValue tag "count-expr")).run w =
      (.ok source, s))

theorem run_integerAttribute {tag : Tag} {name : String} {s₀ : State}
    (htext : (Expander.interpolateText o (attributeValue tag name)).run s₀ = (.ok source, s)) :
    (integerAttribute o ws tag name).run s₀ = (Expander.evalInteger o ws source).run s := by
  rw [integerAttribute, Expand.run_bind, htext]

/-- What is not an integer is the failure of the element. -/
theorem Takes.outcome {tag : Tag} {children : List Node} {s₀ : State}
    (h : Takes o ws tag children s₀ source s) (hd : isDirective o tag "for" = true)
    (hc : missingAttributes tag (requiredAttributes .loop) = []) {e : Error}
    (he : (Expander.evalInteger o ws source).run s = (.error e, t)) (following : List Node) :
    (Expand.outcome (Expander.expandNode o ws (.element tag children) following) s₀).1 =
      .error e.cause := by
  rw [expandNode_of_directive rfl hd, Expand.outcome_locate, Expand.outcome]
  cases h with
  | first htext =>
    rw [directive_loop hc, Expand.run_bind, run_integerAttribute htext, he]
    rfl
  | next hbegins hiterations hmore htest hbody htext =>
    have hstep := (run_integerAttribute htext).trans he
    have hfails : (forElement o ws tag children).Ends _ _ _ (.error e) _ :=
      .fails (.step (Nat.sub_pos_of_lt hmore) htest hbody hstep)
    rw [run_directive_loop hc hbegins,
      CounterLoop.run_of_ends (Nat.le_of_lt hmore) hiterations hfails]
    rfl

/-! ## One item only -/

/-- A counter takes its value from a single item. An expression that gives an integer has a value of
one item, whose text writes the integer. Where a `for` element takes the value of its counter from
an expression of no item or of several items, it fails. -/
structure OneValue (o : Options) (ws : Whitespace) (source : String) (s : State) : Prop where
  single : ∀ n t, (Expander.evalInteger o ws source).run s = (.ok n, t) →
    ∃ item : Expr.Value, (Expander.evalExpr o ws source).run s = (.ok [item], t) ∧
      Decimal.Signed (Text.trim item.text.toList) n.toInt
  refused : ∀ tag children s₀, isDirective o tag "for" = true →
    missingAttributes tag (requiredAttributes .loop) = [] →
    Takes o ws tag children s₀ source s →
    ∀ v t, (Expander.evalExpr o ws source).run s = (.ok v, t) → v.length ≠ 1 →
    ∀ following,
      (Expand.outcome (Expander.expandNode o ws (.element tag children) following) s₀).1 =
        .error (.invalidExpression source (.notInteger v.text))

/-- An integer that is spliced has been taken from several items. -/
theorem OneValue.not_spliced (h : OneValue o ws source s)
    (hv : (Expander.evalExpr o ws source).run s = (.ok v, t)) : ¬ v.Spliced := by
  rintro ⟨hlength, n, hn⟩
  obtain ⟨item, hitem, -⟩ := h.single n t (evalInteger_eq_ok_iff.mpr ⟨v, hv, hn⟩)
  rw [hv] at hitem
  cases hitem
  exact absurd hlength (Nat.lt_irrefl 1)

/-- **A counter takes its value from a single item, unless several items splice an integer.** Then
the counter goes on with the integer that their texts make up together; any other value of several
items is refused, and so is one without items. -/
theorem oneValue_iff (o : Options) (ws : Whitespace) (source : String) (s : State) :
    OneValue o ws source s ↔
      ∀ v t, (Expander.evalExpr o ws source).run s = (.ok v, t) → ¬ v.Spliced := by
  constructor
  · exact fun h v t hv => h.not_spliced hv
  intro hs
  refine ⟨fun n t hn => ?_, fun tag children s₀ hd hc htakes v t hv hlength following => ?_⟩
  · obtain ⟨v, hv, hw⟩ := evalInteger_eq_ok_iff.mp hn
    obtain ⟨item, rfl⟩ | hspliced := hw.single_or_spliced
    · exact ⟨item, hv, Expr.Sequence.text_singleton item ▸ hw⟩
    · exact absurd hspliced (hs v t hv)
  · have hunreadable (n : Int64) : ¬ v.WritesInteger n := by
      intro hw
      obtain ⟨item, rfl⟩ | hspliced := hw.single_or_spliced
      · exact hlength rfl
      · exact hs v t hv hspliced
    exact htakes.outcome hd hc (evalInteger_of_unreadable hv hunreadable) following

/-- The items 1 and 2 splice the integer 12. -/
theorem not_oneValue_spliced : ¬ OneValue (.standard (Loader.ofTexts [])) .collapse "(1, 2)"
    (State.initial (.standard (Loader.ofTexts [])) none) := by
  intro h
  have hrun : ((Expander.evalExpr (.standard (Loader.ofTexts [])) .collapse "(1, 2)").run
      (State.initial (.standard (Loader.ofTexts [])) none)).1.toOption.map
        (fun v => (v.length, v.text)) = some (2, "12") := by decide +kernel
  obtain ⟨v, hv, htext⟩ := Option.map_eq_some_iff.mp hrun
  rw [Prod.mk.injEq] at htext
  refine h.not_spliced (Expand.run_of_toOption hv) ⟨by omega, 12, ?_⟩
  rw [← Expr.Sequence.readSigned?_text_eq_some_iff, htext.2]
  decide +kernel

end Expansion

end XmlTemplate
