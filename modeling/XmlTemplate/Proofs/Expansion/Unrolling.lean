import XmlTemplate.Proofs.Expansion.Directives
import XmlTemplate.Proofs.Expr.Operands

/-!
# Loops are scopes one after the other

A `count` or a `for-each` opens a frame for each iteration and binds its variable there, which is
what a `scope` does with its attributes. So such a loop can be unrolled: it stands for as many
scopes as it has iterations.

* `gather`: what the loops have in common. One computation for each of several things.
* `outcome_walk_append`: siblings each of which comes to one of these computations.
* `Numeral`, `IsCount`, `IsEach`: elements that are such loops.
* `ItemScope`: the scope that stands for an item.
* `loops_unroll`: a loop and its scopes have the same outcome.
-/

namespace XmlTemplate.Expansion

open Markup Interpolation

variable {ι : Type} {o : Options} {ws : Whitespace} {tag : Tag} {name : String} {body : List Node}

/-! ## One after the other -/

/-- Computations for several things, one after the other, whose results are joined to the siblings
in `before`, which are in reverse order. -/
def gather (run : ι → Expand (List Node)) : List ι → (before : List Node) → Expand (List Node)
  | [], before => return before.reverse
  | i :: rest, before => do
    let nodes ← run i
    gather run rest (pushNodes before nodes)

theorem gather_after (run : ι → Expand (List Node)) (items : List ι) (before : List Node) :
    gather run items before = after before (gather run items []) := by
  induction items generalizing before with
  | nil =>
    rw [gather, gather, after, pure_bind]
    rfl
  | cons i rest ih =>
    rw [gather, gather, after, bind_assoc]
    refine bind_congr fun nodes => ?_
    rw [ih (pushNodes before nodes), ih (pushNodes [] nodes)]
    exact (after_after before nodes _).symm

/-- Neighbouring texts are joined in what is gathered, so joining them again changes nothing. -/
theorem gather_bind {α : Type} (run : ι → Expand (List Node)) (items : List ι)
    (f : List Node → Expand α) :
    (do f (pushNodes [] (← gather run items []))) =
      (do f (← gather run items []).reverse) := by
  conv_rhs => rw [gather_after, after, bind_assoc]
  refine bind_congr fun nodes => ?_
  rw [pure_bind, List.reverse_reverse]

/-- An iteration that binds a name and then expands the body. -/
def iterate (name : String) (body : Expand (List Node)) (value : Symbol) : Expand (List Node) :=
  Expand.call do
    Expand.define name value
    body

theorem countLoop_eq (body : Expand (List Node)) (left index : Nat) (before : List Node) :
    countLoop name body left index before =
      gather (fun i => iterate name body (.text (toString i))) (List.range' index left) before := by
  induction left generalizing index before with
  | zero => rfl
  | succ left ih =>
    rw [countLoop, List.range'_succ, gather]
    exact bind_congr fun nodes => ih (index + 1) (pushNodes before nodes)

theorem eachLoop_eq (body : Expand (List Node)) (items : Expr.Sequence) (before : List Node) :
    eachLoop name body items before =
      gather (fun v => iterate name body (itemSymbol v)) items before := by
  induction items generalizing before with
  | nil => rfl
  | cons v rest ih =>
    rw [eachLoop, gather]
    exact bind_congr fun nodes => ih (pushNodes before nodes)

/-! ## Siblings -/

section Siblings

variable {run : ι → Expand (List Node)} {R : ι → Node → Prop} {items : List ι} {nodes : List Node}

/-- Siblings that come to computations for several things, whatever follows each of them, and
further ones after them. -/
theorem outcome_walk_append
    (hR : ∀ i n following, R i n →
      Expand.outcome (Expander.expandNode o ws n following) = Expand.outcome (run i))
    (h : List.Forall₂ R items nodes) (rest before : List Node) :
    Expand.outcome ((Expander.level o).walk ws (nodes ++ rest) before) =
      Expand.outcome (do
        (Expander.level o).walk ws rest (← gather run items before).reverse) := by
  induction h generalizing before with
  | nil => rw [gather, pure_bind, List.reverse_reverse, List.nil_append]
  | @cons i n items nodes hn _ ih =>
    -- what follows a node here is left of both lists, and it does not matter to the node
    rw [gather, bind_assoc]
    exact Expand.outcome_bind_congr (hR i n (nodes ++ rest) hn) fun _ => ih _

/-- From `s`, a node comes to the same as siblings from `t`, alone and before other siblings. -/
def Unrolls (o : Options) (ws : Whitespace) (n : Node) (s : State) (nodes : List Node) (t : State) :
    Prop :=
  ∀ rest, Expand.outcome (Expander.expandNode o ws n rest) s =
      Expand.outcome (Expander.expandNodes o ws nodes) t ∧
    Expand.outcome (Expander.expandNodes o ws (n :: rest)) s =
      Expand.outcome (Expander.expandNodes o ws (nodes ++ rest)) t

theorem unrolls_of_gather {n : Node} {s t : State}
    (hn : ∀ following, Expand.outcome (Expander.expandNode o ws n following) s =
      Expand.outcome (gather run items []) t)
    (hR : ∀ i n following, R i n →
      Expand.outcome (Expander.expandNode o ws n following) = Expand.outcome (run i))
    (h : List.Forall₂ R items nodes) : Unrolls o ws n s nodes t := by
  intro rest
  constructor
  · have hnodes := outcome_walk_append hR h [] []
    simp only [List.append_nil, Level.walk, List.reverse_reverse, bind_pure] at hnodes
    rw [expandNodes_eq_walk, hnodes, hn]
  -- before other siblings the loop joins its texts first, and the walk joins them once more
  · rw [expandNodes_eq_walk, expandNodes_eq_walk, outcome_walk_append hR h, ← gather_bind,
      Level.walk, Expand.outcome_bind, Expand.outcome_bind]
    rw [show (Expander.level o).first = Expander.expandNode o from rfl, hn]

end Siblings

/-! ## Numerals -/

theorem toList_toString (n : Nat) : (toString n).toList = Nat.toDigits 10 n := by
  show (Nat.repr n).toList = _
  rw [Nat.repr, String.toList_ofList]

theorem isDigit_of_mem_toString {n : Nat} {c : Char} (h : c ∈ (toString n).toList) :
    c.isDigit = true :=
  Nat.isDigit_of_mem_toDigits (by decide) (by decide) (toList_toString n ▸ h)

theorem isBrace_of_isDigit {c : Char} (h : c.isDigit = true) : isBrace c = false :=
  not_isBrace_of_class h rfl rfl

theorem isBlank_of_isDigit {c : Char} (h : c.isDigit = true) : Text.isBlank c = false := by
  simp only [Char.isDigit, Bool.and_eq_true, decide_eq_true_eq, ge_iff_le,
    UInt32.le_iff_toNat_le] at h
  have hrange : 48 ≤ c.toNat ∧ c.toNat ≤ 57 := h
  simp [Text.isBlank]
  omega

theorem toString_braceless (n : Nat) : (toString n).toList.any isBrace = false :=
  List.any_eq_false.mpr fun _ hc => by simp [isBrace_of_isDigit (isDigit_of_mem_toString hc)]

/-- A text that writes a natural number in decimal digits. White space around them does not
matter. -/
structure Numeral (text : String) (m : Nat) : Prop where
  braceless : text.toList.any isBrace = false
  digits : Decimal.ofDigits? 10 (Text.trim text.toList) = some m

/-- A number is a numeral as it is written. -/
theorem numeral_toString (m : Nat) : Numeral (toString m) m where
  braceless := toString_braceless m
  digits := by
    rw [Text.trim_of_forall fun c hc => isBlank_of_isDigit (isDigit_of_mem_toString hc),
      toList_toString, Decimal.ofDigits?_toDigits]

/-- A numeral begins with a digit, so that no sign is taken from it. -/
theorem Numeral.readUnsigned? {text : String} {m : Nat} (h : Numeral text m) (bound : Nat) :
    Decimal.readUnsigned? 10 bound (Text.trim text.toList) =
      if m ≤ bound then some m else none := by
  have hdigits := h.digits
  rw [Decimal.readUnsigned?, hdigits, Option.filter_some]
  · simp only [decide_eq_true_eq]
  · rintro r hplus
    rw [hplus] at hdigits
    cases hdigits

/-! ## Counting -/

/-- A `count` element with the name of a variable and a number. -/
structure IsCount (o : Options) (tag : Tag) (name text : String) (m : Nat) : Prop where
  named : isDirective o tag "count" = true
  name : tag.attribute? "name" = some name
  max : tag.attribute? "max" = some text
  numeral : Numeral text m

namespace IsCount

variable {text : String} {m : Nat} (h : IsCount o tag name text m)

include h

theorem loopCount (l : Level) : Expansion.loopCount o l tag =
    if m < UInt64.size then pure m else Expand.fail (.invalidExpression text .notCount) := by
  rw [Expansion.loopCount, expandedValue_of_braceless h.max h.numeral.braceless, pure_bind,
    h.numeral.readUnsigned?]
  by_cases hm : m < UInt64.size
  · rw [if_pos hm, if_pos (Nat.le_sub_one_of_lt hm)]
  · rw [if_neg hm, if_neg fun h => hm (Nat.lt_of_le_sub_one (by decide) h)]

theorem outcome (following : List Node) :
    Expand.outcome (Expander.expandNode o ws (.element tag body) following) =
      Expand.outcome (do
        let n ← Expansion.loopCount o (Expander.level o) tag
        countLoop name (Expander.expandNodes o ws body) n 1 []) := by
  have hc : missingAttributes tag (requiredAttributes .count) = [] := by
    simp [missingAttributes, requiredAttributes, h.name, h.max]
  rw [outcome_expandNode_of_directive rfl h.named hc, ← attributeValue_of_some h.name]
  rfl

theorem outcome_of_lt (hm : m < UInt64.size) (following : List Node) :
    Expand.outcome (Expander.expandNode o ws (.element tag body) following) =
      Expand.outcome (gather
        (fun i => iterate name (Expander.expandNodes o ws body) (.text (toString i)))
        (List.range' 1 m) []) := by
  rw [h.outcome, h.loopCount, if_pos hm, pure_bind, countLoop_eq]

theorem outcome_of_size_le (hm : UInt64.size ≤ m) (following : List Node) :
    Expand.outcome (Expander.expandNode o ws (.element tag body) following) =
      Expand.outcome (Expand.fail (.invalidExpression text .notCount)) := by
  rw [h.outcome, h.loopCount, if_neg (Nat.not_lt.mpr hm)]
  rfl

end IsCount

/-- A scope that binds a name to a text in which braces are doubled is an iteration. -/
theorem IsScope.outcome_iterate {text : String} {n : Node}
    (h : IsScope o [(name, doubled text)] body n) (following : List Node) :
    Expand.outcome (Expander.expandNode o ws n following) =
      Expand.outcome (iterate name (Expander.expandNodes o ws body) (.text text)) := by
  have hbindings : IsScope o ([(name, text)].map fun b => (b.1, doubled b.2)) body n := h
  rw [hbindings.outcome_expandNode, defineAll, defineAll, bind_pure_unit]
  rfl

/-- The scopes for the numbers up to `m` as they may be written. -/
def countScopes (o : Options) (name : String) (body : List Node) (m : Nat) : List Node :=
  (List.range' 1 m).map fun i => scopeNode o [(name, toString i)] body

theorem countScopes_spec (m : Nat) :
    List.Forall₂ (fun i => IsScope o [(name, toString i)] body) (List.range' 1 m)
      (countScopes o name body m) :=
  List.forall₂_map_right_iff.mpr (List.forall₂_same.mpr fun _ _ => isScope_scopeNode ..)

/-- Scopes without content give nothing, however many they are. -/
theorem outcome_expandNodes_emptyScopes {indices : List Nat} {scopes : List Node}
    (h : List.Forall₂ (fun i => IsScope o [(name, toString i)] []) indices scopes) :
    Expand.outcome (Expander.expandNodes o ws scopes) = Expand.outcome (pure []) := by
  have hgather (before : List Node) :
      gather (fun _ : Nat => pure []) indices before = pure before.reverse := by
    clear h
    induction indices with
    | nil => rfl
    | cons i rest ih => rw [gather, pure_bind]; exact ih
  have hempty (i : Nat) (n : Node) (following : List Node)
      (hn : IsScope o [(name, toString i)] [] n) :
      Expand.outcome (Expander.expandNode o ws n following) = Expand.outcome (pure []) := by
    rw [← doubled_of_braceless (toString_braceless i)] at hn
    rw [hn.outcome_iterate]
    rfl
  rw [expandNodes_eq_walk, ← List.append_nil scopes, outcome_walk_append hempty h, hgather]
  rfl

/-! ## Items -/

/-- A `for-each` element with the name of a variable and an expression. -/
structure IsEach (o : Options) (tag : Tag) (name source : String) : Prop where
  named : isDirective o tag "for-each" = true
  name : tag.attribute? "iterator-name" = some name
  source : tag.attribute? "iterator-expr" = some source

/-- The items that the expression of a `for-each` gives. Symbols in its text are expanded first. -/
def itemsOf (o : Options) (ws : Whitespace) (source : String) : Expand Expr.Sequence := do
  Expander.evalExpr o ws (← Expander.interpolateText o source)

theorem IsEach.outcome {source : String} (h : IsEach o tag name source) {s t : State}
    {items : Expr.Sequence}
    (hitems : (itemsOf o ws source).run s = (.ok items, t)) (following : List Node) :
    Expand.outcome (Expander.expandNode o ws (.element tag body) following) s =
      Expand.outcome (gather
        (fun v => iterate name (Expander.expandNodes o ws body) (itemSymbol v)) items []) t := by
  have hc : missingAttributes tag (requiredAttributes .each) = [] := by
    simp [missingAttributes, requiredAttributes, h.name, h.source]
  rw [itemsOf, ← interpolateText_level, ← evalExpr_level] at hitems
  rw [outcome_expandNode_of_directive rfl h.named hc]
  show Expand.outcome (do
    let source ← expandedValue o (Expander.level o) tag "iterator-expr"
    let items ← evalExpr o (Expander.level o) ws source
    eachLoop (attributeValue tag "iterator-name") (Expander.expandNodes o ws body) items []) s = _
  rw [expandedValue, attributeValue_of_some h.name, attributeValue_of_some h.source, ← bind_assoc,
    Expand.outcome, Expand.run_bind, hitems, ← eachLoop_eq]
  rfl

/-- The scope for an item. For an element it begins with a definition of its children; for any other
value the string value is the value of its attribute, with braces doubled. -/
inductive ItemScope (o : Options) (name : String) (body : List Node) :
    Expr.Value → Node → Prop where
  | element {tag : Tag} {content : List Node} {definition n : Node}
    (defines : IsDefine o name content definition) (scope : IsScope o [] (definition :: body) n) :
    ItemScope o name body (.node (.element tag content)) n
  | other {v : Expr.Value} {n : Node} (other : ∀ tag content, v ≠ .node (.element tag content))
    (scope : IsScope o [(name, doubled v.text)] body n) : ItemScope o name body v n

/-- The scope for an item as it may be written. -/
def itemScope (o : Options) (name : String) (body : List Node) : Expr.Value → Node
  | .node (.element _ content) => scopeNode o [] (defineNode o name content :: body)
  | v => scopeNode o [(name, doubled v.text)] body

theorem itemScope_spec (v : Expr.Value) : ItemScope o name body v (itemScope o name body v) := by
  cases v with
  | node n =>
    cases n with
    | element tag content =>
      exact .element (isDefine_defineNode o name content) (isScope_scopeNode ..)
    | _ => exact .other (by simp) (isScope_scopeNode ..)
  | _ => exact .other (by simp) (isScope_scopeNode ..)

/-- The scope for an item is the iteration for it. -/
theorem ItemScope.outcome {v : Expr.Value} {n : Node} (h : ItemScope o name body v n)
    (following : List Node) :
    Expand.outcome (Expander.expandNode o ws n following) =
      Expand.outcome (iterate name (Expander.expandNodes o ws body) (itemSymbol v)) := by
  cases h with
  | @element tag content definition n defines scope =>
    -- the definition binds the name when the frame is open already
    have hbindings : IsScope o (([] : List (String × String)).map fun b => (b.1, doubled b.2))
        (definition :: body) n := scope
    rw [hbindings.outcome_expandNode, defineAll, pure_bind]
    refine Expand.outcome_within_congr ?_
    rw [expandNodes_eq_walk, defines.outcome_walk, ← expandNodes_eq_walk]
    rfl
  | @other v n other scope =>
    have hsymbol : itemSymbol v = .text v.text := by
      cases v with
      | node n =>
        cases n with
        | element tag content => exact absurd rfl (other tag content)
        | _ => rfl
      | _ => rfl
    rw [hsymbol, scope.outcome_iterate]

/-! ## Unrolled loops -/

/-- **Loops unroll into scopes.** A `count` with a number that a 64-bit word holds comes to the same
as the scopes that bind its variable to 1, 2 and so on; a greater number is refused. A `for-each`
comes, from where its expression has been evaluated, to the same as the scopes for its items. Nodes,
states and causes of failures are the same, also if other siblings follow. -/
theorem loops_unroll (o : Options) (ws : Whitespace) (name : String) (body : List Node) :
    (∀ tag text m scopes s, IsCount o tag name text m → m < UInt64.size →
      List.Forall₂ (fun i => IsScope o [(name, toString i)] body) (List.range' 1 m) scopes →
      Unrolls o ws (.element tag body) s scopes s) ∧
    (∀ tag text m s following, IsCount o tag name text m → UInt64.size ≤ m →
      Expand.outcome (Expander.expandNode o ws (.element tag body) following) s =
        (.error (.invalidExpression text .notCount), s)) ∧
    ∀ tag source items scopes s t, IsEach o tag name source →
      (itemsOf o ws source).run s = (.ok items, t) →
      List.Forall₂ (ItemScope o name body) items scopes →
      Unrolls o ws (.element tag body) s scopes t := by
  refine ⟨fun tag text m scopes s h hm hscopes => ?_, fun tag text m s following h hm => ?_,
    fun tag source items scopes s t h hitems hscopes => ?_⟩
  · refine unrolls_of_gather (fun following => congrFun (h.outcome_of_lt hm following) s)
      (fun i n following hn => IsScope.outcome_iterate ?_ following) hscopes
    rwa [doubled_of_braceless (toString_braceless i)]
  · rw [h.outcome_of_size_le hm]
    rfl
  · exact unrolls_of_gather (h.outcome hitems) (fun _ _ following hn => hn.outcome following)
      hscopes

/-- A loop over the items of a symbol. -/
def overItemsTag : Tag :=
  directiveTag "for-each" [⟨.plain "iterator-name", "v"⟩, ⟨.plain "iterator-expr", "d"⟩]

/-- The symbol: a brace and an element. -/
def itemsState : State :=
  ⟨⟨⟨[("d", .nodes [.text "\x7b\x7b", .element ⟨.plain "e", [], none, none⟩ [.text "x"]])], []⟩, [],
    .ofCapacity 0⟩, 0⟩

/-- A loop to two, and a loop over a brace and an element. The text that follows is joined to the
text of the last iteration. -/
theorem loops_unroll_items :
    Unrolls (.standard (Loader.ofTexts [])) .collapse
        (.element (directiveTag "count" [⟨.plain "name", "v"⟩, ⟨.plain "max", "2"⟩])
          [.text "\x7bv\x7d"]) itemsState
        (countScopes (.standard (Loader.ofTexts [])) "v" [.text "\x7bv\x7d"] 2) itemsState ∧
      ∃ items t, (itemsOf (.standard (Loader.ofTexts [])) .collapse "d").run itemsState =
          (.ok items, t) ∧
        (Expand.outcome (Expander.expandNodes (.standard (Loader.ofTexts [])) .collapse
          (items.map (itemScope (.standard (Loader.ofTexts [])) "v" [.text "\x7bv\x7d"]) ++
            [.text "y"])) t).1.toOption.map Node.contentAll = some "\x7bxy" := by
  have hunroll := loops_unroll (.standard (Loader.ofTexts [])) .collapse "v" [.text "\x7bv\x7d"]
  have hcount : IsCount (.standard (Loader.ofTexts [])) (directiveTag "count"
      [⟨.plain "name", "v"⟩, ⟨.plain "max", "2"⟩]) "v" "2" 2 := ⟨rfl, rfl, rfl, numeral_toString 2⟩
  have heach : IsEach (.standard (Loader.ofTexts [])) overItemsTag "v" "d" := ⟨rfl, rfl, rfl⟩
  have hitems : ((itemsOf (.standard (Loader.ofTexts [])) .collapse "d").run
      itemsState).1.toOption.isSome = true := by decide +kernel
  obtain ⟨items, hitems⟩ := Option.isSome_iff_exists.mp hitems
  have hscopes : List.Forall₂
      (ItemScope (.standard (Loader.ofTexts [])) "v" [.text "\x7bv\x7d"]) items
        (items.map (itemScope (.standard (Loader.ofTexts [])) "v" [.text "\x7bv\x7d"])) :=
    List.forall₂_map_right_iff.mpr (List.forall₂_same.mpr fun v _ => itemScope_spec v)
  refine ⟨hunroll.1 _ _ 2 _ _ hcount (by decide) (countScopes_spec 2), items, _,
    Expand.run_of_toOption hitems, ?_⟩
  rw [← (hunroll.2.2 _ _ _ _ _ _ heach (Expand.run_of_toOption hitems) hscopes _).2]
  decide +kernel

/-- A loop to the first number that a 64-bit word does not hold. -/
def beyondTag : Tag :=
  directiveTag "count" [⟨.plain "name", "i"⟩, ⟨.plain "max", "18446744073709551616"⟩]

/-- It is refused, where so many scopes without content would give nothing. -/
theorem loops_unroll_not_beyond :
    IsCount (.standard (Loader.ofTexts [])) beyondTag "i" "18446744073709551616" UInt64.size ∧
      List.Forall₂ (fun i => IsScope (.standard (Loader.ofTexts [])) [("i", toString i)] [])
        (List.range' 1 UInt64.size)
        (countScopes (.standard (Loader.ofTexts [])) "i" [] UInt64.size) ∧
      (Expand.outcome (Expander.expandNode (.standard (Loader.ofTexts [])) .collapse
        (.element beyondTag []) []) itemsState).1 =
          .error (.invalidExpression "18446744073709551616" .notCount) ∧
      (Expand.outcome (Expander.expandNodes (.standard (Loader.ofTexts [])) .collapse
        (countScopes (.standard (Loader.ofTexts [])) "i" [] UInt64.size)) itemsState).1 =
          .ok [] := by
  have hcount : IsCount (.standard (Loader.ofTexts [])) beyondTag "i" "18446744073709551616"
      UInt64.size := ⟨rfl, rfl, rfl, by decide +kernel, by decide +kernel⟩
  refine ⟨hcount, countScopes_spec _, ?_, ?_⟩
  · rw [hcount.outcome_of_size_le (Nat.le_refl _)]
    rfl
  · rw [outcome_expandNodes_emptyScopes (countScopes_spec _)]
    rfl

end XmlTemplate.Expansion
