import XmlTemplate.Proofs.Expansion.Outcome
import XmlTemplate.Proofs.Expansion.Termination

/-!
# Conditionals

A conditional looks for its `else` among the siblings that follow it, and later the walk over the
siblings comes to the same `else` once more. Still one of the two branches is expanded, and only
once: on its own an `else` gives nothing.

* `Conditional`, `condition`: the directives that choose, and what they decide on.
* `Between`: what may stand before an `else`. `Alternative`: the branch that follows a conditional,
  and what is left of the siblings. `Alternative.exists`: there always is one.
* `run_skip`: a walk over siblings does not notice an `else`.
* `conditional_chooses`: the condition, then one branch, then the other siblings.
-/

namespace XmlTemplate.Expansion

open Markup

/-! ## Conditions -/

/-- The directives that choose. -/
inductive Conditional where
  | ifTrue | ifDefined | ifUndefined

namespace Conditional

/-- The local name of the element. -/
def localName : Conditional → String
  | ifTrue => "if"
  | ifDefined => "ifdef"
  | ifUndefined => "ifndef"

/-- The directive that a conditional is. -/
def directive : Conditional → Directive
  | ifTrue => .ifTrue
  | ifDefined => .ifDefined
  | ifUndefined => .ifUndefined

theorem ofName?_localName (c : Conditional) : Directive.ofName? c.localName = some c.directive := by
  cases c <;> rfl

/-- A tag of a conditional that has its attributes. -/
structure Heads (o : Options) (c : Conditional) (tag : Tag) : Prop where
  named : isDirective o tag c.localName = true
  complete : missingAttributes tag (requiredAttributes c.directive) = []

variable (o : Options) (ws : Whitespace) (tag : Tag)

/-- What a conditional decides on. -/
def condition : Conditional → Expand Bool
  | ifTrue => do
    Expander.evalTruth o ws (← Expander.interpolateText o (attributeValue tag "expr"))
  | ifDefined => return (← Expand.environment).isDefined (attributeValue tag "name")
  | ifUndefined => return !(← Expand.environment).isDefined (attributeValue tag "name")

/-- Evaluates the condition and expands one of two lists of siblings. -/
def choose (c : Conditional) (body otherwise : List Node) : Expand (List Node) := do
  let holds ← c.condition o ws tag
  Expander.expandNodes o ws (if holds then body else otherwise)

end Conditional

/-! ## Alternatives -/

/-- What may stand between a conditional and its `else`: white space, or a comment. -/
inductive Between : Node → Prop where
  | blank {value : String} (h : ∀ c ∈ value.toList, Text.isBlank c = true) : Between (.text value)
  | comment (value : String) : Between (.comment value)

/-- The siblings that follow a conditional: those in the `else` that is its other branch, and those
that are left without this `else`. There is no other branch if what comes first, blank text and
comments apart, is no `else`. -/
inductive Alternative (o : Options) : (rest otherwise others : List Node) → Prop where
  | found (between : List Node) {tag : Tag} (body following : List Node)
    (hb : ∀ n ∈ between, Between n) (he : isDirective o tag "else" = true) :
    Alternative o (between ++ .element tag body :: following) body (between ++ following)
  | missing {rest : List Node}
    (h : ∀ between tag body following, rest = between ++ .element tag body :: following →
      (∀ n ∈ between, Between n) → isDirective o tag "else" = false) :
    Alternative o rest [] rest

/-- It is over these nodes that an `else` is looked for. -/
theorem isBetween_iff {n : Node} : isBetween n = true ↔ Between n := by
  constructor
  · intro h
    cases n with
    | text value =>
      exact .blank (by simpa [isBetween, Node.isBlankText, Text.allBlank, Node.kind] using h)
    | comment value => exact .comment value
    | _ => cases h
  · rintro (h | value)
    · simpa [isBetween, Node.isBlankText, Text.allBlank, Node.kind] using h
    · rfl

theorem Between.not_element {n : Node} (h : Between n) (tag : Tag) (children : List Node) :
    n ≠ .element tag children := by
  rintro rfl
  cases h

/-- Whatever follows a conditional, there is an other branch, which may be empty. -/
theorem Alternative.exists (o : Options) (rest : List Node) :
    ∃ otherwise others, Alternative o rest otherwise others := by
  by_cases h : ∃ between tag body following, rest = between ++ .element tag body :: following ∧
      (∀ n ∈ between, Between n) ∧ isDirective o tag "else" = true
  · obtain ⟨between, tag, body, following, rfl, hb, he⟩ := h
    exact ⟨body, between ++ following, .found between body following hb he⟩
  · exact ⟨[], rest, .missing fun between tag body following hrest hb =>
      Bool.eq_false_iff.mpr fun he => h ⟨between, tag, body, following, hrest, hb, he⟩⟩

section Level

variable {o : Options}

/-- An element is one directive only. -/
theorem isDirective_of_ne {tag : Tag} {a b : String} (h : isDirective o tag a = true)
    (hne : a ≠ b) : isDirective o tag b = false := by
  rw [isDirective, QName.isNamed, Bool.and_eq_true, beq_iff_eq] at h
  rw [isDirective, QName.isNamed, h.2, beq_eq_false_iff_ne.mpr hne, Bool.and_false]

/-- On its own an `else` gives nothing. -/
theorem expandNode_of_else {tag : Tag} (h : isDirective o tag "else" = true) (l : Level)
    (ws : Whitespace) (body : List Node) (otherwise : Expand (List Node)) :
    expandNode o l ws (.element tag body) otherwise = pure [] := by
  rw [isDirective, QName.isNamed, Bool.and_eq_true, beq_iff_eq] at h
  rw [expandNode, expandElement, if_pos h.1, h.2]
  rfl

/-- Blank text and comments are passed on the way to an `else`. -/
theorem expandElse_append {between : List Node} (hb : ∀ n ∈ between, Between n) (l : Level)
    (ws : Whitespace) (rest : List Node) :
    expandElse o l ws (between ++ rest) = expandElse o l ws rest := by
  induction between with
  | nil => rfl
  | cons n others ih =>
    obtain ⟨hn, hothers⟩ := List.forall_mem_cons.mp hb
    rw [List.cons_append, expandElse_of_leaf hn.not_element, if_pos (isBetween_iff.mpr hn),
      ih hothers]

/-- The `else` that follows a conditional is expanded as the list of its children. -/
theorem Alternative.expandElse_eq {rest otherwise others : List Node}
    (h : Alternative o rest otherwise others) (l : Level) (ws : Whitespace) :
    expandElse o l ws rest = expandNodes o l ws otherwise [] := by
  cases h with
  | found between body following hb he =>
    rw [expandElse_append hb, expandElse, if_pos he]
  | missing h =>
    rw [expandNodes]
    induction rest with
    | nil => rw [expandElse]; rfl
    | cons n rest ih =>
      by_cases hn : Between n
      · rw [expandElse_of_leaf hn.not_element, if_pos (isBetween_iff.mpr hn)]
        exact ih fun between tag body following hrest hb =>
          h (n :: between) tag body following (by rw [hrest]; rfl)
            (List.forall_mem_cons.mpr ⟨hn, hb⟩)
      · cases n with
        | element tag body =>
          have he := h [] tag body rest rfl (List.forall_mem_nil _)
          rw [expandElse, he]
          rfl
        | _ =>
          rw [expandElse_of_leaf (fun _ _ e => by cases e), if_neg (mt isBetween_iff.mp hn)]
          rfl

end Level

/-! ## Walks over siblings -/

/-- Blank text, a comment or an `else`. -/
inductive Passed (o : Options) : Node → Prop where
  | between {n : Node} (h : Between n) : Passed o n
  | otherwise {tag : Tag} (body : List Node) (h : isDirective o tag "else" = true) :
    Passed o (.element tag body)

theorem Passed.kind {o : Options} {n : Node} (h : Passed o n) :
    n.kind ≠ .declaration ∧ n.kind ≠ .doctype := by
  cases h with
  | otherwise => exact ⟨by rintro ⟨⟩, by rintro ⟨⟩⟩
  | between h => cases h <;> exact ⟨by rintro ⟨⟩, by rintro ⟨⟩⟩

/-- A walk that goes from sibling to sibling by `call` does not notice an `else` that gives
nothing, wherever it comes to one. -/
theorem run_skip {α : Type} {o : Options} (walk : List Node → List Node → Expand α)
    (call : Node → List Node → Expand (List Node)) (reached : State → Prop)
    (hstep : ∀ n rest before, Passed o n →
      walk (n :: rest) before = (do walk rest (pushNodes before (← call n rest))))
    (hcall : ∀ n rest rest', Between n → call n rest = call n rest')
    (hkept : ∀ n rest s, reached s → reached ((call n rest).run s).2)
    (helse : ∀ tag body rest s, isDirective o tag "else" = true → reached s →
      (call (.element tag body) rest).run s = (.ok [], s))
    {rest otherwise others : List Node} (h : Alternative o rest otherwise others)
    (before : List Node) {s : State} (hs : reached s) :
    (walk rest before).run s = (walk others before).run s := by
  cases h with
  | missing => rfl
  | @found between tag _ following hb he =>
    induction between generalizing before s with
    | nil =>
      rw [List.nil_append, hstep _ _ _ (.otherwise otherwise he), Expand.run_bind,
        helse tag otherwise following s he hs]
      rfl
    | cons n between ih =>
      obtain ⟨hn, hbetween⟩ := List.forall_mem_cons.mp hb
      have hs' := hkept n (between ++ .element tag otherwise :: following) s hs
      rw [List.cons_append, List.cons_append, hstep _ _ _ (.between hn),
        hstep _ _ _ (.between hn), Expand.run_bind, Expand.run_bind,
        hcall n (between ++ following) (between ++ .element tag otherwise :: following) hn]
      revert hs'
      obtain ⟨r, t⟩ := (call n (between ++ .element tag otherwise :: following)).run s
      cases r with
      | error e => exact fun _ => rfl
      | ok nodes => exact fun ht => ih _ ht hbetween

section Walks

variable {o : Options} {rest otherwise others : List Node}

/-- Blank text and comments do not depend on what follows them. -/
theorem level_first_of_between {n : Node} (h : Between n) (ws : Whitespace)
    (rest rest' : List Node) :
    (Expander.level o).first ws n rest = (Expander.level o).first ws n rest' := by
  rw [first_eq (level_above o), first_eq (level_above o),
    expandNode_of_leaf h.not_element, expandNode_of_leaf h.not_element]

theorem level_first_of_else {tag : Tag} (h : isDirective o tag "else" = true) (ws : Whitespace)
    (body rest : List Node) : (Expander.level o).first ws (.element tag body) rest = pure [] := by
  rw [first_eq (level_above o)]
  exact expandNode_of_else h _ ws body _

/-- What is done one level deeper comes back to the level. -/
theorem descend_first_depth (ws : Whitespace) (n : Node) (rest : List Node) {s : State}
    (hs : s.depth < o.maxDepth) :
    ((Expand.descend o.maxDepth ((Expander.level o).first ws n rest)).run s).2.depth =
      s.depth := by
  have hdepth := level_restores (o := o) ⟨.first ws n rest, { s with depth := s.depth + 1 }⟩
  dsimp only [Level.answer, Level.run] at hdepth
  rw [Expand.run_descend, if_neg (by omega)]
  dsimp only
  omega

theorem expandNodes_eq_walk (o : Options) (ws : Whitespace) (nodes : List Node) :
    Expander.expandNodes o ws nodes = (Expander.level o).walk ws nodes [] :=
  (siblings_eq (level_above o) ws nodes).trans (walk_eq (level_above o) ws nodes []).symm

variable (h : Alternative o rest otherwise others) (ws : Whitespace)

include h

theorem Alternative.expandNodes_eq :
    Expander.expandNodes o ws rest = Expander.expandNodes o ws others := by
  rw [expandNodes_eq_walk, expandNodes_eq_walk]
  funext s
  exact run_skip _ ((Expander.level o).first ws) (fun _ => True) (fun _ _ _ _ => rfl)
    (fun n rest rest' hn => level_first_of_between hn ws rest rest') (fun _ _ _ => id)
    (fun tag body rest s he _ => by rw [level_first_of_else he]; rfl) h [] trivial

theorem Alternative.expandTop_eq (before : List Node) :
    Expander.expandTop o ws rest before = Expander.expandTop o ws others before := by
  funext s
  refine run_skip _ ((Expander.level o).first ws) (fun _ => True)
    (fun n rest before hn => ?_)
    (fun n rest rest' hn => level_first_of_between hn ws rest rest') (fun _ _ _ => id)
    (fun tag body rest s he _ => by rw [level_first_of_else he]; rfl) h before trivial
  cases n with
  | declaration => exact absurd rfl hn.kind.1
  | doctype => exact absurd rfl hn.kind.2
  | _ => rfl

/-- In an element that is built, an `else` takes a level for nothing, which is there if the
conditional before it has taken one. -/
theorem Alternative.run_elementParts (attributes : List Attribute) (before : List Node) {s : State}
    (hs : s.depth < o.maxDepth) :
    (elementParts o (Expander.level o) ws rest attributes before).run s =
      (elementParts o (Expander.level o) ws others attributes before).run s := by
  refine run_skip
    (fun nodes before => elementParts o (Expander.level o) ws nodes attributes before)
    (fun n rest => Expand.descend o.maxDepth ((Expander.level o).first ws n rest))
    (fun s => s.depth < o.maxDepth)
    (fun n rest before hn => ?_)
    (fun n rest rest' hn => by rw [level_first_of_between hn ws rest rest'])
    (fun n rest s hs => by rwa [descend_first_depth ws n rest hs])
    (fun tag body rest s he hs => ?_) h before hs
  · cases hn with
    | between hn => exact elementParts_of_leaf hn.not_element ..
    | @otherwise tag body he =>
      rw [elementParts, isDirective_of_ne he (by decide)]
      rfl
  · rw [level_first_of_else he, Expand.run_descend, if_neg (by omega)]
    rfl

end Walks

/-! ## Conditionals -/

/-- What a conditional does: it evaluates its condition and takes one of its branches. -/
theorem actOn_conditional (o : Options) (c : Conditional) (ws : Whitespace) (tag : Tag)
    (children : List Node) (parts : Parts) :
    actOn o (Expander.level o) ws c.directive tag children parts =
      (do branch ws parts (← c.condition o ws tag)) := by
  cases c with
  | ifTrue =>
    have htext : Expander.interpolateText o = interpolateText o (Expander.level o) :=
      funext fun text => operation_level (.interpolateText text)
    have htruth : Expander.evalTruth o ws = evalTruth o (Expander.level o) ws :=
      funext fun expr => operation_level (.evalTruth ws expr)
    rw [Conditional.condition, htext, htruth, bind_assoc]
    rfl
  | ifDefined | ifUndefined => rfl

section Conditionals

variable {o : Options} {c : Conditional} {tag : Tag} (hc : c.Heads o tag) (ws : Whitespace)
  (body : List Node) {rest otherwise others : List Node}
  (h : Alternative o rest otherwise others)

include hc h

/-- A conditional is its condition and one of two lists of siblings. -/
theorem outcome_expandNode_conditional :
    Expand.outcome (Expander.expandNode o ws (.element tag body) rest) =
      Expand.outcome (c.choose o ws tag body otherwise) := by
  obtain ⟨hnamed, hcomplete⟩ := hc
  rw [isDirective, QName.isNamed, Bool.and_eq_true, beq_iff_eq] at hnamed
  rw [show Expander.expandNode o = (Expander.level o).first from rfl, first_eq (level_above o),
    expandNode, Expand.outcome_locate, expandElement, if_pos hnamed.1, hnamed.2,
    c.ofName?_localName]
  dsimp only
  rw [runDirective, requireAttributes, hcomplete]
  refine congrArg Expand.outcome ((actOn_conditional o c ws tag body _).trans ?_)
  -- the two branches are expanded as lists of their own
  refine bind_congr fun holds => ?_
  cases holds with
  | true => exact (siblings_eq (level_above o) ws body).symm
  | false => exact (h.expandElse_eq _ ws).trans (siblings_eq (level_above o) ws otherwise).symm

/-- Siblings that begin with a conditional. -/
theorem outcome_expandNodes_conditional :
    Expand.outcome (Expander.expandNodes o ws (.element tag body :: rest)) =
      Expand.outcome (do
        let chosen ← c.choose o ws tag body otherwise
        let more ← Expander.expandNodes o ws others
        return merged (chosen ++ more)) := by
  have hrest (nodes : List Node) : (Expander.level o).walk ws rest (pushNodes [] nodes) =
      (do
        let more ← Expander.expandNodes o ws others
        return merged (nodes ++ more)) := by
    rw [walk_eq (level_above o), expandNodes_after, ← h.expandNodes_eq ws,
      expandNodes_eq_walk, walk_eq (level_above o)]
    simp only [merged, pushNodes_append]
    rfl
  rw [expandNodes_eq_walk, Level.walk]
  exact Expand.outcome_bind_congr (outcome_expandNode_conditional hc ws body h) fun nodes =>
    congrArg _ (hrest nodes)

/-- A document that begins with a conditional. -/
theorem outcome_expandDocument_conditional (uri : Option Uri) :
    Expand.outcome (Expander.expandDocument o ws ⟨uri, .element tag body :: rest⟩) =
      Expand.outcome (do
        let chosen ← c.choose o ws tag body otherwise
        let more ← Expander.expandDocument o ws ⟨uri, others⟩
        return merged (chosen ++ more)) := by
  have hrest (nodes : List Node) : Expander.expandTop o ws rest (pushNodes [] nodes) =
      (do
        let more ← Expander.expandDocument o ws ⟨uri, others⟩
        return merged (nodes ++ more)) := by
    rw [h.expandTop_eq, expandTop_after, Expander.expandDocument]
    simp only [merged, pushNodes_append]
    rfl
  exact Expand.outcome_bind_congr (outcome_expandNode_conditional hc ws body h) fun nodes =>
    congrArg _ (hrest nodes)

/-- An element that is built from a conditional and its siblings: each of them is one level
deeper. -/
theorem outcome_elementParts_conditional (attributes : List Attribute) (before : List Node) :
    Expand.outcome (elementParts o (Expander.level o) ws (.element tag body :: rest) attributes
        before) =
      Expand.outcome (do
        let chosen ← Expand.descend o.maxDepth (c.choose o ws tag body otherwise)
        elementParts o (Expander.level o) ws others attributes (pushNodes before chosen)) := by
  have hattribute : isDirective o tag "attribute" = false :=
    isDirective_of_ne hc.named (by cases c <;> decide)
  have hchosen : Expand.outcome (Expand.descend o.maxDepth
        ((Expander.level o).first ws (.element tag body) rest)) =
      Expand.outcome (Expand.descend o.maxDepth (c.choose o ws tag body otherwise)) :=
    Expand.outcome_descend_congr o.maxDepth (outcome_expandNode_conditional hc ws body h)
  funext s
  rw [elementParts, hattribute, if_neg (by decide), Expand.outcome_bind, Expand.outcome_bind,
    ← hchosen]
  split
  · rename_i chosen t hm
    have ht : t.depth < o.maxDepth := by
      have ht : ((Expand.descend o.maxDepth
          ((Expander.level o).first ws (.element tag body) rest)).run s).2 = t :=
        congrArg Prod.snd hm
      by_cases hs : s.depth < o.maxDepth
      · rw [← ht]
        exact (descend_first_depth ws (.element tag body) rest hs).trans_lt hs
      · rw [Expand.outcome, Expand.run_descend, if_pos (by omega)] at hm
        cases hm
    unfold Expand.outcome
    rw [h.run_elementParts ws attributes _ ht]
  · rfl

end Conditionals

/-- In one state, an `ifdef` and an `ifndef` for the same name take opposite branches. -/
theorem choose_opposite (o : Options) (ws : Whitespace) (s : State) {tag tag' : Tag}
    (h : attributeValue tag' "name" = attributeValue tag "name") (body otherwise : List Node) :
    (Conditional.ifDefined.choose o ws tag body otherwise).run s =
        (Expander.expandNodes o ws (if s.environment.isDefined (attributeValue tag "name") then body
          else otherwise)).run s ∧
      (Conditional.ifUndefined.choose o ws tag' body otherwise).run s =
        (Expander.expandNodes o ws (if s.environment.isDefined (attributeValue tag "name") then
          otherwise else body)).run s := by
  have hundefined : (Conditional.ifUndefined.choose o ws tag' body otherwise).run s =
      (Expander.expandNodes o ws (if !s.environment.isDefined (attributeValue tag' "name") then body
        else otherwise)).run s := rfl
  refine ⟨rfl, ?_⟩
  rw [hundefined, h]
  cases s.environment.isDefined (attributeValue tag "name") <;> rfl

/-- **Conditionals choose one branch.** A conditional that has its attributes evaluates its
condition, and expands its children as a list of their own if it holds, those of its `else` if it
does not. What follows are the other siblings, where the `else` stands no longer. That is so for a
single node, among siblings, in a document, and in an element that is built: results, states and
causes of failures are the same. An `else` on its own gives nothing. In one state, an `ifdef` and
an `ifndef` for the same name take opposite branches. -/
theorem conditional_chooses {o : Options} {c : Conditional} {tag : Tag} (hc : c.Heads o tag)
    (ws : Whitespace) (body : List Node) {rest otherwise others : List Node}
    (h : Alternative o rest otherwise others) :
    Expand.outcome (Expander.expandNode o ws (.element tag body) rest) =
        Expand.outcome (c.choose o ws tag body otherwise) ∧
      Expand.outcome (Expander.expandNodes o ws (.element tag body :: rest)) =
        Expand.outcome (do
          let chosen ← c.choose o ws tag body otherwise
          let more ← Expander.expandNodes o ws others
          return merged (chosen ++ more)) ∧
      (∀ uri, Expand.outcome (Expander.expandDocument o ws ⟨uri, .element tag body :: rest⟩) =
        Expand.outcome (do
          let chosen ← c.choose o ws tag body otherwise
          let more ← Expander.expandDocument o ws ⟨uri, others⟩
          return merged (chosen ++ more))) ∧
      (∀ attributes before,
        Expand.outcome (elementParts o (Expander.level o) ws (.element tag body :: rest) attributes
            before) =
          Expand.outcome (do
            let chosen ← Expand.descend o.maxDepth (c.choose o ws tag body otherwise)
            elementParts o (Expander.level o) ws others attributes (pushNodes before chosen))) ∧
      (∀ orphan children following, isDirective o orphan "else" = true →
        Expander.expandNode o ws (.element orphan children) following = pure []) ∧
      ∀ s tag', attributeValue tag' "name" = attributeValue tag "name" →
        (Conditional.ifDefined.choose o ws tag body otherwise).run s =
            (Expander.expandNodes o ws (if s.environment.isDefined (attributeValue tag "name") then
              body else otherwise)).run s ∧
          (Conditional.ifUndefined.choose o ws tag' body otherwise).run s =
            (Expander.expandNodes o ws (if s.environment.isDefined (attributeValue tag "name") then
              otherwise else body)).run s :=
  ⟨outcome_expandNode_conditional hc ws body h, outcome_expandNodes_conditional hc ws body h,
    outcome_expandDocument_conditional hc ws body h, outcome_elementParts_conditional hc ws body h,
    fun _ children following he => level_first_of_else he ws children following,
    fun s _ hname => choose_opposite o ws s hname body otherwise⟩

/-- A tag of the directive namespace. -/
def directiveTag (localName : String) (attributes : List Attribute) : Tag :=
  ⟨⟨some "pp", localName, some defaultSpace⟩, attributes, none, none⟩

/-- A conditional for a symbol that is bound in its body. -/
def unboundTag : Tag := directiveTag "ifndef" [⟨.plain "name", "x"⟩]

/-- Its body. -/
def unboundBody : List Node :=
  [.element (directiveTag "define" [⟨.plain "x", "1"⟩]) [], .text "new"]

/-- What follows it. -/
def unboundFollowing : List Node :=
  [.text " ", .comment "c", .element (directiveTag "else" []) [.text "old"], .text "\x7bx\x7d"]

/-- The `else` is come to when the symbol is bound, and is not expanded either. -/
theorem conditional_chooses_binding :
    Conditional.ifUndefined.Heads (.standard (Loader.ofTexts [])) unboundTag ∧
      Alternative (.standard (Loader.ofTexts [])) unboundFollowing [.text "old"]
        [.text " ", .comment "c", .text "\x7bx\x7d"] ∧
      (Expand.outcome (Expander.expandNodes (.standard (Loader.ofTexts [])) .preserve
        (.element unboundTag unboundBody :: unboundFollowing))
        (State.initial (.standard (Loader.ofTexts [])) none)).1 =
          .ok [.text "new ", .comment "c", .text "1"] := by
  have hheads : Conditional.ifUndefined.Heads (.standard (Loader.ofTexts [])) unboundTag :=
    ⟨rfl, rfl⟩
  have halternative : Alternative (.standard (Loader.ofTexts [])) unboundFollowing [.text "old"]
      [.text " ", .comment "c", .text "\x7bx\x7d"] :=
    .found [.text " ", .comment "c"] _ _
      (List.forall_mem_cons.mpr
        ⟨isBetween_iff.mp rfl, List.forall_mem_singleton.mpr (.comment "c")⟩) rfl
  refine ⟨hheads, halternative, ?_⟩
  rw [(conditional_chooses hheads .preserve unboundBody halternative).2.1]
  cbv

end XmlTemplate.Expansion
