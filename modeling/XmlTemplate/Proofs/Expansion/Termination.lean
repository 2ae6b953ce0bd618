import XmlTemplate.Proofs.Expansion.Conducts
import XmlTemplate.Proofs.Expansion.Repetition

/-!
# Expansions come to an end

Every call that an expansion makes of itself is one level deeper, where the number of levels is
bounded, or it is on the same level with less syntax: children, the siblings that follow, the
branch of a conditional among them. So calls are nested finitely deep, whatever templates, included
documents and computed nodes refer to.

* `Smaller`: the activations that an operation may call.
* `level_unfold`, `operation_level`: an expander is what it does by calls of itself.
* `call_conducts`, `operation_conducts`: one step makes finitely many calls, all of them smaller.
* `answer_settles`, `operation_settles`: finitely many nested calls are enough.
* `Terminates`, `expansion_terminates`: all of this, and how often the bodies of loops are expanded.
-/

namespace XmlTemplate.Expansion

open Markup

variable {o : Options} {α : Type}

/-! ## Smaller activations -/

/-- Activations that are deeper than a state, or on its level with less syntax than `weight`. -/
def Smaller (o : Options) (s : State) (weight : Nat) (a : Activation) : Prop :=
  a.measure o < toLex (o.maxDepth - s.depth, weight)

/-- Activations one level deeper than a state. -/
def Deeper (o : Options) (s : State) (a : Activation) : Prop :=
  s.depth < o.maxDepth ∧ a.state.depth = s.depth + 1

theorem Deeper.smaller {s : State} {a : Activation} (h : Deeper o s a) (weight : Nat) :
    Smaller o s weight a := by
  obtain ⟨hs, ha⟩ := h
  refine Prod.Lex.toLex_lt_toLex.mpr (.inl ?_)
  dsimp only
  omega

theorem smaller_of_weight {s : State} {a : Activation} {weight : Nat}
    (hs : a.state.depth = s.depth) (h : a.call.weight < weight) : Smaller o s weight a :=
  Prod.Lex.toLex_lt_toLex.mpr (.inr ⟨by dsimp only; rw [hs], h⟩)

theorem measure_wellFounded (o : Options) :
    WellFounded fun a b : Activation => a.measure o < b.measure o :=
  InvImage.wf (Activation.measure o) wellFounded_lt

/-- All calls on a level are `ok`. -/
theorem levels_conducting {ok : Activation → Prop} {k : Nat}
    (h : ∀ a : Activation, a.state.depth = k → ok a) :
    (conducting o ok).Levels k fun l => l :=
  Accord.levels_of_run uniformSupply_free fun c s hs =>
    (Conducts.call (c := c) (h ⟨c, s⟩ hs)).mono fun _ _ => trivial

/-! ## One level -/

section Above

variable {s : State}

theorem levels_deeper (s : State) (hs : s.depth < o.maxDepth) :
    (conducting o (Deeper o s)).Levels (s.depth + 1) fun l => l :=
  levels_conducting fun _ h => ⟨hs, h⟩

theorem below_deeper (s : State) : (conducting o (Deeper o s)).Below s.depth fun l => l :=
  .of_levels (levels_deeper s) fun _ _ => trivial

/-- What a directive expands on its own level calls only what is deeper. -/
theorem parts_deeper (s : State) (ws : Whitespace) (children following : List Node) :
    (conducting o (Deeper o s)).PartsOf s.depth ws fun l =>
      ⟨fun w => expandNodes o l w children [], expandElse o l ws following,
        elementParts o l ws children [] []⟩ where
  children w :=
    Accord.expandNodes_accord (conducting_complete o _) (below_deeper s) w children rfl
      (rows_uniform _) trivial
  otherwise :=
    Accord.expandElse_accord (conducting_complete o _) (below_deeper s) ws following rfl
      ((rows_uniform following).mono (anySupply Level o).shape)

theorem covered_deeper (s : State) (ws : Whitespace) (d : Directive) (tag : Tag)
    (children following : List Node) :
    (conducting o (Deeper o s)).Covers s.depth ws d tag fun l =>
      ⟨fun w => expandNodes o l w children [], expandElse o l ws following,
        elementParts o l ws children [] []⟩ where
  missing _ := trivial
  built _ _ :=
    Accord.elementParts_accord (conducting_complete o _) (below_deeper s) ws children rfl
      (rows_uniform _) Assembled.nil (.inl rfl)

/-- On one level only what is deeper is called. -/
theorem above_conducts (c : Call) (s : State) :
    Conducts (Deeper o s) (fun _ => True) (fun l => (l.above o).run c) s := by
  cases c with
  | siblings ws nodes => exact .of_holds ((parts_deeper s ws nodes []).children ws) rfl
  | first ws node following =>
    exact .of_holds (Accord.expandNode_accord (conducting_complete o _) (below_deeper s) ws node
      rfl ⟨node, rfl⟩ (parts_deeper s ws [] following).otherwise) rfl

theorem above_restores {l : Level} (h : l.Restores) : (l.above o).Restores := by
  intro a
  obtain ⟨t, hrun, hmeets⟩ := above_conducts (o := o) a.call a.state
  rw [Level.answer, hrun l h]
  exact (hmeets.post_run h).1

theorem below_restores (room : Nat) : (below o room).Restores := by
  induction room with
  | zero =>
    rintro ⟨c, s⟩
    cases c <;> rfl
  | succ room ih => exact above_restores ih

/-! ## An expander -/

/-- An expander as a level: what it does for a call, whatever the state. -/
def Expander.level (o : Options) : Level := ⟨Expander.expandNodes o, Expander.expandNode o⟩

/-- From a state an expander does as many levels as are left. -/
theorem level_answer (a : Activation) :
    (Expander.level o).answer a = (below o (o.maxDepth - a.state.depth + 1)).answer a := by
  obtain ⟨c, s⟩ := a
  cases c with
  | siblings ws nodes =>
    exact Expander.run_atLevel s o fun deeper => expandNodes o deeper ws nodes []
  | first ws node following =>
    exact Expander.run_atLevel s o fun deeper =>
      expandNode o deeper ws node (expandElse o deeper ws following)

theorem level_restores : (Expander.level o).Restores := by
  intro a
  rw [level_answer]
  exact below_restores _ a

/-- What is done one level deeper is done with the levels that are left there. -/
theorem level_answer_of_deeper {a : Activation} (h : Deeper o s a) :
    (Expander.level o).answer a = (below o (o.maxDepth - s.depth)).answer a := by
  obtain ⟨hs, ha⟩ := h
  rw [level_answer, ha, show o.maxDepth - (s.depth + 1) + 1 = o.maxDepth - s.depth by omega]

/-- What is done with the levels that are left can be done by the expander itself. -/
theorem atLevel_eq {body : Level → Expand α} {V : α → Prop}
    (hb : ∀ s, Conducts (Deeper o s) V body s) :
    Expander.atLevel o body = body (Expander.level o) := by
  funext s
  obtain ⟨t, hrun, hmeets⟩ := hb s
  have hlevel := hrun _ (level_restores (o := o))
  have hbelow := hrun _ (below_restores (o := o) (o.maxDepth - s.depth))
  calc (Expander.atLevel o body).run s = (body (below o (o.maxDepth - s.depth))).run s :=
        Expander.run_atLevel s o body
    _ = t.run (below o (o.maxDepth - s.depth)).answer := hbelow
    _ = t.run (Expander.level o).answer :=
        hmeets.run_eq level_restores fun _ ha => (level_answer_of_deeper ha).symm
    _ = (body (Expander.level o)).run s := hlevel.symm

/-- The same for what is in the accord of calls one level deeper. -/
theorem atLevel_eq_of_holds {body : Level → Expand α} {V : State → α → Prop}
    (hb : ∀ s, (conducting o (Deeper o s)).Holds s.depth (V s) body) :
    Expander.atLevel o body = body (Expander.level o) :=
  atLevel_eq fun s => .of_holds (hb s) rfl

theorem level_above (o : Options) : (Expander.level o).above o = Expander.level o := by
  refine Level.ext_run fun c => ?_
  have h := (atLevel_eq (above_conducts (o := o) c)).symm
  cases c <;> exact h

/-- **An expander is a recursion.** What it does for a call is one activation whose calls it does
itself. -/
theorem level_unfold (o : Options) : (Expander.level o).unfold o = Expander.level o :=
  unfold_eq (level_above o)

theorem walkTop_level (ws : Whitespace) (nodes before : List Node) :
    (Expander.level o).walkTop ws nodes before = Expander.expandTop o ws nodes before := by
  induction nodes generalizing before with
  | nil => rfl
  | cons node rest ih =>
    cases node with
    | declaration | doctype => exact ih _
    | _ => exact bind_congr fun _ => ih _

theorem directive_level (d : Directive) (ws : Whitespace) (e : Element) (following : List Node) :
    Expander.directive o d ws e following =
      runDirective o (Expander.level o) ws d e.tag e.children
        ((Expander.level o).parts o ws e.children following) := by
  rw [parts_eq (level_above o)]
  exact atLevel_eq_of_holds fun s =>
    Accord.runDirective_accord (P := anySupply Level o) (below_deeper s)
      (fun _ => (conducting_complete o _).toIncludes) (fun _ => (conducting_complete o _).toLoops)
      (fun _ => uniformSupply_free.builds e.tag) (rows_uniform e.children)
      (parts_deeper s ws e.children following) (covered_deeper s ws d e.tag e.children following)

/-- Everything that an expander does, it does by calls of itself. -/
theorem operation_level (op : Operation α) :
    Performs.perform o op = op.on o (Expander.level o) := by
  have hl (s : State) := levels_deeper (o := o) s
  cases op with
  | define | lookup => rfl
  | expandDocument ws d => exact (walkTop_level ws d.children []).symm
  | expandNodes ws nodes =>
    rw [Operation.on, level_unfold]
    rfl
  | expandNode ws node following =>
    rw [Operation.on, level_unfold]
    rfl
  | directive d ws e following => exact directive_level d ws e following
  | invoke ws e =>
    show Expander.invoke o ws e = _
    exact atLevel_eq_of_holds fun s =>
      Accord.invoke_accord (hl s) ws e.tag (rows_uniform e.children)
  | interpolate ws text =>
    show Expander.interpolate o ws text = _
    exact atLevel_eq_of_holds fun s => Accord.interpolate_items_accord (hl s) ws text
  | interpolateText text =>
    show Expander.interpolateText o text = _
    exact atLevel_eq_of_holds fun s => Accord.interpolateText_accord (hl s) text
  | evalSymbol ws name =>
    show Expander.evalSymbol o ws name = _
    exact atLevel_eq_of_holds fun s => Accord.evalSymbol_accord (hl s) ws name
  | evalExpr ws source =>
    show Expander.evalExpr o ws source = _
    exact atLevel_eq_of_holds fun s => Accord.evalExpr_accord (hl s) ws source
  | evalNodes ws source =>
    show Expander.evalNodes o ws source = _
    exact atLevel_eq_of_holds fun s => Accord.evalNodes_accord (hl s) ws source
  | evalText ws source =>
    show Expander.evalText o ws source = _
    exact atLevel_eq_of_holds fun s => Accord.evalText_accord (hl s) ws source
  | evalTruth ws source =>
    show Expander.evalTruth o ws source = _
    exact atLevel_eq_of_holds fun s => Accord.evalTruth_accord (hl s) ws source
  | evalInteger ws source =>
    show Expander.evalInteger o ws source = _
    exact atLevel_eq_of_holds fun s => Accord.evalInteger_accord (hl s) ws source

end Above

/-- Everything that an expander does is in an accord with all rules, if the levels of expansions
are. -/
theorem Accord.perform_accord {ι : Type} [Inhabited ι] {o : ι → Options} {P : Supply o}
    {A : Accord P} (hP : P.Free) (hA : A.Complete) (hlevel : A.Levelled)
    (hbelow : ∀ k depth, A.Below k fun i => below (o i) ((o i).maxDepth - depth)) {k : Nat}
    (op : Operation α) : A.Holds k (P.Given k op) fun i => Performs.perform (o i) op := by
  have hlevels (k : Nat) : A.Levels k fun i => Expander.level (o i) :=
    expander_accord hA hlevel (hbelow k)
  have hcomputes (text : String) : A.Holds k (P.computes text)
      fun i => Performs.perform (o i) (Operation.interpolateText text) := by
    show A.Holds k _ fun i => Expander.atLevel (o i) fun l => Expansion.interpolateText (o i) l text
    exact atLevel_accord hlevel (hbelow k) fun _ hl => hl.computes text
  simp only [operation_level] at hcomputes ⊢
  exact operation_accord hP ⟨⟨fun _ => hlevels (k + 1), hcomputes⟩, fun c _ => (hlevels k).run hP c⟩
    hA.toPlaces op (fun _ => hA.toIncludes) (fun _ => hA.toLoops) le_rfl

/-! ## One activation -/

section Activations

variable {s : State} {weight : Nat}

/-- What can be called on the level of a state with less syntax than `weight`, or deeper. -/
abbrev smallerAccord (o : Options) (s : State) (weight : Nat) :
    Accord (anySupply Level o) :=
  conducting o (Smaller o s weight)

theorem levels_smaller (hs : s.depth < o.maxDepth) :
    (smallerAccord o s weight).Levels (s.depth + 1) fun l => l :=
  levels_conducting fun _ h => Deeper.smaller ⟨hs, h⟩ weight

/-- Calls on the same level hand over less syntax. -/
theorem smaller_calls : (smallerAccord o s weight).Calls s.depth weight fun l => l where
  same _ h _ hs := (Conducts.call (smaller_of_weight hs h)).mono fun _ _ => trivial
  toBelow := .of_levels levels_smaller fun _ _ => trivial

end Activations

/-- **One step makes smaller calls only.** Whatever an operation comes to, it makes finitely many
calls, each of them one level deeper or with less syntax on the same level. -/
theorem operation_conducts (op : Operation α) (s : State) :
    Conducts (Smaller o s op.weight) (fun _ => True) (fun l => op.on o l) s :=
  .of_holds (Accord.operation_accord uniformSupply_free smaller_calls
    (conducting_complete o _).toPlaces op (fun _ => (conducting_complete o _).toIncludes)
    (fun _ => (conducting_complete o _).toLoops) le_rfl) rfl

/-- An activation makes finitely many calls, all of them smaller. -/
theorem call_conducts (a : Activation) :
    Conducts (fun b => b.measure o < a.measure o) (fun _ => True)
      (fun l => (l.unfold o).run a.call) a.state :=
  .of_holds (Accord.unfold_accord uniformSupply_free smaller_calls
    (conducting_complete o _).toPlaces (conducting_complete o _).toLoops a.call
    (fun _ => (conducting_complete o _).toIncludes) le_rfl) rfl

/-! ## Nested calls -/

theorem unfold_restores {l : Level} (h : l.Restores) : (l.unfold o).Restores := by
  intro a
  obtain ⟨t, hrun, hmeets⟩ := call_conducts (o := o) a
  rw [Level.answer, hrun l h]
  exact (hmeets.post_run h).1

theorem iterate_restores {l : Level} (h : l.Restores) (n : Nat) :
    ((Level.unfold o)^[n] l).Restores := by
  induction n with
  | zero => exact h
  | succ n ih =>
    rw [Function.iterate_succ_apply']
    exact unfold_restores ih

/-- An activation is done after finitely many nested calls: whatever would be done for calls
that are nested deeper, they are not made. The induction is on smaller activations. -/
theorem answer_settles (a : Activation) :
    ∃ n, ∀ m ≥ n, ∀ l : {l : Level // l.Restores},
      ((Level.unfold o)^[m] l.1).answer a = (Expander.level o).answer a := by
  induction a using (measure_wellFounded o).induction with
  | h a ih =>
    obtain ⟨t, hrun, hmeets⟩ := call_conducts (o := o) a
    obtain ⟨n, hn⟩ := hmeets.settles level_restores ih
    refine ⟨n + 1, fun m hm l => ?_⟩
    obtain ⟨m, rfl⟩ : ∃ m', m = m' + 1 := ⟨m - 1, by omega⟩
    calc ((Level.unfold o)^[m + 1] l.1).answer a
        = (((Level.unfold o)^[m] l.1).unfold o).answer a := by rw [Function.iterate_succ_apply']
      _ = t.run ((Level.unfold o)^[m] l.1).answer := hrun _ (iterate_restores l.2 m)
      _ = t.run (Expander.level o).answer := hn m (by omega) l
      _ = ((Expander.level o).unfold o).answer a := (hrun _ level_restores).symm
      _ = (Expander.level o).answer a := by rw [level_unfold]

/-- So is everything else that an expander does. -/
theorem operation_settles (op : Operation α) (s : State) :
    ∃ n, ∀ l : Level, l.Restores →
      (op.on o ((Level.unfold o)^[n] l)).run s = (Performs.perform o op).run s := by
  obtain ⟨t, hrun, hmeets⟩ := operation_conducts (o := o) op s
  obtain ⟨n, hn⟩ := hmeets.settles level_restores fun a _ => answer_settles (o := o) a
  refine ⟨n, fun l hl => ?_⟩
  rw [operation_level, hrun _ (iterate_restores hl n), hrun _ level_restores]
  exact hn n le_rfl ⟨l, hl⟩

/-- So does a document from the start. -/
theorem process_settles (d : Document) : ∃ n, ∀ l : Level, l.Restores →
    process o d = (((Operation.expandDocument o.whitespace d).on o ((Level.unfold o)^[n] l)).run
      (State.initial o d.uri)).1.map fun children => ⟨d.uri, children⟩ := by
  obtain ⟨n, hn⟩ := operation_settles (o := o) (.expandDocument o.whitespace d)
    (State.initial o d.uri)
  refine ⟨n, fun l hl => ?_⟩
  rw [hn l hl]
  rfl

/-! ## Termination -/

/-- What it means that expansions with the given options come to an end. -/
structure Terminates (o : Options) : Prop where
  /-- What an expander does for a call is one activation, whose calls it does itself. -/
  recursion : (Expander.level o).unfold o = Expander.level o
  /-- So is everything else that it does. -/
  operations {α : Type} (op : Operation α) : Performs.perform o op = op.on o (Expander.level o)
  /-- A call leaves what it has nested. What comes after it is done on the same level. -/
  restores : (Expander.level o).Restores
  /-- An activation calls only what is smaller: one level deeper within the limit, or on the same
  level with less syntax. -/
  calls (a : Activation) : Conducts (fun b => b.measure o < a.measure o) (fun _ => True)
    (fun l => (l.unfold o).run a.call) a.state
  /-- So does every operation. One that works on symbols, expressions or references to documents
  has no syntax of its own, and calls only what is deeper. -/
  operationCalls {α : Type} (op : Operation α) (s : State) :
    Conducts (Smaller o s op.weight) (fun _ => True) (fun l => op.on o l) s
  /-- An inclusion calls what its body calls, one level deeper within the limit. -/
  inclusion {α : Type} (href : String) (body : Level → Document → Expand α) (s : State)
    (ok : Activation → Prop) :
    (s.depth < o.maxDepth → ∀ (d : Document) (u : State), u.depth = s.depth + 1 →
      Conducts ok (fun _ => True) (fun l => body l d) u) →
    Conducts ok (fun _ => True) (fun l => withInclude o href (body l)) s
  /-- There is no infinite chain of smaller and smaller activations. -/
  wellFounded : WellFounded fun a b : Activation => a.measure o < b.measure o
  /-- Finitely many nested calls give the result or the error. What would be done for calls nested
  deeper does not matter. -/
  finite {α : Type} (op : Operation α) (s : State) : ∃ n, ∀ l : Level, l.Restores →
    (op.on o ((Level.unfold o)^[n] l)).run s = (Performs.perform o op).run s
  /-- So a document has a result or an error after finitely many nested calls. -/
  documents (d : Document) : ∃ n, ∀ l : Level, l.Restores →
    process o d = (((Operation.expandDocument o.whitespace d).on o ((Level.unfold o)^[n] l)).run
      (State.initial o d.uri)).1.map fun children => ⟨d.uri, children⟩
  /-- `count` expands its body at most as often as it is told. -/
  count (l : Level) (ws : Whitespace) (tag : Tag) (children : List Node) (p : Parts) (s : State) :
    RunsAtMost (countOf o l tag s) (fun body =>
      runDirective o l ws .count tag children { p with children := fun _ => body }) s
  /-- `for` expands its body at most as often as the limit admits. -/
  loop (l : Level) (ws : Whitespace) (tag : Tag) (children : List Node) (p : Parts) (s : State) :
    RunsAtMost o.maxIterations (fun body =>
      runDirective o l ws .loop tag children { p with children := fun _ => body }) s

/-- **Expansions come to an end**, whatever the templates, the included documents and the computed
nodes refer to. -/
theorem expansion_terminates (o : Options) : Terminates o where
  recursion := level_unfold o
  operations := operation_level
  restores := level_restores
  calls := call_conducts
  operationCalls := operation_conducts
  inclusion href _ _ _ hb := .inclusion href rfl hb
  wellFounded := measure_wellFounded o
  finite := operation_settles
  documents := process_settles
  count l ws tag children p s := count_runs o l ws tag children p s
  loop l ws tag children p s := for_runs o l ws tag children p s

/-- A template that refers to itself is expanded until the limit is reached. -/
example :
    let o := { Options.standard (Loader.ofTexts []) with maxDepth := 3 }
    let self : Node := .element ⟨⟨some "p", "self", some defaultSpace⟩, [], none, none⟩ []
    let s := State.initial o none
    ((Expander.evalSymbol o .preserve "self").run
        { s with environment := s.environment.defineNodes "self" [self] }).1 =
      .error ⟨.recursionLimit 3, some ⟨"p:self", none, none⟩⟩ := rfl

end XmlTemplate.Expansion
