import XmlTemplate.Proofs.Expansion.Steps
import XmlTemplate.Proofs.Expansion.Coupling

/-!
# Runs that end the same

The accord of runs: from states that go together, all of them give the same result or fail with
the same error, in states that go together again.

* `FramesRow`, `StateRow`: frames and states, one for each run, that bind the same names to symbols
  that go together.
* `sideBySide`: the accord.
* `expandDocument_alike`: documents that go together are expanded to the same nodes, or fail with
  the same error, whose cause is one of those that the runs are supplied with.
-/

namespace XmlTemplate.Expansion

open Markup

variable {ι : Type}

/-! ## States -/

section States

variable {S : (ι → Node) → Prop}

/-- Bindings of the same name, one for each run. -/
inductive BindingRow (S : (ι → Node) → Prop) : (ι → String × Symbol) → Prop where
  | mk (name : String) {x : ι → Symbol} : SymbolRow S x → BindingRow S fun i => (name, x i)

/-- Frames, one for each run, with bindings that go together place by place. -/
inductive FramesRow (S : (ι → Node) → Prop) : (ι → Frames) → Prop where
  | mk {inner : ι → Frame} {outer : ι → List Frame} : Rows (BindingRow S) inner →
    Rows (Rows (BindingRow S)) outer → FramesRow S fun i => ⟨inner i, outer i⟩

/-- States of the same level, one for each run, with the same open documents and the same cache. -/
inductive StateRow (S : (ι → Node) → Prop) (k : Nat) : (ι → State) → Prop where
  | mk {frames : ι → Frames} (includes : List Uri) (cache : Cache) : FramesRow S frames →
    StateRow S k fun i => ⟨⟨frames i, includes, cache⟩, k⟩

theorem LookupRow.of_inner {frame : ι → Frame} (h : Rows (BindingRow S) frame) (name : String) :
    LookupRow S fun i => (frame i).lookup name := by
  induction h with
  | nil => exact .none
  | cons hb _ ih =>
    cases hb with
    | mk other hx =>
      simp only [List.lookup_cons]
      cases name == other with
      | true => exact .some hx
      | false => exact ih

theorem LookupRow.of_outer {frames : ι → List Frame} (h : Rows (Rows (BindingRow S)) frames)
    (name : String) : LookupRow S fun i => (frames i).findSome? (·.lookup name) := by
  induction h with
  | nil => exact .none
  | @cons frame _ hf _ ih =>
    have hi := of_inner hf name
    simp only [List.findSome?_cons]
    generalize hr : (fun i => (frame i).lookup name) = r at hi
    simp only [congrFun hr]
    cases hi with
    | none => exact ih
    | some hx => exact .some hx

namespace FramesRow

variable {frames : ι → Frames}

theorem lookup (h : FramesRow S frames) (name : String) :
    LookupRow S fun i => (frames i).lookup name := by
  cases h with
  | mk hinner houter => exact .of_outer (.cons hinner houter) name

theorem define (h : FramesRow S frames) (name : String) {x : ι → Symbol} (hx : SymbolRow S x) :
    FramesRow S fun i => (frames i).define name (x i) := by
  cases h with
  | mk hinner houter => exact .mk (.cons (.mk name hx) hinner) houter

theorem push (h : FramesRow S frames) : FramesRow S fun i => (frames i).push := by
  cases h with
  | mk hinner houter => exact .mk .nil (.cons hinner houter)

theorem pop (h : FramesRow S frames) : FramesRow S fun i => (frames i).pop := by
  cases h with
  | mk hinner houter =>
    cases houter with
    | nil => exact .mk hinner .nil
    | cons hinner houter => exact .mk hinner houter

/-- The same frames in all runs. -/
theorem const {f : Frames} (h : f.Forall (Symbol.Of fun n => S fun _ => n)) :
    FramesRow S fun _ => f := by
  have frame {g : Frame} (hg : g ∈ f.toList) : Rows (BindingRow S) fun _ => g :=
    .const fun b hb => .mk b.1 (.const (h g hg b hb))
  exact .mk (frame (by simp [Frames.toList]))
    (.const fun g hg => frame (by simp [Frames.toList, hg]))

end FramesRow

/-- The same state in all runs. -/
theorem StateRow.const {s : State} (h : s.Of fun n => S fun _ => n) :
    StateRow S s.depth fun _ => s :=
  .mk s.environment.includes s.environment.cache (FramesRow.const h)

end States

/-! ## Runs -/

section Runs

variable {o : ι → Options} (P : Supply o)

/-- How runs may end: all of them with the same result, or with the same error. -/
inductive OutcomeRow {α : Type} (k : Nat) (V : α → Prop) : (ι → Except Error α × State) → Prop where
  | ok {a : α} {t : ι → State} : V a → StateRow P.source k t → OutcomeRow k V fun i => (.ok a, t i)
  | error {e : Error} {t : ι → State} : P.faults e.cause → StateRow P.source k t →
    OutcomeRow k V fun i => (.error e, t i)

/-- From states that go together the runs end the same. -/
def EndAlike {α : Type} (k : Nat) (V : α → Prop) (m : ι → Expand α) : Prop :=
  ∀ s : ι → State, StateRow P.source k s → OutcomeRow P k V fun i => (m i).run (s i)

/-- Runs with the same limits. Every level within the limit is admitted. -/
structure Supply.Limited (depth iterations : Nat) : Prop where
  depth_eq (i : ι) : (o i).maxDepth = depth
  iterations_eq (i : ι) : (o i).maxIterations = iterations
  admits {k : Nat} : k < depth → P.admits k

/-- Where the same documents are open, an inclusion opens documents that go together in all runs, or
fails in all of them. -/
theorem documentFor_row (href : String) (env : ι → Environment) {includes : List Uri}
    (h : ∀ i, (env i).includes = includes) :
    (∃ cause : Cause, (∀ i, documentFor (o i) href (env i) = .error cause) ∧ cause.Plain) ∨
      ∃ (uri : Uri) (d : ι → Document), Rows P.source (fun i => includedNodes (d i)) ∧
        ∀ i, documentFor (o i) href (env i) = .ok (uri, d i) := by
  simp only [documentFor, Environment.currentDocument?, Environment.isOpen, h]
  cases Uri.resolve includes.head? href with
  | error e => exact .inl ⟨_, fun _ => rfl, trivial⟩
  | ok uri =>
    dsimp only
    split
    · exact .inl ⟨_, fun _ => rfl, trivial⟩
    · have hload := P.loaded uri
      generalize hr : (fun i => (o i).loader uri) = r at hload
      simp only [congrFun hr]
      cases hload with
      | error e => cases e <;> exact .inl ⟨_, fun _ => rfl, trivial⟩
      | ok hd => exact .inr ⟨uri, _, hd, fun _ => rfl⟩

namespace EndAlike

variable {P} {α β : Type} {k depth iterations : Nat} {V : α → Prop} {W : β → Prop}
  {m : ι → Expand α}

theorem mono {V' : α → Prop} (hm : EndAlike P k V m) (h : ∀ a, V a → V' a) :
    EndAlike P k V' m := by
  intro s hs
  have hr := hm s hs
  revert hr
  generalize (fun i => (m i).run (s i)) = r
  intro hr
  cases hr with
  | ok ha ht => exact .ok (h _ ha) ht
  | error he ht => exact .error he ht

theorem bind {f : ι → α → Expand β} (hm : EndAlike P k V m)
    (hf : ∀ a, V a → EndAlike P k W fun i => f i a) : EndAlike P k W fun i => m i >>= f i := by
  intro s hs
  have h := hm s hs
  simp only [Expand.run_bind]
  generalize hr : (fun i => (m i).run (s i)) = r at h
  simp only [congrFun hr]
  cases h with
  | ok ha ht => exact hf _ ha _ ht
  | error he ht => exact .error he ht

/-- What is opened before and closed after runs, if it keeps the states together. -/
theorem within {enter leave : State → State} {k' : Nat} (hm : EndAlike P k' V m)
    (he : ∀ {s : ι → State}, StateRow P.source k s → StateRow P.source k' fun i => enter (s i))
    (hl : ∀ {s : ι → State}, StateRow P.source k' s → StateRow P.source k fun i => leave (s i)) :
    EndAlike P k V fun i => Expand.within enter leave (m i) := by
  intro s hs
  have h := hm _ (he hs)
  simp only [Expand.run_within]
  generalize hr : (fun i => (m i).run (enter (s i))) = r at h
  simp only [congrFun hr]
  cases h with
  | ok ha ht => exact .ok ha (hl ht)
  | error hc ht => exact .error hc (hl ht)

theorem call (hm : EndAlike P k V m) : EndAlike P k V fun i => Expand.call (m i) :=
  within hm (fun h => by cases h with | mk includes cache h => exact .mk includes cache h.push)
    fun h => by cases h with | mk includes cache h => exact .mk includes cache h.pop

theorem opening (uri : Uri) (hm : EndAlike P k V m) :
    EndAlike P k V fun i => Expand.opening uri (m i) :=
  within hm
    (fun h => by cases h with | mk includes cache h => exact .mk (uri :: includes) cache h)
    fun h => by cases h with | mk includes cache h => exact .mk includes.tail cache h

theorem descend (hP : P.Limited depth iterations) (hm : P.admits k → EndAlike P (k + 1) V m) :
    EndAlike P k V fun i => Expand.descend (o i).maxDepth (m i) := by
  intro s hs
  cases hs with
  | @mk frames includes cache hf =>
    simp only [Expand.run_descend, hP.depth_eq]
    by_cases hk : depth ≤ k
    · simp only [hk, if_true]
      exact .error (P.plain trivial) (.mk includes cache hf)
    · simp only [hk, if_false]
      have h := hm (hP.admits (Nat.lt_of_not_le hk)) _ (.mk includes cache hf)
      generalize hr : (fun i => (m i).run _) = r at h
      simp only [congrFun hr]
      cases h with
      | ok ha ht =>
        cases ht with
        | mk includes cache h => exact .ok ha (.mk includes cache h)
      | error he ht =>
        cases ht with
        | mk includes cache h => exact .error he (.mk includes cache h)

theorem inclusion (hP : P.Limited depth iterations) (href : String)
    {body : ι → Document → Expand α}
    (hb : P.admits k → ∀ d : ι → Document, Rows P.source (fun i => includedNodes (d i)) →
      EndAlike P (k + 1) V fun i => body i (d i)) :
    EndAlike P k V fun i => withInclude (o i) href (body i) := by
  intro s hs
  simp only [run_withInclude]
  cases hs with
  | @mk frames includes cache hf =>
    rcases documentFor_row P href (fun i => ⟨frames i, includes, cache⟩) fun _ => rfl with
      ⟨cause, h, hcause⟩ | ⟨uri, d, hd, h⟩
    · simp only [h]
      exact .error (P.plain hcause) (.mk includes cache hf)
    · simp only [h]
      exact descend hP (fun hk => opening uri (hb hk d hd)) _ (.mk includes cache hf)

theorem locate (tag : Tag) (hm : EndAlike P k V m) :
    EndAlike P k V fun i => Expand.locate tag (m i) := by
  intro s hs
  have h := hm s hs
  simp only [Expand.run_locate]
  generalize hr : (fun i => (m i).run (s i)) = r at h
  simp only [congrFun hr]
  cases h with
  | ok ha ht => exact .ok ha ht
  | error he ht =>
    have hplace (place : Place) : P.faults (Error.locate _ place).cause :=
      (Error.cause_locate _ place).symm ▸ he
    cases ht with
    | mk includes cache hf =>
      exact .error (hplace ⟨tag.name.qualified, tag.document <|> includes.head?, tag.position⟩)
        (.mk includes cache hf)

theorem expression (source : String) :
    EndAlike P k (fun _ => True) fun _ => Expand.expression source := by
  intro s hs
  cases hs with
  | @mk frames includes cache hf =>
    obtain ⟨result, c, hc⟩ := Environment.expression_eq cache source
    simp only [Expand.run_expression, hc]
    cases result with
    | ok e => exact .ok trivial (.mk includes c hf)
    | error e => exact .error (P.plain (Cause.plain_ofExpr source e)) (.mk includes c hf)

theorem environment {f : ι → Environment → Expand α}
    (hf : ∀ env : ι → Environment, (∀ name, LookupRow P.source fun i => (env i).lookup name) →
      EndAlike P k V fun i => f i (env i)) :
    EndAlike P k V fun i => Expand.environment >>= f i := by
  intro s hs
  simp only [Expand.run_bind]
  refine hf _ (fun name => ?_) s hs
  cases hs with
  | mk includes cache h => exact h.lookup name

theorem level {f : ι → Nat → Expand α} (hf : ∀ depth, EndAlike P k V fun i => f i depth) :
    EndAlike P k V (fun i => do f i (← get).depth) := by
  intro s hs
  simp only [Expand.run_bind]
  cases hs with
  | mk includes cache h => exact hf k _ (.mk includes cache h)

theorem define {x : ι → Symbol} (name : String) (hx : SymbolRow P.source x) :
    EndAlike P k (fun _ => True) fun i => Expand.define name (x i) := by
  intro s hs
  cases hs with
  | mk includes cache hf => exact .ok trivial (.mk includes cache (hf.define name hx))

end EndAlike

section Accord

variable {P} {depth iterations : Nat} (hP : P.Limited depth iterations)

/-- The accord of runs that end the same. -/
def sideBySide : Accord P where
  Holds := EndAlike P
  pure h := fun _ hs => .ok h hs
  mono := .mono
  bind := .bind
  fail h := fun _ hs => .error h hs
  environment := .environment
  define := .define
  expression := .expression
  call := .call
  descend := .descend hP

theorem sideBySide_levelled : (sideBySide hP).Levelled := ⟨.level⟩

variable (hf : ∀ {cause : Cause}, (∀ kind, cause ≠ .unhandledNode kind) → P.faults cause)

include hf

theorem sideBySide_complete : (sideBySide hP).Complete where
  inclusion href hb := .inclusion hP href hb
  loop := (Accord.Loops.of_limit (A := sideBySide hP) hP.iterations_eq (hf nofun)).loop
  locate := .locate
  missing _ _ := hf nofun

variable [Inhabited ι] (hc : ∀ text value, P.computes text value)

include hc

theorem sideBySide_below (k level : Nat) :
    (sideBySide hP).Below k fun i => below (o i) ((o i).maxDepth - level) := by
  simp only [hP.depth_eq]
  exact Accord.below_accord (sideBySide_complete hP hf) hP.depth_eq
    (fun _ _ hl => .of_levels hl hc) _

include hP in
/-- The documents are expanded to the same nodes, or all of them fail with the same error. -/
theorem expandDocument_alike {d : ι → Document} {s : State} (ws : Whitespace)
    (hd : Rows (TopRow P.source fun _ => True) fun i => (d i).children)
    (hs : s.Of fun n => P.source fun _ => n) :
    ∃ result : Except Error (List Node),
      (∀ i, ((Expander.expandDocument (o i) ws (d i)).run s).1 = result) ∧
        ∀ e, result = .error e → P.faults e.cause := by
  have h := Accord.expandTop_accord (sideBySide_complete hP hf) (sideBySide_levelled hP)
    (sideBySide_below hP hf hc s.depth) ws hd (fun _ _ => trivial) .nil _ (.const hs)
  generalize hr : (fun i => (Expander.expandTop (o i) ws (d i).children []).run s) = r at h
  cases h with
  | ok _ _ => exact ⟨.ok _, fun i => congrArg Prod.fst (congrFun hr i), fun e he => by cases he⟩
  | error he _ =>
    refine ⟨.error _, fun i => congrArg Prod.fst (congrFun hr i), fun e h => ?_⟩
    cases h
    exact he

end Accord

end Runs

end XmlTemplate.Expansion
