import XmlTemplate.Proofs.Expansion.Dependence

/-!
# What surrounds an expansion

How deep it is nested, and which documents are open, is of no consequence to what comes of an
expansion, except that the levels below it may run out, and that other documents can be included.

* `Surroundings`: how two runs of the same are surrounded.
* `EndsBeside`: both runs end the same, the places of errors aside, unless the first one gives up.
* `beside`: the accord of these runs.
* `unfold_beside`: one activation, beside itself. `level_beside`: all of them, on two levels.
-/

namespace XmlTemplate.Expansion

open Markup

/-! ## Two runs of the same -/

/-- How two runs are surrounded: the first of them is so many levels deeper, and if `together` holds
the same documents are open. -/
structure Surroundings where
  levels : Nat
  together : Prop

variable {o : Options} {G : Surroundings} {stops : Cause → Prop} {α β : Type} {V : α → Prop}
  {W : β → Prop} {k : Nat}

/-- States in which the same symbols are bound and the same expressions remembered. -/
structure Beside (G : Surroundings) (s t : State) : Prop where
  frames : s.environment.frames = t.environment.frames
  cache : s.environment.cache = t.environment.cache
  depth : s.depth = t.depth + G.levels
  includes : G.together → s.environment.includes = t.environment.includes

/-- How two runs may end: the first one has given up, with one of the causes in `stops`, or both
come to the same and leave what surrounds them as it was. -/
inductive EndsBeside (G : Surroundings) (stops : Cause → Prop) (V : α → Prop) (s t : State) :
    Except Cause α × State → Except Cause α × State → Prop where
  | stopped {cause : Cause} {u : State} {other : Except Cause α × State} : stops cause →
    EndsBeside G stops V s t (.error cause, u) other
  | ended {result : Except Cause α} {u v : State} : (∀ a, result = .ok a → V a) → Beside G u v →
    Kept s u → Kept t v → EndsBeside G stops V s t (result, u) (result, v)

/-- From states beside each other, of which the second is on a level, two runs end the same. -/
def RunsBeside (G : Surroundings) (stops : Cause → Prop) (k : Nat) (V : α → Prop)
    (m : Bool → Expand α) : Prop :=
  ∀ s t, Beside G s t → t.depth = k →
    EndsBeside G stops V s t (Expand.outcome (m true) s) (Expand.outcome (m false) t)

namespace Beside

variable {s t u v : State}

theorem after (h : Beside G s t) (hs : Kept s u) (ht : Kept t v)
    (hframes : u.environment.frames = v.environment.frames)
    (hcache : u.environment.cache = v.environment.cache) : Beside G u v :=
  ⟨hframes, hcache, by rw [hs.depth, ht.depth, h.depth], fun ho => by
    rw [hs.includes, ht.includes, h.includes ho]⟩

/-- Nothing else is different. -/
theorem eq_of_includes (h : Beside G s t) (hi : s.environment.includes = t.environment.includes) :
    { s with depth := s.depth - G.levels } = t := by
  obtain ⟨⟨frames, includes, cache⟩, depth⟩ := s
  obtain ⟨⟨frames', includes', cache'⟩, depth'⟩ := t
  obtain ⟨hframes, hcache, hdepth, -⟩ := h
  dsimp only at hframes hcache hdepth hi
  subst hframes hcache hdepth hi
  rw [Nat.add_sub_cancel]

end Beside

/-- What two runs give up for at the same time. -/
theorem EndsBeside.inter {s t : State} {x y : Except Cause α × State} {stops' : Cause → Prop}
    (h : EndsBeside G stops V s t x y) (h' : EndsBeside G stops' V s t x y) :
    EndsBeside G (fun c => stops c ∧ stops' c) V s t x y := by
  cases h with
  | ended hv huv hs ht => exact .ended hv huv hs ht
  | stopped hc =>
    cases h' with
    | ended hv huv hs ht => exact .ended hv huv hs ht
    | stopped hc' => exact .stopped ⟨hc, hc'⟩

theorem EndsBeside.imp {s t : State} {x y : Except Cause α × State} {stops' : Cause → Prop}
    (h : EndsBeside G stops V s t x y) (hc : ∀ c, stops c → stops' c) :
    EndsBeside G stops' V s t x y := by
  cases h with
  | ended hv huv hs ht => exact .ended hv huv hs ht
  | stopped h => exact .stopped (hc _ h)

/-- Where the second run gives a value, the first one gives the same or has given up. -/
theorem EndsBeside.of_ok {s t v : State} {x : Except Cause α × State} {a : α}
    (h : EndsBeside G stops V s t x (.ok a, v)) :
    (∃ cause u, stops cause ∧ x = (.error cause, u)) ∨
      ∃ u, x = (.ok a, u) ∧ Beside G u v ∧ Kept s u := by
  cases h with
  | stopped hc => exact .inl ⟨_, _, hc, rfl⟩
  | ended _ huv hs _ => exact .inr ⟨_, rfl, huv, hs⟩

namespace RunsBeside

variable {m : Bool → Expand α}

/-- The same computation, which does not look at what surrounds it. -/
theorem same {m : Expand α}
    (h : ∀ s t, Beside G s t → EndsBeside G stops V s t (Expand.outcome m s) (Expand.outcome m t)) :
    RunsBeside G stops k V fun _ => m :=
  fun s t hst _ => h s t hst

theorem pure {a : α} (h : V a) : RunsBeside G stops k V fun _ => Pure.pure a :=
  same fun s t hst => .ended (fun _ e => by cases e; exact h) hst (.refl s) (.refl t)

theorem fail (cause : Cause) : RunsBeside G stops k V fun _ => Expand.fail cause :=
  same fun s t hst => .ended (fun _ e => by cases e) hst (.refl s) (.refl t)

theorem mono {V' : α → Prop} (hm : RunsBeside G stops k V m) (h : ∀ a, V a → V' a) :
    RunsBeside G stops k V' m := by
  intro s t hst hk
  have hrun := hm s t hst hk
  revert hrun
  generalize Expand.outcome (m true) s = x
  generalize Expand.outcome (m false) t = y
  intro hrun
  cases hrun with
  | stopped hc => exact .stopped hc
  | ended hv huv hs ht => exact .ended (fun a ha => h a (hv a ha)) huv hs ht

theorem bind {f : Bool → α → Expand β} (hm : RunsBeside G stops k V m)
    (hf : ∀ a, V a → RunsBeside G stops k W fun i => f i a) :
    RunsBeside G stops k W fun i => m i >>= f i := by
  intro s t hst hk
  rw [Expand.outcome_bind, Expand.outcome_bind]
  have hrun := hm s t hst hk
  revert hrun
  generalize Expand.outcome (m true) s = x
  generalize Expand.outcome (m false) t = y
  intro hrun
  cases hrun with
  | stopped hc => exact .stopped hc
  | @ended result u v hv huv hs ht =>
    cases result with
    | error c => exact .ended (fun _ e => by cases e) huv hs ht
    | ok a =>
      have hnext := hf a (hv a rfl) u v huv (ht.depth.trans hk)
      dsimp only
      revert hnext
      generalize Expand.outcome (f true a) u = x
      generalize Expand.outcome (f false a) v = y
      intro hnext
      cases hnext with
      | stopped hc => exact .stopped hc
      | ended hv huv hs' ht' => exact .ended hv huv (hs.trans hs') (ht.trans ht')

/-- What is opened before and closed after both runs. -/
theorem within {enter leave : State → State} {s t : State} {k' : Nat}
    (hm : RunsBeside G stops k' V m) (hst : Beside G (enter s) (enter t))
    (hk : (enter t).depth = k')
    (hs : ∀ u, Kept (enter s) u → Kept s (leave u)) (ht : ∀ v, Kept (enter t) v → Kept t (leave v))
    (hleave : ∀ u v, Beside G u v → Kept s (leave u) → Kept t (leave v) →
      Beside G (leave u) (leave v)) :
    EndsBeside G stops V s t (Expand.outcome (Expand.within enter leave (m true)) s)
      (Expand.outcome (Expand.within enter leave (m false)) t) := by
  have hrun := hm _ _ hst hk
  rw [Expand.outcome_within, Expand.outcome_within]
  revert hrun
  generalize Expand.outcome (m true) (enter s) = x
  generalize Expand.outcome (m false) (enter t) = y
  intro hrun
  cases hrun with
  | stopped hc => exact .stopped hc
  | ended hv huv hu hv' =>
    exact .ended hv (hleave _ _ huv (hs _ hu) (ht _ hv')) (hs _ hu) (ht _ hv')

theorem call (hm : RunsBeside G stops k V m) : RunsBeside G stops k V fun i => Expand.call (m i) :=
  fun _ _ hst hk => within hm
    ⟨congrArg Frames.push hst.frames, hst.cache, hst.depth, hst.includes⟩ hk
    (fun _ hu => ⟨hu.depth, hu.includes⟩) (fun _ hv => ⟨hv.depth, hv.includes⟩)
    fun _ _ huv hs ht => hst.after hs ht (congrArg Frames.pop huv.frames) huv.cache

theorem opening (uri : Uri) (hm : RunsBeside G stops k V m) :
    RunsBeside G stops k V fun i => Expand.opening uri (m i) :=
  fun _ _ hst hk => within hm
    ⟨hst.frames, hst.cache, hst.depth, fun ho => congrArg (uri :: ·) (hst.includes ho)⟩ hk
    (fun _ hu => ⟨hu.depth, congrArg List.tail hu.includes⟩)
    (fun _ hv => ⟨hv.depth, congrArg List.tail hv.includes⟩)
    fun _ _ huv hs ht => hst.after hs ht huv.frames huv.cache

/-- Of levels that run out the first run may run out before the second one does. -/
theorem descend {limit : Nat} (hG : G.levels = 0 ∨ stops (.recursionLimit limit))
    (hm : k < limit → RunsBeside G stops (k + 1) V m) :
    RunsBeside G stops k V fun i => Expand.descend limit (m i) := by
  intro s t hst hk
  have hdepth := hst.depth
  rw [Expand.outcome_descend, Expand.outcome_descend]
  by_cases hs : limit ≤ s.depth
  · rw [if_pos hs]
    rcases hG with hlevels | hstops
    · rw [if_pos (by omega)]
      exact .ended (fun _ e => by cases e) hst (.refl s) (.refl t)
    · exact .stopped hstops
  · rw [if_neg hs, if_neg (by omega)]
    refine within (hm (by omega)) ⟨hst.frames, hst.cache, by dsimp only; omega, hst.includes⟩
      (congrArg (· + 1) hk) (fun u hu => ⟨?_, hu.includes⟩) (fun v hv => ⟨?_, hv.includes⟩)
      fun _ _ huv hs ht => hst.after hs ht huv.frames huv.cache
    · rw [hu.depth]
      rfl
    · rw [hv.depth]
      rfl

theorem locate (tag : Tag) (hm : RunsBeside G stops k V m) :
    RunsBeside G stops k V fun i => Expand.locate tag (m i) := by
  intro s t hst hk
  rw [Expand.outcome_locate, Expand.outcome_locate]
  exact hm s t hst hk

theorem environment {f : Bool → Environment → Expand α}
    (hf : ∀ env : Bool → Environment, (∀ name, LookupRow (Uniform Bool) fun i =>
      (env i).lookup name) → RunsBeside G stops k V fun i => f i (env i)) :
    RunsBeside G stops k V fun i => Expand.environment >>= f i := by
  intro s t hst hk
  refine hf (fun i => if i then s.environment else t.environment) (fun name => ?_) s t hst hk
  exact lookupRow_of_eq (t.environment.lookup name)
    (Bool.forall_bool.mpr ⟨rfl, congrArg (Frames.lookup · name) hst.frames⟩)

theorem define (name : String) (value : Symbol) :
    RunsBeside G stops k (fun _ => True) fun _ => Expand.define name value :=
  same fun _ _ hst => .ended (fun _ _ => trivial)
    ⟨congrArg (Frames.define · name value) hst.frames, hst.cache, hst.depth, hst.includes⟩
    ⟨rfl, rfl⟩ ⟨rfl, rfl⟩

theorem expression (source : String) :
    RunsBeside G stops k (fun _ => True) fun _ => Expand.expression source := by
  refine same fun s t hst => ?_
  obtain ⟨⟨frames, includes, cache⟩, depth⟩ := s
  obtain ⟨⟨frames', includes', cache'⟩, depth'⟩ := t
  obtain ⟨hframes, hcache, hdepth, hincludes⟩ := hst
  dsimp only at hframes hcache
  subst hframes hcache
  obtain ⟨result, c, hc⟩ := Environment.expression_eq cache source
  unfold Expand.outcome
  rw [Expand.run_expression, Expand.run_expression, hc, hc]
  exact .ended (fun _ _ => trivial) ⟨rfl, rfl, hdepth, hincludes⟩ ⟨rfl, rfl⟩ ⟨rfl, rfl⟩

/-- Where the same documents are open, a reference names the same document. -/
theorem documentFor_congr {env env' : Environment} (h : env.includes = env'.includes)
    (href : String) : documentFor o href env = documentFor o href env' := by
  unfold documentFor Environment.currentDocument? Environment.isOpen
  rw [h]

theorem inclusion (hG : G.levels = 0 ∨ stops (.recursionLimit o.maxDepth)) (ho : G.together)
    (href : String) {body : Bool → Document → Expand α}
    (hb : k < o.maxDepth → ∀ d, RunsBeside G stops (k + 1) V fun i => body i d) :
    RunsBeside G stops k V fun i => withInclude o href (body i) := by
  intro s t hst hk
  unfold Expand.outcome
  rw [run_withInclude, run_withInclude, documentFor_congr (hst.includes ho)]
  cases documentFor o href t.environment with
  | error cause => exact .ended (fun _ e => by cases e) hst (.refl s) (.refl t)
  | ok found => exact descend hG (fun hk => opening found.1 (hb hk found.2)) s t hst hk

end RunsBeside

/-- The accord of runs that end the same beside each other. -/
def beside (o : Options) (G : Surroundings) (stops : Cause → Prop)
    (hG : G.levels = 0 ∨ stops (.recursionLimit o.maxDepth)) :
    Accord (anySupply Bool o) where
  Holds := RunsBeside G stops
  pure := .pure
  mono := .mono
  bind := .bind
  fail _ := .fail _
  environment := .environment
  define name hx := by
    obtain ⟨value, rfl⟩ := hx.uniform
    exact .define name value
  expression := .expression
  call := .call
  descend := .descend hG

theorem beside_places {hG : G.levels = 0 ∨ stops (.recursionLimit o.maxDepth)} :
    (beside o G stops hG).Places where
  locate := .locate
  missing _ _ := trivial

theorem beside_includes {hG : G.levels = 0 ∨ stops (.recursionLimit o.maxDepth)}
    (ho : G.together) : (beside o G stops hG).Includes where
  inclusion href hb := .inclusion hG ho href fun hk d => hb hk (fun _ => d) (rows_uniform _)

/-! ## Calls -/

section Calls

variable (hG : G.levels = 0 ∨ stops (.recursionLimit o.maxDepth)) {c : Call} {s t : State}

include hG

/-- One activation ends the same beside each other if smaller ones do. -/
theorem unfold_beside {l : Bool → Level} (hst : Beside G s t)
    (hi : c.Inclusion o.space → G.together)
    (h : ∀ c' s' t', Beside G s' t' → Smaller o t c.weight ⟨c', t'⟩ →
      EndsBeside G stops (fun _ => True) s' t' (Expand.outcome ((l true).run c') s')
        (Expand.outcome ((l false).run c') t')) :
    EndsBeside G stops (fun _ => True) s t (Expand.outcome (((l true).unfold o).run c) s)
      (Expand.outcome (((l false).unfold o).run c) t) := by
  have hrun {c' : Call} {k : Nat}
      (hc : ∀ t' : State, t'.depth = k → Smaller o t c.weight ⟨c', t'⟩) :
      (beside o G stops hG).Gives k c'.whitespace fun i => (l i).run c' := by
    have hsmaller : RunsBeside G stops k (fun _ => True) fun i => (l i).run c' :=
      fun s' t' hst' hk => h c' s' t' hst' (hc t' hk)
    exact hsmaller.mono fun _ _ => trivial
  have hcalls : (beside o G stops hG).Calls t.depth c.weight l :=
    { same := fun c' hc => hrun fun t' ht => smaller_of_weight ht hc
      toBelow := .of_levels (fun ht => Accord.levels_of_run uniformSupply_free fun c' =>
        hrun fun t' ht' => Deeper.smaller ⟨ht, ht'⟩ c.weight) fun _ _ => trivial }
  have hloops : (beside o G stops hG).Loops := .of_limit (fun _ => rfl) trivial
  have hends : RunsBeside G stops t.depth (fun _ => True) fun i => ((l i).unfold o).run c :=
    (beside o G stops hG).mono
      (Accord.unfold_accord uniformSupply_free hcalls beside_places hloops c
        (fun hc => beside_includes (hi hc)) le_rfl)
      fun _ _ => trivial
  exact hends s t hst rfl

/-- **An expansion does the same on another level**, where the same documents are open, unless the
levels run out. The induction is on smaller activations. -/
theorem level_beside (ho : G.together) (hst : Beside G s t) :
    EndsBeside G stops (fun _ => True) s t (Expand.outcome ((Expander.level o).run c) s)
      (Expand.outcome ((Expander.level o).run c) t) := by
  obtain ⟨a, ha⟩ : ∃ a : Activation, a = ⟨c, t⟩ := ⟨_, rfl⟩
  induction a using (measure_wellFounded o).induction generalizing c s t with
  | h a ih =>
    subst ha
    have h := unfold_beside hG (l := fun _ => Expander.level o) hst (fun _ => ho)
      fun c' s' t' hst' hc => ih ⟨c', t'⟩ hc hst' rfl
    rwa [level_unfold] at h

end Calls

end XmlTemplate.Expansion
