import XmlTemplate.Proofs.Environment
import XmlTemplate.Proofs.Expansion.Triple

/-!
# Two runs side by side

Two computations are run from states that are related, and the first of them may give up early.
Otherwise both come to the same result, in states that are related again.

* `Coupling`: how frames are related, what a computation may do to those that it finds, and the
  causes with which the first run may give up. `Coupling.exact` and `Coupling.alike` are the two
  that are used.
* `Coupling.Agree K m m'`: the relation of computations.
* `Agree.bind`, `Agree.call`, `Agree.descend`, ...: one rule for each way to build a computation.
  No rule looks at the cache: what is read from a text does not depend on it.
-/

namespace XmlTemplate

namespace Frames

/-- Every name is bound to the same symbol, in whichever frame. -/
def Alike (f g : Frames) : Prop := ∀ name, f.lookup name = g.lookup name

namespace Alike

variable {f g : Frames}

theorem define (h : f.Alike g) (name : String) (value : Symbol) :
    (f.define name value).Alike (g.define name value) := by
  intro other
  by_cases ho : other = name
  · rw [ho, lookup_define_self, lookup_define_self]
  · rw [lookup_define_of_ne f value ho, lookup_define_of_ne g value ho]
    exact h other

theorem push (h : f.Alike g) : f.push.Alike g.push := h

end Alike

end Frames

namespace Expansion

theorem Error.cause_locate (e : Error) (place : Place) : (e.locate place).cause = e.cause := by
  unfold Error.locate
  split <;> rfl

/-- Of the state from which expansions start only the cache depends on how many expressions are
remembered. -/
theorem State.initial_eq (o : Options) (uri : Option Uri) :
    State.initial o uri =
      ⟨⟨o.definitions.foldl (fun f b => f.define b.1 (.text b.2)) .empty, uri.toList,
        .ofCapacity o.cacheSize⟩, 0⟩ := by
  have step (definitions : List (String × String)) (env : Environment) :
      definitions.foldl (fun env b => env.defineText b.1 b.2) env =
        { env with
          frames := definitions.foldl (fun f b => f.define b.1 (.text b.2)) env.frames } := by
    induction definitions generalizing env with
    | nil => rfl
    | cons b rest ih => exact ih _
  unfold State.initial
  rw [step]
  cases uri <;> rfl

/-- How two runs are related, and when the first one may give up. -/
structure Coupling where
  same : Frames → Frames → Prop
  lookup {f g : Frames} : same f g → ∀ name, f.lookup name = g.lookup name
  define {f g : Frames} (name : String) (value : Symbol) : same f g →
    same (f.define name value) (g.define name value)
  push {f g : Frames} : same f g → same f.push g.push
  /-- What a computation may do to the frames that it finds. -/
  leaves : Frames → Frames → Prop
  refl (f : Frames) : leaves f f
  trans {f g h : Frames} : leaves f g → leaves g h → leaves f h
  bound (f : Frames) (name : String) (value : Symbol) : leaves f (f.define name value)
  closed {f f' : Frames} : leaves f.push f' → leaves f f'.pop
  pop {f g f' g' : Frames} : same f g → same f' g' → leaves f.push f' → leaves g.push g' →
    same f'.pop g'.pop
  stops : Cause → Prop

namespace Coupling

/-- The same frames, whatever is done to them. -/
def exact (stops : Cause → Prop) : Coupling where
  same := Eq
  lookup h _ := h ▸ rfl
  define _ _ h := h ▸ rfl
  push h := h ▸ rfl
  leaves _ _ := True
  refl _ := trivial
  trans _ _ := trivial
  bound _ _ _ := trivial
  closed _ := trivial
  pop _ h _ _ := h ▸ rfl
  stops := stops

/-- Frames in which the same names are bound to the same symbols. Here the frames around the
innermost one have to be left alone: what is bound behind it cannot be seen from the symbols. -/
def alike : Coupling where
  same := Frames.Alike
  lookup := id
  define name value h := h.define name value
  push := Frames.Alike.push
  leaves f f' := f'.outer = f.outer
  refl _ := rfl
  trans h h' := h'.trans h
  bound _ _ _ := rfl
  closed h := congrArg Frames.outer (Frames.pop_eq_of_outer h)
  pop h _ hf hg := by
    rw [Frames.pop_eq_of_outer hf, Frames.pop_eq_of_outer hg]
    exact h
  stops _ := False

variable (K : Coupling)

/-- States in which two runs may stand. -/
structure States (s t : State) : Prop where
  depth : s.depth = t.depth
  includes : s.environment.includes = t.environment.includes
  frames : K.same s.environment.frames t.environment.frames
  genuine : s.environment.cache.Genuine ∧ t.environment.cache.Genuine

/-- What a computation may make of a state. -/
structure Leads (s s' : State) : Prop where
  frames : K.leaves s.environment.frames s'.environment.frames
  cache : s'.environment.cache.Follows s.environment.cache

/-- How two runs may end: the first one has given up, or both end the same. -/
inductive Outcomes {α : Type} (s t : State) :
    Except Error α × State → Except Error α × State → Prop where
  | stopped {e : Error} {s' : State} {other : Except Error α × State} : K.stops e.cause →
    Outcomes s t (.error e, s') other
  | equal {result : Except Error α} {s' t' : State} : K.Leads s s' → K.Leads t t' →
    K.States s' t' → Outcomes s t (result, s') (result, t')

/-- From related states the runs of `m` and `m'` end the same, unless the first one gives up. -/
def Agree {α : Type} (m m' : Expand α) : Prop :=
  ∀ s t, K.States s t → K.Outcomes s t (m.run s) (m'.run t)

/-- Two limits: the same one, or a lower one that is among the causes for giving up. -/
def Cutoff (cause : Nat → Cause) (limit limit' : Nat) : Prop :=
  limit = limit' ∨ limit ≤ limit' ∧ K.stops (cause limit)

variable {K} {α β : Type}

namespace Leads

theorem refl (s : State) : K.Leads s s := ⟨K.refl _, .refl _⟩

theorem trans {s t u : State} (h : K.Leads s t) (h' : K.Leads t u) : K.Leads s u :=
  ⟨K.trans h.frames h'.frames, h.cache.trans h'.cache⟩

end Leads

theorem Outcomes.after {s t u v : State} {r r' : Except Error α × State} (hs : K.Leads u s)
    (ht : K.Leads v t) (h : K.Outcomes s t r r') : K.Outcomes u v r r' := by
  cases h with
  | stopped hc => exact .stopped hc
  | equal hs' ht' h => exact .equal (hs.trans hs') (ht.trans ht') h

namespace Agree

variable {m m' : Expand α}

/-! ## Values and failures -/

theorem pure (a : α) : K.Agree (Pure.pure a) (Pure.pure a) :=
  fun s t h => .equal (.refl s) (.refl t) h

theorem throw (e : Error) : K.Agree (MonadExcept.throw e : Expand α) (MonadExcept.throw e) :=
  fun s t h => .equal (.refl s) (.refl t) h

theorem fail (cause : Cause) : K.Agree (Expand.fail cause : Expand α) (Expand.fail cause) :=
  throw _

/-- The first run gives up. -/
theorem stop {cause : Cause} (h : K.stops cause) : K.Agree (Expand.fail cause) m' :=
  fun _ _ _ => .stopped h

/-- What the first run fails with at its limit is what the second one fails with, or it gives up. -/
theorem limit {cause : Nat → Cause} {limit limit' : Nat} (h : K.Cutoff cause limit limit') :
    K.Agree (Expand.fail (cause limit) : Expand α) (Expand.fail (cause limit')) := by
  rcases h with rfl | ⟨-, h⟩
  · exact fail _
  · exact stop h

/-- Of what the first computation gives, the second one only has to agree on what it can give. -/
theorem bindOf {V : α → Prop} {f f' : α → Expand β} (hm : K.Agree m m')
    (hv : ∀ s a, (m.run s).1 = .ok a → V a) (hf : ∀ a, V a → K.Agree (f a) (f' a)) :
    K.Agree (m >>= f) (m' >>= f') := by
  intro s t h
  rw [Expand.run_bind, Expand.run_bind]
  have ho := hm s t h
  have hs := hv s
  generalize m.run s = x at ho hs ⊢
  generalize m'.run t = y at ho ⊢
  cases ho with
  | stopped hc => exact .stopped hc
  | @equal result s' t' hs' ht' h' =>
    cases result with
    | error e => exact .equal hs' ht' h'
    | ok a => exact (hf a (hs a rfl) s' t' h').after hs' ht'

theorem bind {f f' : α → Expand β} (hm : K.Agree m m') (hf : ∀ a, K.Agree (f a) (f' a)) :
    K.Agree (m >>= f) (m' >>= f') :=
  bindOf hm (fun _ _ _ => trivial) fun a _ => hf a

theorem seq {m m' : Expand PUnit} {n n' : Expand β} (hm : K.Agree m m') (hn : K.Agree n n') :
    K.Agree (do m; n) (do m'; n') :=
  bind hm fun _ => hn

/-- A failure may be answered where the first run never gives up. -/
theorem tryCatch {f f' : Error → Expand α} (hstops : ∀ cause, ¬ K.stops cause)
    (hm : K.Agree m m') (hf : ∀ e, K.Agree (f e) (f' e)) :
    K.Agree (MonadExcept.tryCatch m f) (MonadExcept.tryCatch m' f') := by
  intro s t h
  rw [Expand.run_tryCatch, Expand.run_tryCatch]
  have ho := hm s t h
  generalize m.run s = x at ho ⊢
  generalize m'.run t = y at ho ⊢
  cases ho with
  | stopped hc => exact absurd hc (hstops _)
  | @equal result s' t' hs ht h' =>
    cases result with
    | ok a => exact .equal hs ht h'
    | error e => exact (hf e s' t' h').after hs ht

/-! ## The state -/

theorem get {f f' : State → Expand β} (hf : ∀ s t, K.States s t → K.Agree (f s) (f' t)) :
    K.Agree (MonadState.get >>= f) (MonadState.get >>= f') := by
  intro s t h
  rw [Expand.run_bind, Expand.run_bind]
  exact hf s t h s t h

/-- Of its environment a computation sees the symbols and the open documents. -/
theorem environment {f f' : Environment → Expand β}
    (hf : ∀ env env', (∀ name, env.lookup name = env'.lookup name) →
      env.includes = env'.includes → K.Agree (f env) (f' env')) :
    K.Agree (Expand.environment >>= f) (Expand.environment >>= f') := by
  intro s t h
  rw [Expand.run_bind, Expand.run_bind]
  exact hf _ _ (K.lookup h.frames) h.includes s t h

theorem define (name : String) (value : Symbol) :
    K.Agree (Expand.define name value) (Expand.define name value) :=
  fun _ _ h => .equal ⟨K.bound _ _ _, .refl _⟩ ⟨K.bound _ _ _, .refl _⟩
    ⟨h.depth, h.includes, K.define name value h.frames, h.genuine⟩

theorem expression (source : String) :
    K.Agree (Expand.expression source) (Expand.expression source) := by
  intro s t h
  rw [Expand.run_expression, Expand.run_expression, Environment.expression_fst h.genuine.1,
    Environment.expression_fst h.genuine.2]
  obtain ⟨c, hc, hs⟩ := s.environment.expression_snd source
  obtain ⟨c', hc', ht⟩ := t.environment.expression_snd source
  rw [hs, ht]
  exact .equal ⟨K.refl _, hc⟩ ⟨K.refl _, hc'⟩
    ⟨h.depth, h.includes, h.frames, hc.genuine h.genuine.1, hc'.genuine h.genuine.2⟩

/-! ## What is opened and closed -/

/-- What is opened before and closed after a computation, if both keep states related. -/
theorem within {enter leave : State → State} (hm : K.Agree m m')
    (he : ∀ s t, K.States s t → K.States (enter s) (enter t))
    (hl : ∀ s s', K.Leads (enter s) s' → K.Leads s (leave s'))
    (hlr : ∀ s t s' t', K.States s t → K.States s' t' → K.Leads (enter s) s' →
      K.Leads (enter t) t' → K.States (leave s') (leave t')) :
    K.Agree (Expand.within enter leave m) (Expand.within enter leave m') := by
  intro s t h
  rw [Expand.run_within, Expand.run_within]
  have ho := hm _ _ (he s t h)
  generalize m.run (enter s) = x at ho ⊢
  generalize m'.run (enter t) = y at ho ⊢
  cases ho with
  | stopped hc => exact .stopped hc
  | equal hs ht h' => exact .equal (hl _ _ hs) (hl _ _ ht) (hlr _ _ _ _ h h' hs ht)

theorem call (hm : K.Agree m m') : K.Agree (Expand.call m) (Expand.call m') :=
  within hm (fun _ _ h => ⟨h.depth, h.includes, K.push h.frames, h.genuine⟩)
    (fun _ _ h => ⟨K.closed h.frames, h.cache⟩)
    fun _ _ _ _ h h' hs ht =>
      ⟨h'.depth, h'.includes, K.pop h.frames h'.frames hs.frames ht.frames, h'.genuine⟩

theorem opening (uri : Uri) (hm : K.Agree m m') :
    K.Agree (Expand.opening uri m) (Expand.opening uri m') :=
  within hm (fun _ _ h => ⟨h.depth, congrArg (uri :: ·) h.includes, h.frames, h.genuine⟩)
    (fun _ _ h => ⟨h.frames, h.cache⟩)
    fun _ _ _ _ _ h' _ _ => ⟨h'.depth, congrArg List.tail h'.includes, h'.frames, h'.genuine⟩

/-- The depth is the same in both runs, so the lower limit is reached first. -/
theorem descend {limit limit' : Nat} (hc : K.Cutoff .recursionLimit limit limit')
    (hm : K.Agree m m') : K.Agree (Expand.descend limit m) (Expand.descend limit' m') := by
  refine get fun s t h => ?_
  have inner : K.Agree
      (Expand.within (fun s => { s with depth := s.depth + 1 })
        (fun s => { s with depth := s.depth - 1 }) m)
      (Expand.within (fun s => { s with depth := s.depth + 1 })
        (fun s => { s with depth := s.depth - 1 }) m') :=
    within hm (fun _ _ h => ⟨congrArg (· + 1) h.depth, h.includes, h.frames, h.genuine⟩)
      (fun _ _ h => ⟨h.frames, h.cache⟩)
      fun _ _ _ _ _ h' _ _ => ⟨congrArg (· - 1) h'.depth, h'.includes, h'.frames, h'.genuine⟩
  rw [h.depth]
  by_cases hd : limit ≤ t.depth
  · rw [if_pos hd]
    rcases hc with rfl | ⟨-, hstop⟩
    · rw [if_pos hd]
      exact fail _
    · exact stop hstop
  · have hle : limit ≤ limit' := hc.elim Nat.le_of_eq And.left
    rw [if_neg hd, if_neg fun hd' => hd (hle.trans hd')]
    exact inner

theorem locate (tag : Markup.Tag) (hm : K.Agree m m') :
    K.Agree (Expand.locate tag m) (Expand.locate tag m') := by
  intro s t h
  rw [Expand.run_locate, Expand.run_locate]
  have ho := hm s t h
  generalize m.run s = x at ho ⊢
  generalize m'.run t = y at ho ⊢
  cases ho with
  | stopped hc => exact .stopped ((Error.cause_locate _ _).symm ▸ hc)
  | @equal result s' t' hs ht h' =>
    cases result with
    | ok a => exact .equal hs ht h'
    | error e =>
      dsimp only
      rw [Environment.currentDocument?, Environment.currentDocument?, h'.includes]
      exact .equal hs ht h'

end Agree

end Coupling

end Expansion

end XmlTemplate
