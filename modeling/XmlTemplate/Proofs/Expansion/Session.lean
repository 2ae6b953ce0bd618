import XmlTemplate.Proofs.Expansion.Lockstep

/-!
# What cannot be observed

How symbols are spread over frames cannot be found out with an expander, whatever is done with it
one operation after another, nor how many expressions are remembered.

* `Session.run_agree`: sessions whose operations agree.
* `session_alike`: symbols are all that can be seen of the frames.
* `EnvironmentOperation`: what the environment of an expander does by itself.
* `cache_invisible`: sessions go the same way whatever is remembered, and come through states only
  whose caches hold what is read anyway.
-/

namespace XmlTemplate.Expansion

open Markup

/-- Sessions agree if their operations do. -/
theorem Session.run_agree {Op : Type → Type} [Performs Op] {K : Coupling} {o o' : Options}
    (ho : K.Settings o o') (hstops : ∀ cause, ¬ K.stops cause)
    (hop : ∀ {α : Type} (op : Op α), K.Agree (Performs.perform o op) (Performs.perform o' op))
    {α : Type} (p : Session Op α) : K.Agree (p.run o) (p.run o') := by
  induction p with
  | pure a => exact .pure a
  | bind m f hm hf => exact .bind hm hf
  | throw e => exact .throw e
  | tryCatch m f hm hf => exact .tryCatch hstops hm hf
  | operation op => exact hop op
  | call m hm => exact .call hm
  | withInclude href body hb => exact Coupling.withInclude_agree ho href hb

/-! ## The frames -/

/-- States of the same level with the same documents open, in which every name is bound to the same
symbol. -/
structure State.Alike (s t : State) : Prop where
  depth : s.depth = t.depth
  includes : s.environment.includes = t.environment.includes
  lookup (name : String) : s.environment.lookup name = t.environment.lookup name
  genuine : s.environment.cache.Genuine ∧ t.environment.cache.Genuine

/-- **The frames are one map.** However symbols are spread over frames, and whatever is hidden
behind others: if all names are bound to the same symbols, a session gives the same result or fails
with the same error, and afterwards all names are bound to the same symbols again. -/
theorem session_alike (options : Options) {α : Type} (p : Session Operation α) {s t : State}
    (h : s.Alike t) :
    ((p.run options).run s).1 = ((p.run options).run t).1 ∧
      ((p.run options).run s).2.Alike ((p.run options).run t).2 := by
  have hagree := Session.run_agree (K := .alike) (.refl options) (fun _ => id)
    (Operation.agree (.refl options)) p
  have ho := hagree s t ⟨h.depth, h.includes, h.lookup, h.genuine⟩
  generalize (p.run options).run s = x at ho ⊢
  generalize (p.run options).run t = y at ho ⊢
  cases ho with
  | stopped hc => exact hc.elim
  | equal _ _ h' => exact ⟨rfl, h'.depth, h'.includes, h'.frames, h'.genuine⟩

/-- A symbol in the innermost frame, and one that it hides. -/
def hidingState : State :=
  ⟨⟨⟨[("a", .text "1")], [[("a", .text "2"), ("b", .text "3")]]⟩, [], .ofCapacity 1⟩, 0⟩

/-- The same symbols in a single frame. -/
def flatState : State := ⟨⟨⟨[("a", .text "1"), ("b", .text "3")], []⟩, [], .ofCapacity 0⟩, 0⟩

/-- A text is expanded after a call in which a symbol of it was bound again. -/
def rebindingSession : Session Operation String :=
  .bind (.call (.operation (.define "b" (.text "4")))) fun _ =>
    .operation (.interpolateText "\x7ba\x7d\x7bb\x7d")

theorem session_alike_hiding :
    hidingState.Alike flatState ∧
      ((rebindingSession.run (.standard (Loader.ofTexts []))).run hidingState).1 = .ok "13" ∧
      ((rebindingSession.run (.standard (Loader.ofTexts []))).run flatState).1 = .ok "13" := by
  have halike : hidingState.Alike flatState := by
    refine ⟨rfl, rfl, fun name => ?_, Cache.genuine_ofCapacity _, Cache.genuine_ofCapacity _⟩
    simp only [hidingState, flatState, Environment.lookup, Frames.lookup, Frames.toList,
      List.findSome?_cons, List.lookup_cons]
    cases name == "a" <;> cases name == "b" <;> rfl
  have hrun : ((rebindingSession.run (.standard (Loader.ofTexts []))).run hidingState).1 =
      .ok "13" := by decide +kernel
  exact ⟨halike, hrun, (session_alike _ rebindingSession halike).1 ▸ hrun⟩

/-! ## The cache -/

/-- What an environment does by itself. -/
inductive EnvironmentOperation : Type → Type where
  | isDefined (name : String) : EnvironmentOperation Bool
  | depth : EnvironmentOperation Nat
  | pushFrame : EnvironmentOperation Unit
  | popFrame : EnvironmentOperation Unit
  | isOpen (uri : Uri) : EnvironmentOperation Bool
  | currentDocument : EnvironmentOperation (Option Uri)
  | pushInclude (uri : Uri) : EnvironmentOperation Unit
  | popInclude : EnvironmentOperation Unit
  | expression (source : String) : EnvironmentOperation (Except Expr.Error Expression)

/-- What an operation gives, and the environment after it. -/
def EnvironmentOperation.perform {α : Type} :
    EnvironmentOperation α → Environment → α × Environment
  | .isDefined name, env => (env.isDefined name, env)
  | .depth, env => (env.depth, env)
  | .pushFrame, env => ((), { env with frames := env.frames.push })
  | .popFrame, env => ((), { env with frames := env.frames.pop })
  | .isOpen uri, env => (env.isOpen uri, env)
  | .currentDocument, env => (env.currentDocument?, env)
  | .pushInclude uri, env => ((), env.pushInclude uri)
  | .popInclude, env => ((), env.popInclude)
  | .expression source, env => env.expression source

/-- What an expander does, or its environment by itself. -/
inductive AnyOperation (α : Type) where
  | expander (op : Operation α)
  | environment (op : EnvironmentOperation α)

instance : Performs AnyOperation where
  perform options
    | .expander op => Performs.perform options op
    | .environment op => ExceptT.mk fun s =>
      (.ok (op.perform s.environment).1, { s with environment := (op.perform s.environment).2 })

/-- States that differ in what they remember at most. Both remember only what is read from a text,
and not more than they have room for. -/
structure State.Twin (s t : State) : Prop where
  depth : s.depth = t.depth
  includes : s.environment.includes = t.environment.includes
  frames : s.environment.frames = t.environment.frames
  genuine : s.environment.cache.Genuine ∧ t.environment.cache.Genuine
  bounded : s.environment.cache.Bounded ∧ t.environment.cache.Bounded

/-- Runs that are never given up, from the same frames. -/
def twins : Coupling := .exact fun _ => False

theorem State.Twin.states {s t : State} (h : s.Twin t) : twins.States s t :=
  ⟨h.depth, h.includes, h.frames, h.genuine⟩

theorem State.Twin.inCall {s t : State} (h : s.Twin t) : s.inCall.Twin t.inCall :=
  ⟨h.depth, h.includes, congrArg Frames.push h.frames, h.genuine, h.bounded⟩

theorem State.Twin.including {s t : State} (h : s.Twin t) (uri : Uri) :
    (s.including uri).Twin (t.including uri) :=
  ⟨congrArg (· + 1) h.depth, congrArg (uri :: ·) h.includes, h.frames, h.genuine, h.bounded⟩

theorem EnvironmentOperation.agree {o o' : Options} {α : Type} (op : EnvironmentOperation α) :
    twins.Agree (Performs.perform o (AnyOperation.environment op))
      (Performs.perform o' (AnyOperation.environment op)) := by
  rintro ⟨⟨f, opened, c⟩, depth⟩ ⟨⟨f', opened', c'⟩, depth'⟩ h
  obtain ⟨hdepth, hopened, hframes, hg, hg'⟩ := h
  dsimp only at hdepth hopened hframes hg hg'
  subst hdepth hopened hframes
  have unread {a : α} {f' : Frames} {opened' : List Uri} : twins.Outcomes
      ⟨⟨f, opened, c⟩, depth⟩ ⟨⟨f, opened, c'⟩, depth⟩
      (.ok a, ⟨⟨f', opened', c⟩, depth⟩) (.ok a, ⟨⟨f', opened', c'⟩, depth⟩) :=
    .equal ⟨trivial, .refl c⟩ ⟨trivial, .refl c'⟩ ⟨rfl, rfl, rfl, hg, hg'⟩
  cases op with
  | expression source =>
    obtain ⟨d, hd, he⟩ := Environment.expression_snd ⟨f, opened, c⟩ source
    obtain ⟨d', hd', he'⟩ := Environment.expression_snd ⟨f, opened, c'⟩ source
    have hsame : (Environment.expression ⟨f, opened, c⟩ source).1 =
        (Environment.expression ⟨f, opened, c'⟩ source).1 := by
      rw [Environment.expression_fst hg, Environment.expression_fst hg']
    show twins.Outcomes _ _
      (.ok (Environment.expression ⟨f, opened, c⟩ source).1,
        ⟨(Environment.expression ⟨f, opened, c⟩ source).2, depth⟩)
      (.ok (Environment.expression ⟨f, opened, c'⟩ source).1,
        ⟨(Environment.expression ⟨f, opened, c'⟩ source).2, depth⟩)
    rw [hsame, he, he']
    exact .equal ⟨trivial, hd⟩ ⟨trivial, hd'⟩ ⟨rfl, rfl, rfl, hd.genuine hg, hd'.genuine hg'⟩
  | _ => exact unread

theorem AnyOperation.agree {o o' : Options} (ho : twins.Settings o o') {α : Type}
    (op : AnyOperation α) : twins.Agree (Performs.perform o op) (Performs.perform o' op) := by
  cases op with
  | expander op => exact Operation.agree ho op
  | environment op => exact EnvironmentOperation.agree op

section Twins

variable {o o' : Options} (ho : twins.Settings o o')

include ho

/-- A session gives the same in twin states, and comes to twin states. -/
theorem Session.run_twin {α : Type} (p : Session AnyOperation α) {s t : State} (h : s.Twin t) :
    ((p.run o).run s).1 = ((p.run o').run t).1 ∧
      ((p.run o).run s).2.Twin ((p.run o').run t).2 ∧
      ((p.run o).run s).2.environment.cache.Follows s.environment.cache := by
  have houtcome := Session.run_agree ho (fun _ => id) (AnyOperation.agree ho) p s t h.states
  generalize (p.run o).run s = x at houtcome ⊢
  generalize (p.run o').run t = y at houtcome ⊢
  cases houtcome with
  | stopped hc => exact hc.elim
  | equal hs ht h' =>
    exact ⟨rfl, ⟨h'.depth, h'.includes, h'.frames, h'.genuine, hs.cache.bounded h.bounded.1,
      ht.cache.bounded h.bounded.2⟩, hs.cache⟩

/-- Of two sessions from twin states each comes through twins of the states of the other. -/
theorem Session.Visits.twin {α : Type} {p : Session AnyOperation α} {s t u : State}
    (hu : p.Visits o s u) (h : s.Twin t) :
    u.environment.cache.Follows s.environment.cache ∧ ∃ v, p.Visits o' t v ∧ u.Twin v := by
  induction hu generalizing t with
  | start p s => exact ⟨.refl _, t, .start p t, h⟩
  | stop p s =>
    obtain ⟨-, h', hc⟩ := p.run_twin ho h
    exact ⟨hc, _, .stop p t, h'⟩
  | first _ ih =>
    obtain ⟨hc, v, hv, h'⟩ := ih h
    exact ⟨hc, v, .first hv, h'⟩
  | @next _ _ m f s u a ha _ ih =>
    obtain ⟨hr, h', hc⟩ := m.run_twin ho h
    obtain ⟨hc', v, hv, h''⟩ := ih h'
    exact ⟨hc.trans hc', v, .next (hr ▸ ha) hv, h''⟩
  | tried _ ih =>
    obtain ⟨hc, v, hv, h'⟩ := ih h
    exact ⟨hc, v, .tried hv, h'⟩
  | @caught _ m f s u e he _ ih =>
    obtain ⟨hr, h', hc⟩ := m.run_twin ho h
    obtain ⟨hc', v, hv, h''⟩ := ih h'
    exact ⟨hc.trans hc', v, .caught (hr ▸ he) hv, h''⟩
  | called _ ih =>
    obtain ⟨hc, v, hv, h'⟩ := ih h.inCall
    exact ⟨hc, v, .called hv, h'⟩
  | @included _ href body s u uri d hl _ ih =>
    obtain ⟨hc, v, hv, h'⟩ := ih (h.including uri)
    exact ⟨hc, v, .included (ho.loader ▸ hl) hv, h'⟩

end Twins

/-- A cache with room for `n` expressions holds at most so many, each of them what is read from its
text, and nothing for texts that hold no expression. -/
structure Remembers (n : Nat) (c : Cache) : Prop where
  capacity : c.capacity = n
  bounded : c.entries.length ≤ n
  genuine {source : String} {e : Expression} : (source, e) ∈ c.entries →
    Expression.parse source = .ok e
  refused {source : String} {fault : Expr.Error} : Expression.parse source = .error fault →
    ∀ e, (source, e) ∉ c.entries

theorem State.initial_twin (o : Options) (size : Nat) (uri : Option Uri) :
    (State.initial o uri).Twin (State.initial { o with cacheSize := size } uri) := by
  rw [State.initial_eq, State.initial_eq]
  exact ⟨rfl, rfl, rfl, ⟨Cache.genuine_ofCapacity _, Cache.genuine_ofCapacity _⟩,
    Cache.bounded_ofCapacity _, Cache.bounded_ofCapacity _⟩

/-- **The cache is not seen.** Whatever is remembered in the beginning, and for however many
expressions there is room: a session gives the same result or fails with the same error, and it
comes through the same states, caches aside. Wherever it comes through, the cache has the room that
it had, and remembers what it should. -/
theorem cache_invisible (o : Options) (size : Nat) {α : Type} (p : Session AnyOperation α)
    {s t : State} (h : s.Twin t) :
    ((p.run o).run s).1 = ((p.run { o with cacheSize := size }).run t).1 ∧
      ((p.run o).run s).2.Twin ((p.run { o with cacheSize := size }).run t).2 ∧
      ∀ u, p.Visits o s u →
        Remembers s.environment.cache.capacity u.environment.cache ∧
          ∃ v, p.Visits { o with cacheSize := size } t v ∧ u.Twin v := by
  have ho : twins.Settings o { o with cacheSize := size } := ⟨rfl, rfl, .inl rfl, .inl rfl⟩
  obtain ⟨hresult, htwin, -⟩ := p.run_twin ho h
  refine ⟨hresult, htwin, fun u hu => ?_⟩
  obtain ⟨hc, v, hv, huv⟩ := hu.twin ho h
  have hg := huv.genuine.1
  exact ⟨⟨hc.capacity, huv.bounded.1.trans_eq hc.capacity, fun {source e} => hg (source, e),
    hg.not_mem_of_error⟩, v, hv, huv⟩

/-- Two texts that hold expressions, the first of them again, and one that holds none. -/
def readingSession : Session AnyOperation Bool :=
  .bind (.operation (.expander (.evalTruth .collapse "1 < 2"))) fun _ =>
    .bind (.operation (.environment (.expression "1 <"))) fun _ =>
      .operation (.expander (.evalTruth .collapse "1 < 2"))

/-- Without a cache, and with one for two expressions. -/
theorem cache_invisible_reading :
    (State.initial { Options.standard (Loader.ofTexts []) with cacheSize := 0 } none).Twin
        (State.initial { Options.standard (Loader.ofTexts []) with cacheSize := 2 } none) ∧
      ((readingSession.run { Options.standard (Loader.ofTexts []) with cacheSize := 2 }).run
        (State.initial { Options.standard (Loader.ofTexts []) with cacheSize := 2 } none)).1 =
          .ok true := by
  have htwin := State.initial_twin
    { Options.standard (Loader.ofTexts []) with cacheSize := 0 } 2 none
  have hrun : ((readingSession.run { Options.standard (Loader.ofTexts []) with cacheSize := 0 }).run
      (State.initial { Options.standard (Loader.ofTexts []) with cacheSize := 0 } none)).1 =
        .ok true := by decide +kernel
  exact ⟨htwin, (cache_invisible { Options.standard (Loader.ofTexts []) with cacheSize := 0 } 2
    readingSession htwin).1 ▸ hrun⟩

end XmlTemplate.Expansion
