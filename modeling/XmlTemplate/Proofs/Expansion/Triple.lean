import Mathlib
import XmlTemplate.Expansion.Run

/-!
# What computations keep

A computation may bind names in the innermost frame and nothing else, whether it succeeds or
fails: what it opens, it closes.

* `Returns V m`: whatever `m` gives satisfies `V`.
* `Framed`: how the state after a computation relates to the one before it.
* `Keeps S V m`: from a state whose symbols hold nodes of `S` only, `m` comes to a framed state
  of the same kind, and what it gives satisfies `V`.
* `Keeps.bind`, `Keeps.call`, `Keeps.descend`, ...: one rule for each way to build a computation.
  `call_frames` is the rule for frames: none that was there before is changed.
-/

namespace XmlTemplate

open Markup

/-- A symbol whose nodes satisfy `S`. -/
def Symbol.Of (S : Node → Prop) : Symbol → Prop
  | .text _ => True
  | .nodes ns => ∀ n ∈ ns, S n

/-- The names that a frame binds. -/
def Frame.Binds (f : Frame) (name : String) : Prop := (f.lookup name).isSome = true

namespace Frames

/-- Every symbol that is bound satisfies `P`, also those that others hide. -/
def Forall (P : Symbol → Prop) (f : Frames) : Prop := ∀ frame ∈ f.toList, ∀ b ∈ frame, P b.2

variable {P : Symbol → Prop} {f : Frames}

theorem Forall.of_lookup {name : String} {value : Symbol} (h : f.Forall P)
    (hl : f.lookup name = some value) : P value := by
  obtain ⟨frame, hf, hb⟩ := List.exists_of_findSome?_eq_some hl
  obtain ⟨before, after, hb, -⟩ := List.lookup_eq_some_iff.mp hb
  exact h frame hf (name, value) (by simp [hb])

theorem Forall.define (h : f.Forall P) (name : String) {value : Symbol} (hv : P value) :
    (f.define name value).Forall P := by
  intro frame hf b hb
  simp only [toList, Frames.define, List.mem_cons] at hf
  rcases hf with rfl | hf
  · rcases List.mem_cons.mp hb with rfl | hb
    · exact hv
    · exact h f.inner (by simp [toList]) b hb
  · exact h frame (by simp [toList, hf]) b hb

theorem Forall.push (h : f.Forall P) : f.push.Forall P := by
  intro frame hf b hb
  rcases List.mem_cons.mp hf with rfl | hf
  · cases hb
  · exact h frame hf b hb

/-- Whatever has been bound in a frame since it was opened, without it the frames are as before. -/
theorem pop_eq_of_outer {g : Frames} (h : g.outer = f.push.outer) : g.pop = f := by
  unfold Frames.pop
  rw [h]
  rfl

theorem Forall.pop (h : f.Forall P) : f.pop.Forall P := by
  intro frame hf b hb
  refine h frame ?_ b hb
  unfold Frames.pop at hf
  split at hf
  · exact hf
  · rename_i ho
    simp only [toList, ho, List.mem_cons] at hf ⊢
    exact Or.inr hf

end Frames

namespace Expansion

/-! ## Runs -/

section Runs

variable {α β : Type} (m : Expand α) (s : State)

theorem Expand.run_bind (f : α → Expand β) :
    (m >>= f).run s = match m.run s with
      | (.ok a, t) => (f a).run t
      | (.error e, t) => (.error e, t) := by
  unfold ExceptT.run
  simp only [bind, ExceptT.bind, ExceptT.mk, StateT.bind, ExceptT.bindCont]
  cases m s with
  | mk r t => cases r <;> rfl

variable {m s} in
/-- A run that succeeds ran both parts, the second one from where the first one came to. -/
theorem Expand.of_run_bind {f : α → Expand β} {b : β} {t : State}
    (h : (m >>= f).run s = (.ok b, t)) :
    ∃ a, (m.run s).1 = .ok a ∧ (f a).run (m.run s).2 = (.ok b, t) := by
  rw [Expand.run_bind] at h
  split at h
  · rename_i a u hm
    exact ⟨a, by rw [hm], by rw [hm]; exact h⟩
  · cases h

theorem Expand.run_within (enter leave : State → State) :
    (Expand.within enter leave m).run s = ((m.run (enter s)).1, leave (m.run (enter s)).2) := rfl

theorem Expand.run_tryCatch (f : Error → Expand α) :
    (tryCatch m f).run s = match m.run s with
      | (.ok a, t) => (.ok a, t)
      | (.error e, t) => (f e).run t := by
  unfold ExceptT.run
  simp only [tryCatch, tryCatchThe, MonadExceptOf.tryCatch, ExceptT.tryCatch, ExceptT.mk, bind,
    StateT.bind]
  cases m s with
  | mk r t => cases r <;> rfl

theorem Expand.run_locate (tag : Tag) :
    (Expand.locate tag m).run s = match m.run s with
      | (.ok a, t) => (.ok a, t)
      | (.error e, t) =>
        (.error (e.locate ⟨tag.name.qualified, tag.document <|> t.environment.currentDocument?,
          tag.position⟩), t) := by
  unfold Expand.locate
  rw [ExceptT.run_mk]
  cases m.run s with
  | mk r t => cases r <;> rfl

theorem Expand.run_expression (source : String) :
    (Expand.expression source).run s =
      (match (s.environment.expression source).1 with
        | .ok e => .ok e
        | .error e => .error (.ofCause (.ofExpr source e)),
      { s with environment := (s.environment.expression source).2 }) := by
  unfold Expand.expression
  rw [Expand.run_bind]
  have hget : (get : Expand State).run s = (.ok s, s) := rfl
  rw [hget]
  dsimp only
  cases s.environment.expression source with
  | mk r environment => cases r <;> rfl

theorem Expand.run_descend (limit : Nat) :
    (Expand.descend limit m).run s =
      if limit ≤ s.depth then (.error (.ofCause (.recursionLimit limit)), s)
      else ((m.run { s with depth := s.depth + 1 }).1,
        { (m.run { s with depth := s.depth + 1 }).2 with
          depth := (m.run { s with depth := s.depth + 1 }).2.depth - 1 }) := by
  unfold Expand.descend
  rw [Expand.run_bind]
  have hget : (get : Expand State).run s = (.ok s, s) := rfl
  rw [hget]
  dsimp only
  split <;> rfl

variable (options : Options) (href : String) in
/-- The document that an inclusion opens, and its URI. -/
def documentFor (env : Environment) : Except Cause (Uri × Document) :=
  match Uri.resolve env.currentDocument? href with
  | .error e => .error (.includeNotFound href (.invalidUri href e))
  | .ok uri =>
    if env.isOpen uri then .error (.includeCycle uri)
    else
      match options.loader uri with
      | .error (.malformed _ e) => .error (.parse e)
      | .error e => .error (.includeNotFound href e)
      | .ok d => .ok (uri, d)

/-- An inclusion that opens nothing leaves the state as it is. -/
theorem run_withInclude (options : Options) (href : String) (body : Document → Expand α) :
    (withInclude options href body).run s =
      match documentFor options href s.environment with
      | .error cause => (.error (.ofCause cause), s)
      | .ok (uri, d) => (Expand.descend options.maxDepth (Expand.opening uri (body d))).run s := by
  have henvironment : Expand.environment.run s = (.ok s.environment, s) := rfl
  unfold withInclude resolve documentFor
  rw [Expand.run_bind, Expand.run_bind, henvironment]
  dsimp only
  cases Uri.resolve s.environment.currentDocument? href with
  | error e => rfl
  | ok uri =>
    show ((Expand.environment >>= fun env => if env.isOpen uri then _ else _ : Expand α)).run s = _
    rw [Expand.run_bind, henvironment]
    dsimp only
    split
    · rfl
    · cases options.loader uri with
      | error e => cases e <;> rfl
      | ok d => rfl

theorem documentFor_eq_ok {options : Options} {href : String} {env : Environment} {uri : Uri}
    {d : Document} : documentFor options href env = .ok (uri, d) ↔
      Uri.resolve env.currentDocument? href = .ok uri ∧ env.isOpen uri = false ∧
        options.loader uri = .ok d := by
  constructor
  · intro h
    unfold documentFor at h
    split at h
    · cases h
    · rename_i hresolve
      split at h
      · cases h
      · rename_i hopen
        split at h
        · cases h
        · cases h
        · rename_i hload
          cases h
          exact ⟨hresolve, Bool.eq_false_iff.mpr hopen, hload⟩
  · rintro ⟨hresolve, hopen, hload⟩
    simp [documentFor, hresolve, hopen, hload]

theorem Expander.run_atLevel (options : Options) (body : Level → Expand α) :
    (Expander.atLevel options body).run s =
      (body (below options (options.maxDepth - s.depth))).run s := by
  unfold Expander.atLevel
  rw [Expand.run_bind]
  rfl

end Runs

/-! ## Values -/

/-- Whatever is returned satisfies `V`. -/
def Returns {α : Type} (V : α → Prop) (m : Expand α) : Prop := ∀ s a, (m.run s).1 = .ok a → V a

namespace Returns

variable {α β : Type} {V : α → Prop} {W : β → Prop} {m : Expand α}

theorem pure {a : α} (h : V a) : Returns V (Pure.pure a : Expand α) :=
  fun _ _ e => by cases e; exact h

theorem fail (cause : Cause) : Returns V (Expand.fail cause : Expand α) := fun _ _ e => by cases e

theorem mono {V' : α → Prop} (hm : Returns V m) (h : ∀ a, V a → V' a) : Returns V' m :=
  fun s a e => h a (hm s a e)

theorem bind {f : α → Expand β} (hm : Returns V m) (hf : ∀ a, V a → Returns W (f a)) :
    Returns W (m >>= f) := by
  intro s b h
  obtain ⟨a, ha, hb⟩ := Expand.of_run_bind (Prod.ext h rfl)
  exact hf a (hm s a ha) _ b (congrArg Prod.fst hb)

theorem within (enter leave : State → State) (hm : Returns V m) :
    Returns V (Expand.within enter leave m) :=
  fun s a e => hm (enter s) a e

theorem descend (limit : Nat) (hm : Returns V m) : Returns V (Expand.descend limit m) := by
  intro s a h
  rw [Expand.run_descend] at h
  split at h
  · cases h
  · exact hm _ a h

theorem locate (tag : Tag) (hm : Returns V m) : Returns V (Expand.locate tag m) := by
  intro s a h
  refine hm s a ?_
  rw [Expand.run_locate] at h
  revert h
  cases m.run s with
  | mk r t =>
    cases r with
    | ok b => exact id
    | error e => exact fun h => by cases h

theorem withInclude {options : Options} (href : String) {body : Document → Expand α}
    (hb : ∀ d, Returns V (body d)) : Returns V (withInclude options href body) := by
  intro s a h
  rw [run_withInclude] at h
  split at h
  · cases h
  · exact ((hb _).within _ _).descend _ s a h

end Returns

/-! ## Framed states -/

/-- What a computation may do to the state. -/
structure Framed (s t : State) : Prop where
  depth : t.depth = s.depth
  includes : t.environment.includes = s.environment.includes
  outer : t.environment.frames.outer = s.environment.frames.outer
  bound : ∀ name, s.environment.frames.inner.Binds name → t.environment.frames.inner.Binds name

namespace Framed

theorem refl (s : State) : Framed s s := ⟨rfl, rfl, rfl, fun _ h => h⟩

theorem trans {s t u : State} (h₁ : Framed s t) (h₂ : Framed t u) : Framed s u :=
  ⟨h₂.depth.trans h₁.depth, h₂.includes.trans h₁.includes, h₂.outer.trans h₁.outer,
    fun name h => h₂.bound name (h₁.bound name h)⟩

end Framed

/-- All symbols of a state hold nodes of `S` only. -/
def State.Of (S : Node → Prop) (s : State) : Prop := s.environment.frames.Forall (Symbol.Of S)

theorem State.initial_of {S : Node → Prop} (options : Options) (uri : Option Uri) :
    (State.initial options uri).Of S := by
  have step (definitions : List (String × String)) (env : Environment)
      (h : env.frames.Forall (Symbol.Of S)) :
      (definitions.foldl (fun env b => env.defineText b.1 b.2) env).frames.Forall
        (Symbol.Of S) := by
    induction definitions generalizing env with
    | nil => exact h
    | cons b rest ih => exact ih _ (h.define b.1 (show (Symbol.text b.2).Of S from trivial))
  have hempty : (Environment.ofCapacity options.cacheSize).frames.Forall (Symbol.Of S) := by
    intro frame hf b hb
    rw [List.mem_singleton.mp hf] at hb
    cases hb
  have h := step options.definitions _ hempty
  cases uri with
  | none => exact h
  | some uri => exact h

/-- From states whose symbols hold nodes of `S` only, `m` comes to framed states of the same kind,
and what it gives satisfies `V`. -/
def Keeps (S : Node → Prop) {α : Type} (V : α → Prop) (m : Expand α) : Prop :=
  ∀ s, s.Of S → Framed s (m.run s).2 ∧ (m.run s).2.Of S ∧ ∀ a, (m.run s).1 = .ok a → V a

namespace Keeps

variable {S : Node → Prop} {α β : Type} {V : α → Prop} {W : β → Prop} {m : Expand α}

/-! ## Values and failures -/

theorem pure {a : α} (h : V a) : Keeps S V (Pure.pure a : Expand α) :=
  fun s hs => ⟨.refl s, hs, fun _ e => by cases e; exact h⟩

theorem throw (e : Error) : Keeps S V (MonadExcept.throw e : Expand α) :=
  fun s hs => ⟨.refl s, hs, fun _ e => by cases e⟩

theorem fail (cause : Cause) : Keeps S V (Expand.fail cause : Expand α) := throw _

theorem mono {V' : α → Prop} (hm : Keeps S V m) (h : ∀ a, V a → V' a) : Keeps S V' m :=
  fun s hs => ⟨(hm s hs).1, (hm s hs).2.1, fun a e => h a ((hm s hs).2.2 a e)⟩

theorem bind {f : α → Expand β} (hm : Keeps S V m) (hf : ∀ a, V a → Keeps S W (f a)) :
    Keeps S W (m >>= f) := by
  intro s hs
  rw [Expand.run_bind]
  obtain ⟨h₁, h₂, h₃⟩ := hm s hs
  revert h₁ h₂ h₃
  obtain ⟨r, t⟩ := m.run s
  cases r with
  | error e => exact fun h₁ h₂ _ => ⟨h₁, h₂, fun _ h => by cases h⟩
  | ok a =>
    intro h₁ h₂ h₃
    obtain ⟨h₁', h₂', h₃'⟩ := hf a (h₃ a rfl) t h₂
    exact ⟨h₁.trans h₁', h₂', h₃'⟩

theorem seq {m : Expand PUnit} {n : Expand β} (hm : Keeps S (fun _ => True) m) (hn : Keeps S W n) :
    Keeps S W (do m; n) :=
  bind hm fun _ _ => hn

/-- A failure may be answered by another computation. -/
theorem tryCatch {f : Error → Expand α} (hm : Keeps S V m) (hf : ∀ e, Keeps S V (f e)) :
    Keeps S V (MonadExcept.tryCatch m f) := by
  intro s hs
  rw [Expand.run_tryCatch]
  obtain ⟨h₁, h₂, h₃⟩ := hm s hs
  revert h₁ h₂ h₃
  obtain ⟨r, t⟩ := m.run s
  cases r with
  | ok a => exact fun h₁ h₂ h₃ => ⟨h₁, h₂, h₃⟩
  | error e =>
    intro h₁ h₂ _
    obtain ⟨h₁', h₂', h₃'⟩ := hf e t h₂
    exact ⟨h₁.trans h₁', h₂', h₃'⟩

/-! ## The state -/

theorem get : Keeps S (fun s => s.Of S) (MonadState.get : Expand State) :=
  fun s hs => ⟨.refl s, hs, fun _ e => by cases e; exact hs⟩

theorem environment :
    Keeps S (fun env => env.frames.Forall (Symbol.Of S)) Expand.environment :=
  fun s hs => ⟨.refl s, hs, fun _ e => by cases e; exact hs⟩

theorem define (name : String) {value : Symbol} (h : value.Of S) :
    Keeps S (fun _ => True) (Expand.define name value) := by
  intro s hs
  refine ⟨⟨rfl, rfl, rfl, fun other ho => ?_⟩, hs.define name h, fun _ _ => trivial⟩
  show (((name, value) :: s.environment.frames.inner).lookup other).isSome = true
  rw [List.lookup_cons]
  split
  · rfl
  · exact ho

theorem expression (source : String) : Keeps S (fun _ => True) (Expand.expression source) := by
  intro s hs
  have hframes : (s.environment.expression source).2.frames = s.environment.frames ∧
      (s.environment.expression source).2.includes = s.environment.includes := by
    unfold Environment.expression
    split
    · exact ⟨rfl, rfl⟩
    · split <;> exact ⟨rfl, rfl⟩
  rw [Expand.run_expression]
  refine ⟨⟨rfl, hframes.2, ?_, ?_⟩, ?_, fun _ _ => trivial⟩
  · rw [hframes.1]
  · rw [hframes.1]; exact fun _ h => h
  · show Frames.Forall _ (s.environment.expression source).2.frames
    rw [hframes.1]
    exact hs

/-! ## What is opened and closed -/

theorem of_pushed {s : State} (hs : s.Of S) :
    State.Of S ⟨{ s.environment with frames := s.environment.frames.push }, s.depth⟩ := hs.push

/-- The frames after a call are those before it, each with the bindings that it had. -/
theorem call_frames (hm : Keeps S V m) {s : State} (hs : s.Of S) :
    ((Expand.call m).run s).2.environment.frames = s.environment.frames := by
  unfold Expand.call
  rw [Expand.run_within]
  exact Frames.pop_eq_of_outer (hm _ (of_pushed hs)).1.outer

theorem call (hm : Keeps S V m) : Keeps S V (Expand.call m) := by
  intro s hs
  have hf := call_frames hm hs
  unfold Expand.call at hf ⊢
  rw [Expand.run_within] at hf ⊢
  obtain ⟨h₁, h₂, h₃⟩ := hm _ (of_pushed hs)
  refine ⟨⟨h₁.depth, h₁.includes, congrArg Frames.outer hf, fun name h => ?_⟩, h₂.pop, h₃⟩
  rw [hf]
  exact h

theorem opening (uri : Uri) (hm : Keeps S V m) : Keeps S V (Expand.opening uri m) := by
  intro s hs
  unfold Expand.opening
  rw [Expand.run_within]
  obtain ⟨h₁, h₂, h₃⟩ := hm { s with environment := s.environment.pushInclude uri } hs
  exact ⟨⟨h₁.depth, congrArg List.tail h₁.includes, h₁.outer, h₁.bound⟩, h₂, h₃⟩

theorem descend (limit : Nat) (hm : Keeps S V m) : Keeps S V (Expand.descend limit m) := by
  refine bind get fun before _ => ?_
  split
  · exact fail _
  · intro s hs
    rw [Expand.run_within]
    obtain ⟨h₁, h₂, h₃⟩ := hm { s with depth := s.depth + 1 } hs
    refine ⟨⟨?_, h₁.includes, h₁.outer, h₁.bound⟩, h₂, h₃⟩
    simp only [h₁.depth, Nat.add_sub_cancel]

theorem locate (tag : Tag) (hm : Keeps S V m) : Keeps S V (Expand.locate tag m) := by
  intro s hs
  obtain ⟨h₁, h₂, h₃⟩ := hm s hs
  rw [Expand.run_locate]
  revert h₁ h₂ h₃
  cases m.run s with
  | mk r t =>
    cases r with
    | ok a => exact fun h₁ h₂ h₃ => ⟨h₁, h₂, h₃⟩
    | error e => exact fun h₁ h₂ _ => ⟨h₁, h₂, fun _ h => by cases h⟩

end Keeps

end Expansion

end XmlTemplate
