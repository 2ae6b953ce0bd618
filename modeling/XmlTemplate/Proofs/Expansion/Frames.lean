import XmlTemplate.Proofs.Expansion.Results
import XmlTemplate.Proofs.Expansion.Termination

/-!
# Frames, documents and levels are closed again

Whatever is done with an expander, and however it ends, the frames, the open documents and the
level of nesting are those from before; only the innermost frame may have got further names.

* `operation_keeps`, `Session.run_keeps`: operations, and sessions whose operations keep the state
  framed.
* `Inspection`: what an expander does, or a look at its state.
* `session_keeps_frames`: what a session leaves of the state, and what a call around it leaves.
-/

namespace XmlTemplate.Expansion

open Markup

/-! ## Everything may be expanded -/

/-- Every node, in the source or in a result. -/
def AnyNode (_ : Node) : Prop := True

theorem every_anyNode (nodes : List Node) : Every AnyNode nodes := fun _ _ => trivial

theorem expands_anyNode (options : Options) : Expands options AnyNode AnyNode where
  again := id
  child _ := every_anyNode _
  text _ := trivial
  leaf _ _ := trivial
  copy _ _ _ _ := trivial
  build _ _ _ _ _ _ _ _ _ _ _ := trivial
  instruction _ _ := trivial
  loaded _ := every_anyNode _

theorem anyNode_free (options : Options) : (expands_anyNode options).supply.Free where
  source := funext fun x => propext ⟨fun _ => ⟨x (), rfl⟩, fun _ => trivial⟩
  builds _ _ _ _ _ _ _ _ _ _ _ _ := every_anyNode _

theorem State.of_forall {S : Node → Prop} (h : ∀ n, S n) (s : State) : s.Of S := by
  intro frame _ b _
  cases b.2 with
  | text value => trivial
  | nodes ns => exact fun n _ => h n

theorem State.of_anyNode (s : State) : s.Of AnyNode := s.of_forall fun _ => trivial

/-! ## Operations and sessions -/

variable {options : Options} {α : Type}

theorem operation_keeps (options : Options) (op : Operation α) :
    Keeps AnyNode (fun _ => True) (Performs.perform options op) := by
  have hop := Accord.perform_accord (k := 0) (A := keeping (expands_anyNode options))
    (anyNode_free options) (keeping_complete _) (keeping_levelled _)
    (fun k _ => keeping_below _ k _) op
  exact Keeps.mono hop fun _ _ => trivial

/-- A session keeps the state framed if its operations do. -/
theorem Session.run_keeps {Op : Type → Type} [Performs Op]
    (hop : ∀ {α : Type} (op : Op α), Keeps AnyNode (fun _ => True) (Performs.perform options op))
    (p : Session Op α) : Keeps AnyNode (fun _ => True) (p.run options) := by
  induction p with
  | pure a => exact Keeps.pure trivial
  | bind m f hm hf => exact hm.bind fun a _ => hf a
  | throw e => exact Keeps.throw e
  | tryCatch m f hm hf => exact hm.tryCatch hf
  | operation op => exact hop op
  | call m hm => exact hm.call
  | withInclude href body hb => exact withInclude_keeps href fun _ d _ => hb d

/-- What an expander does, or a look at its state. -/
inductive Inspection (α : Type) where
  | expander (op : Operation α)
  | look (view : State → α)

instance : Performs Inspection where
  perform options
    | .expander op => Performs.perform options op
    | .look view => view <$> get

theorem Inspection.keeps (options : Options) (op : Inspection α) :
    Keeps AnyNode (fun _ => True) (Performs.perform options op) := by
  cases op with
  | expander op => exact operation_keeps options op
  | look view => exact Keeps.bind Keeps.get fun s _ => Keeps.pure trivial

/-- **Discipline of frames.** After a session, which may look at the state in between, ended or
failed, there are as many frames as before, the same documents are open and the level is the same;
every frame but the innermost one is unchanged, and the innermost one binds at least the names that
it bound. A call around the session leaves every frame as it was. -/
theorem session_keeps_frames (options : Options) {α : Type} (p : Session Inspection α) (s : State) :
    (((p.run options).run s).2.environment.depth = s.environment.depth ∧
      ((p.run options).run s).2.environment.includes = s.environment.includes ∧
      ((p.run options).run s).2.depth = s.depth ∧
      ((p.run options).run s).2.environment.frames.outer = s.environment.frames.outer ∧
      ∀ name, s.environment.frames.inner.Binds name →
        ((p.run options).run s).2.environment.frames.inner.Binds name) ∧
    (((Session.call p).run options).run s).2.environment.frames = s.environment.frames := by
  have hk := p.run_keeps (Inspection.keeps options)
  obtain ⟨hf, -, -⟩ := hk s s.of_anyNode
  refine ⟨⟨?_, hf.includes, hf.depth, hf.outer, hf.bound⟩, hk.call_frames s.of_anyNode⟩
  show ((p.run options).run s).2.environment.frames.outer.length + 1 =
    s.environment.frames.outer.length + 1
  rw [hf.outer]

/-- A definition, and then a reference to a name that nothing binds. -/
def failingSession : Session Inspection (List Node) :=
  .operation (.expander (.expandNodes .collapse
    [.element ⟨⟨some "pp", "define", some defaultSpace⟩, [⟨.plain "a", "1"⟩], none, none⟩ [],
      .text "\x7bb\x7d"]))

/-- Two frames, some levels down. -/
def nestedState : State :=
  ⟨⟨⟨[("c", .text "2")], [[("d", .text "3")]]⟩, [], .ofCapacity 0⟩, 7⟩

/-- The definition is carried out before the failure; a call takes it back. -/
theorem session_keeps_frames_failing :
    ((failingSession.run (.standard (Loader.ofTexts []))).run nestedState).1 =
        .error (.ofCause (.undefinedSymbol "b")) ∧
      ((failingSession.run (.standard (Loader.ofTexts []))).run
        nestedState).2.environment.frames.inner.Binds "a" ∧
      ((failingSession.run (.standard (Loader.ofTexts []))).run
        nestedState).2.environment.frames.inner.Binds "c" ∧
      (((Session.call failingSession).run (.standard (Loader.ofTexts []))).run
        nestedState).2.environment.frames = nestedState.environment.frames := by
  obtain ⟨⟨-, -, -, -, hb⟩, hc⟩ :=
    session_keeps_frames (.standard (Loader.ofTexts [])) failingSession nestedState
  refine ⟨by cbv, ?_, hb "c" rfl, hc⟩
  unfold Frame.Binds
  cbv

end XmlTemplate.Expansion
