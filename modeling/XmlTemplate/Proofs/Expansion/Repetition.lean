import XmlTemplate.Expansion.Expander
import XmlTemplate.Proofs.Dialogue
import XmlTemplate.Proofs.Expansion.Triple

/-!
# How often loops run their bodies

A loop is given its body as a computation. How often the body is run is the number of questions in
the dialogue that the loop has with it.

* `RunsAtMost n m s`: from `s` on, `m` runs the computation that it is given at most `n` times.
* `countLoop_runs`, `forLoop_runs`: each iteration runs the body once.
* `count_runs`, `for_runs`: `count` runs its body as often as it is told, `for` not more often than
  the limit.
-/

namespace XmlTemplate.Expansion

open Markup

/-- From `s` on the computation runs the one that it is given at most `n` times. What it gives
depends on that one through these runs only. -/
def RunsAtMost {α β : Type} (n : Nat) (m : Expand β → Expand α) (s : State) : Prop :=
  ∃ t : Dialogue State (Except Error β × State) (Except Error α × State),
    t.AtMost n ∧ ∀ body, (m body).run s = t.run body.run

namespace RunsAtMost

variable {α β γ : Type} {n n' : Nat} {m : Expand β → Expand α} {s : State}

theorem never (m : Expand α) : RunsAtMost n (fun _ : Expand β => m) s :=
  ⟨.done (m.run s), trivial, fun _ => rfl⟩

theorem once : RunsAtMost 1 (fun body : Expand β => body) s :=
  ⟨.ask s .done, ⟨Nat.one_pos, fun _ => trivial⟩, fun _ => rfl⟩

theorem bind {f : Expand β → α → Expand γ} (hm : RunsAtMost n m s)
    (hf : ∀ a u, RunsAtMost n' (fun body => f body a) u) :
    RunsAtMost (n' + n) (fun body => m body >>= f body) s := by
  obtain ⟨t, hmost, hrun⟩ := hm
  choose next hnext using hf
  let after : Except Error α × State → Dialogue State (Except Error β × State) _
    | (.ok a, u) => next a u
    | (.error e, u) => .done (.error e, u)
  refine ⟨t.bind after, (hmost.bind fun r => ?_).mono (Nat.add_comm n n').le, fun body => ?_⟩
  · obtain ⟨result, u⟩ := r
    cases result with
    | ok a => exact (hnext a u).1
    | error e => trivial
  · rw [Expand.run_bind, hrun body, Dialogue.run_bind]
    obtain ⟨result, u⟩ := t.run body.run
    cases result with
    | ok a => exact (hnext a u).2 body
    | error e => rfl

/-- What comes before the first run of the body may decide how many there are. -/
theorem bind_never {m : Expand α} {f : Expand β → α → Expand γ}
    (hf : ∀ a u, m.run s = (.ok a, u) → RunsAtMost n (fun body => f body a) u) :
    RunsAtMost n (fun body => m >>= f body) s := by
  match h : m.run s with
  | (.error e, u) =>
    refine ⟨.done (.error e, u), trivial, fun body => ?_⟩
    rw [Expand.run_bind, h]
    rfl
  | (.ok a, u) =>
    obtain ⟨t, hmost, hrun⟩ := hf a u h
    refine ⟨t, hmost, fun body => ?_⟩
    rw [Expand.run_bind, h]
    exact hrun body

theorem call (hm : ∀ u, RunsAtMost n m u) : RunsAtMost n (fun body => Expand.call (m body)) s := by
  obtain ⟨t, hmost, hrun⟩ := hm
    { s with environment := { s.environment with frames := s.environment.frames.push } }
  refine ⟨_, hmost.bind_done fun r => (r.1, { r.2 with environment :=
    { r.2.environment with frames := r.2.environment.frames.pop } }), fun body => ?_⟩
  rw [Expand.call, Expand.run_within, hrun body, Dialogue.run_bind]
  rfl

end RunsAtMost

/-! ## Loops -/

theorem countLoop_runs (name : String) (left index : Nat) (before : List Node) (s : State) :
    RunsAtMost left (fun body => countLoop name body left index before) s := by
  induction left generalizing index before s with
  | zero => exact .never _
  | succ left ih =>
    exact .bind (.call fun _ => .bind_never fun _ _ _ => .once) fun _ _ => ih _ _ _

/-- An iteration runs the body if it may run and the test holds. -/
theorem forIteration_runs (limit : Nat) (mayRun : Bool) (test : Expand Bool) (step : Expand Int64)
    (s : State) :
    RunsAtMost mayRun.toNat (fun body => forIteration limit mayRun test body step) s := by
  refine .bind_never fun holds _ _ => ?_
  cases holds with
  | false => exact .never _
  | true =>
    cases mayRun with
    | false => exact .never _
    | true => exact .bind .once fun _ _ => .never _

theorem forLoop_runs {iteration : Expand (List Node) → Bool → Int64 →
      Expand (Option (List Node × Int64))}
    (h : ∀ mayRun current s, RunsAtMost mayRun.toNat (fun body => iteration body mayRun current) s)
    (left : Nat) (current : Int64) (before : List Node) (s : State) :
    RunsAtMost left (fun body => forLoop (iteration body) left current before) s := by
  induction left generalizing current before s with
  | zero =>
    refine .bind (h false current s) fun result _ => ?_
    cases result <;> exact .never _
  | succ left ih =>
    refine .bind (h true current s) fun result _ => ?_
    cases result with
    | none => exact .never _
    | some result => exact ih _ _ _

/-! ## Directives -/

section Directives

variable (o : Options) (l : Level) (ws : Whitespace) (tag : Tag) (children : List Node) (p : Parts)
  (s : State)

/-- How often a `count` directive is told to run its body; never if its attribute has no number. -/
def countOf : Nat := ((loopCount o l tag).run s).1.toOption.getD 0

theorem requireAttributes_runs {n : Nat} {names : List String}
    {m : Expand (List Node) → Expand (List Node)} (hm : RunsAtMost n m s) :
    RunsAtMost n (fun body => do
      let _ ← Expand.ofExcept (requireAttributes tag names)
      m body) s := by
  refine .bind_never fun _ u h => ?_
  cases hr : requireAttributes tag names with
  | error cause => rw [hr] at h; cases h
  | ok values =>
    rw [hr] at h
    cases h
    exact hm

/-- `count` runs its body at most as often as it is told. -/
theorem count_runs :
    RunsAtMost (countOf o l tag s) (fun body =>
      runDirective o l ws .count tag children { p with children := fun _ => body }) s := by
  refine requireAttributes_runs tag s (.bind_never fun n u h => ?_)
  rw [countOf, h]
  exact countLoop_runs _ n 1 [] u

/-- `for` runs its body at most as often as the limit admits. -/
theorem for_runs :
    RunsAtMost o.maxIterations (fun body =>
      runDirective o l ws .loop tag children { p with children := fun _ => body }) s := by
  refine requireAttributes_runs tag s (.bind_never fun text _ _ => .bind_never fun first u _ => ?_)
  exact forLoop_runs (fun mayRun current _ => .call fun _ => .bind_never fun _ _ _ =>
    forIteration_runs _ mayRun _ _ _) o.maxIterations first [] u

end Directives

end XmlTemplate.Expansion
