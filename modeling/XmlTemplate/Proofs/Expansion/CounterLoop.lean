import XmlTemplate.Proofs.Expansion.Directives
import XmlTemplate.Proofs.Expansion.Frames
import XmlTemplate.Proofs.Expansion.Origin
import XmlTemplate.Proofs.Expansion.Repetition

/-!
# Loops with a counter

A `for` element opens a frame for each iteration, binds its counter there, and evaluates its test.
As long as the test holds it expands its body and evaluates its step before the frame is closed
again. There may be so many iterations as the limit says.

* `Unlimited`: computations that never fail at the limit of a loop themselves. If a loop inside them
  does, the failure has the place of that loop.
* `CounterLoop`: what a loop is made of. `forElement`: the loop that an element describes.
* `Iteration`, `Iterations`: iterations that are completed, one after the other. `Stops`, `Exceeds`,
  `Fails`: how the next one ends the loop. None of them refers to how a loop is run.
* `Iterations.run`, `exists_ends`: a loop goes through its iterations and comes to an end.
* `for_follows_iterations`: what comes of a `for` element.
-/

namespace XmlTemplate.Expansion

open Markup Interpolation

variable {α β : Type}

/-! ## Failures at the limit of a loop -/

/-- A computation that does not fail at the limit of a loop itself. -/
def Unlimited (m : Expand α) : Prop :=
  ∀ s limit, (m.run s).1 ≠ .error (.ofCause (.iterationLimit limit))

theorem Unlimited.bind {m : Expand α} {f : α → Expand β} (hm : Unlimited m)
    (hf : ∀ a, Unlimited (f a)) : Unlimited (m >>= f) := by
  intro s limit
  rw [Expand.run_bind]
  have h := hm s limit
  revert h
  obtain ⟨r, t⟩ := m.run s
  cases r with
  | error e => exact fun h h' => h (by cases h'; rfl)
  | ok a => exact fun _ => hf a t limit

/-- Only an element is a loop, and it gives its place to its failures. -/
theorem Activation.exists_place?_of_counts {b : Activation} {space : String}
    (h : b.call.operation.Counts space) : ∃ p, b.place? = some p := by
  obtain ⟨c, s⟩ := b
  cases c with
  | siblings ws nodes => exact h.elim
  | first ws node following =>
    cases node with
    | element tag children => exact ⟨s.place tag, rfl⟩
    | _ => exact h.elim

/-- An operation that is not a loop itself comes to the limit of a loop in one of its calls. -/
theorem Operation.unlimited (o : Options) (op : Operation α) (h : ¬ op.Counts o.space) :
    Unlimited (Performs.perform o op) := by
  intro s limit he
  obtain ⟨chain, halong, hplace⟩ := Operation.exists_failsAlong he
  rcases halong.faults with ⟨-, hfaults⟩ | ⟨before, b, rfl, hfaults⟩
  · exact h hfaults.counts
  · -- the call that comes to its limit is an element, so the failure has a place
    obtain ⟨p, hp⟩ := b.exists_place?_of_counts hfaults.counts
    rw [Operation.innermost?_concat op s before hp] at hplace
    cases hplace

/-! ## Loops -/

/-- A loop whose iterations close their frames leaves the frames as they were. -/
theorem forLoop_frames {iteration : Bool → Int64 → Expand (Option (List Node × Int64))}
    (h : ∀ mayRun c s,
      ((iteration mayRun c).run s).2.environment.frames = s.environment.frames)
    (left : Nat) (c : Int64) (before : List Node) (s : State) :
    ((forLoop iteration left c before).run s).2.environment.frames = s.environment.frames := by
  induction left generalizing c before s with
  | zero =>
    have hs := h false c s
    rw [forLoop, Expand.run_bind]
    revert hs
    obtain ⟨r, t⟩ := (iteration false c).run s
    rcases r with e | _ | ⟨nodes, next⟩ <;> exact id
  | succ left ih =>
    have hs := h true c s
    rw [forLoop, Expand.run_bind]
    revert hs
    obtain ⟨r, t⟩ := (iteration true c).run s
    rcases r with e | _ | ⟨nodes, next⟩
    · exact id
    · exact id
    · exact (ih next (pushNodes before nodes) t).trans

/-- The state after a call. -/
def State.afterCall (s : State) : State :=
  { s with environment := { s.environment with frames := s.environment.frames.pop } }

/-- What a loop with a counter is made of. -/
structure CounterLoop where
  counter : String
  limit : Nat
  test : Expand Bool
  body : Expand (List Node)
  step : Expand Int64

namespace CounterLoop

variable (p : CounterLoop)

/-- The state in which an iteration starts: a frame has been opened, in which the counter is bound
to its decimal text. -/
def start (c : Int64) (s : State) : State :=
  { s.inCall with
    environment := s.inCall.environment.defineText p.counter (Expr.Number.integerText c) }

/-- An iteration that is completed. The test holds, and the body and then the step succeed in the
frame that is still open. It gives the nodes of the body and the next value of the counter. -/
inductive Iteration : State → Int64 → List Node → Int64 → State → Prop where
  | completed {s t u v : State} {c next : Int64} {nodes : List Node}
    (test : p.test.run (p.start c s) = (.ok true, t)) (body : p.body.run t = (.ok nodes, u))
    (step : p.step.run u = (.ok next, v)) : Iteration s c nodes next v.afterCall

/-- Iterations that are completed one after the other, with the nodes of each body. -/
inductive Iterations : State → Int64 → List (List Node) → Int64 → State → Prop where
  | none (s : State) (c : Int64) : Iterations s c [] c s
  | more {s t u : State} {c d e : Int64} {nodes : List Node} {bodies : List (List Node)} :
    p.Iteration s c nodes d t → Iterations t d bodies e u → Iterations s c (nodes :: bodies) e u

/-- The test does not hold: the loop is at its end. -/
def Stops (s : State) (c : Int64) (t : State) : Prop :=
  ∃ u, p.test.run (p.start c s) = (.ok false, u) ∧ t = u.afterCall

/-- The test holds, which is one iteration too many if none is left. -/
def Exceeds (s : State) (c : Int64) (t : State) : Prop :=
  ∃ u, p.test.run (p.start c s) = (.ok true, u) ∧ t = u.afterCall

/-- The test fails, or the body, or the step after it. -/
inductive Fails (mayRun : Prop) (s : State) (c : Int64) : Error → State → Prop where
  | test {e : Error} {t : State} (test : p.test.run (p.start c s) = (.error e, t)) :
    Fails mayRun s c e t.afterCall
  | body {e : Error} {t u : State} (h : mayRun) (test : p.test.run (p.start c s) = (.ok true, t))
    (body : p.body.run t = (.error e, u)) : Fails mayRun s c e u.afterCall
  | step {e : Error} {t u v : State} {nodes : List Node} (h : mayRun)
    (test : p.test.run (p.start c s) = (.ok true, t)) (body : p.body.run t = (.ok nodes, u))
    (step : p.step.run u = (.error e, v)) : Fails mayRun s c e v.afterCall

/-- How a loop of which `left` iterations are left ends: with success, or with an error. -/
inductive Ends (left : Nat) (s : State) (c : Int64) : Except Error Unit → State → Prop where
  | stops {t : State} (h : p.Stops s c t) : Ends left s c (.ok ()) t
  | exceeds {t : State} (hleft : left = 0) (h : p.Exceeds s c t) :
    Ends left s c (.error (.ofCause (.iterationLimit p.limit))) t
  | fails {e : Error} {t : State} (h : p.Fails (0 < left) s c e t) : Ends left s c (.error e) t

/-- One iteration as it is run. -/
def iteration (mayRun : Bool) (c : Int64) : Expand (Option (List Node × Int64)) :=
  Expand.call do
    Expand.define p.counter (.text (Expr.Number.integerText c))
    forIteration p.limit mayRun p.test p.body p.step

/-- The loop from a value of its counter. -/
def run (c : Int64) : Expand (List Node) := forLoop p.iteration p.limit c []

variable {p} {s t u : State} {c d : Int64}

/-! ### One iteration -/

theorem run_iteration (mayRun : Bool) (c : Int64) (s : State) :
    (p.iteration mayRun c).run s = Prod.map id State.afterCall
      ((forIteration p.limit mayRun p.test p.body p.step).run (p.start c s)) := rfl

/-- Where the test holds and the body may run, the body and the step decide. -/
theorem run_iteration_of_holds (htest : p.test.run (p.start c s) = (.ok true, t)) :
    (p.iteration true c).run s = Prod.map id State.afterCall ((do
      let nodes ← p.body
      let next ← p.step
      return some (nodes, next) : Expand (Option (List Node × Int64))).run t) := by
  rw [run_iteration, forIteration, Expand.run_bind, htest]
  rfl

theorem run_iteration_of_stops (h : p.Stops s c t) (mayRun : Bool) :
    (p.iteration mayRun c).run s = (.ok none, t) := by
  obtain ⟨u, htest, rfl⟩ := h
  rw [run_iteration, forIteration, Expand.run_bind, htest]
  rfl

theorem run_iteration_of_exceeds (h : p.Exceeds s c t) :
    (p.iteration false c).run s = (.error (.ofCause (.iterationLimit p.limit)), t) := by
  obtain ⟨u, htest, rfl⟩ := h
  rw [run_iteration, forIteration, Expand.run_bind, htest]
  rfl

theorem Iteration.run {nodes : List Node} (h : p.Iteration s c nodes d t) :
    (p.iteration true c).run s = (.ok (some (nodes, d)), t) := by
  obtain ⟨htest, hbody, hstep⟩ := h
  rw [run_iteration_of_holds htest, Expand.run_bind, hbody]
  dsimp only
  rw [Expand.run_bind, hstep]
  rfl

theorem Fails.run {mayRun : Bool} {e : Error} (h : p.Fails (mayRun = true) s c e t) :
    (p.iteration mayRun c).run s = (.error e, t) := by
  cases h with
  | test htest =>
    rw [run_iteration, forIteration, Expand.run_bind, htest]
    rfl
  | body hrun htest hbody =>
    rw [hrun, run_iteration_of_holds htest, Expand.run_bind, hbody]
    rfl
  | step hrun htest hbody hstep =>
    rw [hrun, run_iteration_of_holds htest, Expand.run_bind, hbody]
    dsimp only
    rw [Expand.run_bind, hstep]
    rfl

theorem Fails.of_iff {mayRun mayRun' : Prop} {e : Error} (h : p.Fails mayRun s c e t)
    (hiff : mayRun ↔ mayRun') : p.Fails mayRun' s c e t :=
  propext hiff ▸ h

/-- The body of an iteration that may run is run, or the iteration ends the loop. -/
theorem iteration_or_ends (p : CounterLoop) (left : Nat) (s : State) (c : Int64) :
    (0 < left ∧ ∃ nodes d t, p.Iteration s c nodes d t) ∨ ∃ r t, p.Ends left s c r t := by
  match htest : p.test.run (p.start c s) with
  | (.error e, t) => exact .inr ⟨_, _, .fails (.test htest)⟩
  | (.ok false, t) => exact .inr ⟨_, _, .stops ⟨t, htest, rfl⟩⟩
  | (.ok true, t) =>
    rcases Nat.eq_zero_or_pos left with hleft | hleft
    · exact .inr ⟨_, _, .exceeds hleft ⟨t, htest, rfl⟩⟩
    · match hbody : p.body.run t with
      | (.error e, u) => exact .inr ⟨_, _, .fails (.body hleft htest hbody)⟩
      | (.ok nodes, u) =>
        match hstep : p.step.run u with
        | (.error e, v) => exact .inr ⟨_, _, .fails (.step hleft htest hbody hstep)⟩
        | (.ok next, v) => exact .inl ⟨hleft, nodes, next, _, .completed htest hbody hstep⟩

/-! ### All iterations -/

/-- A loop goes through the iterations that are completed. -/
theorem Iterations.run {bodies : List (List Node)} (h : p.Iterations s c bodies d t) (left : Nat)
    (before : List Node) :
    (forLoop p.iteration (bodies.length + left) c before).run s =
      (forLoop p.iteration left d (pushNodes before bodies.flatten)).run t := by
  induction h generalizing before with
  | none => rw [List.length_nil, Nat.zero_add]; rfl
  | @more s t u c d e nodes bodies hfirst _ ih =>
    rw [List.length_cons, Nat.add_right_comm, forLoop, Expand.run_bind, hfirst.run,
      List.flatten_cons, pushNodes_append]
    exact ih (pushNodes before nodes)

/-- At its end a loop has the result that it ends with. -/
theorem Ends.run {left : Nat} {r : Except Error Unit} (h : p.Ends left s c r t)
    (before : List Node) :
    (forLoop p.iteration left c before).run s = (r.map fun _ => before.reverse, t) := by
  cases h with
  | stops h => cases left <;> rw [forLoop, Expand.run_bind, run_iteration_of_stops h] <;> rfl
  | exceeds hleft h =>
    subst hleft
    rw [forLoop, Expand.run_bind, run_iteration_of_exceeds h]
    rfl
  | @fails e _ h =>
    cases left with
    | zero =>
      have h : p.Fails (false = true) s c e t := h.of_iff (by simp)
      rw [forLoop, Expand.run_bind, h.run]
      rfl
    | succ left =>
      have h : p.Fails (true = true) s c e t := h.of_iff (by simp)
      rw [forLoop, Expand.run_bind, h.run]
      rfl

/-- A loop comes to an end after some iterations, which are not more than there may be. -/
theorem exists_ends (p : CounterLoop) (left : Nat) (s : State) (c : Int64) :
    ∃ (bodies : List (List Node)) (d : Int64) (t : State), bodies.length ≤ left ∧
      p.Iterations s c bodies d t ∧ ∃ r u, p.Ends (left - bodies.length) t d r u := by
  -- on the iterations that are left: the last test is evaluated when there is none
  induction left generalizing s c with
  | zero =>
    obtain ⟨hleft, -⟩ | ⟨r, u, hend⟩ := iteration_or_ends p 0 s c
    · exact absurd hleft (Nat.lt_irrefl 0)
    · exact ⟨[], c, s, Nat.le_refl 0, .none s c, r, u, hend⟩
  | succ left ih =>
    obtain ⟨-, nodes, d, t, hfirst⟩ | ⟨r, u, hend⟩ := iteration_or_ends p (left + 1) s c
    · obtain ⟨bodies, e, u, hlength, hrest, r, v, hend⟩ := ih t d
      refine ⟨nodes :: bodies, e, u, Nat.succ_le_succ hlength, .more hfirst hrest, r, v, ?_⟩
      rwa [List.length_cons, Nat.add_sub_add_right]
    · exact ⟨[], c, s, Nat.zero_le _, .none s c, r, u, hend⟩

/-- What comes of a loop: its bodies joined, or the error that it ends with. -/
theorem run_of_ends {bodies : List (List Node)} {r : Except Error Unit}
    (hlength : bodies.length ≤ p.limit) (h : p.Iterations s c bodies d t)
    (hend : p.Ends (p.limit - bodies.length) t d r u) :
    (p.run c).run s = (r.map fun _ => merged bodies.flatten, u) := by
  have hrun := h.run (p.limit - bodies.length) []
  rw [Nat.add_sub_cancel' hlength] at hrun
  rw [CounterLoop.run, hrun, hend.run]
  rfl

theorem run_eq_ok_iff {nodes : List Node} : (p.run c).run s = (.ok nodes, u) ↔
    ∃ bodies d t, bodies.length ≤ p.limit ∧ p.Iterations s c bodies d t ∧ p.Stops t d u ∧
      nodes = merged bodies.flatten := by
  constructor
  · intro hrun
    obtain ⟨bodies, d, t, hlength, h, r, v, hend⟩ := exists_ends p p.limit s c
    rw [run_of_ends hlength h hend] at hrun
    cases hend with
    | stops hstops =>
      cases hrun
      exact ⟨bodies, d, t, hlength, h, hstops, rfl⟩
    | exceeds | fails => cases hrun
  · rintro ⟨bodies, d, t, hlength, h, hstops, rfl⟩
    exact run_of_ends hlength h (.stops hstops)

/-- What the parts of a loop fail with is not the limit of the loop. -/
structure Placed (p : CounterLoop) : Prop where
  test : Unlimited p.test
  body : Unlimited p.body
  step : Unlimited p.step

theorem Placed.ne {mayRun : Prop} {e : Error} (hp : p.Placed) (h : p.Fails mayRun s c e t) :
    e ≠ .ofCause (.iterationLimit p.limit) := by
  rintro rfl
  cases h with
  | test htest => exact hp.test _ _ (congrArg Prod.fst htest)
  | body _ _ hbody => exact hp.body _ _ (congrArg Prod.fst hbody)
  | step _ _ _ hstep => exact hp.step _ _ (congrArg Prod.fst hstep)

theorem run_eq_limit_iff (hp : p.Placed) :
    (p.run c).run s = (.error (.ofCause (.iterationLimit p.limit)), u) ↔
      ∃ bodies d t, bodies.length = p.limit ∧ p.Iterations s c bodies d t ∧ p.Exceeds t d u := by
  constructor
  · intro hrun
    obtain ⟨bodies, d, t, hlength, h, r, v, hend⟩ := exists_ends p p.limit s c
    rw [run_of_ends hlength h hend] at hrun
    cases hend with
    | stops => cases hrun
    | exceeds hleft hexceeds =>
      cases hrun
      exact ⟨bodies, d, t, by omega, h, hexceeds⟩
    | fails hfails =>
      cases hrun
      exact absurd rfl (hp.ne hfails)
  · rintro ⟨bodies, d, t, hlength, h, hexceeds⟩
    exact run_of_ends hlength.le h (.exceeds (by omega) hexceeds)

theorem run_eq_error_iff {e : Error} (he : e ≠ .ofCause (.iterationLimit p.limit)) :
    (p.run c).run s = (.error e, u) ↔
      ∃ bodies d t, bodies.length ≤ p.limit ∧ p.Iterations s c bodies d t ∧
        p.Fails (bodies.length < p.limit) t d e u := by
  constructor
  · intro hrun
    obtain ⟨bodies, d, t, hlength, h, r, v, hend⟩ := exists_ends p p.limit s c
    rw [run_of_ends hlength h hend] at hrun
    cases hend with
    | stops => cases hrun
    | exceeds =>
      cases hrun
      exact absurd rfl he
    | fails hfails =>
      cases hrun
      exact ⟨bodies, d, t, hlength, h, hfails.of_iff Nat.sub_pos_iff_lt⟩
  · rintro ⟨bodies, d, t, hlength, h, hfails⟩
    exact run_of_ends hlength h (.fails (hfails.of_iff Nat.sub_pos_iff_lt.symm))

/-! ### Frames and bodies -/

/-- Frames and levels are left by the parts of a loop as they were. -/
structure Neat (p : CounterLoop) : Prop where
  test : Keeps AnyNode (fun _ => True) p.test
  body : Keeps AnyNode (fun _ => True) p.body
  step : Keeps AnyNode (fun _ => True) p.step

/-- The frame of an iteration is closed, however the iteration ends. -/
theorem Neat.iteration_frames (hp : p.Neat) (mayRun : Bool) (c : Int64) (s : State) :
    ((p.iteration mayRun c).run s).2.environment.frames = s.environment.frames := by
  have hrun : Keeps AnyNode (fun _ => True)
      (forIteration p.limit mayRun p.test p.body p.step) := by
    refine hp.test.bind fun holds _ => ?_
    split
    · split
      · exact hp.body.bind fun nodes _ => hp.step.bind fun next _ => Keeps.pure trivial
      · exact Keeps.fail _
    · exact Keeps.pure trivial
  have hcounter : Keeps AnyNode (fun _ => True)
      (Expand.define p.counter (.text (Expr.Number.integerText c))) := Keeps.define _ trivial
  exact (hcounter.seq hrun).call_frames s.of_anyNode

theorem Neat.run_frames (hp : p.Neat) (c : Int64) (s : State) :
    ((p.run c).run s).2.environment.frames = s.environment.frames :=
  forLoop_frames hp.iteration_frames p.limit c [] s

/-- The body of a loop is run at most as often as the limit says. -/
theorem run_runs (p : CounterLoop) (c : Int64) (s : State) :
    RunsAtMost p.limit (fun body => ({ p with body := body } : CounterLoop).run c) s :=
  forLoop_runs (fun mayRun c _ => .call fun _ => .bind_never
    (m := Expand.define p.counter (.text (Expr.Number.integerText c))) fun _ _ _ =>
      forIteration_runs p.limit mayRun p.test p.step _) p.limit c [] s

end CounterLoop

/-! ## The element -/

section Element

variable (o : Options) (ws : Whitespace) (tag : Tag) (children : List Node)

/-- The integer that an attribute holds an expression for. -/
def integerAttribute (name : String) : Expand Int64 := do
  Expander.evalInteger o ws (← Expander.interpolateText o (attributeValue tag name))

/-- The truth of the expression that an attribute holds. -/
def truthAttribute (name : String) : Expand Bool := do
  Expander.evalTruth o ws (← Expander.interpolateText o (attributeValue tag name))

/-- The loop that a `for` element describes. -/
def forElement : CounterLoop where
  counter := attributeValue tag "counter-name"
  limit := o.maxIterations
  test := truthAttribute o ws tag "test-expr"
  body := Expander.expandNodes o ws children
  step := integerAttribute o ws tag "count-expr"

variable {o ws tag children}

/-- The directive evaluates where its counter begins and runs the loop. -/
theorem directive_loop (hc : missingAttributes tag (requiredAttributes .loop) = [])
    (following : List Node) :
    Expander.directive o .loop ws ⟨tag, children⟩ following = (do
      (forElement o ws tag children).run (← integerAttribute o ws tag "init-expr")) := by
  have hinteger (name : String) : integerAttribute o ws tag name =
      (do evalInteger o (Expander.level o) ws (← expandedValue o (Expander.level o) tag name)) := by
    rw [integerAttribute, ← interpolateText_level, ← evalInteger_level]
    rfl
  have htruth (name : String) : truthAttribute o ws tag name =
      (do evalTruth o (Expander.level o) ws (← expandedValue o (Expander.level o) tag name)) := by
    rw [truthAttribute, ← interpolateText_level, ← evalTruth_level]
    rfl
  rw [directive_eq_actOn hc, hinteger, bind_assoc]
  unfold forElement
  rw [hinteger, htruth]
  rfl

/-- Whatever fails in the parts of a loop is in an element of its own, or it is not a limit of a
loop. -/
theorem forElement_placed : (forElement o ws tag children).Placed where
  test := (Operation.unlimited o (.interpolateText (attributeValue tag "test-expr")) id).bind
    fun source => Operation.unlimited o (.evalTruth ws source) id
  body := Operation.unlimited o (.expandNodes ws children) id
  step := (Operation.unlimited o (.interpolateText (attributeValue tag "count-expr")) id).bind
    fun source => Operation.unlimited o (.evalInteger ws source) id

theorem forElement_neat : (forElement o ws tag children).Neat where
  test := (operation_keeps o (.interpolateText (attributeValue tag "test-expr"))).bind
    fun source _ => operation_keeps o (.evalTruth ws source)
  body := operation_keeps o (.expandNodes ws children)
  step := (operation_keeps o (.interpolateText (attributeValue tag "count-expr"))).bind
    fun source _ => operation_keeps o (.evalInteger ws source)

/-- What a `for` element does once it is known where its counter begins. -/
theorem run_directive_loop (hc : missingAttributes tag (requiredAttributes .loop) = [])
    {s t : State} {first : Int64}
    (hfirst : (integerAttribute o ws tag "init-expr").run s = (.ok first, t))
    (following : List Node) :
    (Expander.directive o .loop ws ⟨tag, children⟩ following).run s =
      ((forElement o ws tag children).run first).run t := by
  rw [directive_loop hc, Expand.run_bind, hfirst]

/-- **A `for` element goes through its iterations.** Its errors have its place. Say that its counter
begins at `first`, which leaves the state `t`. The directive succeeds if some iterations are
completed, not more than the limit says, and the test does not hold after them. What it gives are
the bodies of these iterations in their order, with neighbouring texts joined. It fails at its own
limit if so many iterations as the limit says are completed and the test holds once more. Any other
failure is the one of the test, the body or the step that fails first. The body is run at most as
often as the limit says, and whatever happens, the frames afterwards are those of `t`. -/
theorem for_follows_iterations {o : Options} {ws : Whitespace} {tag : Tag}
    (hd : isDirective o tag "for" = true)
    (hc : missingAttributes tag (requiredAttributes .loop) = []) {s t : State} {first : Int64}
    (hfirst : (integerAttribute o ws tag "init-expr").run s = (.ok first, t))
    (children following : List Node) :
    let loop := forElement o ws tag children
    let directive := Expander.directive o .loop ws ⟨tag, children⟩ following
    Expander.expandNode o ws (.element tag children) following = Expand.locate tag directive ∧
    (∀ nodes u, directive.run s = (.ok nodes, u) ↔
      ∃ bodies last v, bodies.length ≤ o.maxIterations ∧ loop.Iterations t first bodies last v ∧
        loop.Stops v last u ∧ nodes = merged bodies.flatten) ∧
    (∀ u, directive.run s = (.error (.ofCause (.iterationLimit o.maxIterations)), u) ↔
      ∃ bodies last v, bodies.length = o.maxIterations ∧ loop.Iterations t first bodies last v ∧
        loop.Exceeds v last u) ∧
    (∀ e u, e ≠ .ofCause (.iterationLimit o.maxIterations) →
      (directive.run s = (.error e, u) ↔
        ∃ bodies last v, bodies.length ≤ o.maxIterations ∧
          loop.Iterations t first bodies last v ∧
          loop.Fails (bodies.length < o.maxIterations) v last e u)) ∧
    (directive.run s = (loop.run first).run t ∧
      RunsAtMost o.maxIterations (fun body => ({ loop with body := body } : CounterLoop).run first)
        t) ∧
    (directive.run s).2.environment.frames = t.environment.frames := by
  intro loop directive
  have hrun : directive.run s = (loop.run first).run t := run_directive_loop hc hfirst following
  refine ⟨expandNode_of_directive rfl hd ws children following, fun nodes u => ?_, fun u => ?_,
    fun e u he => ?_, ⟨hrun, loop.run_runs first t⟩, ?_⟩
  · rw [hrun]
    exact CounterLoop.run_eq_ok_iff
  · rw [hrun]
    exact CounterLoop.run_eq_limit_iff forElement_placed
  · rw [hrun]
    exact CounterLoop.run_eq_error_iff he
  · rw [hrun]
    exact forElement_neat.run_frames first t

/-- A loop whose step is bound in its body. -/
def stridingTag : Tag :=
  directiveTag "for" [⟨.plain "counter-name", "i"⟩, ⟨.plain "init-expr", "0"⟩,
    ⟨.plain "test-expr", "i < 10"⟩, ⟨.plain "count-expr", "i + step"⟩]

/-- Its body. -/
def stridingBody : List Node :=
  [.element (directiveTag "define" [⟨.plain "step", "5"⟩]) [], .text "\x7bi\x7d"]

/-- The step sees what the body has bound, so the counter is 0 and 5. -/
theorem for_follows_iterations_striding :
    isDirective (.standard (Loader.ofTexts [])) stridingTag "for" = true ∧
    missingAttributes stridingTag (requiredAttributes .loop) = [] ∧
    ∃ t, (integerAttribute (.standard (Loader.ofTexts [])) .collapse stridingTag "init-expr").run
        (State.initial (.standard (Loader.ofTexts [])) none) = (.ok 0, t) ∧
      ∃ bodies last u v,
        (forElement (.standard (Loader.ofTexts [])) .collapse stridingTag stridingBody).Iterations
          t 0 bodies last u ∧
        (forElement (.standard (Loader.ofTexts [])) .collapse stridingTag stridingBody).Stops
          u last v ∧
        Node.contentAll (merged bodies.flatten) = "05" := by
  have hd : isDirective (.standard (Loader.ofTexts [])) stridingTag "for" = true := rfl
  have hfirst : ((integerAttribute (.standard (Loader.ofTexts [])) .collapse stridingTag
      "init-expr").run (State.initial (.standard (Loader.ofTexts [])) none)).1.toOption =
        some 0 := by decide +kernel
  have hrun : (((Expander.directive (.standard (Loader.ofTexts [])) .loop .collapse
      ⟨stridingTag, stridingBody⟩ []).run
        (State.initial (.standard (Loader.ofTexts [])) none)).1.toOption.map Node.contentAll) =
          some "05" := by decide +kernel
  obtain ⟨nodes, hnodes, hcontent⟩ := Option.map_eq_some_iff.mp hrun
  have hloop := for_follows_iterations hd rfl (Expand.run_of_toOption hfirst) stridingBody []
  obtain ⟨bodies, last, u, -, hiterations, hstops, rfl⟩ :=
    (hloop.2.1 _ _).mp (Expand.run_of_toOption hnodes)
  exact ⟨hd, rfl, _, Expand.run_of_toOption hfirst, bodies, last, u, _, hiterations, hstops,
    hcontent⟩

end Element

end XmlTemplate.Expansion
