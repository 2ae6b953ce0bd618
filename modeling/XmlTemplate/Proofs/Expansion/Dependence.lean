import XmlTemplate.Proofs.Expansion.Outcome
import XmlTemplate.Proofs.Expansion.Reachable

/-!
# What an operation depends on

Of the level that does its calls an operation sees only the answers to the calls that it makes.
Whatever fails in one of them ends the operation, so these are the calls on which it depends what
comes of it.

* `FailsThrough`: a call whose failures end a computation.
* `Dependent`: where two levels make a difference to a computation, there is such a call whose
  answers are different. `dependent`: the accord of these computations.
* `Operation.run_eq_of_calls`: levels that give the same answers to the calls of an operation.
* `Activation.Reaches`: the activations inside one.
-/

namespace XmlTemplate.Expansion

open Markup

variable {o : Options} {α β : Type} {V : α → Prop} {W : β → Prop} {k : Nat}

/-! ## Failures that end a computation -/

/-- Whatever a call fails with is what the computation fails with. -/
def FailsThrough (o : Options) (b : Activation) (m : Level → Expand α) (s : State) : Prop :=
  ∀ (l : Level) (e : Error), l.AgreesOff o b → (l.answer b).1 = .error e →
    ((m l).run s).1.mapError Error.cause = .error e.cause

theorem FailsThrough.bind {b : Activation} {m : Level → Expand α} {s : State}
    (h : FailsThrough o b m s) (f : Level → α → Expand β) :
    FailsThrough o b (fun l => m l >>= f l) s := by
  intro l e hoff he
  have hm := h l e hoff he
  rw [Expand.run_bind]
  revert hm
  obtain ⟨r, u⟩ := (m l).run s
  cases r with
  | ok a => exact fun h => by cases h
  | error e' => exact fun h => congrArg Except.error (Except.error.inj h)

/-- An operation makes the calls whose failures end it. -/
theorem Operation.Calls.of_failsThrough {op : Operation α} {b : Activation} {s : State}
    (h : FailsThrough o b (fun l => op.on o l) s) : op.Calls o s b := by
  refine .of_fails fun l e hoff he => ?_
  have hcause := h l e hoff he
  revert hcause
  cases ((op.on o l).run s).1 with
  | ok a => exact fun h => by cases h
  | error e' => exact fun h => ⟨e', rfl, Except.error.inj h⟩

/-! ## Computations that depend on their calls -/

/-- From `s` the computation leaves what it has nested and gives values in `V` when an expander does
its calls. Another level makes a difference only if it does to a call whose failures end it. -/
structure Dependent (o : Options) (V : α → Prop) (m : Level → Expand α) (s : State) : Prop where
  depth : ((m (Expander.level o)).run s).2.depth = s.depth
  gives : ∀ a, ((m (Expander.level o)).run s).1 = .ok a → V a
  depends : ∀ l : Level, (m l).run s = (m (Expander.level o)).run s ∨
    ∃ b, l.answer b ≠ (Expander.level o).answer b ∧ FailsThrough o b m s

namespace Dependent

variable {m : Level → Expand α} {s : State}

theorem const {m : Expand α} (hdepth : (m.run s).2.depth = s.depth)
    (hv : ∀ a, (m.run s).1 = .ok a → V a) : Dependent o V (fun _ => m) s :=
  ⟨hdepth, hv, fun _ => .inl rfl⟩

theorem mono {V' : α → Prop} (h : Dependent o V m s) (hv : ∀ a, V a → V' a) :
    Dependent o V' m s :=
  ⟨h.depth, fun a ha => hv a (h.gives a ha), h.depends⟩

/-- A level that agrees off a call runs the computation as an expander does, or the failures of
this call end it. -/
theorem run_eq_or_failsThrough (h : Dependent o V m s) {b : Activation} {l : Level}
    (hoff : l.AgreesOff o b) :
    (m l).run s = (m (Expander.level o)).run s ∨ FailsThrough o b m s := by
  refine (h.depends l).imp_right fun ⟨c, hne, hc⟩ => ?_
  rwa [not_imp_comm.mp (hoff c) hne] at hc

/-- Failures of what follows end the whole computation. -/
theorem failsThrough_after (hm : Dependent o V m s) {f : Level → α → Expand β} {a : α} {u : State}
    (hrun : (m (Expander.level o)).run s = (.ok a, u)) {b : Activation}
    (hf : FailsThrough o b (fun l => f l a) u) : FailsThrough o b (fun l => m l >>= f l) s := by
  intro l e hoff he
  rcases hm.run_eq_or_failsThrough hoff with hsame | hfails
  · rw [Expand.run_bind, hsame, hrun]
    exact hf l e hoff he
  · exact hfails.bind f l e hoff he

theorem bind {f : Level → α → Expand β} (hm : Dependent o V m s)
    (hf : ∀ a, V a → ∀ u : State, u.depth = s.depth → Dependent o W (fun l => f l a) u) :
    Dependent o W (fun l => m l >>= f l) s := by
  cases hrun : (m (Expander.level o)).run s with
  | mk r u =>
    have hdepth := hm.depth
    rw [hrun] at hdepth
    cases r with
    | error e =>
      refine ⟨?_, fun b hb => ?_, fun l => (hm.depends l).imp (fun hsame => ?_)
        fun ⟨b, hne, hb⟩ => ⟨b, hne, hb.bind f⟩⟩
      · rw [Expand.run_bind, hrun]
        exact hdepth
      · rw [Expand.run_bind, hrun] at hb
        cases hb
      · rw [Expand.run_bind, Expand.run_bind, hsame, hrun]
    | ok a =>
      have hnext := hf a (hm.gives a (by rw [hrun])) u hdepth
      refine ⟨?_, ?_, fun l => ?_⟩
      · rw [Expand.run_bind, hrun]
        exact hnext.depth.trans hdepth
      · rw [Expand.run_bind, hrun]
        exact hnext.gives
      · rcases hm.depends l with hsame | ⟨b, hne, hb⟩
        · rw [Expand.run_bind, Expand.run_bind, hsame, hrun]
          exact (hnext.depends l).imp_right fun ⟨b, hne, hb⟩ =>
            ⟨b, hne, hm.failsThrough_after hrun hb⟩
        · exact .inr ⟨b, hne, hb.bind f⟩

/-- What becomes of the run of a computation, if values and causes stay as they are. -/
theorem map {m' : Level → Expand α} {s' : State} (hm : Dependent o V m s)
    (close : Except Error α × State → Except Error α × State)
    (hrun : ∀ l, (m' l).run s' = close ((m l).run s))
    (hdepth : ∀ x, x.2.depth = s.depth → (close x).2.depth = s'.depth)
    (hclose : ∀ x, (close x).1.mapError Error.cause = x.1.mapError Error.cause) :
    Dependent o V m' s' := by
  refine ⟨?_, fun a ha => hm.gives a ?_, fun l => (hm.depends l).imp (fun hsame => ?_)
    fun ⟨b, hne, hb⟩ => ⟨b, hne, fun l e hoff he => ?_⟩⟩
  · rw [hrun]
    exact hdepth _ hm.depth
  · have hvalue := hclose ((m (Expander.level o)).run s)
    rw [← hrun, ha] at hvalue
    revert hvalue
    cases ((m (Expander.level o)).run s).1 with
    | ok b => exact fun h => congrArg Except.ok (Except.ok.inj h).symm
    | error e => exact fun h => by cases h
  · rw [hrun, hrun, hsame]
  · rw [hrun, hclose]
    exact hb l e hoff he

theorem within {enter leave : State → State} (hm : Dependent o V m (enter s))
    (hleave : ∀ u : State, u.depth = (enter s).depth → (leave u).depth = s.depth) :
    Dependent o V (fun l => Expand.within enter leave (m l)) s :=
  hm.map (fun x => (x.1, leave x.2)) (fun _ => rfl) (fun x hx => hleave x.2 hx) fun _ => rfl

theorem locate (tag : Tag) (hm : Dependent o V m s) :
    Dependent o V (fun l => Expand.locate tag (m l)) s := by
  refine hm.map (fun x => match x with
    | (.ok a, u) => (.ok a, u)
    | (.error e, u) => (.error (e.locate ⟨tag.name.qualified,
        tag.document <|> u.environment.currentDocument?, tag.position⟩), u))
    (fun l => Expand.run_locate _ _ tag) ?_ ?_ <;> rintro ⟨r, u⟩
  · cases r <;> exact id
  · cases r with
    | ok a => rfl
    | error e => exact congrArg Except.error (Error.cause_locate _ _)

theorem descend {limit : Nat} (hs : s.depth = k)
    (hm : k < limit → ∀ u : State, u.depth = k + 1 → Dependent o V m u) :
    Dependent o V (fun l => Expand.descend limit (m l)) s := by
  by_cases h : limit ≤ s.depth
  · have hrun (l : Level) : (Expand.descend limit (m l)).run s =
        (.error (.ofCause (.recursionLimit limit)), s) := by
      rw [Expand.run_descend, if_pos h]
    refine ⟨?_, fun a ha => ?_, fun l => .inl ?_⟩
    · rw [hrun]
    · rw [hrun] at ha
      cases ha
    · rw [hrun, hrun]
  · refine (hm (by omega) { s with depth := s.depth + 1 } (congrArg (· + 1) hs)).map
      (fun x => (x.1, { x.2 with depth := x.2.depth - 1 })) (fun l => ?_) (fun x hx => ?_)
      fun _ => rfl
    · rw [Expand.run_descend, if_neg h]
    · dsimp only at hx ⊢
      omega

theorem inclusion (href : String) {body : Level → Document → Expand α} (hs : s.depth = k)
    (hb : k < o.maxDepth → ∀ (d : Document) (u : State), u.depth = k + 1 →
      Dependent o V (fun l => body l d) u) :
    Dependent o V (fun l => withInclude o href (body l)) s := by
  cases hd : documentFor o href s.environment with
  | error cause =>
    have hfailed : Dependent o V (fun _ => Expand.fail cause) s := .const rfl fun _ h => by cases h
    exact hfailed.map id (fun l => by rw [run_withInclude, hd]; rfl) (fun _ h => h) fun _ => rfl
  | ok found =>
    have hopened : Dependent o V
        (fun l => Expand.descend o.maxDepth (Expand.opening found.1 (body l found.2))) s :=
      descend hs fun hk u hu => within (hb hk found.2 _ hu) fun _ h => h
    exact hopened.map id (fun l => by rw [run_withInclude, hd]; rfl) (fun _ h => h) fun _ => rfl

end Dependent

/-- The accord of computations that depend on their calls. -/
def dependent (o : Options) : Accord (anySupply Level o) where
  Holds k V m := ∀ s : State, s.depth = k → Dependent o V m s
  pure h := fun _ _ => .const rfl fun _ e => by cases e; exact h
  mono hm h := fun s hs => (hm s hs).mono h
  bind hm hf := fun s hs => (hm s hs).bind fun a ha u hu => hf a ha u (hu.trans hs)
  fail _ := fun _ _ => .const rfl fun _ e => by cases e
  environment hf := by
    intro s hs
    refine (hf (fun _ => s.environment) (fun name => lookupRow_uniform _) s hs).map id
      (fun l => ?_) (fun _ h => h) fun _ => rfl
    rw [Expand.run_bind]
    rfl
  define name hx := by
    obtain ⟨value, rfl⟩ := hx.uniform
    exact fun s hs => .const rfl fun _ _ => trivial
  expression source := fun s hs => .const (by rw [Expand.run_expression]) fun _ _ => trivial
  call hm := fun s hs => .within (hm _ hs) fun u hu => hu
  descend hm := fun s hs => .descend hs hm

theorem dependent_complete (o : Options) : (dependent o).Complete where
  inclusion href hb := fun _ hs =>
    .inclusion href hs fun hk d => hb hk (fun _ => d) (rows_uniform _)
  loop := (Accord.Loops.of_limit (A := dependent o) (fun _ => rfl) trivial).loop
  locate tag hm := fun s hs => (hm s hs).locate tag
  missing _ _ := trivial

/-! ## Calls -/

/-- A call depends on itself. -/
theorem dependent_call (k : Nat) (c : Call) :
    (dependent o).Gives k c.whitespace fun l => l.run c := by
  intro s _
  refine ⟨level_restores ⟨c, s⟩, fun _ _ => trivial, fun l => ?_⟩
  by_cases hsame : l.answer ⟨c, s⟩ = (Expander.level o).answer ⟨c, s⟩
  · exact .inl hsame
  · refine .inr ⟨⟨c, s⟩, hsame, fun l e _ he => ?_⟩
    show (l.answer ⟨c, s⟩).1.mapError Error.cause = _
    rw [he]
    rfl

theorem dependent_calls (k weight : Nat) : (dependent o).Calls k weight fun l => l where
  toBelow := .of_levels
    (fun _ => Accord.levels_of_run uniformSupply_free (dependent_call (k + 1))) fun _ _ => trivial
  same c _ := dependent_call k c

/-- **An operation sees only the answers to its calls.** A level that gives the answers of an
expander to them does for the operation what the expander does. -/
theorem Operation.run_eq_of_calls (op : Operation α) {s : State} {l : Level}
    (h : ∀ b, op.Calls o s b → l.answer b = (Expander.level o).answer b) :
    (op.on o l).run s = (op.on o (Expander.level o)).run s := by
  have hcomplete := dependent_complete o
  have hop := Accord.operation_accord uniformSupply_free (dependent_calls s.depth op.weight)
    hcomplete.toPlaces op (fun _ => hcomplete.toIncludes) (fun _ => hcomplete.toLoops) le_rfl s rfl
  exact (hop.depends l).resolve_right fun ⟨b, hne, hb⟩ => hne (h b (.of_failsThrough hb))

/-! ## Activations inside an activation -/

/-- An activation makes a call. -/
def Activation.Calls (o : Options) (a b : Activation) : Prop := a.call.operation.Calls o a.state b

/-- The activations that are come to from one. -/
def Activation.Reaches (o : Options) : Activation → Activation → Prop :=
  Relation.ReflTransGen (Activation.Calls o)

end XmlTemplate.Expansion
