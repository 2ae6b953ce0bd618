import XmlTemplate.Proofs.Dialogue
import XmlTemplate.Proofs.Expansion.Calls

/-!
# Expansions as inquiries

A step of an expansion is a dialogue with the level that does its calls, and it stops as soon as it
is answered with an error. Errors are given their places by the element around them; this is left
out here, so that it can be said of which errors a step is the origin.

* `Inquiry.Forwards`: a dialogue that stops when it is answered with an error.
* `Forwarding`: computations that are such dialogues. `forwarding`: the accord of them.
* `Operation.Faults`: the causes with which an operation may fail on its own.
* `Operation.inquiry`: everything that an expander does is an inquiry.
-/

namespace XmlTemplate.Expansion

open Markup

/-! ## Dialogues that stop at errors -/

/-- What is asked is what comes of calls, and a computation results. -/
abbrev Inquiry (α : Type) := Dialogue Activation Answer (Except Error α × State)

/-- The inquiry stops when it is answered with an error, and this is the error that it gives. An
error of its own has no place, and its cause is one of `faults`. What it gives satisfies `V`. -/
def Inquiry.Forwards {α : Type} (faults : Cause → Prop) (V : α → Prop) : Inquiry α → Prop
  | .done (r, _) =>
    (∀ a, r = .ok a → V a) ∧ ∀ e, r = .error e → e.place = none ∧ faults e.cause
  | .ask _ next =>
    (∀ nodes u, Inquiry.Forwards faults V (next (.ok nodes, u))) ∧
      ∀ e u, ∃ u', next (.error e, u) = .done (.error e, u')

namespace Inquiry.Forwards

variable {faults : Cause → Prop} {α β : Type} {V : α → Prop} {W : β → Prop} {t : Inquiry α}
  {answer : Activation → Answer}

theorem ok {a : α} {u : State} (hv : V a) : Inquiry.Forwards faults V (.done (.ok a, u)) :=
  ⟨fun _ hb => by cases hb; exact hv, fun _ he => by cases he⟩

theorem own {cause : Cause} {u : State} (h : faults cause) :
    Inquiry.Forwards faults V (.done (.error (.ofCause cause), u)) :=
  ⟨fun _ hb => (by cases hb), fun _ he => by cases he; exact ⟨rfl, h⟩⟩

theorem mono {V' : α → Prop} (h : t.Forwards faults V) (hv : ∀ a, V a → V' a) :
    t.Forwards faults V' := by
  induction t with
  | done r => exact ⟨fun a ha => hv a (h.1 a ha), h.2⟩
  | ask q next ih => exact ⟨fun nodes u => ih _ (h.1 nodes u), h.2⟩

/-- What follows is done only if there is no error. -/
theorem bind {f : Except Error α × State → Inquiry β} (h : t.Forwards faults V)
    (hok : ∀ a u, V a → (f (.ok a, u)).Forwards faults W)
    (herror : ∀ e u, ∃ u', f (.error e, u) = .done (.error e, u')) :
    Inquiry.Forwards faults W (t.bind f) := by
  induction t with
  | done r =>
    obtain ⟨r, u⟩ := r
    cases r with
    | ok a => exact hok a u (h.1 a rfl)
    | error e =>
      obtain ⟨u', hu⟩ := herror e u
      rw [Dialogue.bind, hu]
      exact ⟨fun _ hb => (by cases hb), fun _ he => by cases he; exact h.2 e rfl⟩
  | ask q next ih =>
    refine ⟨fun nodes u => ih _ (h.1 nodes u), fun e u => ?_⟩
    obtain ⟨u', hu⟩ := h.2 e u
    dsimp only
    rw [hu]
    exact herror e u'

section Run

variable (h : t.Forwards faults V)

include h

theorem gives {a : α} (ha : (t.run answer).1 = .ok a) : V a := by
  induction t with
  | done r => exact h.1 a ha
  | ask q next ih =>
    rw [Dialogue.run] at ha
    generalize answer q = r at ha
    obtain ⟨r, u⟩ := r
    cases r with
    | ok nodes => exact ih _ (h.1 nodes u) ha
    | error e =>
      obtain ⟨u', hu⟩ := h.2 e u
      rw [hu] at ha
      cases ha

/-- If a call fails that is asked about, so does the inquiry. -/
theorem error_of_asks {b : Activation} {e : Error} (hb : t.Asks answer b)
    (he : (answer b).1 = .error e) : (t.run answer).1 = .error e := by
  induction t with
  | done r => exact hb.elim
  | ask q next ih =>
    rcases hb with rfl | hb
    · obtain ⟨u', hu⟩ := h.2 e (answer b).2
      rw [Dialogue.run, show answer b = (.error e, (answer b).2) from Prod.ext he rfl, hu]
      rfl
    · rw [Dialogue.run]
      generalize answer q = r at hb ⊢
      obtain ⟨r, u⟩ := r
      cases r with
      | ok nodes => exact ih _ (h.1 nodes u) hb
      | error e' =>
        obtain ⟨u', hu⟩ := h.2 e' u
        rw [hu] at hb
        exact hb.elim

/-- After a call that fails nothing is asked any more. -/
theorem asks_unique {b b' : Activation} {e e' : Error} (hb : t.Asks answer b)
    (he : (answer b).1 = .error e) (hb' : t.Asks answer b') (he' : (answer b').1 = .error e') :
    b' = b := by
  induction t with
  | done r => exact hb.elim
  | ask q next ih =>
    have last {c c' : Activation} {d : Error} (hd : (answer c).1 = .error d)
        (hc : (next (answer c)).Asks answer c') : False := by
      obtain ⟨u', hu⟩ := h.2 d (answer c).2
      rw [show answer c = (.error d, (answer c).2) from Prod.ext hd rfl, hu] at hc
      exact hc
    rcases hb with rfl | hb
    · exact hb'.resolve_right (last he)
    · rcases hb' with rfl | hb'
      · exact (last he' hb).elim
      · generalize hr : answer q = r at hb hb'
        obtain ⟨r, u⟩ := r
        cases r with
        | ok nodes => exact ih _ (h.1 nodes u) hb hb'
        | error d => exact (last (c := q) (by rw [hr]) (hr ▸ hb)).elim

/-- An inquiry that fails has been answered with its error, or all calls that it asked about succeed
and the error is its own. -/
theorem own_or_asked {e : Error} (he : (t.run answer).1 = .error e) :
    ((∀ b, t.Asks answer b → ∃ nodes, (answer b).1 = .ok nodes) ∧ e.place = none ∧
      faults e.cause) ∨ ∃ b, t.Asks answer b ∧ (answer b).1 = .error e := by
  induction t with
  | done r => exact .inl ⟨fun _ hb => hb.elim, h.2 e he⟩
  | ask q next ih =>
    rw [Dialogue.run] at he
    cases hr : (answer q).1 with
    | error e' =>
      refine .inr ⟨q, .inl rfl, ?_⟩
      obtain ⟨u', hu⟩ := h.2 e' (answer q).2
      rw [show answer q = (.error e', (answer q).2) from Prod.ext hr rfl, hu, Dialogue.run] at he
      cases he
      exact hr
    | ok nodes =>
      have hnext : Inquiry.Forwards faults V (next (answer q)) := by
        rw [show answer q = (.ok nodes, (answer q).2) from Prod.ext hr rfl]
        exact h.1 nodes _
      rcases ih _ hnext he with ⟨hok, hown⟩ | ⟨b, hb, hbe⟩
      · refine .inl ⟨fun b hb => ?_, hown⟩
        rcases hb with rfl | hb
        · exact ⟨nodes, hr⟩
        · exact hok b hb
      · exact .inr ⟨b, .inr hb, hbe⟩

end Run

end Inquiry.Forwards

/-- From every state the computation is an inquiry that stops at errors. -/
def Forwarding (faults : Cause → Prop) {α : Type} (V : α → Prop) (m : Level → Expand α) : Prop :=
  ∀ s, ∃ t : Inquiry α, (∀ l : Level, (m l).run s = t.run l.answer) ∧ t.Forwards faults V

namespace Forwarding

variable {faults : Cause → Prop} {α β : Type} {V : α → Prop} {W : β → Prop} {m : Level → Expand α}

theorem bind {f : Level → α → Expand β} (hm : Forwarding faults V m)
    (hf : ∀ a, V a → Forwarding faults W fun l => f l a) :
    Forwarding faults W fun l => m l >>= f l := by
  intro s
  obtain ⟨t, hrun, ht⟩ := hm s
  have hnext (a : α) (u : State) : ∃ t' : Inquiry β,
      V a → (∀ l : Level, (f l a).run u = t'.run l.answer) ∧ t'.Forwards faults W := by
    by_cases hv : V a
    · obtain ⟨t', h'⟩ := hf a hv u
      exact ⟨t', fun _ => h'⟩
    · exact ⟨.done (.error (.ofCause (.recursionLimit 0)), u), fun h => absurd h hv⟩
  choose next hnext using hnext
  let after : Except Error α × State → Inquiry β
    | (.ok a, u) => next a u
    | (.error e, u) => .done (.error e, u)
  refine ⟨t.bind after, fun l => ?_,
    ht.bind (fun a u hv => (hnext a u hv).2) fun e u => ⟨u, rfl⟩⟩
  rw [Expand.run_bind, hrun, Dialogue.run_bind]
  have hgives {a : α} (ha : (t.run l.answer).1 = .ok a) : V a := ht.gives ha
  generalize t.run l.answer = r at hgives ⊢
  obtain ⟨r, u⟩ := r
  cases r with
  | ok a => exact (hnext a u (hgives rfl)).1 l
  | error e => rfl

theorem within (enter leave : State → State) (hm : Forwarding faults V m) :
    Forwarding faults V fun l => Expand.within enter leave (m l) := by
  intro s
  obtain ⟨t, hrun, ht⟩ := hm (enter s)
  refine ⟨t.bind fun r => .done (r.1, leave r.2), fun l => ?_,
    ht.bind (fun a u hv => .ok hv) fun e u => ⟨leave u, rfl⟩⟩
  rw [Expand.run_within, hrun, Dialogue.run_bind]
  rfl

end Forwarding

/-! ## Steps as inquiries -/

section Accord

variable {faults : Cause → Prop} {α : Type} {V : α → Prop} {m : Level → Expand α}

namespace Forwarding

theorem pure {a : α} (h : V a) : Forwarding faults V fun _ => Pure.pure a :=
  fun s => ⟨.done (.ok a, s), fun _ => rfl, .ok h⟩

theorem fail {cause : Cause} (h : faults cause) : Forwarding faults V fun _ => Expand.fail cause :=
  fun s => ⟨.done (.error (.ofCause cause), s), fun _ => rfl, .own h⟩

theorem mono {V' : α → Prop} (hm : Forwarding faults V m) (h : ∀ a, V a → V' a) :
    Forwarding faults V' m :=
  fun s =>
    let ⟨t, hrun, ht⟩ := hm s
    ⟨t, hrun, ht.mono h⟩

theorem get : Forwarding faults (fun _ => True) fun _ => (MonadState.get : Expand State) :=
  fun s => ⟨.done (.ok s, s), fun _ => rfl, .ok trivial⟩

theorem modify (f : State → State) :
    Forwarding faults (fun _ => True) fun _ => (modify f : Expand PUnit) :=
  fun s => ⟨.done (.ok ⟨⟩, f s), fun _ => rfl, .ok trivial⟩

/-- A call is asked about. -/
theorem run (c : Call) : Forwarding faults (fun _ => True) fun l => l.run c :=
  fun s => ⟨.ask ⟨c, s⟩ .done, fun _ => rfl, fun _ _ => .ok trivial, fun _ u => ⟨u, rfl⟩⟩

theorem environment : Forwarding faults (fun _ => True) fun _ => Expand.environment :=
  bind get fun _ _ => pure trivial

variable (hplain : ∀ {cause : Cause}, cause.Plain → faults cause)

include hplain

theorem expression (source : String) :
    Forwarding faults (fun _ => True) fun _ => Expand.expression source := by
  refine bind get fun s _ => ?_
  refine bind (modify fun _ => { s with environment := (s.environment.expression source).2 })
    fun _ _ => ?_
  split
  · exact pure trivial
  · exact fail (hplain (Cause.plain_ofExpr source _))

theorem descend (limit : Nat) (h : Forwarding faults V m) :
    Forwarding faults V fun l => Expand.descend limit (m l) := by
  refine bind get fun s _ => ?_
  split
  · exact fail (hplain trivial)
  · exact within _ _ h

theorem withInclude {o : Options} (href : String) {body : Level → Document → Expand α}
    (hb : ∀ d, Forwarding faults V fun l => body l d) :
    Forwarding faults V fun l => withInclude o href (body l) := by
  have hresolve : Forwarding faults (fun _ => True) fun _ => resolve href := by
    refine bind environment fun env _ => ?_
    split
    · exact pure trivial
    · exact fail (hplain trivial)
  refine bind hresolve fun uri _ => bind environment fun env _ => ?_
  split
  · exact fail (hplain trivial)
  · split
    · exact fail (hplain trivial)
    · exact fail (hplain trivial)
    · exact descend hplain _ (within _ _ (hb _))

end Forwarding

variable (faults) (o : Options) (hplain : ∀ {cause : Cause}, cause.Plain → faults cause)
  (hdeclaration : faults (.unhandledNode .declaration))

/-- The calls of all runs are made for the same input. They fail on their own with causes of
`faults`. -/
abbrev inquirySupply : Supply fun _ : Level => o :=
  constantSupply Level o (fun _ => True) .all faults hplain hdeclaration

/-- The accord of computations that are inquiries which stop at errors. -/
def forwarding : Accord (inquirySupply faults o hplain hdeclaration) where
  Holds _ := Forwarding faults
  pure := .pure
  mono := .mono
  bind := .bind
  fail := .fail
  environment hf :=
    .bind .environment fun env _ => hf (fun _ => env) fun _ => lookupRow_uniform _
  define name hx := by
    obtain ⟨value, rfl⟩ := hx.uniform
    exact .modify _
  expression := .expression hplain
  call := .within _ _
  descend hm := .descend hplain _ (hm trivial)

theorem forwarding_includes : (forwarding faults o hplain hdeclaration).Includes where
  inclusion href hb := .withInclude hplain href fun d => hb trivial (fun _ => d) (rows_uniform _)

theorem forwarding_calls (k weight : Nat) :
    (forwarding faults o hplain hdeclaration).Calls k weight fun l => l where
  toBelow := .of_levels (fun _ => Accord.levels_of_run uniformSupply_free Forwarding.run)
    fun _ _ => trivial
  same c _ := .run c

end Accord

/-! ## Operations -/

/-- The causes with which an operation may fail on its own. -/
inductive Operation.Faults (o : Options) {α : Type} (op : Operation α) : Cause → Prop where
  | plain {cause : Cause} : cause.Plain → Faults o op cause
  | declaration : Faults o op (.unhandledNode .declaration)
  | limit (limit : Nat) : op.Counts o.space → Faults o op (.iterationLimit limit)
  | offence {x : Offence} : op.offence? o = some x → Faults o op x.cause

/-- If an operation finds attributes to be missing itself, an element lacks them. -/
theorem Operation.Faults.exists_offence {o : Options} {α : Type} {op : Operation α}
    {element : String} {names : List String}
    (h : op.Faults o (.missingAttributes element names)) :
    ∃ x, op.offence? o = some x ∧ x.cause = .missingAttributes element names := by
  generalize hcause : Cause.missingAttributes element names = cause at h
  cases h with
  | plain hplain => exact (hcause ▸ hplain : Cause.Plain (.missingAttributes ..)).elim
  | declaration | limit => cases hcause
  | offence hx => exact ⟨_, hx, rfl⟩

/-- If an operation comes to the limit of a loop itself, it has iterations. -/
theorem Operation.Faults.counts {o : Options} {α : Type} {op : Operation α} {limit : Nat}
    (h : op.Faults o (.iterationLimit limit)) : op.Counts o.space := by
  generalize hcause : Cause.iterationLimit limit = cause at h
  cases h with
  | plain hplain => exact (hcause ▸ hplain : Cause.Plain (.iterationLimit limit)).elim
  | declaration | offence => cases hcause
  | limit _ hcounts => exact hcounts

/-- What an operation does is an inquiry. -/
theorem Operation.inquiry (o : Options) {α : Type} (op : Operation α) (s : State) :
    ∃ t : Inquiry α, (∀ l : Level, (op.inside o l).run s = t.run l.answer) ∧
      t.Forwards (op.Faults o) (fun _ => True) := by
  obtain ⟨t, hrun, ht⟩ := Accord.inside_accord (k := 0) uniformSupply_free
    (forwarding_calls (op.Faults o) o .plain .declaration 0 op.weight) op
    (fun _ => forwarding_includes ..)
    (fun hc => .of_limit (fun _ => rfl) (.limit _ hc)) (fun _ => .offence) le_rfl s
  exact ⟨t, hrun, ht.mono fun _ _ => trivial⟩

end XmlTemplate.Expansion
