import XmlTemplate.Proofs.Dialogue
import XmlTemplate.Proofs.Expansion.Calls

/-!
# Expansions as dialogues

A step of an expansion is a dialogue with the level that does its calls: it makes finitely many of
them, whatever comes of each, and what it gives depends on nothing else of the level.

* `Conducts ok V m s`: such a dialogue, in which all calls are `ok`.
* `conducting o ok`: the accord of these dialogues. So every step is one, with calls from one level
  deeper.
-/

namespace XmlTemplate.Expansion

open Markup

/-! ## Dialogues -/

/-- What comes of a call from a state is fair if it leaves what it has nested. -/
def Fair (a : Activation) (r : Answer) : Prop := r.2.depth = a.state.depth

/-- From `s` the computation is a dialogue whose questions, the calls of a level, are all `ok`. It
leaves what it has nested, and what it gives satisfies `V`. -/
def Conducts (ok : Activation → Prop) {α : Type} (V : α → Prop) (m : Level → Expand α)
    (s : State) : Prop :=
  ∃ t : Dialogue Activation Answer (Except Error α × State),
    (∀ l : Level, l.Restores → (m l).run s = t.run l.answer) ∧
      t.Meets Fair ok fun r => r.2.depth = s.depth ∧ ∀ a, r.1 = .ok a → V a

namespace Conducts

variable {ok : Activation → Prop} {α β : Type} {V : α → Prop} {W : β → Prop} {k : Nat}
  {m : Level → Expand α} {s : State}

/-- A call that is `ok` is a dialogue with one question. -/
theorem call {c : Call} (h : ok ⟨c, s⟩) : Conducts ok (fun _ => True) (fun l => l.run c) s :=
  ⟨.ask ⟨c, s⟩ .done, fun _ _ => rfl, h, fun _ hfair => ⟨hfair, fun _ _ => trivial⟩⟩

theorem const {m : Expand α} (hdepth : (m.run s).2.depth = s.depth)
    (hv : ∀ a, (m.run s).1 = .ok a → V a) : Conducts ok V (fun _ => m) s :=
  ⟨.done (m.run s), fun _ _ => rfl, hdepth, hv⟩

theorem mono {V' : α → Prop} (h : Conducts ok V m s) (hv : ∀ a, V a → V' a) :
    Conducts ok V' m s := by
  obtain ⟨t, hrun, hmeets⟩ := h
  exact ⟨t, hrun, hmeets.mono fun r hr => ⟨hr.1, fun a ha => hv a (hr.2 a ha)⟩⟩

/-- The dialogue of what follows depends on what came first. -/
theorem bind {f : Level → α → Expand β} (hm : Conducts ok V m s)
    (hf : ∀ a, V a → ∀ u : State, u.depth = s.depth → Conducts ok W (fun l => f l a) u) :
    Conducts ok W (fun l => m l >>= f l) s := by
  obtain ⟨t, hrun, hmeets⟩ := hm
  let after (l : Level) (r : Except Error α × State) : Except Error β × State :=
    match r with
    | (.ok a, u) => (f l a).run u
    | (.error e, u) => (.error e, u)
  have hnext (r : Except Error α × State) : ∃ t' : Dialogue Activation Answer _,
      (r.2.depth = s.depth ∧ ∀ a, r.1 = .ok a → V a) →
        (∀ l : Level, l.Restores → t'.run l.answer = after l r) ∧
          t'.Meets Fair ok fun r => r.2.depth = s.depth ∧ ∀ b, r.1 = .ok b → W b := by
    obtain ⟨result, u⟩ := r
    cases result with
    | error e => exact ⟨.done (.error e, u), fun h => ⟨fun _ _ => rfl, h.1, fun _ e => by cases e⟩⟩
    | ok a =>
      by_cases h : u.depth = s.depth ∧ V a
      · obtain ⟨t', hrun', hmeets'⟩ := hf a h.2 u h.1
        exact ⟨t', fun _ => ⟨fun l hl => (hrun' l hl).symm,
          hmeets'.mono fun r hr => ⟨hr.1.trans h.1, hr.2⟩⟩⟩
      · exact ⟨.done (.error (.ofCause (.recursionLimit 0)), u), fun h' =>
          absurd ⟨h'.1, h'.2 a rfl⟩ h⟩
  choose next hnext using hnext
  refine ⟨t.bind next, fun l hl => ?_, hmeets.bind fun r hr => (hnext r hr).2⟩
  rw [Expand.run_bind, hrun l hl, Dialogue.run_bind, (hnext _ (hmeets.post_run hl)).1 l hl]
  rfl

/-- What is opened before and closed after a dialogue. -/
theorem within {enter leave : State → State} (hm : Conducts ok V m (enter s))
    (hleave : ∀ u : State, u.depth = (enter s).depth → (leave u).depth = s.depth) :
    Conducts ok V (fun l => Expand.within enter leave (m l)) s := by
  obtain ⟨t, hrun, hmeets⟩ := hm
  refine ⟨t.bind fun r => .done (r.1, leave r.2), fun l hl => ?_,
    hmeets.bind fun r hr => ⟨hleave _ hr.1, hr.2⟩⟩
  rw [Expand.run_within, hrun l hl, Dialogue.run_bind]
  rfl

theorem locate (tag : Tag) (hm : Conducts ok V m s) :
    Conducts ok V (fun l => Expand.locate tag (m l)) s := by
  obtain ⟨t, hrun, hmeets⟩ := hm
  let located (r : Except Error α × State) : Except Error α × State :=
    match r with
    | (.ok a, u) => (.ok a, u)
    | (.error e, u) => (.error (e.locate ⟨tag.name.qualified,
        tag.document <|> u.environment.currentDocument?, tag.position⟩), u)
  refine ⟨t.bind fun r => .done (located r), fun l hl => ?_, hmeets.bind fun r hr => ?_⟩
  · rw [Expand.run_locate, hrun l hl, Dialogue.run_bind]
    rfl
  · obtain ⟨result, u⟩ := r
    cases result with
    | ok a => exact hr
    | error e => exact ⟨hr.1, fun _ h => by cases h⟩

/-- Only what is done from the state counts. -/
theorem congr_run {m' : Level → Expand α} (h : ∀ l, (m l).run s = (m' l).run s)
    (hm : Conducts ok V m' s) : Conducts ok V m s := by
  obtain ⟨t, hrun, hmeets⟩ := hm
  exact ⟨t, fun l hl => (h l).trans (hrun l hl), hmeets⟩

theorem descend {limit : Nat} (hs : s.depth = k)
    (hm : k < limit → ∀ u : State, u.depth = k + 1 → Conducts ok V m u) :
    Conducts ok V (fun l => Expand.descend limit (m l)) s := by
  by_cases h : limit ≤ s.depth
  · refine ⟨.done (.error (.ofCause (.recursionLimit limit)), s), fun l _ => ?_, rfl,
      fun _ h => by cases h⟩
    rw [Expand.run_descend, if_pos h]
    rfl
  · obtain ⟨t, hrun, hmeets⟩ :=
      hm (by omega) { s with depth := s.depth + 1 } (congrArg (· + 1) hs)
    refine ⟨t.bind fun r => .done (r.1, { r.2 with depth := r.2.depth - 1 }), fun l hl => ?_,
      hmeets.bind fun r hr => ⟨?_, hr.2⟩⟩
    · rw [Expand.run_descend, if_neg h, hrun l hl, Dialogue.run_bind]
      rfl
    · have hdepth := hr.1
      dsimp only at hdepth ⊢
      omega

/-- An inclusion makes no calls but those of its body, which is one level deeper. -/
theorem inclusion {o : Options} (href : String) {body : Level → Document → Expand α}
    (hs : s.depth = k)
    (hb : k < o.maxDepth → ∀ (d : Document) (u : State), u.depth = k + 1 →
      Conducts ok V (fun l => body l d) u) :
    Conducts ok V (fun l => withInclude o href (body l)) s := by
  cases hd : documentFor o href s.environment with
  | error cause =>
    have failed : Conducts ok V (fun _ => Expand.fail cause) s := .const rfl fun _ h => by cases h
    exact failed.congr_run fun l => by rw [run_withInclude, hd]; rfl
  | ok found =>
    have opened : Conducts ok V
        (fun l => Expand.descend o.maxDepth (Expand.opening found.1 (body l found.2))) s :=
      descend hs fun hk u hu => within (hb hk found.2 _ hu) fun _ h => h
    exact opened.congr_run fun l => by rw [run_withInclude, hd]

end Conducts

/-- The accord of dialogues whose questions are `ok`. -/
def conducting (o : Options) (ok : Activation → Prop) : Accord (anySupply Level o) where
  Holds k V m := ∀ s : State, s.depth = k → Conducts ok V m s
  pure h := fun _ _ => .const rfl fun _ e => by cases e; exact h
  mono hm h := fun s hs => (hm s hs).mono h
  bind hm hf := fun s hs => (hm s hs).bind fun a ha u hu => hf a ha u (hu.trans hs)
  fail _ := fun _ _ => .const rfl fun _ e => by cases e
  environment hf := by
    intro s hs
    obtain ⟨t, hrun, hmeets⟩ := hf (fun _ => s.environment) (fun name => lookupRow_uniform _) s hs
    refine ⟨t, fun l hl => ?_, hmeets⟩
    rw [Expand.run_bind]
    exact hrun l hl
  define name hx := by
    obtain ⟨value, rfl⟩ := hx.uniform
    exact fun s hs => .const rfl fun _ _ => trivial
  expression source := fun s hs => .const (by rw [Expand.run_expression]) fun _ _ => trivial
  call hm := fun s hs => .within (hm _ hs) fun u hu => hu
  descend hm := fun s hs => .descend hs hm

theorem conducting_complete (o : Options) (ok : Activation → Prop) :
    (conducting o ok).Complete where
  inclusion href hb := fun _ hs =>
    .inclusion href hs fun hk d => hb hk (fun _ => d) (rows_uniform _)
  loop := (Accord.Loops.of_limit (A := conducting o ok) (fun _ => rfl) trivial).loop
  locate tag hm := fun s hs => (hm s hs).locate tag
  missing _ _ := trivial

/-- What is in the accord is a dialogue from every state of the level. -/
theorem Conducts.of_holds {o : Options} {ok : Activation → Prop} {α : Type} {V : α → Prop} {k : Nat}
    {m : Level → Expand α} (h : (conducting o ok).Holds k V m) {s : State} (hs : s.depth = k) :
    Conducts ok (fun _ => True) m s :=
  (h s hs).mono fun _ _ => trivial

end XmlTemplate.Expansion
