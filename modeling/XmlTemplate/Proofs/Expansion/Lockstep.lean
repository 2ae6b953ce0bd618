import XmlTemplate.Proofs.Expansion.Coupling
import XmlTemplate.Proofs.Expansion.Termination

/-!
# Expansions in lockstep

Under settings that differ in their limits, and in what no expansion looks at, the expansions of
the same input go the same way until the first one reaches a limit.

* `Settings K o o'`: settings as they have to be for that.
* `forLoop_agree`: of two loops the one with fewer iterations left gives up first, if any does.
* `agreeing`: the accord of two runs that agree. `agreeing_below` goes through the levels.
* `Operation.agree`: everything that an expander does.
* `process_cutoff`: what follows for the limits.
-/

namespace XmlTemplate.Expansion

open Markup

namespace Coupling

/-- Settings that differ in their limits at most, where the first one may give up at the lower
ones, and in what is read before an expansion begins. -/
structure Settings (K : Coupling) (o o' : Options) : Prop where
  space : o.space = o'.space
  loader : o.loader = o'.loader
  depth : K.Cutoff .recursionLimit o.maxDepth o'.maxDepth
  iterations : K.Cutoff .iterationLimit o.maxIterations o'.maxIterations

variable {K : Coupling}

theorem Settings.refl (o : Options) : K.Settings o o := ⟨rfl, rfl, .inl rfl, .inl rfl⟩

/-! ## Inclusions and loops -/

section Rules

variable {o o' : Options} (ho : K.Settings o o')

theorem resolve_agree (href : String) : K.Agree (resolve href) (resolve href) := by
  refine Agree.environment fun env env' _ hopen => ?_
  rw [Environment.currentDocument?, Environment.currentDocument?, hopen]
  split
  · exact Agree.pure _
  · exact Agree.fail _

include ho in
theorem withInclude_agree {α : Type} (href : String) {body body' : Document → Expand α}
    (hb : ∀ d, K.Agree (body d) (body' d)) :
    K.Agree (withInclude o href body) (withInclude o' href body') := by
  refine Agree.bind (resolve_agree href) fun uri => ?_
  refine Agree.environment fun env env' _ hopen => ?_
  rw [Environment.isOpen, Environment.isOpen, hopen, ho.loader]
  split
  · exact Agree.fail _
  · split
    · exact Agree.fail _
    · exact Agree.fail _
    · exact Agree.descend ho.depth (Agree.opening uri (hb _))

variable {body body' : Expand (List Node)}

section Iterations

variable {limit limit' : Nat} (hc : K.Cutoff .iterationLimit limit limit')
  {test test' : Expand Bool} {step step' : Expand Int64} (ht : K.Agree test test')
  (hb : K.Agree body body') (hs : K.Agree step step')

include hc ht hb hs

/-- Where the first run may go on, so may the second one. -/
theorem forIteration_agree {mayRun mayRun' : Bool} (hrun : mayRun = mayRun' ∨
    mayRun = false ∧ K.stops (.iterationLimit limit)) :
    K.Agree (forIteration limit mayRun test body step)
      (forIteration limit' mayRun' test' body' step') := by
  refine Agree.bind ht fun holds => ?_
  split
  · rcases hrun with rfl | ⟨rfl, hstop⟩
    · split
      · exact Agree.bind hb fun _ => Agree.bind hs fun _ => Agree.pure _
      · exact Agree.limit hc
    · exact Agree.stop hstop
  · exact Agree.pure _

end Iterations

/-- An iteration whose body may not run comes to an end only if its test fails. -/
theorem forIteration_last {limit : Nat} {test : Expand Bool} {step : Expand Int64} {s : State}
    {r : Option (List Node × Int64)}
    (h : ((forIteration limit false test body step).run s).1 = .ok r) : r = none := by
  unfold forIteration at h
  rw [Expand.run_bind] at h
  generalize test.run s = x at h
  obtain ⟨_ | holds, t⟩ := x
  · cases h
  · cases holds with
    | true => cases h
    | false =>
      cases h
      rfl

/-- The loop with fewer iterations left goes as the other one does until none is left. -/
theorem forLoop_agree {limit : Nat}
    {iteration iteration' : Bool → Int64 → Expand (Option (List Node × Int64))}
    (hi : ∀ mayRun mayRun' current,
      mayRun = mayRun' ∨ mayRun = false ∧ K.stops (.iterationLimit limit) →
        K.Agree (iteration mayRun current) (iteration' mayRun' current))
    (hlast : ∀ current s r, ((iteration false current).run s).1 = .ok r → r = none)
    {left left' : Nat} (hleft : left = left' ∨ left ≤ left' ∧ K.stops (.iterationLimit limit))
    (current : Int64) (before : List Node) :
    K.Agree (forLoop iteration left current before) (forLoop iteration' left' current before) := by
  induction left generalizing left' current before with
  | zero =>
    have hrun : false = decide (0 < left') ∨ false = false ∧ K.stops (.iterationLimit limit) :=
      hleft.elim (fun h => .inl (by simp [← h])) fun h => .inr ⟨rfl, h.2⟩
    cases left' with
    | zero =>
      refine Agree.bindOf (hi _ _ current hrun) (hlast current) fun r hr => ?_
      subst hr
      exact Agree.pure _
    | succ left' =>
      refine Agree.bindOf (hi _ _ current hrun) (hlast current) fun r hr => ?_
      subst hr
      exact Agree.pure _
  | succ left ih =>
    cases left' with
    | zero => omega
    | succ left' =>
      have hnext : left = left' ∨ left ≤ left' ∧ K.stops (.iterationLimit limit) :=
        hleft.imp Nat.succ.inj (And.imp_left Nat.le_of_succ_le_succ)
      refine Agree.bind (hi true true current (.inl rfl)) fun r => ?_
      split
      · exact ih hnext _ _
      · exact Agree.pure _

end Rules

/-! ## Two runs that agree -/

section Accord

variable {o : Bool → Options} (ho : K.Settings (o true) (o false))

include ho

theorem Settings.space_eq (i : Bool) : (o i).space = (o false).space := by
  cases i with
  | true => exact ho.space
  | false => rfl

theorem Settings.loader_eq (i : Bool) : (o i).loader = (o false).loader := by
  cases i with
  | true => exact ho.loader
  | false => rfl

/-- The same input in both runs. Anything may come out. -/
abbrev Settings.supply : Supply o :=
  uniformSupply o ho.space_eq ho.loader_eq (fun _ => True) .all (fun _ => True)
    (fun _ => trivial) trivial

/-- The accord of two runs that agree. -/
def agreeing : Accord ho.supply where
  Holds _ V m := K.Agree (m true) (m false) ∧ Returns V (m true)
  pure h := ⟨.pure _, .pure h⟩
  mono hm h := ⟨hm.1, hm.2.mono h⟩
  bind hm hf := ⟨.bindOf hm.1 hm.2 fun a ha => (hf a ha).1, hm.2.bind fun a ha => (hf a ha).2⟩
  fail _ := ⟨.fail _, .fail _⟩
  environment hf := by
    refine ⟨.environment fun env env' hsame _ => ?_, fun s => ?_⟩
    · refine (hf (fun i => bif i then env else env') fun name => ?_).1
      exact lookupRow_of_eq (env'.lookup name) (Bool.forall_bool.mpr ⟨rfl, hsame name⟩)
    · exact (hf (fun _ => s.environment) fun name => lookupRow_uniform _).2 s
  define name hx := by
    obtain ⟨value, rfl⟩ := hx.uniform
    exact ⟨.define name value, fun _ _ _ => trivial⟩
  expression source := ⟨.expression source, fun _ _ _ => trivial⟩
  call hm := ⟨.call hm.1, hm.2.within _ _⟩
  descend hm := ⟨.descend ho.depth (hm trivial).1, (hm trivial).2.descend _⟩

theorem agreeing_complete : (agreeing ho).Complete where
  inclusion href hb :=
    have hbody := hb trivial
    have hsame (d : Document) := hbody (fun _ => d) (rows_uniform _)
    ⟨withInclude_agree ho href fun d => (hsame d).1, .withInclude href fun d => (hsame d).2⟩
  loop counter first ht hb hs := by
    refine ⟨forLoop_agree (fun mayRun mayRun' current hrun => ?_) (fun current s r h => ?_)
      ho.iterations _ _, fun _ _ _ => trivial⟩
    · exact .call (.seq (.define _ _)
        (forIteration_agree ho.iterations ht.1 hb.1 hs.1 hrun))
    · unfold Expand.call at h
      rw [Expand.run_within, Expand.run_bind] at h
      exact forIteration_last h
  locate tag hm := ⟨.locate tag hm.1, hm.2.locate tag⟩
  missing _ _ := trivial

theorem agreeing_levelled : (agreeing ho).Levelled where
  level hf := by
    refine ⟨.get fun s t h => ?_, fun s => (hf s.depth).2 s⟩
    rw [h.depth]
    exact (hf t.depth).1

/-- The levels below, of which fewer may be left in the first run. -/
theorem agreeing_below (k : Nat) {room : Bool → Nat} (h : room true = room false ∨
      room true ≤ room false ∧ K.stops (.recursionLimit (o true).maxDepth)) :
    (agreeing ho).Below k fun i => below (o i) (room i) := by
  generalize hroom : room true = n at h
  induction n generalizing room k with
  | zero =>
    refine .of_levels (fun _ => ⟨fun ws _ _ => ⟨?_, fun _ _ _ => trivial⟩,
      fun ws _ _ _ _ => ⟨?_, fun _ _ _ => trivial⟩⟩) fun _ _ => trivial
    all_goals
      dsimp only
      rw [hroom]
      rcases h with h | ⟨-, hstop⟩
      · rw [← h]
        exact .limit ho.depth
      · exact .stop hstop
  | succ n ih =>
    have hfalse : 0 < room false := by omega
    obtain ⟨room, rfl⟩ : ∃ room' : Bool → Nat, room = fun i => room' i + 1 :=
      ⟨fun i => room i - 1, funext (Bool.forall_bool.mpr
        ⟨(Nat.sub_add_cancel hfalse).symm, (Nat.sub_add_cancel (by omega)).symm⟩)⟩
    dsimp only at hroom h
    refine .of_levels (fun _ => Accord.below_succ_accord (agreeing_complete ho)
      (ih _ (by omega) ?_)) fun _ _ => trivial
    exact h.imp (by omega) (And.imp_left (by omega))

end Accord

end Coupling

/-- Everything that an expander does. -/
theorem Operation.agree {K : Coupling} {o o' : Options} (ho : K.Settings o o') {α : Type}
    (op : Operation α) : K.Agree (Performs.perform o op) (Performs.perform o' op) := by
  let settings (run : Bool) : Options := bif run then o else o'
  have hsettings : K.Settings (settings true) (settings false) := ho
  refine (Accord.perform_accord (k := 0) (A := Coupling.agreeing hsettings) uniformSupply_free
    (Coupling.agreeing_complete hsettings) (Coupling.agreeing_levelled hsettings)
    (fun k depth => Coupling.agreeing_below hsettings k ?_) op).1
  exact ho.depth.imp (congrArg (· - depth)) (And.imp_left (Nat.sub_le_sub_right · depth))

/-! ## Limits -/

/-- The causes that the limits of some settings have. -/
def AtLimit (o : Options) (cause : Cause) : Prop :=
  cause = .recursionLimit o.maxDepth ∨ cause = .iterationLimit o.maxIterations

/-- **Limits only cut off.** Under higher limits a document expands to the same result, and it
fails with the same error at the same place, unless it failed at one of the lower limits. -/
theorem process_cutoff (o : Options) (d : Document) {depth iterations : Nat}
    (hdepth : o.maxDepth ≤ depth) (hiterations : o.maxIterations ≤ iterations) :
    process o d = process { o with maxDepth := depth, maxIterations := iterations } d ∨
      ∃ e, process o d = .error e ∧ AtLimit o e.cause := by
  let o' : Options := { o with maxDepth := depth, maxIterations := iterations }
  let K := Coupling.exact (AtLimit o)
  let s := State.initial o d.uri
  have ho : K.Settings o o' :=
    ⟨rfl, rfl, .inr ⟨hdepth, .inl rfl⟩, .inr ⟨hiterations, .inr rfl⟩⟩
  have hg : s.environment.cache.Genuine := by
    rw [show s = _ from State.initial_eq o d.uri]
    exact Cache.genuine_ofCapacity _
  have hs : K.States s s := ⟨rfl, rfl, rfl, hg, hg⟩
  have houtcome : K.Outcomes s s ((Expander.expandTop o o.whitespace d.children []).run s)
      ((Expander.expandTop o' o.whitespace d.children []).run s) :=
    Operation.agree ho (.expandDocument o.whitespace d) s s hs
  have hrun : process o d = ((Expander.expandTop o o.whitespace d.children []).run s).1.map
    fun children => ⟨d.uri, children⟩ := rfl
  have hrun' : process o' d = ((Expander.expandTop o' o.whitespace d.children []).run s).1.map
    fun children => ⟨d.uri, children⟩ := rfl
  rw [hrun, hrun']
  generalize (Expander.expandTop o o.whitespace d.children []).run s = x at houtcome ⊢
  generalize (Expander.expandTop o' o.whitespace d.children []).run s = y at houtcome ⊢
  cases houtcome with
  | @stopped e _ _ hc => exact .inr ⟨e, rfl, hc⟩
  | equal => exact .inl rfl

/-- An element in another one. -/
def nestedElements : Document :=
  ⟨none, [.element ⟨.plain "r", [], none, none⟩ [.element ⟨.plain "a", [], none, none⟩ []]]⟩

/-- One level is not enough for the inner element; with two it is copied. -/
theorem process_cutoff_nestedElements :
    process { Options.standard (Loader.ofTexts []) with maxDepth := 1 } nestedElements =
        .error ⟨.recursionLimit 1, some ⟨"a", none, none⟩⟩ ∧
      process { Options.standard (Loader.ofTexts []) with maxDepth := 2 } nestedElements =
        .ok nestedElements ∧
      process { Options.standard (Loader.ofTexts []) with maxDepth := 2 } nestedElements =
        process { Options.standard (Loader.ofTexts []) with maxDepth := 9 } nestedElements := by
  have hok : process { Options.standard (Loader.ofTexts []) with maxDepth := 2 } nestedElements =
      .ok nestedElements := by cbv
  refine ⟨by cbv, hok, ?_⟩
  rcases process_cutoff { Options.standard (Loader.ofTexts []) with maxDepth := 2 } nestedElements
    (show 2 ≤ 9 by decide) (le_refl 100000) with h | ⟨e, he, -⟩
  · exact h
  · rw [hok] at he
    cases he

end XmlTemplate.Expansion
