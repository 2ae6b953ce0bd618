import XmlTemplate.Proofs.Expansion.Frames
import XmlTemplate.Proofs.Expansion.Termination
import XmlTemplate.Proofs.Expansion.Verbatim

/-!
# Reachable states

The states that a session comes through, those inside its operations included: whatever expansions
call themselves for, and from whatever state.

* `Operation.Calls`: what comes of an operation depends on an activation.
* `Opens`: what comes of an inclusion depends on what is done with a document in a state.
* `Session.Reaches`: the states that a session comes through.
* `Invariant`: what going deeper and opening a document preserve. `Session.Reaches.invariant`: it
  holds wherever a session comes through.
-/

namespace XmlTemplate.Expansion

open Markup

/-! ## Calls and inclusions -/

/-- An operation makes a call in a state if it is the answer to this call on which it depends what
comes of the operation. -/
def Operation.Calls (o : Options) {α : Type} (op : Operation α) (s : State) (b : Activation) :
    Prop :=
  ∃ l : Level, (∀ a ≠ b, l.answer a = (Expander.level o).answer a) ∧
    (op.on o l).run s ≠ (op.on o (Expander.level o)).run s

/-- An inclusion deals with a document in a state if it depends on its body there what comes of the
inclusion. -/
def Opens (o : Options) (href : String) (s : State) (d : Document) (t : State) : Prop :=
  ∃ body body' : Document → Expand Unit,
    (∀ d' t', (d', t') ≠ (d, t) → (body d').run t' = (body' d').run t') ∧
      (withInclude o href body).run s ≠ (withInclude o href body').run s

/-- The state when an included document has been dealt with. -/
def State.closing (s : State) : State := ⟨s.environment.popInclude, s.depth - 1⟩

/-- A document that is opened is dealt with one level deeper. -/
theorem run_withInclude_of_opened {o : Options} {href : String} {s : State} {uri : Uri}
    {d : Document} (hd : documentFor o href s.environment = .ok (uri, d))
    (hs : s.depth < o.maxDepth) {α : Type} (body : Document → Expand α) :
    (withInclude o href body).run s =
      (((body d).run (s.including uri)).1, ((body d).run (s.including uri)).2.closing) := by
  rw [run_withInclude, hd]
  dsimp only
  rw [Expand.run_descend, if_neg (by omega)]
  rfl

theorem opens_iff {o : Options} {href : String} {s t : State} {d : Document} :
    Opens o href s d t ↔ s.depth < o.maxDepth ∧
      ∃ uri, documentFor o href s.environment = .ok (uri, d) ∧ t = s.including uri := by
  constructor
  · rintro ⟨body, body', hsame, hne⟩
    cases hfound : documentFor o href s.environment with
    | error cause =>
      rw [run_withInclude, run_withInclude, hfound] at hne
      exact absurd rfl hne
    | ok found =>
      obtain ⟨uri, found⟩ := found
      by_cases hs : s.depth < o.maxDepth
      · rw [run_withInclude_of_opened hfound hs, run_withInclude_of_opened hfound hs] at hne
        by_cases heq : (found, s.including uri) = (d, t)
        · cases heq
          exact ⟨hs, uri, rfl, rfl⟩
        · exact absurd (by rw [hsame _ _ heq]) hne
      · rw [run_withInclude, run_withInclude, hfound] at hne
        dsimp only at hne
        rw [Expand.run_descend, Expand.run_descend, if_pos (by omega), if_pos (by omega)] at hne
        exact absurd rfl hne
  · rintro ⟨hs, uri, hd, rfl⟩
    classical
    -- one body that never fails, and one that fails just there
    refine ⟨fun _ => pure (), fun d' => ExceptT.mk fun t' =>
      if (d', t') = (d, s.including uri) then (.error (.ofCause (.recursionLimit 0)), t')
      else (.ok (), t'),
      fun d' t' hne => ?_, fun h => ?_⟩
    · show _ = if _ then _ else _
      rw [if_neg hne]
      rfl
    · rw [run_withInclude_of_opened hd hs, run_withInclude_of_opened hd hs] at h
      have hresult := congrArg Prod.fst h
      simp only [ExceptT.run_mk, if_true] at hresult
      cases hresult

/-! ## Sessions -/

namespace Session

/-- The states that a session comes through from a state: where it and its parts begin and end, and
the states inside its operations. -/
inductive Reaches (o : Options) : {α : Type} → Session Operation α → State → State → Prop where
  | start {α : Type} (p : Session Operation α) (s : State) : Reaches o p s s
  | stop {α : Type} (p : Session Operation α) (s : State) : Reaches o p s ((p.run o).run s).2
  | first {α β : Type} {m : Session Operation α} {f : α → Session Operation β} {s t : State} :
    Reaches o m s t → Reaches o (.bind m f) s t
  | next {α β : Type} {m : Session Operation α} {f : α → Session Operation β} {s t : State}
    {a : α} :
    ((m.run o).run s).1 = .ok a → Reaches o (f a) ((m.run o).run s).2 t → Reaches o (.bind m f) s t
  | tried {α : Type} {m : Session Operation α} {f : Error → Session Operation α} {s t : State} :
    Reaches o m s t → Reaches o (.tryCatch m f) s t
  | caught {α : Type} {m : Session Operation α} {f : Error → Session Operation α} {s t : State}
    {e : Error} : ((m.run o).run s).1 = .error e → Reaches o (f e) ((m.run o).run s).2 t →
      Reaches o (.tryCatch m f) s t
  | called {α : Type} {m : Session Operation α} {s t : State} :
    Reaches o m s.inCall t → Reaches o (.call m) s t
  | opened {α : Type} {href : String} {body : Document → Session Operation α} {s t u : State}
    {d : Document} : Opens o href s d t → Reaches o (body d) t u →
    Reaches o (.withInclude href body) s u
  | inside {α : Type} {op : Operation α} {s t : State} {b : Activation} : op.Calls o s b →
    Reaches o (.operation b.call.operation) b.state t → Reaches o (.operation op) s t

end Session

/-! ## What is called -/

section Called

variable {o : Options} {s : State}

/-- The level that gives the answers of a function. -/
def Level.ofAnswers (f : Activation → Answer) : Level where
  siblings ws nodes := ExceptT.mk fun s => f ⟨.siblings ws nodes, s⟩
  first ws node following := ExceptT.mk fun s => f ⟨.first ws node following, s⟩

theorem Level.answer_ofAnswers (f : Activation → Answer) : (Level.ofAnswers f).answer = f := by
  funext ⟨c, s⟩
  cases c <;> rfl

open Classical in
/-- The level with another answer to one call. -/
noncomputable def Level.replacing (l : Level) (b : Activation) (r : Answer) : Level :=
  .ofAnswers fun a => if a = b then r else l.answer a

open Classical in
theorem Level.answer_replacing (l : Level) (b : Activation) (r : Answer) (a : Activation) :
    (l.replacing b r).answer a = if a = b then r else l.answer a :=
  congrFun (Level.answer_ofAnswers _) a

/-- A level does what an expander does, apart from one call. -/
def Level.AgreesOff (o : Options) (b : Activation) (l : Level) : Prop :=
  ∀ a ≠ b, l.answer a = (Expander.level o).answer a

/-- An operation makes a call if it fails whenever the call does. -/
theorem Operation.Calls.of_fails {α : Type} {op : Operation α} {b : Activation}
    (h : ∀ (l : Level) (e : Error), l.AgreesOff o b → (l.answer b).1 = .error e →
      ∃ e', ((op.on o l).run s).1 = .error e' ∧ e'.cause = e.cause) : op.Calls o s b := by
  classical
  -- of two failures with different causes one is not what comes of the operation anyway
  let failing (limit : Nat) : Level :=
    (Expander.level o).replacing b (.error (.ofCause (.recursionLimit limit)), b.state)
  have hother (limit : Nat) : (failing limit).AgreesOff o b := fun a ha => by
    rw [Level.answer_replacing, if_neg ha]
  have hfails (limit : Nat) : ∃ e', ((op.on o (failing limit)).run s).1 = .error e' ∧
      e'.cause = .recursionLimit limit :=
    h _ (.ofCause (.recursionLimit limit)) (hother limit)
      (by rw [Level.answer_replacing, if_pos rfl])
  by_contra hnot
  have hsame (limit : Nat) :
      (op.on o (failing limit)).run s = (op.on o (Expander.level o)).run s := by
    by_contra hne
    exact hnot ⟨failing limit, hother limit, hne⟩
  obtain ⟨e₀, h₀, hc₀⟩ := hfails 0
  obtain ⟨e₁, h₁, hc₁⟩ := hfails 1
  rw [hsame] at h₀ h₁
  cases h₀.symm.trans h₁
  cases hc₀.symm.trans hc₁

/-- Siblings are expanded from the first of them on. -/
theorem Operation.calls_first (o : Options) (s : State) (ws : Whitespace) (n : Node)
    (rest : List Node) :
    (Operation.expandNodes ws (n :: rest)).Calls o s ⟨.first ws n rest, s⟩ := by
  refine .of_fails fun l e _ he => ⟨e, ?_, rfl⟩
  dsimp only [Level.answer, Level.run] at he
  show ((l.first ws n rest >>= fun nodes => l.walk ws rest (pushNodes [] nodes)).run s).1 = _
  rw [Expand.run_bind]
  revert he
  obtain ⟨r, t⟩ := (l.first ws n rest).run s
  rintro rfl
  rfl

/-- The content of an included document is expanded one level deeper, while the document is open. -/
theorem Operation.calls_included {tag : Tag} {href : String} {uri : Uri} {d : Document}
    (htag : isDirective o tag "include" = true) (hhref : tag.attribute? "href" = some href)
    (hplain : href.toList.any Interpolation.isBrace = false) (hs : s.depth < o.maxDepth)
    (hd : documentFor o (String.ofList (Text.trim href.toList)) s.environment = .ok (uri, d))
    (ws : Whitespace) (children following : List Node) :
    (Operation.expandNode ws (.element tag children) following).Calls o s
      ⟨.siblings ws (includedNodes d), s.including uri⟩ := by
  refine .of_fails fun l e _ he => ?_
  rw [isDirective, QName.isNamed, Bool.and_eq_true, beq_iff_eq] at htag
  have hvalue : expandedValue o l tag "href" = pure href := by
    rw [expandedValue, attributeValue, hhref]
    exact interpolateText_of_braceless hplain
  have hcomplete : missingAttributes tag (requiredAttributes .inclusion) = [] := by
    simp [missingAttributes, requiredAttributes, hhref]
  have hrun (p : Parts) : runDirective o l ws .inclusion tag children p =
      withInclude o (String.ofList (Text.trim href.toList))
        fun d => l.siblings ws (includedNodes d) := by
    rw [runDirective, requireAttributes, hcomplete]
    show (do
      let value ← expandedValue o l tag "href"
      withInclude o (String.ofList (Text.trim value.toList))
        fun d => l.siblings ws (includedNodes d)) = _
    rw [hvalue, pure_bind]
  show ∃ e', ((Expand.locate tag (expandElement o l ws tag children _)).run s).1 = .error e' ∧ _
  rw [expandElement, if_pos htag.1, htag.2]
  show ∃ e', ((Expand.locate tag (runDirective o l ws .inclusion tag children _)).run s).1 =
    .error e' ∧ _
  rw [hrun, Expand.run_locate, run_withInclude_of_opened hd hs]
  dsimp only [Level.answer, Level.run] at he
  revert he
  obtain ⟨r, t⟩ := (l.siblings ws (includedNodes d)).run (s.including uri)
  rintro rfl
  exact ⟨_, rfl, Error.cause_locate _ _⟩

end Called

/-! ## What is left unchanged -/

/-- The level and the open documents are as before. -/
structure Kept (s t : State) : Prop where
  depth : t.depth = s.depth
  includes : t.environment.includes = s.environment.includes

theorem Kept.refl (s : State) : Kept s s := ⟨rfl, rfl⟩

theorem Kept.trans {s t u : State} (h : Kept s t) (h' : Kept t u) : Kept s u :=
  ⟨h'.depth.trans h.depth, h'.includes.trans h.includes⟩

theorem Kept.inCall (s : State) : Kept s s.inCall := ⟨rfl, rfl⟩

theorem Session.run_kept (o : Options) {α : Type} (p : Session Operation α) (s : State) :
    Kept s ((p.run o).run s).2 :=
  have h := (p.run_keeps (operation_keeps o) s s.of_anyNode).1
  ⟨h.depth, h.includes⟩

theorem level_kept (o : Options) (a : Activation) :
    Kept a.state ((Expander.level o).answer a).2 := by
  obtain ⟨c, s⟩ := a
  cases c with
  | siblings ws nodes => exact Session.run_kept o (.operation (.expandNodes ws nodes)) s
  | first ws node following =>
    exact Session.run_kept o (.operation (.expandNode ws node following)) s

/-! ## Invariants -/

/-- A property of states that says something of the level and the open documents only, and that is
preserved when an expansion goes deeper and when it opens a document. -/
structure Invariant (o : Options) (I : State → Prop) : Prop where
  kept {s t : State} : Kept s t → I s → I t
  descend {s : State} : I s → s.depth < o.maxDepth → I { s with depth := s.depth + 1 }
  including {s : State} {href : String} {uri : Uri} {d : Document} : I s → s.depth < o.maxDepth →
    documentFor o href s.environment = .ok (uri, d) → I (s.including uri)

section Invariants

variable {o : Options} {I : State → Prop}

/-- Levels that do what an expander does wherever the property holds. -/
abbrev Faithful (o : Options) (I : State → Prop) : Type :=
  {l : Level // ∀ a, I a.state → l.answer a = (Expander.level o).answer a}

/-- From states of a level with the property, all faithful levels do the same. -/
def Steady (I : State → Prop) {α : Type} (k : Nat) (V : α → Prop) (m : Faithful o I → Expand α) :
    Prop :=
  ∀ s : State, s.depth = k → I s → ∃ r : Except Error α × State,
    (∀ l, (m l).run s = r) ∧ Kept s r.2 ∧ ∀ a, r.1 = .ok a → V a

namespace Steady

variable {α β : Type} {k : Nat} {V : α → Prop} {W : β → Prop} {m : Faithful o I → Expand α}

theorem const {m : Expand α} (hm : ∀ s, Kept s (m.run s).2)
    (hv : ∀ s a, (m.run s).1 = .ok a → V a) : Steady (o := o) I k V fun _ => m :=
  fun s _ _ => ⟨m.run s, fun _ => rfl, hm s, hv s⟩

theorem bind (hI : Invariant o I) {f : Faithful o I → α → Expand β} (hm : Steady I k V m)
    (hf : ∀ a, V a → Steady I k W fun l => f l a) : Steady I k W fun l => m l >>= f l := by
  intro s hs hI'
  obtain ⟨⟨result, t⟩, hrun, hkept, hv⟩ := hm s hs hI'
  simp only [Expand.run_bind, hrun]
  cases result with
  | error e => exact ⟨(.error e, t), fun _ => rfl, hkept, fun _ h => by cases h⟩
  | ok a =>
    obtain ⟨r, hrun', hkept', hw⟩ := hf a (hv a rfl) t (hkept.depth.trans hs) (hI.kept hkept hI')
    exact ⟨r, hrun', hkept.trans hkept', hw⟩

/-- What is opened before and closed after a computation. -/
theorem within (enter leave : State → State) {k' : Nat} {s : State} (hm : Steady I k' V m)
    (hdepth : (enter s).depth = k') (hI : I (enter s))
    (hleave : ∀ t, Kept (enter s) t → Kept s (leave t)) :
    ∃ r : Except Error α × State, (∀ l, (Expand.within enter leave (m l)).run s = r) ∧
      Kept s r.2 ∧ ∀ a, r.1 = .ok a → V a := by
  obtain ⟨r, hrun, hkept, hv⟩ := hm (enter s) hdepth hI
  exact ⟨(r.1, leave r.2), fun l => by rw [Expand.run_within, hrun l], hleave _ hkept, hv⟩

theorem descend (hI : Invariant o I) (hm : k < o.maxDepth → Steady I (k + 1) V m) :
    Steady I k V fun l => Expand.descend o.maxDepth (m l) := by
  intro s hs hI'
  simp only [Expand.run_descend]
  by_cases hdepth : o.maxDepth ≤ s.depth
  · exact ⟨_, fun _ => if_pos hdepth, .refl s, fun _ h => by cases h⟩
  · simp only [if_neg hdepth]
    exact within (fun s => { s with depth := s.depth + 1 })
      (fun s => { s with depth := s.depth - 1 }) (hm (by omega)) (congrArg (· + 1) hs)
      (hI.descend hI' (by omega)) fun t ht => ⟨by rw [ht.depth]; rfl, ht.includes⟩

theorem inclusion (hI : Invariant o I) (href : String) {body : Faithful o I → Document → Expand α}
    (hb : k < o.maxDepth → ∀ d, Steady I (k + 1) V fun l => body l d) :
    Steady I k V fun l => withInclude o href (body l) := by
  intro s hs hI'
  simp only [run_withInclude]
  cases hd : documentFor o href s.environment with
  | error cause => exact ⟨_, fun _ => rfl, .refl s, fun _ h => by cases h⟩
  | ok found =>
    obtain ⟨uri, d⟩ := found
    by_cases hdepth : s.depth < o.maxDepth
    · have hrun (l) : (Expand.descend o.maxDepth (Expand.opening uri (body l d))).run s =
          (((body l d).run (s.including uri)).1, ((body l d).run (s.including uri)).2.closing) := by
        rw [Expand.run_descend, if_neg (by omega)]
        rfl
      simp only [hrun]
      exact within (fun s => s.including uri) State.closing (hb (by omega) d)
        (congrArg (· + 1) hs) (hI.including hI' hdepth hd)
        fun t ht => ⟨by rw [State.closing, ht.depth]; rfl, congrArg List.tail ht.includes⟩
    · simp only [Expand.run_descend, if_pos (show o.maxDepth ≤ s.depth by omega)]
      exact ⟨_, fun _ => rfl, .refl s, fun _ h => by cases h⟩

theorem locate (tag : Tag) (hm : Steady I k V m) :
    Steady I k V fun l => Expand.locate tag (m l) := by
  intro s hs hI'
  obtain ⟨⟨result, t⟩, hrun, hkept, hv⟩ := hm s hs hI'
  simp only [Expand.run_locate, hrun]
  cases result with
  | ok a => exact ⟨_, fun _ => rfl, hkept, hv⟩
  | error e => exact ⟨_, fun _ => rfl, hkept, fun _ h => by cases h⟩

end Steady

/-- The accord of what all faithful levels do the same. -/
def steady (hI : Invariant o I) : Accord (anySupply (Faithful o I) o) where
  Holds := Steady I
  pure h := .const (fun s => .refl s) fun _ _ e => by cases e; exact h
  mono hm h := fun s hs hI' =>
    let ⟨r, hrun, hkept, hv⟩ := hm s hs hI'
    ⟨r, hrun, hkept, fun a ha => h a (hv a ha)⟩
  bind := .bind hI
  fail _ := .const (fun s => .refl s) fun _ _ e => by cases e
  environment hf := by
    intro s hs hI'
    simp only [Expand.run_bind]
    exact hf (fun _ => s.environment) (fun name => lookupRow_uniform _) s hs hI'
  define name hx := by
    obtain ⟨value, rfl⟩ := hx.uniform
    exact .const (fun _ => ⟨rfl, rfl⟩) fun _ _ _ => trivial
  expression source := by
    refine .const (fun s => ?_) fun _ _ _ => trivial
    obtain ⟨cache, -, hcache⟩ := s.environment.expression_snd source
    rw [Expand.run_expression, hcache]
    exact ⟨rfl, rfl⟩
  call hm := fun s hs hI' => Steady.within _ _ hm hs (hI.kept (.inCall s) hI')
    fun t ht => ⟨ht.depth, ht.includes⟩
  descend := .descend hI

theorem steady_complete (hI : Invariant o I) : (steady hI).Complete where
  inclusion href hb := .inclusion hI href fun hk d => hb hk (fun _ => d) (rows_uniform _)
  loop := (Accord.Loops.of_limit (A := steady hI) (fun _ => rfl) trivial).loop
  locate := .locate
  missing _ _ := trivial

/-- Whatever is called from a state with the property, all faithful levels do the same. -/
theorem steady_call (hI : Invariant o I) (k : Nat) (c : Call) :
    (steady hI).Gives k c.whitespace fun l => l.1.run c :=
  fun s _ hI' => ⟨(Expander.level o).answer ⟨c, s⟩, fun l => l.2 ⟨c, s⟩ hI', level_kept o ⟨c, s⟩,
    fun _ _ => trivial⟩

theorem steady_calls (hI : Invariant o I) (k weight : Nat) :
    (steady hI).Calls k weight fun l => l.1 where
  toBelow := .of_levels
    (fun _ => Accord.levels_of_run uniformSupply_free (steady_call hI (k + 1))) fun _ _ => trivial
  same c _ := steady_call hI k c

/-- From a state with the property an operation calls what it calls from states with the
property. -/
theorem Invariant.calls (hI : Invariant o I) {α : Type} {op : Operation α} {s : State}
    {b : Activation} (h : op.Calls o s b) (hs : I s) : I b.state := by
  obtain ⟨l, hsame, hne⟩ := h
  by_contra hb
  have : Inhabited (Faithful o I) := ⟨Expander.level o, fun _ _ => rfl⟩
  have hcomplete := steady_complete hI
  obtain ⟨r, hrun, -⟩ := Accord.operation_accord uniformSupply_free
    (steady_calls hI s.depth op.weight) hcomplete.toPlaces op (fun _ => hcomplete.toIncludes)
    (fun _ => hcomplete.toLoops) le_rfl s rfl hs
  have hfaithful : ∀ a, I a.state → l.answer a = (Expander.level o).answer a :=
    fun a ha => hsame a fun heq => hb (heq ▸ ha)
  exact hne ((hrun ⟨l, hfaithful⟩).trans (hrun ⟨Expander.level o, fun _ _ => rfl⟩).symm)

/-- **What is invariant holds wherever a session comes through**, at any point inside any nesting of
expansions, calls and inclusions. -/
theorem Session.Reaches.invariant (hI : Invariant o I) {α : Type} {p : Session Operation α}
    {s t : State} (h : p.Reaches o s t) (hs : I s) : I t := by
  induction h with
  | start => exact hs
  | stop p s => exact hI.kept (p.run_kept o s) hs
  | first _ ih => exact ih hs
  | @next _ _ m _ s _ _ _ _ ih => exact ih (hI.kept (m.run_kept o s) hs)
  | tried _ ih => exact ih hs
  | @caught _ m _ s _ _ _ _ ih => exact ih (hI.kept (m.run_kept o s) hs)
  | called _ ih => exact ih (hI.kept (.inCall _) hs)
  | opened h _ ih =>
    obtain ⟨hdepth, uri, hd, rfl⟩ := opens_iff.mp h
    exact ih (hI.including hs hdepth hd)
  | inside h _ ih => exact ih (hI.calls h hs)

end Invariants

end XmlTemplate.Expansion
