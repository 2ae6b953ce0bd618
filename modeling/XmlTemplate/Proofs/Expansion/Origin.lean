import XmlTemplate.Proofs.Expansion.Conditional
import XmlTemplate.Proofs.Expansion.Inquiry
import XmlTemplate.Proofs.Expansion.Reachable

/-!
# Where failures come from

If something that an expander does fails, then either it fails on its own and no call that it makes
does, or it makes one call that fails and stops there. So from every failure a single chain of calls
leads to its origin, and the error that arises there is given one place on the way back: that of
the innermost element.

* `Operation.own_or_call`: a failure is an operation's own, or that of one of its calls.
* `Operation.FailsAlong`: the calls that were running when a cause arose.
* `Report`: errors with places around places, as the elements around a failure put them there.
* `failure_blames_innermost`: there is never more than one place, and which it is.
-/

namespace XmlTemplate.Expansion

open Markup

/-! ## Own failures, and those of calls -/

/-- Where an element stands when it is expanded from a state. -/
def State.place (s : State) (tag : Tag) : Place :=
  ⟨tag.name.qualified, tag.document <|> s.environment.currentDocument?, tag.position⟩

theorem Error.locate_eq (e : Error) (p : Place) : e.locate p = ⟨e.cause, e.place <|> some p⟩ := by
  obtain ⟨cause, place⟩ := e
  cases place <;> rfl

namespace Operation

variable {o : Options} {α : Type} {op : Operation α} {s : State} {l l' : Level}

/-- Where the element that is expanded stands. -/
def place? {α : Type} (op : Operation α) (s : State) : Option Place := op.tag?.map s.place

theorem run_on_congr (h : (op.inside o l).run s = (op.inside o l').run s) :
    (op.on o l).run s = (op.on o l').run s := by
  rw [on_eq, on_eq]
  cases op.tag? with
  | none => exact h
  | some tag =>
    dsimp only
    rw [Expand.run_locate, Expand.run_locate, h]

/-- The failures of an operation are those of what it does, with a place. -/
theorem error_on_iff {e : Error} : ((op.on o l).run s).1 = .error e ↔
    ∃ e₀, ((op.inside o l).run s).1 = .error e₀ ∧
      e = ⟨e₀.cause, e₀.place <|> op.place? ((op.on o l).run s).2⟩ := by
  rw [on_eq, place?]
  cases op.tag? with
  | none => simp
  | some tag =>
    dsimp only
    rw [Expand.run_locate]
    generalize (op.inside o l).run s = r
    obtain ⟨r, u⟩ := r
    cases r with
    | ok a => simp
    | error e₀ => simp [Error.locate_eq, State.place, eq_comm]

theorem place?_of_kept {t : State} (op : Operation α) (h : Kept s t) :
    op.place? t = op.place? s := by
  have hplace : t.place = s.place := by
    funext tag
    rw [State.place, State.place, Environment.currentDocument?, h.includes]
    rfl
  rw [place?, place?, hplace]

end Operation

/-- A call succeeds. -/
def Activation.Succeeds (o : Options) (b : Activation) : Prop :=
  ∃ nodes, ((Expander.level o).answer b).1 = .ok nodes

/-- A call fails with an error. -/
def Activation.FailsWith (o : Options) (b : Activation) (e : Error) : Prop :=
  ((Expander.level o).answer b).1 = .error e

namespace Operation

variable {o : Options} {α : Type} {op : Operation α} {s : State}

section Inquiry

variable {t : Inquiry α} (hrun : ∀ l : Level, (op.inside o l).run s = t.run l.answer)
  (ht : t.Forwards (op.Faults o) fun _ => True)

include hrun ht

/-- If a call is answered with an error, this is the one that comes of the operation, with a place
if it has none. -/
theorem error_of_asks {l : Level} {b : Activation} {e : Error} (hb : t.Asks l.answer b)
    (he : (l.answer b).1 = .error e) :
    ((op.on o l).run s).1 =
      .error ⟨e.cause, e.place <|> op.place? ((op.on o l).run s).2⟩ :=
  error_on_iff.mpr ⟨e, by rw [hrun]; exact ht.error_of_asks hb he, rfl⟩

/-- What an operation calls is what it asks about. -/
theorem calls_iff_asks {b : Activation} :
    op.Calls o s b ↔ t.Asks (Expander.level o).answer b := by
  refine ⟨fun ⟨l, hoff, hne⟩ => ?_, fun hb => .of_fails fun l e hoff he =>
    ⟨_, error_of_asks hrun ht (hb.of_agrees hoff) he, rfl⟩⟩
  by_contra hb
  refine hne (run_on_congr ?_)
  rw [hrun, hrun]
  exact Dialogue.run_eq_of_asks fun q hq => hoff q fun heq => hb (heq ▸ hq)

/-- What is asked about is smaller: whatever is not cannot end the inquiry, one way or another. -/
theorem smaller_of_asks {b : Activation} (hb : t.Asks (Expander.level o).answer b) :
    Smaller o s op.weight b := by
  classical
  by_contra hlarge
  let failing (limit : Nat) : Level :=
    (Expander.level o).replacing b (.error (.ofCause (.recursionLimit limit)), b.state)
  have hoff (limit : Nat) : (failing limit).AgreesOff o b := fun a ha => by
    rw [Level.answer_replacing, if_neg ha]
  have hanswer (limit : Nat) : ((failing limit).answer b).1 =
      .error (.ofCause (.recursionLimit limit)) := by
    rw [Level.answer_replacing, if_pos rfl]
  have hrestores (limit : Nat) : (failing limit).Restores := fun a => by
    by_cases ha : a = b
    · rw [ha, Level.answer_replacing, if_pos rfl]
    · rw [hoff limit a ha]
      exact level_restores a
  obtain ⟨d, hd, hmeets⟩ := operation_conducts (o := o) op s
  have hsame (limit : Nat) :
      (op.on o (failing limit)).run s = (op.on o (Expander.level o)).run s := by
    rw [hd _ (hrestores limit), hd _ level_restores]
    exact hmeets.run_eq level_restores fun q hq => hoff limit q fun heq => hlarge (heq ▸ hq)
  have hfails (limit : Nat) := error_of_asks hrun ht (hb.of_agrees (hoff limit)) (hanswer limit)
  have h₀ := hfails 0
  have h₁ := hfails 1
  rw [hsame] at h₀ h₁
  cases h₀.symm.trans h₁

end Inquiry

section Calls

variable {b b' : Activation} {e e' : Error}

/-- An operation calls only what is smaller. -/
theorem Calls.smaller (h : op.Calls o s b) : Smaller o s op.weight b := by
  obtain ⟨t, hrun, ht⟩ := inquiry o op s
  exact smaller_of_asks hrun ht ((calls_iff_asks hrun ht).mp h)

theorem place?_after (o : Options) (op : Operation α) (s : State) :
    op.place? ((op.on o (Expander.level o)).run s).2 = op.place? s := by
  rw [← operation_level]
  exact place?_of_kept op (Session.run_kept o (.operation op) s)

/-- A call that fails ends the operation, with its error. -/
theorem Calls.error (h : op.Calls o s b) (he : b.FailsWith o e) :
    ((Performs.perform o op).run s).1 = .error ⟨e.cause, e.place <|> op.place? s⟩ := by
  obtain ⟨t, hrun, ht⟩ := inquiry o op s
  rw [operation_level, error_of_asks hrun ht ((calls_iff_asks hrun ht).mp h) he, place?_after]

/-- There is no second call that fails. -/
theorem Calls.unique (h : op.Calls o s b) (he : b.FailsWith o e) (h' : op.Calls o s b')
    (he' : b'.FailsWith o e') : b' = b := by
  obtain ⟨t, hrun, ht⟩ := inquiry o op s
  exact ht.asks_unique ((calls_iff_asks hrun ht).mp h) he ((calls_iff_asks hrun ht).mp h') he'

/-- **A failure is an operation's own, or that of one of its calls.** -/
theorem own_or_call (h : ((Performs.perform o op).run s).1 = .error e) :
    ((∀ b, op.Calls o s b → b.Succeeds o) ∧ e.place = op.place? s ∧ op.Faults o e.cause) ∨
      ∃ b e', op.Calls o s b ∧ b.FailsWith o e' ∧ e = ⟨e'.cause, e'.place <|> op.place? s⟩ := by
  obtain ⟨t, hrun, ht⟩ := inquiry o op s
  rw [operation_level, error_on_iff, place?_after] at h
  obtain ⟨e₀, he₀, rfl⟩ := h
  rw [hrun] at he₀
  refine (ht.own_or_asked he₀).imp (fun ⟨hok, hplace, hcause⟩ => ⟨fun b hb => ?_, ?_, hcause⟩)
    fun ⟨b, hb, he⟩ => ⟨b, e₀, (calls_iff_asks hrun ht).mpr hb, he, rfl⟩
  · exact hok b ((calls_iff_asks hrun ht).mp hb)
  · dsimp only
    rw [hplace]
    rfl

end Calls

end Operation

/-! ## The way to the origin -/

/-- The calls that were running when a cause arose, each made by the one before. What fails at the
end of them fails on its own: all its calls succeed. -/
def Operation.FailsAlong (o : Options) (cause : Cause) :
    {α : Type} → Operation α → State → List Activation → Prop
  | _, op, s, [] =>
    (∃ e, ((Performs.perform o op).run s).1 = .error e ∧ e.cause = cause) ∧
      ∀ b, op.Calls o s b → b.Succeeds o
  | _, op, s, b :: rest =>
    op.Calls o s b ∧ FailsAlong o cause b.call.operation b.state rest

/-- Where the element stands that an activation expands. -/
def Activation.place? (b : Activation) : Option Place := b.call.operation.place? b.state

/-- The innermost of the elements that are expanded by an operation and by calls inside it. -/
def Operation.innermost? {α : Type} (op : Operation α) (s : State) (chain : List Activation) :
    Option Place :=
  (op.place? s :: chain.map Activation.place?).reduceOption.getLast?

theorem perform_call (o : Options) (b : Activation) :
    (Performs.perform o b.call.operation).run b.state = (Expander.level o).answer b := by
  obtain ⟨c, s⟩ := b
  cases c <;> rfl

theorem Activation.failsWith_iff {o : Options} {b : Activation} {e : Error} :
    b.FailsWith o e ↔ ((Performs.perform o b.call.operation).run b.state).1 = .error e := by
  rw [perform_call]
  exact Iff.rfl

theorem Activation.not_succeeds {o : Options} {b : Activation} {e : Error} (h : b.FailsWith o e) :
    ¬ b.Succeeds o := fun ⟨_, hok⟩ => by cases hok.symm.trans h

namespace Operation

variable {o : Options} {α : Type} {op : Operation α} {s : State} {cause cause' : Cause}
  {chain chain' : List Activation}

theorem innermost?_cons (op : Operation α) (s : State) (b : Activation) (rest : List Activation) :
    op.innermost? s (b :: rest) =
      (b.call.operation.innermost? b.state rest <|> op.place? s) := by
  show (op.place? s :: b.place? :: rest.map Activation.place?).reduceOption.getLast? =
    ((b.place? :: rest.map Activation.place?).reduceOption.getLast? <|> op.place? s)
  cases op.place? s with
  | none => simp [List.reduceOption_cons_of_none]
  | some p =>
    rw [List.reduceOption_cons_of_some, List.getLast?_cons]
    cases (b.place? :: rest.map Activation.place?).reduceOption.getLast? <;> rfl

/-- Whatever happens at the end of the calls comes through to the operation. -/
theorem FailsAlong.fails (h : op.FailsAlong o cause s chain) :
    ∃ e, ((Performs.perform o op).run s).1 = .error e ∧ e.cause = cause := by
  induction chain generalizing α op s with
  | nil => exact h.1
  | cons b rest ih =>
    obtain ⟨e, he, rfl⟩ := ih h.2
    exact ⟨_, h.1.error (Activation.failsWith_iff.mpr he), rfl⟩

theorem FailsAlong.failsWith {b : Activation}
    (h : b.call.operation.FailsAlong o cause b.state chain) : ∃ e, b.FailsWith o e := by
  obtain ⟨e, he, -⟩ := h.fails
  exact ⟨e, Activation.failsWith_iff.mpr he⟩

theorem FailsAlong.unique (h : op.FailsAlong o cause s chain)
    (h' : op.FailsAlong o cause' s chain') : cause' = cause ∧ chain' = chain := by
  induction chain generalizing α op s chain' with
  | nil =>
    cases chain' with
    | nil =>
      obtain ⟨⟨e, he, rfl⟩, -⟩ := h
      obtain ⟨⟨e', he', rfl⟩, -⟩ := h'
      cases he.symm.trans he'
      exact ⟨rfl, rfl⟩
    | cons b rest =>
      obtain ⟨e, he⟩ := h'.2.failsWith
      exact absurd (h.2 b h'.1) (b.not_succeeds he)
  | cons b rest ih =>
    obtain ⟨e, he⟩ := h.2.failsWith
    cases chain' with
    | nil => exact absurd (h'.2 b h.1) (b.not_succeeds he)
    | cons b' rest' =>
      obtain ⟨e', he'⟩ := h'.2.failsWith
      cases h.1.unique he h'.1 he'
      obtain ⟨hcause, hrest⟩ := ih h.2 h'.2
      exact ⟨hcause, congrArg _ hrest⟩

/-- A chain for each call that fails gives one for the operation. -/
theorem exists_failsAlong_of_calls {e : Error} (h : ((Performs.perform o op).run s).1 = .error e)
    (hcalls : ∀ b e', op.Calls o s b → b.FailsWith o e' → ∃ rest,
      b.call.operation.FailsAlong o e'.cause b.state rest ∧
        e'.place = b.call.operation.innermost? b.state rest) :
    ∃ chain, op.FailsAlong o e.cause s chain ∧ e.place = op.innermost? s chain := by
  rcases own_or_call h with ⟨hok, hplace, -⟩ | ⟨b, e', hb, he', rfl⟩
  · refine ⟨[], ⟨⟨e, h, rfl⟩, hok⟩, hplace.trans ?_⟩
    rw [innermost?]
    cases op.place? s <;> rfl
  · obtain ⟨rest, hrest, hplace⟩ := hcalls b e' hb he'
    refine ⟨b :: rest, ⟨hb, hrest⟩, ?_⟩
    rw [innermost?_cons, ← hplace]

end Operation

/-- The chain of a call that fails. The induction is on smaller activations. -/
theorem Activation.exists_failsAlong {o : Options} (b : Activation) {e : Error}
    (h : b.FailsWith o e) : ∃ chain, b.call.operation.FailsAlong o e.cause b.state chain ∧
      e.place = b.call.operation.innermost? b.state chain := by
  induction b using (measure_wellFounded o).induction generalizing e with
  | h b ih =>
    refine Operation.exists_failsAlong_of_calls (failsWith_iff.mp h) fun c e' hc he' =>
      ih c ?_ he'
    have hsmaller := hc.smaller
    obtain ⟨c', s⟩ := b
    cases c' <;> exact hsmaller

theorem Operation.exists_failsAlong {o : Options} {α : Type} {op : Operation α} {s : State}
    {e : Error} (h : ((Performs.perform o op).run s).1 = .error e) :
    ∃ chain, op.FailsAlong o e.cause s chain ∧ e.place = op.innermost? s chain :=
  exists_failsAlong_of_calls h fun b _ _ he' => b.exists_failsAlong he'

/-! ## The end of the way -/

section End

variable {o : Options} {α : Type} {op : Operation α} {s : State} {cause : Cause}
  {chain : List Activation}

/-- The cause is one that the last of the calls may have itself, or the operation if there are no
calls. -/
theorem Operation.FailsAlong.faults (h : op.FailsAlong o cause s chain) :
    chain = [] ∧ op.Faults o cause ∨
      ∃ before b, chain = before ++ [b] ∧ b.call.operation.Faults o cause := by
  induction chain generalizing α op s with
  | nil =>
    obtain ⟨⟨e, he, rfl⟩, hok⟩ := h
    rcases own_or_call he with ⟨-, -, hfaults⟩ | ⟨b, e', hb, he', -⟩
    · exact .inl ⟨rfl, hfaults⟩
    · exact absurd (hok b hb) (b.not_succeeds he')
  | cons b rest ih =>
    refine .inr ?_
    rcases ih h.2 with ⟨rfl, hb⟩ | ⟨before, c, rfl, hc⟩
    · exact ⟨[], b, rfl, hb⟩
    · exact ⟨b :: before, c, rfl, hc⟩

/-- The element that is expanded last is the innermost. -/
theorem Operation.innermost?_concat (op : Operation α) (s : State) (chain : List Activation)
    {b : Activation} {p : Place} (h : b.place? = some p) :
    op.innermost? s (chain ++ [b]) = some p := by
  rw [innermost?, List.map_append, ← List.cons_append, List.reduceOption_append, List.map_cons, h,
    List.map_nil, List.reduceOption_cons_of_some, List.getLast?_append]
  rfl

theorem Operation.innermost?_isSome {tag : Tag} (h : op.tag? = some tag)
    (chain : List Activation) : (op.innermost? s chain).isSome := by
  rw [innermost?, place?, h, Option.map_some, List.reduceOption_cons_of_some, List.getLast?_cons]
  rfl

end End

/-! ## One place -/

/-- An error with any number of places around its cause. -/
inductive Report where
  | bare (cause : Cause)
  | located (place : Place) (source : Report)

/-- A place is put around an error unless there is one. -/
def Report.locate : Report → Place → Report
  | .located p source, _ => .located p source
  | .bare cause, place => .located place (.bare cause)

/-- An error as a report. -/
def Error.report (e : Error) : Report :=
  match e.place with
  | some place => .located place (.bare e.cause)
  | none => .bare e.cause

/-- What an element does to the errors that come through it, it does to their reports. -/
theorem Error.report_locate (e : Error) (place : Place) :
    (e.locate place).report = e.report.locate place := by
  obtain ⟨cause, p⟩ := e
  cases p <;> rfl

theorem Error.report_foldr_locate (e : Error) (places : List Place) :
    (places.foldr (fun place e => Error.locate e place) e).report =
      places.foldr (fun place report => Report.locate report place) e.report := by
  induction places with
  | nil => rfl
  | cons place rest ih => rw [List.foldr_cons, Error.report_locate, ih, List.foldr_cons]

/-- Of places that are put around a cause one after the other the first one stays. -/
theorem Error.foldr_locate (cause : Cause) (places : List Place) :
    places.foldr (fun place e => Error.locate e place) (.ofCause cause) =
      ⟨cause, places.getLast?⟩ := by
  induction places with
  | nil => rfl
  | cons place rest ih =>
    rw [List.foldr_cons, ih, Error.locate_eq, List.getLast?_cons]
    cases rest.getLast? <;> rfl

/-- Where the elements stand that are expanded by an operation and by calls inside it, from the
outermost to the innermost. -/
def Operation.places {α : Type} (op : Operation α) (s : State) (chain : List Activation) :
    List Place :=
  (op.place? s :: chain.map Activation.place?).reduceOption

/-- An error with the place of the innermost element is what all the elements make of its cause. -/
theorem Error.report_eq_foldr {α : Type} {op : Operation α} {s : State} {chain : List Activation}
    {e : Error} (h : e.place = op.innermost? s chain) :
    e.report = (op.places s chain).foldr (fun place report => Report.locate report place)
      (.bare e.cause) := by
  have he : e = ⟨e.cause, (op.places s chain).getLast?⟩ := by
    obtain ⟨cause, place⟩ := e
    exact congrArg (Error.mk cause) h
  have hbare : Report.bare e.cause = (Error.ofCause e.cause).report := rfl
  rw [hbare, ← Error.report_foldr_locate, Error.foldr_locate, ← he]

/-- How the failure of an operation is reported whose cause arose at the end of a chain of calls. -/
structure Operation.Blames (o : Options) {α : Type} (op : Operation α) (s : State) (e : Error)
    (chain : List Activation) : Prop where
  /-- The calls were running when the cause arose. -/
  along : op.FailsAlong o e.cause s chain
  /-- There is no other way to an origin, and no other cause. -/
  only {cause : Cause} {chain' : List Activation} : op.FailsAlong o cause s chain' →
    cause = e.cause ∧ chain' = chain
  /-- The place is that of the innermost element which was being expanded. -/
  place : e.place = op.innermost? s chain
  /-- Each of the elements that were being expanded put its place around the error, from the
  innermost out, unless there was one. -/
  reported : e.report =
    (op.places s chain).foldr (fun place report => report.locate place) (.bare e.cause)
  /-- There is nothing but the cause within the place. -/
  flat {place : Place} {source : Report} : e.report = .located place source →
    source = .bare e.cause
  /-- There is a place if an element is expanded. -/
  placed {tag : Tag} : op.tag? = some tag → ∃ place, e.report = .located place (.bare e.cause)

/-- **One place, of the innermost element.** Whatever fails, there is one chain of calls to where
the cause arose: each made by the one before, and the last of them makes none that fails. The error
has the place of the innermost of all elements that were being expanded then, whatever symbols,
loops, included documents, expressions and attributes lie in between: it is what becomes of the
cause when each of these elements puts its place around it unless there is one. It has no place only
if no element was being expanded, and there is never a place within a place. -/
theorem failure_blames_innermost (o : Options) {α : Type} (op : Operation α) {s : State} {e : Error}
    (h : ((Performs.perform o op).run s).1 = .error e) : ∃ chain, op.Blames o s e chain := by
  obtain ⟨chain, halong, hplace⟩ := Operation.exists_failsAlong h
  refine ⟨chain, halong, fun h' => halong.unique h', hplace, Error.report_eq_foldr hplace,
    fun hsource => ?_, fun htag => ?_⟩
  · rw [Error.report] at hsource
    cases hp : e.place with
    | none => rw [hp] at hsource; cases hsource
    | some p => rw [hp] at hsource; cases hsource; rfl
  · obtain ⟨place, hsome⟩ := Option.isSome_iff_exists.mp (op.innermost?_isSome (s := s) htag chain)
    exact ⟨place, by rw [Error.report, hplace, hsome]⟩

/-- An element without a condition, which stands in the second line. -/
def faultyTag : Tag := { directiveTag "if" [] with position := some ⟨2, 3⟩ }

/-- A symbol that holds the element inside another one. -/
def faultyState : State :=
  ⟨⟨⟨[("x", .nodes [.element ⟨.plain "q", [], some ⟨2, 1⟩, none⟩ [.element faultyTag []]])], []⟩,
    [], .ofCapacity 0⟩, 0⟩

/-- An element in which the symbol is invoked. -/
def invoking : Operation (List Node) :=
  .expandNode .collapse
    (.element ⟨.plain "r", [], some ⟨1, 1⟩, none⟩ [.element (directiveTag "x" []) []]) []

/-- Of the elements around one another the innermost has the place. -/
theorem failure_blames_innermost_symbol :
    ((Performs.perform (.standard (Loader.ofTexts [])) invoking).run faultyState).1 =
        .error ⟨.missingAttributes "pp:if" ["expr"], some ⟨"pp:if", none, some ⟨2, 3⟩⟩⟩ ∧
      ∃ chain, invoking.Blames (.standard (Loader.ofTexts [])) faultyState
        ⟨.missingAttributes "pp:if" ["expr"], some ⟨"pp:if", none, some ⟨2, 3⟩⟩⟩ chain := by
  have hrun : ((Performs.perform (.standard (Loader.ofTexts [])) invoking).run faultyState).1 =
      .error ⟨.missingAttributes "pp:if" ["expr"], some ⟨"pp:if", none, some ⟨2, 3⟩⟩⟩ := rfl
  exact ⟨hrun, failure_blames_innermost _ invoking hrun⟩

end XmlTemplate.Expansion
