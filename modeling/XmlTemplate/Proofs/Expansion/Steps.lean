import XmlTemplate.Proofs.Expansion.Accord
import XmlTemplate.Proofs.Interpolation.Segments

/-!
# Every step of an expansion

Whatever an expansion does has the property that an `Accord` is about. This is the one place where
the steps of an expander are gone through: whatever is to be known of all of them is made an accord.

* `evalSymbol_accord`, `actOn_accord`, ...: each step, from the rules.
* `expandNode_accord`, `expandNodes_accord`, `expandElse_accord`, `elementParts_accord`: what is
  done on one level. The mutual induction follows the syntax.
* `below_accord`, `atLevel_accord`: all levels.
* `expandTop_accord`: the top level of a document.
-/

namespace XmlTemplate.Expansion.Accord

open Markup Interpolation

variable {ι : Type} {o : ι → Options} {P : Supply o} {A : Accord P} {α β : Type} {k : Nat}

/-! ## Symbols -/

section Steps

variable {l : ι → Level} (hl : P.admits k → A.Levels (k + 1) l)

include hl

theorem evalSymbol_accord (ws : Whitespace) (name : String) :
    A.Gives k ws fun i => evalSymbol (o i) (l i) ws name := by
  refine A.environment fun env hlookup => ?_
  obtain h | ⟨value, h⟩ | ⟨xs, hx, h⟩ := (hlookup name).cases
  · simp only [h]
    exact throw trivial
  · simp only [h]
    refine A.pure ?_
    split
    · exact P.nil
    · rename_i hvalue
      exact P.text fun _ he => hvalue (by rw [he]; rfl)
  · simp only [h]
    exact descended fun hk => (hl hk).siblings ws hx

/-- Literals come out as they are, which may be empty where empty texts are not left out. -/
theorem interpolateFrom_accord {ws : Whitespace} {before : List Node}
    (hb : P.nodes k ws before.reverse) {parts : List Segment}
    (h : ws = .collapse → .literal "" ∉ parts) :
    A.Gives k ws fun i => interpolateFrom (o i) (l i) ws before parts := by
  induction parts generalizing before with
  | nil => exact A.pure hb
  | cons part rest ih =>
    have hrest (hws : ws = .collapse) : .literal "" ∉ rest :=
      fun hm => h hws (List.mem_cons_of_mem _ hm)
    cases part with
    | literal text =>
      have htext : P.nodes k ws [.text text] :=
        P.text fun hws e => h hws (e ▸ List.mem_cons_self)
      exact ih (P.append hb htext) hrest
    | symbol name =>
      exact A.bind (evalSymbol_accord hl ws name) fun nodes hn => ih (P.append hb hn) hrest

theorem interpolate_accord {ws : Whitespace} {text : String} (h : ws = .collapse → text ≠ "") :
    A.Gives k ws fun i => interpolate (o i) (l i) ws text :=
  interpolateFrom_accord hl P.nil fun hws hm => h hws (eq_empty_of_literal_mem hm)

/-- An empty text that is interpolated by itself stays one. -/
theorem interpolate_items_accord (ws : Whitespace) (text : String) :
    A.Holds k (fun nodes => Every (P.Item k) nodes ∧
      ((ws = .collapse → text ≠ "") → P.nodes k ws nodes))
      fun i => interpolate (o i) (l i) ws text := by
  by_cases h : ws = .collapse → text ≠ ""
  · exact A.mono (interpolate_accord hl h) fun _ hn => ⟨Supply.items hn, fun _ => hn⟩
  · obtain ⟨rfl, rfl⟩ : ws = .collapse ∧ text = "" := by simpa using h
    exact A.pure ⟨Every.cons (Supply.item_text "") Every.nil, fun h => absurd rfl (h rfl)⟩

theorem interpolateText_accord (text : String) :
    A.Holds k (fun _ => True) fun i => interpolateText (o i) (l i) text := by
  unfold interpolateText
  by_cases h : text.toList.any isBrace
  · simp only [h, if_true]
    exact A.bind (interpolate_accord hl nofun) fun _ _ => A.pure trivial
  · simp only [h]
    exact A.pure trivial

/-- Where nothing is asked of the values of attributes, it is enough to know of the nodes. -/
theorem Below.of_levels (hc : ∀ text value, P.computes text value) : A.Below k l :=
  ⟨hl, fun text => A.mono (interpolateText_accord hl text) fun value _ => hc text value⟩

/-! ## Expressions -/

theorem bindVariables_accord (ws : Whitespace) {before : Expr.Bindings}
    (hb : ∀ b ∈ before, Expr.Sequence.Of (P.Item k) b.2) (names : List String) :
    A.Holds k (fun vars => ∀ b ∈ vars, Expr.Sequence.Of (P.Item k) b.2)
      fun i => bindVariables (o i) (l i) ws before names := by
  induction names generalizing before with
  | nil => exact A.pure hb
  | cons name rest ih =>
    refine A.environment fun env hlookup => ?_
    obtain h | ⟨value, h⟩ | ⟨xs, -, h⟩ := (hlookup name).cases
    · simp only [h]
      exact ih hb
    · simp only [h]
      exact ih (List.forall_mem_cons.mpr ⟨Expr.Sequence.of_single trivial, hb⟩)
    · simp only [h]
      exact A.bind (evalSymbol_accord hl ws name) fun nodes hn =>
        ih (List.forall_mem_cons.mpr ⟨Expr.Sequence.of_nodes (P.items hn), hb⟩)

theorem evalExpr_accord (ws : Whitespace) (source : String) :
    A.Holds k (Expr.Sequence.Of (P.Item k)) fun i => evalExpr (o i) (l i) ws source :=
  A.bind (A.expression source) fun _ _ =>
    A.bind (bindVariables_accord hl ws (fun _ h => by cases h) _) fun _ hv =>
      A.mono (ofPlain (mapError_plain source _)) fun _ h => Expr.evaluate_of hv h

theorem evalNodes_accord (ws : Whitespace) (source : String) :
    A.Holds k (Every (P.Item k)) fun i => evalNodes (o i) (l i) ws source :=
  A.bind (evalExpr_accord hl ws source) fun _ hv => A.pure (Every.nodeOf P.item_text hv)

theorem evalText_accord (ws : Whitespace) (source : String) :
    A.Holds k (fun _ => True) fun i => evalText (o i) (l i) ws source :=
  A.bind (evalExpr_accord hl ws source) fun _ _ => A.pure trivial

theorem evalTruth_accord (ws : Whitespace) (source : String) :
    A.Holds k (fun _ => True) fun i => evalTruth (o i) (l i) ws source :=
  A.bind (evalExpr_accord hl ws source) fun _ _ =>
    A.mono (ofPlain (mapError_plain source _)) fun _ _ => trivial

theorem evalInteger_accord (ws : Whitespace) (source : String) :
    A.Holds k (fun _ => True) fun i => evalInteger (o i) (l i) ws source := by
  refine A.bind (evalText_accord hl ws source) fun text _ => ?_
  split
  · exact A.pure trivial
  · exact throw trivial

/-! ## Attributes of directives -/

theorem symbolArguments_accord (tag : Tag) :
    A.Holds k (fun _ => True) fun i => symbolArguments (o i) (l i) tag := by
  unfold symbolArguments
  induction tag.plainAttributes with
  | nil => exact A.pure trivial
  | cons a rest ih =>
    exact A.bind (interpolateText_accord hl _) fun _ _ => A.bind ih fun _ _ => A.pure trivial

theorem expandedValue_accord (tag : Tag) (name : String) :
    A.Holds k (fun _ => True) fun i => expandedValue (o i) (l i) tag name :=
  interpolateText_accord hl _

omit hl in
theorem defineAll_accord (bindings : List (String × String)) :
    A.Holds k (fun _ => True) fun _ => defineAll bindings := by
  induction bindings with
  | nil => exact A.pure trivial
  | cons b rest ih => exact seq (A.define b.1 (.text b.2)) ih

/-! ## Copies and symbols -/

theorem copyAttributes_accord (attributes : List Attribute) :
    A.Holds k (Copied P.space attributes) fun i => copyAttributes (o i) (l i) attributes := by
  induction attributes with
  | nil => exact A.pure .nil
  | cons a rest ih =>
    unfold copyAttributes
    simp only [P.space_eq]
    by_cases hdecl : a.isDeclaration
    · simp only [hdecl, if_true]
      by_cases hspace : a.value == P.space
      · simp only [hspace, if_true]
        exact A.mono ih fun _ h => .dropped hdecl (beq_iff_eq.mp hspace) h
      · simp only [hspace]
        exact A.bind ih fun _ h =>
          A.pure (.kept hdecl (fun e => hspace (beq_iff_eq.mpr e)) h)
    · simp only [hdecl]
      exact A.bind (interpolateText_accord hl _) fun value _ => A.bind ih fun _ h =>
        A.pure (.valued value (Bool.eq_false_iff.mpr hdecl) h)

theorem copyElement_accord (ws : Whitespace) {tag : Tag} {xs : ι → List Node}
    (hs : P.source fun i => .element tag (xs i)) (hx : Rows P.source xs)
    (hn : tag.name.isIn P.space = false) :
    A.Gives k ws fun i => copyElement (o i) (l i) ws tag (xs i) :=
  A.bind (copyAttributes_accord hl _) fun _ ha =>
    A.bind (lift fun hk => (hl hk).siblings ws hx) fun _ hc => A.pure (P.copy hs hn ha (.inr hc))

theorem defineSymbols_accord (tag : Tag) {xs : ι → List Node} (hx : Rows P.source xs) :
    A.Holds k (fun _ => True) fun i => defineSymbols (o i) (l i) tag (xs i) := by
  unfold defineSymbols
  cases tag.attribute? "name" with
  | some name => exact A.define name (.nodes hx)
  | none => exact A.bind (symbolArguments_accord hl tag) fun b _ => defineAll_accord b

theorem defineChildren_accord {xs : ι → List Node} (hx : Rows P.source xs) :
    A.Holds k (fun _ => True) fun i => defineChildren (o i) (l i) (xs i) := by
  induction hx with
  | nil => exact A.pure trivial
  | @cons x xs hx _ ih =>
    cases P.shape hx with
    | @leaf n hn =>
      cases n with
      | element tag children => exact absurd rfl (hn tag children)
      | _ => exact ih
    | @element tag children hc =>
      simp only [defineChildren, P.isDirective_eq]
      by_cases hd : tag.name.isNamed P.space "define"
      · simp only [hd, if_true]
        exact seq (defineSymbols_accord hl tag hc) ih
      · simp only [hd]
        exact ih
    | ignored hi =>
      simp only [defineChildren, P.not_isDirective hi (show "define" ≠ "ignore" by decide)]
      exact ih

theorem invoke_accord (ws : Whitespace) (tag : Tag) {xs : ι → List Node}
    (hx : Rows P.source xs) : A.Gives k ws fun i => invoke (o i) (l i) ws tag (xs i) := by
  refine A.environment fun env hlookup => ?_
  obtain ⟨b, hb⟩ := (hlookup tag.name.localName).isDefined
  simp only [hb]
  cases b with
  | false => exact throw trivial
  | true =>
    exact A.bind (symbolArguments_accord hl tag) fun arguments _ =>
      A.call (seq (defineAll_accord arguments)
        (seq (defineChildren_accord hl hx) (evalSymbol_accord hl ws _)))

end Steps

/-! ## Loops -/

section Loops

variable {ws : Whitespace} {body : ι → Expand (List Node)} (hb : A.Gives k ws body)

include hb

theorem countLoop_accord (name : String) (left index : Nat) {before : List Node}
    (h : P.nodes k ws before.reverse) :
    A.Gives k ws fun i => countLoop name (body i) left index before := by
  induction left generalizing index before with
  | zero => exact A.pure h
  | succ left ih =>
    exact A.bind (A.call (seq (A.define name (.text _)) hb)) fun _ hn => ih _ (P.append h hn)

omit hb in
theorem itemSymbol_accord {v : Expr.Value} (hv : v.Of (P.Item k)) :
    SymbolRow P.source fun _ : ι => itemSymbol v := by
  unfold itemSymbol
  split
  · exact .nodes (.const (Supply.Item.children hv))
  · exact .text _

theorem eachLoop_accord (name : String) {values : Expr.Sequence} (hv : values.Of (P.Item k))
    {before : List Node} (h : P.nodes k ws before.reverse) :
    A.Gives k ws fun i => eachLoop name (body i) values before := by
  induction values generalizing before with
  | nil => exact A.pure h
  | cons v rest ih =>
    have hd := A.define (k := k) name (itemSymbol_accord (hv v (by simp)))
    exact A.bind (A.call (seq hd hb)) fun _ hn =>
      ih (fun w hw => hv w (by simp [hw])) (P.append h hn)

/-- What one iteration gives: the nodes of its body, if the test holds. -/
abbrev IterationOf (P : Supply o) (k : Nat) (ws : Whitespace) (r : Option (List Node × Int64)) :
    Prop :=
  ∀ nodes next, r = some (nodes, next) → P.nodes k ws nodes

theorem forIteration_accord {limit : Nat} (hf : P.faults (.iterationLimit limit)) (mayRun : Bool)
    {test : ι → Expand Bool} {step : ι → Expand Int64} (ht : A.Holds k (fun _ => True) test)
    (hs : A.Holds k (fun _ => True) step) :
    A.Holds k (IterationOf P k ws)
      fun i => forIteration limit mayRun (test i) (body i) (step i) := by
  refine A.bind ht fun holds _ => ?_
  split
  · split
    · exact A.bind hb fun nodes hn => A.bind hs fun next _ => A.pure fun _ _ e => by
        cases e
        exact hn
    · exact A.fail hf
  · exact A.pure fun _ _ e => by cases e

omit hb in
theorem forLoop_accord {iteration : ι → Bool → Int64 → Expand (Option (List Node × Int64))}
    (hi : ∀ mayRun current, A.Holds k (IterationOf P k ws) fun i => iteration i mayRun current)
    (left : Nat) (current : Int64) {before : List Node} (h : P.nodes k ws before.reverse) :
    A.Gives k ws fun i => forLoop (iteration i) left current before := by
  induction left generalizing current before with
  | zero =>
    refine A.bind (hi false current) fun r hr => ?_
    split
    · exact A.pure (P.append h (hr _ _ rfl))
    · exact A.pure h
  | succ left ih =>
    refine A.bind (hi true current) fun r hr => ?_
    split
    · exact ih _ (P.append h (hr _ _ rfl))
    · exact A.pure h

omit hb in
/-- Loops that may run equally often follow from their iterations. -/
theorem Loops.of_limit {limit : Nat} (ho : ∀ i, (o i).maxIterations = limit)
    (hf : P.faults (.iterationLimit limit)) : A.Loops where
  loop counter first ht hb hs := by
    simp only [ho]
    exact forLoop_accord (fun mayRun current => A.call (seq (A.define counter (.text _))
      (forIteration_accord hb hf mayRun ht hs))) limit first P.nil

end Loops

/-! ## Directives -/

section Directives

variable {l : ι → Level} {ws : Whitespace} {tag : Tag} {p : ι → Parts}

section Attributes

variable (hl : P.admits k → A.Levels (k + 1) l)

include hl

theorem loopCount_accord (tag : Tag) :
    A.Holds k (fun _ => True) fun i => loopCount (o i) (l i) tag := by
  refine A.bind (expandedValue_accord hl tag _) fun text _ => ?_
  split
  · exact A.pure trivial
  · exact throw trivial

theorem forDirective_accord (hloops : A.Loops) (tag : Tag) (hp : A.PartsOf k ws p) :
    A.Gives k ws fun i => forDirective (o i) (l i) ws tag (p i) := by
  have value (name : String) := expandedValue_accord hl tag name
  refine A.bind (value _) fun source _ => ?_
  refine A.bind (evalInteger_accord hl ws source) fun first _ => ?_
  exact hloops.loop _ first (A.bind (value _) fun source _ => evalTruth_accord hl ws source)
    (hp.children ws) (A.bind (value _) fun source _ => evalInteger_accord hl ws source)

/-- An attribute that is given has a name that was checked, and its directive had one. -/
theorem attributeDirective_accord
    (hmissing : ∀ cause, requireAttributes tag ["name"] = .error cause → P.faults cause)
    {parts : ι → Whitespace → Expand (List Node)}
    (hp : A.Gives k .preserve fun i => parts i .preserve) :
    A.Holds k (fun a => (∃ chars, attributeName chars = .ok a.name) ∧
      (missingAttributes tag ["name"]).isEmpty = true)
      fun i => attributeDirective (o i) (l i) tag (parts i) := by
  refine A.bind (ofExcept hmissing) fun _ h => ?_
  refine A.bind (expandedValue_accord hl tag _) fun _ _ => ?_
  refine A.bind (ofPlain (attributeName_plain _)) fun _ hname => ?_
  exact A.bind hp fun _ _ => A.pure ⟨⟨_, hname⟩, missingAttributes_of_ok h⟩

theorem instructionDirective_accord (tag : Tag) (hp : A.PartsOf k ws p) :
    A.Gives k ws fun i => instructionDirective (o i) (l i) tag (p i) := by
  refine A.bind (expandedValue_accord hl tag _) fun text _ => ?_
  refine A.bind (ofPlain (instructionTarget_plain _)) fun target ht => ?_
  refine A.bind (hp.children .preserve) fun content _ => ?_
  dsimp only
  split
  · exact throw trivial
  · rename_i hc
    exact A.pure (P.instruction ht (Bool.eq_false_iff.mpr hc))

end Attributes

theorem branch_accord (hp : A.PartsOf k ws p) (condition : Bool) :
    A.Gives k ws fun i => branch ws (p i) condition := by
  cases condition with
  | true => exact hp.children ws
  | false => exact hp.otherwise

section Elements

variable (hl : A.Below k l)

include hl

theorem elementDirective_accord (hb : P.Builds tag) (he : A.Built k ws p) :
    A.Gives k ws fun i => elementDirective (o i) (l i) tag (p i) := by
  refine A.bind (expandedValue_accord hl.levels tag _) fun text _ => ?_
  have built {space : Option String} (hs : ComputesSpace P.computes tag space) :
      A.Gives k ws fun i => do
        let name ← Expand.ofExcept (elementName (Text.trim text.toList) space)
        let parts ← (p i).element
        return [.element { tag with name := name, attributes := parts.1 } parts.2] :=
    A.bind (ofPlain (elementName_plain _ space)) fun _ hn => A.bind he fun _ h =>
      A.pure (hb k ws _ _ _ _ _ hs hn h.1 h.2)
  unfold ComputesSpace at built
  cases ht : tag.attribute? "namespace" with
  | none =>
    rw [ht] at built
    simp only [pure_bind]
    exact built rfl
  | some uri =>
    rw [ht] at built
    simp only [pure_bind]
    exact A.bind (hl.computes uri) fun value hv => built ⟨value, rfl, hv⟩

theorem actOn_accord {d : Directive} (hi : d = .inclusion → A.Includes)
    (hloops : d = .loop → A.Loops) (hb : d = .element → P.Builds tag) {xs : ι → List Node}
    (hx : Rows P.source xs) (hp : A.PartsOf k ws p) (he : d = .element → A.Built k ws p) :
    A.Gives k ws fun i => actOn (o i) (l i) ws d tag (xs i) (p i) := by
  have value (name : String) := expandedValue_accord hl.levels tag name
  have ifDefined (holds : Bool → Bool) : A.Gives k ws (fun i => do
      branch ws (p i) (holds ((← Expand.environment).isDefined (attributeValue tag "name")))) := by
    refine A.environment fun env hlookup => ?_
    obtain ⟨b, hb⟩ := (hlookup (attributeValue tag "name")).isDefined
    simp only [hb]
    exact branch_accord hp _
  cases d with
  | ifTrue =>
    exact A.bind (value _) fun source _ =>
      A.bind (evalTruth_accord hl.levels ws source) fun c _ => branch_accord hp c
  | ifDefined => exact ifDefined id
  | ifUndefined => exact ifDefined not
  | alternative | ignore => exact A.pure P.nil
  | count =>
    exact A.bind (loopCount_accord hl.levels tag) fun n _ =>
      countLoop_accord (hp.children ws) _ n 1 P.nil
  | loop => exact forDirective_accord hl.levels (hloops rfl) tag hp
  | each =>
    exact A.bind (value _) fun source _ =>
      A.bind (evalExpr_accord hl.levels ws source) fun items hi =>
        eachLoop_accord (hp.children ws) _ hi P.nil
  | define => exact seq (defineSymbols_accord hl.levels tag hx) (A.pure P.nil)
  | eval =>
    exact A.bind (value _) fun source _ =>
      A.bind (evalNodes_accord hl.levels ws source) fun nodes hn => descended fun hk =>
        (hl.levels hk).siblings ws (.const fun n hm => Supply.Item.source (hn n hm))
  | scope =>
    exact A.bind (symbolArguments_accord hl.levels tag) fun bindings _ =>
      A.call (seq (defineAll_accord bindings) (hp.children ws))
  | inclusion =>
    exact A.bind (value _) fun href _ => (hi rfl).inclusion _ fun hk d hd =>
      A.mono ((hl.levels hk).siblings ws hd) fun _ hn => P.up hk hn
  | template => exact hp.children ws
  | element => exact elementDirective_accord hl (hb rfl) (he rfl)
  | attr => exact throw trivial
  | instruction => exact instructionDirective_accord hl.levels tag hp

theorem runDirective_accord {d : Directive} (hi : d = .inclusion → A.Includes)
    (hloops : d = .loop → A.Loops) (hb : d = .element → P.Builds tag) {xs : ι → List Node}
    (hx : Rows P.source xs) (hp : A.PartsOf k ws p) (he : A.Covers k ws d tag p) :
    A.Gives k ws fun i => runDirective (o i) (l i) ws d tag (xs i) (p i) :=
  A.bind (ofExcept fun _ => he.missing) fun _ h =>
    actOn_accord hl hi hloops hb hx hp fun hd => he.built hd (missingAttributes_of_ok h)

/-! ## One level -/

theorem expandElement_accord (hi : tag.name.isNamed P.space "include" = true → A.Includes)
    (hloops : tag.name.isNamed P.space "for" = true → A.Loops) {xs : ι → List Node}
    (hs : P.source fun i => .element tag (xs i))
    (hx : Rows P.source xs) (hp : A.PartsOf k ws p)
    (he : ∀ d, tag.name.isIn P.space = true → Directive.ofName? tag.name.localName = some d →
      A.Covers k ws d tag p) :
    A.Gives k ws fun i => expandElement (o i) (l i) ws tag (xs i) (p i) := by
  unfold expandElement
  simp only [P.space_eq]
  by_cases hin : tag.name.isIn P.space
  · simp only [hin, if_true]
    cases hd : Directive.ofName? tag.name.localName with
    | some d =>
      have named {name : String} (h : tag.name.localName = name) :
          tag.name.isNamed P.space name = true := by
        rw [QName.isNamed, hin, h]
        exact beq_self_eq_true name
      refine runDirective_accord hl (fun e => hi (named ?_)) (fun e => hloops (named ?_))
        (fun e _ _ => P.build hs (named ?_)) hx hp (he d hin hd)
      · exact Directive.eq_include_of_ofName? (hd.trans (congrArg some e))
      · exact Directive.eq_for_of_ofName? (hd.trans (congrArg some e))
      · exact Directive.eq_element_of_ofName? (hd.trans (congrArg some e))
    | none => exact invoke_accord hl.levels ws tag hx
  · simp only [hin]
    exact copyElement_accord hl.levels ws hs hx (Bool.eq_false_iff.mpr hin)

end Elements

theorem expandLeaf_accord (hl : P.admits k → A.Levels (k + 1) l) {n : Node}
    (hs : P.source fun _ => n) (hn : ∀ tag children, n ≠ .element tag children) :
    A.Gives k ws fun i => expandLeaf (o i) (l i) ws n := by
  cases n with
  | element tag children => exact absurd rfl (hn tag children)
  | text value =>
    unfold expandLeaf
    dsimp only
    split
    · exact A.pure P.nil
    · rename_i hblank
      exact interpolate_accord hl fun hws h => hblank ⟨hws, by rw [h]; rfl⟩
  | declaration value => exact A.fail (P.declaration hs)
  | _ => exact A.pure (P.leaf rfl hs)

end Directives

section Level

variable {l : ι → Level} [Inhabited ι]

mutual

/-- The first run says how the nodes of a row are built; all of them are built that way. -/
theorem expandNode_accord (hA : A.Complete) (hl : A.Below k l) (ws : Whitespace) :
    ∀ (node : Node) {x : ι → Node} {otherwise : ι → Expand (List Node)}, x default = node →
      P.source x → A.Gives k ws otherwise →
      A.Gives k ws fun i => expandNode (o i) (l i) ws (x i) (otherwise i)
  | .element tag children, x, otherwise, hnode, hx, ho => by
    cases P.shape hx with
    | leaf hn => exact absurd hnode (hn tag children)
    | element hc =>
      have hchildren := (Node.element.inj hnode).2
      simp only [expandNode]
      exact hA.locate _ (expandElement_accord hl (fun _ => hA.toIncludes)
        (fun _ => hA.toLoops) hx hc
        ⟨fun w => expandNodes_accord hA hl w children hchildren hc P.nil, ho⟩
        fun d _ _ => ⟨hA.requireAttributes_faults, fun _ _ =>
          elementParts_accord hA hl ws children hchildren hc Assembled.nil (.inl rfl)⟩)
    | ignored hignored =>
      have hspace i := (P.space_eq i).symm ▸ hignored i
      simp only [fun i => expandNode_of_ignored (d := l i) (hspace i)]
      exact A.pure P.nil
  | .text _, x, _, hnode, hx, _ | .cdata _, x, _, hnode, hx, _ | .comment _, x, _, hnode, hx, _
  | .instruction .., x, _, hnode, hx, _ | .doctype _, x, _, hnode, hx, _
  | .reference _, x, _, hnode, hx, _ | .declaration _, x, _, hnode, hx, _ => by
    cases P.shape hx with
    | leaf hn =>
      simp only [expandNode_of_leaf hn]
      exact expandLeaf_accord hl.levels hx hn
    | element => cases hnode
    | ignored => cases hnode

theorem expandNodes_accord (hA : A.Complete) (hl : A.Below k l) (ws : Whitespace) :
    ∀ (nodes : List Node) {xs : ι → List Node} {before : List Node}, xs default = nodes →
      Rows P.source xs → P.nodes k ws before.reverse →
      A.Gives k ws fun i => expandNodes (o i) (l i) ws (xs i) before
  | [], xs, before, hnodes, hx, hb => by
    cases hx with
    | nil =>
      simp only [expandNodes]
      exact A.pure hb
    | cons => cases hnodes
  | node :: rest, xs, before, hnodes, hx, hb => by
    cases hx with
    | nil => cases hnodes
    | cons hx hxs =>
      obtain ⟨hnode, hrest⟩ := List.cons.inj hnodes
      simp only [expandNodes]
      refine A.bind (expandNode_accord hA hl ws node hnode hx
        (expandElse_accord hA hl ws rest hrest (hxs.mono P.shape))) fun nodes hn => ?_
      exact expandNodes_accord hA hl ws rest hrest hxs (P.append hb hn)

theorem expandElse_accord (hA : A.Complete) (hl : A.Below k l) (ws : Whitespace) :
    ∀ (nodes : List Node) {xs : ι → List Node}, xs default = nodes →
      Rows (Shape P.space P.source) xs →
      A.Gives k ws fun i => expandElse (o i) (l i) ws (xs i)
  | [], xs, hnodes, hx => by
    cases hx with
    | nil =>
      simp only [expandElse]
      exact A.pure P.nil
    | cons => cases hnodes
  | .element tag children :: rest, xs, hnodes, hx => by
    cases hx with
    | nil => cases hnodes
    | cons hx hxs =>
      have hnode := (List.cons.inj hnodes).1
      cases hx with
      | leaf hn => exact absurd hnode (hn tag children)
      | @element tag' _ hc =>
        have hchildren := (Node.element.inj hnode).2
        simp only [expandElse, P.isDirective_eq]
        by_cases hd : tag'.name.isNamed P.space "else"
        · simp only [hd, if_true]
          exact expandNodes_accord hA hl ws children hchildren hc P.nil
        · simp only [hd]
          exact A.pure P.nil
      | ignored hignored =>
        simp only [expandElse, P.not_isDirective hignored (show "else" ≠ "ignore" by decide)]
        exact A.pure P.nil
  | .text _ :: rest, xs, hnodes, hx | .cdata _ :: rest, xs, hnodes, hx
  | .comment _ :: rest, xs, hnodes, hx | .instruction .. :: rest, xs, hnodes, hx
  | .doctype _ :: rest, xs, hnodes, hx | .reference _ :: rest, xs, hnodes, hx
  | .declaration _ :: rest, xs, hnodes, hx => by
    cases hx with
    | nil => cases hnodes
    | cons hx hxs =>
      obtain ⟨hnode, hrest⟩ := List.cons.inj hnodes
      cases hx with
      | leaf hn =>
        simp only [expandElse_of_leaf hn]
        split
        · exact expandElse_accord hA hl ws rest hrest hxs
        · exact A.pure P.nil
      | element => cases hnode
      | ignored => cases hnode

theorem elementParts_accord (hA : A.Complete) (hl : A.Below k l) (ws : Whitespace) :
    ∀ (nodes : List Node) {xs : ι → List Node} {attributes : List Attribute} {before : List Node},
      xs default = nodes → Rows P.source xs → Assembled attributes →
      P.Content k ws before.reverse →
      A.Holds k (fun r => Assembled r.1 ∧ P.Content k ws r.2)
        fun i => elementParts (o i) (l i) ws (xs i) attributes before
  | [], xs, attributes, before, hnodes, hx, ha, hb => by
    cases hx with
    | nil =>
      simp only [elementParts]
      exact A.pure ⟨ha, hb⟩
    | cons => cases hnodes
  | .element tag children :: rest, xs, attributes, before, hnodes, hx, ha, hb => by
    cases hx with
    | nil => cases hnodes
    | cons hx hxs =>
      obtain ⟨hnode, hrest⟩ := List.cons.inj hnodes
      have next := A.bind (lift fun hk => (hl.levels hk).first ws hx hxs) fun nodes hn =>
        elementParts_accord hA hl ws rest hrest hxs ha (hb.append hn)
      cases P.shape hx with
      | leaf hn => exact absurd hnode (hn tag children)
      | @element tag' _ hc =>
        have hchildren := (Node.element.inj hnode).2
        simp only [elementParts, P.isDirective_eq]
        by_cases hd : tag'.name.isNamed P.space "attribute"
        · simp only [hd, if_true]
          refine A.bind (attributeDirective_accord hl.levels
            (fun _ => hA.requireAttributes_faults)
            (expandNodes_accord hA hl .preserve children hchildren hc P.nil)) fun a hname => ?_
          exact A.bind (ofPlain (addAttribute_plain _ a)) fun as has =>
            elementParts_accord hA hl ws rest hrest hxs (ha.add hname.1 has) hb
        · simp only [hd]
          exact next
      | ignored hignored =>
        simp only [elementParts, P.not_isDirective hignored (show "attribute" ≠ "ignore" by decide)]
        exact next
  | .text _ :: rest, xs, _, before, hnodes, hx, ha, hb
  | .cdata _ :: rest, xs, _, before, hnodes, hx, ha, hb
  | .comment _ :: rest, xs, _, before, hnodes, hx, ha, hb
  | .instruction .. :: rest, xs, _, before, hnodes, hx, ha, hb
  | .doctype _ :: rest, xs, _, before, hnodes, hx, ha, hb
  | .reference _ :: rest, xs, _, before, hnodes, hx, ha, hb
  | .declaration _ :: rest, xs, _, before, hnodes, hx, ha, hb => by
    cases hx with
    | nil => cases hnodes
    | cons hx hxs =>
      obtain ⟨hnode, hrest⟩ := List.cons.inj hnodes
      cases P.shape hx with
      | leaf hn =>
        simp only [elementParts_of_leaf hn]
        exact A.bind (lift fun hk => (hl.levels hk).first ws hx hxs) fun nodes hn =>
          elementParts_accord hA hl ws rest hrest hxs ha (hb.append hn)
      | element => cases hnode
      | ignored => cases hnode

end

end Level

/-! ## Levels -/

section Levels

variable [Inhabited ι] (hA : A.Complete)

include hA

/-- The level above others. -/
theorem below_succ_accord {room : ι → Nat} (hl : A.Below k fun i => below (o i) (room i)) :
    A.Levels k fun i => below (o i) (room i + 1) :=
  ⟨fun ws _ hx => expandNodes_accord hA hl ws _ rfl hx P.nil, fun ws _ _ hx hf =>
    expandNode_accord hA hl ws _ rfl hx (expandElse_accord hA hl ws _ rfl (hf.mono P.shape))⟩

/-- Where the same levels are admitted in all runs, and attributes have values that they may have
if this is so of the levels below. -/
theorem below_accord {limit : Nat} (ho : ∀ i, (o i).maxDepth = limit)
    (hc : ∀ k room, (P.admits k → A.Levels (k + 1) fun i => below (o i) room) →
      A.Below k fun i => below (o i) room) (room : Nat) :
    A.Below k fun i => below (o i) room := by
  induction room generalizing k with
  | zero =>
    refine hc k 0 fun _ => ⟨fun ws _ _ => ?_, fun ws _ _ _ _ => ?_⟩
    · simp only [below, ho]
      exact throw trivial
    · simp only [below, ho]
      exact throw trivial
  | succ room ih => exact hc k _ fun _ => below_succ_accord hA ih

variable (hlevel : A.Levelled)
  (hbelow : ∀ depth, A.Below k fun i => below (o i) ((o i).maxDepth - depth))

include hlevel hbelow

omit hA [Inhabited ι] in
/-- What is done on a level, with all the levels below it that are admitted. -/
theorem atLevel_accord {V : α → Prop} {body : ι → Level → Expand α}
    (hb : ∀ l : ι → Level, A.Below k l → A.Holds k V fun i => body i (l i)) :
    A.Holds k V fun i => Expander.atLevel (o i) (body i) :=
  hlevel.level (f := fun i depth => body i (below (o i) ((o i).maxDepth - depth)))
    fun depth => hb _ (hbelow depth)

theorem expander_expandNodes_accord (ws : Whitespace) {xs : ι → List Node}
    (hx : Rows P.source xs) : A.Gives k ws fun i => Expander.expandNodes (o i) ws (xs i) :=
  atLevel_accord hlevel hbelow fun _ hl => expandNodes_accord hA hl ws _ rfl hx P.nil

theorem expander_expandNode_accord (ws : Whitespace) {x : ι → Node} {following : ι → List Node}
    (hx : P.source x) (hf : Rows (Shape P.space P.source) following) :
    A.Gives k ws fun i => Expander.expandNode (o i) ws (x i) (following i) :=
  atLevel_accord hlevel hbelow fun _ hl =>
    expandNode_accord hA hl ws _ rfl hx (expandElse_accord hA hl ws _ rfl hf)

/-- An expander as a level. -/
theorem expander_accord :
    A.Levels k fun i => ⟨Expander.expandNodes (o i), Expander.expandNode (o i)⟩ :=
  ⟨fun ws _ => expander_expandNodes_accord hA hlevel hbelow ws,
    fun ws _ _ hx hf => expander_expandNode_accord hA hlevel hbelow ws hx (hf.mono P.shape)⟩

theorem expandTop_accord (ws : Whitespace) {D : Declaration → Prop} {xs : ι → List Node}
    (hx : Rows (TopRow P.source D) xs) {before : List Node}
    (hd : ∀ value, (P.source fun _ => .declaration value) → D value)
    (hb : P.Top D k ws before) :
    A.Holds k (fun nodes => P.Top D k ws nodes.reverse)
      fun i => Expander.expandTop (o i) ws (xs i) before := by
  induction hx generalizing before with
  | nil => exact A.pure (by rwa [List.reverse_reverse])
  | @cons x xs hx hxs ih =>
    have expanded (hx : P.source x) : A.Holds k (fun nodes => P.Top D k ws nodes.reverse)
        (fun i => do
          let nodes ← Expander.expandNode (o i) ws (x i) (xs i)
          Expander.expandTop (o i) ws (xs i) (pushNodes before nodes)) :=
      A.bind (expander_expandNode_accord hA hlevel hbelow ws hx (hxs.mono TopRow.shape))
        fun _ hn => ih (hb.push hn)
    cases hx with
    | declaration hvalue => exact ih (hb.declaration hvalue)
    | source hx =>
      cases P.shape hx with
      | @leaf n hn =>
        cases n with
        | doctype => exact ih (hb.doctype hx)
        | declaration => exact ih (hb.declaration (hd _ hx))
        | _ => exact expanded hx
      | element => exact expanded hx
      | ignored => exact expanded hx

end Levels

end XmlTemplate.Expansion.Accord
