import XmlTemplate.Proofs.Expansion.Recursion
import XmlTemplate.Proofs.Expansion.Steps

/-!
# Calls

What an operation does has a property if the calls have it that it makes: those that are one level
deeper, and those on its own level with less syntax.

* `Closed`, `uniformSupply`: what runs give that are given the same input.
* `unnamed?`, `Offence`, `Operation.offence?`: the element that lacks attributes when a directive
  is expanded.
* `Supply.Given`: what an operation gives.
* `Accord.Calls`: levels, one for each run, whose calls have the property.
* `inside_accord`, `operation_accord`: everything that an expander does, before and after its errors
  are given places. `unfold_accord`: one activation.
-/

namespace XmlTemplate.Expansion

open Markup

/-! ## The same input for all runs -/

section Uniform

variable (ι : Type)

/-- Runs that are given the same input. -/
def Uniform {α : Type} (x : ι → α) : Prop := ∃ a, x = fun _ => a

variable {ι}

theorem Rows.uniform {α : Type} {xs : ι → List α} (h : Rows (Uniform ι) xs) : Uniform ι xs := by
  induction h with
  | nil => exact ⟨[], rfl⟩
  | cons hx _ ih =>
    obtain ⟨a, rfl⟩ := hx
    obtain ⟨rest, rfl⟩ := ih
    exact ⟨a :: rest, rfl⟩

theorem rows_uniform {α : Type} (items : List α) : Rows (Uniform ι) fun _ => items :=
  .const fun a _ => ⟨a, rfl⟩

theorem SymbolRow.uniform {x : ι → Symbol} (h : SymbolRow (Uniform ι) x) : Uniform ι x := by
  cases h with
  | text value => exact ⟨.text value, rfl⟩
  | nodes hx =>
    obtain ⟨nodes, rfl⟩ := hx.uniform
    exact ⟨.nodes nodes, rfl⟩

theorem LookupRow.uniform {x : ι → Option Symbol} (h : LookupRow (Uniform ι) x) : Uniform ι x := by
  cases h with
  | none => exact ⟨.none, rfl⟩
  | some hx =>
    obtain ⟨value, rfl⟩ := hx.uniform
    exact ⟨.some value, rfl⟩

theorem symbolRow_uniform (value : Symbol) : SymbolRow (Uniform ι) fun _ => value := by
  cases value with
  | text value => exact .text value
  | nodes nodes => exact .nodes (rows_uniform nodes)

theorem lookupRow_uniform (value : Option Symbol) : LookupRow (Uniform ι) fun _ => value := by
  cases value with
  | none => exact .none
  | some value => exact .some (symbolRow_uniform value)

/-- What a name is bound to, where this is the same in all runs. -/
theorem lookupRow_of_eq {env : ι → Environment} {name : String} (value : Option Symbol)
    (h : ∀ i, (env i).lookup name = value) :
    LookupRow (Uniform ι) fun i => (env i).lookup name := by
  simp only [h]
  exact lookupRow_uniform value

end Uniform

/-- Lists of nodes that are closed under whatever expansions make of nodes. -/
structure Closed (nodes : Whitespace → List Node → Prop) : Prop where
  nil (ws : Whitespace) : nodes ws []
  /-- Empty texts are left out where white space is not preserved. -/
  text {ws : Whitespace} {value : String} : (ws = .collapse → value ≠ "") →
    nodes ws [.text value]
  leaf (ws : Whitespace) {n : Node} : n.element? = none → n.text? = none → nodes ws [n]
  element {ws : Whitespace} (tag : Tag) {content : List Node} : nodes ws content →
    nodes ws [.element tag content]
  append {ws : Whitespace} {before more : List Node} : nodes ws before.reverse → nodes ws more →
    nodes ws (pushNodes before more).reverse

/-- All lists. -/
theorem Closed.all : Closed fun _ _ => True := by
  constructor <;> intros <;> trivial

section Supply

variable {ι : Type} {nodes : Whitespace → List Node → Prop}

/-- All nodes may be expanded, the same ones in all runs. The settings differ at most in their
limits, and in what is read before an expansion begins. -/
def uniformSupply (o : ι → Options) {space : String} {loader : Loader}
    (hspace : ∀ i, (o i).space = space) (hloader : ∀ i, (o i).loader = loader)
    (admits : Nat → Prop) (hc : Closed nodes) (faults : Cause → Prop)
    (plain : ∀ {cause}, cause.Plain → faults cause)
    (declaration : faults (.unhandledNode .declaration)) : Supply o where
  space := space
  space_eq := hspace
  source := Uniform ι
  shape := by
    rintro _ ⟨n, rfl⟩
    cases n with
    | element tag children => exact .element (rows_uniform children)
    | _ => exact .leaf fun _ _ e => by cases e
  loaded uri := by
    simp only [hloader]
    cases loader uri with
    | error e => exact .error e
    | ok d => exact .ok (rows_uniform _)
  admits := admits
  nodes _ := nodes
  computes _ _ := True
  faults := faults
  again _ n _ := ⟨n, rfl⟩
  inside _ _ n _ := ⟨n, rfl⟩
  nil := hc.nil _
  append := hc.append
  text := hc.text
  leaf {_ ws n} hk _ := by
    cases n with
    | element | text | declaration => cases hk
    | _ => exact hc.leaf ws rfl rfl
  instruction {_ ws _ _ _} _ _ := hc.leaf ws rfl rfl
  copy _ _ _ hcontent := hc.element _ (hcontent.below (hc.nil _))
  build _ _ _ _ _ _ _ _ _ _ hcontent := hc.element _ (hcontent.below (hc.nil _))
  up _ hn := hn
  plain := plain
  declaration _ := declaration

/-- The settings are the same, too. -/
abbrev constantSupply (ι : Type) (o : Options) (admits : Nat → Prop) (hc : Closed nodes)
    (faults : Cause → Prop) (plain : ∀ {cause}, cause.Plain → faults cause)
    (declaration : faults (.unhandledNode .declaration)) : Supply fun _ : ι => o :=
  uniformSupply (fun _ => o) (fun _ => rfl) (fun _ => rfl) admits hc faults plain declaration

/-- Anything may come out, and every expansion may fail. -/
abbrev anySupply (ι : Type) (o : Options) : Supply fun _ : ι => o :=
  constantSupply ι o (· < o.maxDepth) .all (fun _ => True) (fun _ => trivial) trivial

/-- All runs are given the same input, which may be anything, and anything may be built of it. -/
structure Supply.Free {o : ι → Options} (P : Supply o) : Prop where
  source : P.source = Uniform ι
  builds (tag : Tag) : P.Builds tag

theorem uniformSupply_free {o : ι → Options} {space : String} {loader : Loader}
    {hspace : ∀ i, (o i).space = space} {hloader : ∀ i, (o i).loader = loader}
    {admits : Nat → Prop} {hc : Closed nodes} {faults : Cause → Prop}
    {plain : ∀ {cause}, cause.Plain → faults cause}
    {declaration : faults (.unhandledNode .declaration)} :
    (uniformSupply o hspace hloader admits hc faults plain declaration).Free where
  source := rfl
  builds _ _ _ _ _ _ _ _ _ _ _ hcontent := hc.element _ (hcontent.below (hc.nil _))

end Supply

/-! ## Missing attributes -/

/-- The first `attribute` directive among some nodes that has no name. -/
def unnamed? (o : Options) : List Node → Option Tag
  | [] => none
  | .element tag _ :: rest =>
    if isDirective o tag "attribute" && !(missingAttributes tag ["name"]).isEmpty then some tag
    else unnamed? o rest
  | _ :: rest => unnamed? o rest

/-- An element that lacks attributes, and which these are. -/
structure Offence where
  tag : Tag
  names : List String

/-- What is wrong with the element. -/
def Offence.cause (x : Offence) : Cause := .missingAttributes x.tag.name.qualified x.names

/-- What a directive finds to be missing when it is expanded: attributes of its own element, or the
name of an `attribute` among the children that an `element` directive deals with itself. -/
def Directive.offence? (o : Options) (d : Directive) (tag : Tag) (children : List Node) :
    Option Offence :=
  if (missingAttributes tag (requiredAttributes d)).isEmpty then
    if d = .element then (unnamed? o children).map (⟨·, ["name"]⟩) else none
  else some ⟨tag, missingAttributes tag (requiredAttributes d)⟩

/-- What an element is found to lack when it is expanded. -/
def Element.offence? (o : Options) (e : Element) : Option Offence :=
  if e.tag.name.isIn o.space then
    (Directive.ofName? e.tag.name.localName).bind (·.offence? o e.tag e.children)
  else none

/-- What an operation itself finds to be missing. -/
def Operation.offence? (o : Options) {α : Type} : Operation α → Option Offence
  | .expandNode _ node _ => node.element?.bind (Element.offence? o)
  | .directive d _ e _ => d.offence? o e.tag e.children
  | _ => none

section Required

variable {tag : Tag} {names : List String}

theorem offence_of_error {cause : Cause} (h : requireAttributes tag names = .error cause) :
    ¬ (missingAttributes tag names).isEmpty = true ∧
      cause = Offence.cause ⟨tag, missingAttributes tag names⟩ := by
  unfold requireAttributes at h
  split at h
  · cases h
  · cases h
    exact ⟨by assumption, rfl⟩

theorem missing_name_eq (h : ¬ (missingAttributes tag ["name"]).isEmpty = true) :
    missingAttributes tag ["name"] = ["name"] := by
  unfold missingAttributes at h ⊢
  cases hname : (tag.attribute? "name").isNone
  · simp [hname] at h
  · simp [hname]

/-- An offence is a lack of attributes, of the element or of an `attribute` child. -/
theorem Directive.offence?_of_missing {o : Options} {d : Directive} {children : List Node}
    (h : ¬ (missingAttributes tag (requiredAttributes d)).isEmpty = true) :
    d.offence? o tag children = some ⟨tag, missingAttributes tag (requiredAttributes d)⟩ :=
  if_neg h

theorem Directive.offence?_of_unnamed {o : Options} {d : Directive} {children : List Node} {t : Tag}
    (h : (missingAttributes tag (requiredAttributes d)).isEmpty = true) (hd : d = .element)
    (ht : unnamed? o children = some t) : d.offence? o tag children = some ⟨t, ["name"]⟩ := by
  rw [Directive.offence?, if_pos h, if_pos hd, ht]
  rfl

end Required

/-! ## What operations do -/

/-- The nodes in what an operation gives that were expanded. -/
def Operation.nodes {α : Type} : Operation α → α → List Node
  | .expandDocument .., nodes | .expandNodes .., nodes | .expandNode .., nodes
  | .directive .., nodes | .invoke .., nodes | .interpolate .., nodes | .evalSymbol .., nodes
  | .evalNodes .., nodes => nodes
  | .evalExpr .., values => values.map nodeOf
  | _, _ => []

/-- The call of an element that includes a document. -/
def Call.Inclusion (space : String) : Call → Prop
  | .first _ (.element tag _) _ => tag.name.isNamed space "include" = true
  | _ => False

/-- An operation that includes a document itself. -/
def Operation.Inclusion (space : String) {α : Type} : Operation α → Prop
  | .expandNode _ (.element tag _) _ => tag.name.isNamed space "include" = true
  | .directive d .. => d = .inclusion
  | _ => False

/-- An operation that runs a loop with a counter itself. -/
def Operation.Counts (space : String) {α : Type} : Operation α → Prop
  | .expandNode _ (.element tag _) _ => tag.name.isNamed space "for" = true
  | .directive d .. => d = .loop
  | _ => False

theorem Call.inclusion_operation {space : String} {c : Call} :
    c.operation.Inclusion space ↔ c.Inclusion space := by
  cases c with
  | siblings => exact Iff.rfl
  | first ws node following => cases node <;> exact Iff.rfl

variable {ι : Type} {o : ι → Options}

/-- What an operation gives on a level. An empty text that is interpolated by itself stays one. -/
def Supply.Given (P : Supply o) (k : Nat) {α : Type} : Operation α → α → Prop
  | .expandDocument ws _, nodes => P.Top (fun _ => True) k ws nodes.reverse
  | .expandNodes ws _, nodes | .expandNode ws _ _, nodes | .directive _ ws _ _, nodes
  | .invoke ws _, nodes | .evalSymbol ws _, nodes => P.nodes k ws nodes
  | .interpolate ws text, nodes =>
    Every (P.Item k) nodes ∧ ((ws = .collapse → text ≠ "") → P.nodes k ws nodes)
  | .evalNodes .., nodes => Every (P.Item k) nodes
  | .evalExpr .., values => values.Of (P.Item k)
  | _, _ => True

/-- Declarations aside, the nodes in what an operation gives have come out on the level. -/
theorem Supply.Given.items {P : Supply o} {k : Nat} {α : Type} {op : Operation α} {a : α}
    (h : P.Given k op a) :
    Every (fun n => P.Item k n ∨ ∃ value, n = .declaration value) (op.nodes a) := by
  have given {nodes : List Node} (h : Every (P.Item k) nodes) :
      Every (fun n => P.Item k n ∨ ∃ value, n = .declaration value) nodes :=
    fun n hn => .inl (h n hn)
  cases op with
  | expandDocument ws d =>
    have htop := (Top.every (P := P) Supply.item_text (fun _ => Supply.items) h).reverse
    rw [List.reverse_reverse] at htop
    exact fun n hn => (htop n hn).imp_right fun ⟨value, _, hvalue⟩ => ⟨value, hvalue⟩
  | interpolate => exact given h.1
  | evalNodes => exact given h
  | evalExpr => exact given (Every.nodeOf Supply.item_text h)
  | expandNodes | expandNode | directive | invoke | evalSymbol => exact given (Supply.items h)
  | _ => exact Every.nil

/-! ## Calls with the property -/

namespace Accord

variable {P : Supply o} {A : Accord P} {k weight : Nat} {l : ι → Level} {ws : Whitespace}

variable (A) in
/-- Calls on a level with less syntax than `weight` have the property, and so have all calls one
level deeper. -/
structure Calls (k weight : Nat) (l : ι → Level) : Prop extends A.Below k l where
  same (c : Call) : c.weight < weight → A.Gives k c.whitespace fun i => (l i).run c

variable (hP : P.Free) (hl : A.Calls k weight l)

section Source

include hP

theorem source_const (n : Node) : P.source fun _ => n := hP.source ▸ ⟨n, rfl⟩

theorem rows_source (nodes : List Node) : Rows P.source fun _ => nodes :=
  hP.source ▸ rows_uniform nodes

/-- Where all runs are given the same input, a level has the property if all calls have it. -/
theorem levels_of_run (h : ∀ c, A.Gives k c.whitespace fun i => (l i).run c) : A.Levels k l where
  siblings ws xs hx := by
    obtain ⟨nodes, rfl⟩ := (hP.source ▸ hx).uniform
    exact h (.siblings ws nodes)
  first ws x following hx hf := by
    obtain ⟨node, rfl⟩ : Uniform ι x := hP.source ▸ hx
    obtain ⟨following, rfl⟩ := (hP.source ▸ hf).uniform
    exact h (.first ws node following)

theorem Levels.run (h : A.Levels k l) (c : Call) : A.Gives k c.whitespace fun i => (l i).run c := by
  cases c with
  | siblings ws nodes => exact h.siblings ws (rows_source hP nodes)
  | first ws node following =>
    exact h.first ws (source_const hP node) (rows_source hP following)

end Source

section Walks

include hl

theorem walk_accord {nodes before : List Node} (h : 2 * Node.weightAll nodes < weight)
    (hb : P.nodes k ws before.reverse) : A.Gives k ws fun i => (l i).walk ws nodes before := by
  induction nodes generalizing before with
  | nil => exact A.pure hb
  | cons node rest ih =>
    rw [Node.weightAll] at h
    exact A.bind (hl.same (.first ws node rest) (by rw [Call.weight]; omega))
      fun nodes hn => ih (by omega) (P.append hb hn)

theorem walkTop_accord (hP : P.Free) {nodes before : List Node}
    (h : 2 * Node.weightAll nodes < weight) (hb : P.Top (fun _ => True) k ws before) :
    A.Holds k (fun nodes => P.Top (fun _ => True) k ws nodes.reverse)
      fun i => (l i).walkTop ws nodes before := by
  induction nodes generalizing before with
  | nil => exact A.pure (by rwa [List.reverse_reverse])
  | cons node rest ih =>
    rw [Node.weightAll] at h
    have hrest : 2 * Node.weightAll rest < weight := by omega
    have hcall := hl.same (.first ws node rest) (by rw [Call.weight]; omega)
    have next : A.Holds k (fun nodes => P.Top (fun _ => True) k ws nodes.reverse) (fun i => do
        let nodes ← (l i).first ws node rest
        (l i).walkTop ws rest (pushNodes before nodes)) :=
      A.bind hcall fun nodes hn => ih hrest (hb.push hn)
    cases node with
    | declaration value => exact ih hrest (hb.declaration trivial)
    | doctype value => exact ih hrest (hb.doctype (source_const hP _))
    | _ => exact next

theorem alternative_accord {nodes : List Node} (h : 2 * Node.weightAll nodes < weight) :
    A.Gives k ws fun i => (l i).alternative (o i) ws nodes := by
  induction nodes with
  | nil => exact A.pure P.nil
  | cons node rest ih =>
    rw [Node.weightAll] at h
    cases node with
    | element tag children =>
      rw [Node.weight] at h
      simp only [Level.alternative, P.isDirective_eq]
      split
      · exact hl.same (.siblings ws children) (by rw [Call.weight]; omega)
      · exact A.pure P.nil
    | _ =>
      simp only [Level.alternative]
      split
      · exact ih (by omega)
      · exact A.pure P.nil

end Walks

section Inside

variable [Inhabited ι]

include hP hl

/-- The children of an element that is built, where `attribute` directives without a name are
accounted for. -/
theorem assemble_accord {nodes : List Node} (h : 2 * Node.weightAll nodes < weight)
    (hf : ∀ t, unnamed? (o default) nodes = some t → P.faults (Offence.mk t ["name"]).cause)
    {attributes : List Attribute} (ha : Assembled attributes) {before : List Node}
    (hb : P.Content k ws before.reverse) :
    A.Holds k (fun r => Assembled r.1 ∧ P.Content k ws r.2)
      fun i => (l i).assemble (o i) ws nodes attributes before := by
  induction nodes generalizing attributes before with
  | nil => exact A.pure ⟨ha, hb⟩
  | cons node rest ih =>
    rw [Node.weightAll] at h
    have next (hf : ∀ t, unnamed? (o default) rest = some t →
        P.faults (Offence.mk t ["name"]).cause) :
        A.Holds k (fun r => Assembled r.1 ∧ P.Content k ws r.2) (fun i => do
          let nodes ← Expand.descend (o i).maxDepth ((l i).first ws node rest)
          (l i).assemble (o i) ws rest attributes (pushNodes before nodes)) :=
      A.bind (lift fun hk => (hl.levels hk).first ws (source_const hP node) (rows_source hP rest))
        fun nodes hn => ih (by omega) hf ha (hb.append hn)
    cases node with
    | element tag children =>
      rw [Node.weight] at h
      simp only [Level.assemble, P.isDirective_eq]
      rw [unnamed?, P.isDirective_eq] at hf
      by_cases hd : tag.name.isNamed P.space "attribute" = true
      · simp only [hd, if_true]
        rw [hd, Bool.true_and] at hf
        refine A.bind (attributeDirective_accord hl.levels (fun cause hc => ?_)
          (hl.same (.siblings .preserve children) (by rw [Call.weight]; omega))) fun a hnamed => ?_
        · obtain ⟨hmissing, rfl⟩ := offence_of_error hc
          have hoffence := hf tag (by rw [if_pos (by simpa using hmissing)])
          rwa [missing_name_eq hmissing]
        · exact A.bind (ofPlain (addAttribute_plain _ a)) fun as has =>
            ih (by omega) (by simpa [hnamed.2] using hf) (ha.add hnamed.1 has) hb
      · simp only [hd]
        exact next (by simpa [hd] using hf)
    | _ => exact next hf

omit [Inhabited ι] hP in
/-- A directive is smaller than its element: its children and the siblings that follow count
without it. -/
theorem parts_accord {children following : List Node}
    (h : 2 * (Node.weightAll children + 1 + Node.weightAll following) ≤ weight) :
    A.PartsOf k ws fun i => (l i).parts (o i) ws children following where
  children w := hl.same (.siblings w children) (by rw [Call.weight]; omega)
  otherwise := alternative_accord hl (by omega)

theorem parts_covered {d : Directive} {tag : Tag} {children following : List Node}
    (hf : ∀ x, d.offence? (o default) tag children = some x → P.faults x.cause)
    (h : 2 * (Node.weightAll children + 1 + Node.weightAll following) ≤ weight) :
    A.Covers k ws d tag fun i => (l i).parts (o i) ws children following where
  missing hc := by
    obtain ⟨hmissing, rfl⟩ := offence_of_error hc
    exact hf _ (Directive.offence?_of_missing hmissing)
  built hd hmissing := assemble_accord hP hl (by omega)
    (fun t ht => hf _ (Directive.offence?_of_unnamed hmissing hd ht)) Assembled.nil (.inl rfl)

/-- What is done to an element has the property, before its error is given a place. -/
theorem element_accord {tag : Tag} {children : List Node} (following : List Node)
    (hi : tag.name.isNamed P.space "include" = true → A.Includes)
    (hloops : tag.name.isNamed P.space "for" = true → A.Loops)
    (hf : ∀ x, Element.offence? (o default) ⟨tag, children⟩ = some x → P.faults x.cause)
    (h : 2 * (Node.weightAll children + 1 + Node.weightAll following) ≤ weight) :
    A.Gives k ws fun i =>
      expandElement (o i) (l i) ws tag children ((l i).parts (o i) ws children following) := by
  refine expandElement_accord hl.toBelow hi hloops (source_const hP _) (rows_source hP children)
    (parts_accord hl h) fun d hin hd => parts_covered hP hl (fun x hx => hf x ?_) h
  rw [Element.offence?, if_pos (by rwa [P.space_eq]), hd]
  exact hx

/-- Everything that an expander does has the property if its calls have it, before an error is given
the place of the element that is expanded. Attributes that the operation itself finds to be missing
are accounted for. An inclusion, and a loop with a counter, may be among its steps only if there is
a rule for it. -/
theorem inside_accord {α : Type} (op : Operation α) (hi : op.Inclusion P.space → A.Includes)
    (hloops : op.Counts P.space → A.Loops)
    (hf : ∀ x, op.offence? (o default) = some x → P.faults x.cause) (h : op.weight ≤ weight) :
    A.Holds k (P.Given k op) fun i => op.inside (o i) (l i) := by
  cases op with
  | define name value => exact A.define name (hP.source ▸ symbolRow_uniform value)
  | lookup name =>
    refine A.environment fun env hlookup => ?_
    obtain ⟨value, hvalue⟩ := (hP.source ▸ hlookup name).uniform
    simp only [congrFun hvalue]
    exact A.pure trivial
  | expandDocument ws d => exact walkTop_accord hl hP h .nil
  | expandNodes ws nodes =>
    rw [Operation.weight, Call.weight] at h
    exact walk_accord hl (by omega) P.nil
  | expandNode ws node following =>
    cases node with
    | element tag children =>
      rw [Operation.weight, Call.weight, Node.weight] at h
      exact element_accord hP hl following hi hloops hf h
    | _ =>
      dsimp only [Operation.inside, Operation.on, Level.unfold]
      exact expandLeaf_accord hl.levels (source_const hP _) fun _ _ e => by cases e
  | directive d ws e following =>
    rw [Operation.weight, Call.weight, Element.toNode, Node.weight] at h
    exact runDirective_accord hl.toBelow hi hloops (fun _ => hP.builds e.tag)
      (rows_source hP e.children) (parts_accord hl h) (parts_covered hP hl hf h)
  | invoke ws e => exact invoke_accord hl.levels ws e.tag (rows_source hP e.children)
  | interpolate ws text => exact interpolate_items_accord hl.levels ws text
  | interpolateText text => exact interpolateText_accord hl.levels text
  | evalSymbol ws name => exact evalSymbol_accord hl.levels ws name
  | evalExpr ws source => exact evalExpr_accord hl.levels ws source
  | evalNodes ws source => exact evalNodes_accord hl.levels ws source
  | evalText ws source => exact evalText_accord hl.levels ws source
  | evalTruth ws source => exact evalTruth_accord hl.levels ws source
  | evalInteger ws source => exact evalInteger_accord hl.levels ws source

/-- So it has afterwards, if there is a rule for places. -/
theorem operation_accord (hplaces : A.Places) {α : Type} (op : Operation α)
    (hi : op.Inclusion P.space → A.Includes) (hloops : op.Counts P.space → A.Loops)
    (h : op.weight ≤ weight) : A.Holds k (P.Given k op) fun i => op.on (o i) (l i) := by
  have hinside := inside_accord hP hl op hi hloops (fun x _ => hplaces.missing _ x.names) h
  simp only [Operation.on_eq]
  cases op.tag? with
  | none => exact hinside
  | some tag => exact hplaces.locate tag hinside

/-- One activation has the property if its calls have it. -/
theorem unfold_accord (hplaces : A.Places) (hloops : A.Loops) (c : Call)
    (hi : c.Inclusion P.space → A.Includes) (h : c.weight ≤ weight) :
    A.Gives k c.whitespace fun i => ((l i).unfold (o i)).run c := by
  have hop := operation_accord hP hl hplaces c.operation
    (fun hc => hi (Call.inclusion_operation.mp hc)) (fun _ => hloops) (by cases c <;> exact h)
  simp only [Call.on_operation] at hop
  cases c <;> exact hop

end Inside

end Accord

end XmlTemplate.Expansion
