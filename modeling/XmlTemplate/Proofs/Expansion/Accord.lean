import XmlTemplate.Proofs.Expansion.Ingredients

/-!
# Any number of runs

Expansions for the indices of a type, run side by side. They need not have the same input: where
one run has an element, each of the others has one with the same tag, or all of them have one that
is ignored. What comes out is the same in all of them. With a single index this is about one run.

* `Rows S`, `Shape space S`: lists of nodes, and nodes, one for each run.
* `Supply`: what the runs are given and what they give.
* `Accord`: a property of computations, one for each run, that every way to build a computation
  preserves. Its rules are all that is known of the property. Some are not asked of every accord:
  `Accord.Includes`, `Accord.Loops`, `Accord.Places`, `Accord.Levelled`.
* `Accord.Levels`, `Accord.Below`, `Accord.PartsOf`: levels, and what directives are made of, with
  the property.
-/

namespace XmlTemplate.Expansion

open Markup Interpolation

variable {ι : Type}

/-! ## Inputs -/

/-- Lists, one for each run, that have items of `S` place by place. -/
inductive Rows {α : Type} (S : (ι → α) → Prop) : (ι → List α) → Prop where
  | nil : Rows S fun _ => []
  | cons {x : ι → α} {xs : ι → List α} : S x → Rows S xs → Rows S fun i => x i :: xs i

namespace Rows

variable {α : Type} {S : (ι → α) → Prop}

/-- The same list in all runs. -/
theorem const {items : List α} (h : ∀ a ∈ items, S fun _ => a) : Rows S fun _ => items := by
  induction items with
  | nil => exact .nil
  | cons a rest ih =>
    exact .cons (h a List.mem_cons_self) (ih fun b hb => h b (List.mem_cons_of_mem a hb))

theorem mono {S' : (ι → α) → Prop} (hs : ∀ {x}, S x → S' x) {xs : ι → List α}
    (h : Rows S xs) : Rows S' xs := by
  induction h with
  | nil => exact .nil
  | cons hx _ ih => exact .cons (hs hx) ih

/-- In a single run. -/
theorem every {S : Node → Prop} {xs : Unit → List Node} (h : Rows (fun x => S (x ())) xs) :
    Every S (xs ()) := by
  induction h with
  | nil => exact Every.nil
  | cons hx _ ih => exact Every.cons hx ih

end Rows

/-- Nodes, one for each run, that go together: the same leaf, elements with the same tag and with
children in `S`, or elements all of which are ignored. -/
inductive Shape (space : String) (S : (ι → Node) → Prop) : (ι → Node) → Prop where
  | leaf {n : Node} : (∀ tag children, n ≠ .element tag children) → Shape space S fun _ => n
  | element {tag : Tag} {xs : ι → List Node} : Rows S xs →
    Shape space S fun i => .element tag (xs i)
  | ignored {tags : ι → Tag} {xs : ι → List Node} :
    (∀ i, (tags i).name.isNamed space "ignore" = true) →
    Shape space S fun i => .element (tags i) (xs i)

/-- Symbols, one for each run: the same text, or nodes in `S`. -/
inductive SymbolRow (S : (ι → Node) → Prop) : (ι → Symbol) → Prop where
  | text (value : String) : SymbolRow S fun _ => .text value
  | nodes {xs : ι → List Node} : Rows S xs → SymbolRow S fun i => .nodes (xs i)

/-- What a name is bound to, in each run: in none to anything, or in all of them to symbols that go
together. -/
inductive LookupRow (S : (ι → Node) → Prop) : (ι → Option Symbol) → Prop where
  | none : LookupRow S fun _ => .none
  | some {x : ι → Symbol} : SymbolRow S x → LookupRow S fun i => .some (x i)

section Constant

variable {S : (ι → Node) → Prop}

/-- The same symbol in all runs. -/
theorem SymbolRow.const {value : Symbol} (h : value.Of fun n => S fun _ => n) :
    SymbolRow S fun _ => value := by
  cases value with
  | text value => exact .text value
  | nodes nodes => exact .nodes (.const h)

theorem LookupRow.const {f : Frames} (h : f.Forall (Symbol.Of fun n => S fun _ => n))
    (name : String) : LookupRow S fun _ => f.lookup name := by
  cases hl : f.lookup name with
  | none => exact .none
  | some value => exact .some (.const (h.of_lookup hl))

end Constant

section Lookup

variable {S : (ι → Node) → Prop} {env : ι → Environment} {name : String}
  (h : LookupRow S fun i => (env i).lookup name)

include h

/-- A name is bound in no run, in all of them to the same text, or in all of them to nodes. -/
theorem LookupRow.cases : (∀ i, (env i).lookup name = .none) ∨
    (∃ value, ∀ i, (env i).lookup name = .some (.text value)) ∨
      ∃ xs : ι → List Node, Rows S xs ∧ ∀ i, (env i).lookup name = .some (.nodes (xs i)) := by
  generalize hr : (fun i => (env i).lookup name) = r at h
  cases h with
  | none => exact .inl (congrFun hr)
  | some hx =>
    cases hx with
    | text value => exact .inr (.inl ⟨value, congrFun hr⟩)
    | nodes hx => exact .inr (.inr ⟨_, hx, congrFun hr⟩)

/-- A name is bound in all runs or in none. -/
theorem LookupRow.isDefined : ∃ b, ∀ i, (env i).isDefined name = b := by
  obtain h | ⟨value, h⟩ | ⟨xs, -, h⟩ := h.cases
  · exact ⟨false, fun i => congrArg Option.isSome (h i)⟩
  · exact ⟨true, fun i => congrArg Option.isSome (h i)⟩
  · exact ⟨true, fun i => congrArg Option.isSome (h i)⟩

end Lookup

/-- What loading a document gives, in each run: the same error, or documents whose content is
in `S`. -/
inductive LoadedRow (S : (ι → Node) → Prop) : (ι → Except LoadError Document) → Prop where
  | error (e : LoadError) : LoadedRow S fun _ => .error e
  | ok {d : ι → Document} : Rows S (fun i => includedNodes (d i)) → LoadedRow S fun i => .ok (d i)

/-! ## A single run -/

section Single

variable {S : Node → Prop}

theorem Shape.single {space : String}
    (hc : ∀ {tag children}, S (.element tag children) → Every S children) {x : Unit → Node}
    (h : S (x ())) : Shape space (fun x => S (x ())) x := by
  rw [show x = fun _ => x () from rfl]
  cases hx : x () with
  | element tag children => exact .element (.const (hc (hx ▸ h)))
  | _ => exact .leaf fun _ _ e => by cases e

theorem SymbolRow.single {x : Unit → Symbol} (h : SymbolRow (fun x => S (x ())) x) :
    (x ()).Of S := by
  cases h with
  | text value => exact trivial
  | nodes hx => exact hx.every

theorem LoadedRow.single {r : Except LoadError Document}
    (h : ∀ d, r = .ok d → Every S (includedNodes d)) :
    LoadedRow (fun x : Unit → Node => S (x ())) fun _ => r := by
  cases r with
  | error e => exact .error e
  | ok d => exact .ok (.const (h d rfl))

end Single

/-! ## What is given and what comes out -/

/-- What the runs are given: settings, and nodes that are expanded. -/
structure Input (o : ι → Options) where
  space : String
  space_eq (i : ι) : (o i).space = space
  source : (ι → Node) → Prop
  shape {x : ι → Node} : source x → Shape space source x
  loaded (uri : Uri) : LoadedRow source fun i => (o i).loader uri

/-- What a single run is given. -/
def Input.single (options : Options) {S : Node → Prop}
    (child : ∀ {tag children}, S (.element tag children) → Every S children)
    (loaded : ∀ {uri d}, options.loader uri = .ok d → Every S (includedNodes d)) :
    Input fun _ : Unit => options where
  space := options.space
  space_eq _ := rfl
  source x := S (x ())
  shape := Shape.single child
  loaded _ := .single fun _ => loaded

/-- The content of an element: nothing, or what comes from one level below where this is
admitted. -/
def ContentOf (admitted : Prop) (below : List Node → Prop) (content : List Node) : Prop :=
  content = [] ∨ admitted ∧ below content

/-- What may come from below may be the content, if this may be nothing. -/
theorem ContentOf.below {admitted : Prop} {below : List Node → Prop} {content : List Node}
    (h : ContentOf admitted below content) (hnil : below []) : below content := by
  rcases h with rfl | h
  · exact hnil
  · exact h.2

/-- Whatever an `element` directive with this tag builds with a computed name is in `T`. -/
def BuildsOf (computes : String → String → Prop) (content T : List Node → Prop) (tag : Tag) :
    Prop :=
  ∀ chars space name attributes children, ComputesSpace computes tag space →
    elementName chars space = .ok name → Assembled attributes → content children →
    T [.element { tag with name := name, attributes := attributes } children]

/-- What the runs are given, and what they give: on each level siblings that come out, the values
that attributes may have, and the causes of failures. -/
structure Supply (o : ι → Options) extends Input o where
  /-- Whether there may be a level below one. -/
  admits : Nat → Prop
  nodes : (level : Nat) → Whitespace → List Node → Prop
  /-- What the symbols in a text are expanded to. -/
  computes : (text value : String) → Prop
  faults : Cause → Prop
  /-- What has come out may be expanded again. -/
  again {k : Nat} {ws : Whitespace} {ns : List Node} : nodes k ws ns →
    Every (fun n => source fun _ => n) ns
  /-- So may the children of an element that has come out. -/
  inside {k : Nat} {ws : Whitespace} {ns : List Node} {tag : Tag} {children : List Node} :
    nodes k ws ns → .element tag children ∈ ns → Every (fun n => source fun _ => n) children
  nil {k : Nat} {ws : Whitespace} : nodes k ws []
  append {k : Nat} {ws : Whitespace} {before more : List Node} : nodes k ws before.reverse →
    nodes k ws more → nodes k ws (pushNodes before more).reverse
  /-- Empty texts are left out where white space is not preserved. -/
  text {k : Nat} {ws : Whitespace} {value : String} : (ws = .collapse → value ≠ "") →
    nodes k ws [.text value]
  leaf {k : Nat} {ws : Whitespace} {n : Node} : isKept n = true → (source fun _ => n) →
    nodes k ws [n]
  instruction {k : Nat} {ws : Whitespace} {chars : List Char} {target data : String} :
    instructionTarget chars = .ok target → Text.contains ['?', '>'] data.toList = false →
    nodes k ws [.instruction target data]
  copy {k : Nat} {ws : Whitespace} {tag : Tag} {xs : ι → List Node} {attributes : List Attribute}
    {content : List Node} : (source fun i => .element tag (xs i)) → tag.name.isIn space = false →
    Copied space tag.attributes attributes → ContentOf (admits k) (nodes (k + 1) ws) content →
    nodes k ws [.element { tag with attributes := attributes } content]
  build {k : Nat} {ws : Whitespace} {tag : Tag} {xs : ι → List Node} :
    (source fun i => .element tag (xs i)) → tag.name.isNamed space "element" = true →
    BuildsOf computes (ContentOf (admits k) (nodes (k + 1) ws)) (nodes k ws) tag
  /-- What comes from one level below may come out here. -/
  up {k : Nat} {ws : Whitespace} {ns : List Node} : admits k → nodes (k + 1) ws ns → nodes k ws ns
  plain {cause : Cause} : cause.Plain → faults cause
  declaration {value : Declaration} :
    (source fun _ => .declaration value) → faults (.unhandledNode .declaration)

namespace Supply

variable {o : ι → Options} (P : Supply o)

/-- The content of elements that come out on a level. -/
abbrev Content (k : Nat) (ws : Whitespace) (content : List Node) : Prop :=
  ContentOf (P.admits k) (P.nodes (k + 1) ws) content

/-- Whatever an `element` directive with this tag builds may come out, on any level. -/
def Builds (tag : Tag) : Prop := ∀ k ws, BuildsOf P.computes (P.Content k ws) (P.nodes k ws) tag

/-- A node among those that come out on a level. -/
def Item (k : Nat) (n : Node) : Prop := ∃ ws ns, P.nodes k ws ns ∧ n ∈ ns

/-- Nodes that have come out at the top of a document, in reverse order. Declarations stay there,
if they are in `D`, and doctypes. -/
inductive Top (D : Declaration → Prop) (k : Nat) (ws : Whitespace) : List Node → Prop where
  | nil : Top D k ws []
  | push {before more : List Node} : Top D k ws before → P.nodes k ws more →
    Top D k ws (pushNodes before more)
  | declaration {before : List Node} {value : Declaration} : Top D k ws before → D value →
    Top D k ws (.declaration value :: before)
  | doctype {before : List Node} {value : String} : Top D k ws before →
    (P.source fun _ => .doctype value) → Top D k ws (.doctype value :: before)

variable {P} {k : Nat} {ws : Whitespace}

theorem items {ns : List Node} (h : P.nodes k ws ns) : Every (P.Item k) ns :=
  fun _ hn => ⟨ws, ns, h, hn⟩

theorem item_text (value : String) : P.Item k (.text value) :=
  ⟨.preserve, _, P.text nofun, List.mem_singleton_self _⟩

theorem Item.source {n : Node} (h : P.Item k n) : P.source fun _ => n := by
  obtain ⟨ws, ns, h, hn⟩ := h
  exact P.again h n hn

theorem Item.children {tag : Tag} {children : List Node} (h : P.Item k (.element tag children)) :
    Every (fun n => P.source fun _ => n) children := by
  obtain ⟨ws, ns, h, hn⟩ := h
  exact P.inside h hn

/-- Nodes from one level below after others. -/
theorem Content.append {before more : List Node} (hb : P.Content k ws before.reverse)
    (hm : P.admits k ∧ P.nodes (k + 1) ws more) :
    P.Content k ws (pushNodes before more).reverse := by
  refine .inr ⟨hm.1, P.append ?_ hm.2⟩
  rcases hb with hb | hb
  · rw [hb]
    exact P.nil
  · exact hb.2

/-- What all nodes have that come out, those at the top of a document have too, the declarations
apart. -/
theorem Top.every {D : Declaration → Prop} {T : Node → Prop} (ht : ∀ value, T (.text value))
    (hnodes : ∀ ns, P.nodes k ws ns → Every T ns) {before : List Node} (h : P.Top D k ws before) :
    Every (fun n => T n ∨ ∃ value, D value ∧ n = .declaration value) before := by
  induction h with
  | nil => exact Every.nil
  | push _ hm ih =>
    exact Every.pushNodes (fun value => .inl (ht value)) (fun n hn => .inl (hnodes _ hm n hn)) ih
  | declaration _ hd ih => exact Every.cons (.inr ⟨_, hd, rfl⟩) ih
  | doctype _ hs ih => exact Every.cons (.inl (hnodes _ (P.leaf rfl hs)).head) ih

theorem isDirective_eq (P : Supply o) (i : ι) (tag : Tag) (name : String) :
    isDirective (o i) tag name = tag.name.isNamed P.space name := by
  rw [isDirective, P.space_eq]

/-- Elements that are ignored are no other directives. -/
theorem not_isDirective (P : Supply o) {tags : ι → Tag} {name : String}
    (h : ∀ i, (tags i).name.isNamed P.space "ignore" = true) (hname : name ≠ "ignore") (i : ι) :
    isDirective (o i) (tags i) name = false := by
  have hi := h i
  simp only [QName.isNamed, Bool.and_eq_true, beq_iff_eq] at hi
  simp only [P.isDirective_eq, QName.isNamed, hi.2, Bool.and_eq_false_iff, beq_eq_false_iff_ne]
  exact .inr hname.symm

end Supply

/-- Nodes that may stand at the top of a document: those that are expanded, and declarations
in `D`. -/
inductive TopRow (S : (ι → Node) → Prop) (D : Declaration → Prop) : (ι → Node) → Prop where
  | source {x : ι → Node} : S x → TopRow S D x
  | declaration {value : Declaration} : D value → TopRow S D fun _ => .declaration value

theorem TopRow.shape {o : ι → Options} {P : Supply o} {D : Declaration → Prop} {x : ι → Node}
    (h : TopRow P.source D x) : Shape P.space P.source x := by
  cases h with
  | source h => exact P.shape h
  | declaration => exact .leaf fun _ _ e => by cases e

/-! ## Nodes on one level -/

/-- What is ignored gives nothing. -/
theorem expandNode_of_ignored {options : Options} {d : Level} {tag : Tag}
    (h : tag.name.isNamed options.space "ignore" = true) (ws : Whitespace) (children : List Node)
    (otherwise : Expand (List Node)) :
    expandNode options d ws (.element tag children) otherwise = Pure.pure [] := by
  rw [QName.isNamed, Bool.and_eq_true, beq_iff_eq] at h
  rw [expandNode, expandElement, if_pos h.1, h.2]
  rfl

section Leaves

variable {options : Options} {deeper : Level} {n : Node}
  (hn : ∀ tag children, n ≠ .element tag children)

include hn

theorem expandNode_of_leaf (ws : Whitespace) (otherwise : Expand (List Node)) :
    expandNode options deeper ws n otherwise = expandLeaf options deeper ws n := by
  cases n with
  | element tag children => exact absurd rfl (hn tag children)
  | _ => rw [expandNode]

theorem expandElse_of_leaf (ws : Whitespace) (rest : List Node) :
    expandElse options deeper ws (n :: rest) =
      if isBetween n then expandElse options deeper ws rest else return [] := by
  cases n with
  | element tag children => exact absurd rfl (hn tag children)
  | _ => rw [expandElse]; exact fun _ _ e => by cases e

theorem elementParts_of_leaf (ws : Whitespace) (rest : List Node) (attributes : List Attribute)
    (before : List Node) :
    elementParts options deeper ws (n :: rest) attributes before =
      (do
        let nodes ← Expand.descend options.maxDepth (deeper.first ws n rest)
        elementParts options deeper ws rest attributes (pushNodes before nodes)) := by
  cases n with
  | element tag children => exact absurd rfl (hn tag children)
  | _ => rw [elementParts]; exact fun _ _ e => by cases e

end Leaves

/-! ## The property -/

/-- A property of computations, one for each run, on a level: what they give satisfies `V`. -/
structure Accord {o : ι → Options} (P : Supply o) where
  Holds {α : Type} : (level : Nat) → (V : α → Prop) → (ι → Expand α) → Prop
  pure {α : Type} {V : α → Prop} {k : Nat} {a : α} : V a → Holds k V fun _ => Pure.pure a
  mono {α : Type} {V W : α → Prop} {k : Nat} {m : ι → Expand α} :
    Holds k V m → (∀ a, V a → W a) → Holds k W m
  bind {α β : Type} {V : α → Prop} {W : β → Prop} {k : Nat} {m : ι → Expand α}
    {f : ι → α → Expand β} : Holds k V m → (∀ a, V a → Holds k W fun i => f i a) →
    Holds k W fun i => m i >>= f i
  fail {α : Type} {V : α → Prop} {k : Nat} {cause : Cause} : P.faults cause →
    Holds k V fun _ => Expand.fail cause
  environment {α : Type} {V : α → Prop} {k : Nat} {f : ι → Environment → Expand α} :
    (∀ env : ι → Environment, (∀ name, LookupRow P.source fun i => (env i).lookup name) →
      Holds k V fun i => f i (env i)) → Holds k V fun i => Expand.environment >>= f i
  define {k : Nat} {x : ι → Symbol} (name : String) : SymbolRow P.source x →
    Holds k (fun _ => True) fun i => Expand.define name (x i)
  expression {k : Nat} (source : String) :
    Holds k (fun _ => True) fun _ => Expand.expression source
  call {α : Type} {V : α → Prop} {k : Nat} {m : ι → Expand α} : Holds k V m →
    Holds k V fun i => Expand.call (m i)
  descend {α : Type} {V : α → Prop} {k : Nat} {m : ι → Expand α} :
    (P.admits k → Holds (k + 1) V m) → Holds k V fun i => Expand.descend (o i).maxDepth (m i)

namespace Accord

variable {o : ι → Options} {P : Supply o} (A : Accord P)

/-- What expansions of siblings give on a level. -/
abbrev Gives (k : Nat) (ws : Whitespace) (m : ι → Expand (List Node)) : Prop :=
  A.Holds k (P.nodes k ws) m

/-! ### Rules that an accord may have -/

/-- The rule for documents that are included. -/
structure Includes : Prop where
  inclusion {α : Type} {V : α → Prop} {k : Nat} {body : ι → Document → Expand α} (href : String) :
    (P.admits k → ∀ d : ι → Document, Rows P.source (fun i => includedNodes (d i)) →
      A.Holds (k + 1) V fun i => body i (d i)) →
    A.Holds k V fun i => withInclude (o i) href (body i)

/-- The rule for loops with a counter, which may run differently often. -/
structure Loops : Prop where
  loop {k : Nat} {ws : Whitespace} {test : ι → Expand Bool} {body : ι → Expand (List Node)}
    {step : ι → Expand Int64} (counter : String) (first : Int64) :
    A.Holds k (fun _ => True) test → A.Gives k ws body → A.Holds k (fun _ => True) step →
    A.Gives k ws fun i => forLoop (fun mayRun current => Expand.call do
      Expand.define counter (.text (Expr.Number.integerText current))
      forIteration (o i).maxIterations mayRun (test i) (body i) (step i))
      (o i).maxIterations first []

/-- The rule for errors that are given a place. Missing attributes, of whichever element, are
such errors. -/
structure Places : Prop where
  locate {α : Type} {V : α → Prop} {k : Nat} {m : ι → Expand α} (tag : Tag) : A.Holds k V m →
    A.Holds k V fun i => Expand.locate tag (m i)
  missing (element : String) (names : List String) : P.faults (.missingAttributes element names)

/-- The rule for what depends on the current level. -/
structure Levelled : Prop where
  level {α : Type} {V : α → Prop} {k : Nat} {f : ι → Nat → Expand α} :
    (∀ depth, A.Holds k V fun i => f i depth) → A.Holds k V fun i => do f i (← get).depth

/-- The rules for everything that is done on one level. -/
structure Complete : Prop extends A.Includes, A.Loops, A.Places

/-! ### Levels -/

/-- Expansions of nodes on a level, one for each run. -/
structure Levels (k : Nat) (l : ι → Level) : Prop where
  siblings (ws : Whitespace) {xs : ι → List Node} : Rows P.source xs →
    A.Gives k ws fun i => (l i).siblings ws (xs i)
  first (ws : Whitespace) {x : ι → Node} {following : ι → List Node} : P.source x →
    Rows P.source following → A.Gives k ws fun i => (l i).first ws (x i) (following i)

/-- Expansions one level below. -/
structure Below (k : Nat) (l : ι → Level) : Prop where
  levels : P.admits k → A.Levels (k + 1) l
  computes (text : String) : A.Holds k (P.computes text) fun i => interpolateText (o i) (l i) text

/-- What a directive can expand on its own level, in each run. -/
structure PartsOf (k : Nat) (ws : Whitespace) (p : ι → Parts) : Prop where
  children (w : Whitespace) : A.Gives k w fun i => (p i).children w
  otherwise : A.Gives k ws fun i => (p i).otherwise

/-- The attributes and the content of an element that is built. -/
abbrev Built (k : Nat) (ws : Whitespace) (p : ι → Parts) : Prop :=
  A.Holds k (fun r => Assembled r.1 ∧ P.Content k ws r.2) fun i => (p i).element

/-- It is a fault if the element of a directive lacks attributes. If it does not, there is something
to be built. -/
structure Covers (k : Nat) (ws : Whitespace) (d : Directive) (tag : Tag) (p : ι → Parts) :
    Prop where
  missing {cause : Cause} : requireAttributes tag (requiredAttributes d) = .error cause →
    P.faults cause
  built : d = .element → (missingAttributes tag (requiredAttributes d)).isEmpty = true →
    A.Built k ws p

variable {A} {α β : Type} {k : Nat} {ws : Whitespace}

theorem throw {V : α → Prop} {cause : Cause} (h : cause.Plain) :
    A.Holds k V fun _ => Expand.fail cause :=
  A.fail (P.plain h)

theorem ofExcept {r : Except Cause α} (h : ∀ cause, r = .error cause → P.faults cause) :
    A.Holds k (fun a => r = .ok a) fun _ => Expand.ofExcept r := by
  cases r with
  | ok a => exact A.pure rfl
  | error cause => exact A.fail (h cause rfl)

theorem ofPlain {r : Except Cause α} (h : FailsPlainly r) :
    A.Holds k (fun a => r = .ok a) fun _ => Expand.ofExcept r :=
  ofExcept fun cause hc => P.plain (h cause hc)

theorem seq {W : β → Prop} {m : ι → Expand PUnit} {n : ι → Expand β}
    (hm : A.Holds k (fun _ => True) m) (hn : A.Holds k W n) : A.Holds k W (fun i => do m i; n i) :=
  A.bind hm fun _ _ => hn

/-- What comes from one level below. -/
theorem lift {m : ι → Expand (List Node)} (h : P.admits k → A.Gives (k + 1) ws m) :
    A.Holds k (fun nodes => P.admits k ∧ P.nodes (k + 1) ws nodes)
      fun i => Expand.descend (o i).maxDepth (m i) :=
  A.descend fun hk => A.mono (h hk) fun _ hn => ⟨hk, hn⟩

theorem descended {m : ι → Expand (List Node)} (h : P.admits k → A.Gives (k + 1) ws m) :
    A.Gives k ws fun i => Expand.descend (o i).maxDepth (m i) :=
  A.mono (lift h) fun _ hn => P.up hn.1 hn.2

theorem Places.requireAttributes_faults (hA : A.Places) {tag : Tag} {names : List String}
    {cause : Cause} (h : requireAttributes tag names = .error cause) : P.faults cause := by
  unfold requireAttributes at h
  split at h
  · cases h
  · cases h
    exact hA.missing _ _

end Accord

end XmlTemplate.Expansion
