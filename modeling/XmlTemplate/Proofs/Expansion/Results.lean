import XmlTemplate.Proofs.Expansion.Steps

/-!
# What expansions give

Nodes come into a result in few ways: as text, as leaves that are kept, as copies of elements, as
elements and instructions that directives build. What is expanded comes from the source, from
included documents, or from results themselves.

* `Expands options S T`: with these ways nodes of `S` give nodes of `T`.
* `keeping`: the accord of a single run that gives what it should and keeps the state framed.
* `process_every`: what follows for the nodes of a document that has been expanded.
-/

namespace XmlTemplate.Expansion

open Markup Interpolation

/-- Some run expands the symbols in `text` to `value`. -/
def Computes (options : Options) (text value : String) : Prop :=
  ∃ room s, ((interpolateText options (below options room) text).run s).1 = .ok value

/-- Whatever an `element` directive with this tag builds is in `T`. -/
def Builds (options : Options) (T : Node → Prop) (tag : Tag) : Prop :=
  ∀ chars space name attributes content, ComputesSpace (Computes options) tag space →
    elementName chars space = .ok name → Assembled attributes → Every T content →
    T (.element { tag with name := name, attributes := attributes } content)

/-- Nodes of `S` give nodes of `T`. -/
structure Expands (options : Options) (S T : Node → Prop) : Prop where
  /-- A result may be expanded again. -/
  again {n : Node} : T n → S n
  child {tag : Tag} {children : List Node} : S (.element tag children) → Every S children
  text (value : String) : T (.text value)
  leaf {n : Node} : isKept n = true → S n → T n
  copy {tag : Tag} {children content : List Node} {attributes : List Attribute} :
    S (.element tag children) → tag.name.isIn options.space = false →
    Copied options.space tag.attributes attributes → Every T content →
    T (.element { tag with attributes := attributes } content)
  build {tag : Tag} {children : List Node} : S (.element tag children) →
    isDirective options tag "element" = true → Builds options T tag
  instruction {chars : List Char} {target data : String} : instructionTarget chars = .ok target →
    Text.contains ['?', '>'] data.toList = false → T (.instruction target data)
  loaded {uri : Uri} {d : Document} : options.loader uri = .ok d → Every S (includedNodes d)

/-! ## A single run -/

section Keeping

variable {options : Options} {S T : Node → Prop} (hx : Expands options S T)

/-- Nodes of `S` are expanded, and nodes of `T` come out. -/
def Expands.supply : Supply fun _ : Unit => options where
  toInput := Input.single options hx.child hx.loaded
  admits _ := True
  nodes _ _ := Every T
  computes := Computes options
  faults _ := True
  again hn n hm := hx.again (hn n hm)
  inside hn hm := hx.child (hx.again (hn _ hm))
  nil := Every.nil
  append := Every.append hx.text
  text _ := Every.cons (hx.text _) Every.nil
  leaf hk hs := Every.cons (hx.leaf hk hs) Every.nil
  instruction ht hd := Every.cons (hx.instruction ht hd) Every.nil
  copy hs hn ha hc := Every.cons (hx.copy hs hn ha (hc.below Every.nil)) Every.nil
  build hs he _ _ _ _ _ hspace hn ha hc :=
    Every.cons (hx.build hs he _ _ _ _ _ hspace hn ha (hc.below Every.nil)) Every.nil
  up _ hn := hn
  plain _ := trivial
  declaration _ := trivial

/-- The accord of a run that gives what it should and keeps the state framed. -/
def keeping : Accord hx.supply where
  Holds _ V m := Keeps S V (m ())
  pure := Keeps.pure
  mono := Keeps.mono
  bind := Keeps.bind
  fail _ := Keeps.fail _
  environment hf := Keeps.bind Keeps.environment fun env henv => hf (fun _ => env) (.const henv)
  define name hv := Keeps.define name hv.single
  expression := Keeps.expression
  call := Keeps.call
  descend hm := Keeps.descend _ (hm trivial)

/-- A document is open while its body runs, and it was given by the loader. -/
theorem withInclude_keeps {options : Options} {S : Node → Prop} {α : Type} {V : α → Prop}
    (href : String) {body : Document → Expand α}
    (hb : ∀ uri d, options.loader uri = .ok d → Keeps S V (body d)) :
    Keeps S V (withInclude options href body) := by
  have hr : Keeps S (fun _ => True) (resolve href) := by
    refine Keeps.bind Keeps.environment fun env _ => ?_
    split
    · exact Keeps.pure trivial
    · exact Keeps.fail _
  refine Keeps.bind hr fun uri _ => Keeps.bind Keeps.environment fun env _ => ?_
  split
  · exact Keeps.fail _
  · split
    · exact Keeps.fail _
    · exact Keeps.fail _
    · rename_i d hl
      exact Keeps.descend _ (Keeps.opening uri (hb uri d hl))

theorem keeping_complete : (keeping hx).Complete where
  inclusion href hb := withInclude_keeps href fun _ d hd =>
    hb trivial (fun _ => d) (.const (hx.loaded hd))
  loop := (Accord.Loops.of_limit (A := keeping hx) (fun _ => rfl) trivial).loop
  locate tag hm := Keeps.locate tag hm
  missing _ _ := trivial

theorem keeping_levelled : (keeping hx).Levelled where
  level hf := Keeps.bind Keeps.get fun s _ => hf s.depth

theorem keeping_below (k room : Nat) : (keeping hx).Below k fun _ => below options room := by
  refine Accord.below_accord (keeping_complete hx) (fun _ => rfl) (fun k room hl => ⟨hl, ?_⟩) room
  intro text s hs
  obtain ⟨hframed, hof, -⟩ := Accord.interpolateText_accord hl text s hs
  exact ⟨hframed, hof, fun value e => ⟨room, s, e⟩⟩

end Keeping

/-! ## Documents -/

/-- A node of `T`, or a declaration that stands at the top of the document. -/
def TopOf (S T : Node → Prop) (n : Node) : Prop :=
  T n ∨ ∃ value, S (.declaration value) ∧ n = .declaration value

/-- The nodes of a document that has been expanded. -/
theorem process_every {options : Options} {S T : Node → Prop} (hx : Expands options S T)
    {d out : Document} (hs : Every S d.children) (h : process options d = .ok out) :
    Every (TopOf S T) out.children := by
  have hsource : Rows (TopRow hx.supply.source fun value => S (.declaration value))
      fun _ => d.children := .const fun n hn => .source (hs n hn)
  have htop := Accord.expandTop_accord (A := keeping hx) (k := 0) (keeping_complete hx)
    (keeping_levelled hx) (fun _ => keeping_below hx _ _) options.whitespace hsource
    (fun _ => id) .nil _ (State.initial_of options d.uri)
  have hrun : process options d = ((Expander.expandTop options options.whitespace d.children []).run
      (State.initial options d.uri)).1.map fun children => ⟨d.uri, children⟩ := rfl
  rw [hrun] at h
  cases hr : ((Expander.expandTop options options.whitespace d.children []).run
      (State.initial options d.uri)).1 with
  | error e => rw [hr] at h; cases h
  | ok children =>
    rw [hr] at h
    cases h
    have hevery := ((htop.2.2 children hr).every hx.text fun _ => id).reverse
    rwa [List.reverse_reverse] at hevery

end XmlTemplate.Expansion
