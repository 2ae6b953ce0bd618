import XmlTemplate.Proofs.Expansion.Termination
import XmlTemplate.Proofs.Markup.Reread

/-!
# Texts in results

Whatever is expanded, and from whatever state, neighbouring texts of the result are joined, in it
and in all elements inside it. Where white space is not preserved no text is empty.

* `Node.Tidy`, `Tidy`: nodes, and siblings, of this kind.
* `Tidy.append`: what is put together from them is of this kind again.
* `tidying`: the accord of a run that gives such nodes.
* `expansions_tidy`: what an expander gives.
-/

namespace XmlTemplate

namespace Markup.Node

open Expansion (Whitespace)

mutual

/-- No two texts are neighbours in the node, and no text in it is empty where white space is not
preserved. -/
def Tidy (ws : Whitespace) : Node → Prop
  | .element _ children => Apart children ∧ TidyAll ws children
  | .text value => ws = .collapse → value ≠ ""
  | _ => True

/-- The same of siblings, each by itself. -/
def TidyAll (ws : Whitespace) : List Node → Prop
  | [] => True
  | node :: rest => node.Tidy ws ∧ TidyAll ws rest

end

variable {ws : Whitespace}

theorem tidyAll_iff {nodes : List Node} : TidyAll ws nodes ↔ ∀ n ∈ nodes, n.Tidy ws := by
  induction nodes with
  | nil => simp [TidyAll]
  | cons n rest ih => rw [TidyAll, List.forall_mem_cons, ih]

theorem tidy_of_leaf {n : Node} (he : n.element? = none) (ht : n.text? = none) : n.Tidy ws := by
  cases n with
  | element tag children => cases he
  | text value => cases ht
  | _ => trivial

end Markup.Node

namespace Expansion

open Markup

/-! ## Joined texts -/

/-- Siblings of which no two texts are neighbours at any depth. -/
structure Tidy (ws : Whitespace) (nodes : List Node) : Prop where
  apart : Apart nodes
  inside : ∀ n ∈ nodes, n.Tidy ws

section Tidy

variable {ws : Whitespace} {nodes before more : List Node}

theorem Tidy.nil (ws : Whitespace) : Tidy ws [] := ⟨trivial, fun _ h => by cases h⟩

theorem Tidy.single {n : Node} (h : n.Tidy ws) : Tidy ws [n] :=
  ⟨⟨.inr rfl, trivial⟩, List.forall_mem_singleton.mpr h⟩

theorem Tidy.element (tag : Tag) (h : Tidy ws nodes) : Tidy ws [.element tag nodes] :=
  .single ⟨h.apart, Node.tidyAll_iff.mpr h.inside⟩

/-- A text that is joined to others is not empty if one of them is not. -/
theorem tidy_pushNode (hb : ∀ n ∈ before, n.Tidy ws) {node : Node} (h : node.Tidy ws) :
    ∀ n ∈ pushNode before node, n.Tidy ws := by
  unfold pushNode
  split
  · obtain ⟨hfirst, hrest⟩ := List.forall_mem_cons.mp hb
    refine List.forall_mem_cons.mpr ⟨fun hws he => hfirst hws ?_, hrest⟩
    exact (String.append_eq_empty_iff.mp he).1
  · exact List.forall_mem_cons.mpr ⟨h, hb⟩

/-- Siblings after others. -/
theorem Tidy.append (hb : Tidy ws before.reverse) (hm : Tidy ws more) :
    Tidy ws (pushNodes before more).reverse := by
  have hbefore : Apart before := by simpa using hb.apart.reverse
  refine ⟨(hbefore.foldl_pushNode more).reverse, fun n hn => ?_⟩
  have hinside : ∀ n ∈ before, n.Tidy ws := fun n hn => hb.inside n (List.mem_reverse.mpr hn)
  have hall : ∀ n ∈ pushNodes before more, n.Tidy ws := by
    clear hb hbefore hn
    rw [pushNodes]
    induction more generalizing before with
    | nil => exact hinside
    | cons m rest ih =>
      exact ih ⟨hm.apart.2, fun n hn => hm.inside n (List.mem_cons_of_mem _ hn)⟩
        (tidy_pushNode hinside (hm.inside m List.mem_cons_self))
  exact hall n (List.mem_reverse.mp hn)

end Tidy

/-! ## Runs that give joined texts -/

theorem tidy_closed : Closed Tidy where
  nil := Tidy.nil
  text h := .single h
  leaf _ _ he ht := .single (Node.tidy_of_leaf he ht)
  element tag _ h := h.element tag
  append := Tidy.append

variable {o : Options} {α : Type}

section Accord

variable (o)

/-- Everything may be expanded, and tidy nodes come out. -/
abbrev tidySupply : Supply fun _ : Unit => o :=
  constantSupply Unit o (fun _ => True) tidy_closed (fun _ => True) (fun _ => trivial) trivial

/-- The accord of a run that gives what it should. -/
def tidying : Accord (tidySupply o) where
  Holds _ V m := Returns V (m ())
  pure := .pure
  mono := .mono
  bind := .bind
  fail _ := .fail _
  environment hf := fun s => hf (fun _ => s.environment) (fun _ => lookupRow_uniform _) s
  define _ _ := fun _ _ _ => trivial
  expression _ := fun _ _ _ => trivial
  call := .within _ _
  descend hm := (hm trivial).descend _

theorem tidying_complete : (tidying o).Complete where
  inclusion href hb := .withInclude href fun d => hb trivial (fun _ => d) (rows_uniform _)
  loop := (Accord.Loops.of_limit (A := tidying o) (fun _ => rfl) trivial).loop
  locate tag := .locate tag
  missing _ _ := trivial

theorem tidying_below (k room : Nat) : (tidying o).Below k fun _ => below o room :=
  Accord.below_accord (tidying_complete o) (fun _ => rfl)
    (fun _ _ hl => .of_levels hl fun _ _ => trivial) room

end Accord

/-- What an operation gives is tidy. -/
theorem operation_tidies (op : Operation α) :
    Returns ((tidySupply o).Given 0 op) (Performs.perform o op) :=
  Accord.perform_accord uniformSupply_free (tidying_complete o)
    ⟨fun hf s => hf s.depth s⟩ (fun k _ => tidying_below o k _) op

/-- Nodes that are no texts come after others without being joined to them. -/
theorem Tidy.kept {ws : Whitespace} {before : List Node} (hb : Tidy ws before.reverse) {n : Node}
    (he : n.element? = none) (ht : n.text? = none) : Tidy ws (n :: before).reverse := by
  have h := hb.append (tidy_closed.leaf ws he ht)
  rwa [pushNodes, List.foldl_cons, List.foldl_nil, pushNode_of_not_text (.inl ht)] at h

/-- So are the nodes at the top of a document. -/
theorem Tidy.of_top {D : Declaration → Prop} {k : Nat} {ws : Whitespace} {before : List Node}
    (h : (tidySupply o).Top D k ws before) : Tidy ws before.reverse := by
  induction h with
  | nil => exact .nil ws
  | push _ hm ih => exact ih.append hm
  | declaration _ _ ih | doctype _ _ ih => exact ih.kept rfl rfl

/-! ## Results -/

/-- Operations that expand nodes, and whether they preserve white space. -/
inductive Operation.IsExpansion : Whitespace → Operation (List Node) → Prop where
  | document (ws : Whitespace) (d : Document) : IsExpansion ws (.expandDocument ws d)
  | nodes (ws : Whitespace) (nodes : List Node) : IsExpansion ws (.expandNodes ws nodes)
  | node (ws : Whitespace) (node : Node) (following : List Node) :
    IsExpansion ws (.expandNode ws node following)
  | directive (d : Directive) (ws : Whitespace) (e : Element) (following : List Node) :
    IsExpansion ws (.directive d ws e following)
  | invocation (ws : Whitespace) (e : Element) : IsExpansion ws (.invoke ws e)
  | symbol (ws : Whitespace) (name : String) : IsExpansion ws (.evalSymbol ws name)

/-- **Texts are joined.** Whatever is expanded, be it a document, siblings, a node, a directive or a
symbol, and whatever texts there are in it or in the state: of the result no two texts are
neighbours, at any depth, and none is empty where white space is not preserved. -/
theorem expansions_tidy {op : Operation (List Node)} {ws : Whitespace} (hop : op.IsExpansion ws)
    {s : State} {nodes : List Node} (h : ((Performs.perform o op).run s).1 = .ok nodes) :
    Tidy ws nodes := by
  have hgiven := operation_tidies op s nodes h
  cases hop with
  | document ws d =>
    have htop := Tidy.of_top hgiven
    rwa [List.reverse_reverse] at htop
  | nodes | node | directive | invocation | symbol => exact hgiven

/-- Two texts beside an empty one, before and inside an element. -/
def scatteredTexts : List Node :=
  [.text "a", .text "", .text "b", .element ⟨.plain "e", [], none, none⟩ [.text "c", .text "d"]]

/-- A state in which a symbol is bound to a text. -/
def oneSymbol : State := ⟨⟨⟨[("x", .text "y")], []⟩, [], .ofCapacity 0⟩, 0⟩

theorem expansions_tidy_scattered :
    (Operation.expandNodes .collapse scatteredTexts).IsExpansion .collapse ∧
      ((Performs.perform (.standard (Loader.ofTexts []))
        (Operation.expandNodes .collapse scatteredTexts)).run oneSymbol).1 =
          .ok [.text "ab", .element ⟨.plain "e", [], none, none⟩ [.text "cd"]] ∧
      Tidy .collapse [.text "ab", .element ⟨.plain "e", [], none, none⟩ [.text "cd"]] := by
  have hrun : ((Performs.perform (.standard (Loader.ofTexts []))
      (Operation.expandNodes .collapse scatteredTexts)).run oneSymbol).1 =
        .ok [.text "ab", .element ⟨.plain "e", [], none, none⟩ [.text "cd"]] := rfl
  exact ⟨.nodes _ _, hrun, expansions_tidy (.nodes _ _) hrun⟩

end Expansion

end XmlTemplate
