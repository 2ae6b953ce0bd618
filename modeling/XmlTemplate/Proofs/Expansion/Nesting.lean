import XmlTemplate.Proofs.Expansion.Ignored
import XmlTemplate.Proofs.Expansion.Reachable

/-!
# How deep elements are nested

Every element of a result takes one of the levels that are admitted, wherever it comes from: it was
copied or built on the level above its content. So elements are never nested deeper than levels are
left.

* `nestingSupply`: nodes that fit into the levels below one.
* `nesting_bounded`: what an operation gives from a state fits into the levels that are left there,
  and no session comes through a state beyond the limit.
-/

namespace XmlTemplate

namespace Markup.Node

theorem nestingAll_le {nodes : List Node} {bound : Nat} (h : ∀ n ∈ nodes, n.nesting ≤ bound) :
    nestingAll nodes ≤ bound := by
  induction nodes with
  | nil => exact Nat.zero_le bound
  | cons n rest ih =>
    obtain ⟨hn, hrest⟩ := List.forall_mem_cons.mp h
    rw [nestingAll]
    exact max_le hn (ih hrest)

/-- Only elements are nested. -/
theorem nesting_of_not_element {n : Node} (h : n.element? = none) : n.nesting = 0 := by
  cases n with
  | element => cases h
  | _ =>
    rw [nesting]
    exact fun _ _ e => by cases e

theorem not_element_of_isKept {n : Node} (h : Expansion.isKept n = true) : n.element? = none := by
  cases n with
  | element => cases h
  | _ => rfl

/-- An element takes a level above its content. -/
theorem nesting_element_le {k limit : Nat} {tag : Tag} {content : List Node}
    (h : ∀ n ∈ content, k < limit ∧ n.nesting ≤ limit - (k + 1) + 1) :
    (element tag content).nesting ≤ limit - k + 1 := by
  rw [nesting]
  refine Nat.succ_le_succ (nestingAll_le fun n hn => ?_)
  obtain ⟨hk, hn⟩ := h n hn
  omega

end Markup.Node

namespace Expansion

open Markup

/-- What fits into the levels that are left on a level. -/
def Fits (o : Options) (k : Nat) (n : Node) : Prop := n.nesting ≤ o.maxDepth - k + 1

section Fits

variable {o : Options} {k : Nat}

theorem fits_of_leaf {n : Node} (h : n.element? = none) : Fits o k n :=
  (Node.nesting_of_not_element h).le.trans (Nat.zero_le _)

/-- An element fits if its content, where it has any, comes from the level below. -/
theorem fits_element {tag : Tag} {content : List Node}
    (h : ContentOf (k < o.maxDepth) (Every (Fits o (k + 1))) content) :
    Fits o k (.element tag content) := by
  refine Node.nesting_element_le fun n hn => ?_
  rcases h with rfl | ⟨hk, h⟩
  · cases hn
  · exact ⟨hk, h n hn⟩

end Fits

/-- Everything may be expanded. What comes out on a level fits into the levels that are left. -/
def nestingSupply (o : Options) : Supply fun _ : Unit => o :=
  { anySupply Unit o with
    nodes := fun k _ => Every (Fits o k)
    again := fun _ n _ => ⟨n, rfl⟩
    inside := fun _ _ n _ => ⟨n, rfl⟩
    nil := Every.nil
    append := Every.append fun _ => fits_of_leaf rfl
    text := fun _ => Every.cons (fits_of_leaf rfl) Every.nil
    leaf := fun hk _ => Every.cons (fits_of_leaf (Node.not_element_of_isKept hk)) Every.nil
    instruction := fun _ _ => Every.cons (fits_of_leaf rfl) Every.nil
    copy := fun _ _ _ hc => Every.cons (fits_element hc) Every.nil
    build := fun _ _ _ _ _ _ _ _ _ _ hc => Every.cons (fits_element hc) Every.nil
    up := fun _ hn n hm =>
      (hn n hm).trans (Nat.succ_le_succ (Nat.sub_le_sub_left (Nat.le_succ _) _)) }

theorem nestingSupply_limited (o : Options) :
    (nestingSupply o).Limited o.maxDepth o.maxIterations :=
  ⟨fun _ => rfl, fun _ => rfl, id⟩

theorem nestingSupply_free (o : Options) : (nestingSupply o).Free where
  source := rfl
  builds _ _ _ _ _ _ _ _ _ _ _ hc := Every.cons (fits_element hc) Every.nil

theorem operation_nesting (o : Options) {α : Type} (op : Operation α) (k : Nat) :
    EndAlike (nestingSupply o) k (fun a => ∀ n ∈ op.nodes a, n.nesting ≤ o.maxDepth - k + 1)
      fun _ => Performs.perform o op := by
  have hP := nestingSupply_limited o
  have hop := Accord.perform_accord (nestingSupply_free o)
    (sideBySide_complete hP fun _ => trivial) (sideBySide_levelled hP)
    (sideBySide_below hP (fun _ => trivial) fun _ _ => trivial) (k := k) op
  refine EndAlike.mono hop fun a ha n hn => ?_
  rcases ha.items n hn with ⟨ws, nodes, hnodes, hmem⟩ | ⟨value, rfl⟩
  · exact hnodes n hmem
  · exact fits_of_leaf rfl

theorem limit_invariant (o : Options) : Invariant o fun s => s.depth ≤ o.maxDepth where
  kept hkept h := hkept.depth.trans_le h
  descend _ hs := hs
  including _ hs _ := hs

/-- **Results are not nested deeper than the limit admits.** Whatever mixture of copies, elements
that are built, templates, values and included documents the nodes come from that an operation gives
in a state: their elements are nested at most one deeper than levels are left there. Wherever a
session comes through, the limit is not exceeded. -/
theorem nesting_bounded (o : Options) :
    (∀ {α : Type} (op : Operation α) {s : State} {a : α}, s.depth ≤ o.maxDepth →
      ((Performs.perform o op).run s).1 = .ok a →
        ∀ n ∈ op.nodes a, n.nesting ≤ o.maxDepth - s.depth + 1) ∧
      ∀ {α : Type} (p : Session Operation α) (base : Option Uri) {s : State},
        p.Reaches o (State.initial o base) s → s.depth ≤ o.maxDepth := by
  refine ⟨fun op s a _ ha => ?_, fun p base s h => ?_⟩
  · have hrun := operation_nesting o op s.depth _ (.const (s.of_forall fun n => ⟨n, rfl⟩))
    generalize hr : (fun _ : Unit => (Performs.perform o op).run s) = r at hrun
    rw [congrFun hr ()] at ha
    cases hrun with
    | ok hnesting =>
      cases ha
      exact hnesting
    | error => cases ha
  · refine h.invariant (limit_invariant o) ?_
    rw [State.initial_eq]
    exact Nat.zero_le _

/-- One level of nesting is admitted. -/
def oneLevel : Options := { Options.standard (.ofTexts []) with maxDepth := 1 }

/-- An element that is built within one that is copied. -/
def builtWithin : Node :=
  .element ⟨.plain "a", [], none, none⟩ [ppElement "element" [⟨.plain "name", "b"⟩] []]

/-- It takes the level that there is, and is still expanded there. -/
theorem nesting_bounded_oneLevel :
    (State.initial oneLevel none).depth ≤ oneLevel.maxDepth ∧
      ((Expander.expandNodes oneLevel .collapse [builtWithin]).run
        (State.initial oneLevel none)).1 =
          .ok [.element ⟨.plain "a", [], none, none⟩
            [.element ⟨.plain "b", [], none, none⟩ []]] ∧
      Node.nesting (.element ⟨.plain "a", [], none, none⟩
          [.element ⟨.plain "b", [], none, none⟩ []]) = 2 ∧
      2 ≤ oneLevel.maxDepth - (State.initial oneLevel none).depth + 1 := by
  have hrun : ((Performs.perform oneLevel (Operation.expandNodes .collapse [builtWithin])).run
      (State.initial oneLevel none)).1 = .ok [.element ⟨.plain "a", [], none, none⟩
        [.element ⟨.plain "b", [], none, none⟩ []]] := rfl
  exact ⟨Nat.zero_le 1, hrun, by decide, (nesting_bounded oneLevel).1
    (.expandNodes .collapse [builtWithin]) (Nat.zero_le 1) hrun _ List.mem_cons_self⟩

end Expansion

end XmlTemplate
