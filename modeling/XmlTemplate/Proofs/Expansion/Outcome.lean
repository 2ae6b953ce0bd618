import XmlTemplate.Proofs.Expansion.Triple
import XmlTemplate.Proofs.Markup.RoundTrip

/-!
# Outcomes

What a computation comes to, where the place of an error is left out: directives inside each other
may share what goes wrong, but not where it is reported.

* `Expand.outcome`: a value or a cause, and the state. `outcome_bind`, `outcome_locate`: the rules.
* `merged`: siblings whose neighbouring texts are joined. `expandNodes_after`: siblings are expanded
  on their own and then joined to those before them.
-/

namespace XmlTemplate.Expansion

open Markup

/-! ## Computations -/

namespace Expand

variable {α β : Type}

/-- What comes of a computation: its value or the cause of its failure, and the state after it. -/
def outcome (m : Expand α) (s : State) : Except Cause α × State :=
  ((m.run s).1.mapError Error.cause, (m.run s).2)

theorem outcome_bind (m : Expand α) (f : α → Expand β) (s : State) :
    outcome (m >>= f) s = match outcome m s with
      | (.ok a, t) => outcome (f a) t
      | (.error c, t) => (.error c, t) := by
  unfold outcome
  rw [run_bind]
  cases m.run s with
  | mk r t => cases r <;> rfl

/-- A run that gives a value, with the state that it comes to. -/
theorem run_of_toOption {m : Expand α} {s : State} {a : α}
    (h : (m.run s).1.toOption = some a) : m.run s = (.ok a, (m.run s).2) := by
  revert h
  obtain ⟨r, t⟩ := m.run s
  cases r with
  | error e => exact fun h => by cases h
  | ok b => exact fun h => by cases h; rfl

/-- The place of an error is not part of an outcome. -/
theorem outcome_locate (tag : Tag) (m : Expand α) : outcome (locate tag m) = outcome m := by
  funext s
  unfold outcome
  rw [run_locate]
  cases m.run s with
  | mk r t =>
    cases r with
    | ok a => rfl
    | error e =>
      obtain ⟨cause, place⟩ := e
      cases place <;> rfl

theorem outcome_bind_congr {m m' : Expand α} {f f' : α → Expand β} (hm : outcome m = outcome m')
    (hf : ∀ a, outcome (f a) = outcome (f' a)) : outcome (m >>= f) = outcome (m' >>= f') := by
  funext s
  rw [outcome_bind, outcome_bind, hm]
  split
  · rw [hf]
  · rfl

theorem outcome_within (enter leave : State → State) (m : Expand α) (s : State) :
    outcome (within enter leave m) s = ((outcome m (enter s)).1, leave (outcome m (enter s)).2) :=
  rfl

theorem outcome_within_congr {enter leave : State → State} {m m' : Expand α}
    (h : outcome m = outcome m') :
    outcome (within enter leave m) = outcome (within enter leave m') := by
  funext s
  rw [outcome_within, outcome_within, h]

theorem outcome_descend (limit : Nat) (m : Expand α) (s : State) :
    outcome (descend limit m) s =
      if limit ≤ s.depth then (.error (.recursionLimit limit), s)
      else outcome (within (fun s => { s with depth := s.depth + 1 })
        (fun s => { s with depth := s.depth - 1 }) m) s := by
  rw [outcome, run_descend]
  split <;> rfl

theorem outcome_descend_congr (limit : Nat) {m m' : Expand α} (h : outcome m = outcome m') :
    outcome (descend limit m) = outcome (descend limit m') := by
  refine outcome_bind_congr rfl fun s => ?_
  split
  · rfl
  · exact outcome_within_congr h

end Expand

/-! ## Siblings -/

/-- Siblings of which neighbouring texts are joined. -/
def merged (nodes : List Node) : List Node := (pushNodes [] nodes).reverse

theorem pushNodes_append (before nodes more : List Node) :
    pushNodes before (nodes ++ more) = pushNodes (pushNodes before nodes) more :=
  List.foldl_append

/-- Texts may be joined to each other before they are joined to the text before them. -/
theorem pushNodes_pushNode_reverse (before nodes : List Node) (n : Node) :
    pushNodes before (pushNode nodes n).reverse =
      pushNode (pushNodes before nodes.reverse) n := by
  have hstep {nodes : List Node} (h : pushNode nodes n = n :: nodes) :
      pushNodes before (pushNode nodes n).reverse =
        pushNode (pushNodes before nodes.reverse) n := by
    rw [h, List.reverse_cons, pushNodes_append]
    rfl
  cases nodes with
  | nil => exact hstep rfl
  | cons m rest =>
    cases m with
    | text a =>
      cases n with
      | text b =>
        have hjoin (l : List Node) :
            pushNode l (.text (a ++ b)) = pushNode (pushNode l (.text a)) (.text b) := by
          cases l with
          | nil => rfl
          | cons k others => cases k <;> simp [pushNode, String.append_assoc]
        rw [pushNode, List.reverse_cons, List.reverse_cons, pushNodes_append, pushNodes_append]
        exact hjoin _
      | _ => exact hstep rfl
    | _ => exact hstep rfl

theorem pushNodes_pushNodes_reverse (before nodes more : List Node) :
    pushNodes before (pushNodes nodes more).reverse =
      pushNodes (pushNodes before nodes.reverse) more := by
  induction more generalizing nodes with
  | nil => rfl
  | cons n rest ih =>
    have h := ih (pushNode nodes n)
    rw [pushNodes_pushNode_reverse] at h
    exact h

/-- Siblings that are joined to those in `before`, which are in reverse order. -/
def after (before : List Node) (m : Expand (List Node)) : Expand (List Node) := do
  return (pushNodes before (← m)).reverse

theorem after_after (before nodes : List Node) (m : Expand (List Node)) :
    after before (after (pushNodes [] nodes) m) = after (pushNodes before nodes) m := by
  unfold after
  rw [bind_assoc]
  refine bind_congr fun more => ?_
  rw [pure_bind, pushNodes_pushNodes_reverse, pushNodes_pushNodes_reverse]
  rfl

section After

variable {o : Options}

/-- Siblings are expanded on their own and joined to those before them. -/
theorem expandNodes_after (l : Level) (ws : Whitespace) (nodes before : List Node) :
    expandNodes o l ws nodes before = after before (expandNodes o l ws nodes []) := by
  induction nodes generalizing before with
  | nil =>
    rw [expandNodes, expandNodes, after, pure_bind]
    rfl
  | cons n rest ih =>
    rw [expandNodes, expandNodes, after, bind_assoc]
    refine bind_congr fun nodes => ?_
    rw [ih (pushNodes before nodes), ih (pushNodes [] nodes)]
    exact (after_after before nodes _).symm

/-- The same at the top of a document. -/
theorem expandTop_after (ws : Whitespace) (nodes before : List Node) :
    Expander.expandTop o ws nodes before = after before (Expander.expandTop o ws nodes []) := by
  induction nodes generalizing before with
  | nil =>
    rw [Expander.expandTop, Expander.expandTop, after, pure_bind]
    rfl
  | cons n rest ih =>
    have hkept (h : n.text? = none) : Expander.expandTop o ws rest (n :: before) =
        after before (Expander.expandTop o ws rest [n]) := by
      rw [ih (n :: before), ih [n], ← pushNode_of_not_text (.inl h)]
      exact (after_after before [n] _).symm
    have hexpanded : (do
          let nodes ← Expander.expandNode o ws n rest
          Expander.expandTop o ws rest (pushNodes before nodes)) =
        after before (do
          let nodes ← Expander.expandNode o ws n rest
          Expander.expandTop o ws rest (pushNodes [] nodes)) := by
      rw [after, bind_assoc]
      refine bind_congr fun nodes => ?_
      rw [ih (pushNodes before nodes), ih (pushNodes [] nodes)]
      exact (after_after before nodes _).symm
    cases n with
    | declaration | doctype => exact hkept rfl
    | _ => exact hexpanded

end After

end XmlTemplate.Expansion
