import Mathlib
import XmlTemplate.Expr.Eval

/-!
# Where the nodes of a value come from

Functions and operators give truth values, numbers and texts; a node in the value of an
expression was in the value of a variable.

* `apply_of`: no function gives a node.
* `eval_of`: what holds of the nodes in the variables holds of the nodes in the value.
-/

namespace XmlTemplate.Expr

/-- A value that is no node, or a node that satisfies `P`. -/
def Value.Of (P : Markup.Node → Prop) : Value → Prop
  | .node n => P n
  | _ => True

/-- A sequence whose nodes satisfy `P`. -/
def Sequence.Of (P : Markup.Node → Prop) (s : Sequence) : Prop := ∀ v ∈ s, v.Of P

variable {P : Markup.Node → Prop} {s : Sequence}

namespace Sequence

theorem of_nil : Sequence.Of P [] := fun _ h => by cases h

theorem of_single {v : Value} (h : v.Of P) : Sequence.Of P [v] := by
  intro w hw
  rw [List.mem_singleton.mp hw]
  exact h

theorem of_map {α : Type} {f : α → Value} (h : ∀ a, (f a).Of P) (l : List α) :
    Sequence.Of P (l.map f) := by
  intro v hv
  obtain ⟨a, -, rfl⟩ := List.mem_map.mp hv
  exact h a

theorem of_nodes {nodes : List Markup.Node} (h : ∀ n ∈ nodes, P n) :
    Sequence.Of P (nodes.map .node) := by
  intro v hv
  obtain ⟨n, hn, rfl⟩ := List.mem_map.mp hv
  exact h n hn

/-- A computed value, if it is computed by a function whose values are all admitted. -/
theorem of_except_map {α : Type} {f : α → Sequence} (h : ∀ a, Sequence.Of P (f a))
    {x : Except Error α} (hs : x.map f = .ok s) : s.Of P := by
  cases x with
  | error e => cases hs
  | ok a => cases hs; exact h a

end Sequence

theorem bind_ok {α β : Type} {x : Except Error α} {f : α → Except Error β} {b : β}
    (h : x >>= f = .ok b) : ∃ a, x = .ok a ∧ f a = .ok b := by
  cases x with
  | error e => cases h
  | ok a => exact ⟨a, rfl, h⟩

/-! ## Functions -/

namespace Builtin

theorem onNumber_of {operation : String} {f : Number → Number} {args : Sequence}
    (h : onNumber operation f args = .ok s) : s.Of P := by
  unfold onNumber at h
  obtain ⟨v, -, h⟩ := bind_ok h
  cases v with
  | none => cases h; exact Sequence.of_nil
  | some v =>
    obtain ⟨n, -, h⟩ := bind_ok h
    cases h
    exact Sequence.of_single trivial

theorem extremum_of {wanted : Ordering} {args : Sequence} (h : extremum wanted args = .ok s) :
    s.Of P := by
  unfold extremum at h
  refine Sequence.of_except_map (fun best => ?_) h
  exact Sequence.of_map (fun _ => by trivial) (Option.toList best)

theorem substringOf_of {args : List Sequence} (h : substringOf args = .ok s) : s.Of P := by
  unfold substringOf at h
  obtain ⟨start, -, h⟩ := bind_ok h
  split at h
  · obtain ⟨length, -, h⟩ := bind_ok h
    cases h
    exact Sequence.of_single trivial
  · cases h
    exact Sequence.of_single trivial

theorem tokenizeOf_of {args : List Sequence} (h : tokenizeOf args = .ok s) : s.Of P := by
  unfold tokenizeOf at h
  simp only at h
  split at h
  · cases h; exact Sequence.of_map (fun _ => by trivial) _
  · split at h
    · cases h
    · cases h
      split
      · exact Sequence.of_nil
      · exact Sequence.of_map (fun _ => by trivial) _

theorem replaceOf_of {args : List Sequence} (h : replaceOf args = .ok s) : s.Of P := by
  unfold replaceOf at h
  split at h
  · cases h
  · cases h; exact Sequence.of_single trivial

/-- No function gives a node. -/
theorem apply_of {f : Builtin} {args : List Sequence} (h : f.apply args = .ok s) : s.Of P := by
  cases f
  case substring => exact substringOf_of h
  case tokenize => exact tokenizeOf_of h
  case replace => exact replaceOf_of h
  case min | max => exact extremum_of h
  case floor | ceiling | round | abs => exact onNumber_of h
  case not | boolean | string | number | sum =>
    exact Sequence.of_except_map (fun _ => Sequence.of_single (by trivial)) h
  all_goals
    cases h
    exact Sequence.of_single trivial

end Builtin

theorem callFunction_of {name : String} {args : List Sequence}
    (h : callFunction name args = .ok s) : s.Of P := by
  unfold callFunction at h
  split at h
  · cases h
  · split at h
    · exact Builtin.apply_of h
    · cases h

/-! ## Operators -/

theorem arithmetic_of {op : Arithmetic} {l r : Sequence} (h : arithmetic op l r = .ok s) :
    s.Of P := by
  unfold arithmetic at h
  obtain ⟨a, -, h⟩ := bind_ok h
  obtain ⟨b, -, h⟩ := bind_ok h
  split at h
  · obtain ⟨x, -, h⟩ := bind_ok h
    obtain ⟨y, -, h⟩ := bind_ok h
    obtain ⟨z, -, h⟩ := bind_ok h
    cases h
    exact Sequence.of_single trivial
  · cases h; exact Sequence.of_nil

theorem negation_of {l : Sequence} (h : negation l = .ok s) : s.Of P := by
  unfold negation at h
  obtain ⟨a, -, h⟩ := bind_ok h
  split at h
  · obtain ⟨x, -, h⟩ := bind_ok h
    cases h
    exact Sequence.of_single trivial
  · cases h; exact Sequence.of_nil

theorem rangeOf_of {first last : Int64} (h : rangeOf first last = .ok s) : s.Of P := by
  unfold rangeOf at h
  simp only at h
  split at h
  · cases h
  · cases h; exact Sequence.of_map (fun _ => by trivial) _

/-! ## Evaluation -/

variable {vars : Bindings}

mutual

/-- What holds of the nodes in the variables holds of the nodes in the value. -/
theorem eval_of (hv : ∀ b ∈ vars, Sequence.Of P b.2) :
    ∀ (e : Expr) {s : Sequence}, eval vars e = .ok s → s.Of P
  | .literal value, s, h => by
    cases h
    cases value <;> exact Sequence.of_single trivial
  | .var name, s, h => by
    rw [eval] at h
    split at h
    · rename_i hl
      cases h
      obtain ⟨before, after, hb, -⟩ := List.lookup_eq_some_iff.mp hl
      exact hv (name, s) (by simp [hb])
    · cases h
  | .sequence items, s, h => by
    rw [eval] at h
    cases ha : evalAll vars items with
    | error e => rw [ha] at h; cases h
    | ok values =>
      rw [ha] at h
      cases h
      intro v hm
      obtain ⟨l, hl, hm⟩ := List.mem_flatten.mp hm
      exact evalAll_of hv items ha l hl v hm
  | .cond condition yes no, s, h => by
    rw [eval] at h
    obtain ⟨c, -, h⟩ := bind_ok h
    obtain ⟨b, -, h⟩ := bind_ok h
    split at h
    · exact eval_of hv yes h
    · exact eval_of hv no h
  | .logical op left right, s, h => by
    rw [eval] at h
    obtain ⟨l, -, h⟩ := bind_ok h
    obtain ⟨b, -, h⟩ := bind_ok h
    split at h
    · cases h; exact Sequence.of_single trivial
    · cases h; exact Sequence.of_single trivial
    · obtain ⟨r, -, h⟩ := bind_ok h
      obtain ⟨b, -, h⟩ := bind_ok h
      cases h
      exact Sequence.of_single trivial
  | .compare op left right, s, h => by
    rw [eval] at h
    obtain ⟨l, -, h⟩ := bind_ok h
    obtain ⟨r, -, h⟩ := bind_ok h
    cases h
    exact Sequence.of_single trivial
  | .range first last, s, h => by
    rw [eval] at h
    obtain ⟨l, -, h⟩ := bind_ok h
    obtain ⟨a, -, h⟩ := bind_ok h
    obtain ⟨r, -, h⟩ := bind_ok h
    obtain ⟨b, -, h⟩ := bind_ok h
    split at h
    · exact rangeOf_of h
    · cases h; exact Sequence.of_nil
  | .arith op left right, s, h => by
    rw [eval] at h
    obtain ⟨l, -, h⟩ := bind_ok h
    obtain ⟨r, -, h⟩ := bind_ok h
    exact arithmetic_of h
  | .negate inner, s, h => by
    rw [eval] at h
    obtain ⟨l, -, h⟩ := bind_ok h
    exact negation_of h
  | .call name args, s, h => by
    rw [eval] at h
    obtain ⟨values, -, h⟩ := bind_ok h
    exact callFunction_of h

theorem evalAll_of (hv : ∀ b ∈ vars, Sequence.Of P b.2) :
    ∀ (es : List Expr) {values : List Sequence}, evalAll vars es = .ok values →
      ∀ l ∈ values, Sequence.Of P l
  | [], values, h => by cases h; exact fun _ h => by cases h
  | e :: rest, values, h => by
    rw [evalAll] at h
    obtain ⟨first, he, h⟩ := bind_ok h
    obtain ⟨others, hr, h⟩ := bind_ok h
    cases h
    intro l hl
    rcases List.mem_cons.mp hl with rfl | hl
    · exact eval_of hv e he
    · exact evalAll_of hv rest hr l hl

end

/-- So it is for an expression that was read, whatever becomes of its errors. -/
theorem evaluate_of (hv : ∀ b ∈ vars, Sequence.Of P b.2) {e : Expression} {ε : Type}
    {f : Error → ε} {s : Sequence} (h : (e.evaluate vars).mapError f = .ok s) : s.Of P := by
  cases he : e.evaluate vars with
  | error cause => rw [he] at h; cases h
  | ok result =>
    rw [he] at h
    cases h
    exact eval_of hv e.tree he

end XmlTemplate.Expr
