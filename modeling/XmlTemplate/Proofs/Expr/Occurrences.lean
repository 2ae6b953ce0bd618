import Mathlib
import XmlTemplate.Expr.Syntax

/-!
# Where the variables of an expression occur

A position in an expression is the way to it from the root: at each step the number of the operand
that is entered. From left to right is the lexicographic order of positions.

* `operands`, `induction_operands`: the expressions directly below one, and induction over them.
* `OccursAt`: a variable stands at a position.
* `mem_mentions_iff`: the mentions of an expression are the variables that occur in it.
* `pairwise_variableNames`: each variable is listed once, and the one whose first occurrence is
  further left is listed first.
-/

namespace XmlTemplate.Expr

/-- The expressions directly below an expression, from left to right. -/
def operands : Expr → List Expr
  | .literal _ | .var _ => []
  | .sequence items => items
  | .cond condition yes no => [condition, yes, no]
  | .logical _ left right | .compare _ left right | .arith _ left right => [left, right]
  | .range first last => [first, last]
  | .negate operand => [operand]
  | .call _ args => args

/-- The variable `name` stands at a position of an expression. -/
inductive OccursAt : Expr → List Nat → String → Prop
  | root (name : String) : OccursAt (.var name) [] name
  | operand {e o : Expr} {i : Nat} {path : List Nat} {name : String}
      (ho : e.operands[i]? = some o) (h : OccursAt o path name) : OccursAt e (i :: path) name

variable {e o : Expr} {es : List Expr} {i : Nat} {path : List Nat} {name : String}

theorem sizeOf_lt_of_mem_operands (h : o ∈ e.operands) : sizeOf o < sizeOf e := by
  cases e with
  | literal | var => cases h
  | sequence items =>
    have : sizeOf o < sizeOf items := List.sizeOf_lt_of_mem h
    simp only [sequence.sizeOf_spec]
    omega
  | call name args =>
    have : sizeOf o < sizeOf args := List.sizeOf_lt_of_mem h
    simp only [call.sizeOf_spec]
    omega
  | _ =>
    simp only [operands, List.mem_cons, List.not_mem_nil, or_false] at h
    grind

/-- What holds of an expression as soon as it holds of its operands holds of every expression. -/
theorem induction_operands {P : Expr → Prop} (h : ∀ e, (∀ o ∈ e.operands, P o) → P e)
    (e : Expr) : P e :=
  h e fun o _ho => induction_operands h o
termination_by sizeOf e
decreasing_by exact sizeOf_lt_of_mem_operands _ho

/-! ## Mentions -/

theorem mentionsAll_eq_flatMap (es : List Expr) : mentionsAll es = es.flatMap mentions := by
  induction es with
  | nil => rfl
  | cons e rest ih => rw [mentionsAll, List.flatMap_cons, ih]

/-- Below an expression that is no variable itself, the mentions are those of its operands. -/
theorem mentions_eq_flatMap (h : ∀ name, e ≠ .var name) :
    e.mentions = e.operands.flatMap mentions := by
  cases e with
  | var name => exact absurd rfl (h name)
  | sequence items => exact mentionsAll_eq_flatMap items
  | call name args => exact mentionsAll_eq_flatMap args
  | _ => simp [mentions, operands]

theorem mentions_subset (h : o ∈ e.operands) : o.mentions ⊆ e.mentions := by
  have hne : ∀ name, e ≠ .var name := by
    rintro name rfl
    cases h
  rw [mentions_eq_flatMap hne]
  exact fun name hm => List.mem_flatMap.mpr ⟨o, h, hm⟩

/-! ## Occurrences in order -/

/-- A list of all occurrences of variables from left to right. -/
structure Enumerates (e : Expr) (occurrences : List (List Nat × String)) : Prop where
  mentions : occurrences.map Prod.snd = e.mentions
  ordered : occurrences.Pairwise fun x y => x.1 < y.1
  complete : ∀ path name, (path, name) ∈ occurrences ↔ e.OccursAt path name

theorem enumerates_var (name : String) : Enumerates (.var name) [([], name)] where
  mentions := rfl
  ordered := List.pairwise_singleton _ _
  complete := by
    intro path other
    rw [List.mem_singleton]
    constructor
    · rintro h
      cases h
      exact .root name
    · intro h
      cases h with
      | root => rfl
      | operand ho => cases ho

/-- The occurrences in several expressions, of which the first one is number `k`. -/
theorem exists_enumeration_operands (h : ∀ e ∈ es, ∃ occurrences, Enumerates e occurrences)
    (k : Nat) :
    ∃ occurrences : List (List Nat × String),
      occurrences.map Prod.snd = es.flatMap mentions ∧
      occurrences.Pairwise (fun x y => x.1 < y.1) ∧
      ∀ path name, (path, name) ∈ occurrences ↔
        ∃ i o rest, es[i]? = some o ∧ path = (k + i) :: rest ∧ o.OccursAt rest name := by
  induction es generalizing k with
  | nil => exact ⟨[], rfl, .nil, by simp⟩
  | cons e es ih =>
    obtain ⟨own, hown⟩ := h e List.mem_cons_self
    obtain ⟨others, hmentions, hordered, hcomplete⟩ :=
      ih (fun e he => h e (List.mem_cons_of_mem _ he)) (k + 1)
    let below : List Nat × String → List Nat × String := fun x => (k :: x.1, x.2)
    have hbelow (path : List Nat) (name : String) :
        (path, name) ∈ own.map below ↔ ∃ rest, path = k :: rest ∧ e.OccursAt rest name := by
      simp only [below, List.mem_map, Prod.mk.injEq, Prod.exists, ← hown.complete]
      constructor
      · rintro ⟨rest, other, hm, rfl, rfl⟩
        exact ⟨rest, rfl, hm⟩
      · rintro ⟨rest, rfl, hm⟩
        exact ⟨rest, name, hm, rfl, rfl⟩
    refine ⟨own.map below ++ others, ?_, ?_, ?_⟩
    · rw [List.map_append, List.map_map, hmentions, List.flatMap_cons, ← hown.mentions]
      rfl
    · refine List.pairwise_append.mpr ⟨?_, hordered, ?_⟩
      · exact List.pairwise_map.mpr
          (hown.ordered.imp fun hxy => List.cons_lt_cons_iff.mpr (.inr ⟨rfl, hxy⟩))
      · -- The first step of a position below a later operand is greater.
        rintro ⟨p, m⟩ hp ⟨q, n⟩ hq
        obtain ⟨rest, rfl, -⟩ := (hbelow p m).mp hp
        obtain ⟨i, o, rest', -, rfl, -⟩ := (hcomplete q n).mp hq
        exact List.cons_lt_cons_iff.mpr (.inl (by omega))
    · intro path name
      rw [List.mem_append, hbelow, hcomplete]
      constructor
      · rintro (⟨rest, rfl, hocc⟩ | ⟨i, o, rest, ho, rfl, hocc⟩)
        · exact ⟨0, e, rest, rfl, rfl, hocc⟩
        · exact ⟨i + 1, o, rest, ho, by rw [Nat.add_assoc, Nat.add_comm 1], hocc⟩
      · rintro ⟨i, o, rest, ho, rfl, hocc⟩
        cases i with
        | zero =>
          cases ho
          exact .inl ⟨rest, rfl, hocc⟩
        | succ i => exact .inr ⟨i, o, rest, ho, by rw [Nat.add_assoc, Nat.add_comm 1], hocc⟩

/-- The mentions of an expression are its occurrences of variables from left to right. -/
theorem exists_enumeration (e : Expr) : ∃ occurrences, Enumerates e occurrences := by
  induction e using induction_operands with | h e ih => ?_
  by_cases hvar : ∃ name, e = .var name
  · obtain ⟨name, rfl⟩ := hvar
    exact ⟨_, enumerates_var name⟩
  · have hne : ∀ name, e ≠ .var name := fun name he => hvar ⟨name, he⟩
    obtain ⟨occurrences, hmentions, hordered, hcomplete⟩ := exists_enumeration_operands ih 0
    refine ⟨occurrences, hmentions.trans (mentions_eq_flatMap hne).symm, hordered, ?_⟩
    intro path name
    rw [hcomplete]
    constructor
    · rintro ⟨i, o, rest, ho, rfl, hocc⟩
      exact (Nat.zero_add i).symm ▸ .operand ho hocc
    · intro hocc
      cases hocc with
      | root => exact absurd rfl (hne name)
      | operand ho hocc => exact ⟨_, _, _, ho, by rw [Nat.zero_add], hocc⟩

/-- **The mentions of an expression are the variables that occur in it.** -/
theorem mem_mentions_iff : name ∈ e.mentions ↔ ∃ path, e.OccursAt path name := by
  obtain ⟨occurrences, h⟩ := exists_enumeration e
  rw [← h.mentions]
  simp only [List.mem_map, Prod.exists, exists_eq_right, h.complete]

/-! ## First occurrences -/

/-- In the list `l`, the item `a` comes before every `b`, which is another one. -/
def ComesFirst {α : Type} (l : List α) (a b : α) : Prop :=
  ∃ before after, l = before ++ a :: after ∧ b ∉ before ∧ b ≠ a

theorem ComesFirst.of_filter {α : Type} [BEq α] [LawfulBEq α] {l : List α} {a b c : α}
    (hb : b ≠ c) (h : ComesFirst (l.filter fun x => !x == c) a b) : ComesFirst l a b := by
  obtain ⟨before, after, hl, hnot, hne⟩ := h
  obtain ⟨u, v, rfl, rfl, hv⟩ := List.filter_eq_append_iff.mp hl
  obtain ⟨w, z, rfl, hw, -, -⟩ := List.filter_eq_cons_iff.mp hv
  refine ⟨u ++ w, z, (List.append_assoc ..).symm, fun hm => ?_, hne⟩
  rcases List.mem_append.mp hm with hm | hm
  · exact hnot (List.mem_filter.mpr ⟨hm, by simp [hb]⟩)
  · exact hw b hm (by simp [hb])

/-- Without repetition, a list is ordered by the first occurrences of its items. -/
theorem pairwise_eraseDups {α : Type} [BEq α] [LawfulBEq α] (l : List α) :
    l.eraseDups.Pairwise (ComesFirst l) := by
  match l with
  | [] => exact .nil
  | a :: rest =>
    rw [List.eraseDups_cons, List.pairwise_cons]
    have hother : ∀ b ∈ (rest.filter fun x => !x == a).eraseDups, b ≠ a := by
      intro b hb
      have := (List.mem_filter.mp (List.mem_eraseDups.mp hb)).2
      simpa using this
    refine ⟨fun b hb => ⟨[], rest, rfl, List.not_mem_nil, hother b hb⟩, ?_⟩
    refine (pairwise_eraseDups (rest.filter fun x => !x == a)).imp_of_mem ?_
    intro x y hx hy h
    obtain ⟨before, after, rfl, hnot, hne⟩ := h.of_filter (hother y hy)
    refine ⟨a :: before, after, rfl, fun hm => ?_, hne⟩
    exact (List.mem_cons.mp hm).elim (hother y hy) hnot
termination_by l.length
decreasing_by
  exact Nat.lt_succ_of_le (List.length_filter_le _ _)

/-- **Variables are listed by their first occurrences from left to right**, and none of them
twice. -/
theorem pairwise_variableNames (e : Expr) :
    e.variableNames.Pairwise fun m n =>
      m ≠ n ∧ ∃ path, e.OccursAt path m ∧ ∀ other, e.OccursAt other n → path < other := by
  obtain ⟨occurrences, h⟩ := exists_enumeration e
  refine (pairwise_eraseDups e.mentions).imp ?_
  rintro m n ⟨before, after, hsplit, hnot, hne⟩
  rw [← h.mentions] at hsplit
  obtain ⟨left, right, rfl, rfl, hright⟩ := List.map_eq_append_iff.mp hsplit
  obtain ⟨⟨path, name⟩, right, rfl, rfl, -⟩ := List.map_eq_cons_iff.mp hright
  refine ⟨hne.symm, path, (h.complete _ _).mp (by simp), fun other hocc => ?_⟩
  -- What stands left of the first mention is another variable.
  have hm := (h.complete _ _).mpr hocc
  rcases List.mem_append.mp hm with hm | hm
  · exact absurd (List.mem_map_of_mem hm) hnot
  · rcases List.mem_cons.mp hm with hm | hm
    · exact absurd (congrArg Prod.snd hm) hne
    · have hordered := (List.pairwise_append.mp h.ordered).2.1
      exact (List.pairwise_cons.mp hordered).1 _ hm

end XmlTemplate.Expr
