import Mathlib
import XmlTemplate.Environment

/-!
# What the environment remembers

The cache holds what would be read anyway, and no more of it than there is room for.

* `Cache.Genuine`, `Cache.Bounded`: every entry is what is read from its text, and there are at
  most as many entries as the capacity says.
* `Cache.Follows`: what reading an expression may do to a cache.
* `Environment.expression_fst`, `Environment.expression_snd`: what is read does not depend on the
  cache, and nothing but the cache changes.
-/

namespace XmlTemplate

namespace Cache

/-- Every entry is what is read from its text. -/
def Genuine (c : Cache) : Prop := ∀ entry ∈ c.entries, Expression.parse entry.1 = .ok entry.2

/-- There are no more entries than there is room for. -/
def Bounded (c : Cache) : Prop := c.entries.length ≤ c.capacity

/-- A cache after another one: it has the same room, and it is as good. -/
structure Follows (after before : Cache) : Prop where
  capacity : after.capacity = before.capacity
  genuine : before.Genuine → after.Genuine
  bounded : before.Bounded → after.Bounded

namespace Follows

variable {a b c : Cache}

theorem refl (c : Cache) : c.Follows c := ⟨rfl, id, id⟩

theorem trans (h : b.Follows a) (h' : c.Follows b) : c.Follows a :=
  ⟨h'.capacity.trans h.capacity, fun hg => h'.genuine (h.genuine hg),
    fun hb => h'.bounded (h.bounded hb)⟩

/-- An entry that is what is read from its text may be put in front. -/
theorem insert (c : Cache) {source : String} {e : Expression}
    (h : c.Genuine → Expression.parse source = .ok e) : (c.insert source e).Follows c where
  capacity := rfl
  genuine hg := by
    intro entry hm
    rcases List.mem_cons.mp (List.mem_of_mem_take hm) with rfl | hm
    · exact h hg
    · exact hg entry (List.mem_filter.mp hm).1
  bounded _ := by
    unfold Bounded Cache.insert
    exact List.length_take_le _ _

end Follows

theorem genuine_ofCapacity (n : Nat) : (ofCapacity n).Genuine :=
  fun _ h => (List.not_mem_nil h).elim

theorem bounded_ofCapacity (n : Nat) : (ofCapacity n).Bounded := Nat.zero_le n

/-- What is found for a text is what is read from it. -/
theorem Genuine.of_lookup {c : Cache} (h : c.Genuine) {source : String} {e : Expression}
    (hl : c.entries.lookup source = some e) : Expression.parse source = .ok e := by
  obtain ⟨before, after, hc, -⟩ := List.lookup_eq_some_iff.mp hl
  exact h (source, e) (by simp [hc])

/-- A text that holds no expression is not remembered. -/
theorem Genuine.not_mem_of_error {c : Cache} (h : c.Genuine) {source : String} {fault : Expr.Error}
    (hf : Expression.parse source = .error fault) (e : Expression) : (source, e) ∉ c.entries := by
  intro hm
  have hp := h _ hm
  rw [hf] at hp
  cases hp

end Cache

namespace Environment

/-- What is read from a text does not depend on what is remembered. -/
theorem expression_fst {env : Environment} (h : env.cache.Genuine) (source : String) :
    (env.expression source).1 = Expression.parse source := by
  unfold expression
  split
  · rename_i e hl
    exact (h.of_lookup hl).symm
  · split <;> rename_i hp <;> exact hp.symm

/-- Reading an expression changes nothing but the cache. -/
theorem expression_snd (env : Environment) (source : String) :
    ∃ c, c.Follows env.cache ∧ (env.expression source).2 = { env with cache := c } := by
  unfold expression
  split
  · rename_i e hl
    exact ⟨_, .insert _ fun hg => hg.of_lookup hl, rfl⟩
  · split
    · rename_i e hp
      exact ⟨_, .insert _ fun _ => hp, rfl⟩
    · exact ⟨_, .refl _, rfl⟩

/-- What is read from a text, and what is remembered of it, depends on the cache only. -/
theorem expression_eq (cache : Cache) (source : String) :
    ∃ result c, ∀ frames includes,
      expression ⟨frames, includes, cache⟩ source = (result, ⟨frames, includes, c⟩) := by
  unfold expression
  dsimp only
  split
  · exact ⟨_, _, fun _ _ => rfl⟩
  · split <;> exact ⟨_, _, fun _ _ => rfl⟩

end Environment

end XmlTemplate
