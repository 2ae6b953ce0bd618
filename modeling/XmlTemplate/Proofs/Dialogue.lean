import Mathlib

/-!
# Dialogues

A computation that leaves part of its work to others: it asks questions, and what it asks next
depends on the answers. It comes to an end however it is answered.

* `Dialogue`: the computations. `Dialogue.run`: a dialogue with the answers filled in.
* `Meets fair ok post`: as long as the answers are fair, all questions are `ok` and the result is
  as it should be.
* `AtMost n`: there are never more than `n` questions.
* `Asks answer q`: with these answers a question is asked.
* `Meets.run_eq`, `run_eq_of_asks`: only the answers to questions that are `ok`, and asked, count.
-/

namespace XmlTemplate

/-- A computation that is done with a result, or asks a question and goes on with the answer. -/
inductive Dialogue (Q A α : Type) where
  | done (result : α)
  | ask (question : Q) (next : A → Dialogue Q A α)

namespace Dialogue

variable {Q A α β : Type}

/-- The result when questions are answered like this. -/
def run (answer : Q → A) : Dialogue Q A α → α
  | done a => a
  | ask q next => (next (answer q)).run answer

/-- A dialogue that is followed by another one, which depends on the result. -/
def bind (f : α → Dialogue Q A β) : Dialogue Q A α → Dialogue Q A β
  | done a => f a
  | ask q next => ask q fun a => (next a).bind f

theorem run_bind (answer : Q → A) (f : α → Dialogue Q A β) (t : Dialogue Q A α) :
    (t.bind f).run answer = (f (t.run answer)).run answer := by
  induction t with
  | done a => rfl
  | ask q next ih => exact ih (answer q)

/-! ## Questions and results -/

/-- As long as the answers are fair, all questions are `ok` and the result satisfies `post`. -/
def Meets (fair : Q → A → Prop) (ok : Q → Prop) (post : α → Prop) : Dialogue Q A α → Prop
  | done a => post a
  | ask q next => ok q ∧ ∀ a, fair q a → (next a).Meets fair ok post

namespace Meets

variable {fair : Q → A → Prop} {ok : Q → Prop} {post : α → Prop} {t : Dialogue Q A α}
  {answer answer' : Q → A}

theorem mono {post' : α → Prop} (hp : ∀ a, post a → post' a) (h : t.Meets fair ok post) :
    t.Meets fair ok post' := by
  induction t with
  | done a => exact hp a h
  | ask q next ih => exact ⟨h.1, fun a ha => ih a (h.2 a ha)⟩

theorem bind {post' : β → Prop} {f : α → Dialogue Q A β} (h : t.Meets fair ok post)
    (hf : ∀ a, post a → (f a).Meets fair ok post') : (t.bind f).Meets fair ok post' := by
  induction t with
  | done a => exact hf a h
  | ask q next ih => exact ⟨h.1, fun a ha => ih a (h.2 a ha)⟩

theorem post_run (h : t.Meets fair ok post) (ha : ∀ q, fair q (answer q)) :
    post (t.run answer) := by
  induction t with
  | done a => exact h
  | ask q next ih => exact ih _ (h.2 _ (ha q))

/-- Only the answers to questions that are `ok` count. -/
theorem run_eq (h : t.Meets fair ok post) (ha : ∀ q, fair q (answer q))
    (heq : ∀ q, ok q → answer' q = answer q) : t.run answer' = t.run answer := by
  induction t with
  | done a => rfl
  | ask q next ih =>
    rw [run, run, heq q h.1]
    exact ih _ (h.2 _ (ha q))

/-- Answers that get better with each step. If each question that is `ok` is answered right from
some step on, then so is the whole dialogue. -/
theorem settles {ι : Type} {answers : Nat → ι → Q → A} (h : t.Meets fair ok post)
    (ha : ∀ q, fair q (answer q))
    (hq : ∀ q, ok q → ∃ n, ∀ m ≥ n, ∀ i, answers m i q = answer q) :
    ∃ n, ∀ m ≥ n, ∀ i, t.run (answers m i) = t.run answer := by
  induction t with
  | done a => exact ⟨0, fun _ _ _ => rfl⟩
  | ask q next ih =>
    obtain ⟨n, hn⟩ := hq q h.1
    obtain ⟨n', hn'⟩ := ih (answer q) (h.2 _ (ha q))
    refine ⟨max n n', fun m hm i => ?_⟩
    rw [run, run, hn m (le_of_max_le_left hm) i]
    exact hn' m (le_of_max_le_right hm) i

end Meets

/-! ## The number of questions -/

/-- There are never more than `n` questions. -/
def AtMost (n : Nat) : Dialogue Q A α → Prop
  | done _ => True
  | ask _ next => 0 < n ∧ ∀ a, (next a).AtMost (n - 1)

namespace AtMost

variable {n n' : Nat} {t : Dialogue Q A α}

theorem mono (h : t.AtMost n) (hn : n ≤ n') : t.AtMost n' := by
  induction t generalizing n n' with
  | done a => exact trivial
  | ask q next ih => exact ⟨h.1.trans_le hn, fun a => ih a (h.2 a) (Nat.sub_le_sub_right hn 1)⟩

theorem bind {f : α → Dialogue Q A β} (h : t.AtMost n) (hf : ∀ a, (f a).AtMost n') :
    (t.bind f).AtMost (n + n') := by
  induction t generalizing n with
  | done a => exact (hf a).mono (Nat.le_add_left n' n)
  | ask q next ih =>
    obtain ⟨hn, hnext⟩ := h
    exact ⟨by omega, fun a => (ih a (hnext a)).mono (by omega)⟩

theorem bind_done (h : t.AtMost n) (f : α → β) :
    (t.bind fun a => (done (f a) : Dialogue Q A β)).AtMost n := by
  have hdone (a : α) : (done (f a) : Dialogue Q A β).AtMost 0 := trivial
  exact h.bind hdone

end AtMost

/-! ## The questions that are asked -/

/-- With these answers a question is asked. -/
def Asks (answer : Q → A) (q : Q) : Dialogue Q A α → Prop
  | done _ => False
  | ask p next => q = p ∨ (next (answer p)).Asks answer q

section Asks

variable {answer answer' : Q → A} {q : Q} {t : Dialogue Q A α}

/-- Only the answers to questions that are asked count. -/
theorem run_eq_of_asks (h : ∀ q, t.Asks answer q → answer' q = answer q) :
    t.run answer' = t.run answer := by
  induction t with
  | done a => rfl
  | ask p next ih =>
    rw [run, run, h p (.inl rfl)]
    exact ih _ fun q hq => h q (.inr hq)

/-- Whatever the answer to a question would be, it is asked before there is one. -/
theorem Asks.of_agrees (h : t.Asks answer q) (hoff : ∀ p ≠ q, answer' p = answer p) :
    t.Asks answer' q := by
  induction t with
  | done a => exact h
  | ask p next ih =>
    rcases h with rfl | h
    · exact .inl rfl
    · by_cases hp : q = p
      · exact .inl hp
      · exact .inr (by rw [hoff p (Ne.symm hp)]; exact ih _ h)

end Asks

end Dialogue

end XmlTemplate
