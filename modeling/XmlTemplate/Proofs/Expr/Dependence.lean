import XmlTemplate.Expr.Eval
import XmlTemplate.Proofs.Expr.Occurrences

/-!
# What the value of an expression depends on

The value of an expression depends on the variables that occur in it and on nothing else.

* `eval_congr`: bindings that agree on the variables that occur give the same value or error.
* `LacksOnly`: a computation that lacks no other variables than those of a predicate. There is one
  rule for each operation.
* `eval_lacksOnly`: a variable that is reported as undefined occurs and is not bound.
* `evaluation_depends_on_variables`: both of them, with the order of the variables.
-/

namespace XmlTemplate.Expr

variable {vars vars' : Bindings}

/-! ## The same value -/

theorem evalAll_congr {es : List Expr} (h : ∀ e ∈ es, eval vars e = eval vars' e) :
    evalAll vars es = evalAll vars' es := by
  induction es with
  | nil => rfl
  | cons e rest ih =>
    rw [evalAll, evalAll, h e List.mem_cons_self, ih fun e he => h e (List.mem_cons_of_mem _ he)]

/-- An expression has the same value if its operands have, and if it is the same variable. -/
theorem eval_congr_operands {e : Expr} (ho : ∀ o ∈ e.operands, eval vars o = eval vars' o)
    (hv : ∀ name, e = .var name → vars.lookup name = vars'.lookup name) :
    eval vars e = eval vars' e := by
  cases e with
  | literal value => rfl
  | var name => rw [eval, eval, hv name rfl]
  | sequence items =>
    have hitems : evalAll vars items = evalAll vars' items := evalAll_congr ho
    rw [eval, eval, hitems]
  | call name args =>
    have hargs : evalAll vars args = evalAll vars' args := evalAll_congr ho
    rw [eval, eval, hargs]
  | _ =>
    simp only [operands, List.forall_mem_cons] at ho
    simp only [eval, ho]

/-- **Bindings that agree on the variables of an expression give it the same value.** -/
theorem eval_congr {e : Expr} (h : ∀ name ∈ e.mentions, vars.lookup name = vars'.lookup name) :
    eval vars e = eval vars' e := by
  induction e using induction_operands with | h e ih => ?_
  refine eval_congr_operands (fun o ho => ih o ho fun name hm => h name (mentions_subset ho hm)) ?_
  rintro name rfl
  exact h name (List.mem_singleton_self name)

/-! ## Variables that are missing -/

variable {P : String → Prop} {α β : Type}

/-- If a variable is reported as undefined, it satisfies `P`. -/
def LacksOnly (P : String → Prop) (x : Except Error α) : Prop :=
  ∀ name, x = .error (.undefinedVariable name) → P name

namespace LacksOnly

theorem ok (a : α) : LacksOnly P (.ok a) := nofun

theorem pure (a : α) : LacksOnly P (Pure.pure a : Except Error α) := nofun

theorem type (fault : TypeFault) : LacksOnly P (.error (.type fault) : Except Error α) := nofun

theorem bind {x : Except Error α} {f : α → Except Error β} (hx : LacksOnly P x)
    (hf : ∀ a, LacksOnly P (f a)) : LacksOnly P (x >>= f) := by
  intro name h
  cases x with
  | error e => exact hx name (congrArg _ (Except.error.inj h))
  | ok a => exact hf a name h

theorem map {x : Except Error α} (hx : LacksOnly P x) (f : α → β) : LacksOnly P (x.map f) := by
  intro name h
  cases x with
  | error e => exact hx name (congrArg _ (Except.error.inj h))
  | ok a => cases h

theorem mono {Q : String → Prop} {x : Except Error α} (hx : LacksOnly P x)
    (h : ∀ name, P name → Q name) : LacksOnly Q x := fun name he => h name (hx name he)

/-! ### Operations on values -/

theorem single (operation : String) (s : Sequence) :
    LacksOnly P (Sequence.single operation s) := by
  unfold Sequence.single
  split
  · exact ok _
  · exact ok _
  · exact type _

theorem truth (s : Sequence) : LacksOnly P (Sequence.truth s) := by
  unfold Sequence.truth
  split
  · exact ok _
  · exact ok _
  · exact ok _
  · exact type _

theorem toNumber (v : Value) : LacksOnly P v.toNumber := by
  unfold Value.toNumber
  split
  · exact ok _
  · exact ok _
  · split
    · exact ok _
    · exact type _

theorem arith (op : Arithmetic) (l r : Number) : LacksOnly P (Number.arith op l r) := by
  unfold Number.arith
  split
  · split
    · exact nofun
    · split <;> exact ok _
  · exact ok _

theorem arithmetic (op : Arithmetic) (left right : Sequence) :
    LacksOnly P (Expr.arithmetic op left right) := by
  refine (single _ left).bind fun l => (single _ right).bind fun r => ?_
  split
  · exact (toNumber _).bind fun a => (toNumber _).bind fun b => (arith op a b).bind fun n => pure _
  · exact pure _

theorem negation (s : Sequence) : LacksOnly P (Expr.negation s) := by
  refine (single _ s).bind fun v => ?_
  split
  · exact (toNumber _).bind fun n => pure _
  · exact pure _

theorem bound (s : Sequence) : LacksOnly P (Expr.bound s) := by
  refine (single _ s).bind fun v => ?_
  split
  · exact pure _
  · refine (toNumber _).bind fun n => ?_
    split
    · exact pure _
    · exact type _

theorem rangeOf (first last : Int64) : LacksOnly P (Expr.rangeOf first last) := by
  unfold Expr.rangeOf
  dsimp only
  split
  · exact type _
  · exact ok _

/-! ### Functions -/

theorem float (operation : String) (s : Sequence) : LacksOnly P (Builtin.float operation s) := by
  refine (single _ s).bind fun v => ?_
  split
  · exact pure _
  · exact (toNumber _).bind fun n => pure _

theorem onNumber (operation : String) (f : Number → Number) (s : Sequence) :
    LacksOnly P (Builtin.onNumber operation f s) := by
  refine (single _ s).bind fun v => ?_
  split
  · exact pure _
  · exact (toNumber _).bind fun n => pure _

theorem sumFrom (total? : Option Int64) (total : Float) (s : Sequence) :
    LacksOnly P (Builtin.sumFrom total? total s) := by
  induction s generalizing total? total with
  | nil => exact ok _
  | cons v rest ih => exact (toNumber _).bind fun n => ih _ _

theorem extremumFrom (wanted : Ordering) (best : Option Number) (s : Sequence) :
    LacksOnly P (Builtin.extremumFrom wanted best s) := by
  induction s generalizing best with
  | nil => exact ok _
  | cons v rest ih => exact (toNumber _).bind fun n => ih _

theorem substringOf (args : List Sequence) : LacksOnly P (Builtin.substringOf args) := by
  refine (float _ _).bind fun start => ?_
  split
  · exact (float _ _).bind fun length => (pure _).bind fun stop => pure _
  · exact (pure _).bind fun stop => pure _

theorem tokenizeOf (args : List Sequence) : LacksOnly P (Builtin.tokenizeOf args) := by
  unfold Builtin.tokenizeOf
  dsimp only
  split
  · exact ok _
  · split
    · exact type _
    · exact ok _

theorem replaceOf (args : List Sequence) : LacksOnly P (Builtin.replaceOf args) := by
  unfold Builtin.replaceOf
  split
  · exact type _
  · exact ok _

/-- No function asks for a variable. -/
theorem apply (f : Builtin) (args : List Sequence) : LacksOnly P (f.apply args) := by
  cases f
  case not | boolean => exact (truth _).map _
  case string | number => exact (single _ _).map _
  case substring => exact substringOf args
  case tokenize => exact tokenizeOf args
  case replace => exact replaceOf args
  case sum => exact (sumFrom _ _ _).map _
  case min | max => exact (extremumFrom _ _ _).map _
  case floor | ceiling | round | abs => exact onNumber _ _ _
  all_goals exact ok _

theorem callFunction (name : String) (args : List Sequence) :
    LacksOnly P (Expr.callFunction name args) := by
  unfold Expr.callFunction
  split
  · exact nofun
  · split
    · exact apply _ args
    · exact nofun

end LacksOnly

/-! ### Expressions -/

theorem evalAll_lacksOnly {es : List Expr} (h : ∀ e ∈ es, LacksOnly P (eval vars e)) :
    LacksOnly P (evalAll vars es) := by
  induction es with
  | nil => exact .ok _
  | cons e rest ih =>
    rw [evalAll]
    exact (h e List.mem_cons_self).bind fun first =>
      (ih fun e he => h e (List.mem_cons_of_mem _ he)).bind fun others => .pure _

/-- An expression lacks what its operands lack, and itself if it is a variable that is not bound. -/
theorem eval_lacksOnly_operands {e : Expr} (ho : ∀ o ∈ e.operands, LacksOnly P (eval vars o))
    (hv : ∀ name, e = .var name → vars.lookup name = none → P name) :
    LacksOnly P (eval vars e) := by
  cases e with
  | literal value => exact .ok _
  | var name =>
    rw [eval]
    split
    · exact .ok _
    · rename_i hnone
      intro other h
      cases h
      exact hv name rfl hnone
  | sequence items => exact (evalAll_lacksOnly ho).map _
  | call name args =>
    rw [eval]
    exact (evalAll_lacksOnly ho).bind fun values => .callFunction name values
  | cond condition yes no =>
    simp only [operands, List.forall_mem_cons] at ho
    rw [eval]
    refine ho.1.bind fun c => (LacksOnly.truth c).bind fun b => ?_
    split
    · exact ho.2.1
    · exact ho.2.2.1
  | logical op left right =>
    simp only [operands, List.forall_mem_cons] at ho
    rw [eval]
    refine ho.1.bind fun l => (LacksOnly.truth l).bind fun b => ?_
    split
    · exact .pure _
    · exact .pure _
    · exact ho.2.1.bind fun r => (LacksOnly.truth r).bind fun b => .pure _
  | compare op left right =>
    simp only [operands, List.forall_mem_cons] at ho
    rw [eval]
    exact ho.1.bind fun l => ho.2.1.bind fun r => .pure _
  | range first last =>
    simp only [operands, List.forall_mem_cons] at ho
    rw [eval]
    refine ho.1.bind fun l => (LacksOnly.bound l).bind fun a =>
      ho.2.1.bind fun r => (LacksOnly.bound r).bind fun b => ?_
    split
    · exact .rangeOf _ _
    · exact .pure _
  | arith op left right =>
    simp only [operands, List.forall_mem_cons] at ho
    rw [eval]
    exact ho.1.bind fun l => ho.2.1.bind fun r => .arithmetic op l r
  | negate operand =>
    simp only [operands, List.forall_mem_cons] at ho
    rw [eval]
    exact ho.1.bind fun s => .negation s

/-- **A variable that is reported as undefined** occurs in the expression and is not bound. -/
theorem eval_lacksOnly (vars : Bindings) (e : Expr) :
    LacksOnly (fun name => name ∈ e.mentions ∧ vars.lookup name = none) (eval vars e) := by
  induction e using induction_operands with | h e ih => ?_
  refine eval_lacksOnly_operands (fun o ho => ?_) ?_
  · exact (ih o ho).mono fun name h => ⟨mentions_subset ho h.1, h.2⟩
  · rintro name rfl hnone
    exact ⟨List.mem_singleton_self name, hnone⟩

end XmlTemplate.Expr

namespace XmlTemplate.Expression

open XmlTemplate.Expr

/-- **An evaluation depends on exactly the variables that are listed.** Bindings that agree on them
give the same value or the same error; a variable that is reported as undefined is listed and not
bound; and what is listed are the variables that occur, each once and by its first occurrence from
left to right. -/
theorem evaluation_depends_on_variables (e : Expression) :
    (∀ vars vars' : Bindings,
      (∀ name ∈ e.variableNames, vars.lookup name = vars'.lookup name) →
        e.evaluate vars = e.evaluate vars') ∧
    (∀ (vars : Bindings) (name : String),
      e.evaluate vars = .error (.undefinedVariable name) →
        name ∈ e.variableNames ∧ vars.lookup name = none) ∧
    e.variableNames.Nodup ∧
    (∀ name, name ∈ e.variableNames ↔ ∃ path, e.tree.OccursAt path name) ∧
    e.variableNames.Pairwise fun m n =>
      ∃ path, e.tree.OccursAt path m ∧ ∀ other, e.tree.OccursAt other n → path < other := by
  have hmem (name : String) : name ∈ e.variableNames ↔ name ∈ e.tree.mentions :=
    List.mem_eraseDups
  have hordered := pairwise_variableNames e.tree
  refine ⟨fun vars vars' h => ?_, fun vars name h => ?_, ?_, fun name => ?_, ?_⟩
  · exact eval_congr fun name hm => h name ((hmem name).mpr hm)
  · obtain ⟨hm, hnone⟩ := eval_lacksOnly vars e.tree name h
    exact ⟨(hmem name).mpr hm, hnone⟩
  · exact hordered.imp fun h => h.1
  · exact (hmem name).trans mem_mentions_iff
  · exact hordered.imp fun h => h.2

/-- A conditional whose second branch has the variable that is missing: a binding that is not asked
for changes nothing, and the branch that is taken reports its variable. -/
theorem evaluation_depends_on_variables_conditional :
    let e : Expression := ⟨"if (a) then b else $c + a", .cond (.var "a") (.var "b")
      (.arith .add (.var "c") (.var "a"))⟩
    let vars : Bindings := [("a", [.boolean false]), ("d", []), ("b", [])]
    let vars' : Bindings := [("b", []), ("a", [.boolean false])]
    (∀ name ∈ e.variableNames, vars.lookup name = vars'.lookup name) ∧
      e.evaluate vars = e.evaluate vars' ∧
      e.evaluate vars = .error (.undefinedVariable "c") ∧
      "c" ∈ e.variableNames ∧ vars.lookup "c" = none := by
  intro e vars vars'
  have hagree : ∀ name ∈ e.variableNames, vars.lookup name = vars'.lookup name := by
    have hnames : e.variableNames = ["a", "b", "c"] := by decide
    rw [hnames]
    simp [vars, vars', List.lookup]
  have hmissing : e.evaluate vars = .error (.undefinedVariable "c") := rfl
  obtain ⟨hsame, hundefined, -⟩ := evaluation_depends_on_variables e
  exact ⟨hagree, hsame vars vars' hagree, hmissing, hundefined vars "c" hmissing⟩

end XmlTemplate.Expression
