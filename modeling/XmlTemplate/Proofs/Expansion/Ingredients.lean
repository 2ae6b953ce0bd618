import XmlTemplate.Proofs.Expansion.Triple
import XmlTemplate.Proofs.Expr.NodeValues

/-!
# What results are made of

Nodes come into a result in few ways: as text, as leaves that are kept, as copies of elements, as
elements and instructions that directives build. Names and attributes are checked on the way.

* `Every T`: siblings that are all in `T`.
* `Copied`, `Assembled`, `ComputesSpace`: the attributes of a copy, and the attributes and the
  namespace of an element that is built.
* `Cause.Plain`, `FailsPlainly`: causes that any step may fail with, computed names that are refused
  among them.
-/

namespace XmlTemplate.Expansion

open Markup

/-! ## Nodes and attributes -/

/-- A list of nodes of `T`. -/
def Every (T : Node → Prop) (nodes : List Node) : Prop := ∀ n ∈ nodes, T n

/-- The attributes of a copy: declarations of the directive namespace may be dropped, the values
of other attributes may differ. -/
inductive Copied (space : String) : List Attribute → List Attribute → Prop where
  | nil : Copied space [] []
  | dropped {a as bs} : a.isDeclaration = true → a.value = space → Copied space as bs →
    Copied space (a :: as) bs
  | kept {a as bs} : a.isDeclaration = true → a.value ≠ space → Copied space as bs →
    Copied space (a :: as) (a :: bs)
  | valued {a as bs} (value : String) : a.isDeclaration = false → Copied space as bs →
    Copied space (a :: as) ({ a with value := value } :: bs)

/-- The attributes that the children of an `element` directive may add up to. -/
structure Assembled (attributes : List Attribute) : Prop where
  named : ∀ a ∈ attributes, ∃ name, attributeName name = .ok a.name
  distinct : attributes.Pairwise (·.name ≠ ·.name)

/-- The namespace that an `element` directive may compute: that of its attribute, if it has one. -/
def ComputesSpace (computes : String → String → Prop) (tag : Tag) (space : Option String) : Prop :=
  match tag.attribute? "namespace" with
  | none => space = none
  | some text => ∃ uri, space = some uri ∧ computes text uri

/-- A leaf that is kept as it is. -/
def isKept : Node → Bool
  | .cdata _ | .comment _ | .instruction .. | .doctype _ | .reference _ => true
  | _ => false

namespace Every

variable {T : Node → Prop} {before nodes : List Node}

theorem nil : Every T [] := fun _ h => by cases h

theorem cons {node : Node} (h : T node) (hn : Every T nodes) : Every T (node :: nodes) := by
  intro n hm
  rcases List.mem_cons.mp hm with rfl | hm
  · exact h
  · exact hn n hm

theorem head {node : Node} (h : Every T (node :: nodes)) : T node := h node (by simp)

theorem tail {node : Node} (h : Every T (node :: nodes)) : Every T nodes :=
  fun n hn => h n (by simp [hn])

theorem reverse (h : Every T nodes) : Every T nodes.reverse :=
  fun n hn => h n (List.mem_reverse.mp hn)

theorem push (ht : ∀ value, T (.text value)) {node : Node} (h : T node) (hb : Every T before) :
    Every T (pushNode before node) := by
  unfold pushNode
  split
  · exact cons (ht _) hb.tail
  · exact cons h hb

theorem pushNodes (ht : ∀ value, T (.text value)) (hn : Every T nodes) (hb : Every T before) :
    Every T (pushNodes before nodes) := by
  unfold Expansion.pushNodes
  induction nodes generalizing before with
  | nil => exact hb
  | cons node rest ih => exact ih hn.tail (push ht hn.head hb)

/-- Siblings after others. -/
theorem append (ht : ∀ value, T (.text value)) (hb : Every T before.reverse) (hn : Every T nodes) :
    Every T (Expansion.pushNodes before nodes).reverse := by
  have hbefore : Every T before := by simpa using hb.reverse
  exact (pushNodes ht hn hbefore).reverse

/-- The items of a value as nodes. -/
theorem nodeOf (ht : ∀ value, T (.text value)) {values : Expr.Sequence} (h : values.Of T) :
    Every T (values.map Expansion.nodeOf) := by
  intro n hn
  obtain ⟨v, hv, rfl⟩ := List.mem_map.mp hn
  have hnode := h v hv
  cases v with
  | node n => exact hnode
  | _ => exact ht _

end Every

theorem Assembled.nil : Assembled [] := ⟨fun _ h => (List.not_mem_nil h).elim, List.Pairwise.nil⟩

theorem Assembled.add {attributes result : List Attribute} {a : Attribute}
    (h : Assembled attributes) (ha : ∃ chars, attributeName chars = .ok a.name)
    (hr : addAttribute attributes a = .ok result) : Assembled result := by
  unfold addAttribute at hr
  split at hr
  · cases hr
  · rename_i hnew
    cases hr
    refine ⟨fun b hb => ?_, List.pairwise_append.mpr ⟨h.distinct, List.pairwise_singleton _ _, ?_⟩⟩
    · rcases List.mem_append.mp hb with hb | hb
      · exact h.named b hb
      · rw [List.mem_singleton.mp hb]
        exact ha
    · intro b hb c hc e
      rw [List.mem_singleton.mp hc] at e
      exact hnew (List.any_eq_true.mpr ⟨b, hb, beq_iff_eq.mpr e⟩)

/-! ## Directives and names -/

theorem Directive.mem_table_of_ofName? {name : String} {d : Directive}
    (h : Directive.ofName? name = some d) : (name, d) ∈ Directive.table := by
  obtain ⟨before, after, ht, -⟩ := List.lookup_eq_some_iff.mp h
  simp [ht]

theorem Directive.eq_include_of_ofName? {name : String}
    (h : Directive.ofName? name = some .inclusion) : name = "include" := by
  simpa [Directive.table] using Directive.mem_table_of_ofName? h

theorem Directive.eq_for_of_ofName? {name : String}
    (h : Directive.ofName? name = some .loop) : name = "for" := by
  simpa [Directive.table] using Directive.mem_table_of_ofName? h

theorem Directive.eq_element_of_ofName? {name : String}
    (h : Directive.ofName? name = some .element) : name = "element" := by
  simpa [Directive.table] using Directive.mem_table_of_ofName? h

/-- What a computed name of an element is, and what has to hold for it. -/
theorem elementName_eq_ok {chars : List Char} {space : Option String} {name : QName}
    (h : elementName chars space = .ok name) :
    isQName chars = true ∧ ∃ p rest, Scope.cutName chars = (p, rest) ∧
      name = ⟨p.map String.ofList, String.ofList rest, space⟩ ∧
        (p.isSome = true → space.all String.isEmpty = false) := by
  unfold elementName at h
  unfold Scope.cutName
  split at h
  · cases h
  · rename_i hname
    refine ⟨by simpa using hname, ?_⟩
    split at h
    · rename_i hcut
      cases h
      exact ⟨none, chars, by rw [hcut], rfl, fun e => by cases e⟩
    · rename_i p rest hcut
      split at h
      · cases h
      · split at h
        · cases h
        · rename_i hspace
          cases h
          exact ⟨some p, rest, by rw [hcut], rfl, fun _ => Bool.eq_false_iff.mpr hspace⟩

/-- If attributes that are required have values, none of them is missing. -/
theorem missingAttributes_of_ok {tag : Tag} {names values : List String}
    (h : requireAttributes tag names = .ok values) :
    (missingAttributes tag names).isEmpty = true := by
  unfold requireAttributes at h
  split at h
  · assumption
  · cases h

/-! ## Failures -/

/-- A cause that any step may have: it is not about attributes that are missing, about nodes that
cannot be expanded, or about the limit of loops. -/
def Cause.Plain : Cause → Prop
  | .missingAttributes .. | .unhandledNode _ | .iterationLimit _ => False
  | _ => True

/-- A failure, if there is one, has such a cause. -/
def FailsPlainly {α : Type} (r : Except Cause α) : Prop := ∀ cause, r = .error cause → cause.Plain

theorem Cause.plain_ofExpr (source : String) (e : Expr.Error) : (Cause.ofExpr source e).Plain := by
  cases e <;> trivial

theorem mapError_plain {α : Type} (source : String) (r : Except Expr.Error α) :
    FailsPlainly (r.mapError (.ofExpr source)) := by
  intro cause h
  cases r with
  | ok a => cases h
  | error e =>
    cases h
    exact Cause.plain_ofExpr source e

theorem elementName_plain (name : List Char) (space : Option String) :
    FailsPlainly (elementName name space) := by
  intro cause h
  unfold elementName at h
  dsimp only at h
  repeat' split at h
  all_goals
    cases h
    try trivial

theorem attributeName_plain (name : List Char) : FailsPlainly (attributeName name) := by
  intro cause h
  unfold attributeName at h
  dsimp only at h
  repeat' split at h
  all_goals
    cases h
    try trivial

theorem instructionTarget_plain (name : List Char) : FailsPlainly (instructionTarget name) := by
  intro cause h
  unfold instructionTarget at h
  split at h <;> cases h
  trivial

theorem addAttribute_plain (attributes : List Attribute) (a : Attribute) :
    FailsPlainly (addAttribute attributes a) := by
  intro cause h
  unfold addAttribute at h
  split at h <;> cases h
  trivial

end XmlTemplate.Expansion
