import XmlTemplate.Proofs.Expansion.Directives
import XmlTemplate.Proofs.Expansion.Includes
import XmlTemplate.Proofs.Expansion.Surroundings

/-!
# Includes are spliced in

What an included document holds is expanded as if it were bound to a symbol, as long as nothing is
included from there: it is then of no consequence that the document is open meanwhile.

* `IncludeFree`: no element that includes a document is come to from an activation.
* `answer_elsewhere`: such an activation comes to the same whatever documents are open. The
  induction bars all other activations, with causes that are not the true one.
* `IncludesDocument`: an element that includes a document.
* `inclusion_is_splice`: it comes to the same as a symbol with the content of the document.
-/

namespace XmlTemplate.Expansion

open Markup Interpolation

variable {o : Options}

/-! ## Without includes -/

/-- No element that includes a document is come to from an activation. -/
def IncludeFree (o : Options) (a : Activation) : Prop :=
  ∀ b, a.Reaches o b → ¬ b.call.Inclusion o.space

theorem IncludeFree.of_calls {a b : Activation} (h : IncludeFree o a) (hb : a.Calls o b) :
    IncludeFree o b :=
  fun c hc => h c (.head hb hc)

theorem on_operation (c : Call) (l : Level) : c.operation.on o l = (l.unfold o).run c := by
  cases c <;> rfl

/-- An activation is without includes if what it depends on is, and if it is not one of an element
that includes a document. -/
theorem IncludeFree.of_depends (ok : Activation → Prop) {a : Activation}
    (hi : ¬ a.call.Inclusion o.space) (hok : ∀ b, ok b → IncludeFree o b)
    (h : ∀ l : Level, (∀ b, ok b → l.answer b = (Expander.level o).answer b) →
      (l.unfold o).answer a = (Expander.level o).answer a) : IncludeFree o a := by
  intro b hb
  cases hb.cases_head with
  | inl hrefl => exact hrefl ▸ hi
  | inr hhead =>
    obtain ⟨c, ⟨l, hoff, hne⟩, hcb⟩ := hhead
    have hc : ok c := by
      by_contra hc
      refine hne ?_
      rw [on_operation, on_operation, level_unfold]
      exact h l fun b hb => hoff b fun he => hc (he ▸ hb)
    exact hok c hc b hcb

theorem walk_congr {l l' : Level} {ws : Whitespace} {nodes : List Node} (before : List Node)
    (h : ∀ n rest, n :: rest <:+ nodes → l.first ws n rest = l'.first ws n rest) :
    l.walk ws nodes before = l'.walk ws nodes before := by
  induction nodes generalizing before with
  | nil => rfl
  | cons n rest ih =>
    rw [Level.walk, Level.walk, h n rest List.suffix_rfl]
    exact bind_congr fun nodes => ih _ fun m others hm =>
      h m others (hm.trans (List.suffix_cons n rest))

/-- Siblings are without includes if each of them is. -/
theorem IncludeFree.siblings {ws : Whitespace} {nodes : List Node}
    (h : ∀ n rest, n :: rest <:+ nodes → ∀ s, IncludeFree o ⟨.first ws n rest, s⟩) (s : State) :
    IncludeFree o ⟨.siblings ws nodes, s⟩ := by
  refine .of_depends (fun b => ∃ n rest, n :: rest <:+ nodes ∧ b.call = .first ws n rest) id
    ?_ fun l hl => ?_
  · rintro ⟨c, t⟩ ⟨n, rest, hsuffix, rfl⟩
    exact h n rest hsuffix t
  · have hwalk : l.walk ws nodes [] = (Expander.level o).walk ws nodes [] :=
      walk_congr [] fun n rest hsuffix => funext fun t =>
        hl ⟨.first ws n rest, t⟩ ⟨n, rest, hsuffix, rfl⟩
    rw [← level_unfold o]
    exact congrFun hwalk s

open Classical in
/-- An expander that fails instead of coming to an element that includes a document. -/
noncomputable def Level.barring (o : Options) (cause : Cause) : Level :=
  .ofAnswers fun a =>
    if IncludeFree o a then (Expander.level o).answer a else (.error (.ofCause cause), a.state)

section Barring

variable {cause : Cause} {a : Activation}

theorem answer_barring (h : IncludeFree o a) :
    (Level.barring o cause).answer a = (Expander.level o).answer a := by
  rw [Level.barring, Level.answer_ofAnswers, if_pos h]

theorem answer_barring_of_not (h : ¬ IncludeFree o a) :
    (Level.barring o cause).answer a = (.error (.ofCause cause), a.state) := by
  rw [Level.barring, Level.answer_ofAnswers, if_neg h]

/-- An activation that comes to no such element does not see the bar. -/
theorem unfold_barring (h : IncludeFree o a) :
    ((Level.barring o cause).unfold o).answer a = (Expander.level o).answer a := by
  have hrun := Operation.run_eq_of_calls a.call.operation (s := a.state) (l := .barring o cause)
    fun b hb => answer_barring (h.of_calls hb)
  rwa [on_operation, on_operation, level_unfold] at hrun

end Barring

theorem outcome_of_answer {l l' : Level} {c : Call} {s : State}
    (h : l.answer ⟨c, s⟩ = l'.answer ⟨c, s⟩) :
    Expand.outcome (l.run c) s = Expand.outcome (l'.run c) s :=
  congrArg (fun r => (r.1.mapError Error.cause, r.2)) h

/-- Runs on the same level, whatever documents are open. -/
def Surroundings.elsewhere : Surroundings := ⟨0, False⟩

/-- **Without includes it does not matter which documents are open.** The induction is on smaller
activations. -/
theorem answer_elsewhere {c : Call} {s t : State} (hfree : IncludeFree o ⟨c, s⟩)
    (hst : Beside .elsewhere s t) :
    EndsBeside .elsewhere (fun _ => False) (fun _ => True) s t
      (Expand.outcome ((Expander.level o).run c) s)
      (Expand.outcome ((Expander.level o).run c) t) := by
  obtain ⟨a, ha⟩ : ∃ a : Activation, a = ⟨c, t⟩ := ⟨_, rfl⟩
  induction a using (measure_wellFounded o).induction generalizing c s t with
  | h a ih =>
    subst ha
    have hbarred (cause : Cause) : EndsBeside .elsewhere (· = cause) (fun _ => True) s t
        (Expand.outcome ((Expander.level o).run c) s)
        (Expand.outcome ((Expander.level o).run c) t) := by
      have hcalls : ∀ c' s' t', Beside .elsewhere s' t' → Smaller o t c.weight ⟨c', t'⟩ →
          EndsBeside .elsewhere (· = cause) (fun _ => True) s' t'
            (Expand.outcome ((Level.barring o cause).run c') s')
            (Expand.outcome ((Expander.level o).run c') t') := by
        intro c' s' t' hst' hc
        by_cases hfree' : IncludeFree o ⟨c', s'⟩
        · rw [outcome_of_answer (answer_barring hfree')]
          exact (ih ⟨c', t'⟩ hc hfree' hst' rfl).imp fun _ h => h.elim
        · have hstops : Expand.outcome ((Level.barring o cause).run c') s' =
              (.error cause, s') :=
            congrArg (fun r : Answer => (r.1.mapError Error.cause, r.2))
              (answer_barring_of_not hfree')
          rw [hstops]
          exact .stopped rfl
      have hends := unfold_beside (.inl rfl)
        (l := fun i => if i then .barring o cause else Expander.level o) hst
        (fun hi => absurd hi (hfree _ .refl)) hcalls
      simp only [if_true, Bool.false_eq_true, if_false] at hends
      rwa [outcome_of_answer (unfold_barring hfree), level_unfold] at hends
    -- Of two causes one is not the true one.
    have hboth := (hbarred (.recursionLimit 0)).inter (hbarred (.recursionLimit 1))
    exact hboth.imp fun cause ⟨h₀, h₁⟩ => by cases h₀.symm.trans h₁

/-! ## Inclusions -/

/-- An element that includes a document: what its reference is evaluated to, in which state that is
done, and which document it names there. -/
structure IncludesDocument (o : Options) (tag : Tag) (s : State) (href : String) (t : State)
    (uri : Uri) (d : Document) : Prop where
  named : isDirective o tag "include" = true
  evaluates : ∃ value, tag.attribute? "href" = some value ∧
    (Expander.interpolateText o value).run s = (.ok href, t)
  resolves : Uri.resolve t.environment.currentDocument?
    (String.ofList (Text.trim href.toList)) = .ok uri
  unopened : t.environment.isOpen uri = false
  loads : o.loader uri = .ok d

section Inclusion

variable {tag : Tag} {s t : State} {href : String} {uri : Uri} {d : Document}
  (h : IncludesDocument o tag s href t uri d)

include h

/-- The reference is evaluated on the level of the element. -/
theorem IncludesDocument.kept : Kept s t := by
  obtain ⟨value, -, hrun⟩ := h.evaluates
  have hkept := Session.run_kept o (.operation (.interpolateText value)) s
  rwa [show (Session.operation (Operation.interpolateText value)).run o =
    Expander.interpolateText o value from rfl, hrun] at hkept

/-- Without references in it, the reference to the document changes nothing. -/
theorem IncludesDocument.eq_of_braceless {value : String}
    (hvalue : tag.attribute? "href" = some value) (hplain : value.toList.any isBrace = false) :
    t = s := by
  obtain ⟨value', hvalue', hrun⟩ := h.evaluates
  cases hvalue.symm.trans hvalue'
  rw [← interpolateText_level, interpolateText_of_braceless hplain] at hrun
  exact (Prod.mk.inj hrun).2.symm

/-- What an inclusion comes to, from what the content of the document comes to. -/
theorem IncludesDocument.outcome (hs : s.depth < o.maxDepth) (ws : Whitespace)
    (children following : List Node) :
    Expand.outcome (Expander.expandNode o ws (.element tag children) following) s =
      ((Expand.outcome ((Expander.level o).run (.siblings ws (includedNodes d)))
          (t.including uri)).1,
        (Expand.outcome ((Expander.level o).run (.siblings ws (includedNodes d)))
          (t.including uri)).2.closing) := by
  obtain ⟨value, hvalue, hrun⟩ := h.evaluates
  have hcomplete : missingAttributes tag (requiredAttributes .inclusion) = [] := by
    simp [missingAttributes, requiredAttributes, hvalue]
  have hact (p : Parts) : actOn o (Expander.level o) ws .inclusion tag children p = (do
      let href ← Expander.interpolateText o value
      withInclude o (String.ofList (Text.trim href.toList))
        fun d => (Expander.level o).siblings ws (includedNodes d)) := by
    rw [← interpolateText_level, ← attributeValue_of_some hvalue]
    rfl
  have hevaluated : Expand.outcome (Expander.interpolateText o value) s = (.ok href, t) := by
    rw [Expand.outcome, hrun]
    rfl
  rw [outcome_expandNode_of_directive (d := .inclusion) rfl h.named hcomplete, hact,
    Expand.outcome_bind, hevaluated]
  dsimp only
  rw [Expand.outcome, run_withInclude_of_opened
    (documentFor_eq_ok.mpr ⟨h.resolves, h.unopened, h.loads⟩) (h.kept.depth ▸ hs)]
  rfl

/-- One level deeper the content comes to the same whether the document is open meanwhile or not. -/
theorem IncludesDocument.outcome_eq_descend (hs : s.depth < o.maxDepth) {ws : Whitespace}
    (hfree : IncludeFree o ⟨.siblings ws (includedNodes d), t.including uri⟩)
    (children following : List Node) :
    Expand.outcome (Expander.expandNode o ws (.element tag children) following) s =
      Expand.outcome
        (Expand.descend o.maxDepth (Expander.expandNodes o ws (includedNodes d))) t := by
  have hdepth : t.depth < o.maxDepth := h.kept.depth ▸ hs
  have hends := answer_elsewhere hfree (t := { t with depth := t.depth + 1 })
    ⟨rfl, rfl, rfl, False.elim⟩
  rw [h.outcome hs, Expand.outcome_descend, if_neg (Nat.not_le.mpr hdepth), Expand.outcome_within]
  revert hends
  show EndsBeside _ _ _ _ _ _ (Expand.outcome (Expander.expandNodes o ws (includedNodes d)) _) → _
  generalize Expand.outcome _ (t.including uri) = x
  generalize Expand.outcome _ { t with depth := t.depth + 1 } = y
  intro hends
  cases hends with
  | stopped hc => exact hc.elim
  | @ended result u v _ huv hu hv =>
    have hclosed : Beside .elsewhere u.closing { v with depth := v.depth - 1 } :=
      ⟨huv.frames, huv.cache, congrArg (· - 1) huv.depth, False.elim⟩
    have hincludes : u.closing.environment.includes = v.environment.includes :=
      (congrArg List.tail hu.includes).trans hv.includes.symm
    exact Prod.ext rfl (hclosed.eq_of_includes hincludes)

end Inclusion

/-- **An include is spliced in.** Where no element that includes a document is come to from the
content of an included document, the inclusion comes to the same as the expansion of a symbol that
is bound to this content, in the state in which its reference has been evaluated: nodes, states and
causes of failures are the same. So it does not matter what the element holds and what follows it,
and definitions are made in the scope around it. -/
theorem inclusion_is_splice {tag : Tag} {s t : State} {href : String} {uri : Uri} {d : Document}
    {ws : Whitespace} (h : IncludesDocument o tag s href t uri d) (hs : s.depth < o.maxDepth)
    (hfree : IncludeFree o ⟨.siblings ws (includedNodes d), t.including uri⟩)
    (children following : List Node) :
    (∀ name, t.environment.lookup name = some (.nodes (includedNodes d)) →
      Expand.outcome (Expander.expandNode o ws (.element tag children) following) s =
        Expand.outcome (Expander.evalSymbol o ws name) t) ∧
    Expand.outcome (Expander.expandNode o ws (.element tag children) following) s =
      Expand.outcome
        (Expand.descend o.maxDepth (Expander.expandNodes o ws (includedNodes d))) t ∧
    ∀ value, tag.attribute? "href" = some value → value.toList.any isBrace = false → t = s := by
  have hdescend := h.outcome_eq_descend hs hfree children following
  refine ⟨fun name hname => ?_, hdescend, fun value => h.eq_of_braceless⟩
  have hsymbol : Expander.evalSymbol o ws name = evalSymbol o (Expander.level o) ws name :=
    operation_level (.evalSymbol ws name)
  have hrun : (evalSymbol o (Expander.level o) ws name).run t =
      (Expand.descend o.maxDepth (Expander.expandNodes o ws (includedNodes d))).run t := by
    have hread : Expand.environment.run t = (.ok t.environment, t) := rfl
    rw [evalSymbol, Expand.run_bind, hread]
    dsimp only
    rw [hname]
    rfl
  rw [hdescend, hsymbol, Expand.outcome, Expand.outcome, hrun]

/-- A document with a definition, and with a conditional at its end that does not hold. -/
def splicing : Options :=
  { Options.standard (.ofTexts
      [("u:d", "<!DOCTYPE d><define xmlns='p' x='1'/><ifdef xmlns='p' name='y'>no</ifdef>")]) with
    space := "p" }

/-- An element of this document. -/
def splicedTag (name key value : String) (column : Nat) : Tag :=
  ⟨⟨none, name, some "p"⟩, [⟨⟨none, "xmlns", some declarationNamespace⟩, "p"⟩, ⟨.plain key, value⟩],
    some ⟨1, column⟩, some (storedUri "d")⟩

/-- What is included from this document. -/
def splicedNodes : List Node :=
  [.element (splicedTag "define" "x" "1" 13) [],
    .element (splicedTag "ifdef" "name" "y" 38) [.text "no"]]

/-- The element that includes the document. -/
def splicingTag : Tag := ⟨⟨none, "include", some "p"⟩, [⟨.plain "href", "u:d"⟩], none, none⟩

/-- The other branch of a conditional. -/
def elseNode : Node := .element ⟨⟨none, "else", some "p"⟩, [], none, none⟩ [.text "else"]

/-- What is expanded in the document includes nothing. -/
theorem includeFree_splicedNodes (s : State) :
    IncludeFree splicing ⟨.siblings .collapse splicedNodes, s⟩ := by
  have htext (t : State) : IncludeFree splicing ⟨.siblings .collapse [.text "no"], t⟩ := by
    refine .siblings (fun n rest hn u => ?_) t
    obtain hn | hn := List.suffix_cons_iff.mp hn
    · obtain ⟨rfl, rfl⟩ := List.cons.inj hn
      exact .of_depends (fun _ => False) id (fun _ h => h.elim) fun l _ => rfl
    · exact absurd (List.suffix_nil.mp hn) (List.cons_ne_nil n rest)
  refine .siblings (fun n rest hn t => ?_) s
  obtain hn | hn := List.suffix_cons_iff.mp hn
  · obtain ⟨rfl, rfl⟩ := List.cons.inj hn
    refine .of_depends (fun _ => False) Bool.false_ne_true (fun _ h => h.elim)
      fun l _ => ?_
    rw [← level_unfold splicing]
    rfl
  obtain hn | hn := List.suffix_cons_iff.mp hn
  · obtain ⟨rfl, rfl⟩ := List.cons.inj hn
    refine .of_depends (fun b => b.call = .siblings .collapse [.text "no"])
      Bool.false_ne_true ?_ fun l hl => ?_
    · rintro ⟨c, u⟩ rfl
      exact htext u
    · have hsiblings : l.siblings .collapse [.text "no"] =
          (Expander.level splicing).siblings .collapse [.text "no"] :=
        funext fun u => hl ⟨.siblings .collapse [.text "no"], u⟩ rfl
      have hanswer (l : Level) : (l.unfold splicing).answer
          ⟨.first .collapse (.element (splicedTag "ifdef" "name" "y" 38) [.text "no"]) [], t⟩ =
          Expand.locate (splicedTag "ifdef" "name" "y" 38)
            (if t.environment.isDefined "y" then l.siblings .collapse [.text "no"]
              else return []) t := rfl
      rw [hanswer l, hsiblings, ← hanswer, level_unfold]
  · exact absurd (List.suffix_nil.mp hn) (List.cons_ne_nil n rest)

/-- A state in which a symbol is bound to the content of the document. -/
def splicingState : State :=
  { State.initial splicing none with
    environment := (State.initial splicing none).environment.define "d" (.nodes splicedNodes) }

/-- The definition is made in the scope around the inclusion, and the `else` after the inclusion is
not the other branch of the conditional in the document. -/
theorem inclusion_is_splice_else :
    Expand.outcome (Expander.expandNode splicing .collapse (.element splicingTag []) [elseNode])
        splicingState =
      Expand.outcome (Expander.evalSymbol splicing .collapse "d") splicingState ∧
    Expand.outcome (Expander.expandNode splicing .collapse (.element splicingTag []) [elseNode])
        splicingState =
      (.ok [], { splicingState with
        environment := splicingState.environment.define "x" (.text "1") }) := by
  have hloads : splicing.loader (storedUri "d") =
      .ok ⟨some (storedUri "d"), .doctype "d" :: splicedNodes⟩ := by cbv
  have hincludes : IncludesDocument splicing splicingTag splicingState "u:d" splicingState
      (storedUri "d") ⟨some (storedUri "d"), .doctype "d" :: splicedNodes⟩ :=
    ⟨by decide, ⟨"u:d", rfl, by cbv⟩, by cbv, by cbv, hloads⟩
  obtain ⟨hsymbol, hdescend, -⟩ := inclusion_is_splice hincludes (by decide)
    (includeFree_splicedNodes _) [] [elseNode]
  refine ⟨hsymbol "d" rfl, hdescend.trans ?_⟩
  cbv

end XmlTemplate.Expansion
