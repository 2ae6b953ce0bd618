import XmlTemplate.Proofs.Expansion.SideBySide
import XmlTemplate.Proofs.Markup.Declarations

/-!
# Nodes that cannot be expanded

Declarations are the only nodes that cannot be expanded. They stand at the top level of what was
read and nowhere else, and there they are kept as they are. So no expansion of a text comes to one.

* `declarationFreeSupply`: trees without declarations, and what comes out of them.
* `processText_handles`: no node of a text is of a kind that is not handled.
-/

namespace XmlTemplate.Expansion

open Markup

/-- Every document that is loaded was read from a text. -/
def Loader.Parses (loader : Loader) : Prop :=
  ∀ uri d, loader uri = .ok d → ∃ text base, Document.parse text base = .ok d

/-- The content of a document that was read has no declarations. -/
theorem declarationFree_includedNodes {d : Document} (h : ∀ n ∈ d.children, n.TopDeclarationFree) :
    ∀ n ∈ includedNodes d, n.DeclarationFree := by
  intro n hn
  obtain ⟨hn, hkept⟩ := List.mem_filter.mp hn
  rcases h n hn with hn | ⟨value, rfl⟩
  · exact hn
  · cases hkept

/-- The expansion of trees without declarations gives such trees, and it does not fail for nodes of
a kind that is not handled. -/
def declarationFreeSupply (o : Options) (hl : o.loader.Parses) : Supply fun _ : Unit => o where
  toInput := Input.single o Node.declarationFree_element.mp fun hd => by
    obtain ⟨text, base, hparse⟩ := hl _ _ hd
    exact declarationFree_includedNodes (declarationFree_of_parse hparse)
  admits _ := True
  nodes _ _ := Every Node.DeclarationFree
  computes _ _ := True
  faults cause := ∀ kind, cause ≠ .unhandledNode kind
  again := id
  inside hn hm := Node.declarationFree_element.mp (hn _ hm)
  nil := Every.nil
  append := Every.append fun _ e => by cases e
  text _ := Every.cons (fun e => by cases e) Every.nil
  leaf {_ _ n} hk _ := by
    refine Every.cons ?_ Every.nil
    cases n with
    | element | text | declaration => cases hk
    | _ => exact fun e => by cases e
  instruction _ _ := Every.cons (fun e => by cases e) Every.nil
  copy _ _ _ hc := Every.cons (Node.declarationFree_element.mpr (hc.below Every.nil)) Every.nil
  build _ _ _ _ _ _ _ _ _ _ hc :=
    Every.cons (Node.declarationFree_element.mpr (hc.below Every.nil)) Every.nil
  up _ hn := hn
  plain {cause} h kind e := by
    subst e
    exact h
  declaration h := absurd rfl h

/-- **Everything that is read can be expanded.** Whatever a text holds, wherever it comes from, and
under all settings: if included documents are read from texts too, the expansion never fails for a
node of a kind that is not handled. -/
theorem processText_handles {o : Options} (hl : o.loader.Parses) (text : String)
    (base : Option Uri) {e : Error} (h : processText o text base = .error e) (kind : NodeKind) :
    e.cause ≠ .unhandledNode kind := by
  unfold processText at h
  split at h
  · rename_i d hparse
    have hP : (declarationFreeSupply o hl).Limited o.maxDepth o.maxIterations :=
      ⟨fun _ => rfl, fun _ => rfl, fun _ => trivial⟩
    have htop : Rows (TopRow (declarationFreeSupply o hl).source fun _ => True)
        fun _ => d.children := by
      refine .const fun n hn => ?_
      rcases declarationFree_of_parse hparse n hn with hn | ⟨value, rfl⟩
      · exact .source hn
      · exact .declaration trivial
    obtain ⟨result, hr, hfaults⟩ := expandDocument_alike (d := fun _ => d) hP (fun h => h)
      (fun _ _ => trivial) o.whitespace htop (State.initial_of o d.uri)
    have hrun : process o d = result.map fun children => ⟨d.uri, children⟩ :=
      congrArg (Except.map _) (hr ())
    rw [hrun] at h
    cases result with
    | ok children => cases h
    | error e' =>
      cases h
      exact hfaults e rfl kind
  · cases h
    exact fun he => by cases he

theorem parses_ofTexts (texts : List (String × String)) : (Loader.ofTexts texts).Parses := by
  intro uri d h
  unfold Loader.ofTexts Loader.document at h
  split at h
  · rename_i text _
    cases hp : Document.parse text (some uri) with
    | error e => rw [hp] at h; cases h
    | ok d' =>
      rw [hp] at h
      cases h
      exact ⟨text, some uri, hp⟩
  · cases h

/-- A declaration within an element, which is read before the element. -/
def declaredWithin : String := "<r><?xml version='1.0'?>\x7bx\x7d</r>"

/-- It is the symbol after the declaration that cannot be expanded. -/
theorem processText_handles_declaredWithin :
    processText (.standard (Loader.ofTexts [])) declaredWithin none =
        .error ⟨.undefinedSymbol "x", some ⟨"r", none, some ⟨1, 1⟩⟩⟩ ∧
      ∀ kind, Cause.undefinedSymbol "x" ≠ .unhandledNode kind := by
  have h : processText (.standard (Loader.ofTexts [])) declaredWithin none =
      .error ⟨.undefinedSymbol "x", some ⟨"r", none, some ⟨1, 1⟩⟩⟩ := by cbv
  exact ⟨h, processText_handles (parses_ofTexts []) declaredWithin none h⟩

/-- In a tree that was not read a declaration may stand anywhere. -/
example : process (.standard (Loader.ofTexts []))
    ⟨none, [.element ⟨.plain "r", [], none, none⟩ [.declaration .standard]]⟩ =
      .error ⟨.unhandledNode .declaration, some ⟨"r", none, none⟩⟩ := rfl

end XmlTemplate.Expansion
