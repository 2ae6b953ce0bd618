import XmlTemplate.Proofs.Expansion.SideBySide

/-!
# What is ignored

An element that is ignored may have any attributes and any content: no result depends on them, and
no error.

* `Node.redact`: a tree without the attributes and the children of what is ignored.
* `Redacted`: nodes, one for each of two runs, that are equal after that.
* `process_eq_of_redact`: documents that are equal after that expand to the same result, or fail
  with the same error at the same place.
-/

namespace XmlTemplate

namespace Markup

namespace Node

mutual

/-- The tree without the attributes and the children of the elements that are ignored. -/
def redact (space : String) : Node → Node
  | .element tag children =>
    if tag.name.isNamed space "ignore" then .element { tag with attributes := [] } []
    else .element tag (redactAll space children)
  | .text value => .text value
  | .cdata value => .cdata value
  | .comment value => .comment value
  | .instruction target data => .instruction target data
  | .doctype value => .doctype value
  | .reference name => .reference name
  | .declaration value => .declaration value

/-- The same for siblings. -/
def redactAll (space : String) : List Node → List Node
  | [] => []
  | node :: rest => node.redact space :: redactAll space rest

end

theorem redact_of_leaf {space : String} {n : Node}
    (hn : ∀ tag children, n ≠ .element tag children) :
    n.redact space = n := by
  cases n with
  | element tag children => exact absurd rfl (hn tag children)
  | _ => rw [redact]

/-- What is a leaf after redaction was that leaf before. -/
theorem eq_of_redact_of_leaf {space : String} {n n' : Node} (h : n.redact space = n'.redact space)
    (hn : ∀ tag children, n ≠ .element tag children) : n' = n := by
  rw [redact_of_leaf hn] at h
  cases n' with
  | element tag children =>
    rw [redact] at h
    split at h
    · exact absurd h (hn _ _)
    · exact absurd h (hn _ _)
  | _ => rw [redact] at h; exact h.symm

/-- An element has the name that it had before redaction. -/
theorem element_of_redact {space : String} {tag : Tag} {children : List Node} {n : Node}
    (h : (Node.element tag children).redact space = n.redact space) :
    ∃ tag' children', n = .element tag' children' ∧
      (tag.name.isNamed space "ignore" = true ∧ tag'.name.isNamed space "ignore" = true ∨
        tag' = tag ∧ redactAll space children = redactAll space children') := by
  cases n with
  | element tag' children' =>
    refine ⟨tag', children', rfl, ?_⟩
    rw [redact, redact] at h
    by_cases hi : tag.name.isNamed space "ignore" = true <;>
      by_cases hi' : tag'.name.isNamed space "ignore" = true
    · exact .inl ⟨hi, hi'⟩
    · rw [if_pos hi, if_neg hi'] at h
      obtain ⟨rfl, -⟩ := Node.element.inj h
      exact absurd hi hi'
    · rw [if_neg hi, if_pos hi'] at h
      obtain ⟨rfl, -⟩ := Node.element.inj h
      exact absurd hi' hi
    · rw [if_neg hi, if_neg hi'] at h
      obtain ⟨rfl, hc⟩ := Node.element.inj h
      exact .inr ⟨rfl, hc⟩
  | _ =>
    rw [redact, redact] at h
    split at h <;> cases h

end Node

end Markup

namespace Expansion

open Markup

/-! ## Two runs -/

/-- Nodes, one for each of two runs, that are equal after redaction. -/
def Redacted (space : String) (x : Bool → Node) : Prop :=
  (x true).redact space = (x false).redact space

/-- Siblings that are equal after redaction go together node by node. -/
theorem rows_of_redactAll {space : String} : ∀ {nodes nodes' : List Node},
    Node.redactAll space nodes = Node.redactAll space nodes' →
    Rows (Redacted space) fun run => bif run then nodes else nodes'
  | [], [], _ => by
    simp only [Bool.cond_self]
    exact .nil
  | node :: rest, node' :: rest', h => by
    obtain ⟨hnode, hrest⟩ := List.cons.inj h
    have heq : (fun run => bif run then node :: rest else node' :: rest') =
        fun run => (bif run then node else node') :: bif run then rest else rest' :=
      funext (Bool.forall_bool.mpr ⟨rfl, rfl⟩)
    rw [heq]
    exact .cons (show Redacted space fun run => bif run then node else node' from hnode)
      (rows_of_redactAll hrest)

theorem Redacted.shape {space : String} {x : Bool → Node} (h : Redacted space x) :
    Shape space (Redacted space) x := by
  unfold Redacted at h
  have leaf {n : Node} (hx : x true = n) (hn : ∀ tag children, n ≠ .element tag children) :
      Shape space (Redacted space) x := by
    have hf : x false = n := Node.eq_of_redact_of_leaf (hx ▸ h) hn
    rw [show x = fun _ => n from funext (Bool.forall_bool.mpr ⟨hf, hx⟩)]
    exact .leaf hn
  cases hx : x true with
  | element tag children =>
    obtain ⟨tag', children', hf, hcase⟩ := Node.element_of_redact (hx ▸ h)
    rcases hcase with ⟨hi, hi'⟩ | ⟨rfl, hc⟩
    · have heq : x = fun run =>
          .element (bif run then tag else tag') (bif run then children else children') :=
        funext (Bool.forall_bool.mpr ⟨hf, hx⟩)
      rw [heq]
      exact .ignored (Bool.forall_bool.mpr ⟨hi', hi⟩)
    · have heq : x = fun run => .element tag' (bif run then children else children') :=
        funext (Bool.forall_bool.mpr ⟨hf, hx⟩)
      rw [heq]
      exact .element (rows_of_redactAll hc)
  | _ => exact leaf hx fun _ _ e => by cases e

/-- Of siblings that are equal after redaction the same ones are kept, if all elements are. -/
theorem rows_filter {space : String} {keep : Node → Bool}
    (hkeep : ∀ tag children, keep (.element tag children) = true) {xs : Bool → List Node}
    (h : Rows (Redacted space) xs) : Rows (Redacted space) fun run => (xs run).filter keep := by
  induction h with
  | nil => exact .nil
  | @cons x xs hx _ ih =>
    simp only [List.filter_cons]
    cases hx.shape with
    | @leaf n hn =>
      cases hk : keep n with
      | true =>
        simp only [hk, if_true]
        exact .cons hx ih
      | false =>
        simp only [hk]
        exact ih
    | element hc =>
      simp only [hkeep, if_true]
      exact .cons hx ih
    | ignored hi =>
      simp only [hkeep, if_true]
      exact .cons hx ih

theorem rows_includedNodes {space : String} {d d' : Document}
    (h : Node.redactAll space d.children = Node.redactAll space d'.children) :
    Rows (Redacted space) fun run => includedNodes (bif run then d else d') := by
  have heq : (fun run => includedNodes (bif run then d else d')) =
      fun run => includedNodes ⟨none, bif run then d.children else d'.children⟩ :=
    funext (Bool.forall_bool.mpr ⟨rfl, rfl⟩)
  rw [heq]
  exact rows_filter (fun _ _ => rfl) (rows_of_redactAll h)

/-- The expansion with two loaders whose documents are equal after redaction. -/
def redactedSupply (o : Options) (loader : Bool → Loader)
    (hl : ∀ uri, (loader true uri).map (fun d => Node.redactAll o.space d.children) =
      (loader false uri).map fun d => Node.redactAll o.space d.children) :
    Supply fun run => { o with loader := loader run } where
  space := o.space
  space_eq _ := rfl
  source := Redacted o.space
  shape := Redacted.shape
  loaded uri := by
    have h := hl uri
    cases ht : loader true uri with
    | error e =>
      cases hf : loader false uri with
      | error e' =>
        rw [ht, hf] at h
        cases h
        have heq : (fun run => loader run uri) = fun _ => .error e :=
          funext (Bool.forall_bool.mpr ⟨hf, ht⟩)
        exact heq ▸ .error e
      | ok d' =>
        rw [ht, hf] at h
        cases h
    | ok d =>
      cases hf : loader false uri with
      | error e' =>
        rw [ht, hf] at h
        cases h
      | ok d' =>
        rw [ht, hf] at h
        have heq : (fun run => loader run uri) = fun run => .ok (bif run then d else d') :=
          funext (Bool.forall_bool.mpr ⟨hf, ht⟩)
        rw [heq]
        exact .ok (rows_includedNodes (Except.ok.inj h))
  admits _ := True
  nodes _ _ _ := True
  computes _ _ := True
  faults _ := True
  again _ _ _ := rfl
  inside _ _ _ _ := rfl
  nil := trivial
  append _ _ := trivial
  text _ := trivial
  leaf _ _ := trivial
  instruction _ _ := trivial
  copy _ _ _ _ := trivial
  build _ _ _ _ _ _ _ _ _ _ _ := trivial
  up _ _ := trivial
  plain _ := trivial
  declaration _ := trivial

/-- **What is ignored has no influence.** Two documents that are equal except for the attributes and
the children of ignored elements, anywhere in them and in the documents that the two loaders give,
expand to the same result, or fail with the same error at the same place. -/
theorem process_eq_of_redact {o : Options} {loader loader' : Loader} {d d' : Document}
    (huri : d.uri = d'.uri)
    (hd : Node.redactAll o.space d.children = Node.redactAll o.space d'.children)
    (hl : ∀ uri, (loader uri).map (fun d => Node.redactAll o.space d.children) =
      (loader' uri).map fun d => Node.redactAll o.space d.children) :
    process { o with loader := loader } d = process { o with loader := loader' } d' := by
  obtain ⟨uri, children⟩ := d
  obtain ⟨uri', children'⟩ := d'
  obtain rfl : uri = uri' := huri
  let P := redactedSupply o (fun run => bif run then loader else loader') hl
  let documents (run : Bool) : Document := ⟨uri, bif run then children else children'⟩
  have hP : P.Limited o.maxDepth o.maxIterations := ⟨fun _ => rfl, fun _ => rfl, fun _ => trivial⟩
  have htop : Rows (TopRow P.source fun _ => True) fun run => (documents run).children :=
    (rows_of_redactAll hd).mono .source
  obtain ⟨result, hr, -⟩ := expandDocument_alike hP (fun _ => trivial) (fun _ _ => trivial)
    o.whitespace htop (State.initial_of o uri)
  have hfirst : process { o with loader := loader } ⟨uri, children⟩ =
      result.map fun children => ⟨uri, children⟩ := congrArg (Except.map _) (hr true)
  have hsecond : process { o with loader := loader' } ⟨uri, children'⟩ =
      result.map fun children => ⟨uri, children⟩ := congrArg (Except.map _) (hr false)
  rw [hfirst, hsecond]

/-- An element of the namespace of directives. -/
def ppElement (name : String) (attributes : List Attribute) (children : List Node) : Node :=
  .element ⟨⟨some "pp", name, some defaultSpace⟩, attributes, none, none⟩ children

/-- A loop refers to a symbol that is bound to a text and to something that is ignored, and a
document is included. -/
def withIgnored (attributes : List Attribute) (content : List Node) : Document :=
  ⟨none, [.element ⟨.plain "r", [], none, none⟩
    [ppElement "define" [⟨.plain "name", "t"⟩] [.text "a", ppElement "ignore" attributes content],
      ppElement "count" [⟨.plain "name", "i"⟩, ⟨.plain "max", "2"⟩] [ppElement "t" [] []],
      ppElement "include" [⟨.plain "href", "u:v"⟩] []]]⟩

/-- The document that is included. Something is ignored in it as well. -/
def includesIgnored (content : List Node) : Loader := fun _ =>
  .ok ⟨none, [ppElement "ignore" [] content, .text "z"]⟩

/-- What is ignored would not even be expanded without an error. -/
theorem process_eq_of_redact_withIgnored :
    process (.standard (includesIgnored [])) (withIgnored [] [.text "b"]) =
        .ok ⟨none, [.element ⟨.plain "r", [], none, none⟩ [.text "aaz"]]⟩ ∧
      process (.standard (includesIgnored [.text "\x7by\x7d"]))
          (withIgnored [⟨.plain "x", "\x7by\x7d"⟩] [ppElement "if" [] []]) =
        .ok ⟨none, [.element ⟨.plain "r", [], none, none⟩ [.text "aaz"]]⟩ := by
  have hresult : process (.standard (includesIgnored [])) (withIgnored [] [.text "b"]) =
      .ok ⟨none, [.element ⟨.plain "r", [], none, none⟩ [.text "aaz"]]⟩ := rfl
  have heq : process (.standard (includesIgnored [])) (withIgnored [] [.text "b"]) =
      process (.standard (includesIgnored [.text "\x7by\x7d"]))
        (withIgnored [⟨.plain "x", "\x7by\x7d"⟩] [ppElement "if" [] []]) :=
    process_eq_of_redact (o := .standard (includesIgnored [])) rfl rfl fun _ => rfl
  exact ⟨hresult, heq.symm.trans hresult⟩

end Expansion

end XmlTemplate
