import XmlTemplate.Proofs.Expansion.Origin

/-!
# The elements that lack attributes

A directive that does not have all its attributes ends the expansion. Which element it is that lacks
them is told by the innermost element that was being expanded; which place is reported depends on
who looks for them. A directive does so for its own element, and an `element` directive also for the
`attribute` directives among its children, which are not expanded by themselves.

* `Operation.FailsAlong.offence`: at the end of the calls somebody finds attributes to be missing.
* `Element.offence_cases`: in the element that is expanded, or in an `attribute` inside it.
* `missing_attributes_placed_iff`: the place is that of the element which lacks them, unless it is
  an `attribute`.
-/

namespace XmlTemplate.Expansion

open Markup

variable {o : Options} {tag : Tag}

/-! ## At the origin -/

/-- Where attributes are found to be missing: at the end of the calls. -/
theorem Operation.FailsAlong.offence {α : Type} {op : Operation α} {s : State}
    {chain : List Activation} {element : String} {names : List String}
    (h : op.FailsAlong o (.missingAttributes element names) s chain) :
    ∃ x, x.cause = .missingAttributes element names ∧
      (chain = [] ∧ op.offence? o = some x ∨
        ∃ before b, chain = before ++ [b] ∧ b.call.operation.offence? o = some x) := by
  rcases h.faults with ⟨rfl, hop⟩ | ⟨before, b, rfl, hb⟩
  · obtain ⟨x, hx, hcause⟩ := hop.exists_offence
    exact ⟨x, hcause, .inl ⟨rfl, hx⟩⟩
  · obtain ⟨x, hx, hcause⟩ := hb.exists_offence
    exact ⟨x, hcause, .inr ⟨before, b, rfl, hx⟩⟩

/-- Only activations of elements find attributes to be missing. -/
theorem Activation.exists_element {b : Activation} {x : Offence}
    (h : b.call.operation.offence? o = some x) :
    ∃ ws tag children following, b.call = .first ws (.element tag children) following ∧
      Element.offence? o ⟨tag, children⟩ = some x := by
  obtain ⟨c, s⟩ := b
  cases c with
  | siblings ws nodes => cases h
  | first ws node following =>
    cases node with
    | element tag children => exact ⟨ws, tag, children, following, rfl, h⟩
    | _ => cases h

/-! ## The elements -/

theorem attr_of_unnamed? {nodes : List Node} {t : Tag} (h : unnamed? o nodes = some t) :
    isDirective o t "attribute" = true := by
  induction nodes with
  | nil => cases h
  | cons node rest ih =>
    cases node with
    | element tag children =>
      rw [unnamed?] at h
      split at h
      · rename_i hd
        cases h
        exact (Bool.and_eq_true_iff.mp hd).1
      · exact ih h
    | _ => exact ih h

/-- An element lacks attributes itself, and is no `attribute` directive; or it is an `element`
directive, and an `attribute` directive inside it has no name. -/
theorem Element.offence_cases {children : List Node} {x : Offence}
    (h : Element.offence? o ⟨tag, children⟩ = some x) :
    x.tag = tag ∧ isDirective o tag "attribute" = false ∨
      isDirective o tag "element" = true ∧ isDirective o x.tag "attribute" = true := by
  rw [Element.offence?] at h
  split at h
  · rename_i hin
    cases hd : Directive.ofName? tag.name.localName with
    | none => rw [hd] at h; cases h
    | some d =>
      rw [hd, Option.bind_some, Directive.offence?] at h
      split at h
      · split at h
        · rename_i helement
          obtain ⟨t, ht, rfl⟩ := Option.map_eq_some_iff.mp h
          refine .inr ⟨?_, attr_of_unnamed? ht⟩
          rw [isDirective, QName.isNamed, hin,
            Directive.eq_element_of_ofName? (hd.trans (congrArg some helement))]
          rfl
        · cases h
      · rename_i hmissing
        cases h
        refine .inl ⟨rfl, Bool.eq_false_iff.mpr fun hattr => hmissing ?_⟩
        rw [isDirective, QName.isNamed, Bool.and_eq_true, beq_iff_eq] at hattr
        rw [hattr.2] at hd
        cases hd
        rfl
  · cases h

/-- A qualified name ends as the local name does. -/
theorem getLast?_qualified {name : QName} {c : Char}
    (h : name.localName.toList.getLast? = some c) : name.qualified.toList.getLast? = some c := by
  rw [QName.qualified]
  split
  · rw [String.toList_append, List.getLast?_append, h]
    rfl
  · exact h

theorem qualified_ne {t : Tag} (h : isDirective o tag "element" = true)
    (h' : isDirective o t "attribute" = true) : tag.name.qualified ≠ t.name.qualified := by
  rw [isDirective, QName.isNamed, Bool.and_eq_true, beq_iff_eq] at h h'
  have hlast : tag.name.qualified.toList.getLast? = some 't' :=
    getLast?_qualified (by rw [h.2]; rfl)
  have hlast' : t.name.qualified.toList.getLast? = some 'e' :=
    getLast?_qualified (by rw [h'.2]; rfl)
  intro heq
  rw [heq, hlast'] at hlast
  exact absurd hlast (by decide)

/-! ## The place -/

theorem error_of_process {d : Document} {e : Error} (h : process o d = .error e) :
    ((Performs.perform o (Operation.expandDocument o.whitespace d)).run
      (State.initial o d.uri)).1 = .error e := by
  show ((Expander.expandDocument o o.whitespace d).run (State.initial o d.uri)).1 = .error e
  rw [process] at h
  revert h
  cases ((Expander.expandDocument o o.whitespace d).run (State.initial o d.uri)).1 with
  | ok nodes => exact fun h => by cases h
  | error e' => exact fun h => congrArg Except.error (Except.error.inj h)

/-- **The place of missing attributes.** If a document cannot be expanded because attributes are
missing, the innermost element that was being expanded has found that out, and the error has its
place. It is the element itself that lacks them, and then the place is its own, or it is an
`element` directive with an `attribute` directive without a name inside it, and then it is not. -/
theorem missing_attributes_placed_iff {o : Options} {d : Document} {e : Error} {element : String}
    {names : List String} (h : process o d = .error e)
    (hcause : e.cause = .missingAttributes element names) :
    ∃ chain ws tag children following t x,
      (Operation.expandDocument o.whitespace d).FailsAlong o e.cause (State.initial o d.uri)
        (chain ++ [⟨.first ws (.element tag children) following, t⟩]) ∧
      Element.offence? o ⟨tag, children⟩ = some x ∧ e.cause = x.cause ∧
      e.place = some (t.place tag) ∧
      (e.place = some (t.place x.tag) ↔ isDirective o x.tag "attribute" = false) := by
  have hfails : ((Performs.perform o (Operation.expandDocument o.whitespace d)).run
      (State.initial o d.uri)).1 = .error e := error_of_process h
  obtain ⟨chain, halong, hplace⟩ := Operation.exists_failsAlong hfails
  obtain ⟨x, hx, ⟨-, hnone⟩ | ⟨before, b, rfl, hb⟩⟩ := (hcause ▸ halong).offence
  · cases hnone
  obtain ⟨ws, tag, children, following, hcall, hoffence⟩ := b.exists_element hb
  obtain ⟨c, t⟩ := b
  subst hcall
  have hinnermost : e.place = some (t.place tag) :=
    hplace.trans (Operation.innermost?_concat _ _ before rfl)
  refine ⟨before, ws, tag, children, following, t, x, halong, hoffence, hcause.trans hx.symm,
    hinnermost, ?_⟩
  rw [hinnermost]
  rcases Element.offence_cases hoffence with ⟨htag, hattr⟩ | ⟨helement, hattr⟩
  · rw [htag]
    exact iff_of_true rfl hattr
  · refine iff_of_false (fun heq => qualified_ne helement hattr ?_) (by simp [hattr])
    exact congrArg Place.element (Option.some.inj heq)

/-- A loop that has neither of its attributes, inside another element. -/
def endlessTag : Tag := { directiveTag "count" [] with position := some ⟨3, 5⟩ }

/-- The place is that of the loop. -/
theorem missing_attributes_placed_iff_count :
    process (.standard (Loader.ofTexts []))
        ⟨none, [.element ⟨.plain "r", [], some ⟨1, 1⟩, none⟩ [.element endlessTag []]]⟩ =
      .error ⟨.missingAttributes "pp:count" ["name", "max"],
        some ⟨"pp:count", none, some ⟨3, 5⟩⟩⟩ ∧
    ∃ tag t x, Offence.cause x = .missingAttributes "pp:count" ["name", "max"] ∧
      some ⟨"pp:count", none, some ⟨3, 5⟩⟩ = some (State.place t tag) ∧
      (some ⟨"pp:count", none, some ⟨3, 5⟩⟩ = some (t.place x.tag) ↔
        isDirective (.standard (Loader.ofTexts [])) x.tag "attribute" = false) := by
  have hrun : process (.standard (Loader.ofTexts []))
      ⟨none, [.element ⟨.plain "r", [], some ⟨1, 1⟩, none⟩ [.element endlessTag []]]⟩ =
      .error ⟨.missingAttributes "pp:count" ["name", "max"],
        some ⟨"pp:count", none, some ⟨3, 5⟩⟩⟩ := rfl
  obtain ⟨-, -, tag, -, -, t, x, -, -, hcause, hplace, hiff⟩ :=
    missing_attributes_placed_iff hrun rfl
  exact ⟨hrun, tag, t, x, hcause.symm, hplace, hiff⟩

/-- An attribute without a name. -/
def namelessTag : Tag := { directiveTag "attribute" [] with position := some ⟨2, 3⟩ }

/-- The element that is built around it. -/
def buildingTag : Tag :=
  { directiveTag "element" [⟨.plain "name", "e"⟩] with position := some ⟨1, 1⟩ }

/-- The attribute lacks its name, and the place is that of the element that is built. -/
theorem missing_attributes_not_placed :
    ¬ ∀ (o : Options) (d : Document) (e : Error) (element : String) (names : List String),
      process o d = .error e → e.cause = .missingAttributes element names →
        ∃ place, e.place = some place ∧ place.element = element := by
  intro h
  have hrun : process (.standard (Loader.ofTexts []))
      ⟨none, [.element buildingTag [.element namelessTag [.text "v"]]]⟩ =
      .error ⟨.missingAttributes "pp:attribute" ["name"],
        some ⟨"pp:element", none, some ⟨1, 1⟩⟩⟩ := rfl
  obtain ⟨place, hplace, helement⟩ := h _ _ _ _ _ hrun rfl
  cases hplace
  exact absurd helement (by decide)

end XmlTemplate.Expansion
