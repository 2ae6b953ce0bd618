import XmlTemplate.Proofs.Expansion.Results
import XmlTemplate.Proofs.Markup.Sound

/-!
# Directives in results

Directives are replaced by what they stand for, and everything else is copied. Only an `element`
directive makes up a name, and the namespace of directives is not refused there: whatever it
expands its attribute `namespace` to becomes the namespace of an element.

* `Spilled`: the elements that come into the namespace of directives in this way.
* `spilling_expands`: no other element of a result is in that namespace, wherever it comes from.
* `directiveFree_iff_not_spilled`: a result is free of directives if and only if nothing in it is
  spilled.
-/

namespace XmlTemplate.Expansion

open Markup

/-- No element at any depth is in the namespace of directives. -/
def DirectiveFree (options : Options) (nodes : List Node) : Prop :=
  ∀ tag ∈ Node.tagsAll nodes, tag.name.isIn options.space = false

/-- The elements of a document and of every document that it may include. -/
inductive Source (options : Options) (d : Document) (tag : Tag) : Prop where
  | given : tag ∈ Node.tagsAll d.children → Source options d tag
  | included {uri : Uri} {e : Document} : options.loader uri = .ok e →
    tag ∈ Node.tagsAll e.children → Source options d tag

/-- The attribute `namespace` of an `element` directive can expand to the namespace of
directives. -/
def Spills (options : Options) (tag : Tag) : Prop :=
  isDirective options tag "element" = true ∧
  ∃ text, tag.attribute? "namespace" = some text ∧ Computes options text options.space

/-- What such a directive of the sources, or one that was itself made so, builds with some name in
the namespace that it computes. -/
inductive Spilled (options : Options) (d : Document) : Tag → Prop where
  | source {tag : Tag} {chars : List Char} {name : QName} (attributes : List Attribute) :
    Source options d tag → Spills options tag →
    elementName chars (some options.space) = .ok name →
    Spilled options d { tag with name := name, attributes := attributes }
  | again {tag : Tag} {chars : List Char} {name : QName} (attributes : List Attribute) :
    Spilled options d tag → Spills options tag →
    elementName chars (some options.space) = .ok name →
    Spilled options d { tag with name := name, attributes := attributes }

/-! ## Computed names -/

/-- A computed name is in the namespace that was computed with it. -/
theorem space_of_elementName {chars : List Char} {space : Option String} {name : QName}
    (h : elementName chars space = .ok name) : name.space = space := by
  obtain ⟨-, p, rest, -, rfl, -⟩ := elementName_eq_ok h
  rfl

theorem isIn_of_elementName {chars : List Char} {space : Option String} {name : QName}
    (h : elementName chars space = .ok name) (uri : String) :
    name.isIn uri = true ↔ space = some uri := by
  rw [QName.isIn, space_of_elementName h, beq_iff_eq]

/-! ## Spilled elements -/

section

variable {options : Options} {d : Document} {tag : Tag}

theorem Spilled.isIn (h : Spilled options d tag) : tag.name.isIn options.space = true := by
  cases h with
  | source _ _ _ hname => exact (isIn_of_elementName hname _).mpr rfl
  | again _ _ _ hname => exact (isIn_of_elementName hname _).mpr rfl

/-- However often an element was expanded again, what spilled first stands in the sources. -/
theorem Spilled.origin (h : Spilled options d tag) :
    ∃ origin, Source options d origin ∧ Spills options origin := by
  induction h with
  | source _ hs hp _ => exact ⟨_, hs, hp⟩
  | again _ _ _ _ ih => exact ih

/-- Elements of the namespace of directives come from the sources or were spilled. -/
def Known (options : Options) (d : Document) (n : Node) : Prop :=
  ∀ tag ∈ n.tags, tag.name.isIn options.space = true → Source options d tag ∨ Spilled options d tag

/-- Elements of the namespace of directives were spilled. -/
def OnlySpilled (options : Options) (d : Document) (n : Node) : Prop :=
  ∀ tag ∈ n.tags, tag.name.isIn options.space = true → Spilled options d tag

theorem known_of_source {nodes : List Node}
    (h : ∀ tag ∈ Node.tagsAll nodes, Source options d tag) : Every (Known options d) nodes :=
  fun n hn tag ht _ => .inl (h tag (Node.mem_tagsAll.mpr ⟨n, hn, ht⟩))

theorem onlySpilled_element {content : List Node}
    (ht : tag.name.isIn options.space = true → Spilled options d tag)
    (hc : Every (OnlySpilled options d) content) :
    OnlySpilled options d (.element tag content) := by
  intro t hm
  rcases List.mem_cons.mp hm with rfl | hm
  · exact ht
  · obtain ⟨n, hn, hm⟩ := Node.mem_tagsAll.mp hm
    exact hc n hn t hm

theorem builds_onlySpilled
    (h : Source options d tag ∨ Spilled options d tag)
    (he : isDirective options tag "element" = true) :
    Builds options (OnlySpilled options d) tag := by
  intro chars space name attributes content hspace hname _ hc
  refine onlySpilled_element (fun hin => ?_) hc
  have hs : space = some options.space := (isIn_of_elementName hname _).mp hin
  subst hs
  -- Without the attribute no namespace is computed.
  have hspills : Spills options tag := by
    unfold ComputesSpace at hspace
    split at hspace
    · cases hspace
    · rename_i text htext
      obtain ⟨uri, huri, hcomputes⟩ := hspace
      cases huri
      exact ⟨he, text, htext, hcomputes⟩
  rcases h with h | h
  · exact .source attributes h hspills hname
  · exact .again attributes h hspills hname

/-- In all ways in which nodes come into a result, spilling is the only one into the namespace of
directives. -/
theorem spilling_expands (options : Options) (d : Document) :
    Expands options (Known options d) (OnlySpilled options d) where
  again h tag ht hin := .inr (h tag ht hin)
  child h n hn tag ht hin :=
    h tag (List.mem_cons_of_mem _ (Node.mem_tagsAll.mpr ⟨n, hn, ht⟩)) hin
  text _ _ ht := by cases ht
  leaf {n} hk _ tag ht := by
    cases n with
    | element => cases hk
    | _ => cases ht
  copy _ hn _ hc := onlySpilled_element (fun hin => by rw [hn] at hin; cases hin) hc
  build {tag _} h he := by
    refine builds_onlySpilled (h tag (List.mem_cons_self ..) ?_) he
    simp only [isDirective, QName.isNamed, Bool.and_eq_true] at he
    exact he.1
  instruction _ _ _ ht := by cases ht
  loaded {_ e} hl := known_of_source fun tag ht => by
    refine .included hl ?_
    obtain ⟨n, hn, ht⟩ := Node.mem_tagsAll.mp ht
    exact Node.mem_tagsAll.mpr ⟨n, (List.mem_filter.mp hn).1, ht⟩

/-- An element of a result that is in the namespace of directives was spilled. -/
theorem process_spilled {out : Document} (h : process options d = .ok out)
    (ht : tag ∈ Node.tagsAll out.children) (hin : tag.name.isIn options.space = true) :
    Spilled options d tag := by
  obtain ⟨n, hn, ht⟩ := Node.mem_tagsAll.mp ht
  have hd : Every (Known options d) d.children := known_of_source fun _ => .given
  rcases process_every (spilling_expands options d) hd h n hn with hn | ⟨value, -, rfl⟩
  · exact hn tag ht hin
  · cases ht

end

/-! ## Results -/

/-- The namespace that an `element` directive computes in a run from `s`: its name comes first. -/
def ComputesHere (options : Options) (deeper : Level) (tag : Tag) (s : State) (uri : String) :
    Prop :=
  ∃ text, tag.attribute? "namespace" = some text ∧
    ((interpolateText options deeper text).run
      ((expandedValue options deeper tag "name").run s).2).1 = .ok uri

theorem isIn_of_build {tag : Tag} {parts : Parts} {chars : List Char} {space : Option String}
    {s t : State} {nodes : List Node}
    (h : (do
      let name ← Expand.ofExcept (elementName chars space)
      let (attributes, children) ← parts.element
      return [.element { tag with name := name, attributes := attributes } children] :
        Expand (List Node)).run s = (.ok nodes, t)) :
    ∃ built content, nodes = [.element built content] ∧
      ∀ uri, built.name.isIn uri = true ↔ space = some uri := by
  obtain ⟨name, hname, h⟩ := Expand.of_run_bind h
  obtain ⟨⟨attributes, content⟩, -, h⟩ := Expand.of_run_bind h
  cases h
  refine ⟨{ tag with name := name, attributes := attributes }, content, rfl, ?_⟩
  cases he : elementName chars space with
  | error cause => rw [he] at hname; cases hname
  | ok result =>
    rw [he] at hname
    cases hname
    exact isIn_of_elementName he

/-- An `element` directive that succeeds gives one element, in the namespace that its attribute
computes, if it has one. -/
theorem isIn_of_elementDirective {options : Options} {deeper : Level} {tag : Tag} {parts : Parts}
    {s t : State} {nodes : List Node}
    (h : (elementDirective options deeper tag parts).run s = (.ok nodes, t)) :
    ∃ built content, nodes = [.element built content] ∧
      ∀ uri, built.name.isIn uri = true ↔ ComputesHere options deeper tag s uri := by
  obtain ⟨chars, -, h⟩ := Expand.of_run_bind h
  unfold ComputesHere
  cases htext : tag.attribute? "namespace" with
  | none =>
    rw [htext] at h
    obtain ⟨space, hspace, h⟩ := Expand.of_run_bind h
    cases hspace
    obtain ⟨built, content, hn, hin⟩ := isIn_of_build h
    refine ⟨built, content, hn, fun uri => ?_⟩
    rw [hin uri]
    simp
  | some text =>
    rw [htext] at h
    obtain ⟨value, hvalue, h⟩ := Expand.of_run_bind h
    obtain ⟨space, hspace, h⟩ := Expand.of_run_bind h
    cases hspace
    obtain ⟨built, content, hn, hin⟩ := isIn_of_build h
    refine ⟨built, content, hn, fun uri => ?_⟩
    rw [hin uri]
    simp [hvalue]

/-- **Directives in results.** A result is free of directives if and only if none of its elements
was spilled, and it is whenever no `element` directive of the sources spills. An `element`
directive that succeeds does give an element of the namespace of directives if that is what its
attribute expands to. -/
theorem directiveFree_iff_not_spilled {options : Options} {d out : Document}
    (h : process options d = .ok out) :
    (DirectiveFree options out.children ↔
      ∀ tag ∈ Node.tagsAll out.children, ¬ Spilled options d tag) ∧
    ((∀ tag, Source options d tag → ¬ Spills options tag) →
      DirectiveFree options out.children) ∧
    ∀ {deeper : Level} {tag : Tag} {parts : Parts} {s t : State} {nodes : List Node},
      (elementDirective options deeper tag parts).run s = (.ok nodes, t) →
      ComputesHere options deeper tag s options.space → ¬ DirectiveFree options nodes := by
  have hspilled {tag : Tag} (ht : tag ∈ Node.tagsAll out.children)
      (hnot : ¬ Spilled options d tag) : tag.name.isIn options.space = false :=
    Bool.eq_false_iff.mpr fun hin => hnot (process_spilled h ht hin)
  refine ⟨⟨fun hfree tag ht hs => ?_, fun hnone tag ht => hspilled ht (hnone tag ht)⟩,
    fun hnone tag ht => hspilled ht fun hs => ?_, fun hrun hc hfree => ?_⟩
  · have hin := hs.isIn
    rw [hfree tag ht] at hin
    cases hin
  · obtain ⟨origin, ho, hp⟩ := hs.origin
    exact hnone origin ho hp
  · obtain ⟨built, content, rfl, hin⟩ := isIn_of_elementDirective hrun
    have hb := hfree built (by simp [Node.tagsAll, Node.tags])
    rw [(hin options.space).mpr hc] at hb
    cases hb

/-- An `element` directive that names the namespace of directives. -/
def spilling : Tag :=
  ⟨⟨some "pp", "element", some defaultSpace⟩,
    [⟨.plain "name", "x"⟩, ⟨.plain "namespace", defaultSpace⟩], none, none⟩

/-- What it builds. -/
def spilled : Tag := ⟨⟨none, "x", some defaultSpace⟩, [], none, none⟩

/-- An element with one element in it. -/
def around (tag : Tag) : Document :=
  ⟨none, [.element ⟨.plain "r", [], none, none⟩ [.element tag []]]⟩

theorem process_spilling :
    process (.standard (Loader.ofTexts [])) (around spilling) = .ok (around spilled) :=
  rfl

/-- The directive is replaced by an element that is one again. -/
theorem process_not_directiveFree :
    ¬ ∀ (options : Options) (d out : Document), process options d = .ok out →
      DirectiveFree options out.children := by
  intro h
  have hfree := h _ _ _ process_spilling
  have hin := hfree spilled (by simp [around, Node.tagsAll, Node.tags])
  revert hin
  decide

theorem directiveFree_iff_not_spilled_around :
    process (.standard (Loader.ofTexts [])) (around spilling) = .ok (around spilled) ∧
    ¬ ∀ tag ∈ Node.tagsAll (around spilled).children,
      ¬ Spilled (.standard (Loader.ofTexts [])) (around spilling) tag := by
  refine ⟨process_spilling, fun hnone => ?_⟩
  have hfree := (directiveFree_iff_not_spilled process_spilling).1.mpr hnone
  have hin := hfree spilled (by simp [around, Node.tagsAll, Node.tags])
  revert hin
  decide

end XmlTemplate.Expansion
