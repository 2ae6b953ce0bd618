import XmlTemplate.Proofs.Markup.Writable

/-!
# Writing a tree and reading it

A tree that was detached from the declarations it was read with is written with the declarations
that it lacks, and what is read again is the tree with these.

* `Node.bare`: a tree without the places that its tags were read from.
* `Builder.add`: one more node where the builder stands.
* `after_written`: a writable node is read as its repaired form, wherever the bindings of the
  writer agree with the scope of the reader.
* `parse_print_of_writable`: the same for a whole document.
-/

namespace XmlTemplate.Markup

/-! ## Trees without places -/

/-- A tag without the place it was read from. -/
def Tag.bare (tag : Tag) : Tag := { tag with position := none, document := none }

theorem name_eq_of_bare {t u : Tag} (h : t.bare = u.bare) : t.name = u.name := by
  have hname : t.bare.name = u.bare.name := by rw [h]
  exact hname

namespace Node

mutual

/-- A tree without the places that its tags were read from. -/
def bare : Node → Node
  | .element tag children => .element tag.bare (bareAll children)
  | n => n

/-- Siblings without these places. -/
def bareAll : List Node → List Node
  | [] => []
  | node :: rest => node.bare :: bareAll rest

end

theorem map_text?_bareAll (nodes : List Node) :
    (bareAll nodes).map text? = nodes.map text? := by
  induction nodes with
  | nil => rfl
  | cons n rest ih =>
    have hn : n.bare.text? = n.text? := by cases n <;> rfl
    rw [bareAll, List.map_cons, List.map_cons, hn, ih]

theorem map_text?_repairAll (bindings : Bindings) (nodes : List Node) :
    (repairAll bindings nodes).map text? = nodes.map text? := by
  induction nodes with
  | nil => rfl
  | cons n rest ih =>
    have hn : (n.repair bindings).text? = n.text? := by cases n <;> rfl
    rw [repairAll, List.map_cons, List.map_cons, hn, ih]

end Node

/-! ## Neighbours -/

/-- What a list begins with decides it whether a text may stand in front of it. -/
theorem head?_text?_eq {ns ms : List Node} (h : ns.map Node.text? = ms.map Node.text?) :
    ns.head?.bind Node.text? = ms.head?.bind Node.text? := by
  cases ns with
  | nil =>
    cases ms with
    | nil => rfl
    | cons m rest => cases h
  | cons n rest =>
    cases ms with
    | nil => cases h
    | cons m others => exact (List.cons.inj h).1

theorem Apart.congr {ns ms : List Node} (h : ns.map Node.text? = ms.map Node.text?)
    (ha : Apart ns) : Apart ms := by
  induction ns generalizing ms with
  | nil =>
    cases ms with
    | nil => trivial
    | cons m rest => cases h
  | cons n rest ih =>
    cases ms with
    | nil => cases h
    | cons m others =>
      obtain ⟨hn, hr⟩ := List.cons.inj h
      obtain ⟨hfirst, hrest⟩ := ha
      refine ⟨?_, ih hr hrest⟩
      rw [← hn, ← head?_text?_eq hr]
      exact hfirst

theorem pushNode_of_not_text {nodes : List Node} {n : Node}
    (h : n.text? = none ∨ nodes.head?.bind Node.text? = none) : pushNode nodes n = n :: nodes := by
  unfold pushNode
  split
  · rcases h with h | h <;> cases h
  · rfl

/-- Nodes of which no two are joined are kept as they come. -/
theorem foldl_pushNode {ns before : List Node} (h : Apart ns)
    (hb : ns.head?.bind Node.text? = none ∨ before.head?.bind Node.text? = none) :
    ns.foldl pushNode before = ns.reverse ++ before := by
  induction ns generalizing before with
  | nil => rfl
  | cons n rest ih =>
    obtain ⟨hn, hr⟩ := h
    have hpush : pushNode before n = n :: before := pushNode_of_not_text hb
    have hrest : rest.foldl pushNode (n :: before) = rest.reverse ++ n :: before :=
      ih hr (hn.symm.imp id fun h => h)
    rw [List.foldl_cons, hpush, hrest]
    simp

/-! ## One more node -/

namespace Builder

/-- One more node at the innermost level. A text joins the text before it. -/
def add (b : Builder) (n : Node) : Builder :=
  match b.opened with
  | e :: rest => { b with opened := { e with children := pushNode e.children n } :: rest }
  | [] => { b with top := pushNode b.top n }

variable {b : Builder}

theorem add_eq_push {n : Node} (h : n.text? = none) : b.add n = b.push n := by
  unfold add push
  split <;> simp only [pushNode_of_not_text (.inl h), *]

theorem scope_add (b : Builder) (n : Node) : (b.add n).scope = b.scope := by
  unfold add
  split <;> rename_i h <;> simp only [scope, h]

/-- Nodes do not change what is in force behind them. -/
theorem agrees_add {bindings : Bindings} (h : Agrees bindings b.scope) (n : Node) :
    Agrees bindings (b.add n).scope := by
  rwa [scope_add]

/-- Nodes are added to the children of the element that is open. -/
theorem foldl_add_opened (e : OpenElement) (rest : List OpenElement) (top ns : List Node) :
    ns.foldl add ⟨e :: rest, top⟩ =
      ⟨{ e with children := ns.foldl pushNode e.children } :: rest, top⟩ := by
  induction ns generalizing e with
  | nil => rfl
  | cons n others ih =>
    rw [List.foldl_cons, List.foldl_cons, add, ih]

end Builder

/-! ## Nodes read again -/

section Read

open Builder

variable {bindings : Bindings} {b : Builder}

/-- A leaf that is no text is read as it is. -/
theorem after_leaf {n : Node} {s : List Char} (ht : n.text? = none) (hr : n.repair bindings = n)
    (h : b.After s (· = b.push n)) :
    b.After s fun b' => ∃ m : Node, m.bare = (n.repair bindings).bare ∧ b' = b.add m :=
  h.mono fun b' hb => ⟨n, by rw [hr], by rw [hb, add_eq_push ht]⟩

theorem after_writable_instruction {target data : String} (h : InstructionParts target data) :
    b.After (Event.instruction (instructionText target data)).source.toList
      (· = b.push (.instruction target data)) := by
  have hplain : Plain target.toList := plain_of_isNCName h.name
  have hspace : ∀ c ∈ target.toList, isSpace c = false := fun c hc => hplain.not_isSpace hc
  have hmark : ∀ c ∈ target.toList, c ≠ '?' := fun c hc => hplain.ne hc rfl
  have hcontains : Text.contains ['?', '>'] (instructionText target data).toList = false := by
    rw [toList_instructionText, contains_append_of_ne hmark]
    split
    · rfl
    · simp [Text.contains, List.isPrefixOf, h.inside]
  have hhead : (instructionText target data).toList.head? ≠ some '>' := by
    obtain ⟨c, r, hr⟩ := List.exists_cons_of_ne_nil (ne_nil_of_isNCName h.name)
    have hc : c ≠ '>' := hplain.ne (by rw [hr]; exact List.mem_cons_self ..) rfl
    rw [toList_instructionText, hr]
    simpa using hc
  have hafter := after_instruction (b := b) (Token.legible_instruction hhead hcontains)
    (declarationText?_eq_none hspace h.notXml)
  rwa [readInstruction_eq h.toDivided] at hafter

/-- A tag that is read where the bindings agree with the scope. -/
theorem readTag_writable {tag : Tag} (h : tag.Writable) {scope : Scope}
    (hs : Agrees bindings scope) (place : Place) :
    ∃ read scope', readTag scope place (writtenTag bindings tag) = .ok (read, scope') ∧
      read.bare = ({ tag with attributes := writtenAttributes bindings tag } : Tag).bare ∧
      Agrees (repairs bindings tag).1 scope' := by
  obtain ⟨scope', hagree, hread⟩ := readTag_inside h.proper hs h.readable place
  refine ⟨_, scope', hread, ?_, hagree⟩
  simp only [Tag.bare, h.resolve_name, h.resolve_attributes]

/-- An element without content. -/
theorem after_empty {tag : Tag} (h : tag.Writable) (hs : Agrees bindings b.scope) :
    b.After (Token.empty (writtenTag bindings tag)).source fun b' =>
      ∃ read : Tag,
        read.bare = ({ tag with attributes := writtenAttributes bindings tag } : Tag).bare ∧
        b' = b.add (.element read []) := by
  refine after_token (legible_writtenTag h.proper).2 trivial fun place => ?_
  obtain ⟨read, scope', hread, hbare, -⟩ := readTag_writable h hs place
  exact ⟨_, .empty hread, read, hbare, (add_eq_push rfl).symm⟩

/-- The start tag of an element. -/
theorem after_start {tag : Tag} (h : tag.Writable) (hs : Agrees bindings b.scope) :
    b.After (Token.start (writtenTag bindings tag)).source fun b' =>
      ∃ read scope',
        Tag.bare read = ({ tag with attributes := writtenAttributes bindings tag } : Tag).bare ∧
        Agrees (repairs bindings tag).1 scope' ∧ b' = ⟨⟨read, scope', []⟩ :: b.opened, b.top⟩ := by
  refine after_token (legible_writtenTag h.proper).1 trivial fun place => ?_
  obtain ⟨read, scope', hread, hbare, hagree⟩ := readTag_writable h hs place
  exact ⟨_, .start hread, read, scope', hbare, hagree, rfl⟩

/-- The end tag of an element, behind its children. -/
theorem after_end {name : QName} {read : Tag} {scope : Scope} {ms : List Node} (hn : name.Proper)
    (hread : read.name = name) (hms : Apart ms) :
    (ms.foldl Builder.add ⟨⟨read, scope, []⟩ :: b.opened, b.top⟩).After
      (sources [.finish name.qualified]) (· = b.add (.element read ms)) := by
  have hchildren : ms.foldl pushNode [] = ms.reverse := by
    rw [foldl_pushNode hms (.inr rfl), List.append_nil]
  have hname := congrArg QName.qualified hread
  rw [Builder.foldl_add_opened, hchildren, sources_cons, source_finish]
  refine (after_finish hn hname).append fun b' hb => .nil ?_
  rw [hb, Builder.add_eq_push rfl, List.reverse_reverse]

end Read

namespace Node

mutual

/-- A writable node is read as its repaired form. -/
theorem after_written (bindings : Bindings) : ∀ (n : Node) (b : Builder), n.Writable →
    Agrees bindings b.scope → b.After (sources (n.written bindings)) fun b' =>
      ∃ m : Node, m.bare = (n.repair bindings).bare ∧ b' = b.add m
  | .element tag children, b, h, hs => by
    obtain ⟨ht, ha, hc⟩ := h
    rw [written]
    split
    · rename_i hnil
      obtain rfl : children = [] := List.isEmpty_iff.mp hnil
      rw [sources_cons, source_empty]
      refine (after_empty ht hs).append fun b' ⟨read, hbare, hb⟩ => .nil ?_
      exact ⟨.element read [], by simp only [bare, repair, hbare, repairAll, bareAll], hb⟩
    · rw [sources_cons, source_start, sources_append]
      refine (after_start ht hs).append fun b₁ ⟨read, scope', hbare, hagree, hb₁⟩ => ?_
      subst hb₁
      refine (afterAll_written _ children _ hc hagree).append fun b₂ ⟨ms, hms, hb₂⟩ => ?_
      subst hb₂
      have htexts : children.map Node.text? = ms.map Node.text? := by
        rw [← map_text?_bareAll ms, hms, map_text?_bareAll, map_text?_repairAll]
      have hname := name_eq_of_bare hbare
      refine (after_end ht.name.proper hname (ha.congr htexts)).mono fun b₃ hb₃ =>
        ⟨.element read ms, ?_, hb₃⟩
      simp only [bare, repair, hbare, hms]
  | .text value, b, h, _ => by
    rw [written, sources_cons]
    refine (Builder.after_text h).append fun b' hb => .nil ⟨.text value, rfl, hb⟩
  | .cdata value, b, h, _ => by
    rw [written, sources_cons]
    exact (after_leaf rfl rfl (after_cdata h)).append fun b' hb => .nil hb
  | .comment value, b, h, _ => by
    rw [written, sources_cons]
    exact (after_leaf rfl rfl (after_comment h)).append fun b' hb => .nil hb
  | .instruction target data, b, h, _ => by
    rw [written, sources_cons]
    exact (after_leaf rfl rfl (after_writable_instruction h)).append fun b' hb => .nil hb
  | .doctype value, b, h, _ => by
    rw [written, sources_cons]
    exact (after_leaf rfl rfl (after_doctype h)).append fun b' hb => .nil hb
  | .reference name, b, h, _ => by
    rw [written, sources_cons]
    exact (after_leaf rfl rfl (after_reference h)).append fun b' hb => .nil hb
  | .declaration _, _, h, _ => h.elim

/-- Writable siblings are read as their repaired forms, one after the other. -/
theorem afterAll_written (bindings : Bindings) : ∀ (nodes : List Node) (b : Builder),
    WritableAll nodes → Agrees bindings b.scope →
    b.After (sources (writtenAll bindings nodes)) fun b' =>
      ∃ ms, bareAll ms = bareAll (repairAll bindings nodes) ∧ b' = ms.foldl Builder.add b
  | [], _, _, _ => .nil ⟨[], rfl, rfl⟩
  | node :: rest, b, h, hs => by
    rw [writtenAll, sources_append]
    refine (after_written bindings node b h.1 hs).append fun b₁ ⟨m, hm, hb₁⟩ => ?_
    have hs₁ : Agrees bindings b₁.scope := hb₁ ▸ Builder.agrees_add hs m
    refine (afterAll_written bindings rest b₁ h.2 hs₁).mono fun b₂ ⟨ms, hms, hb₂⟩ => ?_
    exact ⟨m :: ms, by simp only [bareAll, repairAll, hm, hms], by rw [hb₂, hb₁]; rfl⟩

end

end Node

/-! ## Documents -/

theorem head?_sources_element (bindings : Bindings) (tag : Tag) (children : List Node) :
    (sources ((Node.element tag children).written bindings)).head? = some '<' := by
  rw [Node.written]
  split
  · rw [sources_cons, source_empty]
    rfl
  · rw [sources_cons, source_start]
    rfl

theorem isSome_element?_bare (n : Node) : n.bare.element?.isSome = n.element?.isSome := by
  cases n <;> rfl

/-- A builder that has an element at the top level and none open is a document. -/
theorem finish_add {m : Node} (hm : m.element?.isSome = true) (before : List Node)
    (uri : Option Uri) :
    Builder.finish (Builder.add ⟨[], before⟩ m) uri = .ok ⟨uri, before.reverse ++ [m]⟩ := by
  have htext : m.text? = none := by
    cases m <;> first | rfl | cases hm
  have hrooted : Builder.Rooted ⟨[], m :: before⟩ := ⟨m, List.mem_cons_self .., hm⟩
  rw [Builder.add_eq_push htext]
  exact Builder.finish_eq_ok_iff.mpr ⟨rfl, hrooted, by simp [Builder.push]⟩

/-- A writable element is read from what is written of it, with the declarations that its tags
lacked and nothing else. -/
theorem parse_of_sources {tag : Tag} {children : List Node}
    (h : (Node.element tag children).Writable) {text : String} {declaration : Bool}
    (ht : text.toList = sources ((if declaration then [.declaration .standard] else []) ++
      (Node.element tag children).written [])) (uri : Option Uri) :
    ∃ d, Document.parse text uri = .ok d ∧ d.uri = uri ∧
      Node.bareAll d.children = (if declaration then [.declaration .standard] else []) ++
        [((Node.element tag children).repair []).bare] := by
  have hread (before : List Node) :=
    Node.after_written [] (.element tag children) ⟨[], before⟩ h Agrees.initial
  have hstart : Builder.start.After text.toList fun b => ∃ m : Node,
      m.bare = ((Node.element tag children).repair []).bare ∧
        b = Builder.add ⟨[], if declaration then [.declaration .standard] else []⟩ m := by
    rw [ht]
    cases declaration with
    | false => exact hread []
    | true =>
      rw [if_pos rfl, List.singleton_append, sources_cons]
      exact after_standard.append fun b hb => hb ▸ hread _
  have hmark : text.toList.head? ≠ some '\ufeff' := by
    rw [ht]
    cases declaration with
    | false => simp [head?_sources_element]
    | true => simp [sources_cons, source_declaration, Token.source]
  obtain ⟨b, ⟨m, hm, rfl⟩, hparse⟩ := Builder.parse_of_after hstart hmark uri
  have hsome : m.element?.isSome = true := by
    rw [← isSome_element?_bare, hm]
    rfl
  refine ⟨_, hparse.trans (finish_add hsome _ uri), rfl, ?_⟩
  cases declaration <;> simp [Node.bareAll, Node.bare, hm]

/-- A writable element that is written without line breaks, on its own or as a document, is read
as the same tree with the declarations that its tags lacked. -/
theorem parse_print_of_writable {tag : Tag} {children : List Node}
    (h : (Node.element tag children).Writable) (uri : Option Uri) :
    ∃ m : Node, Node.Repaired [] (.element tag children) m ∧
      (∃ d, Document.parse (printNodes none [.element tag children]) uri = .ok d ∧ d.uri = uri ∧
        Node.bareAll d.children = [m.bare]) ∧
      ∀ origin declaration, ∃ d,
        Document.parse ((Document.mk origin [.element tag children]).print ⟨none, declaration⟩)
          uri = .ok d ∧ d.uri = uri ∧
        Node.bareAll d.children =
          (if declaration then [.declaration .standard] else []) ++ [m.bare] := by
  refine ⟨_, Node.repaired_repair [] _ h, ?_, fun origin declaration => ?_⟩
  · obtain ⟨fs, -, -, hfs, ht⟩ := toList_printNodes none [.element tag children]
    rw [hfs rfl, Node.writtenAll, Node.writtenAll, List.append_nil] at ht
    exact @parse_of_sources tag children h _ false ht uri
  · obtain ⟨fs, -, hfs, ht⟩ := toList_print ⟨origin, [.element tag children]⟩ ⟨none, declaration⟩
    have hevents : (Document.mk origin [.element tag children]).events declaration =
        (if declaration then [.declaration .standard] else []) ++
          (Node.element tag children).written [] := by
      have hcontent :
          Node.events [.element tag children] = (Node.element tag children).written [] := by
        rw [Node.events_eq, Node.writtenAll, Node.writtenAll, List.append_nil]
      rw [← hcontent]
      rfl
    rw [hfs rfl, hevents] at ht
    exact parse_of_sources h ht uri

/-- A tree in which a prefix and the default namespace change their meaning twice, and in which
nothing is declared. -/
def detached : Node :=
  .element ⟨⟨some "a", "r", some "urn:1"⟩, [⟨⟨some "b", "k", some "urn:2"⟩, "1 < 2"⟩], none, none⟩
    [.text "x & y",
      .element ⟨⟨none, "c", some "urn:3"⟩, [], none, none⟩
        [.element ⟨⟨some "a", "d", some "urn:4"⟩, [], none, none⟩ [],
          .element ⟨⟨none, "e", none⟩, [], none, none⟩ [.comment "note"]]]

theorem parse_print_of_detached :
    detached.Writable ∧ ∃ m : Node, Node.Repaired [] detached m ∧
      (∃ d, Document.parse (printNodes none [detached]) none = .ok d ∧ d.uri = none ∧
        Node.bareAll d.children = [m.bare]) ∧
      ∀ origin declaration, ∃ d,
        Document.parse ((Document.mk origin [detached]).print ⟨none, declaration⟩) none = .ok d ∧
          d.uri = none ∧
          Node.bareAll d.children =
            (if declaration then [.declaration .standard] else []) ++ [m.bare] := by
  have hk : QName.Writable ⟨some "b", "k", some "urn:2"⟩ :=
    .of_space (by decide) (by decide) (by decide)
  have hr : Tag.Writable ⟨⟨some "a", "r", some "urn:1"⟩,
      [⟨⟨some "b", "k", some "urn:2"⟩, "1 < 2"⟩], none, none⟩ := by
    refine ⟨.of_space (by decide) (by decide) (by decide), fun a ha => ?_, by decide, by decide,
      by decide⟩
    rw [List.mem_singleton.mp ha]
    exact .plain hk fun h => by cases h
  have hc : QName.Writable ⟨none, "c", some "urn:3"⟩ :=
    .of_space (by decide) (by decide) (by decide)
  have hd : QName.Writable ⟨some "a", "d", some "urn:4"⟩ :=
    .of_space (by decide) (by decide) (by decide)
  have he : QName.Writable ⟨none, "e", none⟩ := .of_plain (by decide)
  have h : detached.Writable := by
    have htext : "x & y" ≠ "" := by decide
    refine ⟨hr, by simp [Apart, Node.text?], htext, ⟨.of_name hc _ _, ?_⟩, trivial⟩
    refine ⟨by simp [Apart, Node.text?], ⟨.of_name hd _ _, trivial, trivial⟩, ?_, trivial⟩
    refine ⟨.of_name he _ _, by simp [Apart], ?_, trivial⟩
    show Text.contains ['-', '-', '>'] "note".toList = false
    decide
  exact ⟨h, parse_print_of_writable h none⟩

example : printNodes none [detached] =
    "<a:r b:k=\"1 &lt; 2\" xmlns:a=\"urn:1\" xmlns:b=\"urn:2\">x &amp; y" ++
      "<c xmlns=\"urn:3\"><a:d xmlns:a=\"urn:4\"/><e xmlns=\"\"><!--note--></e></c></a:r>" := by
  decide +kernel

end XmlTemplate.Markup
