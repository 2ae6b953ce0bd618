import XmlTemplate.Proofs.Markup.Acceptance
import XmlTemplate.Proofs.Markup.Original

/-!
# What is read again

A tree that was read once is written, and what is read of that is described: the tags have the
declarations that the writer added, and their names mean what these say.

* `Node.reread bindings n`: what is read of `n` where it is written and `bindings` are in force.
* `Node.Undeclared`: trees in which no instruction is taken for a declaration.
* `Rereads`: what a builder comes to by nodes that are written. `after_reread` says that it does,
  for trees that were read and are read back.
* `Document.Rereads`: the same for the content of a document.
-/

namespace XmlTemplate.Markup

/-! ## Trees that are read again -/

/-- What is read of a tag where it is written and `bindings` are in force. -/
def Tag.reread (bindings : Bindings) (tag : Tag) : Tag :=
  { tag with
    name := (repairs bindings tag).1.resolve tag.name
    attributes := (writtenAttributes bindings tag).map (repairs bindings tag).1.resolveAttribute }

namespace Node

mutual

/-- What is read of a tree there. -/
def reread (bindings : Bindings) : Node → Node
  | .element tag children =>
    .element (tag.reread bindings) (rereadAll (repairs bindings tag).1 children)
  | n => n

/-- What is read of siblings. -/
def rereadAll (bindings : Bindings) : List Node → List Node
  | [] => []
  | node :: rest => node.reread bindings :: rereadAll bindings rest

end

theorem bareAll_eq_map (nodes : List Node) : bareAll nodes = nodes.map bare := by
  induction nodes with
  | nil => rfl
  | cons n rest ih => rw [bareAll, ih, List.map_cons]

theorem rereadAll_eq_map (bindings : Bindings) (nodes : List Node) :
    rereadAll bindings nodes = nodes.map (reread bindings) := by
  induction nodes with
  | nil => rfl
  | cons n rest ih => rw [rereadAll, ih, List.map_cons]

theorem map_text?_rereadAll (bindings : Bindings) (nodes : List Node) :
    (rereadAll bindings nodes).map text? = nodes.map text? := by
  rw [rereadAll_eq_map, List.map_map]
  refine List.map_congr_left fun n _ => ?_
  cases n <;> rfl

/-- Trees without places have the texts that they had. -/
theorem map_text?_eq {ns ms : List Node} (h : bareAll ns = bareAll ms) :
    ns.map text? = ms.map text? := by
  rw [← map_text?_bareAll ns, h, map_text?_bareAll]

/-! ## Instructions that are taken for declarations -/

/-- An instruction with another target than `xml`, or any other leaf. -/
def UndeclaredLeaf : Node → Prop
  | .instruction target _ => target ≠ "xml"
  | _ => True

/-- A tree in which no instruction is taken for a declaration. -/
def Undeclared (n : Node) : Prop := n.All (fun _ => True) UndeclaredLeaf

mutual

theorem undeclared_bare : ∀ n : Node, n.bare.Undeclared ↔ n.Undeclared
  | .element _ children => and_congr_right' (undeclaredAll_bare children)
  | .text _ | .cdata _ | .comment _ | .instruction .. | .doctype _ | .reference _
  | .declaration _ => Iff.rfl

theorem undeclaredAll_bare : ∀ nodes : List Node,
    AllOf (fun _ => True) UndeclaredLeaf (bareAll nodes) ↔
      AllOf (fun _ => True) UndeclaredLeaf nodes
  | [] => Iff.rfl
  | node :: rest => and_congr (undeclared_bare node) (undeclaredAll_bare rest)

end

theorem undeclared_of_bareAll {ns ms : List Node} (h : bareAll ns = bareAll ms)
    (hn : ∀ n ∈ ns, n.Undeclared) : ∀ m ∈ ms, m.Undeclared := by
  have hall := (undeclaredAll_bare ns).mpr (allOf_iff.mpr hn)
  rw [h, undeclaredAll_bare] at hall
  exact allOf_iff.mp hall

end Node

namespace Builder

/-! ## One more node -/

section Add

variable {b : Builder}

theorem outline_add (b : Builder) (n : Node) : (b.add n).outline = b.outline := by
  unfold add outline
  split
  · rename_i h
    rw [h]
    rfl
  · rfl

theorem holds_add {Q : Tag → Prop} {L : Node → Prop} (hL : ∀ v, L (.text v)) {n : Node}
    (hn : n.All Q L) (h : b.Holds Q L) : (b.add n).Holds Q L := by
  cases ht : n.text? with
  | none =>
    rw [add_eq_push ht]
    exact holds_push.mpr ⟨hn, h⟩
  | some v =>
    cases n <;> cases ht
    exact (holds_pushText hL).mpr h

/-- Nodes are added at the top level. -/
theorem foldl_add_top (top ns : List Node) :
    ns.foldl add ⟨[], top⟩ = ⟨[], ns.foldl pushNode top⟩ := by
  induction ns generalizing top with
  | nil => rfl
  | cons n others ih => rw [List.foldl_cons, List.foldl_cons, add, ih]

end Add

/-- No instruction that was read so far is taken for a declaration. -/
def Undeclared (b : Builder) : Prop := b.Holds (fun _ => True) Node.UndeclaredLeaf

/-! ## What is read -/

/-- What becomes of a builder when nodes are read that were written where `bindings` are in force:
they are added as they are read again, unless one of them is taken for a declaration. None is read
as an instruction that would be. -/
structure Rereads (bindings : Bindings) (nodes : List Node) (b b' : Builder) : Prop where
  outline : b'.outline = b.outline
  undeclared : b.Undeclared → b'.Undeclared
  adds : (∀ n ∈ nodes, n.Undeclared) →
    ∃ ms, Node.bareAll ms = Node.bareAll (Node.rereadAll bindings nodes) ∧ b' = ms.foldl add b

namespace Rereads

variable {bindings : Bindings} {b b' b'' : Builder}

theorem nil (b : Builder) : Rereads bindings [] b b := ⟨rfl, id, fun _ => ⟨[], rfl, rfl⟩⟩

theorem scope {nodes : List Node} (h : Rereads bindings nodes b b') : b'.scope = b.scope := by
  rw [scope_eq, scope_eq, h.outline]

theorem append {nodes rest : List Node} (h : Rereads bindings nodes b b')
    (h' : Rereads bindings rest b' b'') : Rereads bindings (nodes ++ rest) b b'' where
  outline := h'.outline.trans h.outline
  undeclared hb := h'.undeclared (h.undeclared hb)
  adds hn := by
    obtain ⟨hfirst, hrest⟩ := List.forall_mem_append.mp hn
    obtain ⟨ms, hms, rfl⟩ := h.adds hfirst
    obtain ⟨ms', hms', rfl⟩ := h'.adds hrest
    refine ⟨ms ++ ms', ?_, (List.foldl_append ..).symm⟩
    rw [Node.bareAll_eq_map, Node.bareAll_eq_map, Node.rereadAll_eq_map] at hms hms' ⊢
    rw [List.map_append, hms, hms', List.map_append, List.map_append]

/-- A node that is read as `m`. -/
theorem add {n m : Node} (hm : m.bare = (n.reread bindings).bare) (hn : m.Undeclared)
    (hb : b' = b.add m) : Rereads bindings [n] b b' where
  outline := by rw [hb, outline_add]
  undeclared h := by
    rw [hb]
    exact holds_add (fun _ => trivial) hn h
  adds _ := ⟨[m], by simp only [Node.bareAll, Node.rereadAll, hm], hb⟩

/-- An instruction that is taken for a declaration. -/
theorem declaration (data : String) (d : Declaration) :
    Rereads bindings [.instruction "xml" data] b { b with top := .declaration d :: b.top } where
  outline := rfl
  undeclared h := ⟨h.1, List.forall_mem_cons.mpr ⟨trivial, h.2⟩⟩
  -- It would go to the top level, whatever is open.
  adds hn := absurd rfl (hn _ (List.mem_cons_self ..))

/-- An element whose content was read. -/
theorem close {tag read : Tag} {scope : Scope} {children : List Node}
    (hread : read.bare = (tag.reread bindings).bare) (ha : Apart children)
    (h : Rereads (repairs bindings tag).1 children ⟨⟨read, scope, []⟩ :: b.opened, b.top⟩ b') :
    ∃ e rest, b' = ⟨e :: rest, b'.top⟩ ∧ e.tag.name.qualified = tag.name.qualified ∧
      Rereads bindings [.element tag children] b
        (push ⟨rest, b'.top⟩ (.element e.tag e.children.reverse)) := by
  obtain ⟨e, rest, hb', hname, hrest⟩ := exists_of_outline_eq_cons h.outline
  obtain ⟨opened, top⟩ := b'
  cases hb'
  have hqualified : read.name.qualified = tag.name.qualified := by
    rw [@name_eq_of_bare read (tag.reread bindings) hread]
    rfl
  refine ⟨e, rest, rfl, hname.trans hqualified, ?_, fun hb => ?_, fun hn => ?_⟩
  · rw [outline_push]
    exact hrest
  · refine holds_close.mpr (h.undeclared ⟨?_, hb.2⟩)
    exact List.forall_mem_cons.mpr ⟨⟨trivial, fun _ hm => (List.not_mem_nil hm).elim⟩, hb.1⟩
  · have hchildren := Node.allOf_iff.mp (hn _ (List.mem_cons_self ..)).2
    obtain ⟨ms, hms, hb⟩ := h.adds hchildren
    -- No two texts are neighbours, so the children are added as they come.
    have htexts : children.map Node.text? = ms.map Node.text? := by
      rw [Node.map_text?_eq hms, Node.map_text?_rereadAll]
    rw [foldl_add_opened, foldl_pushNode (ha.congr htexts) (.inr rfl), List.append_nil] at hb
    cases hb
    refine ⟨[.element read ms], ?_, ?_⟩
    · simp only [Node.bareAll, Node.rereadAll, Node.bare, Node.reread, hread, hms]
    · rw [List.reverse_reverse]
      exact (add_eq_push rfl).symm

end Rereads

end Builder

/-! ## Leaves and tags -/

section Read

open Builder

variable {bindings : Bindings} {b : Builder}

theorem after_event {e : Event} {P : Builder → Prop} (h : b.After e.source.toList P) :
    b.After (sources [e]) P := by
  rw [sources_cons]
  exact h.append fun b' hb => .nil hb

/-- A leaf that is read as it is. -/
theorem after_leaf_reread {e : Event} (n : Node) (ht : n.text? = none)
    (hr : n.reread bindings = n) (hn : n.Undeclared) (h : b.After e.source.toList (· = b.push n)) :
    b.After (sources [e]) (Rereads bindings [n] b ·) :=
  after_event (h.mono fun b' hb => .add (by rw [hr]) hn (by rw [hb, add_eq_push ht]))

theorem after_instruction_reread {target data : String} (ht : InstructionText target data)
    (hd : Divided target data)
    (hr : target = "xml" → ∃ d, readDeclaration (afterTarget data) = .ok d) :
    b.After (sources [.instruction (instructionText target data)])
      (Rereads bindings [.instruction target data] b ·) := by
  have hl := Token.legible_instruction ht.opening ht.inside
  by_cases hx : target = "xml"
  · subst hx
    obtain ⟨d, hd⟩ := hr rfl
    refine after_event ?_
    rw [source_instruction]
    exact after_token hl trivial fun place =>
      ⟨_, .declaration (declarationText?_xml data) hd, .declaration data d⟩
  · have hafter := after_instruction (b := b) hl (declarationText?_eq_none ht.solid hx)
    rw [readInstruction_eq hd] at hafter
    exact after_leaf_reread (.instruction target data) rfl rfl hx hafter

/-- A doctype that is not blank. -/
theorem doctypeText_of_readBack {v : String} (hb : Balanced v.toList)
    (ht : Text.trim v.toList = v.toList) (hr : ∃ c ∈ v.toList, isSpace c = false) :
    DoctypeText v where
  balanced := hb
  trimmed := ht
  named := by
    rintro rfl
    obtain ⟨c, hc, -⟩ := hr
    cases hc

theorem after_declaration {d read : Declaration} (h : DeclarationText d)
    (hr : readDeclaration (sourceOfAll d.parts) = .ok read) :
    b.After (Event.declaration d).source.toList
      (· = { b with top := .declaration read :: b.top }) := by
  have hl : Token.Legible (.instruction ("xml".toList ++ sourceOfAll d.parts)) :=
    Token.legible_instruction (by simp) h
  rw [source_declaration]
  exact after_token hl trivial fun place =>
    ⟨_, .declaration (declarationText?_parts d) hr, rfl⟩

/-- An element without content. -/
theorem after_empty_reread {tag : Tag} (h : tag.Proper) (hr : tag.Readable bindings)
    (hs : Agrees bindings b.scope) :
    b.After (Token.empty (writtenTag bindings tag)).source
      (Rereads bindings [.element tag []] b ·) := by
  refine after_token (legible_writtenTag h).2 trivial fun place => ?_
  obtain ⟨scope', -, hread⟩ := readTag_inside h hs hr place
  refine ⟨_, .empty hread, .add ?_ ?_ (add_eq_push (n := .element _ []) rfl).symm⟩
  · rfl
  · exact ⟨trivial, trivial⟩

/-- The start tag of an element. -/
theorem after_start_reread {tag : Tag} (h : tag.Proper) (hr : tag.Readable bindings)
    (hs : Agrees bindings b.scope) :
    b.After (Token.start (writtenTag bindings tag)).source fun b' =>
      ∃ read scope', Tag.bare read = (tag.reread bindings).bare ∧
        Agrees (repairs bindings tag).1 scope' ∧ b' = ⟨⟨read, scope', []⟩ :: b.opened, b.top⟩ := by
  refine after_token (legible_writtenTag h).1 trivial fun place => ?_
  obtain ⟨scope', hagree, hread⟩ := readTag_inside h hs hr place
  refine ⟨_, .start hread, _, scope', ?_, hagree, rfl⟩
  rfl

end Read

/-! ## Trees -/

namespace Node

mutual

/-- A tree that was read and is read back is read as described. What was declared when it was read
need not be what is in force where it is written: the writer may have added declarations. -/
theorem after_reread (outer bindings : Bindings) : ∀ (n : Node) (b : Builder), n.Sound →
    n.Original outer → n.ReadBack bindings → Agrees bindings b.scope →
    b.After (sources (n.written bindings)) (Builder.Rereads bindings [n] b ·)
  | .element tag children, b, h, ho, hr, hs => by
    obtain ⟨ht, hc⟩ := h
    obtain ⟨-, ha, ho⟩ := ho
    obtain ⟨hr, hrc⟩ := hr
    rw [written]
    split
    · rename_i hnil
      obtain rfl : children = [] := List.isEmpty_iff.mp hnil
      rw [sources_cons, source_empty]
      exact (after_empty_reread ht hr hs).append fun b' hb => .nil hb
    · rw [sources_cons, source_start, sources_append]
      refine (after_start_reread ht hr hs).append ?_
      rintro b₁ ⟨read, scope', hread, hagree, rfl⟩
      have hafter := afterAll_reread _ _ children
        ⟨⟨read, scope', []⟩ :: b.opened, b.top⟩ hc ho hrc hagree
      refine hafter.append fun b₂ hb₂ => ?_
      obtain ⟨e, rest, he, hname, hclose⟩ := hb₂.close hread ha
      rw [he, sources_cons, source_finish]
      refine (after_finish ht.name hname).append fun b₃ hb₃ => .nil ?_
      rw [hb₃]
      exact hclose
  | .text value, b, _, ho, _, _ =>
    after_event ((Builder.after_text ho).mono fun b' hb => .add rfl trivial hb)
  | .cdata value, b, h, _, _, _ =>
    after_leaf_reread (.cdata value) rfl rfl trivial (after_cdata h)
  | .comment value, b, h, _, _, _ =>
    after_leaf_reread (.comment value) rfl rfl trivial (after_comment h)
  | .instruction target data, b, h, ho, hr, _ => after_instruction_reread h ho hr
  | .doctype value, b, h, ho, hr, _ =>
    after_leaf_reread (.doctype value) rfl rfl trivial
      (after_doctype (doctypeText_of_readBack h ho hr))
  | .reference name, b, h, _, _, _ =>
    after_leaf_reread (.reference name) rfl rfl trivial (after_reference h)
  | .declaration _, _, _, ho, _, _ => ho.elim

/-- So are siblings, one after the other. -/
theorem afterAll_reread (outer bindings : Bindings) : ∀ (nodes : List Node) (b : Builder),
    AllOf Tag.Proper LeafText nodes → OriginalAll outer nodes → ReadBackAll bindings nodes →
    Agrees bindings b.scope →
    b.After (sources (writtenAll bindings nodes)) (Builder.Rereads bindings nodes b ·)
  | [], b, _, _, _, _ => .nil (.nil b)
  | node :: rest, b, h, ho, hr, hs => by
    rw [writtenAll, sources_append]
    refine (after_reread outer bindings node b h.1 ho.1 hr.1 hs).append fun b₁ hb₁ => ?_
    have hs₁ : Agrees bindings b₁.scope := by
      rw [hb₁.scope]
      exact hs
    exact (afterAll_reread outer bindings rest b₁ h.2 ho.2 hr.2 hs₁).mono fun b₂ hb₂ =>
      hb₁.append hb₂

end

end Node

/-! ## Content -/

/-- Whether a node belongs to the content of a document. -/
def Node.isContent : Node → Bool
  | .declaration _ => false
  | _ => true

theorem Node.isContent_eq {bindings : Bindings} {n m : Node}
    (h : m.bare = (n.reread bindings).bare) : m.isContent = n.isContent := by
  cases n <;> cases m <;> first | rfl | cases h

/-- What holds of texts and of all nodes holds of what they are joined to. -/
theorem forall_mem_foldl_pushNode {P : Node → Prop} (ht : ∀ v, P (.text v)) {ns before : List Node}
    (hb : ∀ n ∈ before, P n) (hn : ∀ n ∈ ns, P n) : ∀ n ∈ ns.foldl pushNode before, P n := by
  induction ns generalizing before with
  | nil => exact hb
  | cons n rest ih =>
    obtain ⟨hfirst, hrest⟩ := List.forall_mem_cons.mp hn
    refine ih ?_ hrest
    unfold pushNode
    split
    · exact List.forall_mem_cons.mpr ⟨ht _, (List.forall_mem_cons.mp hb).2⟩
    · exact List.forall_mem_cons.mpr ⟨hfirst, hb⟩

theorem Apart.foldl_pushNode {nodes : List Node} (h : Apart nodes) (ns : List Node) :
    Apart (ns.foldl Markup.pushNode nodes) := by
  induction ns generalizing nodes with
  | nil => exact h
  | cons n rest ih => exact ih (h.pushNode n)

/-- Nothing is joined to nodes that do not end in a text. -/
theorem foldl_pushNode_append {before : List Node} (hb : before.head?.bind Node.text? = none)
    (ns nodes : List Node) :
    ns.foldl pushNode (nodes ++ before) = ns.foldl pushNode nodes ++ before := by
  have hpush (nodes : List Node) (n : Node) :
      pushNode (nodes ++ before) n = pushNode nodes n ++ before := by
    cases nodes with
    | nil => exact pushNode_of_not_text (.inr hb)
    | cons m rest => cases m <;> cases n <;> rfl
  induction ns generalizing nodes with
  | nil => rfl
  | cons n rest ih => rw [List.foldl_cons, List.foldl_cons, hpush, ih]

namespace Document

/-- The nodes of a document that are no declarations. -/
def content (d : Document) : List Node := d.children.filter Node.isContent

theorem printed_eq (d : Document) (declaration : Bool) :
    d.printed declaration =
      (if declaration then [.declaration (d.declaration?.getD .standard)] else []) ++ d.content :=
  rfl

/-- What the content of a document is that was read from nodes that were written. -/
structure Rereads (e : Document) (nodes : List Node) : Prop where
  undeclared : ∀ n ∈ e.content, n.Undeclared
  adds : (∀ n ∈ nodes, n.Undeclared) →
    ∃ ms, Node.bareAll ms = Node.bareAll (Node.rereadAll [] nodes) ∧
      e.content = (ms.foldl pushNode []).reverse

/-- What was read after declarations is the content. -/
theorem rereads_of_finish {before nodes : List Node} {b : Builder} {uri : Option Uri} {e : Document}
    (hbefore : ∀ n ∈ before, n.isContent = false) (hnodes : ∀ n ∈ nodes, n.isContent = true)
    (h : Builder.Rereads [] nodes ⟨[], before⟩ b) (hf : b.finish uri = .ok e) :
    e.Rereads nodes := by
  obtain ⟨-, -, rfl⟩ := Builder.finish_eq_ok_iff.mp hf
  constructor
  · intro n hn
    have hall : b.Undeclared := by
      refine h.undeclared ⟨fun _ hm => (List.not_mem_nil hm).elim, fun m hm => ?_⟩
      have hm := hbefore m hm
      cases m <;> trivial
    exact hall.2 n (List.mem_reverse.mp (List.mem_filter.mp hn).1)
  · intro hn
    obtain ⟨ms, hms, rfl⟩ := h.adds hn
    refine ⟨ms, hms, ?_⟩
    have htext : before.head?.bind Node.text? = none := by
      cases before with
      | nil => rfl
      | cons m rest =>
        have hm := hbefore m (List.mem_cons_self ..)
        cases m <;> first | rfl | cases hm
    have hcontent : ∀ m ∈ ms, m.isContent = true := by
      intro m hm
      have hmem : m.bare ∈ Node.bareAll ms := by
        rw [Node.bareAll_eq_map]
        exact List.mem_map_of_mem hm
      rw [hms, Node.bareAll_eq_map, Node.rereadAll_eq_map, List.map_map] at hmem
      obtain ⟨n, hn, he⟩ := List.mem_map.mp hmem
      rw [Node.isContent_eq he.symm, hnodes n hn]
    have hpushed := forall_mem_foldl_pushNode (P := (·.isContent = true)) (fun _ => rfl)
      (fun _ hm => (List.not_mem_nil hm).elim) hcontent
    have hfold := foldl_pushNode_append htext ms []
    rw [List.nil_append] at hfold
    unfold content
    rw [Builder.foldl_add_top, hfold, List.reverse_append, List.filter_append,
      List.filter_eq_nil_iff.mpr fun m hm => by simp [hbefore m (List.mem_reverse.mp hm)],
      List.filter_eq_self.mpr fun m hm => hpushed m (List.mem_reverse.mp hm), List.nil_append]

namespace Rereads

variable {e : Document} {nodes : List Node} (h : e.Rereads nodes)

include h

/-- Nodes of which no two are joined are read as described. -/
theorem content_eq (hn : ∀ n ∈ nodes, n.Undeclared) (ha : Apart nodes) :
    Node.bareAll e.content = Node.bareAll (Node.rereadAll [] nodes) := by
  obtain ⟨ms, hms, he⟩ := h.adds hn
  have htexts : nodes.map Node.text? = ms.map Node.text? := by
    rw [Node.map_text?_eq hms, Node.map_text?_rereadAll]
  rw [he, foldl_pushNode (ha.congr htexts) (.inr rfl), List.append_nil, List.reverse_reverse, hms]

/-- What the content can be compared to has no neighbours that are joined. -/
theorem same {others : List Node} (he : Node.bareAll e.content = Node.bareAll others)
    (hn : (∀ n ∈ others, n.Undeclared) → ∀ n ∈ nodes, n.Undeclared)
    (ha : Apart others → Apart nodes) :
    (∀ n ∈ others, n.Undeclared) ∧ Apart others ∧
      Node.bareAll (Node.rereadAll [] nodes) = Node.bareAll others := by
  have hothers := Node.undeclared_of_bareAll he h.undeclared
  obtain ⟨ms, -, hms⟩ := h.adds (hn hothers)
  have hapart : Apart e.content := by
    have hnil : Apart [] := trivial
    rw [hms]
    exact (hnil.foldl_pushNode ms).reverse
  have hsame := hapart.congr (Node.map_text?_eq he)
  exact ⟨hothers, hsame, (h.content_eq (hn hothers) (ha hsame)).symm.trans he⟩

end Rereads

end Document

/-! ## Texts of documents -/

/-- The text of the nodes begins with what is taken for a byte order mark. -/
def Marked (nodes : List Node) : Prop :=
  ∃ v r rest, nodes = .text v :: rest ∧ v.toList = '\ufeff' :: r

instance : DecidablePred Marked
  | .text v :: rest =>
    decidable_of_iff (v.toList.head? = some '\ufeff')
      ⟨fun h => (List.head?_eq_some_iff.mp h).elim fun r hr => ⟨v, r, rest, rfl, hr⟩, by
        rintro ⟨w, r, _, he, hr⟩
        cases he
        rw [hr]
        rfl⟩
  | [] | .element .. :: _ | .cdata _ :: _ | .comment _ :: _ | .instruction .. :: _
  | .doctype _ :: _ | .reference _ :: _ | .declaration _ :: _ =>
    isFalse fun ⟨_, _, _, he, _⟩ => by cases he

theorem head?_sources_written (bindings : Bindings) {n : Node} (h : n.text? = none) :
    (sources (n.written bindings)).head? = some '<' ∨
      (sources (n.written bindings)).head? = some '&' := by
  cases n with
  | element tag children => exact .inl (head?_sources_element bindings tag children)
  | text => cases h
  | reference =>
    refine .inr ?_
    simp [Node.written, sources, Event.source]
  | declaration =>
    refine .inl ?_
    rw [Node.written, sources_cons, source_declaration]
    rfl
  | _ =>
    refine .inl ?_
    simp [Node.written, sources, Event.source]

/-- Only a text that begins with a byte order mark is written so. -/
theorem marked_of_head? {bindings outer : Bindings} {nodes : List Node}
    (ho : Node.OriginalAll outer nodes)
    (h : (sources (Node.writtenAll bindings nodes)).head? = some '\ufeff') : Marked nodes := by
  cases nodes with
  | nil => cases h
  | cons n rest =>
    rw [Node.writtenAll, sources_append] at h
    cases ht : n.text? with
    | none =>
      rcases head?_sources_written bindings ht with hn | hn <;>
        rw [List.head?_append, hn] at h <;> cases h
    | some v =>
      cases n <;> cases ht
      have hv : v ≠ "" := ho.1
      obtain ⟨c, r, hc⟩ := List.exists_cons_of_ne_nil fun e => hv (String.toList_inj.mp e)
      refine ⟨v, r, rest, rfl, ?_⟩
      have htext : (escapeText v).toList = escapeTextChar c ++ r.flatMap escapeTextChar := by
        rw [toList_escapeText, hc, List.flatMap_cons]
      rw [Node.written, sources_cons] at h
      simp only [Event.source, htext] at h
      rcases escapeTextChar_cases c with ⟨name, he, -⟩ | ⟨he, -⟩
      · rw [he] at h
        cases h
      · rw [he] at h
        rw [hc, Option.some.inj h]

/-- A document is what the builder comes to by what stands behind a byte order mark. -/
theorem Builder.parse_of_after_mark {text : String} {s : List Char} {P : Builder → Prop}
    (ht : text.toList = '\ufeff' :: s) (h : Builder.start.After s P) (uri : Option Uri) :
    ∃ b, P b ∧ Document.parse text uri = b.finish uri := by
  obtain ⟨b, offset, hp, hr⟩ := h (lineStarts text.toList) uri 0 []
  refine ⟨b, hp, ?_⟩
  rw [List.append_nil, Builder.reads_nil] at hr
  rw [← hr]
  unfold Document.parse Builder.reads
  simp only [ht]
  rfl

/-- What is left of a text, as a text that is not empty. -/
def leftText (r : List Char) : List Node := if r = [] then [] else [.text (String.ofList r)]

theorem isContent_leftText (r : List Char) : ∀ n ∈ leftText r, n.isContent = true := by
  unfold leftText
  split
  · exact fun _ hn => (List.not_mem_nil hn).elim
  · exact List.forall_mem_singleton.mpr rfl

theorem after_leftText (bindings : Bindings) {b : Builder} (r : List Char) :
    b.After (r.flatMap escapeTextChar) (Builder.Rereads bindings (leftText r) b ·) := by
  unfold leftText
  split
  · rename_i hr
    rw [hr]
    exact .nil (.nil b)
  · rename_i hr
    have hne : String.ofList r ≠ "" := fun he => hr (by simpa using congrArg String.toList he)
    have hafter := Builder.after_text (b := b) hne
    rw [toList_escapeText, String.toList_ofList] at hafter
    exact hafter.mono fun b' hb => .add rfl trivial hb

namespace Document

variable {d e : Document} {declaration : Bool} {uri : Option Uri}

/-- Without indentation the text of a document is that of its nodes. -/
theorem toList_print_plain (d : Document) (declaration : Bool) :
    (d.print ⟨none, declaration⟩).toList =
      sources (Node.writtenAll [] (d.printed declaration)) := by
  obtain ⟨fs, -, hfs, ht⟩ := toList_print d ⟨none, declaration⟩
  rw [ht, hfs rfl, events_eq]

theorem readBack_iff : d.ReadBack declaration ↔
    (declaration = true →
      ∃ v, readDeclaration (sourceOfAll (d.declaration?.getD .standard).parts) = .ok v) ∧
    Node.ReadBackAll [] d.content := by
  unfold ReadBack
  rw [printed_eq]
  cases declaration with
  | false => simp
  | true => simp [Node.ReadBackAll, Node.ReadBack]

theorem isContent_of_mem {n : Node} (h : n ∈ d.content) : n.isContent = true :=
  (List.mem_filter.mp h).2

theorem sound_content (h : ∀ n ∈ d.children, n.Sound) :
    Node.AllOf Tag.Proper Node.LeafText d.content := by
  refine Node.allOf_iff.mpr fun n hn => ?_
  exact h n (List.mem_filter.mp hn).1

theorem original_content (h : ∀ n ∈ d.children, Builder.TopOriginal n) :
    Node.OriginalAll [] d.content := by
  refine Node.originalAll_iff.mpr fun n hn => ?_
  rcases h n (List.mem_filter.mp hn).1 with ho | ⟨v, rfl⟩
  · exact ho
  · cases isContent_of_mem hn

section Parse

variable (hs : ∀ n ∈ d.children, n.Sound) (ho : ∀ n ∈ d.children, Builder.TopOriginal n)
  (hb : d.ReadBack declaration)

include hs ho hb

/-- The text of a document is read as its content, after the declaration if one is written. -/
theorem after_print : ∃ before : List Node, (∀ n ∈ before, n.isContent = false) ∧
    Builder.start.After (d.print ⟨none, declaration⟩).toList
      (Builder.Rereads [] d.content ⟨[], before⟩ ·) := by
  obtain ⟨hdeclared, hback⟩ := readBack_iff.mp hb
  have hcontent (before : List Node) := Node.afterAll_reread [] [] d.content ⟨[], before⟩
    (sound_content hs) (original_content ho) hback Agrees.initial
  rw [toList_print_plain, printed_eq]
  cases declaration with
  | false => exact ⟨[], fun _ hm => (List.not_mem_nil hm).elim, hcontent []⟩
  | true =>
    obtain ⟨v, hv⟩ := hdeclared rfl
    have htext : DeclarationText (d.declaration?.getD .standard) :=
      sound_printed hs true _ (List.mem_cons_self ..)
    refine ⟨[.declaration v], fun m hm => by rw [List.mem_singleton.mp hm]; rfl, ?_⟩
    rw [if_pos rfl, List.singleton_append, Node.writtenAll, sources_append, Node.written]
    refine (after_event (after_declaration htext hv)).append fun b hb => ?_
    rw [hb]
    exact hcontent [.declaration v]

/-- What is read of a document that was read and is printed. -/
theorem rereads_of_parse (hm : declaration = false → ¬ Marked d.content)
    (hp : Document.parse (d.print ⟨none, declaration⟩) uri = .ok e) : e.Rereads d.content := by
  obtain ⟨before, hbefore, hread⟩ := after_print hs ho hb
  have hmark : (d.print ⟨none, declaration⟩).toList.head? ≠ some '\ufeff' := by
    rw [toList_print_plain, printed_eq]
    cases declaration with
    | false => exact fun h => hm rfl (marked_of_head? (original_content ho) h)
    | true => simp [Node.writtenAll, Node.written, sources_cons, source_declaration, Token.source]
  obtain ⟨b, hb, hfinish⟩ := Builder.parse_of_after hread hmark uri
  rw [hfinish] at hp
  exact rereads_of_finish hbefore (fun _ => isContent_of_mem) hb hp

omit hb in
/-- A byte order mark that the content begins with is not read again. -/
theorem rereads_of_marked (hb : d.ReadBack false) {v : String} {r : List Char} {rest : List Node}
    (hc : d.content = .text v :: rest) (hv : v.toList = '\ufeff' :: r)
    (hp : Document.parse (d.print ⟨none, false⟩) uri = .ok e) :
    e.Rereads (leftText r ++ rest) := by
  obtain ⟨-, hback⟩ := readBack_iff.mp hb
  have hsound := sound_content hs
  have horiginal := original_content ho
  have hcontent : ∀ n ∈ d.content, n.isContent = true := fun _ => isContent_of_mem
  rw [hc] at hback hsound horiginal hcontent
  have ht : (d.print ⟨none, false⟩).toList =
      '\ufeff' :: (r.flatMap escapeTextChar ++ sources (Node.writtenAll [] rest)) := by
    have htext : (escapeText v).toList = '\ufeff' :: r.flatMap escapeTextChar := by
      rw [toList_escapeText, hv, List.flatMap_cons]
      rfl
    rw [toList_print_plain, printed_eq, hc, if_neg Bool.false_ne_true, List.nil_append,
      Node.writtenAll, sources_append, Node.written, sources_cons]
    simp [Event.source, htext, sources]
  have hread : Builder.start.After (r.flatMap escapeTextChar ++ sources (Node.writtenAll [] rest))
      (Builder.Rereads [] (leftText r ++ rest) .start ·) := by
    refine (after_leftText [] r).append fun b hb => ?_
    have hs : Agrees [] b.scope := by
      rw [hb.scope]
      exact Agrees.initial
    have hrest := Node.afterAll_reread [] [] rest b hsound.2 horiginal.2 hback.2 hs
    exact hrest.mono fun b' => hb.append
  obtain ⟨b, hb, hfinish⟩ := Builder.parse_of_after_mark ht hread uri
  rw [hfinish] at hp
  have hleft : ∀ n ∈ leftText r ++ rest, n.isContent = true :=
    List.forall_mem_append.mpr ⟨isContent_leftText r, fun n hn =>
      hcontent n (List.mem_cons_of_mem _ hn)⟩
  exact @rereads_of_finish [] _ _ _ _ (fun _ hm => (List.not_mem_nil hm).elim) hleft hb hp

end Parse

end Document

end XmlTemplate.Markup
