import XmlTemplate.Proofs.Markup.Outline
import XmlTemplate.Proofs.Markup.Sound
import XmlTemplate.Proofs.Markup.Writable

/-!
# Which trees are read back

Whether the text of a sound tree can be read depends on its tags, and on a few leaves whose text
means something else where it is written.

* `Node.ReadBack bindings n`: the trees that are read where `bindings` are in force.
* `Builder.Decides b s C P`: from `b`, the text `s` is read if and only if `C` holds.
* `decides_written`: the text of a sound tree, with line breaks or without, is read if and only if
  the tree is one that is read back.
-/

namespace XmlTemplate.Markup

/-! ## Trees that are read back -/

/-- What stands behind the target of an instruction. -/
def afterTarget (data : String) : List Char := if data = "" then [] else ' ' :: data.toList

namespace Node

mutual

/-- A tree that is read where it is written: the tags are readable, an instruction is no broken
declaration, and a doctype is not blank. -/
def ReadBack (bindings : Bindings) : Node → Prop
  | .element tag children =>
    tag.Readable bindings ∧ ReadBackAll (repairs bindings tag).1 children
  | .instruction target data =>
    target = "xml" → ∃ d, readDeclaration (afterTarget data) = .ok d
  | .doctype value => ∃ c ∈ value.toList, isSpace c = false
  | .declaration value => ∃ d, readDeclaration (sourceOfAll value.parts) = .ok d
  | .text _ | .cdata _ | .comment _ | .reference _ => True

/-- The same for siblings. -/
def ReadBackAll (bindings : Bindings) : List Node → Prop
  | [] => True
  | node :: rest => node.ReadBack bindings ∧ ReadBackAll bindings rest

end

end Node

namespace Builder

/-! ## Texts that are read or refused -/

/-- The text `s` is read if `C` holds, and leads to a builder that satisfies `P`; it is refused
otherwise. -/
structure Decides (b : Builder) (s : List Char) (C : Prop) (P : Builder → Prop) : Prop where
  reads : C → b.After s P
  refuses : ¬ C → b.Refuses s

namespace Decides

variable {b : Builder} {s t : List Char} {C D : Prop} {P Q : Builder → Prop}

theorem of_after (h : b.After s P) (hc : C) : b.Decides s C P :=
  ⟨fun _ => h, fun hn => absurd hc hn⟩

theorem append (hs : b.Decides s C Q) (ht : ∀ b', Q b' → b'.Decides t D P) :
    b.Decides (s ++ t) (C ∧ D) P where
  reads h := (hs.reads h.1).append fun b' hq => (ht b' hq).reads h.2
  refuses h := by
    by_cases hc : C
    · exact (hs.reads hc).refuses fun b' hq => (ht b' hq).refuses fun hd => h ⟨hc, hd⟩
    · exact (hs.refuses hc).append_left

theorem congr (h : b.Decides s C P) (hc : C ↔ D) : b.Decides s D P where
  reads hd := h.reads (hc.mpr hd)
  refuses hd := h.refuses fun hn => hd (hc.mp hn)

theorem mono (h : b.Decides s C P) (hp : ∀ b', P b' → Q b') : b.Decides s C Q where
  reads hc := (h.reads hc).mono hp
  refuses := h.refuses

end Decides

end Builder

/-! ## Events -/

section Events

open Builder

variable {b : Builder} {nodes : List Node} {C : Prop}

/-- Line breaks are read as text, which changes nothing. -/
theorem Broken.cons_inv {e : Event} {es fs : List Event} (h : Broken (e :: es) fs) :
    ∃ before rest, sources fs = before ++ (e.source.toList ++ sources rest) ∧ Broken es rest ∧
      ∀ b : Builder, b.After before (b.Takes [] ·) := by
  cases h with
  | cons _ hr => exact ⟨[], _, rfl, hr, fun b => .nil (.nil b)⟩
  | @line _ fs v _ hv hr =>
    refine ⟨(escapeText v).toList, fs, ?_, hr, fun b => ?_⟩
    · rw [sources_cons, sources_cons]
      rfl
    · refine (after_text hv.1).mono fun b' hb => ?_
      rw [hb]
      exact .pushText b v

theorem Broken.append_inv {es es' fs : List Event} (h : Broken (es ++ es') fs) :
    ∃ fs₁ fs₂, fs = fs₁ ++ fs₂ ∧ Broken es fs₁ ∧ Broken es' fs₂ := by
  induction es generalizing fs with
  | nil => exact ⟨[], fs, rfl, .nil, h⟩
  | cons e rest ih =>
    cases h with
    | cons _ hr =>
      obtain ⟨fs₁, fs₂, rfl, h₁, h₂⟩ := ih hr
      exact ⟨_, fs₂, rfl, .cons e h₁, h₂⟩
    | line _ hv hr =>
      obtain ⟨fs₁, fs₂, rfl, h₁, h₂⟩ := ih hr
      exact ⟨_, fs₂, rfl, .line e hv h₁, h₂⟩

/-- What holds of the text of an event holds of it with a line break in front. -/
theorem decides_event {e : Event} {fs : List Event} (hf : Broken [e] fs)
    (h : ∀ b' : Builder, b'.outline = b.outline →
      b'.Decides e.source.toList C (b'.Takes nodes ·)) :
    b.Decides (sources fs) C (b.Takes nodes ·) := by
  obtain ⟨before, rest, hs, hr, hbefore⟩ := hf.cons_inv
  cases hr
  rw [hs]
  have hdone : b.Decides (before ++ (e.source.toList ++ sources [])) (True ∧ C ∧ True)
      (b.Takes nodes ·) := by
    refine (Decides.of_after (hbefore b) trivial).append fun b₁ h₁ => ?_
    refine (h b₁ h₁.outline).append fun b₂ h₂ => .of_after (.nil ?_) trivial
    exact h₁.append h₂
  exact hdone.congr (by simp)

/-! ## Leaves -/

theorem decides_textEvent (v : String) :
    b.Decides (Event.text v).source.toList True (b.Takes [.text v] ·) := by
  refine .of_after ?_ trivial
  by_cases hv : v = ""
  · subst hv
    exact .nil ((Takes.nil b).leaf rfl)
  · refine (after_text hv).mono fun b' hb => ?_
    rw [hb]
    exact (Takes.pushText b v).leaf rfl

/-- A leaf that is always read. -/
theorem decides_leafEvent {e : Event} {n : Node} (h : b.After e.source.toList (· = b.push n)) :
    b.Decides e.source.toList True (b.Takes [n] ·) :=
  .of_after (h.mono fun b' hb => by rw [hb]; exact .push b n) trivial

theorem decides_doctypeEvent {v : String} (h : Balanced v.toList) :
    b.Decides (Event.doctype v).source.toList (∃ c ∈ v.toList, isSpace c = false)
      (b.Takes [.doctype v] ·) := by
  have he : (Event.doctype v).source.toList =
      (Token.doctype "DOCTYPE".toList (' ' :: v.toList)).source := by
    simp [Event.source, Token.source]
  have hlegible := Token.legible_doctype h.space
  have hall : (' ' :: v.toList).all isSpace = false ↔ ∃ c ∈ v.toList, isSpace c = false := by
    simp [isSpace]
  rw [he]
  constructor
  · intro hc
    refine after_token hlegible (hall.mpr hc) fun place => ⟨_, .doctype _ _, ?_⟩
    exact (Takes.push b (.doctype _)).leaf rfl
  · intro hc
    exact refuses_doctype hlegible (by simpa using mt hall.mp hc)

/-- What is taken for a declaration has to be one. -/
theorem decides_declarationToken {chars text : List Char}
    (hl : Token.Legible (.instruction chars)) (ht : declarationText? chars = some text) :
    b.Decides (Token.instruction chars).source (∃ d, readDeclaration text = .ok d)
      (b.Takes [] ·) := by
  constructor
  · rintro ⟨d, hd⟩
    exact after_token hl trivial fun place =>
      ⟨_, .declaration ht hd, .declaration b d⟩
  · intro hn
    refine refuses_token hl fun place b' hf => ?_
    cases hf with
    | declaration ht' hd =>
      rw [ht] at ht'
      cases ht'
      exact hn ⟨_, hd⟩
    | instruction hi =>
      rw [ht] at hi
      cases hi

theorem decides_declarationEvent {d : Declaration} (h : DeclarationText d) :
    b.Decides (Event.declaration d).source.toList
      (∃ read, readDeclaration (sourceOfAll d.parts) = .ok read) (b.Takes [.declaration d] ·) := by
  have hl : Token.Legible (.instruction ("xml".toList ++ sourceOfAll d.parts)) :=
    Token.legible_instruction (by simp) h
  rw [source_declaration]
  exact (decides_declarationToken hl (declarationText?_parts d)).mono fun b' hb => hb.leaf rfl

theorem declarationText?_xml (data : String) :
    declarationText? (instructionText "xml" data).toList = some (afterTarget data) := by
  have he : (instructionText "xml" data).toList = 'x' :: 'm' :: 'l' :: afterTarget data :=
    toList_instructionText "xml" data
  have hspace : (afterTarget data).head?.all isSpace = true := by
    unfold afterTarget
    split <;> rfl
  rw [he]
  simp only [declarationText?, hspace, if_true]

theorem decides_instructionEvent {target data : String} (h : InstructionText target data) :
    b.Decides (Event.instruction (instructionText target data)).source.toList
      (target = "xml" → ∃ d, readDeclaration (afterTarget data) = .ok d)
      (b.Takes [.instruction target data] ·) := by
  have hl := Token.legible_instruction h.opening h.inside
  by_cases hx : target = "xml"
  · subst hx
    rw [source_instruction]
    refine ((decides_declarationToken hl (declarationText?_xml data)).congr (by simp)).mono ?_
    exact fun b' hb => hb.leaf rfl
  · refine .of_after ?_ fun he => absurd he hx
    refine (after_instruction hl (declarationText?_eq_none h.solid hx)).mono fun b' hb => ?_
    rw [hb]
    obtain ⟨target', data', he, -⟩ := instructionText_of_read h.opening h.inside
    rw [he]
    exact (Takes.push b (.instruction target' data')).leaf rfl

/-! ## Tags -/

variable {bindings : Bindings} {tag : Tag}

/-- The empty tag of a proper tag is read if and only if the tag is readable. -/
theorem decides_emptyTag (h : tag.Proper) (hs : Agrees bindings b.scope) (children : List Node) :
    b.Decides (Token.empty (writtenTag bindings tag)).source (tag.Readable bindings)
      (b.Takes [.element tag children] ·) := by
  have hl : Token.Legible (.empty (writtenTag bindings tag)) := (legible_writtenTag h).2
  constructor
  · intro hr
    refine after_token hl trivial fun place => ?_
    obtain ⟨scope', -, hread⟩ := readTag_inside h hs hr place
    exact ⟨_, .empty hread, (Takes.push b (.element _ [])).element⟩
  · intro hr
    refine refuses_token hl fun place b' hf => ?_
    obtain ⟨e, hread⟩ := readTag_refused h hs hr place
    cases hf with
    | empty hread' =>
      rw [hread] at hread'
      cases hread'

/-- The start tag of a proper tag is read if and only if the tag is readable. -/
theorem decides_startTag (h : tag.Proper) (hs : Agrees bindings b.scope) :
    b.Decides (Token.start (writtenTag bindings tag)).source (tag.Readable bindings) fun b' =>
      ∃ read scope', read.name.qualified = tag.name.qualified ∧
        Agrees (repairs bindings tag).1 scope' ∧
        b' = ⟨⟨read, scope', []⟩ :: b.opened, b.top⟩ := by
  have hl : Token.Legible (.start (writtenTag bindings tag)) := (legible_writtenTag h).1
  constructor
  · intro hr
    refine after_token hl trivial fun place => ?_
    obtain ⟨scope', hagree, hread⟩ := readTag_inside h hs hr place
    refine ⟨_, .start hread, _, scope', ?_, hagree, rfl⟩
    rfl
  · intro hr
    refine refuses_token hl fun place b' hf => ?_
    obtain ⟨e, hread⟩ := readTag_refused h hs hr place
    cases hf with
    | start hread' =>
      rw [hread] at hread'
      cases hread'

end Events

/-! ## Trees -/

/-- An element that has been read takes its place among those that were open around it. -/
theorem takes_of_close {b b₁ : Builder} {tag read : Tag} {scope : Scope} {children : List Node}
    (h : Builder.Takes ⟨⟨read, scope, []⟩ :: b.opened, b.top⟩ children b₁) :
    ∃ e rest, b₁ = ⟨e :: rest, b₁.top⟩ ∧ e.tag.name.qualified = read.name.qualified ∧
      b.Takes [.element tag children]
        (Builder.push ⟨rest, b₁.top⟩ (.element e.tag e.children.reverse)) := by
  obtain ⟨e, rest, hb₁, hname, hrest⟩ := Builder.exists_of_outline_eq_cons h.outline
  have hpush : (Builder.push ⟨rest, b₁.top⟩ (.element e.tag e.children.reverse)).outline =
      b.outline := by
    rw [Builder.outline_push]
    exact hrest
  refine ⟨e, rest, hb₁, hname, hpush, fun hb => ?_, fun ho _ => ?_⟩
  · have hroot : Builder.Rooted ⟨rest, b₁.top⟩ := h.rooted hb
    exact Builder.Rooted.push hroot _
  · refine Builder.rooted_push_element ?_ rfl
    rw [Builder.opened_eq_nil_iff] at ho ⊢
    rw [← ho]
    exact hrest

/-- The content of an element and its end tag, when the start tag has been read. -/
theorem decides_content {b : Builder} {tag read : Tag} {scope : Scope} {children : List Node}
    {fs fs' : List Event} {C : Prop} (hn : tag.name.Proper)
    (hname : read.name.qualified = tag.name.qualified)
    (hc : Builder.Decides ⟨⟨read, scope, []⟩ :: b.opened, b.top⟩ (sources fs) C
      (Builder.Takes ⟨⟨read, scope, []⟩ :: b.opened, b.top⟩ children ·))
    (hf : Broken [.finish tag.name.qualified] fs') :
    Builder.Decides ⟨⟨read, scope, []⟩ :: b.opened, b.top⟩ (sources (fs ++ fs')) C
      (b.Takes [.element tag children] ·) := by
  obtain ⟨before, rest, hs, hr, hbefore⟩ := hf.cons_inv
  cases hr
  have hfinish (b₁ : Builder)
      (h₁ : Builder.Takes ⟨⟨read, scope, []⟩ :: b.opened, b.top⟩ children b₁) :
      b₁.After (sources fs') (b.Takes [.element tag children] ·) := by
    rw [hs, source_finish]
    refine (hbefore b₁).append fun b₂ h₂ => ?_
    have h := h₁.append h₂
    rw [List.append_nil] at h
    obtain ⟨e, opened, he, hq, htakes⟩ := @takes_of_close b b₂ tag read scope children h
    rw [he]
    refine (after_finish hn (hq.trans hname)).append fun b₃ h₃ => .nil ?_
    rw [h₃]
    exact htakes
  have hdone : Builder.Decides ⟨⟨read, scope, []⟩ :: b.opened, b.top⟩ (sources fs ++ sources fs')
      (C ∧ True) (b.Takes [.element tag children] ·) :=
    hc.append fun b₁ h₁ => .of_after (hfinish b₁ h₁) trivial
  rw [sources_append]
  exact hdone.congr (by simp)

namespace Node

mutual

/-- The text of a sound node is read if and only if the node is read back. -/
theorem decides_written (bindings : Bindings) : ∀ (n : Node) (b : Builder) {fs : List Event},
    n.Sound → Agrees bindings b.scope → Broken (n.written bindings) fs →
    b.Decides (sources fs) (n.ReadBack bindings) (b.Takes [n] ·)
  | .element tag children, b, fs, h, hs, hf => by
    obtain ⟨ht, hc⟩ := h
    have agrees {b' : Builder} (hb : b'.outline = b.outline) : Agrees bindings b'.scope := by
      rw [Builder.scope_eq, hb, ← Builder.scope_eq]
      exact hs
    rw [written] at hf
    split at hf
    · rename_i hnil
      obtain rfl : children = [] := List.isEmpty_iff.mp hnil
      have hempty : b.Decides (sources fs) (tag.Readable bindings)
          (b.Takes [.element tag []] ·) := by
        refine decides_event hf fun b' hb => ?_
        rw [source_empty]
        exact decides_emptyTag ht (agrees hb) []
      exact hempty.congr (by simp [ReadBack, ReadBackAll])
    · obtain ⟨before, rest, hsource, hrest, hbefore⟩ := hf.cons_inv
      obtain ⟨fs₁, fs₂, rfl, h₁, h₂⟩ := hrest.append_inv
      rw [hsource, source_start]
      have hall : b.Decides (before ++ ((Token.start (writtenTag bindings tag)).source ++
          sources (fs₁ ++ fs₂)))
          (True ∧ tag.Readable bindings ∧ ReadBackAll (repairs bindings tag).1 children)
          (b.Takes [.element tag children] ·) := by
        refine (Builder.Decides.of_after (hbefore b) trivial).append fun b₁ hb₁ => ?_
        refine (decides_startTag ht (agrees hb₁.outline)).append ?_
        rintro b₂ ⟨read, scope', hname, hagree, rfl⟩
        have hcontent := decidesAll_written (repairs bindings tag).1 children
          ⟨⟨read, scope', []⟩ :: b₁.opened, b₁.top⟩ hc hagree h₁
        refine (decides_content ht.name hname hcontent h₂).mono fun b₃ hb₃ => ?_
        exact hb₁.append hb₃
      exact hall.congr (by simp [ReadBack])
  | .text value, b, fs, _, _, hf => decides_event hf fun _ _ => decides_textEvent value
  | .cdata value, b, fs, h, _, hf =>
    decides_event hf fun _ _ => decides_leafEvent (after_cdata h)
  | .comment value, b, fs, h, _, hf =>
    decides_event hf fun _ _ => decides_leafEvent (after_comment h)
  | .instruction target data, b, fs, h, _, hf =>
    decides_event hf fun _ _ => decides_instructionEvent h
  | .doctype value, b, fs, h, _, hf => decides_event hf fun _ _ => decides_doctypeEvent h
  | .reference name, b, fs, h, _, hf =>
    decides_event hf fun _ _ => decides_leafEvent (after_reference h)
  | .declaration value, b, fs, h, _, hf =>
    decides_event hf fun _ _ => decides_declarationEvent h

/-- The text of sound siblings is read if and only if each of them is read back. -/
theorem decidesAll_written (bindings : Bindings) : ∀ (nodes : List Node) (b : Builder)
    {fs : List Event}, AllOf Tag.Proper LeafText nodes → Agrees bindings b.scope →
    Broken (writtenAll bindings nodes) fs →
    b.Decides (sources fs) (ReadBackAll bindings nodes) (b.Takes nodes ·)
  | [], b, fs, _, _, hf => by
    cases hf
    exact .of_after (.nil (.nil b)) trivial
  | node :: rest, b, fs, h, hs, hf => by
    obtain ⟨fs₁, fs₂, rfl, h₁, h₂⟩ := hf.append_inv
    rw [sources_append]
    refine (decides_written bindings node b h.1 hs h₁).append fun b₁ hb₁ => ?_
    have hs₁ : Agrees bindings b₁.scope := by
      rw [hb₁.scope]
      exact hs
    exact (decidesAll_written bindings rest b₁ h.2 hs₁ h₂).mono fun b₂ hb₂ => hb₁.append hb₂

end

end Node

/-! ## Documents -/

namespace Document

/-- The nodes that are written for a document. -/
def printed (d : Document) (declaration : Bool) : List Node :=
  (if declaration then [.declaration (d.declaration?.getD .standard)] else []) ++
    d.children.filter fun
      | .declaration _ => false
      | _ => true

/-- A document that is read where it is written. -/
def ReadBack (d : Document) (declaration : Bool) : Prop :=
  Node.ReadBackAll [] (d.printed declaration)

theorem events_eq (d : Document) (declaration : Bool) :
    d.events declaration = Node.writtenAll [] (d.printed declaration) := by
  unfold Document.events printed
  simp only
  rw [Node.events_eq]
  cases declaration <;> rfl

theorem declaration_mem {d : Document} {v : Declaration} (h : d.declaration? = some v) :
    .declaration v ∈ d.children := by
  unfold declaration? at h
  obtain ⟨n, hn, he⟩ := List.exists_of_findSome?_eq_some h
  split at he
  · cases he
    exact hn
  · cases he

theorem sound_printed {d : Document} (h : ∀ n ∈ d.children, n.Sound) (declaration : Bool) :
    ∀ n ∈ d.printed declaration, n.Sound := by
  have hfirst : Node.Sound (.declaration (d.declaration?.getD .standard)) := by
    cases hd : d.declaration? with
    | none =>
      show DeclarationText .standard
      unfold DeclarationText
      decide
    | some v => exact h _ (declaration_mem hd)
  intro n hn
  rcases List.mem_append.mp hn with hn | hn
  · split at hn
    · rw [List.mem_singleton.mp hn]
      exact hfirst
    · cases hn
  · exact h n (List.mem_filter.mp hn).1

theorem root_printed {d : Document} (h : d.root?.isSome = true) (declaration : Bool) :
    ∃ n ∈ d.printed declaration, n.element?.isSome = true := by
  obtain ⟨n, hn, he⟩ := Builder.isSome_root?_iff.mp h
  refine ⟨n, List.mem_append_right _ (List.mem_filter.mpr ⟨hn, ?_⟩), he⟩
  cases n <;> first | rfl | cases he

end Document

/-- The text of sound nodes of which one is an element is a document if and only if they are read
back. -/
theorem parse_sources_iff {nodes : List Node} (h : ∀ n ∈ nodes, n.Sound)
    (hr : ∃ n ∈ nodes, n.element?.isSome = true) {fs : List Event}
    (hf : Broken (Node.writtenAll [] nodes) fs) {text : String} (ht : text.toList = sources fs)
    (uri : Option Uri) :
    (∃ d, Document.parse text uri = .ok d) ↔ Node.ReadBackAll [] nodes := by
  have hd := Node.decidesAll_written [] nodes .start (Node.allOf_iff.mpr h) Agrees.initial hf
  constructor
  · rintro ⟨d, hparse⟩
    refine Classical.byContradiction fun hn => ?_
    obtain ⟨e, he⟩ := Builder.parse_of_refuses (ht ▸ hd.refuses hn) uri
    rw [he] at hparse
    cases hparse
  · intro hback
    have happend : sources fs = sources fs ++ [] := (List.append_nil _).symm
    rw [Builder.parse_iff_reads, ht, happend]
    obtain ⟨b, offset, hb, he⟩ := hd.reads hback (lineStarts (sources fs ++ [])) uri 0 []
    have hopened : b.opened = [] := by
      rw [Builder.opened_eq_nil_iff, hb.outline]
      rfl
    rw [he, Builder.reads_nil]
    exact ⟨_, Builder.finish_eq_ok_iff.mpr ⟨hopened, hb.root rfl hr, rfl⟩⟩

/-- A sound document with an element is read from what is printed of it if and only if it is one
that is read back, whatever the layout. -/
theorem parse_print_iff_readBack {d : Document} (h : ∀ n ∈ d.children, n.Sound)
    (hr : d.root?.isSome = true) (layout : Layout) (uri : Option Uri) :
    (∃ e, Document.parse (d.print layout) uri = .ok e) ↔ d.ReadBack layout.declaration := by
  obtain ⟨fs, hf, -, ht⟩ := toList_print d layout
  rw [Document.events_eq] at hf
  exact parse_sources_iff (d.sound_printed h _) (d.root_printed hr _) hf ht uri

end XmlTemplate.Markup
