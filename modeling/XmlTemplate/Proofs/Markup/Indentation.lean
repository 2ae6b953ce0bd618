import XmlTemplate.Proofs.Markup.Positions
import XmlTemplate.Proofs.Markup.RoundTrip

/-!
# Indented trees

Line breaks between tags are read as texts. None of them stands next to another text, so it stays a
node of its own, and the tree without its blank texts is the same with any indentation.

* `Parted`: what becomes of the events of a node, and of siblings, between which lines are broken.
* `Node.condensed`: a tree without its blank texts. `Node.Alike`: nodes that are equal but for
  these.
* `Spread`: siblings with line breaks between them. `Spread.apart`: no two texts of them are joined.
* `after_parted`: a writable node with line breaks is read as a node that is like its repaired form.
* `parse_printNodes_alike`: an indented element and one that is not are read as the same tree.
-/

namespace XmlTemplate.Markup

/-! ## Events and line breaks -/

namespace Parted

variable {e : Event} {es es' fs : List Event} {f g : Bool}

theorem nil_inv (h : Parted f [] fs g) : fs = [] ∧ g = f := by
  cases h
  exact ⟨rfl, rfl⟩

theorem append_inv (h : Parted f (es ++ es') fs g) :
    ∃ fs₁ fs₂ k, fs = fs₁ ++ fs₂ ∧ Parted f es fs₁ k ∧ Parted k es' fs₂ g := by
  induction es generalizing f fs with
  | nil => exact ⟨[], fs, f, rfl, .nil f, h⟩
  | cons e rest ih =>
    cases h with
    | cons _ hr =>
      obtain ⟨fs₁, fs₂, k, rfl, h₁, h₂⟩ := ih hr
      exact ⟨_, fs₂, k, rfl, .cons e h₁, h₂⟩
    | line _ he hv hr =>
      obtain ⟨fs₁, fs₂, k, rfl, h₁, h₂⟩ := ih hr
      exact ⟨_, fs₂, k, rfl, .line e he hv h₁, h₂⟩

/-- Behind a text, and at the beginning, the line is not broken. -/
theorem head (h : Parted false (e :: es) fs g) :
    ∃ fs', fs = e :: fs' ∧ Parted (!e.isText) es fs' g := by
  cases h with
  | cons _ hr => exact ⟨_, rfl, hr⟩

/-- Elsewhere there may be a line break, if the next event is no text. -/
theorem cases_line (h : Parted f (e :: es) fs g) : Parted false (e :: es) fs g ∨
    ∃ v fs', f = true ∧ e.isText = false ∧ isLineBreak v ∧ fs = .text v :: fs' ∧
      Parted false (e :: es) fs' g := by
  cases h with
  | cons _ hr => exact .inl (.cons e hr)
  | @line _ _ _ v _ he hv hr => exact .inr ⟨v, _, rfl, he, hv, rfl, .cons e (by rwa [he])⟩

theorem single_inv (h : Parted f [e] fs g) :
    fs = [e] ∨ ∃ v, f = true ∧ isLineBreak v ∧ fs = [.text v, e] := by
  cases h with
  | cons _ hr => exact .inl (by rw [hr.nil_inv.1])
  | line _ _ hv hr => exact .inr ⟨_, rfl, hv, by rw [hr.nil_inv.1]⟩

/-- The last event says whether the line may be broken behind it. -/
theorem flag_append (h : Parted f (es ++ [e]) fs g) : g = !e.isText := by
  obtain ⟨-, fs₂, k, -, -, h⟩ := h.append_inv
  cases h with
  | cons _ hr => exact hr.nil_inv.2
  | line _ he _ hr => rw [hr.nil_inv.2, he, Bool.not_false]

end Parted

/-! ## Trees without blank texts -/

namespace Node

mutual

/-- A tree without its blank texts. -/
def condensed : Node → Node
  | .element tag children => .element tag (condensedAll children)
  | n => n

/-- Siblings without blank texts, at any depth. -/
def condensedAll : List Node → List Node
  | [] => []
  | node :: rest =>
    if node.isBlankText then condensedAll rest else node.condensed :: condensedAll rest

end

/-- Nodes that are equal but for their places and for blank texts in them. -/
structure Alike (m n : Node) : Prop where
  text : m.text? = n.text?
  condensed : m.bare.condensed = n.bare.condensed

theorem Alike.of_bare {m n : Node} (h : m.bare = n.bare) : Alike m n where
  text := by
    have hbare (n : Node) : n.bare.text? = n.text? := by cases n <;> rfl
    rw [← hbare m, h, hbare n]
  condensed := by rw [h]

theorem Alike.isBlankText {m n : Node} (h : Alike m n) :
    m.bare.isBlankText = n.bare.isBlankText := by
  have hblank (n : Node) :
      n.bare.isBlankText = n.text?.any fun value => Text.allBlank value.toList := by
    cases n <;> rfl
  rw [hblank m, h.text, hblank n]

/-- Whether no line is broken in front of a node and behind it. -/
def isInline : Node → Bool
  | .text _ | .cdata _ | .reference _ => true
  | _ => false

theorem isInline_of_text {n : Node} (h : n.isInline = false) : n.text? = none := by
  cases n <;> first | rfl | cases h

/-- The first event of a node is a text as the node is. -/
theorem exists_head_written (bindings : Bindings) (n : Node) :
    ∃ e es, n.written bindings = e :: es ∧ e.isText = n.isInline := by
  cases n with
  | element tag children =>
    rw [written]
    split
    · exact ⟨_, _, rfl, rfl⟩
    · exact ⟨_, _, rfl, rfl⟩
  | _ => exact ⟨_, _, rfl, rfl⟩

/-- So is the last one. -/
theorem exists_last_written (bindings : Bindings) (n : Node) :
    ∃ es e, n.written bindings = es ++ [e] ∧ e.isText = n.isInline := by
  cases n with
  | element tag children =>
    rw [written]
    split
    · exact ⟨[], _, rfl, rfl⟩
    · exact ⟨_, _, by rw [← List.cons_append], rfl⟩
  | _ => exact ⟨[], _, rfl, rfl⟩

theorem flag_written {bindings : Bindings} {n : Node} {f g : Bool} {fs : List Event}
    (h : Parted f (n.written bindings) fs g) : g = !n.isInline := by
  obtain ⟨es, e, he, ht⟩ := exists_last_written bindings n
  rw [he] at h
  rw [h.flag_append, ht]

end Node

/-! ## Siblings and line breaks -/

/-- The first siblings are like the second ones, with line breaks in front of some of them, and
maybe behind the last one. The flags are those of the events. -/
inductive Spread : Bool → List Node → List Node → Bool → Prop where
  | nil (f : Bool) : Spread f [] [] f
  | cons {f g : Bool} {m n : Node} {ms ns : List Node} : m.Alike n →
    Spread (!n.isInline) ms ns g → Spread f (m :: ms) (n :: ns) g
  | line {g : Bool} {v : String} {ms ns : List Node} : isLineBreak v →
    (∀ n, ns.head? = some n → n.isInline = false) → Spread false ms ns g →
    Spread true (.text v :: ms) ns g

namespace Spread

variable {f g : Bool} {ms ns : List Node}

/-- A line break behind the last sibling. -/
theorem append_line (h : Spread f ms ns true) {v : String} (hv : isLineBreak v) :
    Spread f (ms ++ [.text v]) ns false := by
  generalize hg : true = g at h
  induction h with
  | nil =>
    subst hg
    exact .line hv (fun n hn => by cases hn) (.nil false)
  | cons ha _ ih => exact .cons ha (ih hg)
  | line hw hns _ ih => exact .line hw hns (ih hg)

/-- Behind a text there is no line break. -/
theorem head (h : Spread false ms ns g) :
    ms.head?.bind Node.text? = ns.head?.bind Node.text? := by
  cases h with
  | nil => rfl
  | cons ha => exact ha.text

/-- A line break is not joined to another text. -/
theorem apart (h : Spread f ms ns g) (ha : Apart ns) : Apart ms := by
  induction h with
  | nil => trivial
  | @cons f g m n ms ns hm hrest ih =>
    obtain ⟨hn, hns⟩ := ha
    refine ⟨?_, ih hns⟩
    rw [hm.text]
    cases hi : n.isInline with
    | false => exact .inl (Node.isInline_of_text hi)
    | true =>
      rw [hi] at hrest
      exact hn.imp_right fun h => hrest.head.trans h
  | @line g v ms ns _ hns hrest ih =>
    refine ⟨.inr ?_, ih ha⟩
    rw [hrest.head]
    cases ns with
    | nil => rfl
    | cons n rest => exact Node.isInline_of_text (hns n rfl)

theorem isBlank_lineBreak {v : String} (h : isLineBreak v) : Text.allBlank v.toList = true := by
  refine List.all_eq_true.mpr fun c hc => ?_
  rcases h.2 c hc with rfl | rfl <;> rfl

/-- Without blank texts there are no line breaks. -/
theorem condensed (h : Spread f ms ns g) :
    Node.condensedAll (Node.bareAll ms) = Node.condensedAll (Node.bareAll ns) := by
  induction h with
  | nil => rfl
  | @cons f g m n ms ns hm _ ih =>
    simp only [Node.bareAll, Node.condensedAll, hm.isBlankText, hm.condensed, ih]
  | @line g v ms ns hv _ _ ih =>
    have hblank : (Node.text v).isBlankText = true := isBlank_lineBreak hv
    rw [Node.bareAll, Node.bare, Node.condensedAll, if_pos hblank, ih]
    exact fun _ _ h => by cases h

end Spread

/-! ## Reading with line breaks -/

namespace Node

theorem isInline_repair (bindings : Bindings) (n : Node) :
    (n.repair bindings).isInline = n.isInline := by
  cases n <;> rfl

theorem after_lineBreak {v : String} (hv : isLineBreak v) (b : Builder) :
    b.After (Event.text v).source.toList (· = b.add (.text v)) := Builder.after_text hv.1

/-- A node of one event has no place for a line break. -/
theorem after_parted_single {bindings : Bindings} {n : Node} {b : Builder}
    (he : ∃ e, n.written bindings = [e]) (h : n.Writable) (hs : Agrees bindings b.scope)
    {fs : List Event} {g : Bool} (hp : Parted false (n.written bindings) fs g) :
    b.After (sources fs) fun b' => ∃ m : Node, m.Alike (n.repair bindings) ∧ b' = b.add m := by
  have hsame : fs = n.written bindings := by
    obtain ⟨e, he⟩ := he
    rw [he] at hp ⊢
    obtain ⟨fs', rfl, hr⟩ := hp.head
    rw [hr.nil_inv.1]
  rw [hsame]
  refine (after_written bindings n b h hs).mono fun b' hread => ?_
  obtain ⟨m, hm, hb⟩ := hread
  exact ⟨m, .of_bare hm, hb⟩

/-- The end tag closes an element that is like the one that was written. -/
theorem after_close {bindings : Bindings} {tag read : Tag} {children ms : List Node}
    {scope : Scope} {b : Builder} {g : Bool} (ht : tag.Writable) (ha : Apart children)
    (hread : read.bare =
      ({ tag with attributes := writtenAttributes bindings tag } : Tag).bare)
    (hms : Spread true ms (repairAll (repairs bindings tag).1 children) g) :
    (ms.foldl Builder.add ⟨⟨read, scope, []⟩ :: b.opened, b.top⟩).After
      (sources [.finish tag.name.qualified]) fun b' => ∃ m : Node,
        m.Alike ((Node.element tag children).repair bindings) ∧ b' = b.add m := by
  have hapart : Apart ms := hms.apart (ha.congr (map_text?_repairAll _ children).symm)
  have hname := name_eq_of_bare hread
  refine (after_end ht.name.proper hname hapart).mono fun b' hb => ⟨.element read ms, ⟨rfl, ?_⟩, hb⟩
  simp only [bare, repair, condensed, hread, hms.condensed]

mutual

/-- A writable node with line breaks in it is read as one that is like its repaired form. -/
theorem after_parted (bindings : Bindings) : ∀ (n : Node) (b : Builder) {fs : List Event}
    {g : Bool}, n.Writable → Agrees bindings b.scope → Parted false (n.written bindings) fs g →
    b.After (sources fs) fun b' => ∃ m : Node, m.Alike (n.repair bindings) ∧ b' = b.add m
  | .element tag children, b, fs, g, h, hs, hp => by
    obtain ⟨ht, ha, hc⟩ := h
    by_cases hnil : children = []
    · subst hnil
      have hempty : (Node.element tag []).Writable := ⟨ht, ha, hc⟩
      exact after_parted_single ⟨_, by rw [written]; rfl⟩ hempty hs hp
    rw [written, if_neg (by simpa using hnil)] at hp
    obtain ⟨fs₀, rfl, hinside⟩ := hp.head
    obtain ⟨fs₁, fs₂, k, rfl, hcontent, hend⟩ := hinside.append_inv
    rw [sources_cons, source_start, sources_append]
    refine (after_start ht hs).append fun b₁ ⟨read, scope', hbare, hagree, hb₁⟩ => ?_
    subst hb₁
    refine (afterAll_parted _ children _ hc hagree hcontent).append fun b₂ ⟨ms, hms, hb₂⟩ => ?_
    subst hb₂
    -- the line break before the end tag is one more child
    obtain rfl | ⟨v, rfl, hv, rfl⟩ := hend.single_inv
    · exact after_close ht ha hbare hms
    · rw [sources_cons]
      refine (after_lineBreak hv _).append fun b₃ hb₃ => ?_
      rw [hb₃, ← List.foldl_concat Builder.add _ (.text v) ms]
      exact after_close ht ha hbare (hms.append_line hv)
  | .text value, b, fs, g, h, hs, hp => after_parted_single ⟨_, rfl⟩ h hs hp
  | .cdata value, b, fs, g, h, hs, hp => after_parted_single ⟨_, rfl⟩ h hs hp
  | .comment value, b, fs, g, h, hs, hp => after_parted_single ⟨_, rfl⟩ h hs hp
  | .instruction target data, b, fs, g, h, hs, hp => after_parted_single ⟨_, rfl⟩ h hs hp
  | .doctype value, b, fs, g, h, hs, hp => after_parted_single ⟨_, rfl⟩ h hs hp
  | .reference name, b, fs, g, h, hs, hp => after_parted_single ⟨_, rfl⟩ h hs hp
  | .declaration _, _, _, _, h, _, _ => h.elim

/-- Writable siblings with line breaks are read one after the other, each line break as a text. -/
theorem afterAll_parted (bindings : Bindings) : ∀ (nodes : List Node) (b : Builder)
    {fs : List Event} {f g : Bool}, WritableAll nodes → Agrees bindings b.scope →
    Parted f (writtenAll bindings nodes) fs g → b.After (sources fs) fun b' =>
      ∃ ms, Spread f ms (repairAll bindings nodes) g ∧ b' = ms.foldl Builder.add b
  | [], b, fs, f, g, _, _, hp => by
    cases hp
    exact .nil ⟨[], .nil _, rfl⟩
  | node :: rest, b, fs, f, g, h, hs, hp => by
    rw [writtenAll] at hp
    obtain ⟨fs₁, fs₂, k, rfl, hfirst, hrest⟩ := hp.append_inv
    obtain rfl := flag_written hfirst
    have hread {fs₁ : List Event}
        (hfirst : Parted false (node.written bindings) fs₁ (!node.isInline)) {b : Builder}
        (hs : Agrees bindings b.scope) (f : Bool) :
        b.After (sources (fs₁ ++ fs₂)) fun b' => ∃ ms,
          Spread f ms (repairAll bindings (node :: rest)) g ∧ b' = ms.foldl Builder.add b := by
      rw [sources_append]
      refine (after_parted bindings node b h.1 hs hfirst).append fun b₁ ⟨m, hm, hb₁⟩ => ?_
      have hs₁ : Agrees bindings b₁.scope := hb₁ ▸ Builder.agrees_add hs m
      refine (afterAll_parted bindings rest b₁ h.2 hs₁ hrest).mono fun b₂ ⟨ms, hms, hb₂⟩ => ?_
      refine ⟨m :: ms, .cons hm ?_, by rw [hb₂, hb₁]; rfl⟩
      rwa [isInline_repair]
    obtain ⟨e, es, he, hinline⟩ := exists_head_written bindings node
    rw [he] at hfirst
    obtain hplain | ⟨v, fs', rfl, hne, hv, rfl, hplain⟩ := hfirst.cases_line
    · exact hread (he ▸ hplain) hs f
    · rw [List.cons_append, sources_cons]
      refine (after_lineBreak hv b).append fun b₁ hb₁ => ?_
      have hs₁ : Agrees bindings b₁.scope := hb₁ ▸ Builder.agrees_add hs (.text v)
      refine (hread (he ▸ hplain) hs₁ false).mono fun b₂ ⟨ms, hms, hb₂⟩ => ?_
      refine ⟨.text v :: ms, .line hv (fun n hn => ?_) hms, by rw [hb₂, hb₁]; rfl⟩
      rw [← Option.some.inj hn, isInline_repair, ← hinline, hne]

end

end Node

/-! ## Elements that are printed -/

/-- A text that is printed of an element begins with a tag. -/
theorem head?_sources_parted {bindings : Bindings} {tag : Tag} {children : List Node}
    {fs : List Event} {g : Bool}
    (hp : Parted false ((Node.element tag children).written bindings) fs g) :
    (sources fs).head? = some '<' := by
  rw [Node.written] at hp
  split at hp
  · obtain ⟨_, rfl, -⟩ := hp.head
    rw [sources_cons, source_empty]
    rfl
  · obtain ⟨_, rfl, -⟩ := hp.head
    rw [sources_cons, source_start]
    rfl

/-- A writable element is read from what is printed of it, whatever the indentation. -/
theorem parse_printNodes {tag : Tag} {children : List Node}
    (h : (Node.element tag children).Writable) (indent : Option Nat) (uri : Option Uri) :
    ∃ m : Node, Document.parse (printNodes indent [.element tag children]) uri = .ok ⟨uri, [m]⟩ ∧
      m.Alike ((Node.element tag children).repair []) := by
  obtain ⟨fs, g, hp, -, ht⟩ := toList_printNodes indent [.element tag children]
  rw [Node.writtenAll, Node.writtenAll, List.append_nil] at hp
  have hread := Node.after_parted [] (.element tag children) .start h Agrees.initial hp
  rw [← ht] at hread
  have hmark : (printNodes indent [.element tag children]).toList.head? ≠ some '\ufeff' := by
    rw [ht, head?_sources_parted hp]
    decide
  obtain ⟨b, ⟨m, hm, rfl⟩, hparse⟩ := Builder.parse_of_after hread hmark uri
  have helement : m.element?.isSome = true := by
    have hcondensed := hm.condensed
    cases m <;> first | rfl | (simp [Node.repair, Node.bare, Node.condensed] at hcondensed)
  exact ⟨m, hparse.trans (finish_add helement [] uri), hm⟩

/-- **Indentation adds nothing but white space between tags.** A writable element that is printed
with any indentation and the same element printed without are both read. Without their blank texts
the trees are the same, the positions of their tags aside: the names, the attributes and the
documents of all tags, and all leaves. -/
theorem parse_printNodes_alike {tag : Tag} {children : List Node}
    (h : (Node.element tag children).Writable) (width : Nat) (uri : Option Uri) :
    ∃ indented plain,
      Document.parse (printNodes (some width) [.element tag children]) uri = .ok indented ∧
      Document.parse (printNodes none [.element tag children]) uri = .ok plain ∧
      Node.condensedAll (Node.bareAll indented.children) =
        Node.condensedAll (Node.bareAll plain.children) ∧
      ∀ t ∈ Node.tagsAll indented.children ++ Node.tagsAll plain.children, t.document = uri := by
  obtain ⟨m, hm, halike⟩ := parse_printNodes h (some width) uri
  obtain ⟨n, hn, halike'⟩ := parse_printNodes h none uri
  refine ⟨_, _, hm, hn, ?_, fun t ht => ?_⟩
  · have hsame : m.Alike n :=
      ⟨halike.text.trans halike'.text.symm, halike.condensed.trans halike'.condensed.symm⟩
    exact Spread.condensed (.cons (f := false) hsame (.nil _))
  · rcases List.mem_append.mp ht with ht | ht
    · exact document_of_parse hm t ht
    · exact document_of_parse hn t ht

/-- A tree with text between its elements, some of it blank. -/
def mixed : Node :=
  .element ⟨.plain "r", [], none, none⟩
    [.element ⟨.plain "a", [], none, none⟩
        [.text "x", .element ⟨.plain "b", [], none, none⟩ [], .comment "note"],
      .text " ", .element ⟨.plain "c", [], none, none⟩ [.cdata "y"]]

theorem parse_printNodes_alike_mixed : mixed.Writable ∧
    ∃ indented plain,
      Document.parse (printNodes (some 2) [mixed]) none = .ok indented ∧
      Document.parse (printNodes none [mixed]) none = .ok plain ∧
      Node.condensedAll (Node.bareAll indented.children) =
        Node.condensedAll (Node.bareAll plain.children) ∧
      ∀ t ∈ Node.tagsAll indented.children ++ Node.tagsAll plain.children, t.document = none := by
  have htag {name : String} (h : isNCName name.toList = true) :
      Tag.Writable ⟨.plain name, [], none, none⟩ := .of_name (.of_plain h) _ _
  have htext {v : String} (h : v ≠ "") : (Node.text v).Writable := h
  have ha : (Node.element ⟨.plain "a", [], none, none⟩
      [.text "x", .element ⟨.plain "b", [], none, none⟩ [], .comment "note"]).Writable := by
    refine ⟨htag (by decide), by simp [Apart, Node.text?], htext (by decide),
      ⟨htag (by decide), trivial, trivial⟩, ?_, trivial⟩
    show Text.contains ['-', '-', '>'] "note".toList = false
    decide
  have hc : (Node.element ⟨.plain "c", [], none, none⟩ [.cdata "y"]).Writable := by
    refine ⟨htag (by decide), by simp [Apart], ?_, trivial⟩
    show Text.contains [']', ']', '>'] "y".toList = false
    decide
  have h : mixed.Writable :=
    ⟨htag (by decide), by simp [Apart, Node.text?], ha, htext (by decide), hc, trivial⟩
  exact ⟨h, parse_printNodes_alike h 2 none⟩

example : printNodes (some 2) [mixed] =
    "<r>\n  <a>x<b/>\n    <!--note-->\n  </a> <c><![CDATA[y]]></c>\n</r>" := by
  decide +kernel

end XmlTemplate.Markup
