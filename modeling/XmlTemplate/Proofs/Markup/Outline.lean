import XmlTemplate.Proofs.Markup.Reading

/-!
# What matters for reading

Whether a text is read depends on the elements that are open and on there being an element at the
top level, and on nothing else that was read before.

* `Builder.outline`: the names and the scopes of the open elements.
* `Builder.Takes b nodes b'`: as far as further reading is concerned, `b'` is `b` with `nodes`.
* `Builder.Alike`: builders that read the same texts. `fed_alike`, `run_alike`: the step and the
  run.
* `parse_iff_reads`: a byte order mark that the lexer drops could as well have been read.
-/

namespace XmlTemplate.Markup.Builder

/-! ## What matters for further reading -/

/-- The names and the scopes of the elements that are open. -/
def outline (b : Builder) : List (String × Scope) :=
  b.opened.map fun e => (e.tag.name.qualified, e.scope)

/-- The same elements are open, and the top level has the given nodes in addition, as far as they
are elements. -/
structure Takes (b : Builder) (nodes : List Node) (b' : Builder) : Prop where
  outline : b'.outline = b.outline
  rooted : b.Rooted → b'.Rooted
  root : b.opened = [] → (∃ n ∈ nodes, n.element?.isSome = true) → b'.Rooted

variable {b b' b'' : Builder}

theorem scope_eq (b : Builder) : b.scope = (b.outline.head?.map (·.2)).getD .initial := by
  unfold scope outline
  cases b.opened <;> rfl

theorem outline_push (b : Builder) (n : Node) : (b.push n).outline = b.outline := by
  unfold push outline
  split
  · rename_i h
    rw [h]
    rfl
  · rfl

theorem outline_pushText (b : Builder) (s : String) : (b.pushText s).outline = b.outline := by
  unfold pushText outline
  split
  · rename_i h
    rw [h]
    rfl
  · rfl

theorem opened_eq_nil_iff (b : Builder) : b.opened = [] ↔ b.outline = [] := List.map_eq_nil_iff.symm

/-- What an outline begins with is the innermost open element. -/
theorem exists_of_outline_eq_cons {name : String} {scope : Scope} {outer : List (String × Scope)}
    (h : b.outline = (name, scope) :: outer) :
    ∃ e rest, b = ⟨e :: rest, b.top⟩ ∧ e.tag.name.qualified = name ∧
      Builder.outline ⟨rest, b.top⟩ = outer := by
  obtain ⟨opened, top⟩ := b
  obtain ⟨e, rest, rfl, hfirst, hrest⟩ := List.map_eq_cons_iff.mp h
  exact ⟨e, rest, rfl, (Prod.mk.inj hfirst).1, hrest⟩

theorem rooted_pushNode {nodes : List Node} {s : String} :
    (∃ n ∈ pushNode nodes (.text s), n.element?.isSome = true) ↔
      ∃ n ∈ nodes, n.element?.isSome = true := by
  unfold pushNode
  split <;> simp [Node.element?]

theorem rooted_pushText {s : String} : (b.pushText s).Rooted ↔ b.Rooted := by
  unfold pushText Rooted
  split
  · exact Iff.rfl
  · exact rooted_pushNode

theorem Rooted.push (h : b.Rooted) (n : Node) : (b.push n).Rooted := by
  obtain ⟨m, hm, he⟩ := h
  unfold Builder.push
  split
  · exact ⟨m, hm, he⟩
  · exact ⟨m, List.mem_cons_of_mem _ hm, he⟩

theorem rooted_push_element (h : b.opened = []) {n : Node} (hn : n.element?.isSome = true) :
    (b.push n).Rooted := by
  unfold Builder.push
  rw [h]
  exact ⟨n, List.mem_cons_self .., hn⟩

namespace Takes

theorem nil (b : Builder) : b.Takes [] b :=
  ⟨rfl, id, fun _ ⟨_, hn, _⟩ => (List.not_mem_nil hn).elim⟩

theorem scope (h : b.Takes nodes b') : b'.scope = b.scope := by
  rw [scope_eq, scope_eq, h.outline]

theorem append {nodes more : List Node} (h : b.Takes nodes b') (h' : b'.Takes more b'') :
    b.Takes (nodes ++ more) b'' where
  outline := h'.outline.trans h.outline
  rooted hr := h'.rooted (h.rooted hr)
  root ho := by
    rintro ⟨n, hn, he⟩
    rcases List.mem_append.mp hn with hn | hn
    · exact h'.rooted (h.root ho ⟨n, hn, he⟩)
    · refine h'.root ?_ ⟨n, hn, he⟩
      rw [opened_eq_nil_iff, h.outline, ← opened_eq_nil_iff]
      exact ho

theorem push (b : Builder) (n : Node) : b.Takes [n] (b.push n) where
  outline := outline_push b n
  rooted h := h.push n
  root ho := fun ⟨m, hm, he⟩ =>
    rooted_push_element ho (by rw [← List.mem_singleton.mp hm]; exact he)

theorem pushText (b : Builder) (s : String) : b.Takes [] (b.pushText s) where
  outline := outline_pushText b s
  rooted := rooted_pushText.mpr
  root _ := fun ⟨_, hn, _⟩ => (List.not_mem_nil hn).elim

/-- One element is as good as another. -/
theorem element {tag tag' : Tag} {children children' : List Node}
    (h : b.Takes [.element tag children] b') : b.Takes [.element tag' children'] b' where
  outline := h.outline
  rooted := h.rooted
  root ho := fun _ => h.root ho ⟨_, List.mem_cons_self .., rfl⟩

/-- A declaration goes to the top level. -/
theorem declaration (b : Builder) (d : Declaration) :
    b.Takes [] { b with top := .declaration d :: b.top } where
  outline := rfl
  rooted := fun ⟨n, hn, he⟩ => ⟨n, List.mem_cons_of_mem _ hn, he⟩
  root _ := fun ⟨_, hn, _⟩ => (List.not_mem_nil hn).elim

/-- Nodes that are no elements may be other ones. -/
theorem leaf {n : Node} (hn : n.element?.isSome = false) (h : b.Takes nodes b') :
    b.Takes [n] b' where
  outline := h.outline
  rooted := h.rooted
  root _ := fun ⟨m, hm, he⟩ => by
    rw [List.mem_singleton.mp hm, hn] at he
    cases he

end Takes

/-! ## Builders that are alike -/

/-- The same elements are open, and there is an element at the top level of both or of none. -/
structure Alike (b b' : Builder) : Prop where
  outline : b.outline = b'.outline
  rooted : b.Rooted ↔ b'.Rooted

namespace Alike

variable {b b' : Builder} (h : b.Alike b')

include h

theorem scope : b.scope = b'.scope := by
  rw [scope_eq, scope_eq, h.outline]

theorem names : b.names = b'.names := by
  have hnames (b : Builder) : b.names = b.outline.map (·.1.toList) := by
    simp [Builder.names, Builder.outline]
  rw [hnames, hnames, h.outline]

theorem opened_eq_nil : b.opened = [] ↔ b'.opened = [] := by
  rw [opened_eq_nil_iff, opened_eq_nil_iff, h.outline]

theorem pushText (s t : String) : (b.pushText s).Alike (b'.pushText t) where
  outline := by rw [outline_pushText, outline_pushText, h.outline]
  rooted := by rw [rooted_pushText, rooted_pushText, h.rooted]

omit h in
theorem rooted_push {b : Builder} {n : Node} :
    (b.push n).Rooted ↔ b.Rooted ∨ b.opened = [] ∧ n.element?.isSome = true := by
  unfold Builder.push Rooted
  split
  · rename_i ho
    simp [ho]
  · rename_i ho
    simp [ho, or_comm]

theorem push {n m : Node} (hn : n.element?.isSome = m.element?.isSome) :
    (b.push n).Alike (b'.push m) where
  outline := by rw [outline_push, outline_push, h.outline]
  rooted := by rw [rooted_push, rooted_push, h.rooted, h.opened_eq_nil, hn]

theorem open_element {e e' : OpenElement} (hn : e.tag.name.qualified = e'.tag.name.qualified)
    (hs : e.scope = e'.scope) :
    Alike ⟨e :: b.opened, b.top⟩ ⟨e' :: b'.opened, b'.top⟩ where
  outline := by
    show (_, _) :: b.outline = (_, _) :: b'.outline
    rw [hn, hs, h.outline]
  rooted := h.rooted

/-- Without the innermost element of each they are alike. -/
theorem inner {e : OpenElement} {rest : List OpenElement} (ho : b.opened = e :: rest) :
    ∃ e' rest', b'.opened = e' :: rest' ∧ e.tag.name.qualified = e'.tag.name.qualified ∧
      Alike ⟨rest, b.top⟩ ⟨rest', b'.top⟩ := by
  obtain ⟨opened, top⟩ := b
  cases ho
  obtain ⟨e', rest', hb', hname, hrest⟩ := exists_of_outline_eq_cons h.outline.symm
  exact ⟨e', rest', congrArg Builder.opened hb', hname.symm, hrest.symm, h.rooted⟩

theorem declaration (d : Declaration) :
    Alike { b with top := .declaration d :: b.top }
      { b' with top := .declaration d :: b'.top } where
  outline := h.outline
  rooted := by
    have hcons (b : Builder) :
        Rooted { b with top := .declaration d :: b.top } ↔ b.Rooted := by
      simp [Rooted, Node.element?]
    rw [hcons, hcons, h.rooted]

end Alike

/-! ## Tags -/

theorem readAttributes_offset {scope : Scope} {offset offset' : Nat} {raw : List RawAttribute}
    {attributes : List Attribute} (h : readAttributes scope offset raw = .ok attributes) :
    readAttributes scope offset' raw = .ok attributes := by
  induction raw generalizing attributes with
  | nil => exact h
  | cons a rest ih =>
    obtain ⟨value, name, others, hvalue, hname, hrest, hattributes⟩ :=
      readAttributes_cons_eq_ok_iff.mp h
    exact readAttributes_cons_eq_ok_iff.mpr
      ⟨value, name, others, hvalue, hname, ih hrest, hattributes⟩

/-- A tag that is read at one place is read at any other place. -/
theorem readTag_place {scope scope' : Scope} {place : Place} (place' : Place)
    {inside : List Char} {tag : Tag} (h : readTag scope place inside = .ok (tag, scope')) :
    ∃ tag' : Tag, tag'.name = tag.name ∧ readTag scope place' inside = .ok (tag', scope') := by
  obtain ⟨hd, hn, ha, hf, -, -⟩ := readTag_eq_ok_iff.mp h
  refine ⟨⟨tag.name, tag.attributes, some (.ofOffset place'.starts place'.offset),
    place'.document⟩, rfl, ?_⟩
  exact readTag_eq_ok_iff.mpr ⟨hd, hn, readAttributes_offset ha, hf, rfl, rfl⟩

/-! ## Tokens -/

/-- One token leads from builders that are alike to such again. -/
theorem fed_alike {b b' c : Builder} (h : b.Alike b') {place : Place} (place' : Place)
    {t : Token} (hf : b.Fed place t c) : ∃ c', b'.Fed place' t c' ∧ c.Alike c' := by
  cases hf with
  | text chars => exact ⟨_, .text chars, h.pushText _ _⟩
  | number hc => exact ⟨_, .number hc, h.pushText _ _⟩
  | character hs hc => exact ⟨_, .character hs hc, h.pushText _ _⟩
  | reference hs hn => exact ⟨_, .reference hs hn, h.push rfl⟩
  | start hr =>
    obtain ⟨tag', hname, hr'⟩ := readTag_place place' hr
    rw [h.scope] at hr'
    exact ⟨_, .start hr', h.open_element (by rw [hname]) rfl⟩
  | empty hr =>
    obtain ⟨tag', hname, hr'⟩ := readTag_place place' hr
    rw [h.scope] at hr'
    exact ⟨_, .empty hr', h.push rfl⟩
  | @finish inside e rest ho he =>
    obtain ⟨e', rest', ho', hname, hinner⟩ := h.inner ho
    exact ⟨_, .finish ho' (hname.symm.trans he), hinner.push rfl⟩
  | comment chars => exact ⟨_, .comment chars, h.push rfl⟩
  | cdata chars => exact ⟨_, .cdata chars, h.push rfl⟩
  | doctype keyword chars => exact ⟨_, .doctype keyword chars, h.push rfl⟩
  | declaration ht hd => exact ⟨_, .declaration ht hd, h.declaration _⟩
  | instruction hi => exact ⟨_, .instruction hi, h.push rfl⟩

/-! ## Documents -/

/-- The next token does not depend on the offset. -/
theorem next_offset {l l' : Lexer} {t : Token} (offset : Nat) (h : l.next = .ok (some (t, l'))) :
    ∃ offset', Lexer.next ⟨offset, l.names, l.rest⟩ =
      .ok (some (t, ⟨offset', l'.names, l'.rest⟩)) := by
  obtain ⟨hne, hs, hn, hc, -⟩ := scan_of_next h
  have hd : Lexer.checkDoctype offset t = .ok () := checkDoctype_of_named hn offset
  exact ⟨_, next_of_scan (l := ⟨offset, l.names, l.rest⟩) hne hs hd hc⟩

/-- A text is read after nodes that are alike. -/
theorem run_alike {b b' : Builder} (h : b.Alike b') {starts : List Nat} {uri : Option Uri}
    {l : Lexer} {d : Document} (hr : b.run starts uri l = .ok d) (offset : Nat) :
    ∃ d', b'.run starts uri ⟨offset, l.names, l.rest⟩ = .ok d' := by
  fun_induction Builder.run starts uri b l generalizing b' offset with
  | case1 | case3 => cases hr
  | case2 b l hnext =>
    obtain ⟨ho, hroot, -⟩ := finish_eq_ok_iff.mp hr
    have hrest : l.rest = [] := rest_of_next_none hnext
    have hrun := @run_of_nil ⟨offset, l.names, l.rest⟩ hrest b' starts uri
    rw [hrun]
    exact ⟨_, finish_eq_ok_iff.mpr ⟨h.opened_eq_nil.mp ho, h.rooted.mp hroot, rfl⟩⟩
  | case4 b l t l' hnext c hfeed ih =>
    obtain ⟨offset', hnext'⟩ := next_offset offset hnext
    obtain ⟨c', hfed, hc⟩ := fed_alike h ⟨starts, uri, offset⟩ (feed_eq_ok_iff.mp hfeed)
    obtain ⟨d', hd'⟩ := ih hc hr offset'
    refine ⟨d', ?_⟩
    rw [run_of_next hnext']
    simp only [feed_eq_ok_iff.mpr hfed]
    exact hd'

/-- Whether a text is read after nodes that are alike is the same. -/
theorem reads_alike {b b' : Builder} (h : b.Alike b') {starts : List Nat} {uri : Option Uri}
    {s : List Char} (offset offset' : Nat) :
    (∃ d, b.reads starts uri offset s = .ok d) ↔ ∃ d, b'.reads starts uri offset' s = .ok d := by
  have step {b b' : Builder} (h : b.Alike b') (offset offset' : Nat)
      (hr : ∃ d, b.reads starts uri offset s = .ok d) :
      ∃ d, b'.reads starts uri offset' s = .ok d := by
    obtain ⟨d, hd⟩ := hr
    unfold reads at hd ⊢
    rw [← h.names]
    exact run_alike h hd offset'
  exact ⟨step h offset offset', step ⟨h.outline.symm, h.rooted.symm⟩ offset' offset⟩

/-- A text is read as a document if it is read from the start: a byte order mark that is dropped
could as well have been read as text. -/
theorem parse_iff_reads (text : String) (uri : Option Uri) :
    (∃ d, Document.parse text uri = .ok d) ↔
      ∃ d, start.reads (lineStarts text.toList) uri 0 text.toList = .ok d := by
  have hnames : start.names = [] := rfl
  unfold Document.parse
  simp only
  cases ht : text.toList with
  | nil => rfl
  | cons c r =>
    by_cases hc : c = '\ufeff'
    · subst hc
      have halike : start.Alike (start.pushText (String.singleton '\ufeff')) :=
        ⟨(outline_pushText ..).symm, rooted_pushText.symm⟩
      rw [reads_cons start _ uri 0 (by decide) (by decide) r]
      exact reads_alike halike 0 _
    · rw [ofText_eq (by simpa using hc)]
      rfl

/-- A text that is refused is no document. -/
theorem parse_of_refuses {text : String} (h : start.Refuses text.toList) (uri : Option Uri) :
    ∃ e, Document.parse text uri = .error e := by
  cases hp : Document.parse text uri with
  | error e => exact ⟨e, rfl⟩
  | ok d =>
    obtain ⟨d, hread⟩ := (parse_iff_reads text uri).mp ⟨d, hp⟩
    obtain ⟨e, he⟩ := h (lineStarts text.toList) uri 0 []
    rw [List.append_nil, hread] at he
    cases he

end XmlTemplate.Markup.Builder
