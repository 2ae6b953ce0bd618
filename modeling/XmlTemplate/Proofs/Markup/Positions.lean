import XmlTemplate.Proofs.Markup.Sound

/-!
# Positions of elements

An element is where its start tag is. The place is an offset in octets, which is looked up among the
beginnings of lines.

* `lineStarts_pairwise`, `Found`, `found_ofOffset`: the lookup of a line, which always succeeds.
* `Designates text p rest`: the text has `rest` at the line and the column of `p`.
  `Designates.unique`: nothing else stands there.
* `Token.Reached`, `TagAt`: a tag of a text, and what the text has there.
* `Builder.tags`: the tags that have been read, in their order. `Tracks`: what every token keeps.
* `positioned_of_parse`: the elements of a document are where their tags are.
-/

namespace XmlTemplate.Markup

/-! ## Lines -/

theorem octets_append (s t : List Char) : octets (s ++ t) = octets s + octets t := by
  induction s with
  | nil => exact (Nat.zero_add _).symm
  | cons c r ih =>
    rw [List.cons_append, Builder.octets_cons, Builder.octets_cons, ih, Nat.add_assoc]

theorem octets_pos {s : List Char} (h : s ≠ []) : 0 < octets s := by
  cases s with
  | nil => exact absurd rfl h
  | cons c r =>
    rw [Builder.octets_cons]
    exact Nat.add_pos_left c.utf8Size_pos _

theorem lineStartsFrom_cons (offset : Nat) (c : Char) (s : List Char) :
    lineStartsFrom offset (c :: s) = (if c = '\n' then [offset + c.utf8Size] else []) ++
      lineStartsFrom (offset + c.utf8Size) s := by
  rw [lineStartsFrom]
  by_cases hc : c = '\n' <;> simp [hc]

theorem lineStartsFrom_append (offset : Nat) (s t : List Char) :
    lineStartsFrom offset (s ++ t) =
      lineStartsFrom offset s ++ lineStartsFrom (offset + octets s) t := by
  induction s generalizing offset with
  | nil => rfl
  | cons c r ih =>
    rw [List.cons_append, lineStartsFrom_cons, ih, lineStartsFrom_cons, Builder.octets_cons,
      List.append_assoc, Nat.add_assoc]

/-- A line begins behind the line feed that ends the line before it. -/
theorem mem_lineStartsFrom {offset k : Nat} {s : List Char} (h : k ∈ lineStartsFrom offset s) :
    offset < k ∧ k ≤ offset + octets s := by
  induction s generalizing offset with
  | nil => cases h
  | cons c r ih =>
    rw [lineStartsFrom_cons, List.mem_append] at h
    rw [Builder.octets_cons]
    have hc := c.utf8Size_pos
    rcases h with h | h
    · split at h
      · rw [List.mem_singleton] at h
        omega
      · cases h
    · have := ih h
      omega

theorem lineStartsFrom_pairwise (offset : Nat) (s : List Char) :
    (lineStartsFrom offset s).Pairwise (· < ·) := by
  induction s generalizing offset with
  | nil => exact .nil
  | cons c r ih =>
    rw [lineStartsFrom_cons, List.pairwise_append]
    refine ⟨?_, ih _, ?_⟩
    · split
      · exact List.pairwise_singleton _ _
      · exact .nil
    · intro k hk l hl
      split at hk
      · rw [List.mem_singleton.mp hk]
        exact (mem_lineStartsFrom hl).1
      · cases hk

/-- The beginnings of lines are in their order. -/
theorem lineStarts_pairwise (text : List Char) : (lineStarts text).Pairwise (· < ·) :=
  .cons (fun _ hk => (mem_lineStartsFrom hk).1) (lineStartsFrom_pairwise 0 text)

theorem length_lineStartsFrom (offset : Nat) (s : List Char) :
    (lineStartsFrom offset s).length = s.count '\n' := by
  induction s generalizing offset with
  | nil => rfl
  | cons c r ih =>
    rw [lineStartsFrom_cons, List.length_append, ih, List.count_cons]
    by_cases hc : c = '\n' <;> simp [hc, Nat.add_comm]

theorem lineStartsFrom_of_not_mem {s : List Char} (h : '\n' ∉ s) (offset : Nat) :
    lineStartsFrom offset s = [] :=
  List.eq_nil_of_length_eq_zero (by rw [length_lineStartsFrom, List.count_eq_zero_of_not_mem h])

/-- The last line of a text and what is before it. -/
theorem exists_lastLine (s : List Char) : ∃ lines line, s = lines ++ line ∧
    (lines = [] ∨ lines.getLast? = some '\n') ∧ '\n' ∉ line := by
  induction s with
  | nil => exact ⟨[], [], rfl, .inl rfl, List.not_mem_nil⟩
  | cons c r ih =>
    obtain ⟨lines, line, rfl, hlines | hlines, hline⟩ := ih
    · subst hlines
      by_cases hc : c = '\n'
      · exact ⟨[c], line, rfl, .inr (by rw [hc]; rfl), hline⟩
      · exact ⟨[], c :: line, rfl, .inl rfl, by simp [hline, Ne.symm hc]⟩
    · refine ⟨c :: lines, line, rfl, .inr ?_, hline⟩
      rw [List.getLast?_cons, hlines]
      rfl

/-! ## Looking up a line -/

/-- The position `p` is the one of an offset: its line is the last one that begins at the offset or
before it, and its column counts the octets from there. -/
structure Found (starts : List Nat) (offset : Nat) (p : Position) : Prop where
  pos : 0 < p.line
  line : ∃ start, starts[p.line - 1]? = some start ∧ start ≤ offset ∧ p.column = offset - start + 1
  last : ∀ start ∈ starts.drop p.line, offset < start

/-- There is a line for every offset. -/
theorem found_ofOffset (text : List Char) (offset : Nat) :
    Found (lineStarts text) offset (.ofOffset (lineStarts text) offset) := by
  have hsplit := List.takeWhile_append_dropWhile (p := (· ≤ offset)) (l := lineStarts text)
  have hsorted := lineStarts_pairwise text
  -- the first line begins at 0, so there is a line that has begun
  have hbegun : (lineStarts text).takeWhile (· ≤ offset) ≠ [] := by
    simp [lineStarts]
  have hall := List.all_eq_true.mp (List.all_takeWhile (p := (· ≤ offset)) (l := lineStarts text))
  unfold Position.ofOffset
  generalize (lineStarts text).takeWhile (· ≤ offset) = begun at *
  generalize hlater : (lineStarts text).dropWhile (· ≤ offset) = later at *
  rw [← hsplit]
  have hpos := List.length_pos_iff.mpr hbegun
  refine ⟨hpos, ⟨begun.getLast hbegun, ?_, ?_, ?_⟩, ?_⟩
  · rw [List.getElem?_append_left (by simpa using hpos), List.getLast_eq_getElem,
      List.getElem?_eq_getElem]
  · simpa using hall _ (List.getLast_mem hbegun)
  · show offset - begun.getLastD 0 + 1 = offset - begun.getLast hbegun + 1
    rw [List.getLastD_eq_getLast?, List.getLast?_eq_some_getLast hbegun, Option.getD_some]
  · intro start hstart
    rw [List.drop_left] at hstart
    -- the first line that has not begun is not the last one of these only
    obtain _ | ⟨first, rest⟩ := later
    · cases hstart
    · have hfirst : offset < first := by
        have := List.head?_dropWhile_not (p := (· ≤ offset)) (l := lineStarts text)
        rw [hlater] at this
        simpa using this
      rcases List.mem_cons.mp hstart with rfl | hrest
      · exact hfirst
      · rw [← hsplit, List.pairwise_append] at hsorted
        exact hfirst.trans (List.rel_of_pairwise_cons hsorted.2.1 hrest)

/-- A position is before another one in the order of a text. -/
def Position.Before (p q : Position) : Prop :=
  p.line < q.line ∨ p.line = q.line ∧ p.column < q.column

/-- The order of offsets is the one of their positions. -/
theorem Found.before {starts : List Nat} {i j : Nat} {p q : Position} (hp : Found starts i p)
    (hq : Found starts j q) (h : i < j) : p.Before q := by
  obtain ⟨start, hstart, hle, hcolumn⟩ := hp.line
  obtain ⟨start', hstart', hle', hcolumn'⟩ := hq.line
  rcases Nat.lt_trichotomy p.line q.line with hlt | heq | hgt
  · exact .inl hlt
  · refine .inr ⟨heq, ?_⟩
    rw [heq, hstart'] at hstart
    cases hstart
    omega
  · -- the line of `p` would begin behind `j`
    have hmem : start ∈ starts.drop q.line := by
      refine List.mem_iff_getElem?.mpr ⟨p.line - 1 - q.line, ?_⟩
      rw [List.getElem?_drop, ← hstart]
      congr 1
      omega
    exact absurd (hq.last start hmem) (by omega)

/-! ## Designated places -/

/-- The text has `rest` at the line and the column of `p`. Lines are separated by line feeds, and
columns count octets from 1. -/
def Designates (text : List Char) (p : Position) (rest : List Char) : Prop :=
  ∃ lines line, text = lines ++ line ++ rest ∧ (lines = [] ∨ lines.getLast? = some '\n') ∧
    '\n' ∉ line ∧ p.line = lines.count '\n' + 1 ∧ p.column = octets line + 1

/-- A position designates one place only. -/
theorem Designates.unique {text rest rest' : List Char} {p : Position}
    (h : Designates text p rest) (h' : Designates text p rest') : rest = rest' := by
  -- of two prefixes of a text the one that measures no more than the other is the shorter one
  have hsame {s t u v : List Char} (he : s ++ t = u ++ v)
      (hmore : ∀ x, (s = u ++ x ∨ u = s ++ x) → x = []) : s = u ∧ t = v := by
    rcases List.append_eq_append_iff.mp he with ⟨x, rfl, rfl⟩ | ⟨x, rfl, rfl⟩
    · rw [hmore x (.inr rfl)]
      simp
    · rw [hmore x (.inl rfl)]
      simp
  have hends {s x : List Char} (hs : s ++ x = [] ∨ (s ++ x).getLast? = some '\n')
      (hcount : (s ++ x).count '\n' = s.count '\n') : x = [] := by
    by_contra hx
    rw [List.count_append, Nat.add_eq_left, List.count_eq_zero] at hcount
    rcases hs with hs | hs
    · exact hx (List.append_eq_nil_iff.mp hs).2
    · rw [List.getLast?_append_of_ne_nil _ hx] at hs
      exact hcount (List.mem_of_getLast? hs)
  obtain ⟨lines, line, htext, hlines, hline, hp, hc⟩ := h
  obtain ⟨lines', line', htext', hlines', hline', hp', hc'⟩ := h'
  have he : lines ++ (line ++ rest) = lines' ++ (line' ++ rest') := by
    rw [← List.append_assoc, ← List.append_assoc, ← htext, ← htext']
  obtain ⟨rfl, hrest⟩ := hsame he fun x hx => by
    rcases hx with rfl | rfl
    · exact hends hlines (by omega)
    · exact hends hlines' (by omega)
  refine (hsame hrest fun x hx => ?_).2
  by_contra hne
  have hpos := octets_pos hne
  rcases hx with rfl | rfl <;> rw [octets_append] at * <;> omega

theorem getLastD_lineStarts {lines : List Char} (h : lines = [] ∨ lines.getLast? = some '\n') :
    (lineStarts lines).getLastD 0 = octets lines := by
  rcases h with rfl | h
  · rfl
  · obtain ⟨before, rfl⟩ := List.getLast?_eq_some_iff.mp h
    rw [lineStarts, lineStartsFrom_append, octets_append, Nat.zero_add]
    have hfeed : lineStartsFrom (octets before) ['\n'] = [octets before + octets ['\n']] := rfl
    rw [hfeed, ← List.cons_append, List.getLastD_concat]

/-- The position of an offset designates what stands behind so many octets. -/
theorem designates_ofOffset (before rest : List Char) :
    Designates (before ++ rest) (.ofOffset (lineStarts (before ++ rest)) (octets before)) rest := by
  obtain ⟨lines, line, rfl, hlines, hline⟩ := exists_lastLine before
  have hbegun : (lineStarts (lines ++ line ++ rest)).takeWhile (· ≤ octets (lines ++ line)) =
      lineStarts lines := by
    have hsplit : lineStarts (lines ++ line ++ rest) =
        lineStarts lines ++ lineStartsFrom (octets (lines ++ line)) rest := by
      rw [lineStarts, lineStartsFrom_append, lineStartsFrom_append,
        lineStartsFrom_of_not_mem hline, List.append_nil, Nat.zero_add]
      rfl
    rw [hsplit, List.takeWhile_append_of_pos]
    · have hlater (k : Nat) (hk : k ∈ lineStartsFrom (octets (lines ++ line)) rest) :
          ¬ k ≤ octets (lines ++ line) := Nat.not_le.mpr (mem_lineStartsFrom hk).1
      rw [List.takeWhile_eq_nil_iff.mpr, List.append_nil]
      exact fun h => by simpa using hlater _ (List.getElem_mem h)
    · intro k hk
      have hle : k ≤ octets lines := by
        rcases List.mem_cons.mp hk with rfl | hk
        · exact Nat.zero_le _
        · simpa using (mem_lineStartsFrom hk).2
      rw [octets_append]
      simp only [decide_eq_true_eq]
      omega
  refine ⟨lines, line, rfl, hlines, hline, ?_, ?_⟩
  · rw [Position.ofOffset, hbegun, lineStarts, List.length_cons, length_lineStartsFrom]
  · rw [Position.ofOffset, hbegun, getLastD_lineStarts hlines, octets_append]
    dsimp only
    omega

/-! ## Tags in a text -/

/-- What is left of a text when some of its tokens have been read. -/
inductive Token.Reached (text : List Char) : List Char → Prop where
  | start : Reached text text
  | next {s rest : List Char} {t : Token} : Reached text s → s ≠ [] →
    Token.scan s = .ok (t, rest) → Reached text rest

/-- One of the tokens of a text is a start tag or an empty tag with the given name, and the text
from there on is `s`. -/
structure TagAt (text : List Char) (name : String) (s : List Char) : Prop where
  token : ∃ inside rest, (Token.scan s = .ok (.start inside, rest) ∨
    Token.scan s = .ok (.empty inside, rest)) ∧ tagName inside = name.toList
  mark : '<' :: name.toList <+: s
  reached : Token.Reached text s

/-- A tag begins with its mark and its name. -/
theorem TagAt.of_scan {text s rest inside : List Char} {t : Token} {name : String}
    (ht : t = .start inside ∨ t = .empty inside) (hs : Token.scan s = .ok (t, rest))
    (hname : name.toList = tagName inside) (hreached : Token.Reached text s) :
    TagAt text name s where
  token := by
    rcases ht with rfl | rfl
    · exact ⟨inside, rest, .inl hs, hname.symm⟩
    · exact ⟨inside, rest, .inr hs, hname.symm⟩
  mark := by
    have hsource : '<' :: inside <+: t.source := by
      rcases ht with rfl | rfl <;> exact List.prefix_append _ _
    have hprefix : '<' :: name.toList <+: '<' :: inside := by
      rw [hname, List.cons_prefix_cons]
      exact ⟨rfl, List.takeWhile_prefix _⟩
    rw [Token.eq_append_of_scan hs]
    exact hprefix.trans (hsource.trans (List.prefix_append _ _))
  reached := hreached

/-- A tag of a text, behind `offset` octets, with its position. -/
def Marks (text : List Char) (tag : Tag) (offset : Nat) : Prop :=
  ∃ before rest, text = before ++ rest ∧ octets before = offset ∧
    TagAt text tag.name.qualified rest ∧
    tag.position = some (.ofOffset (lineStarts text) offset)

/-! ## Tags that have been read -/

namespace Node

theorem tagsAll_append (nodes more : List Node) :
    tagsAll (nodes ++ more) = tagsAll nodes ++ tagsAll more := by
  induction nodes with
  | nil => rfl
  | cons n rest ih => rw [List.cons_append, tagsAll, ih, tagsAll, List.append_assoc]

theorem tagsAll_reverse_cons (n : Node) (nodes : List Node) :
    tagsAll (n :: nodes).reverse = tagsAll nodes.reverse ++ n.tags := by
  rw [List.reverse_cons, tagsAll_append, tagsAll, tagsAll, List.append_nil]

/-- Texts do not count. -/
theorem tagsAll_reverse_pushNode (nodes : List Node) (s : String) :
    tagsAll (pushNode nodes (.text s)).reverse = tagsAll nodes.reverse := by
  unfold pushNode
  split
  · simp only [tagsAll_reverse_cons, tags]
  · rw [tagsAll_reverse_cons, tags, List.append_nil]
    exact fun _ _ h => by cases h

end Node

/-- The tags of open elements and of the elements in them, in the order of the document. -/
def OpenElement.tagsAll : List OpenElement → List Tag
  | [] => []
  | e :: rest => tagsAll rest ++ e.tag :: Node.tagsAll e.children.reverse

namespace Builder

/-- The tags that have been read, in the order of the document. -/
def tags (b : Builder) : List Tag :=
  Node.tagsAll b.top.reverse ++ OpenElement.tagsAll b.opened

theorem tags_push (b : Builder) (n : Node) : (b.push n).tags = b.tags ++ n.tags := by
  unfold push tags
  split
  · rename_i ho
    rw [ho, OpenElement.tagsAll, OpenElement.tagsAll, Node.tagsAll_reverse_cons]
    simp only [List.append_assoc, List.cons_append]
  · rename_i ho
    simp only [ho, OpenElement.tagsAll, List.append_nil, Node.tagsAll_reverse_cons]

theorem tags_pushText (b : Builder) (s : String) : (b.pushText s).tags = b.tags := by
  unfold pushText tags
  split
  · rename_i ho
    rw [ho, OpenElement.tagsAll, OpenElement.tagsAll, Node.tagsAll_reverse_pushNode]
  · rename_i ho
    simp only [ho, OpenElement.tagsAll, Node.tagsAll_reverse_pushNode]

/-- A start tag or an empty tag is one more tag. No other token adds one, and none is lost. -/
theorem tags_of_fed {b b' : Builder} {place : Place} {t : Token} (h : b.Fed place t b') :
    b'.tags = b.tags ∨ ∃ inside tag scope, (t = .start inside ∨ t = .empty inside) ∧
      readTag b.scope place inside = .ok (tag, scope) ∧ b'.tags = b.tags ++ [tag] := by
  cases h with
  | text | number | character => exact .inl (tags_pushText b _)
  | reference | comment | cdata | doctype =>
    refine .inl ?_
    rw [tags_push, Node.tags, List.append_nil]
    exact fun _ _ h => by cases h
  | @instruction chars =>
    refine .inl ?_
    unfold readInstruction
    split <;> rw [tags_push, Node.tags, List.append_nil] <;> exact fun _ _ h => by cases h
  | declaration =>
    refine .inl ?_
    unfold tags
    rw [Node.tagsAll_reverse_cons, Node.tags, List.append_nil]
    exact fun _ _ h => by cases h
  | @start inside tag scope hr =>
    refine .inr ⟨inside, tag, scope, .inl rfl, hr, ?_⟩
    simp only [tags, OpenElement.tagsAll, List.reverse_nil, Node.tagsAll, List.append_assoc]
  | @empty inside tag scope hr =>
    refine .inr ⟨inside, tag, scope, .inr rfl, hr, ?_⟩
    rw [tags_push, Node.tags, Node.tagsAll]
  | finish ho =>
    refine .inl ?_
    rw [tags_push, Node.tags]
    unfold tags
    rw [ho, OpenElement.tagsAll, List.append_assoc]

/-! ## Reading a text -/

/-- What every token keeps: the tags that have been read are tags of the text, in this order, and
all of them come before what is left. -/
structure Tracks (text : List Char) (b : Builder) (l : Lexer) : Prop where
  reached : Token.Reached text l.rest
  offset : ∃ before, text = before ++ l.rest ∧ octets before = l.offset
  marked : ∀ tag ∈ b.tags, ∃ i < l.offset, Marks text tag i
  ascending : b.tags.Pairwise fun a c => ∃ i j, i < j ∧ Marks text a i ∧ Marks text c j

theorem Tracks.next {text : List Char} {uri : Option Uri} {b b' : Builder} {l l' : Lexer}
    {t : Token} (hnext : l.next = .ok (some (t, l')))
    (hfed : b.Fed ⟨lineStarts text, uri, l.offset⟩ t b') (h : Tracks text b l) :
    Tracks text b' l' := by
  obtain ⟨hne, hscan, -, -, hoffset⟩ := scan_of_next hnext
  obtain ⟨before, htext, hbefore⟩ := h.offset
  have hlt : l.offset < l'.offset := by
    rw [hoffset]
    exact Nat.lt_add_of_pos_right (octets_pos (Token.source_ne_nil_of_scan hne hscan))
  have hmarked (tag : Tag) (htag : tag ∈ b.tags) : ∃ i < l'.offset, Marks text tag i := by
    obtain ⟨i, hi, hmarks⟩ := h.marked tag htag
    exact ⟨i, hi.trans hlt, hmarks⟩
  have hread : text = (before ++ t.source) ++ l'.rest := by
    rw [List.append_assoc, ← Token.eq_append_of_scan hscan]
    exact htext
  suffices htags : (∀ tag ∈ b'.tags, ∃ i < l'.offset, Marks text tag i) ∧
      b'.tags.Pairwise fun a c => ∃ i j, i < j ∧ Marks text a i ∧ Marks text c j from
    ⟨h.reached.next hne hscan, ⟨_, hread, by rw [octets_append, hbefore, hoffset]⟩, htags.1,
      htags.2⟩
  obtain hsame | ⟨inside, tag, scope, ht, hread, hmore⟩ := tags_of_fed hfed
  · rw [hsame]
    exact ⟨hmarked, h.ascending⟩
  · have hmarks : Marks text tag l.offset :=
      ⟨before, l.rest, htext, hbefore, .of_scan ht hscan (qualified_of_readTag hread) h.reached,
        (readTag_eq_ok_iff.mp hread).2.2.2.2.1⟩
    rw [hmore]
    refine ⟨fun a ha => ?_, List.pairwise_append.mpr
      ⟨h.ascending, List.pairwise_singleton _ _, fun a ha c hc => ?_⟩⟩
    · rcases List.mem_append.mp ha with ha | ha
      · exact hmarked a ha
      · rw [List.mem_singleton.mp ha]
        exact ⟨l.offset, hlt, hmarks⟩
    · obtain ⟨i, hi, hbefore⟩ := h.marked a ha
      rw [List.mem_singleton.mp hc]
      exact ⟨i, l.offset, hi, hbefore, hmarks⟩

theorem Tracks.ofText {text : List Char} (h : text.head? ≠ some '\ufeff') :
    Tracks text start (.ofText text) := by
  rw [ofText_eq h]
  exact ⟨.start, ⟨[], rfl, rfl⟩, fun _ h => (List.not_mem_nil h).elim, .nil⟩

end Builder

/-! ## Documents -/

/-- All elements come from the document that the text is. -/
theorem document_of_parse {text : String} {uri : Option Uri} {d : Document}
    (h : Document.parse text uri = .ok d) :
    ∀ tag ∈ Node.tagsAll d.children, tag.document = uri := by
  obtain ⟨last, hlast, hfinish⟩ := Builder.invariant_of_run
    (I := fun b => ∀ tag ∈ b.tags, tag.document = uri) (fun {b b' l l' t} _ hfed hb => by
      obtain hsame | ⟨inside, tag, scope, -, hread, hmore⟩ := Builder.tags_of_fed hfed
      · rwa [hsame]
      · rw [hmore]
        intro a ha
        rcases List.mem_append.mp ha with ha | ha
        · exact hb a ha
        · rw [List.mem_singleton.mp ha]
          exact (readTag_eq_ok_iff.mp hread).2.2.2.2.2)
    (fun tag ht => (List.not_mem_nil ht).elim) h
  obtain ⟨-, -, rfl⟩ := Builder.finish_eq_ok_iff.mp hfinish
  exact fun tag ht => hlast tag (List.mem_append_left _ ht)

/-- The elements of a document are where their tags are in the text, and in that order. Every offset
of the text has a line. -/
structure Positioned (text : List Char) (tags : List Tag) : Prop where
  designated : ∀ tag ∈ tags, ∃ p rest, tag.position = some p ∧ Designates text p rest ∧
    TagAt text tag.name.qualified rest
  found : (lineStarts text).Pairwise (· < ·) ∧
    ∀ offset, Found (lineStarts text) offset (.ofOffset (lineStarts text) offset)
  ascending : tags.Pairwise fun a b =>
    ∃ p q, a.position = some p ∧ b.position = some q ∧ p.Before q

theorem Marks.designates {text : List Char} {tag : Tag} {offset : Nat}
    (h : Marks text tag offset) : ∃ p rest, tag.position = some p ∧ Designates text p rest ∧
      TagAt text tag.name.qualified rest := by
  obtain ⟨before, rest, rfl, rfl, htag, hposition⟩ := h
  exact ⟨_, rest, hposition, designates_ofOffset before rest, htag⟩

theorem Marks.before {text : List Char} {a b : Tag} {i j : Nat} (ha : Marks text a i)
    (hb : Marks text b j) (h : i < j) :
    ∃ p q, a.position = some p ∧ b.position = some q ∧ p.Before q := by
  obtain ⟨-, -, -, -, -, hp⟩ := ha
  obtain ⟨-, -, -, -, -, hq⟩ := hb
  exact ⟨_, _, hp, hq, (found_ofOffset text i).before (found_ofOffset text j) h⟩

/-- **Positions are those of start tags.** In a text that is read, and that does not begin with a
byte order mark, every element has the position of a start tag or of an empty tag with its name. The
elements come in the order of their positions, and no lookup of a line fails. -/
theorem positioned_of_parse {text : String} {uri : Option Uri} {d : Document}
    (h : Document.parse text uri = .ok d) (hb : text.toList.head? ≠ some '\ufeff') :
    Positioned text.toList (Node.tagsAll d.children) := by
  obtain ⟨last, l, htracks, hfinish⟩ := Builder.invariant_of_steps
    (fun hnext hfed => Builder.Tracks.next hnext hfed) (Builder.Tracks.ofText hb) h
  obtain ⟨hopened, -, rfl⟩ := Builder.finish_eq_ok_iff.mp hfinish
  have htags : last.tags = Node.tagsAll last.top.reverse := by
    rw [Builder.tags, hopened, OpenElement.tagsAll, List.append_nil]
  rw [← htags]
  refine ⟨fun tag ht => ?_, ⟨lineStarts_pairwise _, found_ofOffset _⟩,
    htracks.ascending.imp fun h => ?_⟩
  · obtain ⟨i, -, hmarks⟩ := htracks.marked tag ht
    exact hmarks.designates
  · obtain ⟨i, j, hlt, ha, hc⟩ := h
    exact ha.before hc hlt

/-- Two elements on two lines, the second one behind a character of two octets and a reference. -/
theorem positioned_of_parse_nested : ∃ d, Document.parse "<a\n>é\né&lt;<b/></a>" none = .ok d ∧
    "<a\n>é\né&lt;<b/></a>".toList.head? ≠ some '\ufeff' ∧
    (Node.tagsAll d.children).map (·.position) = [some ⟨1, 1⟩, some ⟨3, 7⟩] ∧
    Positioned "<a\n>é\né&lt;<b/></a>".toList (Node.tagsAll d.children) := by
  have hrun : (Document.parse "<a\n>é\né&lt;<b/></a>" none).toOption.map
      (fun d => (Node.tagsAll d.children).map (·.position)) =
        some [some ⟨1, 1⟩, some ⟨3, 7⟩] := by decide +kernel
  have hb : "<a\n>é\né&lt;<b/></a>".toList.head? ≠ some '\ufeff' := by decide
  cases hd : Document.parse "<a\n>é\né&lt;<b/></a>" none with
  | error e =>
    rw [hd] at hrun
    cases hrun
  | ok d =>
    rw [hd] at hrun
    exact ⟨d, rfl, hb, Option.some.inj hrun, positioned_of_parse hd hb⟩

end XmlTemplate.Markup
