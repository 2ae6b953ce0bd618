import XmlTemplate.Proofs.Interpolation

/-!
# Segments are what they are written as

Parts that are written one after the other, each so that it stands for itself, are read again, also
where a brace at the end of one part stands beside a brace at the beginning of the next. And
whatever a text is, it is read piece by piece from its beginning to its end.

* `joined`: parts in the form in which they are read. `Normal`: what is true of this form.
* `segmentsFrom_encode`: parts that are written are read in this form.
* `Piece`: what is read at once. `exists_pieces`: every text is cut into pieces.
* `segments_joined`: both, and what follows for the segments of any text.
-/

namespace XmlTemplate.Interpolation

/-! ## Parts -/

namespace Segment

/-- A run of text, and not a reference. -/
def IsLiteral : Segment → Prop
  | literal _ => True
  | symbol _ => False

end Segment

/-- Parts with a literal in front, which is joined to the first of them if that is one too. -/
def prepend (text : String) : List Segment → List Segment
  | .literal more :: rest => .literal (text ++ more) :: rest
  | parts => if text.isEmpty then parts else .literal text :: parts

/-- Parts with neighbouring literals joined and empty ones left out. -/
def joined : List Segment → List Segment
  | [] => []
  | .literal text :: rest => prepend text (joined rest)
  | .symbol name :: rest => .symbol name :: joined rest

/-- Parts that have been joined: there is no empty literal, and no two literals are neighbours. -/
structure Normal (parts : List Segment) : Prop where
  nonempty : .literal "" ∉ parts
  apart : parts.IsChain fun a b => ¬ (a.IsLiteral ∧ b.IsLiteral)

theorem prepend_of_not_literal {parts : List Segment} (h : ∀ a ∈ parts.head?, ¬ a.IsLiteral)
    (text : String) :
    prepend text parts = (if text.isEmpty then [] else [.literal text]) ++ parts := by
  have hprepend : prepend text parts = if text.isEmpty then parts else .literal text :: parts := by
    match parts, h with
    | [], _ => rfl
    | .literal more :: rest, h => exact absurd trivial (h _ rfl)
    | .symbol name :: rest, _ => rfl
  rw [hprepend]
  split <;> rfl

theorem prepend_empty (parts : List Segment) : prepend "" parts = parts := by
  match parts with
  | [] => rfl
  | .literal more :: rest => rw [prepend, String.empty_append]
  | .symbol name :: rest => rfl

theorem prepend_prepend (text more : String) (parts : List Segment) :
    prepend text (prepend more parts) = prepend (text ++ more) parts := by
  have hstep (h : ∀ a ∈ parts.head?, ¬ a.IsLiteral) :
      prepend text (prepend more parts) = prepend (text ++ more) parts := by
    rw [prepend_of_not_literal h more, prepend_of_not_literal h (text ++ more)]
    by_cases hmore : more = ""
    · rw [hmore, String.append_empty, ← prepend_of_not_literal h, ← prepend_of_not_literal h,
        prepend_empty]
    · have hempty : more.isEmpty = false := by simpa using hmore
      have happend : (text ++ more).isEmpty = false := by simp [hmore]
      rw [hempty, happend]
      rfl
  match parts with
  | [] => exact hstep (by simp)
  | .literal last :: rest => simp only [prepend, String.append_assoc]
  | .symbol name :: rest => exact hstep (by simp [Segment.IsLiteral])

theorem mem_prepend_symbol {name text : String} {parts : List Segment} :
    .symbol name ∈ prepend text parts ↔ .symbol name ∈ parts := by
  have hstep (h : ∀ a ∈ parts.head?, ¬ a.IsLiteral) :
      .symbol name ∈ prepend text parts ↔ .symbol name ∈ parts := by
    rw [prepend_of_not_literal h, List.mem_append]
    split <;> simp
  match parts with
  | [] => exact hstep (by simp)
  | .literal more :: rest => simp [prepend]
  | .symbol other :: rest => exact hstep (by simp [Segment.IsLiteral])

/-- Joining leaves the references as they are. -/
theorem mem_joined_symbol {name : String} {parts : List Segment} :
    .symbol name ∈ joined parts ↔ .symbol name ∈ parts := by
  induction parts with
  | nil => rfl
  | cons part rest ih =>
    cases part with
    | literal text => rw [joined, mem_prepend_symbol, ih]; simp
    | symbol other => rw [joined, List.mem_cons, List.mem_cons, ih]

theorem Normal.prepend {parts : List Segment} (h : Normal parts) (text : String) :
    Normal (prepend text parts) := by
  have hstep (hhead : ∀ a ∈ parts.head?, ¬ a.IsLiteral) :
      Normal (Interpolation.prepend text parts) := by
    rw [prepend_of_not_literal hhead]
    split
    · exact h
    · rename_i ht
      have hempty : text ≠ "" := by simpa using ht
      refine ⟨?_, List.isChain_cons.mpr ⟨fun a ha hl => hhead a ha hl.2, h.apart⟩⟩
      rw [List.singleton_append, List.mem_cons, not_or]
      exact ⟨fun e => hempty (Segment.literal.inj e).symm, h.nonempty⟩
  match parts with
  | [] => exact hstep (by simp)
  | .literal more :: rest =>
    obtain ⟨hne, hapart⟩ := h
    rw [List.mem_cons, not_or] at hne
    rw [Interpolation.prepend]
    refine ⟨?_, List.isChain_cons.mpr (List.isChain_cons.mp hapart)⟩
    rw [List.mem_cons, not_or]
    exact ⟨fun e => hne.1 (by rw [(String.append_eq_empty_iff.mp (Segment.literal.inj e).symm).2]),
      hne.2⟩
  | .symbol name :: rest => exact hstep (by simp [Segment.IsLiteral])

theorem normal_joined (parts : List Segment) : Normal (joined parts) := by
  induction parts with
  | nil => exact ⟨List.not_mem_nil, .nil⟩
  | cons part rest ih =>
    cases part with
    | literal text => exact ih.prepend text
    | symbol name =>
      refine ⟨?_, List.isChain_cons.mpr ⟨fun _ _ h => h.1, ih.apart⟩⟩
      simpa [joined] using ih.nonempty

/-! ## Parts that are written -/

theorem literalOf_eq (s : List Char) :
    literalOf s.reverse = prepend (String.ofList s) [] := by
  cases s with
  | nil => rfl
  | cons c r => simp [literalOf, prepend]

theorem literalOf_append_symbol (s : List Char) (name : String) (rest : List Segment) :
    literalOf s.reverse ++ .symbol name :: rest =
      prepend (String.ofList s) (.symbol name :: rest) := by
  rw [literalOf_eq, prepend_of_not_literal (by simp),
    prepend_of_not_literal (by simp [Segment.IsLiteral]), List.append_nil]

/-- Parts that are written are read again, with neighbouring literals joined. -/
theorem segmentsFrom_encode {parts : List Segment}
    (h : ∀ name, .symbol name ∈ parts → isSymbolName name.toList = true) (s : List Char) :
    segmentsFrom s.reverse (encode parts) = prepend (String.ofList s) (joined parts) := by
  induction parts generalizing s with
  | nil =>
    rw [encode, List.flatMap_nil, segmentsFrom, literalOf_eq, joined]
  | cons part rest ih =>
    have hrest : ∀ name, .symbol name ∈ rest → isSymbolName name.toList = true :=
      fun name hm => h name (List.mem_cons_of_mem part hm)
    rw [encode, List.flatMap_cons, ← encode]
    cases part with
    | literal text =>
      rw [Segment.encode, segmentsFrom_escape_append, ← List.reverse_append, ih hrest, joined,
        prepend_prepend, String.ofList_append, String.ofList_toList]
    | symbol name =>
      have hname := h name List.mem_cons_self
      have hwritten : (Segment.symbol name).encode ++ encode rest =
          opening :: (name.toList ++ closing :: encode rest) := by
        rw [Segment.encode, List.cons_append, List.cons_append, List.append_assoc,
          List.singleton_append]
      have hbehind := ih hrest []
      rw [List.reverse_nil, String.ofList_nil, prepend_empty] at hbehind
      rw [hwritten, segmentsFrom_reference hname, String.ofList_toList, hbehind,
        literalOf_append_symbol, joined]

/-! ## Texts that are read -/

/-- What is read at once: a character that stands for itself, a doubled brace or a reference. -/
inductive Piece where
  | plain (c : Char)
  | doubled (c : Char)
  | reference (name : String)
deriving DecidableEq, Repr

namespace Piece

/-- The text of a piece. -/
def written : Piece → List Char
  | plain c => [c]
  | doubled c => [c, c]
  | reference name => (Segment.symbol name).encode

/-- What a piece stands for. -/
def segment : Piece → Segment
  | plain c | doubled c => .literal (String.ofList [c])
  | reference name => .symbol name

/-- A doubled character is a brace, and what a reference refers to is a name. -/
def Valid : Piece → Prop
  | plain _ => True
  | doubled c => isBrace c = true
  | reference name => isSymbolName name.toList = true

end Piece

/-- Pieces that a text is cut into, from its first character to its last. -/
structure Cut (text : List Char) (pieces : List Piece) : Prop where
  written : pieces.flatMap Piece.written = text
  valid : ∀ p ∈ pieces, p.Valid

theorem Cut.nil : Cut [] [] := ⟨rfl, nofun⟩

theorem Cut.cons {rest : List Char} {pieces : List Piece} (h : Cut rest pieces) (p : Piece)
    (hp : p.Valid) : Cut (p.written ++ rest) (p :: pieces) :=
  ⟨by rw [List.flatMap_cons, h.written], List.forall_mem_cons.mpr ⟨hp, h.valid⟩⟩

/-- What the pieces of a text stand for, behind a literal that has been begun. -/
def segmentsOf (reversed : List Char) (pieces : List Piece) : List Segment :=
  prepend (String.ofList reversed.reverse) (joined (pieces.map Piece.segment))

/-- A character goes into the literal that has been begun. -/
theorem segmentsOf_cons (p : Piece) {c : Char} (hp : p.segment = .literal (String.ofList [c]))
    (reversed : List Char) (pieces : List Piece) :
    segmentsOf (c :: reversed) pieces = segmentsOf reversed (p :: pieces) := by
  rw [segmentsOf, segmentsOf, List.map_cons, hp, joined, prepend_prepend, ← String.ofList_append,
    List.reverse_cons]

/-- A reference ends it. -/
theorem segmentsOf_reference (name : List Char) (reversed : List Char) (pieces : List Piece) :
    segmentsOf reversed (.reference (String.ofList name) :: pieces) =
      literalOf reversed ++ .symbol (String.ofList name) :: segmentsOf [] pieces := by
  rw [← List.reverse_reverse reversed, literalOf_append_symbol, List.reverse_reverse, segmentsOf,
    segmentsOf, List.reverse_nil, String.ofList_nil, prepend_empty]
  rfl

/-- Every text is read piece by piece. -/
theorem exists_pieces (reversed text : List Char) :
    ∃ pieces, Cut text pieces ∧ segmentsFrom reversed text = segmentsOf reversed pieces := by
  induction reversed, text using segmentsFrom.induct with
  | case1 reversed =>
    refine ⟨[], Cut.nil, ?_⟩
    rw [segmentsFrom, ← List.reverse_reverse reversed, literalOf_eq, List.reverse_reverse]
    rfl
  | case2 reversed c r hbrace hdouble ih =>
    obtain ⟨pieces, hcut, hread⟩ := ih
    obtain ⟨rest, rfl⟩ := List.head?_eq_some_iff.mp hdouble
    refine ⟨.doubled c :: pieces, hcut.cons (.doubled c) hbrace, ?_⟩
    rw [segmentsFrom, if_pos hbrace, if_pos hdouble, hread, segmentsOf_cons (.doubled c) rfl]
  | case3 reversed c r hbrace hdouble name rest hname ih =>
    obtain ⟨pieces, hcut, hread⟩ := ih
    have hopen : c = opening := by
      by_contra hc
      rw [dif_neg hc] at hname
      cases hname
    rw [dif_pos hopen] at hname
    obtain ⟨rfl, hvalid⟩ := eq_append_of_referenceName? hname
    have hwritten : opening :: (name ++ closing :: rest) =
        (Piece.reference (String.ofList name)).written ++ rest := by
      rw [Piece.written, Segment.encode, String.toList_ofList, List.append_assoc]
      rfl
    refine ⟨.reference (String.ofList name) :: pieces, ?_, ?_⟩
    · rw [hopen, hwritten]
      exact hcut.cons _ (by rwa [Piece.Valid, String.toList_ofList])
    · rw [hopen, segmentsFrom_reference hvalid, hread, segmentsOf_reference]
  | case4 reversed c r hbrace hdouble hname ih =>
    obtain ⟨pieces, hcut, hread⟩ := ih
    refine ⟨.plain c :: pieces, hcut.cons (.plain c) trivial, ?_⟩
    rw [← segmentsOf_cons (.plain c) rfl, ← hread, segmentsFrom, if_pos hbrace, if_neg hdouble]
    split
    · rename_i hsome
      cases hname.symm.trans hsome
    · rfl
  | case5 reversed c r hbrace ih =>
    obtain ⟨pieces, hcut, hread⟩ := ih
    refine ⟨.plain c :: pieces, hcut.cons (.plain c) trivial, ?_⟩
    rw [segmentsFrom, if_neg hbrace, hread, segmentsOf_cons (.plain c) rfl]

/-- Where there are no braces to look for, the scanner would come to the same. -/
theorem segments_eq {text : String} (h : text ≠ "") :
    segments text = segmentsFrom [] text.toList := by
  rw [segments]
  split
  · rfl
  · rename_i hbrace
    have hplain := flatMap_escape_of_braceless (by simpa using hbrace)
    have hempty : text.toList.reverse.isEmpty = false := by simpa using h
    rw [← hplain, segmentsFrom_escape, List.append_nil, literalOf, hempty,
      if_neg Bool.false_ne_true, List.reverse_reverse, String.ofList_toList]

/-- A text that is read piece by piece, unless it is empty. -/
theorem segments_pieces {text : String} (h : text ≠ "") :
    ∃ pieces, Cut text.toList pieces ∧ segments text = joined (pieces.map Piece.segment) := by
  obtain ⟨pieces, hcut, hread⟩ := exists_pieces [] text.toList
  refine ⟨pieces, hcut, ?_⟩
  rw [segments_eq h, hread, segmentsOf, List.reverse_nil, String.ofList_nil, prepend_empty]

theorem segments_empty : segments "" = [.literal ""] := rfl

/-- Every reference in a text is to a name. -/
theorem isSymbolName_of_mem_segments {text name : String} (h : .symbol name ∈ segments text) :
    isSymbolName name.toList = true := by
  by_cases htext : text = ""
  · rw [htext, segments_empty] at h
    simp at h
  · obtain ⟨pieces, hcut, hread⟩ := segments_pieces htext
    rw [hread, mem_joined_symbol, List.mem_map] at h
    obtain ⟨p, hp, hsegment⟩ := h
    cases p with
    | plain c => cases hsegment
    | doubled c => cases hsegment
    | reference other =>
      cases hsegment
      exact hcut.valid _ hp

/-- Only the empty text is read as an empty literal. -/
theorem eq_empty_of_literal_mem {text : String} (h : .literal "" ∈ segments text) : text = "" := by
  by_contra htext
  obtain ⟨pieces, -, hread⟩ := segments_pieces htext
  rw [hread] at h
  exact (normal_joined _).nonempty h

/-- **Writing and reading.** Parts that are written are read as they are, with neighbouring
literals joined and empty ones left out, if anything is written. Whatever a text is, it is cut into
pieces from its beginning to its end, which are read in this form; its references are to names, no
two of its literals are neighbours, and only the empty text has an empty one. -/
theorem segments_joined :
    (∀ parts : List Segment, (∀ name, .symbol name ∈ parts → isSymbolName name.toList = true) →
      encode parts ≠ [] → segments (String.ofList (encode parts)) = joined parts) ∧
    ∀ text : String,
      (text ≠ "" → ∃ pieces, Cut text.toList pieces ∧
        segments text = joined (pieces.map Piece.segment)) ∧
      (∀ name, .symbol name ∈ segments text → isSymbolName name.toList = true) ∧
      ((segments text).IsChain fun a b => ¬ (a.IsLiteral ∧ b.IsLiteral)) ∧
      (.literal "" ∈ segments text → text = "") := by
  refine ⟨fun parts hnames hne => ?_, fun text => ⟨segments_pieces,
    fun name => isSymbolName_of_mem_segments, ?_, eq_empty_of_literal_mem⟩⟩
  · have hread := segmentsFrom_encode hnames []
    rw [List.reverse_nil, String.ofList_nil, prepend_empty] at hread
    rw [segments_eq (by simpa using hne), String.toList_ofList, hread]
  · by_cases htext : text = ""
    · rw [htext, segments_empty]
      exact .singleton _
    · obtain ⟨pieces, -, hread⟩ := segments_pieces htext
      rw [hread]
      exact (normal_joined _).apart

/-- Of three braces in a row two are a doubled one and one belongs to the reference, on either side
of it. -/
theorem segments_joined_beside_braces :
    let parts := [.literal "\x7b", .symbol "i", .literal "", .literal "\x7d"]
    (∀ name, .symbol name ∈ parts → isSymbolName name.toList = true) ∧ encode parts ≠ [] ∧
      segments "\x7b\x7b\x7bi\x7d\x7d\x7d" = [.literal "\x7b", .symbol "i", .literal "\x7d"] ∧
      (∃ pieces, Cut "\x7b".toList pieces ∧
        segments "\x7b" = joined (pieces.map Piece.segment)) ∧
      isSymbolName "i".toList = true ∧ .literal "" ∈ segments "" := by
  intro parts
  have hnames : ∀ name, .symbol name ∈ parts → isSymbolName name.toList = true := by
    intro name hname
    have hi : name = "i" := by simpa [parts] using hname
    rw [hi]
    decide
  have hwritten : encode parts ≠ [] := by decide
  have hread := segments_joined.1 parts hnames hwritten
  have htext : String.ofList (encode parts) = "\x7b\x7b\x7bi\x7d\x7d\x7d" := by decide
  rw [htext] at hread
  refine ⟨hnames, hwritten, hread, (segments_joined.2 "\x7b").1 (by decide), ?_, ?_⟩
  · refine (segments_joined.2 "\x7b\x7b\x7bi\x7d\x7d\x7d").2.1 "i" ?_
    rw [hread]
    decide
  · decide

end XmlTemplate.Interpolation
