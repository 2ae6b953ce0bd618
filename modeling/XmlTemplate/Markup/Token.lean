import XmlTemplate.Markup.Error
import XmlTemplate.Text.Search

/-!
# Tokens of a document

The lexical parts of a document: tags, text, references, comments and the like. A token keeps
the characters it was read from, apart from the marks around them.

* `Token.source`: the token as it stands in the document.
* `Token.scan`: the first token of a text and what follows it.
* `Token.eq_append_of_scan`: nothing is lost, so the tokens of a text make it up again.
-/

namespace XmlTemplate.Markup

/-- White space between the parts of a tag. -/
def isSpace (c : Char) : Bool := c == ' ' || c == '\t' || c == '\n' || c == '\x0d'

/-- A lexical part of a document. -/
inductive Token where
  | text (chars : List Char)
  | reference (name : List Char)
  | start (inside : List Char)
  | empty (inside : List Char)
  | finish (inside : List Char)
  | comment (chars : List Char)
  | cdata (chars : List Char)
  | doctype (keyword chars : List Char)
  | instruction (chars : List Char)
deriving DecidableEq, Repr

namespace Token

/-- The token as it stands in the document. -/
def source : Token → List Char
  | text chars => chars
  | reference name => '&' :: name ++ [';']
  | start inside => '<' :: inside ++ ['>']
  | empty inside => '<' :: inside ++ ['/', '>']
  | finish inside => '<' :: '/' :: inside ++ ['>']
  | comment chars => ['<', '!', '-', '-'] ++ chars ++ ['-', '-', '>']
  | cdata chars => ['<', '!', '[', 'C', 'D', 'A', 'T', 'A', '['] ++ chars ++ [']', ']', '>']
  | doctype keyword chars => '<' :: '!' :: keyword ++ chars ++ ['>']
  | instruction chars => '<' :: '?' :: chars ++ ['?', '>']

/-! ## Finding the end of a token -/

/-- The text of a tag before the first `>` outside quotes, and the rest after it. `quote` is the
mark of the quotation that the text begins in. -/
def cutTag (quote : Option Char) : List Char → Option (List Char × List Char)
  | [] => none
  | c :: r =>
    match quote with
    | some q =>
      (cutTag (if c == q then none else quote) r).map fun (a, b) => (c :: a, b)
    | none =>
      if c == '>' then some ([], r)
      else
        let quote := if c == '"' || c == '\'' then some c else none
        (cutTag quote r).map fun (a, b) => (c :: a, b)

theorem eq_append_of_cutTag {quote : Option Char} {s a b : List Char}
    (h : cutTag quote s = some (a, b)) : s = a ++ '>' :: b := by
  induction s generalizing quote a b with
  | nil => simp [cutTag] at h
  | cons c r ih =>
    cases quote with
    | some q =>
      simp only [cutTag, Option.map_eq_some_iff, Prod.mk.injEq, Prod.exists] at h
      obtain ⟨a', b', hc, rfl, rfl⟩ := h
      simp [ih hc]
    | none =>
      simp only [cutTag] at h
      split at h
      · rename_i hc
        simp_all
      · simp only [Option.map_eq_some_iff, Prod.mk.injEq, Prod.exists] at h
        obtain ⟨a', b', hc, rfl, rfl⟩ := h
        simp [ih hc]

/-- The text before the `>` that no `<` is left open at, and the rest after it. `depth` counts
those open at the start. -/
def cutBalanced (depth : Nat) : List Char → Option (List Char × List Char)
  | [] => none
  | c :: r =>
    if c == '>' then
      match depth with
      | 0 => some ([], r)
      | depth + 1 => (cutBalanced depth r).map fun (a, b) => (c :: a, b)
    else
      (cutBalanced (if c == '<' then depth + 1 else depth) r).map fun (a, b) => (c :: a, b)

theorem eq_append_of_cutBalanced {depth : Nat} {s a b : List Char}
    (h : cutBalanced depth s = some (a, b)) : s = a ++ '>' :: b := by
  induction s generalizing depth a b with
  | nil => simp [cutBalanced] at h
  | cons c r ih =>
    simp only [cutBalanced] at h
    split at h
    · rename_i hc
      cases depth with
      | zero => simp_all
      | succ depth =>
        simp only [Option.map_eq_some_iff, Prod.mk.injEq, Prod.exists] at h
        obtain ⟨a', b', hc, rfl, rfl⟩ := h
        simp [ih hc]
    · simp only [Option.map_eq_some_iff, Prod.mk.injEq, Prod.exists] at h
      obtain ⟨a', b', hc, rfl, rfl⟩ := h
      simp [ih hc]

/-! ## Scanning -/

/-- Characters that end a run of text. -/
def endsText (c : Char) : Bool := c == '<' || c == '&'

/-- Characters that end the name of a reference. -/
def endsReference (c : Char) : Bool := c == ';' || c == '&' || c == '<'

/-- The token of a tag that is not an end tag. -/
def ofTag (inside : List Char) : Token :=
  if inside.getLast? = some '/' then empty inside.dropLast else start inside

/-- A tag, whose `<` has been read. -/
def scanTag (s : List Char) : Except Fault (Token × List Char) :=
  match s with
  | '/' :: r =>
    match cutTag none r with
    | some (inside, rest) => .ok (finish inside, rest)
    | none => .error .unclosedTag
  | _ =>
    match cutTag none s with
    | some (inside, rest) => .ok (ofTag inside, rest)
    | none => .error .unclosedTag

/-- An instruction, whose `<?` has been read. -/
def scanInstruction (s : List Char) : Except Fault (Token × List Char) :=
  if s.head? = some '>' then .error .unclosedInstruction
  else match Text.cut? ['?', '>'] s with
    | some (chars, rest) => .ok (instruction chars, rest)
    | none => .error .unclosedInstruction

/-- A comment, whose `<!-` has been read. -/
def scanComment (s : List Char) : Except Fault (Token × List Char) :=
  match s with
  | '-' :: r =>
    match Text.cut? ['-', '-', '>'] r with
    | some (chars, rest) => .ok (comment chars, rest)
    | none => .error .unclosedComment
  | _ => .error .unclosedComment

/-- A CDATA section, whose `<![` has been read. -/
def scanCData (s : List Char) : Except Fault (Token × List Char) :=
  match s with
  | 'C' :: 'D' :: 'A' :: 'T' :: 'A' :: '[' :: r =>
    match Text.cut? [']', ']', '>'] r with
    | some (chars, rest) => .ok (cdata chars, rest)
    | none => .error .unclosedCData
  | _ => .error .unclosedCData

/-- A doctype, whose `<!` has been read. The keyword may be in either case. -/
def scanDoctype (s : List Char) : Except Fault (Token × List Char) :=
  if (s.take 7).map Char.toUpper = "DOCTYPE".toList then
    match cutBalanced 0 (s.drop 7) with
    | some (chars, rest) => .ok (doctype (s.take 7) chars, rest)
    | none => .error .unclosedDoctype
  else .error .unclosedDoctype

/-- A token that begins with `<!`. -/
def scanBang (s : List Char) : Except Fault (Token × List Char) :=
  match s with
  | '-' :: r => scanComment r
  | '[' :: r => scanCData r
  | 'D' :: _ | 'd' :: _ => scanDoctype s
  | _ => .error .invalidBang

/-- A reference, whose `&` has been read. -/
def scanReference (s : List Char) : Except Fault (Token × List Char) :=
  match s.dropWhile (!endsReference ·) with
  | ';' :: rest => .ok (reference (s.takeWhile (!endsReference ·)), rest)
  | _ => .error .unclosedReference

/-- The first token of a text and what follows it. -/
def scan (s : List Char) : Except Fault (Token × List Char) :=
  match s with
  | '<' :: '!' :: r => scanBang r
  | '<' :: '?' :: r => scanInstruction r
  | '<' :: r => scanTag r
  | '&' :: r => scanReference r
  | c :: r => .ok (text (c :: r.takeWhile (!endsText ·)), r.dropWhile (!endsText ·))
  | [] => .ok (text [], [])

/-! ## Nothing is lost -/

theorem source_ofTag (inside : List Char) : (ofTag inside).source = '<' :: inside ++ ['>'] := by
  unfold ofTag
  split
  · rename_i h
    obtain ⟨start, rfl⟩ := List.getLast?_eq_some_iff.1 h
    simp [source]
  · rfl

theorem eq_append_of_scanTag {s rest : List Char} {t : Token} (h : scanTag s = .ok (t, rest)) :
    '<' :: s = t.source ++ rest := by
  unfold scanTag at h
  split at h <;> split at h <;> simp only [Except.ok.injEq, Prod.mk.injEq, reduceCtorEq] at h
  · rename_i hc
    obtain ⟨rfl, rfl⟩ := h
    simp [source, eq_append_of_cutTag hc]
  · rename_i hc
    obtain ⟨rfl, rfl⟩ := h
    simp [source_ofTag, eq_append_of_cutTag hc]

theorem eq_append_of_scanInstruction {s rest : List Char} {t : Token}
    (h : scanInstruction s = .ok (t, rest)) : '<' :: '?' :: s = t.source ++ rest := by
  unfold scanInstruction at h
  split at h
  · simp at h
  · split at h <;> simp only [Except.ok.injEq, Prod.mk.injEq, reduceCtorEq] at h
    rename_i hc
    obtain ⟨rfl, rfl⟩ := h
    simp [source, Text.eq_append_of_cut? hc]

theorem eq_append_of_scanBang {s rest : List Char} {t : Token} (h : scanBang s = .ok (t, rest)) :
    '<' :: '!' :: s = t.source ++ rest := by
  have doctype_case {s : List Char} (h : scanDoctype s = .ok (t, rest)) :
      '<' :: '!' :: s = t.source ++ rest := by
    unfold scanDoctype at h
    split at h
    · split at h <;> simp only [Except.ok.injEq, Prod.mk.injEq, reduceCtorEq] at h
      rename_i hc
      obtain ⟨rfl, rfl⟩ := h
      have := List.take_append_drop 7 s
      rw [eq_append_of_cutBalanced hc] at this
      simp [source, this]
    · simp at h
  unfold scanBang at h
  split at h
  · unfold scanComment at h
    split at h
    · split at h <;> simp only [Except.ok.injEq, Prod.mk.injEq, reduceCtorEq] at h
      rename_i hc
      obtain ⟨rfl, rfl⟩ := h
      simp [source, Text.eq_append_of_cut? hc]
    · simp at h
  · unfold scanCData at h
    split at h
    · split at h <;> simp only [Except.ok.injEq, Prod.mk.injEq, reduceCtorEq] at h
      rename_i hc
      obtain ⟨rfl, rfl⟩ := h
      simp [source, Text.eq_append_of_cut? hc]
    · simp at h
  · exact doctype_case h
  · exact doctype_case h
  · simp at h

theorem eq_append_of_scanReference {s rest : List Char} {t : Token}
    (h : scanReference s = .ok (t, rest)) : '&' :: s = t.source ++ rest := by
  unfold scanReference at h
  split at h <;> simp only [Except.ok.injEq, Prod.mk.injEq, reduceCtorEq] at h
  rename_i hd
  obtain ⟨rfl, rfl⟩ := h
  have := List.takeWhile_append_dropWhile (p := fun c => !endsReference c) (l := s)
  rw [hd] at this
  simp [source, this]

/-- The token and what follows it make up the text. -/
theorem eq_append_of_scan {s rest : List Char} {t : Token} (h : scan s = .ok (t, rest)) :
    s = t.source ++ rest := by
  unfold scan at h
  split at h
  · exact eq_append_of_scanBang h
  · exact eq_append_of_scanInstruction h
  · exact eq_append_of_scanTag h
  · exact eq_append_of_scanReference h
  · simp only [Except.ok.injEq, Prod.mk.injEq] at h
    obtain ⟨rfl, rfl⟩ := h
    simp [source]
  · simp only [Except.ok.injEq, Prod.mk.injEq] at h
    obtain ⟨rfl, rfl⟩ := h
    rfl

/-- A token is never empty if there is anything to scan. -/
theorem source_ne_nil_of_scan {s rest : List Char} {t : Token} (hs : s ≠ [])
    (h : scan s = .ok (t, rest)) : t.source ≠ [] := by
  cases t with
  | text chars =>
    unfold scan at h
    split at h
    · unfold scanBang scanComment scanCData scanDoctype at h
      repeat' split at h
      all_goals simp at h
    · unfold scanInstruction at h
      repeat' split at h
      all_goals simp at h
    · unfold scanTag ofTag at h
      repeat' split at h
      all_goals simp at h
    · unfold scanReference at h
      split at h <;> simp at h
    · simp only [Except.ok.injEq, Prod.mk.injEq, Token.text.injEq] at h
      simp [source, ← h.1]
    · exact absurd rfl hs
  | _ => simp [source]

/-- What follows the first token is shorter than the text. -/
theorem length_lt_of_scan {s rest : List Char} {t : Token} (hs : s ≠ [])
    (h : scan s = .ok (t, rest)) : rest.length < s.length := by
  have := List.length_pos_iff.2 (source_ne_nil_of_scan hs h)
  rw [eq_append_of_scan h, List.length_append]
  omega

end Token

end XmlTemplate.Markup
