import XmlTemplate.Markup.TagText

/-!
# Tokens in sequence

A document is a sequence of tokens in which every end tag closes the start tag that is open. A
`Lexer` is the part of a document that has not been read yet.

* `Lexer.next`: the next token and where it begins.
* `closeTags`: how a token changes the names that are open.
* `Lexer.length_lt_of_next`: the rest of the document gets shorter.
-/

namespace XmlTemplate.Markup

/-- The names that are open after a token, the innermost first. -/
def closeTags (names : List (List Char)) : Token → Except Fault (List (List Char))
  | .start inside => .ok (tagName inside :: names)
  | .finish inside =>
    match names with
    | [] => .error .unmatchedEndTag
    | name :: rest => if endName inside = name then .ok rest else .error .mismatchedEndTag
  | _ => .ok names

/-- The number of octets of a text. -/
def octets (s : List Char) : Nat := s.foldl (fun n c => n + c.utf8Size) 0

/-- The rest of a document, the number of octets before it, and the names that are open in it. -/
structure Lexer where
  offset : Nat
  names : List (List Char)
  rest : List Char

namespace Lexer

/-- The start of a document. A byte order mark is not counted. -/
def ofText (text : List Char) : Lexer :=
  match text with
  | '\ufeff' :: r => ⟨0, [], r⟩
  | _ => ⟨0, [], text⟩

/-- A doctype has to name the root element, whatever follows the name. -/
def checkDoctype (offset : Nat) (t : Token) : Except ReadError Unit :=
  match t with
  | .doctype _ chars =>
    if chars.all isSpace then .error (.malformed (offset + octets t.source - 1) .missingDoctypeName)
    else .ok ()
  | _ => .ok ()

/-- The next token, if there is one, and the document after it. -/
def next (l : Lexer) : Except ReadError (Option (Token × Lexer)) :=
  if l.rest.isEmpty then .ok none
  else
    match Token.scan l.rest with
    | .error fault => .error (.malformed l.offset fault)
    | .ok (token, rest) =>
      match checkDoctype l.offset token, closeTags l.names token with
      | .error e, _ => .error e
      | _, .error fault => .error (.malformed l.offset fault)
      | .ok (), .ok names => .ok (some (token, ⟨l.offset + octets token.source, names, rest⟩))

/-- The rest of the document gets shorter with every token. -/
theorem length_lt_of_next {l l' : Lexer} {t : Token} (h : l.next = .ok (some (t, l'))) :
    l'.rest.length < l.rest.length := by
  unfold next at h
  split at h
  · simp at h
  · rename_i hne
    split at h
    · simp at h
    · rename_i hs
      split at h <;>
        simp only [Except.ok.injEq, Option.some.injEq, Prod.mk.injEq, reduceCtorEq] at h
      obtain ⟨rfl, rfl⟩ := h
      exact Token.length_lt_of_scan (by simpa using hne) hs

end Lexer

end XmlTemplate.Markup
