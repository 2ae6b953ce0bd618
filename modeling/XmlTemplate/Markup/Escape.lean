import XmlTemplate.Decimal.Integer
import XmlTemplate.Markup.Error
import XmlTemplate.Text.Search

/-!
# References to characters

Characters written by name or by number, in text and in the values of attributes.

* `predefined?`: the five entities that every document knows.
* `contentChar?`, `valueChar?`: a character by its number, in text and in the value of an
  attribute. The latter refuses a sign and the number zero.
* `escapeText`, `escapeValue`: a text with its special characters written as references.
* `unescapeValue`: the value that the text of an attribute stands for.
-/

namespace XmlTemplate.Markup

/-! ## Decoding -/

/-- The characters that have a name in every document. -/
def predefined? (name : List Char) : Option Char :=
  [("lt".toList, '<'), ("gt".toList, '>'), ("amp".toList, '&'), ("apos".toList, '\''),
    ("quot".toList, '"')].lookup name

/-- The character with a number, if it has one. -/
def charOf? (n : Nat) : Option Char := if h : n.isValidChar then some (Char.ofNatAux n h) else none

/-- The number that the text of a reference writes after the sharp sign: hexadecimal after an `x`,
decimal otherwise. -/
def charNumber? (s : List Char) : Option Nat :=
  match s with
  | 'x' :: digits => Decimal.readUnsigned? 16 (UInt32.size - 1) digits
  | _ => Decimal.readUnsigned? 10 (UInt32.size - 1) s

/-- The character that a numeric reference stands for in text. -/
def contentChar? (s : List Char) : Option Char := (charNumber? s).bind charOf?

/-- The character that a numeric reference stands for in the value of an attribute. -/
def valueChar? (s : List Char) : Option Char :=
  let digits := match s with
    | 'x' :: r => r
    | _ => s
  if digits.head? == some '+' then none
  else ((charNumber? s).filter (· != 0)).bind charOf?

/-- The character that a reference stands for in the value of an attribute. -/
def valueReference (name : List Char) : Except EscapeFault Char :=
  match name with
  | '#' :: number =>
    match valueChar? number with
    | some c => .ok c
    | none => .error .invalidCharacter
  | _ =>
    match predefined? name with
    | some c => .ok c
    | none => .error .unrecognizedEntity

/-- The end of the name of a reference, or the start of another one. -/
def endsName (c : Char) : Bool := c == ';' || c == '&'

/-- The value that the text of an attribute stands for. -/
def unescapeValue (s : List Char) : Except EscapeFault (List Char) :=
  match s with
  | [] => .ok []
  | '&' :: r =>
    match _h : r.dropWhile (!endsName ·) with
    | ';' :: rest => do
      let c ← valueReference (r.takeWhile (!endsName ·))
      return c :: (← unescapeValue rest)
    | _ => .error .unterminatedEntity
  | c :: r => do return c :: (← unescapeValue r)
termination_by s.length
decreasing_by
  · have := (List.dropWhile_suffix (fun c => !endsName c) : r.dropWhile _ <:+ r).length_le
    rw [_h] at this
    simp only [List.length_cons] at *
    omega
  · simp

/-! ## Encoding -/

/-- A character as it is written in text. -/
def escapeTextChar (c : Char) : List Char :=
  if c == '<' then "&lt;".toList else if c == '>' then "&gt;".toList
  else if c == '&' then "&amp;".toList else [c]

/-- A character as it is written in the value of an attribute. -/
def escapeValueChar (c : Char) : List Char :=
  if c == '\'' then "&apos;".toList else if c == '"' then "&quot;".toList else escapeTextChar c

/-- A text as it is written in a document. -/
def escapeText (s : String) : String := String.ofList (s.toList.flatMap escapeTextChar)

/-- A value as it is written in an attribute. -/
def escapeValue (s : String) : String := String.ofList (s.toList.flatMap escapeValueChar)

end XmlTemplate.Markup
