import XmlTemplate.Text.Casing
import XmlTemplate.Text.Composition
import XmlTemplate.Text.Direction
import XmlTemplate.Text.Joining
import XmlTemplate.Text.Search
import XmlTemplate.Uri.DomainName.Table
import XmlTemplate.Uri.Percent
import XmlTemplate.Uri.Punycode

/-!
# Domain names

A domain name has one form in ASCII: letters in lower case, and labels outside ASCII in Punycode.
Before that, characters that are written in several ways are brought to one of them.

* `normalize?`: the characters of a name in their usual form.
* `label?`: what a label stands for, which may be written in Punycode.
* `toAscii?`: the ASCII form of a name, if all of its labels can stand in one.
-/

namespace XmlTemplate.Uri.DomainName

/-! ## Characters -/

/-- Characters that no host can hold. -/
def isForbidden (c : Char) : Bool :=
  c ∈ ['\x00', '\t', '\n', '\x0d', ' ', '#', '/', ':', '<', '>', '?', '@', '[', '\\', ']', '^', '|']

/-- Whether a character lies outside ASCII. -/
def isForeign (c : Char) : Bool := 0x80 ≤ c.toNat

/-- Whether a name can be written with a character. Which ones of ASCII it can hold is decided
later. -/
def isPermitted (c : Char) : Bool := !isForeign c || Text.inRanges permittedRanges c

/-- A usual form that is a single character and not the lower case of the other one. -/
def shortForm? (c : Char) : Option Char :=
  (shortForms.find? fun row =>
    row.first ≤ c.toNat && c.toNat < row.first + row.forms.length).bind fun row =>
      row.forms.toList[c.toNat - row.first]?

/-- A usual form of several characters that is not the lower case of the character. -/
def longForm? (c : Char) : Option String :=
  (longForms.find? fun row =>
    row.first ≤ c.toNat && c.toNat < row.first + row.forms.length).bind fun row =>
      row.forms[c.toNat - row.first]?

/-- The usual form of a character, which is nothing if the character counts for nothing. -/
def fold (c : Char) : List Char :=
  if !isForeign c then [c.toLower]
  else if Text.inRanges ignoredRanges c then []
  else match shortForm? c, longForm? c with
    | some usual, _ => [usual]
    | none, some usual => usual.toList
    | none, none => Text.lowerChar c

/-- The characters of a name in their usual form, and the letters put together with their marks. -/
def normalize? (s : List Char) : Option (List Char) :=
  if s.all isPermitted then some (Text.compose (s.flatMap fold)) else none

/-! ## Labels -/

/-- The mark of a label that is written in Punycode. -/
def punycodeMark : List Char := "xn--".toList

/-- The greatest length of a label that is written in Punycode. -/
def maxForeignLength : Nat := 1000

/-- The greatest length of the Punycode of a label. -/
def maxPunycodeLength : Nat := 2000

/-- What a label in its usual form stands for. If it bears the mark of Punycode, that has to be the
Punycode of a label outside ASCII in its usual form. -/
def label? (s : List Char) : Option (List Char) :=
  if punycodeMark.isPrefixOf s then
    let text := s.drop punycodeMark.length
    if maxPunycodeLength < text.length then none
    else (Punycode.decode? text).filter fun label =>
      label.any isForeign && normalize? label == some label && Punycode.encode label == text
  else some s

/-- Whether a name can hold a label: it begins with no mark, its joiners mean something, and it is
not too long to be written in Punycode. -/
def isValid (label : List Char) : Bool :=
  !(label.any fun c => isForbidden c || Percent.control c || c == '%') &&
    !label.head?.any Text.isMark && Text.Joining.joinersFit [] label &&
    (!label.any isForeign || label.length ≤ maxForeignLength)

/-- A label in ASCII, as Punycode unless it is already. -/
def ascii (label : List Char) : List Char :=
  if label.any isForeign then punycodeMark ++ Punycode.encode label else label

/-! ## Names -/

/-- The ASCII form of a name, which may hold octets written with percent signs. If one of its labels
is written from right to left, all of them have to be orderly. -/
def toAscii? (s : List Char) : Option (List Char) := do
  let text ← String.fromUTF8? ⟨(Percent.decode s).toArray⟩
  let name ← normalize? text.toList
  let labels ← (Text.split ['.'] name).mapM label?
  guard (labels.all isValid)
  guard (!labels.any Text.hasRight || labels.all Text.isOrderly)
  return List.intercalate ['.'] (labels.map ascii)

end XmlTemplate.Uri.DomainName
