import XmlTemplate.Text.Search

/-!
# Names in markup

Which texts are names, with and without a namespace prefix.

* `isNameStart`, `isNameChar`: the character classes of names, without the colon.
* `isNCName`: a name without a colon.
* `isQName`: such a name, or two of them joined by a colon.
-/

namespace XmlTemplate.Markup

/-- The characters that can begin a name. -/
def isNameStart (c : Char) : Bool :=
  let n := c.toNat
  ('A' ≤ c && c ≤ 'Z') || c == '_' || ('a' ≤ c && c ≤ 'z') ||
  (0xC0 ≤ n && n ≤ 0xD6) || (0xD8 ≤ n && n ≤ 0xF6) || (0xF8 ≤ n && n ≤ 0x2FF) ||
  (0x370 ≤ n && n ≤ 0x37D) || (0x37F ≤ n && n ≤ 0x1FFF) || (0x200C ≤ n && n ≤ 0x200D) ||
  (0x2070 ≤ n && n ≤ 0x218F) || (0x2C00 ≤ n && n ≤ 0x2FEF) || (0x3001 ≤ n && n ≤ 0xD7FF) ||
  (0xF900 ≤ n && n ≤ 0xFDCF) || (0xFDF0 ≤ n && n ≤ 0xFFFD) || (0x10000 ≤ n && n ≤ 0xEFFFF)

/-- The characters that can stand in a name. -/
def isNameChar (c : Char) : Bool :=
  let n := c.toNat
  isNameStart c || c == '-' || c == '.' || ('0' ≤ c && c ≤ '9') || n == 0xB7 ||
  (0x300 ≤ n && n ≤ 0x36F) || (0x203F ≤ n && n ≤ 0x2040)

/-- A name without a colon. -/
def isNCName : List Char → Bool
  | [] => false
  | c :: r => isNameStart c && r.all isNameChar

/-- A text cut at its first colon. -/
def cutAtColon? (s : List Char) : Option (List Char × List Char) :=
  Text.cutAt? (· == ':') s

/-- A local name, or a name and a local name joined by a colon. -/
def isQName (s : List Char) : Bool :=
  match cutAtColon? s with
  | some (head, tail) => isNCName head && isNCName tail
  | none => isNCName s

end XmlTemplate.Markup
