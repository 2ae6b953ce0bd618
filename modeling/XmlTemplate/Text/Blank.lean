/-!
# White space in text

White space is the Unicode property White_Space: 25 characters, of which core's
`Char.isWhitespace` knows four.

* `isBlank`: the character class.
* `trim`, `trimStart`, `trimEnd`: a text without white space at its ends.
* `words`: the maximal runs of other characters.
-/

namespace XmlTemplate.Text

/-- The characters with the Unicode property White_Space. -/
def isBlank (c : Char) : Bool :=
  let n := c.toNat
  (9 ≤ n && n ≤ 13) || n == 0x20 || n == 0x85 || n == 0xA0 || n == 0x1680 ||
  (0x2000 ≤ n && n ≤ 0x200A) || n == 0x2028 || n == 0x2029 || n == 0x202F || n == 0x205F ||
  n == 0x3000

/-- The text without white space at its start. -/
def trimStart (s : List Char) : List Char := s.dropWhile isBlank

/-- The text without white space at its end. -/
def trimEnd (s : List Char) : List Char := (s.reverse.dropWhile isBlank).reverse

/-- The text without white space at either end. -/
def trim (s : List Char) : List Char := trimEnd (trimStart s)

/-- Whether a text holds white space only. -/
def allBlank (s : List Char) : Bool := s.all isBlank

/-- The maximal runs of characters other than white space, in order. -/
def words (s : List Char) : List (List Char) :=
  (s.splitBy fun a b => isBlank a == isBlank b).filter fun w => !allBlank w

end XmlTemplate.Text
