import XmlTemplate.Text.CompositionTable
import XmlTemplate.Text.MarkTable
import XmlTemplate.Text.Ranges

/-!
# Composition of letters and marks

A letter with marks can be written as one character or as several, and marks of different classes
in any order. The normal form has as few characters as possible.

* `decompose`: every character taken apart.
* `reorder`: marks in the order of their classes.
* `compose`: the normal form, put together from the two.
-/

namespace XmlTemplate.Text

/-! ## Marks -/

/-- A mark that takes no space of its own. -/
def isNonspacing (c : Char) : Bool := inRanges nonspacingRanges c

/-- A character that combines with the one before it. -/
def isMark (c : Char) : Bool := isNonspacing c || inRanges spacingRanges c

/-- Where a mark stands at its letter; 0 for a character that no order is fixed for. -/
def markClass (c : Char) : Nat :=
  match markClasses.find? fun (first, last, _) => first ≤ c.toNat && c.toNat ≤ last with
  | some (_, _, n) => n
  | none => 0

/-! ## Pairs

The syllables of Hangul are numbered by their initial, their vowel and their final, if any. -/

/-- The syllable of an initial and a vowel, or of a syllable without a final and a final. -/
def hangul? (a b : Char) : Option Char :=
  let a := a.toNat
  let b := b.toNat
  if 0x1100 ≤ a && a < 0x1113 && 0x1161 ≤ b && b < 0x1176 then
    some (Char.ofNat (0xAC00 + ((a - 0x1100) * 21 + (b - 0x1161)) * 28))
  else if 0xAC00 ≤ a && a < 0xD7A4 && (a - 0xAC00) % 28 == 0 && 0x11A8 ≤ b && b < 0x11C3 then
    some (Char.ofNat (a + (b - 0x11A7)))
  else none

/-- A syllable without its final and the final, or the initial and the vowel of one without. -/
def splitHangul? (c : Char) : Option (Char × Char) :=
  if 0xAC00 ≤ c.toNat && c.toNat < 0xD7A4 then
    let n := c.toNat - 0xAC00
    if n % 28 == 0 then
      some (Char.ofNat (0x1100 + n / 28 / 21), Char.ofNat (0x1161 + n / 28 % 21))
    else some (Char.ofNat (c.toNat - n % 28), Char.ofNat (0x11A7 + n % 28))
  else none

namespace Composition

/-- What a letter becomes with the mark. -/
def compose? (row : Composition) (letter : Char) : Option Char :=
  (row.letters.toList.zip row.composed.toList).lookup letter

/-- The letter that became a character with the mark. -/
def letter? (row : Composition) (c : Char) : Option Char :=
  (row.composed.toList.zip row.letters.toList).lookup c

end Composition

/-- The character that stands for two. -/
def pair? (a b : Char) : Option Char :=
  (hangul? a b).or
    (compositions.findSome? fun row => if row.mark == b then row.compose? a else none)

/-- The two characters that one stands for. -/
def unpair? (c : Char) : Option (Char × Char) :=
  (splitHangul? c).or (compositions.findSome? fun row => (row.letter? c).map (·, row.mark))

/-! ## Normal form -/

/-- The text with every character that stands for two replaced by them. -/
def unpair (s : List Char) : List Char :=
  s.flatMap fun c => match unpair? c with
    | some (a, b) => [a, b]
    | none => [c]

/-- The text with every character taken apart. None stands for a letter and more than three
marks. -/
def decompose (s : List Char) : List Char := unpair (unpair (unpair s))

/-- A text, the last character first, and one more, which goes before marks of a higher class. -/
def settle (c : Char) : List Char → List Char
  | [] => [c]
  | d :: r =>
    if 0 < markClass c && markClass c < markClass d then d :: settle c r else c :: d :: r

/-- The text with the marks at every letter in the order of their classes. -/
def reorder (s : List Char) : List Char :=
  (s.foldl (fun done c => settle c done) []).reverse

/-- The text put together, after a letter and the marks of it that stay, the last one first. A mark
is kept from the letter by another one of its own class or a higher one. -/
def composeFrom (letter : Char) (marks : List Char) : List Char → List Char
  | [] => letter :: marks.reverse
  | c :: r =>
    let blocked := marks.head?.any fun mark => markClass c ≤ markClass mark
    match if blocked then none else pair? letter c with
    | some composed => composeFrom composed marks r
    | none =>
      if markClass c == 0 then letter :: marks.reverse ++ composeFrom c [] r
      else composeFrom letter (c :: marks) r

/-- The normal form of a text. One of ASCII alone has no marks, and is in normal form. -/
def compose (s : List Char) : List Char :=
  if s.all (·.toNat < 0x80) then s
  else match reorder (decompose s) with
    | [] => []
    | c :: r => composeFrom c [] r

end XmlTemplate.Text
