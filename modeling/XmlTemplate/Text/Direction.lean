import XmlTemplate.Text.DirectionTable
import XmlTemplate.Text.MarkTable
import XmlTemplate.Text.Ranges

/-!
# Direction of text

* `direction`: which way a character is written.
* `isOrderly`: whether a word has one direction, so that it is read in one way only wherever it
  stands.
-/

namespace XmlTemplate.Text

/-- Which way a character is written. Digits are written from left to right everywhere, but go with
the letters around them in different ways. -/
inductive Direction where
  | left
  | right
  | europeanDigit
  | arabicDigit
  | mark
  | neutral
deriving DecidableEq, Repr

/-- Marks without a space of their own that have a direction nevertheless. -/
def leftMarks : List Nat := [0xCBF, 0xCC6, 0x11A07, 0x11A08, 0x11C3F]

/-- Which way a character is written. -/
def direction (c : Char) : Direction :=
  if c.toNat < 0x80 then
    if c.isAlpha then .left else if c.isDigit then .europeanDigit else .neutral
  else if inRanges rightRanges c then .right
  else if inRanges arabicDigitRanges c then .arabicDigit
  else if inRanges europeanDigitRanges c then .europeanDigit
  else if inRanges neutralRanges c then .neutral
  else if inRanges nonspacingRanges c && !leftMarks.contains c.toNat then .mark
  else .left

/-- Whether a word needs the direction from right to left. -/
def hasRight (s : List Char) : Bool :=
  s.any fun c => direction c == .right || direction c == .arabicDigit

/-- Whether a word begins with a letter, has no letters of the other direction, and ends with a
letter of its own or a digit, marks apart. From right to left, it has digits of one kind only. -/
def isOrderly (s : List Char) : Bool :=
  let directions := s.map direction
  let last? := (directions.reverse.dropWhile (· == .mark)).head?
  match directions.head? with
  | none => true
  | some .left =>
    !directions.contains .right && !directions.contains .arabicDigit &&
      (last? == some .left || last? == some .europeanDigit)
  | some .right =>
    !directions.contains .left &&
      !(directions.contains .europeanDigit && directions.contains .arabicDigit) &&
      (last? == some .right || last? == some .europeanDigit || last? == some .arabicDigit)
  | some _ => false

end XmlTemplate.Text
