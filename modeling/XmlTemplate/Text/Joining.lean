import XmlTemplate.Text.Composition
import XmlTemplate.Text.JoiningTable

/-!
# Joiners

Two invisible characters ask for neighbours to be joined or not to be. They mean something after a
sign that takes the vowel from a consonant, and the one that parts also between two letters that
would join.

* `joinersFit`: whether all joiners of a word mean something.
-/

namespace XmlTemplate.Text.Joining

/-- The character that joins its neighbours. -/
def joiner : Char := '\u200d'

/-- The character that keeps its neighbours apart. -/
def nonJoiner : Char := '\u200c'

/-- Whether a character has no part in joining. -/
def isTransparent (c : Char) : Bool := isNonspacing c || c.toNat == 0x1E94B

/-- Whether the next letter, transparent characters apart, is in one of the ranges. -/
def meets (ranges : List (Nat × Nat)) (s : List Char) : Bool :=
  (s.dropWhile isTransparent).head?.any (inRanges ranges)

/-- The class of the signs that take the vowel from a consonant. -/
def viramaClass : Nat := 9

/-- Whether all joiners of a word mean something, where `before` holds the characters before the
word, the nearest first. -/
def joinersFit (before : List Char) : List Char → Bool
  | [] => true
  | c :: r =>
    let afterVirama := before.head?.any (markClass · == viramaClass)
    let between := meets (dualRanges ++ leftRanges) before && meets (dualRanges ++ rightRanges) r
    let fits :=
      if c == joiner then afterVirama else if c == nonJoiner then afterVirama || between else true
    fits && joinersFit (c :: before) r

end XmlTemplate.Text.Joining
