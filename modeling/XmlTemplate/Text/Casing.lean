import XmlTemplate.Text.CasingTable
import XmlTemplate.Text.Ranges

/-!
# Case conversion of text

Upper and lower case over all of Unicode, independent of any locale.

* `upperChar`, `lowerChar`: the counterpart of one character, which may be several characters.
* `toUpper`, `toLower`: the conversion of a text. Lower case depends on the context in one
  place only: a capital sigma at the end of a word becomes `ς`, any other becomes `σ`.
-/

namespace XmlTemplate.Text

/-! ## Single characters -/

/-- The counterpart of a character in a table of runs, or the character itself. -/
def mapRun (runs : List CaseRun) (c : Char) : Char :=
  match runs.find? (·.covers c.toNat) with
  | some r => Char.ofNat (c.toNat + r.delta).toNat
  | none => c

/-- The counterpart of a character, looked up among the long ones first. -/
def mapChar (long : List (Nat × List Nat)) (runs : List CaseRun) (c : Char) : List Char :=
  match long.find? (·.1 == c.toNat) with
  | some (_, ns) => ns.map Char.ofNat
  | none => [mapRun runs c]

/-- The upper-case form of a character; a character without one stands for itself. -/
def upperChar (c : Char) : List Char :=
  if c.toNat < 0x80 then [c.toUpper] else mapChar upperLong upperRuns c

/-- The lower-case form of a character, wherever it stands. -/
def lowerChar (c : Char) : List Char :=
  if c.toNat < 0x80 then [c.toLower] else mapChar lowerLong lowerRuns c

/-- A letter of upper, lower or title case. -/
def isCased (c : Char) : Bool := inRanges casedRanges c

/-- A character that does not separate a letter from the word it belongs to. -/
def isCaseIgnorable (c : Char) : Bool := inRanges caseIgnorableRanges c

/-! ## Texts -/

/-- The upper-case form of a text. -/
def toUpper (s : List Char) : List Char := s.flatMap upperChar

/-- Whether a cased letter comes first once the ignorable characters are skipped. -/
def meetsCased (s : List Char) : Bool :=
  match s.dropWhile isCaseIgnorable with
  | c :: _ => isCased c
  | [] => false

/-- A sigma is final if a cased letter precedes it in its word and none follows. `before` holds
the characters before it, the nearest first. -/
def isFinalSigma (before after : List Char) : Bool := meetsCased before && !meetsCased after

/-- Lower case of a text whose preceding characters are `before`, the nearest first. -/
def lowerFrom (before : List Char) : List Char → List Char
  | [] => []
  | c :: r =>
    let low := if c == 'Σ' then [if isFinalSigma before r then 'ς' else 'σ'] else lowerChar c
    low ++ lowerFrom (c :: before) r

/-- The lower-case form of a text. -/
def toLower (s : List Char) : List Char := lowerFrom [] s

end XmlTemplate.Text
