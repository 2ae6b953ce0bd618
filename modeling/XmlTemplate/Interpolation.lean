import XmlTemplate.Text.Search

/-!
# Symbol references in text

A name in braces refers to a symbol; a doubled brace stands for a brace; any other brace stands
for itself.

* `isSymbolName`: which texts are names of symbols.
* `segments`: a text cut into literal runs and references.
* `encode`: a text that is cut into given parts again.
-/

namespace XmlTemplate.Interpolation

/-- The characters that a symbol name begins with. -/
def isSymbolStart (c : Char) : Bool := c.isAlpha || c == '_'

/-- The characters that a symbol name continues with. -/
def isSymbolChar (c : Char) : Bool := c.isAlphanum || c == '_' || c == '.' || c == '-'

/-- A letter or an underscore, and after it also digits, dots and hyphens, all of them ASCII. -/
def isSymbolName : List Char → Bool
  | [] => false
  | c :: r => isSymbolStart c && r.all isSymbolChar

/-- A part of a text. -/
inductive Segment where
  | literal (text : String)
  | symbol (name : String)
deriving DecidableEq, Repr

/-- The brace before a name. -/
def opening : Char := '\x7b'

/-- The brace after a name. -/
def closing : Char := '\x7d'

/-- Whether a character is a brace. -/
def isBrace (c : Char) : Bool := c == opening || c == closing

/-- The symbol name at the start of a text, if a closing brace follows it, and what follows that. -/
def referenceName? (s : List Char) : Option (List Char × List Char) :=
  (Text.cutAt? (· == closing) s).filter fun (name, _) => isSymbolName name

theorem length_lt_of_referenceName? {s name rest : List Char}
    (h : referenceName? s = some (name, rest)) : rest.length < s.length := by
  simp only [referenceName?, Option.filter_eq_some_iff, Text.cutAt?] at h
  obtain ⟨h, -⟩ := h
  split at h
  · simp at h
  · rename_i hd
    simp only [Option.some.injEq, Prod.mk.injEq] at h
    obtain ⟨-, rfl⟩ := h
    have := (List.dropWhile_suffix (!(· == closing) ·) : s.dropWhile _ <:+ s).length_le
    rw [hd] at this
    simp only [List.length_cons] at this
    omega

/-- The literal segment of reversed characters, none if there are none. -/
def literalOf (reversed : List Char) : List Segment :=
  if reversed.isEmpty then [] else [.literal (String.ofList reversed.reverse)]

/-- The segments of a text whose literal start is `reversed`, which holds the characters since
the last reference. -/
def segmentsFrom (reversed : List Char) (s : List Char) : List Segment :=
  match s with
  | [] => literalOf reversed
  | c :: r =>
    if isBrace c then
      if r.head? = some c then segmentsFrom (c :: reversed) (r.drop 1)
      else
        match _h : (if c = opening then referenceName? r else none) with
        | some (name, rest) =>
          literalOf reversed ++ .symbol (String.ofList name) :: segmentsFrom [] rest
        | none => segmentsFrom (c :: reversed) r
    else segmentsFrom (c :: reversed) r
termination_by s.length
decreasing_by
  · simp only [List.length_drop, List.length_cons]; omega
  · split at _h
    · have := length_lt_of_referenceName? _h
      simp only [List.length_cons]; omega
    · simp at _h
  all_goals simp

/-- The segments of a text. A text without braces is one literal, even if it is empty. -/
def segments (text : String) : List Segment :=
  let s := text.toList
  if s.any isBrace then segmentsFrom [] s else [.literal text]

/-- A character as it is written so that it stands for itself. -/
def escape (c : Char) : List Char := if isBrace c then [c, c] else [c]

namespace Segment

/-- The text that a segment is read from. -/
def encode : Segment → List Char
  | literal text => text.toList.flatMap escape
  | symbol name => opening :: name.toList ++ [closing]

end Segment

/-- A text that is cut into the given parts, up to joining neighbouring literals. -/
def encode (parts : List Segment) : List Char := parts.flatMap Segment.encode

end XmlTemplate.Interpolation
