import XmlTemplate.Interpolation
import XmlTemplate.Text.Blank

/-!
# Definitions on the command line

A symbol and its text, written `NAME=VALUE`.

* `Definition.read`: the definition that a text holds.
* `Definition.toText`: the text that a definition is read from.
-/

namespace XmlTemplate.Command

/-- A symbol that is defined from the start. -/
structure Definition where
  name : String
  value : String
deriving DecidableEq, Repr

/-- A text before the equals sign that is not a symbol name. -/
structure InvalidName where
  name : String
deriving DecidableEq, Repr

namespace InvalidName

/-- The text of the error. -/
def message (e : InvalidName) : String := "invalid symbol name: '" ++ e.name ++ "'"

end InvalidName

namespace Definition

/-- The name and the value in a text: what stands before and after its first equals sign. Without
one the value is empty. -/
def parts (s : List Char) : List Char × List Char := (Text.cutAt? (· == '=') s).getD (s, [])

/-- The definition that a text holds. White space around the name is left out. -/
def read (text : String) : Except InvalidName Definition :=
  let (before, value) := parts text.toList
  let name := Text.trim before
  if Interpolation.isSymbolName name then .ok ⟨String.ofList name, String.ofList value⟩
  else .error ⟨String.ofList name⟩

/-- The text of a definition. -/
def toText (d : Definition) : String := d.name ++ "=" ++ d.value

end Definition

end XmlTemplate.Command
