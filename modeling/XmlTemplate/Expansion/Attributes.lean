import XmlTemplate.Expansion.Expand

/-!
# Attributes of directives

What directives take from the attributes of their elements.

* `requireAttributes`: the values of the attributes that a directive has to have.
* `symbolArguments`: all attributes of an element as symbols, which is how arguments are passed.
* `elementName`, `attributeName`: the names that a document may compute.
-/

namespace XmlTemplate.Expansion

open Markup

/-! ## Required attributes -/

/-- The required attributes that a tag does not have. -/
def missingAttributes (tag : Tag) (names : List String) : List String :=
  names.filter fun name => (tag.attribute? name).isNone

/-- The value of an attribute, empty if the tag does not have it. -/
def attributeValue (tag : Tag) (name : String) : String := (tag.attribute? name).getD ""

/-- The values of required attributes, in the order in which they are asked for. -/
def requireAttributes (tag : Tag) (names : List String) : Except Cause (List String) :=
  if (missingAttributes tag names).isEmpty then .ok (names.map (attributeValue tag))
  else .error (.missingAttributes tag.name.qualified (missingAttributes tag names))

/-! ## Computed names -/

/-- The name of an element that is computed. A prefix needs a namespace, and must not be the one
of declarations. -/
def elementName (name : List Char) (space : Option String) : Except Cause QName :=
  let refuse (reason : Reason) : Except Cause QName :=
    .error (.invalidExpression (String.ofList name) reason)
  if !isQName name then refuse .notElementName
  else
    match cutAtColon? name with
    | none => .ok ⟨none, String.ofList name, space⟩
    | some (p, rest) =>
      if p == "xmlns".toList then refuse .reservedPrefix
      else if space.all String.isEmpty then refuse .prefixWithoutNamespace
      else .ok ⟨some (String.ofList p), String.ofList rest, space⟩

/-- The name of an attribute that is computed. It has no prefix, or the prefix `xml`. -/
def attributeName (name : List Char) : Except Cause QName :=
  let refused : Except Cause QName :=
    .error (.invalidExpression (String.ofList name) .notAttributeName)
  match cutAtColon? name with
  | some (p, rest) =>
    if p == "xml".toList && isNCName rest then
      .ok ⟨some "xml", String.ofList rest, some xmlNamespace⟩
    else refused
  | none =>
    if isNCName name && name != "xmlns".toList then .ok (.plain (String.ofList name))
    else refused

/-- The target of an instruction that is computed. -/
def instructionTarget (name : List Char) : Except Cause String :=
  if !isNCName name || name.map Char.toLower == "xml".toList then
    .error (.invalidExpression (String.ofList name) .notTarget)
  else .ok (String.ofList name)

/-! ## Arguments -/

section Arguments

variable (options : Options) (deeper : Level)

/-- Attributes with the symbols in their values expanded, by their local names. -/
def interpolateValues : List Attribute → Expand (List (String × String))
  | [] => return []
  | a :: rest => do
    let value ← interpolateText options deeper a.value
    return (a.name.localName, value) :: (← interpolateValues rest)

/-- The attributes of a tag as symbols. Their values are expanded before any of them is bound. -/
def symbolArguments (tag : Tag) : Expand (List (String × String)) :=
  interpolateValues options deeper tag.plainAttributes

/-- The value of a required attribute with its symbols expanded. -/
def expandedValue (tag : Tag) (name : String) : Expand String :=
  interpolateText options deeper (attributeValue tag name)

end Arguments

/-- Binds names to texts, one after the other. -/
def defineAll : List (String × String) → Expand Unit
  | [] => return
  | (name, value) :: rest => do
    Expand.define name (.text value)
    defineAll rest

end XmlTemplate.Expansion
