import XmlTemplate.Markup.Node
import XmlTemplate.Markup.TagText

/-!
# Namespaces in scope

Which namespace a prefix stands for while a document is read. The default namespace is bound to
the empty prefix, and a binding to the empty text takes it back.

* `Scope.declare`: the scope within a tag, by the declarations among its attributes.
* `Scope.ofElement`, `Scope.ofAttribute`: the namespace of a name.
-/

namespace XmlTemplate.Markup

/-- The bindings of prefixes to namespaces, the innermost first. -/
abbrev Scope := List (List Char × List Char)

namespace Scope

/-- The bindings that every document starts with. -/
def initial : Scope :=
  [("xmlns".toList, declarationNamespace.toList), ("xml".toList, xmlNamespace.toList)]

/-- The prefix that an attribute with this key declares, the empty one for the default
namespace. -/
def declaredPrefix? (key : List Char) : Option (List Char) :=
  match key with
  | 'x' :: 'm' :: 'l' :: 'n' :: 's' :: r =>
    match r with
    | [] => some []
    | ':' :: name => some name
    | _ => none
  | _ => none

/-- The scope with one more binding, if it is admitted. The key `xmlns` admits every URI. -/
def bind (scope : Scope) (key name uri : List Char) : Except NamespaceFault Scope :=
  if key == "xmlns".toList then .ok ((name, uri) :: scope)
  else if name == "xml".toList then
    if uri == xmlNamespace.toList then .ok scope else .error .rebindsXml
  else if name == "xmlns".toList then .error .bindsXmlns
  else if uri == xmlNamespace.toList then .error .prefixForXml
  else if uri == declarationNamespace.toList then .error .prefixForXmlns
  else .ok ((name, uri) :: scope)

/-- The scope within a tag. -/
def declare (scope : Scope) : List RawAttribute → Except NamespaceFault Scope
  | [] => .ok scope
  | a :: rest =>
    match declaredPrefix? a.key with
    | some name => (scope.bind a.key name a.value).bind fun scope => scope.declare rest
    | none => scope.declare rest

/-- The namespace that a prefix is bound to. The empty prefix is never bound. -/
def ofPrefix? (scope : Scope) (name : List Char) : Option (List Char) :=
  if name.isEmpty then none else (scope.lookup name).filter (!·.isEmpty)

/-- The default namespace, if there is one. -/
def default? (scope : Scope) : Option (List Char) := (scope.lookup []).filter (!·.isEmpty)

/-- A name cut at its colon: the prefix, if there is one, and the local name. -/
def cutName (name : List Char) : Option (List Char) × List Char :=
  match cutAtColon? name with
  | some (p, rest) => (some p, rest)
  | none => (none, name)

/-- The name of an element, or the prefix that is not bound. -/
def ofElement (scope : Scope) (name : List Char) : Except (List Char) QName :=
  match cutName name with
  | (none, rest) => .ok ⟨none, String.ofList rest, scope.default?.map String.ofList⟩
  | (some p, rest) =>
    match scope.ofPrefix? p with
    | some uri => .ok ⟨some (String.ofList p), String.ofList rest, some (String.ofList uri)⟩
    | none => .error p

/-- The name of an attribute, or the prefix that is not bound. Declarations are in their own
namespace, and a name without a prefix is in none. -/
def ofAttribute (scope : Scope) (key : List Char) : Except (List Char) QName :=
  match declaredPrefix? key with
  | some name =>
    if key == "xmlns".toList then .ok ⟨none, "xmlns", some declarationNamespace⟩
    else .ok ⟨some "xmlns", String.ofList name, some declarationNamespace⟩
  | none =>
    match cutName key with
    | (none, rest) => .ok ⟨none, String.ofList rest, none⟩
    | (some p, rest) =>
      match scope.ofPrefix? p with
      | some uri => .ok ⟨some (String.ofList p), String.ofList rest, some (String.ofList uri)⟩
      | none => .error p

end Scope

end XmlTemplate.Markup
