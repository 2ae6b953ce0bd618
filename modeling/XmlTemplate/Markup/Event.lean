import XmlTemplate.Markup.Escape
import XmlTemplate.Markup.Node

/-!
# Events of a document

A tree is written as a sequence of events: its tags, and the leaves between them. Nodes that
were taken out of the tree they were read in may lack declarations of the prefixes they use;
these are added on the way.

* `Bindings`: the declarations that are in force in the output.
* `repairs`: the declarations that the name and the attributes of an element still need.
* `Node.pushEvents`: the events of a node, put in front of those before it.
-/

namespace XmlTemplate.Markup

/-! ## Declarations in force -/

/-- The declarations in force in the output, the innermost first. -/
abbrev Bindings := List (Option String × String)

namespace Bindings

/-- The namespace that a prefix, or the default namespace, stands for. -/
def find? (bindings : Bindings) (prefixName : Option String) : Option String :=
  if prefixName = some "xml" then some xmlNamespace else bindings.lookup prefixName

/-- The declarations of an element in front of those around it. -/
def declareAll (bindings : Bindings) : List Attribute → Bindings
  | [] => bindings
  | a :: rest =>
    declareAll (if a.isDeclaration then (a.declaredPrefix, a.value) :: bindings else bindings) rest

/-- The declaration that a name still needs to mean the same as in its source. An attribute
without a prefix needs none, and nothing can be declared for a prefix without a namespace. -/
def missing? (bindings : Bindings) (isElement : Bool) (name : QName) :
    Option (Option String × String) :=
  let wanted := name.space.getD ""
  let found := (bindings.find? name.prefixName).getD ""
  if (name.prefixName.isNone && !isElement) || found = wanted
      || (name.prefixName.isSome && wanted.isEmpty) then none
  else some (name.prefixName, wanted)

/-- Adds the declaration that a name still needs, if any. -/
def require (isElement : Bool) (st : Bindings × List Attribute) (name : QName) :
    Bindings × List Attribute :=
  match st.1.missing? isElement name with
  | some (p, uri) => ((p, uri) :: st.1, st.2 ++ [.declaring p uri])
  | none => st

end Bindings

/-- The declarations in force within an element, and the ones to add to its own. -/
def repairs (bindings : Bindings) (tag : Tag) : Bindings × List Attribute :=
  let within := (bindings.declareAll tag.attributes, ([] : List Attribute))
  (tag.plainAttributes.map (·.name)).foldl (Bindings.require false)
    (Bindings.require true within tag.name)

/-! ## Events -/

/-- One step in writing a document. -/
inductive Event where
  | start (name : String) (attributes : List (String × String))
  | empty (name : String) (attributes : List (String × String))
  | finish (name : String)
  | text (value : String)
  | cdata (value : String)
  | comment (value : String)
  | instruction (value : String)
  | doctype (value : String)
  | reference (name : String)
  | declaration (value : Declaration)
deriving DecidableEq, Repr

namespace Event

/-- The attributes of a tag, each with a space before it. -/
def attributesSource (attributes : List (String × String)) : String :=
  String.join (attributes.map fun (key, value) => " " ++ key ++ "=\"" ++ escapeValue value ++ "\"")

/-- A declaration as it is written. Its values stand as they are. -/
def declarationSource (d : Declaration) : String :=
  let part (key : String) (value : Option String) :=
    match value with
    | some v => " " ++ key ++ "=\"" ++ v ++ "\""
    | none => ""
  "<?xml version=\"" ++ d.version ++ "\"" ++ part "encoding" d.encoding
    ++ part "standalone" d.standalone ++ "?>"

/-- The event as it stands in the document. -/
def source : Event → String
  | start name attributes => "<" ++ name ++ attributesSource attributes ++ ">"
  | empty name attributes => "<" ++ name ++ attributesSource attributes ++ "/>"
  | finish name => "</" ++ name ++ ">"
  | text value => escapeText value
  | cdata value => "<![CDATA[" ++ value ++ "]]>"
  | comment value => "<!--" ++ value ++ "-->"
  | instruction value => "<?" ++ value ++ "?>"
  | doctype value => "<!DOCTYPE " ++ value ++ ">"
  | reference name => "&" ++ name ++ ";"
  | declaration d => declarationSource d

/-- Whether the event belongs to the text of an element, around which no line may be broken. -/
def isText : Event → Bool
  | text _ | cdata _ | reference _ => true
  | _ => false

end Event

/-! ## From nodes to events -/

namespace Node

mutual

/-- The events of a node in reverse order, in front of the reversed events before it. -/
def pushEvents (bindings : Bindings) : Node → List Event → List Event
  | .element tag children, before =>
    let (within, added) := repairs bindings tag
    let attributes := (tag.attributes ++ added).map fun a => (a.name.qualified, a.value)
    let name := tag.name.qualified
    if children.isEmpty then .empty name attributes :: before
    else .finish name :: pushAllEvents within children (.start name attributes :: before)
  | .text value, before => .text value :: before
  | .cdata value, before => .cdata value :: before
  | .comment value, before => .comment value :: before
  | .instruction target data, before =>
    .instruction (if data.isEmpty then target else target ++ " " ++ data) :: before
  | .doctype value, before => .doctype value :: before
  | .reference name, before => .reference name :: before
  | .declaration value, before => .declaration value :: before

/-- The events of siblings in reverse order, in front of the reversed events before them. -/
def pushAllEvents (bindings : Bindings) : List Node → List Event → List Event
  | [], before => before
  | node :: rest, before => pushAllEvents bindings rest (pushEvents bindings node before)

end

/-- The events of a list of nodes. -/
def events (nodes : List Node) : List Event := (pushAllEvents [] nodes []).reverse

end Node

end XmlTemplate.Markup
