import XmlTemplate.Markup.Name
import XmlTemplate.Text.Blank
import XmlTemplate.Uri.Basic

/-!
# Markup trees

The tree that documents are read into, expanded and written from.

* `QName`: a name with its namespace. `Attribute`: namespace declarations are attributes too.
* `Node`: an element has a `Tag` and children; every other node is a leaf.
* `Element`: an element taken apart, with the operations that build one.
* `Node.content`: the text of a node and its descendants.
-/

namespace XmlTemplate.Markup

/-- The namespace of namespace declarations. -/
def declarationNamespace : String := "http://www.w3.org/2000/xmlns/"

/-- The namespace that the prefix `xml` is always bound to. -/
def xmlNamespace : String := "http://www.w3.org/XML/1998/namespace"

/-! ## Names and attributes -/

/-- A name, its prefix if it is written with one, and its namespace if it is in one. -/
structure QName where
  prefixName : Option String
  localName : String
  space : Option String
deriving DecidableEq, Repr, Inhabited

namespace QName

/-- A name without a prefix and a namespace. -/
def plain (localName : String) : QName := ⟨none, localName, none⟩

/-- The name as it is written in markup. -/
def qualified (name : QName) : String :=
  match name.prefixName with
  | some p => p ++ ":" ++ name.localName
  | none => name.localName

/-- Whether the name belongs to a namespace. -/
def isIn (name : QName) (space : String) : Bool := name.space == some space

/-- Whether the name is a given one of a namespace. -/
def isNamed (name : QName) (space localName : String) : Bool :=
  name.isIn space && name.localName == localName

end QName

/-- An attribute, or a namespace declaration. -/
structure Attribute where
  name : QName
  value : String
deriving DecidableEq, Repr, Inhabited

namespace Attribute

/-- The attribute that binds a prefix, or the default namespace, to a URI. -/
def declaring (prefixName : Option String) (uri : String) : Attribute :=
  match prefixName with
  | some p => ⟨⟨some "xmlns", p, some declarationNamespace⟩, uri⟩
  | none => ⟨⟨none, "xmlns", some declarationNamespace⟩, uri⟩

/-- Whether the attribute is a namespace declaration. -/
def isDeclaration (a : Attribute) : Bool := a.name.isIn declarationNamespace

/-- The prefix that a declaration binds; none for the default namespace. -/
def declaredPrefix (a : Attribute) : Option String :=
  a.name.prefixName.map fun _ => a.name.localName

end Attribute

/-! ## Nodes -/

/-- Where a start tag stands in its document, counted from one; columns count octets. -/
structure Position where
  line : Nat
  column : Nat
deriving DecidableEq, Repr, Inhabited

namespace Position

/-- The position as it appears in messages. -/
def toText (p : Position) : String := toString p.line ++ ":" ++ toString p.column

end Position

/-- The declaration at the start of a document. -/
structure Declaration where
  version : String
  encoding : Option String
  standalone : Option String
deriving DecidableEq, Repr, Inhabited

namespace Declaration

/-- The declaration that is written where a document has none. -/
def standard : Declaration := ⟨"1.0", some "UTF-8", none⟩

end Declaration

/-- An element without its children. `position` refers to the document that `document` names. -/
structure Tag where
  name : QName
  attributes : List Attribute
  position : Option Position
  document : Option Uri
deriving DecidableEq, Repr, Inhabited

/-- A node of a markup tree. -/
inductive Node where
  | element (tag : Tag) (children : List Node)
  | text (value : String)
  | cdata (value : String)
  | comment (value : String)
  | instruction (target data : String)
  | doctype (value : String)
  /-- A reference to an entity that is not predefined. -/
  | reference (name : String)
  | declaration (value : Declaration)
deriving Repr, Inhabited

/-- The kinds of nodes. -/
inductive NodeKind where
  | element | text | cdata | comment | instruction | doctype | reference | declaration
deriving DecidableEq, Repr

namespace NodeKind

/-- The kind as it appears in messages. -/
def label : NodeKind → String
  | .element => "element"
  | .text => "text"
  | .cdata => "cdata"
  | .comment => "comment"
  | .instruction => "processing-instruction"
  | .doctype => "doctype"
  | .reference => "entity-reference"
  | .declaration => "xml-declaration"

end NodeKind

/-- An element taken apart into its tag and its children. -/
structure Element where
  tag : Tag
  children : List Node
deriving Inhabited

namespace Tag

/-- The attributes that are not namespace declarations. -/
def plainAttributes (tag : Tag) : List Attribute := tag.attributes.filter (!·.isDeclaration)

/-- The value of an attribute without a prefix. -/
def attribute? (tag : Tag) (localName : String) : Option String :=
  (tag.attributes.find? fun a =>
    a.name.prefixName.isNone && a.name.localName == localName && !a.isDeclaration).map (·.value)

end Tag

namespace Node

/-- The kind of a node. -/
def kind : Node → NodeKind
  | .element .. => .element
  | .text _ => .text
  | .cdata _ => .cdata
  | .comment _ => .comment
  | .instruction .. => .instruction
  | .doctype _ => .doctype
  | .reference _ => .reference
  | .declaration _ => .declaration

/-- The element that a node is. -/
def element? : Node → Option Element
  | .element tag children => some ⟨tag, children⟩
  | _ => none

/-- The text that a text node holds. -/
def text? : Node → Option String
  | .text value => some value
  | _ => none

/-- Whether a node is text of nothing but white space. -/
def isBlankText : Node → Bool
  | .text value => Text.allBlank value.toList
  | _ => false

mutual

/-- What a node adds to the text of the element around it. -/
def inner : Node → String
  | .element _ children => innerAll children
  | .text value | .cdata value => value
  | _ => ""

/-- The text within a list of siblings. -/
def innerAll : List Node → String
  | [] => ""
  | node :: rest => node.inner ++ innerAll rest

end

/-- The text that a node stands for on its own. -/
def content : Node → String
  | .element _ children => innerAll children
  | .text value | .cdata value | .comment value => value
  | .instruction _ data => data
  | .reference name => "&" ++ name ++ ";"
  | .doctype _ | .declaration _ => ""

/-- The text that a list of nodes stands for. -/
def contentAll (nodes : List Node) : String := String.join (nodes.map content)

end Node

/-! ## Building elements -/

namespace Element

/-- An element without attributes and children. -/
def named (name : QName) : Element := ⟨⟨name, [], none, none⟩, []⟩

/-- The element as a node. -/
def toNode (e : Element) : Node := .element e.tag e.children

/-- The element with one more attribute. -/
def withAttribute (e : Element) (a : Attribute) : Element :=
  { e with tag := { e.tag with attributes := e.tag.attributes ++ [a] } }

/-- The element with a prefix, or the default namespace, bound to a URI. -/
def declaring (e : Element) (prefixName : Option String) (uri : String) : Element :=
  e.withAttribute (.declaring prefixName uri)

/-- The element with further children. -/
def withChildren (e : Element) (nodes : List Node) : Element :=
  { e with children := e.children ++ nodes }

/-- The element at a position. -/
def placed (e : Element) (line column : Nat) : Element :=
  { e with tag := { e.tag with position := some ⟨line, column⟩ } }

/-- The elements among the children. -/
def childElements (e : Element) : List Element := e.children.filterMap Node.element?

end Element

/-! ## Documents -/

/-- A document: its top-level nodes and the URI it was read from. -/
structure Document where
  uri : Option Uri
  children : List Node
deriving Inhabited

namespace Document

/-- The first element of a document. -/
def root? (d : Document) : Option Element := d.children.findSome? Node.element?

/-- The first declaration of a document. -/
def declaration? (d : Document) : Option Declaration :=
  d.children.findSome? fun
    | .declaration value => some value
    | _ => none

end Document

end XmlTemplate.Markup
