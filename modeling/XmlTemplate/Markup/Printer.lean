import XmlTemplate.Markup.Event

/-!
# Writing documents

The text of a document, with or without line breaks between its tags.

* `Page`: the text written so far, and where the next line would begin.
* `printNodes`: the text of a list of nodes.
* `Document.print`: the text of a document with its declaration.
-/

namespace XmlTemplate.Markup

/-- How a document is written. -/
structure Layout where
  /-- The number of spaces for each level; without it no line is broken. -/
  indent : Option Nat
  /-- Whether a declaration comes first. -/
  declaration : Bool
deriving DecidableEq, Repr

namespace Layout

/-- The document exactly as it is, after a declaration. -/
def standard : Layout := ⟨none, true⟩

end Layout

/-- The text written so far, the number of open elements, and whether a line may be broken. -/
structure Page where
  text : String
  depth : Nat
  breakable : Bool

namespace Page

/-- Nothing written yet. -/
def blank : Page := ⟨"", 0, false⟩

/-- The line break before an event: there is one between two events of which neither is text. -/
def lineBreak (indent : Option Nat) (page : Page) (depth : Nat) (e : Event) : String :=
  match indent with
  | some width =>
    if page.breakable && !e.isText then
      "\n" ++ String.ofList (List.replicate (depth * width) ' ')
    else ""
  | none => ""

/-- The page after one more event. An end tag stands on the level of its start tag. -/
def write (indent : Option Nat) (page : Page) (e : Event) : Page :=
  let depth := match e with
    | .finish _ => page.depth - 1
    | _ => page.depth
  let deeper := match e with
    | .start .. => depth + 1
    | _ => depth
  ⟨page.text ++ lineBreak indent page depth e ++ e.source, deeper, !e.isText⟩

/-- The page after a sequence of events. -/
def writeAll (indent : Option Nat) (page : Page) (events : List Event) : Page :=
  events.foldl (write indent) page

end Page

/-- The text of a list of nodes, without a declaration in front of it. -/
def printNodes (indent : Option Nat) (nodes : List Node) : String :=
  (Page.blank.writeAll indent (Node.events nodes)).text

/-- The events of a document. Its first declaration comes first, or the standard one if it has
none; where no declaration is wanted there is none. -/
def Document.events (d : Document) (declaration : Bool) : List Event :=
  let content := d.children.filter fun
    | .declaration _ => false
    | _ => true
  let first := if declaration then [.declaration (d.declaration?.getD .standard)] else []
  first ++ Node.events content

/-- The text of a document. -/
def Document.print (d : Document) (layout : Layout) : String :=
  (Page.blank.writeAll layout.indent (d.events layout.declaration)).text

end XmlTemplate.Markup
