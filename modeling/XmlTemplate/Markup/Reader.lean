import XmlTemplate.Markup.Escape
import XmlTemplate.Markup.Lexer
import XmlTemplate.Markup.Scope

/-!
# Reading documents

A document is built from its tokens, one after the other. White space is kept. References to
characters become part of the text around them; other references stay nodes.

* `Builder`: the nodes read so far, at every level that is still open.
* `Builder.feed`: the nodes after one more token.
* `Document.parse`: the document that a text holds.
-/

namespace XmlTemplate.Markup

/-! ## Positions -/

/-- The offsets at which the lines of a text begin, when the first one begins at `start` and the
text itself at `offset`. -/
def lineStartsFrom (offset : Nat) : List Char → List Nat
  | [] => []
  | c :: r =>
    let next := offset + c.utf8Size
    if c == '\n' then next :: lineStartsFrom next r else lineStartsFrom next r

/-- The offsets at which the lines of a text begin. -/
def lineStarts (text : List Char) : List Nat := 0 :: lineStartsFrom 0 text

/-- The line and the column of an offset. -/
def Position.ofOffset (starts : List Nat) (offset : Nat) : Position :=
  let before := starts.takeWhile (· ≤ offset)
  ⟨before.length, offset - before.getLastD 0 + 1⟩

/-! ## Tags -/

/-- Decodes and resolves the attributes of a tag from left to right. -/
def readAttributes (scope : Scope) (offset : Nat) :
    List RawAttribute → Except ReadError (List Attribute)
  | [] => .ok []
  | a :: rest =>
    match unescapeValue a.value with
    | .error fault => .error (.malformed offset (.escape fault))
    | .ok value =>
      match scope.ofAttribute a.key with
      | .error p => .error (.unknownPrefix (String.ofList p) offset)
      | .ok name => (readAttributes scope offset rest).map (⟨name, String.ofList value⟩ :: ·)

/-- What a tag is read from: the lines of its document, the document, and the place of the tag. -/
structure Place where
  starts : List Nat
  document : Option Uri
  offset : Nat

/-- A tag and the scope within it. The declarations of a tag are in force for its own name. -/
def readTag (scope : Scope) (place : Place) (inside : List Char) :
    Except ReadError (Tag × Scope) := do
  let scope ← match scope.declare (rawAttributes none (afterName inside)).1 with
    | .ok scope => .ok scope
    | .error fault => .error (.malformed 0 (.binding fault))
  let name ← match scope.ofElement (tagName inside) with
    | .ok name => .ok name
    | .error p => .error (.unknownPrefix (String.ofList p) place.offset)
  let (raw, fault?) := rawAttributes (some []) (afterName inside)
  let attributes ← readAttributes scope place.offset raw
  match fault? with
  | some fault => .error (.malformed place.offset (.attribute fault))
  | none =>
    .ok (⟨name, attributes, some (.ofOffset place.starts place.offset), place.document⟩, scope)

/-! ## Declarations and instructions -/

/-- The value of a key among attributes, of which those after it may be malformed. -/
def valueOf? (key : List Char) :
    List RawAttribute × Option AttributeFault → Except AttributeFault (Option String)
  | (raw, fault?) =>
    match raw.find? (·.key == key), fault? with
    | some a, _ => .ok (some (String.ofList a.value))
    | none, some fault => .error fault
    | none, none => .ok none

/-- A declaration, from what follows its keyword. The version has to come first. -/
def readDeclaration (s : List Char) : Except Fault Declaration := do
  let attributes := rawAttributes none s
  let version ← match attributes with
    | (first :: _, _) =>
      if first.key == "version".toList then .ok (String.ofList first.value)
      else .error .missingVersion
    | ([], some fault) => .error (.attribute fault)
    | ([], none) => .error .missingVersion
  let optional (key : String) : Except Fault (Option String) :=
    (valueOf? key.toList attributes).mapError .attribute
  return ⟨version, ← optional "encoding", ← optional "standalone"⟩

/-- The inside of an instruction that is a declaration, without its keyword. -/
def declarationText? (s : List Char) : Option (List Char) :=
  match s with
  | 'x' :: 'm' :: 'l' :: r =>
    if r.head?.all isSpace then some r else none
  | _ => none

/-- The target of an instruction and its data. -/
def readInstruction (s : List Char) : Node :=
  match Text.cutAt? Text.isBlank s with
  | some (target, data) => .instruction (String.ofList target) (String.ofList (Text.trimStart data))
  | none => .instruction (String.ofList s) ""

/-! ## Building the tree -/

/-- Siblings in reverse order with one more node. Text joins the text before it. -/
def pushNode (nodes : List Node) (node : Node) : List Node :=
  match nodes, node with
  | .text a :: rest, .text b => .text (a ++ b) :: rest
  | _, _ => node :: nodes

/-- An element whose end tag has not been read. Its children are in reverse order. -/
structure OpenElement where
  tag : Tag
  scope : Scope
  children : List Node

/-- The elements that are open, the innermost first, and the top-level nodes in reverse order. -/
structure Builder where
  opened : List OpenElement
  top : List Node

namespace Builder

/-- Nothing read yet. -/
def start : Builder := ⟨[], []⟩

/-- The scope of the innermost element. -/
def scope (b : Builder) : Scope :=
  match b.opened with
  | e :: _ => e.scope
  | [] => .initial

/-- One more node at the innermost level. -/
def push (b : Builder) (node : Node) : Builder :=
  match b.opened with
  | e :: rest => { b with opened := { e with children := node :: e.children } :: rest }
  | [] => { b with top := node :: b.top }

/-- More text at the innermost level. -/
def pushText (b : Builder) (s : String) : Builder :=
  match b.opened with
  | e :: rest => { b with opened := { e with children := pushNode e.children (.text s) } :: rest }
  | [] => { b with top := pushNode b.top (.text s) }

/-- What a reference adds: a character to the text, or a node. -/
def pushReference (b : Builder) (offset : Nat) (name : List Char) : Except ReadError Builder :=
  match name with
  | '#' :: number =>
    match contentChar? number with
    | some c => .ok (b.pushText (String.singleton c))
    | none => .error (.invalidCharRef (String.ofList name) offset)
  | _ =>
    match predefined? name with
    | some c => .ok (b.pushText (String.singleton c))
    | none => .ok (b.push (.reference (String.ofList name)))

/-- Closes the innermost element, which has to have the name of the end tag. -/
def close (b : Builder) (offset : Nat) (found : String) : Except ReadError Builder :=
  match b.opened with
  | [] => .error (.unexpectedEnd found offset)
  | e :: rest =>
    if e.tag.name.qualified = found then
      .ok ({ b with opened := rest }.push (.element e.tag e.children.reverse))
    else .error (.mismatchedEnd e.tag.name.qualified found offset)

/-- The nodes after one more token. A declaration goes to the top level wherever it stands. -/
def feed (b : Builder) (place : Place) : Token → Except ReadError Builder
  | .text chars => .ok (b.pushText (String.ofList chars))
  | .reference name => b.pushReference place.offset name
  | .start inside => do
    let (tag, scope) ← readTag b.scope place inside
    return { b with opened := ⟨tag, scope, []⟩ :: b.opened }
  | .empty inside => do
    let (tag, _) ← readTag b.scope place inside
    return b.push (.element tag [])
  | .finish inside => b.close place.offset (String.ofList (endName inside))
  | .comment chars => .ok (b.push (.comment (String.ofList chars)))
  | .cdata chars => .ok (b.push (.cdata (String.ofList chars)))
  | .doctype _ chars =>
    .ok (b.push (.doctype (String.ofList (Text.trim (chars.dropWhile isSpace)))))
  | .instruction chars =>
    match declarationText? chars with
    | some text =>
      match readDeclaration text with
      | .ok d => .ok { b with top := .declaration d :: b.top }
      | .error fault => .error (.malformed place.offset fault)
    | none => .ok (b.push (readInstruction chars))

/-- The document that has been read when no text is left. -/
def finish (b : Builder) (uri : Option Uri) : Except ReadError Document :=
  match b.opened with
  | e :: _ => .error (.unclosed e.tag.name.qualified)
  | [] =>
    let document : Document := ⟨uri, b.top.reverse⟩
    if document.root?.isSome then .ok document else .error .noRoot

/-- The document whose remaining text is that of `l`. -/
def run (starts : List Nat) (uri : Option Uri) (b : Builder) (l : Lexer) :
    Except ReadError Document :=
  match _h : l.next with
  | .error e => .error e
  | .ok none => b.finish uri
  | .ok (some (token, l')) =>
    match b.feed ⟨starts, uri, l.offset⟩ token with
    | .error e => .error e
    | .ok b' => run starts uri b' l'
termination_by l.rest.length
decreasing_by exact Lexer.length_lt_of_next _h

end Builder

/-- The document that a text holds. `uri` is where the text comes from. -/
def Document.parse (text : String) (uri : Option Uri) : Except ReadError Document :=
  let chars := text.toList
  Builder.start.run (lineStarts chars) uri (.ofText chars)

end XmlTemplate.Markup
