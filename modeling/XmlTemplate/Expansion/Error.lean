import XmlTemplate.Expr.Error
import XmlTemplate.Markup.Error
import XmlTemplate.Markup.Node
import XmlTemplate.Uri.Error

/-!
# Errors of an expansion

Why a document cannot be loaded, and why it cannot be expanded.

* `LoadError`: what prevents a document from being included.
* `Cause`: what is wrong, apart from where. `Cause.message` is its text.
* `Error`: a cause, and the element whose expansion it ended, if there is one. An error is never
  given a second place.
-/

namespace XmlTemplate.Expansion

open Markup

/-! ## Loading -/

/-- Why a document cannot be loaded. -/
inductive LoadError where
  | notFound (uri : Uri)
  | unsupportedScheme (uri : Uri)
  | invalidUri (href : String) (cause : Uri.Error)
  | unreadable (uri : Uri)
  | malformed (uri : Uri) (cause : ReadError)
  /-- The file with this path has not been fetched yet. -/
  | pending (path : String)
deriving DecidableEq, Repr

namespace LoadError

/-- The text of an error. -/
def message : LoadError → String
  | notFound uri => "document '" ++ uri.toText ++ "' not found"
  | unsupportedScheme uri => "unsupported URI scheme in '" ++ uri.toText ++ "'"
  | invalidUri href _ => "invalid document reference '" ++ href ++ "'"
  | unreadable uri => "failed to read '" ++ uri.toText ++ "'"
  | malformed uri _ => "failed to parse '" ++ uri.toText ++ "'"
  | pending path => "file '" ++ path ++ "' has not been fetched"

end LoadError

/-! ## Expanding -/

/-- Why the value that a directive computes is of no use to it. -/
inductive Reason where
  | notInteger (text : String)
  | notCount
  | notElementName
  | reservedPrefix
  | prefixWithoutNamespace
  | repeatedAttribute
  | notAttributeName
  | notTarget
  | endsInstruction
deriving DecidableEq, Repr

namespace Reason

/-- The text of a reason. -/
def message : Reason → String
  | notInteger text => "'" ++ text ++ "' is not an integer"
  | notCount => "max must be a non-negative integer"
  | notElementName => "not a valid XML element name"
  | reservedPrefix => "the xmlns prefix is reserved"
  | prefixWithoutNamespace => "a prefixed element name needs a namespace"
  | repeatedAttribute => "attribute is specified more than once"
  | notAttributeName => "not a valid attribute name"
  | notTarget => "not a valid processing-instruction target"
  | endsInstruction => "processing-instruction data must not contain '?>'"

end Reason

/-- What is wrong, apart from where. -/
inductive Cause where
  | missingAttributes (element : String) (names : List String)
  | undefinedSymbol (name : String)
  | invalidExpression (source : String) (reason : Reason)
  | includeNotFound (href : String) (cause : LoadError)
  | includeCycle (uri : Uri)
  | parse (cause : ReadError)
  | expression (source : String) (cause : Expr.Error)
  | unhandledNode (kind : NodeKind)
  | misplacedDirective (element : String)
  | recursionLimit (limit : Nat)
  | iterationLimit (limit : Nat)
deriving DecidableEq, Repr

namespace Cause

/-- The text of a cause. -/
def message : Cause → String
  | missingAttributes element names =>
    "<" ++ element ++ "> is missing required attribute(s): " ++ String.intercalate ", " names
  | undefinedSymbol name => "symbol '" ++ name ++ "' is not defined"
  | invalidExpression source reason => "invalid expression '" ++ source ++ "': " ++ reason.message
  | includeNotFound href _ => "cannot include '" ++ href ++ "'"
  | includeCycle uri => "include cycle: '" ++ uri.toText ++ "' is already being expanded"
  | parse _ => "XML parse error"
  | expression source _ => "expression '" ++ source ++ "' failed"
  | unhandledNode kind => "unhandled node kind: " ++ kind.label
  | misplacedDirective element => "<" ++ element ++ "> is only allowed as a child of <element>"
  | recursionLimit limit => "expansion nested deeper than " ++ toString limit ++ " levels"
  | iterationLimit limit => "loop exceeded " ++ toString limit ++ " iterations"

/-- The cause of a failed expression. An unknown variable is an unknown symbol. -/
def ofExpr (source : String) : Expr.Error → Cause
  | .undefinedVariable name => undefinedSymbol name
  | e => expression source e

end Cause

/-- The element whose expansion failed: its name, and where it stands. -/
structure Place where
  element : String
  document : Option Uri
  position : Option Position
deriving DecidableEq, Repr

namespace Place

/-- The document and the position as text. -/
def location (p : Place) : String :=
  let document := (p.document.map Uri.toText).getD "<input>"
  match p.position with
  | some position => document ++ ":" ++ position.toText
  | none => document

/-- The text of a place. -/
def message (p : Place) : String := "in <" ++ p.element ++ "> at " ++ p.location

end Place

/-- Why an expansion failed. -/
structure Error where
  cause : Cause
  place : Option Place
deriving DecidableEq, Repr

namespace Error

/-- A cause without a place. -/
def ofCause (cause : Cause) : Error := ⟨cause, none⟩

/-- The error with a place, unless it has one already. -/
def locate (e : Error) (place : Place) : Error :=
  match e.place with
  | some _ => e
  | none => { e with place := some place }

end Error

end XmlTemplate.Expansion
