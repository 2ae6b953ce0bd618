import XmlTemplate.Expansion.Error
import XmlTemplate.Markup.Reader

/-!
# Options of an expansion

* `Loader`: where included documents come from.
* `Options`: the namespace of directives, the limits, and the symbols defined from the start.
-/

namespace XmlTemplate.Expansion

open Markup

/-- What becomes of text that is nothing but white space. -/
inductive Whitespace where
  /-- It is dropped. -/
  | collapse
  /-- It is kept. -/
  | preserve
deriving DecidableEq, Repr

/-- The document that a URI names. -/
abbrev Loader := Uri → Except LoadError Document

namespace Loader

/-- The document in a text that was loaded from a URI. -/
def document (uri : Uri) (text : String) : Except LoadError Document :=
  (Document.parse text (some uri)).mapError (.malformed uri)

/-- Documents held in memory, by the text of their URIs. -/
def ofTexts (texts : List (String × String)) : Loader := fun uri =>
  match texts.lookup uri.toText with
  | some text => document uri text
  | none => .error (.notFound uri)

end Loader

/-- The settings of an expansion. -/
structure Options where
  /-- The namespace whose elements are directives and symbol invocations. -/
  space : String
  whitespace : Whitespace
  /-- How deep expansions may be nested. -/
  maxDepth : Nat
  /-- How often the body of a `for` loop may be expanded. -/
  maxIterations : Nat
  /-- How many expressions are remembered. -/
  cacheSize : Nat
  /-- The symbols defined from the start, in this order. -/
  definitions : List (String × String)
  loader : Loader

/-- The namespace of directives, unless another one is chosen. -/
def defaultSpace : String := "urn:confpp:preprocessor"

namespace Options

/-- The usual settings. -/
def standard (loader : Loader) : Options := ⟨defaultSpace, .collapse, 256, 100000, 256, [], loader⟩

end Options

end XmlTemplate.Expansion
