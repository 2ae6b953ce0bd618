/-!
# Faults of documents

Why a text cannot be read as a document.

* `Fault`: what is malformed in the text itself.
* `ReadError`: the same with its place, and the errors that concern the document as a whole.
-/

namespace XmlTemplate.Markup

/-- What is wrong with the attributes of a tag. -/
inductive AttributeFault where
  | expectedEquals | expectedValue | unquotedValue | expectedQuote | duplicated
deriving DecidableEq, Repr

/-- What is wrong with a reference in the value of an attribute. -/
inductive EscapeFault where
  | unrecognizedEntity | unterminatedEntity | invalidCharacter
deriving DecidableEq, Repr

/-- Why a namespace declaration is refused. -/
inductive NamespaceFault where
  /-- The prefix `xml` is bound to another namespace than its own. -/
  | rebindsXml
  /-- The prefix `xmlns` is bound. -/
  | bindsXmlns
  /-- The namespace of `xml` is bound to another prefix. -/
  | prefixForXml
  /-- The namespace of declarations is bound to a prefix. -/
  | prefixForXmlns
deriving DecidableEq, Repr

/-- What is malformed in a text. -/
inductive Fault where
  | unclosedTag | unclosedInstruction | unclosedComment | unclosedCData | unclosedDoctype
  /-- An exclamation mark begins neither a comment, a CDATA section nor a doctype. -/
  | invalidBang
  | unclosedReference | mismatchedEndTag | unmatchedEndTag
  | missingDoctypeName | missingVersion
  | attribute (fault : AttributeFault)
  | escape (fault : EscapeFault)
  | binding (fault : NamespaceFault)
deriving DecidableEq, Repr

/-- Why a text is not a document. Positions are octets from its start. -/
inductive ReadError where
  | malformed (position : Nat) (fault : Fault)
  | unknownPrefix (name : String) (position : Nat)
  | mismatchedEnd (expected found : String) (position : Nat)
  | unexpectedEnd (found : String) (position : Nat)
  | unclosed (name : String)
  | invalidCharRef (reference : String) (position : Nat)
  | noRoot
deriving DecidableEq, Repr

namespace ReadError

/-- The text of an error, but for the description of a malformed text. -/
def message : ReadError → String
  | malformed position _ => "malformed XML at byte " ++ toString position
  | unknownPrefix name position =>
    "unknown namespace prefix '" ++ name ++ "' at byte " ++ toString position
  | mismatchedEnd expected found position =>
    "end tag </" ++ found ++ "> does not match <" ++ expected ++ "> at byte " ++ toString position
  | unexpectedEnd found position =>
    "unexpected end tag </" ++ found ++ "> at byte " ++ toString position
  | unclosed name => "unclosed element <" ++ name ++ "> at end of input"
  | invalidCharRef reference position =>
    "invalid character reference '&" ++ reference ++ ";' at byte " ++ toString position
  | noRoot => "document has no root element"

end ReadError

end XmlTemplate.Markup
