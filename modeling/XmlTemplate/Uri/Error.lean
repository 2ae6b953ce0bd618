/-!
# Faults of URI references

Why a text is not a URI, or not a reference that can be resolved.
-/

namespace XmlTemplate.Uri

/-- What is wrong with a reference. -/
inductive Error where
  | emptyHost
  | invalidInternationalName
  | invalidPort
  | invalidIpv4Address
  | invalidIpv6Address
  | invalidDomainCharacter
  | relativeWithoutBase
  /-- The base is a URI without a path of segments. -/
  | relativeToVerbatimBase
deriving DecidableEq, Repr

end XmlTemplate.Uri
