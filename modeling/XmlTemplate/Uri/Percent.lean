import XmlTemplate.Decimal.Integer

/-!
# Percent encoding

Octets of a text written as a percent sign and two hexadecimal digits.

* `encode`: every character outside ASCII, and those of a given class, as their UTF-8 octets.
* `decode`: the octets of a text, encoded or not.
* The classes of characters that are encoded in each part of a URI.
-/

namespace XmlTemplate.Uri.Percent

/-! ## Characters that are encoded -/

/-- The control characters. -/
def control (c : Char) : Bool := c.toNat < 0x20 || c.toNat == 0x7F

/-- Characters that are encoded in a fragment. -/
def fragment (c : Char) : Bool := control c || c ∈ [' ', '"', '<', '>', '\x60']

/-- Characters that are encoded in a query. -/
def query (c : Char) : Bool := control c || c ∈ [' ', '"', '#', '<', '>']

/-- Characters that are encoded in the query of a special scheme. -/
def specialQuery (c : Char) : Bool := query c || c == '\''

/-- Characters that are encoded in a path. -/
def path (c : Char) : Bool := fragment c || c ∈ ['#', '?', '\x7b', '\x7d']

/-- Characters that are encoded in a user name or a password. -/
def userInfo (c : Char) : Bool := path c || c ∈ ['/', ':', ';', '=', '@', '[', '\\', ']', '^', '|']

/-- Characters that are encoded where a segment is the name of a file. -/
def fileName (c : Char) : Bool := path c || c ∈ ['/', '%', '\\']

/-! ## Encoding and decoding -/

/-- A hexadecimal digit in upper case. -/
def hexDigit (n : Nat) : Char := (Nat.digitChar n).toUpper

/-- One octet as a percent sign and two digits. -/
def octet (b : UInt8) : List Char := ['%', hexDigit (b.toNat / 16), hexDigit (b.toNat % 16)]

/-- One character, as its octets if it is of the class or outside ASCII. -/
def encodeChar (escaped : Char → Bool) (c : Char) : List Char :=
  if 0x80 ≤ c.toNat || escaped c then (String.utf8EncodeChar c).flatMap octet else [c]

/-- The text with the characters of the class and those outside ASCII encoded. -/
def encode (escaped : Char → Bool) (s : List Char) : List Char := s.flatMap (encodeChar escaped)

/-- The octets that a text stands for. A percent sign without two digits stands for itself. -/
def decode : List Char → List UInt8
  | '%' :: a :: b :: r =>
    match Decimal.digitValue? 16 a, Decimal.digitValue? 16 b with
    | some x, some y => UInt8.ofNat (16 * x + y) :: decode r
    | _, _ => UInt8.ofNat '%'.toNat :: decode (a :: b :: r)
  | c :: r => String.utf8EncodeChar c ++ decode r
  | [] => []

end XmlTemplate.Uri.Percent
