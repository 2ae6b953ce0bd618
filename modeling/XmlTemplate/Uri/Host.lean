import XmlTemplate.Decimal.Integer
import XmlTemplate.Text.Search
import XmlTemplate.Uri.Basic
import XmlTemplate.Uri.DomainName
import XmlTemplate.Uri.Error

/-!
# Reading the host of a URI

* `ipv6?`, `ipv4?`: addresses.
* `Host.special`, `Host.general`: the host of a URI whose scheme is special, or is not.
-/

namespace XmlTemplate.Uri

open Decimal

/-! ## Addresses -/

/-- A number of an IPv4 address: decimal, octal after a zero, hexadecimal after `0x`. -/
def ipv4Number? (s : List Char) : Option Nat :=
  match s with
  | [] => none
  | '0' :: 'x' :: r | '0' :: 'X' :: r => if r.isEmpty then some 0 else ofDigits? 16 r
  | ['0'] => some 0
  | '0' :: r => ofDigits? 8 r
  | _ => ofDigits? 10 s

/-- The labels of a domain name; a dot at the end does not begin another one. -/
def labels (s : List Char) : List (List Char) :=
  let all := Text.split ['.'] s
  if 1 < all.length && all.getLast? == some [] then all.dropLast else all

/-- Whether a domain name has to be an IPv4 address because its last label is a number. -/
def endsInNumber (s : List Char) : Bool :=
  match (labels s).getLast? with
  | some last => !last.isEmpty && (last.all Char.isDigit || (ipv4Number? last).isSome)
  | none => false

/-- An IPv4 address: up to four numbers, the last of which fills the octets that are left. -/
def ipv4? (s : List Char) : Option Nat := do
  let numbers ← (labels s).mapM ipv4Number?
  let last ← numbers.getLast?
  let octets := numbers.dropLast
  guard (octets.length ≤ 3 && octets.all (· ≤ 255) && last < Nat.pow 256 (4 - octets.length))
  return octets.zipIdx.foldl (fun sum (n, i) => sum + n * Nat.pow 256 (3 - i)) last

/-- A decimal octet without a leading zero. -/
def octet? (s : List Char) : Option Nat :=
  if s.head? == some '0' && s != ['0'] then none else (ofDigits? 10 s).filter (· ≤ 255)

/-- The two pieces of an IPv4 address at the end of an IPv6 address. -/
def embedded? (s : List Char) : Option (List Nat) := do
  match ← (Text.split ['.'] s).mapM octet? with
  | [a, b, c, d] => return [256 * a + b, 256 * c + d]
  | _ => none

/-- Pieces with colons between them; only the last one may be an IPv4 address. -/
def pieces? (atEnd : Bool) (s : List Char) : Option (List Nat) := do
  if s.isEmpty then return []
  let groups := Text.split [':'] s
  let last ← groups.getLast?
  let piece? (g : List Char) := if g.length ≤ 4 then ofDigits? 16 g else none
  let start ← groups.dropLast.mapM piece?
  let rest ← if atEnd && last.contains '.' then embedded? last else (piece? last).map ([·])
  return start ++ rest

/-- An IPv6 address: eight pieces, or fewer with a double colon for a run of zeros. -/
def ipv6? (s : List Char) : Option (List Nat) := do
  match Text.cut? [':', ':'] s with
  | none =>
    let all ← pieces? true s
    guard (all.length = 8)
    return all
  | some (before, after) =>
    let start ← pieces? false before
    let rest ← pieces? true after
    guard (start.length + rest.length ≤ 7)
    return start ++ List.replicate (8 - start.length - rest.length) 0 ++ rest

/-- The address between brackets. -/
def bracketed (s : List Char) : Except Error Host :=
  match s.getLast?, ipv6? (s.drop 1).dropLast with
  | some ']', some pieces => .ok (.ipv6 pieces)
  | _, _ => .error .invalidIpv6Address

/-! ## Hosts -/

namespace Host

/-- The host of a URI with a special scheme, which is an address or a domain name. -/
def special (s : List Char) : Except Error Host := do
  if s.head? == some '[' then bracketed s
  else
    let some domain := DomainName.toAscii? s | throw .invalidInternationalName
    if domain.isEmpty then throw .emptyHost
    if endsInNumber domain then
      match ipv4? domain with
      | some address => return .ipv4 address
      | none => throw .invalidIpv4Address
    return .name (String.ofList domain)

/-- The host of any other URI, which is kept as it is written. -/
def general (s : List Char) : Except Error Host :=
  if s.head? == some '[' then bracketed s
  else if s.any DomainName.isForbidden then .error .invalidDomainCharacter
  else .ok (.name (String.ofList (Percent.encode Percent.control s)))

end Host

end XmlTemplate.Uri
