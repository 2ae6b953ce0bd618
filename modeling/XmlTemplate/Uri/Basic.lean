/-!
# Uniform resource identifiers

A URI that has been parsed, in the form that the URL Standard gives it.

* `Host`: a registered name or an address.
* `Path`: a list of segments, or the text of a URI that no reference can be resolved against.
* `Uri.toText`: the serialisation. Two URIs are equal when their parts are.
-/

namespace XmlTemplate

namespace Uri

/-- The host of a URI. The empty name stands for the host of `file:///`. -/
inductive Host where
  | name (text : String)
  | ipv4 (address : Nat)
  | ipv6 (pieces : List Nat)
deriving DecidableEq, Repr, Inhabited

/-- The path of a URI: segments that follow a slash each, or text without structure. -/
inductive Path where
  | segments (list : List String)
  | verbatim (text : String)
deriving DecidableEq, Repr, Inhabited

end Uri

/-- A parsed URI. All texts are percent-encoded as far as they have to be. -/
structure Uri where
  scheme : String
  username : String
  password : String
  host : Option Uri.Host
  port : Option Nat
  path : Uri.Path
  query : Option String
  fragment : Option String
deriving DecidableEq, Repr, Inhabited

namespace Uri

/-! ## Schemes -/

/-- The port that a special scheme implies. The schemes other than `file` that a slash and a
backslash mean the same in are those that have one. -/
def defaultPort? (scheme : String) : Option Nat :=
  [("http", 80), ("https", 443), ("ws", 80), ("wss", 443), ("ftp", 21)].lookup scheme

/-- The schemes whose URIs always have a host and a path. -/
def isSpecial (scheme : String) : Bool := scheme == "file" || (defaultPort? scheme).isSome

/-! ## Serialisation -/

/-- The four numbers of an IPv4 address. -/
def ipv4Text (address : Nat) : String :=
  let part (n : Nat) := toString (address / Nat.pow 256 n % 256)
  part 3 ++ "." ++ part 2 ++ "." ++ part 1 ++ "." ++ part 0

/-- The number of zero pieces at the start of a list. -/
def zeroRun (pieces : List Nat) : Nat := (pieces.takeWhile (· == 0)).length

/-- The start and the length of the first of the longest runs of at least two zero pieces. -/
def longestZeroRun (pieces : List Nat) : Option (Nat × Nat) :=
  (List.range pieces.length).foldl (fun best i =>
    let n := zeroRun (pieces.drop i)
    match best with
    | some (_, m) => if m < n then some (i, n) else best
    | none => if 2 ≤ n then some (i, n) else none) none

/-- Pieces in hexadecimal, with colons between them. -/
def piecesText (pieces : List Nat) : String :=
  String.intercalate ":" (pieces.map fun n => String.ofList (Nat.toDigits 16 n))

/-- An IPv6 address, its longest run of zero pieces left out. -/
def ipv6Text (pieces : List Nat) : String :=
  match longestZeroRun pieces with
  | none => piecesText pieces
  | some (start, length) =>
    piecesText (pieces.take start) ++ "::" ++ piecesText (pieces.drop (start + length))

/-- The text of a host. -/
def Host.toText : Host → String
  | .name text => text
  | .ipv4 address => ipv4Text address
  | .ipv6 pieces => "[" ++ ipv6Text pieces ++ "]"

/-- The text of a path. -/
def Path.toText : Path → String
  | .segments list => String.join (list.map ("/" ++ ·))
  | .verbatim text => text

/-- The part between the scheme and the path. A path that starts with an empty segment is kept
apart from an authority by a dot. -/
def authorityText (uri : Uri) : String :=
  match uri.host with
  | some host =>
    let password := if uri.password.isEmpty then "" else ":" ++ uri.password
    let user := if uri.username.isEmpty && uri.password.isEmpty then ""
      else uri.username ++ password ++ "@"
    let port := match uri.port with
      | some n => ":" ++ toString n
      | none => ""
    "//" ++ user ++ host.toText ++ port
  | none =>
    match uri.path with
    | .segments ("" :: _ :: _) => "/."
    | _ => ""

/-- The URI as text. -/
def toText (uri : Uri) : String :=
  let query := match uri.query with
    | some text => "?" ++ text
    | none => ""
  let fragment := match uri.fragment with
    | some text => "#" ++ text
    | none => ""
  uri.scheme ++ ":" ++ uri.authorityText ++ uri.path.toText ++ query ++ fragment

instance : ToString Uri := ⟨toText⟩

end Uri

end XmlTemplate
