import XmlTemplate.Uri.Host

/-!
# Reading and resolving URI references

A reference is read against an optional base. It is cut into its parts from left to right; what a
reference leaves out it takes from its base. Tabs and line breaks count for nothing in it, but one
that follows a drive letter ends a segment there.

* `Uri.parse`: an absolute URI.
* `Uri.join`: a reference resolved against a base.
* `walk`: the segments of a path, with `.` and `..` resolved.
-/

namespace XmlTemplate.Uri

/-! ## Characters that count for nothing -/

/-- Whether a character counts for nothing within a reference. -/
def isBreak (c : Char) : Bool := c ∈ ['\t', '\n', '\x0d']

/-- The characters that count. -/
def visible (s : List Char) : List Char := s.filter (!isBreak ·)

/-- The text up to the first character of a class, and the rest from that character on. -/
def upTo (stop : Char → Bool) (s : List Char) : List Char × List Char :=
  (s.takeWhile (!stop ·), s.dropWhile (!stop ·))

/-! ## Segments -/

/-- Whether a character separates the segments of a path. A backslash does so in special schemes. -/
def isSeparator (scheme : String) (c : Char) : Bool := c == '/' || (c == '\\' && isSpecial scheme)

/-- The text cut at its separators. -/
def segmentsOf (scheme : String) : List Char → List (List Char)
  | [] => [[]]
  | c :: r =>
    if isSeparator scheme c then [] :: segmentsOf scheme r
    else match segmentsOf scheme r with
      | [] => [[c]]
      | s :: rest => (c :: s) :: rest

/-- The segment that stands for the current directory. -/
def isSingleDot (s : List Char) : Bool :=
  s.map Char.toLower ∈ ["." , "%2e"].map String.toList

/-- The segment that stands for the parent directory. -/
def isDoubleDot (s : List Char) : Bool :=
  s.map Char.toLower ∈ ["..", ".%2e", "%2e.", "%2e%2e"].map String.toList

/-- A letter and a colon or a bar. -/
def isDriveLetter : List Char → Bool
  | [a, b] => a.isAlpha && (b == ':' || b == '|')
  | _ => false

/-- A letter and a colon. -/
def isNormalDriveLetter (s : List Char) : Bool := isDriveLetter s && s.getLast? == some ':'

/-- A drive letter at the start of a text, which the end of a segment follows. -/
def startsWithDrive : List Char → Bool
  | [a, b] => isDriveLetter [a, b]
  | a :: b :: c :: _ => isDriveLetter [a, b] && c ∈ ['/', '\\', '?', '#']
  | _ => false

/-- A drive letter and the rest of its segment, if a tab or a line break parts them. -/
def splitDrive? (s : List Char) : Option (List Char × List Char) :=
  let (letter, rest) := upTo (· == ':') s
  let drive := visible letter ++ rest.take 1
  let name := visible (rest.drop 1)
  if isDriveLetter drive && (rest.drop 1).head?.any isBreak && !name.isEmpty then some (drive, name)
  else none

/-! ## Paths

While a path is walked, its last segment comes first. -/

/-- A path without its last segment. A drive letter stays, in every scheme. -/
def parent : List String → List String
  | [] => []
  | last :: rest => if startsWithDrive last.toList then last :: rest else rest

/-- A path and one more segment. A drive letter at the root of a file's path gets a colon, and what
is parted from it becomes a segment of its own. -/
def enter (scheme : String) (path : List String) (s : List Char) : List String :=
  let encoded (s : List Char) := String.ofList (Percent.encode Percent.path s)
  let name := visible s
  if scheme == "file" && path.isEmpty then
    match splitDrive? s with
    | some (drive, name) => [encoded name, encoded drive]
    | none => [encoded (if isDriveLetter name then name.take 1 ++ [':'] else name)]
  else encoded name :: path

/-- The directory that a segment leads to. -/
def step (scheme : String) (path : List String) (s : List Char) : List String :=
  if isDoubleDot (visible s) then parent path
  else if isSingleDot (visible s) then path
  else enter scheme path s

/-- The path that segments lead to. One that ends in a directory has an empty last segment. -/
def walk (scheme : String) (path : List String) : List (List Char) → List String
  | [] => path
  | [s] =>
    if isDoubleDot (visible s) || isSingleDot (visible s) then "" :: step scheme path s
    else step scheme path s
  | s :: rest => walk scheme (step scheme path s) rest

/-- Whether segments lead to a drive letter at the root of a file's path. -/
def meetsDrive (path : List String) : List (List Char) → Bool
  | [] => false
  | s :: rest =>
    path.isEmpty && isDriveLetter (visible s) || meetsDrive (step "file" path s) rest

/-- A path without the empty segments at its start. -/
def dropEmpty : List String → List String
  | "" :: s :: rest => dropEmpty (s :: rest)
  | list => list

/-- The path that a text leads to from the segments `start`. -/
def pathFrom (scheme : String) (start : List String) (text : List Char) : Path :=
  let list := (walk scheme start.reverse (segmentsOf scheme text)).reverse
  .segments (if scheme == "file" then dropEmpty list else list)

/-! ## Parts of a reference -/

/-- The URI with the query and the fragment that the rest of a reference writes. -/
def withTail (uri : Uri) (rest : List Char) : Uri :=
  let escaped := if isSpecial uri.scheme then Percent.specialQuery else Percent.query
  let (query, rest) := match visible rest with
    | '?' :: r =>
      let (text, r) := upTo (· == '#') r
      (some (String.ofList (Percent.encode escaped text)), r)
    | r => (none, r)
  let fragment := match rest with
    | '#' :: r => some (String.ofList (Percent.encode Percent.fragment r))
    | _ => none
  { uri with query := query, fragment := fragment }

/-- The end of a path. -/
def endsPath (c : Char) : Bool := c == '?' || c == '#'

/-- The URI with the path that the rest of a reference leads to from the segments `start`. -/
def withPath (uri : Uri) (start : List String) (rest : List Char) : Uri :=
  let (text, rest) := upTo endsPath rest
  withTail { uri with path := pathFrom uri.scheme start text } rest

/-- A URI of which only the scheme is known. -/
def ofScheme (scheme : String) : Uri :=
  ⟨scheme, "", "", none, none, .segments [], none, none⟩

/-- The scheme in lower case and the rest after its colon. -/
def scheme? (s : List Char) : Option (String × List Char) :=
  match upTo (fun c => !(c.isAlphanum || c ∈ ['+', '-', '.'] || isBreak c)) s with
  | (c :: name, ':' :: rest) =>
    if c.isAlpha then some (String.ofList ((visible (c :: name)).map Char.toLower), rest) else none
  | _ => none

/-! ## Authorities -/

/-- A text cut before its first colon outside brackets. -/
def cutPort : Bool → List Char → List Char × List Char
  | _, [] => ([], [])
  | inside, c :: r =>
    if c == ':' && !inside then ([], c :: r)
    else
      let (host, rest) := cutPort (if c == '[' then true else if c == ']' then false else inside) r
      (c :: host, rest)

/-- The port after a host, and what follows it, which can only be a backslash. A port that the
scheme implies is left out. -/
def portOf (scheme : String) : List Char → Except Error (Option Nat × List Char)
  | ':' :: r =>
    let (digits, rest) := upTo (!·.isDigit) r
    if !rest.isEmpty && rest.head? != some '\\' then .error .invalidPort
    else match Decimal.ofDigits? 10 digits with
      | none => .ok (none, rest)
      | some n =>
        if 65535 < n then .error .invalidPort
        else .ok (if defaultPort? scheme == some n then none else some n, rest)
  | rest => .ok (none, rest)

/-- A text cut at its last `@`. -/
def cutUserInfo (s : List Char) : Option (List Char) × List Char :=
  match upTo (· == '@') s.reverse with
  | (host, _ :: user) => (some user.reverse, host.reverse)
  | (_, []) => (none, s)

/-- The URI with the user, the host and the port that a text writes, and what follows the port. -/
def withAuthority (uri : Uri) (text : List Char) : Except Error (Uri × List Char) := do
  let (user?, text) := cutUserInfo text
  let encoded (s : List Char) := String.ofList (Percent.encode Percent.userInfo s)
  let (username, password) := upTo (· == ':') (user?.getD [])
  let password := password.drop 1
  let (name, rest) := cutPort false text
  let named := !username.isEmpty || !password.isEmpty
  if name.isEmpty && (isSpecial uri.scheme || named || !rest.isEmpty) then throw .emptyHost
  let host ← if isSpecial uri.scheme then Host.special name else Host.general name
  let (port, rest) ← portOf uri.scheme rest
  return ({ uri with
    username := encoded username
    password := encoded password
    host := some host
    port := port }, rest)

/-- A reference from its authority on. -/
def afterSlashes (scheme : String) (s : List Char) : Except Error Uri := do
  let (text, rest) := upTo (fun c => isSeparator scheme c || endsPath c) s
  if text == ['@'] && !rest.isEmpty then throw .emptyHost
  let (uri, backslash) ← withAuthority (ofScheme scheme) text
  match backslash ++ rest with
  | c :: r =>
    if isSeparator scheme c then return withPath uri [] r
    else if endsPath c && !isSpecial scheme then return withTail uri (c :: r)
    else return withPath uri [] (c :: r)
  | [] => return if isSpecial scheme then withPath uri [] [] else uri

/-! ## References -/

/-- The segments of a path, none if it has no structure. -/
def Path.toList : Path → List String
  | .segments list => list
  | .verbatim _ => []

/-- A reference that keeps the path of its base: nothing, or a query, or a fragment. -/
def sameDocument (base : Uri) (s : List Char) : Uri :=
  match s with
  | '?' :: _ => withTail base s
  | _ => { withTail base s with query := base.query }

/-- A slash or a backslash, which can both begin what follows the scheme, in every scheme. -/
def isSlash (c : Char) : Bool := c == '/' || c == '\\'

/-- A reference without a scheme to a base whose scheme is not `file`. Two slashes are the mark of
an authority; if there is a backslash among them, all that follow belong to the mark. -/
def relative (base : Uri) (s : List Char) : Except Error Uri :=
  match s with
  | [] | '?' :: _ | '#' :: _ => .ok (sameDocument base s)
  | '/' :: '/' :: r => afterSlashes base.scheme r
  | c :: r =>
    if !isSlash c then .ok (withPath base base.path.toList.dropLast s)
    else if r.head?.any isSlash then afterSlashes base.scheme (r.dropWhile isSlash)
    else .ok (withPath base [] r)

/-- A file on the local host. -/
def localFile : Uri := { ofScheme "file" with host := some (.name "") }

/-- The host of a file, where the name of the local host is left out. -/
def fileHost (s : List Char) : Except Error Host :=
  if s.isEmpty then .ok (.name "")
  else (Host.special s).map fun host => if host = .name "localhost" then .name "" else host

/-- The end of a host or of a segment of a file's path. -/
def endsFileName (c : Char) : Bool := isSeparator "file" c || endsPath c

/-- A file whose path follows an authority. A drive letter takes the place of the host, there or at
the root of the path. -/
def afterFileSlashes (s : List Char) : Except Error Uri := do
  let (text, rest) := upTo endsFileName s
  if isDriveLetter (visible text) then return withPath localFile [] s
  let host ← fileHost (visible text)
  if host = .name "" then return withPath localFile [] rest
  let path := if rest.head?.any (isSeparator "file") then rest.drop 1 else rest
  let host :=
    if meetsDrive [] (segmentsOf "file" (upTo endsPath path).1) then .name "" else host
  return withPath { localFile with host := some host } [] path

/-- Where a reference to a file starts from the path of its base, and what is left of it to walk
along. A drive letter at the end of the path is no file that the reference could replace: it stays,
and unless it is the whole path, a name is joined to it. -/
def besideFile (list : List String) (s : List Char) : List String × List Char :=
  match list.reverse with
  | [] => ([], s)
  | last :: before =>
    let (name, rest) := upTo endsFileName s
    if !isNormalDriveLetter last.toList then (before.reverse, s)
    else if before.isEmpty || isSingleDot (visible name) then (list, s)
    else if !isDoubleDot (visible name) then (before.reverse, last.toList ++ s)
    else if rest.head?.any (isSeparator "file") then (list, rest.drop 1)
    else (before.reverse, last.toList ++ rest)

/-- A reference to a file, with the base if that is a file too. -/
def file (base : Option Uri) (s : List Char) : Except Error Uri :=
  match s.dropWhile isBreak with
  | c :: r =>
    if !isSeparator "file" c then .ok (fromBase s)
    else match r.dropWhile isBreak with
      | d :: r' => if isSeparator "file" d then afterFileSlashes r' else .ok (rooted r)
      | [] => .ok (rooted r)
  | [] => .ok (fromBase s)
where
  /-- A path that begins with one slash keeps the drive or else the host of the base. -/
  rooted (r : List Char) : Uri :=
    match base with
    | some b =>
      if startsWithDrive (visible r) then withPath localFile [] r
      else match b.path.toList with
        | drive :: _ =>
          if isNormalDriveLetter drive.toList then withPath localFile [drive] r
          else withPath { localFile with host := b.host } [] r
        | [] => withPath { localFile with host := b.host } [] r
    | none => withPath localFile [] r
  /-- Any other reference starts from the path of the base. -/
  fromBase (s : List Char) : Uri :=
    match base, visible s with
    | none, _ => withPath localFile [] s
    | some b, [] | some b, '?' :: _ | some b, '#' :: _ => sameDocument b (visible s)
    | some b, text =>
      if startsWithDrive text then withPath localFile [] s
      else
        let (start, rest) := besideFile b.path.toList s
        withPath b start rest

/-- A reference with a scheme. -/
def absolute (base : Option Uri) (scheme : String) (s : List Char) : Except Error Uri :=
  let text := visible s
  if scheme == "file" then file (base.filter (·.scheme == "file")) s
  else if isSpecial scheme then
    match base.filter (·.scheme == scheme), text with
    | some b, [] => relative b text
    | some b, [_] => relative b text
    | some b, c :: d :: _ =>
      if isSlash c && isSlash d then afterSlashes scheme (text.dropWhile isSlash)
      else relative b text
    | none, _ => afterSlashes scheme (text.dropWhile isSlash)
  else
    match text with
    | '/' :: '/' :: r => afterSlashes scheme r
    | '/' :: r => .ok (withPath (ofScheme scheme) [] r)
    | _ =>
      let (text, rest) := upTo endsPath text
      let path := Path.verbatim (String.ofList (Percent.encode Percent.control text))
      .ok (withTail { ofScheme scheme with path := path } rest)

/-- A text without the control characters and spaces around it. -/
def trim (s : List Char) : List Char :=
  let junk (c : Char) := c.toNat ≤ 0x20
  ((s.dropWhile junk).reverse.dropWhile junk).reverse

/-- A reference, resolved against a base if there is one. -/
def resolve (base : Option Uri) (reference : String) : Except Error Uri :=
  let s := trim reference.toList
  match scheme? s with
  | some (scheme, rest) => absolute base scheme rest
  | none =>
    match base with
    | none => .error .relativeWithoutBase
    | some b =>
      match b.path, s with
      | _, '#' :: _ => .ok (sameDocument b s)
      | .verbatim _, _ => .error .relativeToVerbatimBase
      | .segments _, _ => if b.scheme == "file" then file (some b) s else relative b (visible s)

/-- An absolute URI. -/
def parse (text : String) : Except Error Uri := resolve none text

/-- A reference resolved against the URI. -/
def join (base : Uri) (reference : String) : Except Error Uri := resolve (some base) reference

end XmlTemplate.Uri
