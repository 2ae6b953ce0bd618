import XmlTemplate.Uri.Reference

/-!
# File paths and URIs

* `ofFilePath?`, `ofDirectoryPath?`: the URI of an absolute path.
* `filePath?`: the path that a `file` URI names.
-/

namespace XmlTemplate.Uri

/-- The names along a path. Empty ones and those of the current directory lead nowhere. -/
def pathNames (path : List Char) : List (List Char) :=
  (Text.split ['/'] path).filter fun name => !name.isEmpty && name != ['.']

/-- The segments that name the steps along an absolute path. -/
def fileSegments? (path : String) : Option (List String) :=
  match path.toList with
  | '/' :: r =>
    some ((pathNames r).map fun name => String.ofList (Percent.encode Percent.fileName name))
  | _ => none

/-- The URI of a file, given by its absolute path. -/
def ofFilePath? (path : String) : Option Uri :=
  (fileSegments? path).map fun list =>
    { localFile with path := .segments (if list.isEmpty then [""] else list) }

/-- The URI of a directory, given by its absolute path; its path ends in a slash. -/
def ofDirectoryPath? (path : String) : Option Uri :=
  (fileSegments? path).map fun list => { localFile with path := .segments (list ++ [""]) }

/-- Whether a host is the local one, which a file has to be on. -/
def isLocal : Option Host → Bool
  | none | some (.name "") | some (.name "localhost") => true
  | _ => false

/-- The octets of an absolute path with the given segments. A drive letter ends in a slash. -/
def pathOctets (segments : List String) : List UInt8 :=
  let slash := UInt8.ofNat '/'.toNat
  let octets := segments.flatMap fun s => slash :: Percent.decode s.toList
  let ending := (octets.drop (octets.length - 2)).map fun b => Char.ofNat b.toNat
  if 2 < octets.length && isDriveLetter ending then octets ++ [slash] else octets

/-- The octets of the path that a URI of a local file names. -/
def filePath? (uri : Uri) : Option (List UInt8) :=
  match uri.path with
  | .segments list => if isLocal uri.host then some (pathOctets list) else none
  | .verbatim _ => none

end XmlTemplate.Uri
