import XmlTemplate.Expansion.Options
import XmlTemplate.Uri.FilePath

/-!
# Files

Files as a program finds them by their paths.

* `Found`: what stands at a path.
* `FileTree`: a way to look it up. `FileTree.ofContent` is one that is given in full.
* `Loader.ofFiles`: the documents that `file` URIs name.
-/

namespace XmlTemplate

/-- What stands at a path. -/
inductive Found where
  | file (text : String)
  | directory
  | missing
  /-- The path goes through a file as if it were a directory. -/
  | blocked
  /-- A file that cannot be read as text. -/
  | unreadable
  /-- The path has not been looked up yet. -/
  | pending
deriving DecidableEq, Repr

/-- What stands at each absolute path. -/
abbrev FileTree := String → Found

namespace FileTree

/-- The names along a path, with those of the current directory left out. -/
def names (path : String) : List String := (Uri.pathNames path.toList).map String.ofList

/-- Whether a path can only lead to a directory. -/
def endsInDirectory (path : String) : Bool :=
  ['/'].isSuffixOf path.toList || ['/', '.'].isSuffixOf path.toList

/-- The path that a path stands for in a directory: itself if it is absolute. -/
def absolute (directory path : String) : String :=
  let full := if path.toList.head? == some '/' then path else directory ++ "/" ++ path
  let joined := String.join ((names full).map ("/" ++ ·))
  if joined.isEmpty || endsInDirectory full then joined ++ "/" else joined

/-- Files by the names along their paths, and directories that exist besides those they are in. -/
structure Content where
  files : List (List String × String)
  directories : List (List String)

namespace Content

/-- Whether the names lead to a directory. -/
def isDirectory (c : Content) (path : List String) : Bool :=
  path.isEmpty || c.directories.any (path.isPrefixOf ·) ||
    c.files.any fun (file, _) => path.isPrefixOf file && path != file

/-- The names along the path from the root that names lead to, from `here` on. Every step but the
last has to lead to a directory. -/
def follow (c : Content) (here : List String) : List String → Except Found (List String)
  | [] => .ok here
  | name :: rest =>
    if c.isDirectory here then
      follow c (if name == ".." then here.dropLast else here ++ [name]) rest
    else .error (if (c.files.lookup here).isSome then .blocked else .missing)

/-- What names lead to. -/
def find (c : Content) (path : List String) : Found :=
  match c.follow [] path with
  | .error found => found
  | .ok target =>
    if c.isDirectory target then .directory
    else ((c.files.lookup target).map Found.file).getD .missing

/-- The content with one more file, if a file can be written there. -/
def write? (c : Content) (path text : String) : Option Content :=
  match c.follow [] (names path) with
  | .error _ => none
  | .ok target =>
    if endsInDirectory path || c.isDirectory target then none
    else some { c with files := (target, text) :: c.files.filter (·.1 != target) }

end Content

/-- The files of a given content. A path that ends in a slash leads to a directory only. -/
def ofContent (c : Content) : FileTree := fun path =>
  match c.find (names path), endsInDirectory path with
  | .file _, true => .blocked
  | found, _ => found

end FileTree

namespace Expansion.Loader

/-- The text of octets, if they are a path that can exist. -/
def pathOf? (octets : List UInt8) : Option String := String.fromUTF8? ⟨octets.toArray⟩

/-- The documents in files. Only `file` URIs name any. -/
def ofFiles (tree : FileTree) : Loader := fun uri =>
  if uri.scheme != "file" then .error (.unsupportedScheme uri)
  else
    match Uri.filePath? uri with
    | none => .error (.notFound uri)
    | some octets =>
      if octets.contains 0 then .error (.unreadable uri)
      else
        match pathOf? octets with
        | none => .error (.notFound uri)
        | some path =>
          match tree path with
          | .file text => document uri text
          | .missing => .error (.notFound uri)
          | .directory | .blocked | .unreadable => .error (.unreadable uri)
          | .pending => .error (.pending path)

end Expansion.Loader

end XmlTemplate
