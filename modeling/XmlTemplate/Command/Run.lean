import XmlTemplate.Command.Arguments
import XmlTemplate.Expansion.Run
import XmlTemplate.FileTree

/-!
# Runs of the program

What an invocation does, given the files, the current directory and the standard input.

* `render`: the expanded document as text.
* `Effect`: what a run ends with. `run` says which effect that is.
* `Failure`: why a run fails.
-/

namespace XmlTemplate.Command

/-- What a run can see. -/
structure Surroundings where
  files : FileTree
  /-- The absolute path of the current directory. -/
  directory : String
  /-- The text on the standard input. -/
  input : String

/-- What a run ends with. -/
inductive Effect where
  | print (text : String)
  | write (path text : String)
deriving DecidableEq, Repr

/-- Why a run fails. -/
inductive Failure where
  | noInput (path : String)
  /-- The input, none for the standard one, cannot be read as text. -/
  | unreadableInput (path : Option String)
  /-- The input, none for the standard one, cannot be expanded. -/
  | expansion (path : Option String) (error : Expansion.Error)
  | unwritable (path : String)
  /-- The file with this absolute path has not been looked up yet. -/
  | pending (path : String)
deriving DecidableEq, Repr

namespace Failure

/-- The text of a failure, apart from the error that caused it. -/
def message : Failure → String
  | noInput path => "input file not found: " ++ path
  | unreadableInput none => "failed to read standard input"
  | unreadableInput (some path) | expansion (some path) _ => "failed to preprocess " ++ path
  | expansion none _ => "failed to preprocess standard input"
  | unwritable path => "failed to write " ++ path
  | pending path => "file not looked up: " ++ path

/-- The error of the expansion that caused a failure. -/
def cause? : Failure → Option Expansion.Error
  | expansion _ error => some error
  | _ => none

/-- The failure with an error of the expansion. Where a file has to be looked up first, that comes
before everything else. -/
def ofExpansion (path : Option String) (error : Expansion.Error) : Failure :=
  match error.cause with
  | .includeNotFound _ (.pending file) => pending file
  | _ => expansion path error

end Failure

/-- The expansion of a text. References are resolved against `base`. -/
def expandText (i : Invocation) (files : FileTree) (text : String) (base : Option Uri) :
    Except Failure Markup.Document :=
  (Expansion.processText (i.options (.ofFiles files)) text base).mapError (.ofExpansion i.file?)

/-- The expansion of the input. -/
def expandInput (i : Invocation) (s : Surroundings) : Except Failure Markup.Document :=
  match i.file? with
  | none => expandText i s.files s.input (Uri.ofDirectoryPath? s.directory)
  | some path =>
    let file := FileTree.absolute s.directory path
    match if path.isEmpty then .missing else s.files file with
    | .file text => expandText i s.files text (Uri.ofFilePath? file)
    | .directory | .missing | .blocked => .error (.noInput path)
    | .unreadable => .error (.unreadableInput (some path))
    | .pending => .error (.pending file)

/-- The text with a line break at its end. -/
def withLineBreak (text : String) : String :=
  if text.toList.getLast? == some '\n' then text else text.push '\n'

/-- The expanded input as text. -/
def render (i : Invocation) (s : Surroundings) : Except Failure String :=
  (expandInput i s).map fun d => withLineBreak (d.print i.layout)

/-- What a run ends with. -/
def run (i : Invocation) (s : Surroundings) : Except Failure Effect :=
  (render i s).map fun text =>
    match i.output with
    | some path => .write path text
    | none => .print text

end XmlTemplate.Command
