import XmlTemplate.Command.Run
import XmlTemplate.Command.Usage

/-!
# The program

Reads the files that a run asks for, carries out its effect, and reports failures. A run is
repeated with one more file looked up until it needs no further one.
-/

namespace XmlTemplate.Command

/-- What stands at a path. -/
def lookUp (path : String) : IO Found := do
  try
    return .file (← IO.FS.readFile path)
  catch
    | .noFileOrDirectory .. => return .missing
    | .inappropriateType .. => return .directory
    | _ => return .unreadable

/-- The lines that are left in a stream, after `text`. -/
partial def readRest (stream : IO.FS.Stream) (text : String) : IO String := do
  let line ← stream.getLine
  if line.isEmpty then return text else readRest stream (text ++ line)

/-- The end of a run, given what has been looked up already. -/
partial def complete (i : Invocation) (directory input : String) (known : List (String × Found)) :
    IO (Except Failure Effect) := do
  match run i ⟨fun path => (known.lookup path).getD .pending, directory, input⟩ with
  | .error (.pending path) => complete i directory input ((path, ← lookUp path) :: known)
  | result => return result

/-- Carries out the effect of a run. -/
def perform : Effect → IO (Option Failure)
  | .print text => do
    IO.print text
    return none
  | .write path text => do
    try
      IO.FS.writeFile path text
      return none
    catch _ => return some (.unwritable path)

/-- The text of a failure with the error that caused it. -/
def report (failure : Failure) : String :=
  match failure.cause? with
  | some ⟨cause, some place⟩ => failure.message ++ ": " ++ place.message ++ ": " ++ cause.message
  | some ⟨cause, none⟩ => failure.message ++ ": " ++ cause.message
  | none => failure.message

/-- Runs an invocation; the result is the exit code. -/
def execute (i : Invocation) : IO UInt32 := do
  let fail (failure : Failure) : IO UInt32 := do
    IO.eprintln (report failure)
    return 1
  let directory := (← IO.currentDir).toString
  let input ← try
    if i.file?.isNone then pure (some (← readRest (← IO.getStdin) "")) else pure (some "")
  catch _ => pure none
  match input with
  | none => fail (.unreadableInput none)
  | some input =>
    match ← complete i directory input [] with
    | .error failure => fail failure
    | .ok effect =>
      match ← perform effect with
      | some failure => fail failure
      | none => return 0

/-- Runs what the arguments ask for; the result is the exit code. -/
def start (arguments : List String) : IO UInt32 := do
  match Invocation.parse arguments with
  | .ok invocation => execute invocation
  | .error e =>
    match e.answer? with
    | some text =>
      IO.print text
      return 0
    | none =>
      IO.eprintln e.message
      return 2

end XmlTemplate.Command

/-- The program. -/
def main (arguments : List String) : IO UInt32 := XmlTemplate.Command.start arguments
