import XmlTemplate.Command.Definition
import XmlTemplate.Decimal.Integer
import XmlTemplate.Expansion.Options
import XmlTemplate.Markup.Printer

/-!
# Command lines

The arguments of a program run, read from left to right.

* `Slot`: what an argument can give a value to. `Switch`: what an argument can turn on.
* `Invocation`: what the arguments ask for, with the settings that follow from it.
* `UsageError`: why arguments are refused, or what they ask for instead of a run.
* `Invocation.parse`: a value that stands in an argument of its own is taken when the next
  argument has been recognised, so an unknown argument is reported before a faulty value in front
  of it.
-/

namespace XmlTemplate.Command

/-! ## Options -/

/-- What takes a value. Only definitions may be given more than once. -/
inductive Slot where
  | input | output | definition | space | indent | maxDepth | maxIterations
deriving DecidableEq, Repr

/-- What is turned on. Only the verbosity may be asked for more than once. -/
inductive Switch where
  | preserveWhitespace | noDeclaration | verbose | help | version
deriving DecidableEq, Repr

/-- An option of the command line. -/
inductive Key where
  | slot (value : Slot)
  | switch (value : Switch)
deriving DecidableEq, Repr

namespace Key

/-- The options by their names. -/
def names : List (String × Key) :=
  [("output", slot .output), ("define", slot .definition), ("namespace", slot .space),
    ("preserve-whitespace", switch .preserveWhitespace), ("indent", slot .indent),
    ("no-declaration", switch .noDeclaration), ("max-depth", slot .maxDepth),
    ("max-iterations", slot .maxIterations), ("verbose", switch .verbose),
    ("help", switch .help), ("version", switch .version)]

/-- The options by their letters. -/
def letters : List (Char × Key) :=
  [('o', slot .output), ('D', slot .definition), ('v', switch .verbose), ('h', switch .help),
    ('V', switch .version)]

/-- The option with a name. -/
def ofName? (name : String) : Option Key := names.lookup name

/-- The option with a letter. -/
def ofLetter? (letter : Char) : Option Key := letters.lookup letter

end Key

/-! ## Invocations -/

/-- Why there is nothing to run. -/
inductive UsageError where
  | invalidValue | missingValue | unknownArgument | repeated | unexpectedValue
  /-- A description of the command line is asked for. -/
  | help
  /-- The version of the program is asked for. -/
  | version
deriving DecidableEq, Repr

/-- What the arguments ask for. Definitions stand in the order in which they are given. -/
structure Invocation where
  input : Option String
  output : Option String
  definitions : List Definition
  space : Option String
  preserveWhitespace : Bool
  indent : Option Nat
  noDeclaration : Bool
  maxDepth : Option Nat
  maxIterations : Option Nat
  verbosity : Nat
deriving DecidableEq, Repr, Inhabited

namespace Invocation

/-- What no arguments ask for. -/
def empty : Invocation := ⟨none, none, [], none, false, none, false, none, none, 0⟩

/-- The greatest verbosity. -/
def maxVerbosity : Nat := 255

/-- The settings of the expansion. -/
def options (i : Invocation) (loader : Expansion.Loader) : Expansion.Options :=
  let usual := Expansion.Options.standard loader
  { usual with
    space := i.space.getD usual.space
    whitespace := if i.preserveWhitespace then .preserve else .collapse
    maxDepth := i.maxDepth.getD usual.maxDepth
    maxIterations := i.maxIterations.getD usual.maxIterations
    definitions := i.definitions.map fun d => (d.name, d.value) }

/-- How the result is written. -/
def layout (i : Invocation) : Markup.Layout := ⟨i.indent, !i.noDeclaration⟩

/-- The file that is expanded, if it is not the standard input. -/
def file? (i : Invocation) : Option String := i.input.filter (· != "-")

/-! ## Values -/

/-- A number that fits into a word of 64 bits. -/
def readCount (value : String) : Except UsageError Nat :=
  match Decimal.readUnsigned? 10 (UInt64.size - 1) value.toList with
  | some n => .ok n
  | none => .error .invalidValue

/-- The path of a file. An empty one counts as missing. -/
def readPath (value : String) : Except UsageError String :=
  if value.isEmpty then .error .missingValue else .ok value

/-- The value for what is given at most once. -/
def once {α : Type} (before : Option α) (value : Except UsageError α) :
    Except UsageError (Option α) :=
  if before.isSome then .error .repeated else value.map some

/-- The invocation with a value for a slot. -/
def assign (i : Invocation) (slot : Slot) (value : String) : Except UsageError Invocation := do
  match slot with
  | .input => return { i with input := ← once i.input (readPath value) }
  | .output => return { i with output := ← once i.output (readPath value) }
  | .definition =>
    match Definition.read value with
    | .ok d => return { i with definitions := i.definitions ++ [d] }
    | .error _ => throw .invalidValue
  | .space => return { i with space := ← once i.space (.ok value) }
  | .indent => return { i with indent := ← once i.indent (readCount value) }
  | .maxDepth => return { i with maxDepth := ← once i.maxDepth (readCount value) }
  | .maxIterations => return { i with maxIterations := ← once i.maxIterations (readCount value) }

/-- The invocation with a switch turned on. -/
def turnOn (i : Invocation) : Switch → Except UsageError Invocation
  | .preserveWhitespace =>
    if i.preserveWhitespace then .error .repeated else .ok { i with preserveWhitespace := true }
  | .noDeclaration =>
    if i.noDeclaration then .error .repeated else .ok { i with noDeclaration := true }
  | .verbose => .ok { i with verbosity := min (i.verbosity + 1) maxVerbosity }
  | .help => .error .help
  | .version => .error .version

end Invocation

/-! ## Arguments -/

/-- The arguments so far: what has been taken, and the slot that comes next with its value, if
that has been seen. -/
structure Reading where
  taken : Invocation
  waiting : Option (Slot × Option String)

namespace Reading

/-- Nothing read yet. -/
def start : Reading := ⟨.empty, none⟩

/-- Takes the value that is waiting. -/
def settle (r : Reading) : Except UsageError Invocation :=
  match r.waiting with
  | none => .ok r.taken
  | some (slot, some value) => r.taken.assign slot value
  | some (_, none) => .error .missingValue

/-- Waits for the value of a slot, or for the argument after its value. -/
def await (r : Reading) (slot : Slot) (value : Option String) : Except UsageError Reading := do
  return ⟨← r.settle, some (slot, value)⟩

/-- Gives a slot the value that stands in the same argument. -/
def attach (r : Reading) (slot : Slot) (value : String) : Except UsageError Reading := do
  return ⟨← (← r.settle).assign slot value, none⟩

/-- Turns a switch on. -/
def turnOn (r : Reading) (switch : Switch) : Except UsageError Reading := do
  return ⟨← (← r.settle).turnOn switch, none⟩

/-- An option by its name, with a value after an equals sign if there is one. -/
def long (r : Reading) (text : List Char) : Except UsageError Reading :=
  let (name, value) := match Text.cutAt? (· == '=') text with
    | some (name, value) => (name, some (String.ofList value))
    | none => (text, none)
  match Key.ofName? (String.ofList name), value with
  | none, _ => .error .unknownArgument
  | some (.switch switch), none => r.turnOn switch
  | some (.switch _), some _ => .error .unexpectedValue
  | some (.slot slot), none => r.await slot none
  | some (.slot slot), some value => r.attach slot value

/-- Options by their letters. The first one that takes a value takes all that follows it, an
equals sign in front aside. -/
def short (r : Reading) : List Char → Except UsageError Reading
  | [] => .ok r
  | letter :: rest =>
    match Key.ofLetter? letter with
    | none => .error .unknownArgument
    | some (.switch switch) => do short (← r.turnOn switch) rest
    | some (.slot slot) =>
      match rest with
      | [] => r.await slot none
      | '=' :: value => r.attach slot (String.ofList value)
      | value => r.attach slot (String.ofList value)

/-- An argument that is not an option. There is room for one, the input. -/
def operand (r : Reading) (text : String) : Except UsageError Reading :=
  if r.taken.input.isSome || r.waiting.any (·.1 == .input) then .error .unknownArgument
  else r.await .input (some text)

/-- An argument where options are recognised. One that is not an option is the value of the slot
that waits for one. A hyphen alone is not an option. -/
def argument (r : Reading) (text : String) : Except UsageError Reading :=
  match text.toList, r.waiting with
  | '-' :: '-' :: name, _ => r.long name
  | '-' :: letter :: letters, _ => r.short (letter :: letters)
  | _, some (slot, none) => .ok { r with waiting := some (slot, some text) }
  | _, _ => r.operand text

/-- All arguments. After two hyphens no further options are recognised. -/
def arguments (r : Reading) : List String → Except UsageError Reading
  | [] => .ok r
  | "--" :: rest => rest.foldlM operand r
  | text :: rest => do arguments (← r.argument text) rest

end Reading

/-- What arguments ask for. -/
def Invocation.parse (arguments : List String) : Except UsageError Invocation := do
  (← Reading.start.arguments arguments).settle

end XmlTemplate.Command
