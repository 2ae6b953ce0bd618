import XmlTemplate.Expr.Value
import XmlTemplate.Text.Casing
import XmlTemplate.Text.Search

/-!
# Functions of expressions

The functions that an expression can call, with their names, the numbers of arguments they take
and what they do.

* `Builtin`: the functions. `Builtin.ofName?` finds one by its name.
* `Builtin.apply`: a function on the values of its arguments.
* `callFunction`: a call by name, with the errors of unknown names and wrong numbers.
-/

namespace XmlTemplate.Expr

/-- The functions that can be called. -/
inductive Builtin where
  | true | false | not | boolean | string | number | concat | contains | startsWith | endsWith
  | stringLength | substring | substringBefore | substringAfter | upperCase | lowerCase
  | normalizeSpace | replace | tokenize | stringJoin | count | sum | min | max | empty | exists
  | floor | ceiling | round | abs
deriving DecidableEq, Repr

namespace Builtin

/-- The functions by their names. -/
def table : List (String × Builtin) :=
  [("true", .true), ("false", .false), ("not", .not), ("boolean", .boolean), ("string", .string),
    ("number", .number), ("concat", .concat), ("contains", .contains), ("starts-with", .startsWith),
    ("ends-with", .endsWith), ("string-length", .stringLength), ("substring", .substring),
    ("substring-before", .substringBefore), ("substring-after", .substringAfter),
    ("upper-case", .upperCase), ("lower-case", .lowerCase), ("normalize-space", .normalizeSpace),
    ("replace", .replace), ("tokenize", .tokenize), ("string-join", .stringJoin), ("count", .count),
    ("sum", .sum), ("min", .min), ("max", .max), ("empty", .empty), ("exists", .exists),
    ("floor", .floor), ("ceiling", .ceiling), ("round", .round), ("abs", .abs)]

/-- The function with a name. -/
def ofName? (name : String) : Option Builtin := table.lookup name

/-- The least and the greatest number of arguments, and how both are written. -/
structure Arity where
  least : Nat
  greatest : Option Nat
  text : String

namespace Arity

/-- Exactly `n` arguments. -/
def exactly (n : Nat) : Arity := ⟨n, some n, toString n⟩

/-- Whether a number of arguments is admitted. -/
def admits (a : Arity) (n : Nat) : Bool := a.least ≤ n && a.greatest.all (n ≤ ·)

end Arity

/-- The numbers of arguments that a function takes. -/
def arity : Builtin → Arity
  | true | false => .exactly 0
  | concat => ⟨2, none, "2 or more"⟩
  | contains | startsWith | endsWith | substringBefore | substringAfter => .exactly 2
  | substring => ⟨2, some 3, "2 or 3"⟩
  | replace => .exactly 3
  | tokenize | stringJoin => ⟨1, some 2, "1 or 2"⟩
  | _ => .exactly 1

/-! ## Arguments -/

/-- An argument as characters; one that is not given is the empty text. -/
def chars (args : List Sequence) (i : Nat) : List Char :=
  (Sequence.text (args.getD i [])).toList

/-- A text as the result of a function. -/
def result (s : List Char) : Sequence := [.string (String.ofList s)]

/-- An argument as a double; the empty sequence is no number. -/
def float (operation : String) (s : Sequence) : Except Error Float := do
  match ← Sequence.single operation s with
  | none => return 0.0 / 0.0
  | some value => return (← value.atomize.toNumber).toFloat

/-! ## Texts -/

/-- The characters from the position `start` on, before the position `stop`. The first one has
the position one. -/
def slice (start stop : Float) (s : List Char) : List Char :=
  (s.zipIdx.filter fun (_, i) =>
    let position := Float.ofNat (i + 1)
    start ≤ position && position < stop).map (·.1)

/-- The substring from a rounded start, of a rounded length if there is one. -/
def substringOf (args : List Sequence) : Except Error Sequence := do
  let start := (← float "substring()" (args.getD 1 [])).round
  let stop ← match args[2]? with
    | some length => do pure (start + (← float "substring()" length).round)
    | none => pure (1.0 / 0.0)
  return result (slice start stop (chars args 0))

/-- The parts of a text between separators, or its words if no separator is given. -/
def tokenizeOf (args : List Sequence) : Except Error Sequence :=
  let text := chars args 0
  let values (parts : List (List Char)) : Sequence := parts.map fun p => .string (String.ofList p)
  match args[1]? with
  | none => .ok (values (Text.words text))
  | some _ =>
    let separator := chars args 1
    if separator.isEmpty then .error (.type .emptySeparator)
    else .ok (if text.isEmpty then [] else values (Text.split separator text))

/-- The text with every occurrence of a pattern replaced. -/
def replaceOf (args : List Sequence) : Except Error Sequence :=
  if (chars args 1).isEmpty then .error (.type .emptyPattern)
  else .ok (result (Text.replace (chars args 1) (chars args 2) (chars args 0)))

/-- The texts of the items of a sequence with a separator between them. -/
def joinOf (args : List Sequence) : Sequence :=
  result (List.intercalate (chars args 1) ((args.getD 0 []).map fun v => v.text.toList))

/-! ## Numbers -/

/-- The sum of a sequence, an integer as long as all items and all partial sums are. -/
def sumFrom (exact : Option Int64) (total : Float) : Sequence → Except Error Number
  | [] => .ok (match exact with
    | some n => .integer n
    | none => .double total)
  | value :: rest => do
    let n ← value.atomize.toNumber
    let exact := match exact, n with
      | some a, .integer b => Decimal.word? (a.toInt + b.toInt)
      | _, _ => none
    sumFrom exact (total + n.toFloat) rest

/-- The first item that no other one lies beyond in the direction `wanted`. -/
def extremumFrom (wanted : Ordering) (best : Option Number) :
    Sequence → Except Error (Option Number)
  | [] => .ok best
  | value :: rest => do
    let n ← value.atomize.toNumber
    let best := match best with
      | some current => if floatOrder n.toFloat current.toFloat = some wanted then n else current
      | none => n
    extremumFrom wanted (some best) rest

/-- The least or the greatest item of a sequence. -/
def extremum (wanted : Ordering) (s : Sequence) : Except Error Sequence :=
  (extremumFrom wanted none s).map fun best => best.toList.map .number

/-- A function on the number that a sequence holds; the empty sequence stays empty. -/
def onNumber (operation : String) (f : Number → Number) (s : Sequence) : Except Error Sequence := do
  match ← Sequence.single operation s with
  | none => return []
  | some value => return [.number (f (← value.atomize.toNumber))]

/-- A function that makes a double whole and leaves an integer as it is. -/
def rounding (f : Float → Float) : Sequence → Except Error Sequence :=
  onNumber "rounding" fun
    | .integer n => .integer n
    | .double d => .double (f d)

/-! ## Application -/

/-- The value of a function on the values of its arguments. -/
def apply (f : Builtin) (args : List Sequence) : Except Error Sequence :=
  let first := args.getD 0 []
  match f with
  | true => .ok [.boolean .true]
  | false => .ok [.boolean .false]
  | not => (Sequence.truth first).map fun b => [.boolean !b]
  | boolean => (Sequence.truth first).map fun b => [.boolean b]
  | string => (Sequence.single "string()" first).map fun v => [.string ((v.map Value.text).getD "")]
  | number => (Sequence.single "number()" first).map fun v =>
    [.double ((v.map (·.atomize.toFloat)).getD (0.0 / 0.0))]
  | concat => .ok [.string (String.join (args.map Sequence.text))]
  | contains => .ok [.boolean (Text.contains (chars args 1) (chars args 0))]
  | startsWith => .ok [.boolean ((chars args 1).isPrefixOf (chars args 0))]
  | endsWith => .ok [.boolean ((chars args 1).isSuffixOf (chars args 0))]
  | stringLength => .ok [.integer (Int64.ofNat (chars args 0).length)]
  | substring => substringOf args
  | substringBefore =>
    .ok (result (((Text.cut? (chars args 1) (chars args 0)).map (·.1)).getD []))
  | substringAfter =>
    .ok (result (((Text.cut? (chars args 1) (chars args 0)).map (·.2)).getD []))
  | upperCase => .ok (result (Text.toUpper (chars args 0)))
  | lowerCase => .ok (result (Text.toLower (chars args 0)))
  | normalizeSpace => .ok (result (List.intercalate [' '] (Text.words (chars args 0))))
  | replace => replaceOf args
  | tokenize => tokenizeOf args
  | stringJoin => .ok (joinOf args)
  | count => .ok [.integer (Int64.ofNat first.length)]
  | sum => (sumFrom (some 0) 0.0 first).map fun n => [.number n]
  | min => extremum .lt first
  | max => extremum .gt first
  | empty => .ok [.boolean first.isEmpty]
  | .exists => .ok [.boolean !first.isEmpty]
  | floor => rounding Float.floor first
  | ceiling => rounding Float.ceil first
  | round => rounding (fun d => (d + 0.5).floor) first
  | abs => onNumber "abs()" Number.abs first

end Builtin

/-- The value of the function with a name on the values of its arguments. -/
def callFunction (name : String) (args : List Sequence) : Except Error Sequence :=
  match Builtin.ofName? name with
  | none => .error (.unknownFunction name)
  | some f =>
    if f.arity.admits args.length then f.apply args
    else .error (.arity name f.arity.text args.length)

end XmlTemplate.Expr
