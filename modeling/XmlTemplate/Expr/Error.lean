/-!
# Errors of expressions

Why an expression cannot be read or has no value.

* `TypeFault`: a value of the wrong kind or size.
* `Error`: the causes. `Error.message` is their text.
-/

namespace XmlTemplate.Expr

/-- A value that an operation has no use for. -/
inductive TypeFault where
  /-- A text that is not a number. -/
  | notNumber (text : String)
  /-- The number of atomic values whose joint truth was asked for. -/
  | undefinedTruth (count : Nat)
  /-- An operation that takes one item, and the number of items it got. -/
  | tooMany (operation : String) (count : Nat)
  /-- The bound of a range that is not an integer. -/
  | rangeBound (text : String)
  /-- The bounds of a range that is too long. -/
  | rangeLength (first last : Int)
  | emptyPattern
  | emptySeparator
deriving DecidableEq, Repr

/-- The greatest number of items in a range. -/
def maxRange : Nat := 1000000

namespace TypeFault

/-- The text of a fault. -/
def message : TypeFault → String
  | notNumber text => "cannot convert '" ++ text ++ "' to a number"
  | undefinedTruth count =>
    "effective boolean value of a sequence of " ++ toString count ++ " atomic values is undefined"
  | tooMany operation count => operation ++ " expects at most one item, got " ++ toString count
  | rangeBound text => "range bound " ++ text ++ " is not an integer"
  | rangeLength first last =>
    "range " ++ toString first ++ " to " ++ toString last ++ " exceeds " ++ toString maxRange ++
      " items"
  | emptyPattern => "replace() pattern must not be empty"
  | emptySeparator => "tokenize() separator must not be empty"

end TypeFault

/-- Why an expression cannot be read or has no value. -/
inductive Error where
  | malformed
  | unknownFunction (name : String)
  /-- A function, the numbers of arguments it takes, and the number it got. -/
  | arity (name expected : String) (found : Nat)
  | type (fault : TypeFault)
  | undefinedVariable (name : String)
  | divisionByZero
deriving DecidableEq, Repr

namespace Error

/-- The text of an error. -/
def message : Error → String
  | malformed => "syntax error"
  | unknownFunction name => "unknown function '" ++ name ++ "()'"
  | arity name expected found =>
    name ++ "() expects " ++ expected ++ " argument(s), got " ++ toString found
  | type fault => "type error: " ++ fault.message
  | undefinedVariable name => "variable '" ++ name ++ "' is not defined"
  | divisionByZero => "division by zero"

end Error

end XmlTemplate.Expr
