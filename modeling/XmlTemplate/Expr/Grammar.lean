import XmlTemplate.Decimal.Reading
import XmlTemplate.Expr.Syntax

/-!
# The grammar of expressions

From the loosest to the tightest, the operators are: the comma, `if`, `or`, `and`, the
comparisons, `to`, `+` and `-`, `*`, `div` and `mod`, and the minus sign. Alternatives are tried
in order and the first one that matches is taken, so a name before a parenthesis is a function
whatever it is. White space may stand between any two parts.

* `single`: an expression without a comma at its top, by the depth of nesting it may have.
* `Expr.parse?`: the expression that a text holds.
-/

namespace XmlTemplate.Expr.Grammar

/-- Reads the start of a text and returns what follows. -/
abbrev Parser (α : Type) := List Char → Option (α × List Char)

/-! ## Words -/

/-- White space between the parts of an expression. -/
def isSpace (c : Char) : Bool := c == ' ' || c == '\t' || c == '\n' || c == '\x0d'

/-- The text without the white space at its start. -/
def skip (s : List Char) : List Char := s.dropWhile isSpace

/-- Characters that continue a keyword to a longer word. -/
def isWordChar (c : Char) : Bool := c.isAlphanum || c == '_' || c == '.' || c == '-'

/-- What follows a given text. -/
def after? (word s : List Char) : Option (List Char) :=
  if word.isPrefixOf s then some (s.drop word.length) else none

/-- What follows a keyword, if the word ends with it. -/
def keyword? (word : String) (s : List Char) : Option (List Char) :=
  (after? word.toList s).filter fun r => !r.head?.any isWordChar

/-- The words that no variable without a dollar sign can have as its name. -/
def keywords : List String := ["and", "or", "div", "mod", "to", "if", "then", "else"]

/-- A name, by the classes of its first and its other characters. -/
def word? (first other : Char → Bool) : Parser (List Char) := fun s =>
  match s with
  | c :: r => if first c then some (c :: r.takeWhile other, r.dropWhile other) else none
  | [] => none

/-! ## Operands that contain no expression -/

/-- A number with a point. Digits have to follow the point. -/
def double : Parser Expr := fun s =>
  let whole := s.takeWhile Char.isDigit
  match s.dropWhile Char.isDigit with
  | '.' :: r =>
    let fraction := r.takeWhile Char.isDigit
    if fraction.isEmpty then none
    else
      (Decimal.Literal.ofText? (whole ++ '.' :: fraction)).map fun n =>
        (.literal (.double n.toFloat), r.dropWhile Char.isDigit)
  | _ => none

/-- The number that a text of digits writes, a double if it is too large for a word. -/
def integerLiteral (digits : List Char) : Literal :=
  match Decimal.readSigned? digits with
  | some n => .integer n
  | none => .double (((Decimal.Literal.ofText? digits).map (·.toFloat)).getD (1.0 / 0.0))

/-- A number without a point. -/
def integer : Parser Expr := fun s =>
  (word? Char.isDigit Char.isDigit s).map fun (digits, r) => (.literal (integerLiteral digits), r)

/-- The rest of a quoted text and what follows its closing mark. A doubled mark stands for one. -/
def quoted (mark : Char) : List Char → Option (List Char × List Char)
  | [] => none
  | c :: r =>
    if c == mark then
      match r with
      | d :: r' =>
        if d == mark then (quoted mark r').map fun (value, rest) => (mark :: value, rest)
        else some ([], r)
      | [] => some ([], [])
    else (quoted mark r).map fun (value, rest) => (c :: value, rest)

/-- A text in quotes of either kind. -/
def string : Parser Expr := fun s =>
  match s with
  | mark :: r =>
    if mark == '"' || mark == '\'' then
      (quoted mark r).map fun (value, rest) => (.literal (.string (String.ofList value)), rest)
    else none
  | [] => none

/-- Characters that a variable begins with. -/
def isNameStart (c : Char) : Bool := c.isAlpha || c == '_'

/-- A variable after a dollar sign. -/
def reference : Parser Expr := fun s =>
  match s with
  | '$' :: r => (word? isNameStart isWordChar r).map fun (name, r) => (.var (String.ofList name), r)
  | _ => none

/-- A variable without a dollar sign, or one of the constants `true` and `false`. -/
def bareName : Parser Expr := fun s =>
  if keywords.any fun w => (keyword? w s).isSome then none
  else
    (word? isNameStart (fun c => c.isAlphanum || c == '_' || c == '.') s).map fun (name, r) =>
      let e : Expr := match String.ofList name with
        | "true" => .literal (.boolean true)
        | "false" => .literal (.boolean false)
        | name => .var name
      (e, r)

/-! ## Repetition -/

/-- As many steps as succeed, each of which has to read something. -/
def many {α : Type} (step : Parser α) (s : List Char) : List α × List Char :=
  match step s with
  | none => ([], s)
  | some (a, r) =>
    if r.length < s.length then
      let (others, rest) := many step r
      (a :: others, rest)
    else ([], s)
termination_by s.length

/-- Expressions with commas between them, at least one. -/
def commaList (item : Parser Expr) : Parser (List Expr) := fun s =>
  (item s).map fun (first, r) =>
    let (others, rest) := many (fun s => (after? [','] (skip s)).bind fun r => item (skip r)) r
    (first :: others, rest)

/-- An operator between two operands. -/
abbrev Infixed := Parser (Expr → Expr → Expr)

/-- An operator and its right operand. -/
def tail (op : Infixed) (operand : Parser Expr) : Parser ((Expr → Expr → Expr) × Expr) := fun s =>
  (op (skip s)).bind fun (f, r) => (operand (skip r)).map fun (e, r) => ((f, e), r)

/-- Operands joined from left to right. -/
def chain (op : Infixed) (operand : Parser Expr) : Parser Expr := fun s =>
  (operand s).map fun (first, r) =>
    let (others, rest) := many (tail op operand) r
    (others.foldl (fun left (f, right) => f left right) first, rest)

/-- One operand or two. -/
def pair (op : Infixed) (operand : Parser Expr) : Parser Expr := fun s =>
  (operand s).map fun (first, r) =>
    match tail op operand r with
    | some ((f, second), rest) => (f first second, rest)
    | none => (first, r)

/-- The first operator of a list that the text begins with. -/
def operator (table : List (Parser Unit × (Expr → Expr → Expr))) : Infixed := fun s =>
  table.findSome? fun (p, f) => (p s).map fun (_, r) => (f, r)

/-- An operator of signs. -/
def sign (text : String) : Parser Unit := fun s => (after? text.toList s).map fun r => ((), r)

/-- An operator that is a word. -/
def wordOp (text : String) : Parser Unit := fun s => (keyword? text s).map fun r => ((), r)

/-! ## Levels of precedence -/

/-- Several expressions, or one on its own. -/
def ofItems : List Expr → Expr
  | [e] => e
  | items => .sequence items

/-- An expression that may have commas. -/
def sequence (single : Parser Expr) : Parser Expr := fun s =>
  (commaList single s).map fun (items, r) => (ofItems items, r)

/-- A function and its arguments. -/
def call (single : Parser Expr) : Parser Expr := fun s => do
  let (name, r) ← word? Char.isAlpha isWordChar s
  let r ← after? ['('] (skip r)
  let (args, r) := (commaList single (skip r)).getD ([], skip r)
  let r ← after? [')'] (skip r)
  return (.call (String.ofList name) args, r)

/-- An expression in parentheses; nothing between them is the empty sequence. -/
def parenthesized (single : Parser Expr) : Parser Expr := fun s => do
  let r ← after? ['('] s
  let (e, r) := (sequence single (skip r)).getD (.sequence [], skip r)
  let r ← after? [')'] (skip r)
  return (e, r)

/-- An operand of the operators. -/
def primary (single : Parser Expr) : Parser Expr := fun s =>
  double s <|> integer s <|> string s <|> call single s <|> reference s <|> bareName s
    <|> parenthesized single s

/-- An operand with minus signs before it. -/
def unary (single : Parser Expr) : Parser Expr := fun s =>
  let signs := s.takeWhile fun c => c == '-' || isSpace c
  (primary single (s.drop signs.length)).map fun (e, r) =>
    (Nat.repeat .negate (signs.count '-') e, r)

/-- Products. -/
def product (single : Parser Expr) : Parser Expr :=
  chain
    (operator [(sign "*", .arith .mul), (wordOp "div", .arith .div), (wordOp "mod", .arith .mod)])
    (unary single)

/-- Sums. -/
def sum (single : Parser Expr) : Parser Expr :=
  chain (operator [(sign "+", .arith .add), (sign "-", .arith .sub)]) (product single)

/-- Ranges. -/
def range (single : Parser Expr) : Parser Expr :=
  pair (operator [(wordOp "to", .range)]) (sum single)

/-- Comparisons. -/
def comparison (single : Parser Expr) : Parser Expr :=
  pair (operator [(sign "!=", .compare .ne), (sign "<=", .compare .le), (sign ">=", .compare .ge),
    (sign "=", .compare .eq), (sign "<", .compare .lt), (sign ">", .compare .gt)]) (range single)

/-- Conjunctions. -/
def conjunction (single : Parser Expr) : Parser Expr :=
  chain (operator [(wordOp "and", .logical .and)]) (comparison single)

/-- Disjunctions. -/
def disjunction (single : Parser Expr) : Parser Expr :=
  chain (operator [(wordOp "or", .logical .or)]) (conjunction single)

/-- A choice between two expressions. -/
def conditional (single : Parser Expr) : Parser Expr := fun s => do
  let r ← keyword? "if" s
  let r ← after? ['('] (skip r)
  let (condition, r) ← sequence single (skip r)
  let r ← after? [')'] (skip r)
  let r ← keyword? "then" (skip r)
  let (yes, r) ← single (skip r)
  let r ← keyword? "else" (skip r)
  let (no, r) ← single (skip r)
  return (.cond condition yes no, r)

/-- An expression without a comma at its top. `depth` bounds how deep expressions are nested in
it; each of them is shorter than the one around it. -/
def single : (depth : Nat) → Parser Expr
  | 0 => fun _ => none
  | depth + 1 => fun s => conditional (single depth) s <|> disjunction (single depth) s

end XmlTemplate.Expr.Grammar

namespace XmlTemplate.Expr

/-- The expression that a text holds. A blank text is the empty sequence. -/
def parse? (s : List Char) : Option Expr :=
  let s := Grammar.skip s
  match Grammar.sequence (Grammar.single (s.length + 1)) s with
  | some (e, r) => if (Grammar.skip r).isEmpty then some e else none
  | none => if s.isEmpty then some (.sequence []) else none

end XmlTemplate.Expr
