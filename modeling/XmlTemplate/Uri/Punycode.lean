/-!
# Punycode

Labels of domain names outside ASCII are written in ASCII: the basic characters first, then the
others as a sequence of numbers in a notation of variable length whose digits adapt to the
numbers already written.

* `encode`: the text of a label.
* `decode?`: the label that a text stands for.
-/

namespace XmlTemplate.Uri.Punycode

/-- The digits below 26 are letters, those from 26 to 35 decimal digits. -/
def digit (d : Nat) : Char :=
  if d < 26 then Char.ofNat ('a'.toNat + d) else Char.ofNat ('0'.toNat + d - 26)

/-- The least value that a digit in the position `k` cannot end a number with. -/
def threshold (k bias : Nat) : Nat := max 1 (min 26 (k - bias))

/-- The bias after halving `delta` down to 455, which takes 35 off the position each time. -/
def settle (delta k : Nat) : Nat :=
  if 455 < delta then settle (delta / 35) (k + 36) else k + 36 * delta / (delta + 38)
termination_by delta
decreasing_by omega

/-- The bias for the next number. -/
def adapt (delta written : Nat) (first : Bool) : Nat :=
  let d := if first then delta / 700 else delta / 2
  settle (d + d / written) 0

/-- The digits of a number, the least significant first. -/
def number (bias k q : Nat) : List Char :=
  let t := threshold k bias
  if q < t then [digit q]
  else digit (t + (q - t) % (36 - t)) :: number bias (k + 36) ((q - t) / (36 - t))
termination_by q
decreasing_by
  have ht : 1 ≤ threshold k bias := Nat.le_max_left ..
  have : (q - threshold k bias) / (36 - threshold k bias) ≤ q - threshold k bias :=
    Nat.div_le_self ..
  omega

/-- The state between two numbers: the digits so far, the distance counted since the last number,
the bias, and how many characters have been written. -/
structure State where
  digits : List Char
  delta : Nat
  bias : Nat
  written : Nat

/-- One pass over the label for the character `m`: every smaller character counts, and every
occurrence of `m` writes the count. -/
def pass (label : List Char) (basic m : Nat) (st : State) : State :=
  label.foldl (fun st c =>
    if c.toNat < m then { st with delta := st.delta + 1 }
    else if c.toNat = m then
      ⟨st.digits ++ number st.bias 36 st.delta, 0,
        adapt st.delta (st.written + 1) (st.written == basic), st.written + 1⟩
    else st) st

/-- A pass for every character outside ASCII, in ascending order. -/
def passes (label : List Char) (basic : Nat) : List Nat → Nat → State → State
  | [], _, st => st
  | m :: rest, n, st =>
    let st := pass label basic m { st with delta := st.delta + (m - n) * (st.written + 1) }
    passes label basic rest (m + 1) { st with delta := st.delta + 1 }

/-- The text of a label, without the mark that precedes it in a domain name. -/
def encode (label : List Char) : List Char :=
  let basic := label.filter (·.toNat < 0x80)
  let others := ((label.filter (0x80 ≤ ·.toNat)).map Char.toNat).eraseDups.mergeSort
  let st := passes label basic.length others 0x80 ⟨[], 0, 72, basic.length⟩
  (if basic.isEmpty then [] else basic ++ ['-']) ++ st.digits

/-- The value of a digit. -/
def digitValue? (c : Char) : Option Nat :=
  if c.isLower then some (c.toNat - 'a'.toNat)
  else if c.isDigit then some (c.toNat - '0'.toNat + 26)
  else none

/-- The state within a number: the label so far, its latest character and where that was put, the
bias, and the number so far with the weight and the position of the next digit. -/
structure Partial where
  label : List Char
  last : Nat
  start : Nat
  bias : Nat
  sum : Nat
  weight : Nat
  position : Nat

/-- The state before a number. -/
def Partial.between (label : List Char) (last start bias : Nat) : Partial :=
  ⟨label, last, start, bias, start, 1, 36⟩

/-- The state after one more digit. The last digit of a number puts a character into the label. -/
def Partial.next (p : Partial) (d : Nat) : Option Partial :=
  let t := threshold p.position p.bias
  let sum := p.sum + d * p.weight
  if t ≤ d then
    some { p with sum := sum, weight := p.weight * (36 - t), position := p.position + 36 }
  else
    let length := p.label.length + 1
    let last := p.last + sum / length
    let place := sum % length
    if last.isValidChar then
      let label := p.label.take place ++ Char.ofNat last :: p.label.drop place
      some (.between label last (place + 1) (adapt (sum - p.start) length (p.start == 0)))
    else none

/-- The label that the text of a label stands for, without the mark that precedes the text. A
hyphen divides it only if basic characters precede the hyphen. -/
def decode? (s : List Char) : Option (List Char) :=
  let basic := (s.reverse.dropWhile (· != '-')).reverse.dropLast
  let digits := if basic.isEmpty then s else (s.reverse.takeWhile (· != '-')).reverse
  let stepped : Option Partial :=
    digits.foldlM (fun p c => (digitValue? c).bind p.next) (.between basic 0x80 0 72)
  (stepped.filter fun p => p.weight == 1).map (·.label)

end XmlTemplate.Uri.Punycode
