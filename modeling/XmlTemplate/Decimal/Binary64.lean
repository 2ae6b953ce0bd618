/-!
# Doubles as exact numbers

A finite double is `±m · 2^q` for a natural number `m` and an integer `q`. Working on these parts
keeps the operations below exact, where floating-point operations would round.

* `parts`: the exact value of a finite double.
* `ofParts`: the double with a given exact value, if one exists.
* `integer?`: the integer that a double stands for.
* `remainder`: the remainder of truncating division, which is always a double itself.
-/

namespace XmlTemplate.Decimal

/-- The number `significand · 2^exponent`, with the sign that also a zero has. -/
structure Parts where
  negative : Bool
  significand : Nat
  exponent : Int
deriving DecidableEq, Repr

/-- The leading bit of the significand of a normal double, which is not stored. -/
def hiddenBit : Nat := 0x10000000000000

/-- The bit that stores the sign. -/
def signBit : Nat := 0x8000000000000000

/-- The exact value of a finite double. -/
def parts (d : Float) : Parts :=
  let bits : Nat := d.toBits.toNat
  let fraction : Nat := bits % hiddenBit
  let biased : Nat := bits / hiddenBit % 0x800
  ⟨signBit ≤ bits,
    if biased = 0 then fraction else fraction + hiddenBit,
    if biased = 0 then -1074 else (biased : Int) - 1075⟩

/-- The double of an exact value, which has to have one: the significand fits 53 bits and the
number is no finer than the smallest double. -/
def ofParts (p : Parts) : Float :=
  let sign := if p.negative then signBit else 0
  let m := p.significand
  if m = 0 then Float.ofBits (UInt64.ofNat sign)
  else
    let shift := 52 - m.log2
    let q := p.exponent - shift
    let bits :=
      if -1074 ≤ q then (q + 1075).toNat * hiddenBit + (m <<< shift - hiddenBit)
      else m <<< (p.exponent + 1074).toNat
    Float.ofBits (UInt64.ofNat (sign + bits))

/-- The integer that a finite double stands for, if it is one. -/
def integer? (d : Float) : Option Int :=
  let p := parts d
  let magnitude? :=
    if 0 ≤ p.exponent then some (p.significand <<< p.exponent.toNat)
    else
      let unit := Nat.pow 2 (-p.exponent).toNat
      if p.significand % unit = 0 then some (p.significand / unit) else none
  magnitude?.map fun n => if p.negative then -(n : Int) else n

/-- The remainder of the division of finite doubles that truncates toward zero: it has the sign
of the dividend and is smaller than the divisor. -/
def finiteRemainder (x y : Parts) : Parts :=
  let q := min x.exponent y.exponent
  let a := x.significand <<< (x.exponent - q).toNat
  let b := y.significand <<< (y.exponent - q).toNat
  ⟨x.negative, a % b, q⟩

/-- The remainder of truncating division. There is none by zero or of an infinity; division by an
infinity leaves the dividend. -/
def remainder (x y : Float) : Float :=
  if x.isNaN || y.isNaN || x.isInf || y == 0.0 then 0.0 / 0.0
  else if y.isInf then x
  else ofParts (finiteRemainder (parts x) (parts y))

end XmlTemplate.Decimal
