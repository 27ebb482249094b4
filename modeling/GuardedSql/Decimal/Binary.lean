import GuardedSql.Decimal.Shortest

/-!
# Binary floating point

The interchange formats of binary floating point: a sign bit, an exponent and a fraction. `decode`
reads the value of a bit pattern, `round` finds the bit pattern of the value nearest to a decimal.
-/

namespace GuardedSql

/-- The widths of the fields of a binary format. -/
structure BinaryFormat where
  fractionBits : Nat
  exponentBits : Nat

namespace BinaryFormat

/-- Eight bytes. -/
def double : BinaryFormat := ⟨52, 11⟩

/-- Four bytes. -/
def single : BinaryFormat := ⟨23, 8⟩

variable (f : BinaryFormat)

/-- The exponent of the least significant bit of the smallest values. -/
def minExponent : Int :=
  2 - (Nat.pow 2 (f.exponentBits - 1) : Int) - f.fractionBits

/-- The exponent field of the infinities. -/
def infinityField : Nat :=
  Nat.pow 2 f.exponentBits - 1

/-- The number of decimal digits that always suffice to read a value back. -/
def maxDigits : Nat :=
  if f.fractionBits ≤ 23 then 9 else 17

end BinaryFormat

/-- The value of a bit pattern. A finite one is `significand · 2 ^ exponent`. -/
inductive Binary where
  | nan
  | infinite (negative : Bool)
  | finite (negative : Bool) (significand : Nat) (exponent : Int)
deriving DecidableEq, Repr

namespace BinaryFormat

variable (f : BinaryFormat)

def decode (bits : Nat) : Binary :=
  let fraction := bits % Nat.pow 2 f.fractionBits
  let field := bits / Nat.pow 2 f.fractionBits % Nat.pow 2 f.exponentBits
  let negative := bits / Nat.pow 2 (f.fractionBits + f.exponentBits) % 2 = 1
  if field = f.infinityField then (if fraction = 0 then .infinite negative else .nan)
  else if field = 0 then .finite negative fraction f.minExponent
  else .finite negative (Nat.pow 2 f.fractionBits + fraction) (f.minExponent + field - 1)

/-- The shortest decimal that rounds to `significand · 2 ^ exponent`. -/
def shortest (tie : Decimal.Tie) (significand : Nat) (exponent : Int) : Decimal :=
  let narrow := significand = Nat.pow 2 f.fractionBits ∧ f.minExponent < exponent
  (Decimal.Interval.around significand exponent narrow).shortest tie f.maxDigits

/-- The significand and exponent of `num / den` if the exponent is `exponent`, rounded to the nearest,
a tie to the even one. -/
def roundAt (num den : Nat) (exponent : Int) : Nat :=
  let n := num * Nat.pow 2 (-exponent).toNat
  let d := den * Nat.pow 2 exponent.toNat
  let q := n / d
  let r := n % d
  if 2 * r > d ∨ (2 * r = d ∧ q % 2 = 1) then q + 1 else q

/-- The bit pattern, sign bit apart, of the value nearest to `d`; nothing if it is out of range. -/
def round? (d : Decimal) : Option Nat :=
  if d.digits = 0 then some 0
  else if d.exponent > 400 then none
  else if d.exponent + (Nat.toDigits 10 d.digits).length < -400 then some 0
  else
    let num := d.digits * Nat.pow 10 d.exponent.toNat
    let den := Nat.pow 10 (-d.exponent).toNat
    -- the exponent at which the quotient has one bit more than the fraction, or one bit less
    let guess : Int := (num.log2 : Int) - den.log2 - f.fractionBits
    let exact :=
      if num * Nat.pow 2 (-guess).toNat < Nat.pow 2 f.fractionBits * (den * Nat.pow 2 guess.toNat) then guess - 1
      else guess
    let exponent := max exact f.minExponent
    -- a significand that rounds up to the next power of two carries into the exponent field
    let bits := (exponent - f.minExponent).toNat * Nat.pow 2 f.fractionBits + roundAt num den exponent
    if bits < f.infinityField * Nat.pow 2 f.fractionBits then some bits else none

end BinaryFormat

/-- A number of the eight byte format, by its bits. -/
structure Double where
  bits : UInt64
deriving DecidableEq, Repr

namespace Double

def value (x : Double) : Binary :=
  BinaryFormat.double.decode x.bits.toNat

/-- The number nearest to a decimal, a sign put before it; nothing if it is out of range. -/
def ofDecimal? (negative : Bool) (d : Decimal) : Option Double :=
  (BinaryFormat.double.round? d).map fun bits =>
    ⟨(if negative then Nat.pow 2 63 + bits else bits).toUInt64⟩

end Double

end GuardedSql
