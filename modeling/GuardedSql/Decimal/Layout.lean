import GuardedSql.Decimal.Binary

/-!
# Writing numbers

A finite number is written with the fewest digits that read back, positionally or with an exponent.
What the two formats of this library leave open is collected in a `Layout`.
-/

namespace GuardedSql

/-- What a format of numbers decides. -/
structure Layout where
  /-- Whether a number is written positionally whose first digit stands at this power of ten. -/
  positional : Int → Bool
  /-- Whether a whole number is written with a zero after the point. -/
  pointZero : Bool
  /-- Which of two decimals is written that are equally short and equally near. -/
  tie : Decimal.Tie

namespace Layout

/-- Every number positionally, whole numbers without a point; a tie goes up. -/
def plain : Layout := ⟨fun _ => true, false, .up⟩

/-- From `0.00001` up to below `10 ^ 16` positionally, with at least one digit after the point; other
numbers with an exponent that carries its sign. A tie goes to the even digit. -/
def json : Layout := ⟨fun power => -5 ≤ power && power < 16, true, .even⟩

def zeros (n : Nat) : String :=
  String.ofList (List.replicate n '0')

/-- The digits with the point where the exponent puts it. -/
def writePositional (l : Layout) (d : Decimal) : String :=
  let digits := Nat.toDigits 10 d.digits
  let tail := if l.pointZero then ".0" else ""
  if 0 ≤ d.exponent then String.ofList digits ++ zeros d.exponent.toNat ++ tail
  else
    let places := (-d.exponent).toNat
    if digits.length ≤ places then "0." ++ zeros (places - digits.length) ++ String.ofList digits
    else
      let whole := digits.length - places
      String.ofList (digits.take whole) ++ "." ++ String.ofList (digits.drop whole)

/-- The digits with the point after the first one, and the power of ten. -/
def writeScientific (d : Decimal) : String :=
  let digits := Nat.toDigits 10 d.digits
  let power := d.exponent + digits.length - 1
  let mantissa := match digits with
    | [] => ""
    | [digit] => String.singleton digit
    | digit :: rest => String.singleton digit ++ "." ++ String.ofList rest
  mantissa ++ (if power < 0 then "e-" else "e+") ++ toString power.natAbs

def writeDecimal (l : Layout) (d : Decimal) : String :=
  let power := d.exponent + (Nat.toDigits 10 d.digits).length - 1
  if l.positional power then l.writePositional d else writeScientific d

/-- The text of a number of format `f`. -/
def write (l : Layout) (f : BinaryFormat) : Binary → String
  | .nan => "NaN"
  | .infinite negative => (if negative then "-" else "") ++ "inf"
  | .finite negative significand exponent =>
    let d := if significand = 0 then ⟨0, 0⟩ else f.shortest l.tie significand exponent
    (if negative then "-" else "") ++ l.writeDecimal d

/-! The number `1125899906842624.25` lies halfway between the two shortest decimals that read back. -/

example : plain.write .double (BinaryFormat.double.decode 0x4310000000000001) = "1125899906842624.3" := by
  decide +kernel

example : json.write .double (BinaryFormat.double.decode 0x4310000000000001) = "1125899906842624.2" := by
  decide +kernel

end Layout

end GuardedSql
