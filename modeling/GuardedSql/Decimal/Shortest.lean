/-!
# The fewest digits that read back

A positive number `significand · 2 ^ exponent` of a binary format stands for all the numbers that
round to it. `shortest` finds the decimal with the fewest digits among them, and of two such
decimals the nearer one. Formats differ on two that are equally near: `Tie` says which one is taken.
All arithmetic is exact, on natural numbers.
-/

namespace GuardedSql

/-- The number `digits · 10 ^ exponent`. -/
structure Decimal where
  digits : Nat
  exponent : Int
deriving DecidableEq, Repr

namespace Decimal

/-- The same number with the zeros at the end of its digits moved to the exponent, at most `fuel` of
them. -/
def dropZeros : (fuel : Nat) → Decimal → Decimal
  | 0, d => d
  | fuel + 1, d =>
    if d.digits ≠ 0 ∧ d.digits % 10 = 0 then dropZeros fuel ⟨d.digits / 10, d.exponent + 1⟩ else d

/-- Which of two neighbouring decimals is taken for a value halfway between them. -/
inductive Tie where
  /-- the one whose last digit is even -/
  | even
  /-- the larger one -/
  | up
deriving DecidableEq, Repr

/-- Whether the smaller of two decimals is taken, whose digits are `digits`. -/
def Tie.takesLower : Tie → (digits : Nat) → Bool
  | .even, digits => digits % 2 = 0
  | .up, _ => false

/-- The numbers that round to a value: the value and the two ends, all in units of `1 / unit`. The
ends belong to it if `closed`. -/
structure Interval where
  low : Nat
  value : Nat
  high : Nat
  unit : Nat
  closed : Bool

/-- The numbers that round to `significand · 2 ^ exponent`, where neighbours are `2 ^ exponent` apart,
below it half as far if `narrow`. Ties round to the even significand. -/
def Interval.around (significand : Nat) (exponent : Int) (narrow : Bool) : Interval where
  low := (4 * significand - if narrow then 1 else 2) * Nat.pow 2 exponent.toNat
  value := 4 * significand * Nat.pow 2 exponent.toNat
  high := (4 * significand + 2) * Nat.pow 2 exponent.toNat
  unit := 4 * Nat.pow 2 (-exponent).toNat
  closed := significand % 2 = 0

/-- The multiple of `10 ^ place` nearest to the value, if one of the two multiples beside the value lies
in the interval. If both do and are equally near, the tie decides. -/
def Interval.nearest? (i : Interval) (tie : Tie) (place : Int) : Option Decimal :=
  let scale := Nat.pow 10 (-place).toNat
  let step := i.unit * Nat.pow 10 place.toNat
  let below := i.value * scale / step
  let inside (n : Nat) : Bool :=
    if i.closed then i.low * scale ≤ n * step && n * step ≤ i.high * scale
    else i.low * scale < n * step && n * step < i.high * scale
  let rest := i.value * scale - below * step
  let pick (n : Nat) : Option Decimal := some ⟨n, place⟩
  match below ≠ 0 && inside below, inside (below + 1) with
  | true, true =>
    if 2 * rest < step ∨ (2 * rest = step ∧ tie.takesLower below) then pick below else pick (below + 1)
  | true, false => pick below
  | false, true => pick (below + 1)
  | false, false => none

/-- The number of digits before the point; for a value below one, minus the number of zeros that
follow the point. -/
def Interval.magnitude (i : Interval) : Int :=
  if i.unit ≤ i.value then (Nat.toDigits 10 (i.value / i.unit)).length
  else
    match (List.range 1100).find? fun n => i.unit ≤ i.value * Nat.pow 10 (n + 1) with
    | some zeros => -zeros
    | none => 0

/-- The decimal of at most `most` digits with the fewest digits in the interval. -/
def Interval.shortest (i : Interval) (tie : Tie) (most : Nat) : Decimal :=
  let found := (List.range most).findSome? fun n : Nat => i.nearest? tie (i.magnitude - (n + 1))
  (found.getD ⟨0, 0⟩).dropZeros most

end GuardedSql.Decimal
