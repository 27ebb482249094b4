import GuardedSql.Token
import GuardedSql.Calendar
import GuardedSql.Decimal.Layout

/-!
# Tokens of data

Numbers, truth values, dates, times and identifiers of 128 bits as value tokens. Their texts are data:
no mark is read in them.
-/

namespace GuardedSql.Token

/-- A truth value, as one or zero. -/
def ofBool (b : Bool) : Token :=
  .data (if b then "1" else "0")

def ofInt (n : Int) : Token :=
  .data (toString n)

/-- A floating point number, written positionally with the fewest digits that read back. -/
def ofBinary (f : BinaryFormat) (bits : Nat) : Token :=
  .data (Layout.plain.write f (f.decode bits))

def ofDate (d : Date) : Token :=
  .data d.write

def ofDateTime (t : DateTime) : Token :=
  .data t.write

/-- A local time `east` seconds ahead of universal time, as universal time. -/
def ofLocalDateTime (t : DateTime) (east : Int) : Token :=
  .ofDateTime (t.toUniversal east)

/-- An identifier of 128 bits, as 32 hexadecimal digits in groups. -/
def ofUuid (id : BitVec 128) : Token :=
  let digits := (List.range 32).map fun i => Nat.digitChar (id.toNat / Nat.pow 16 (31 - i) % 16)
  let group (start size : Nat) := String.ofList ((digits.drop start).take size)
  .data ("-".intercalate [group 0 8, group 8 4, group 12 4, group 16 4, group 20 12])

/-- A token, or `NULL` for an absent one. -/
def ofOption (t : Option Token) : Token :=
  t.getD .null

end GuardedSql.Token
