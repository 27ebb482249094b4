import GuardedSql.Error
import GuardedSql.Json.Basic
import GuardedSql.Keyed

/-!
# Rows and records

A connection gives rows: columns in the order of the query, possibly one more than once. A record is the
map of a row. A column is read from a record as a type by a decoder.
-/

namespace GuardedSql

/-- Columns and values as they come. -/
abbrev Row := List (String × Json)

/-- The first value of a column. -/
def Row.get? (row : Row) (column : String) : Option Json :=
  row.lookup column

/-- Columns and values; a repeated column keeps its first place and takes its last value. -/
abbrev Record := Keyed String Json

/-- The records of rows. -/
def Record.ofRows (rows : List Row) : List Record :=
  rows.map Keyed.ofList

/-- The row of a record's columns and values. -/
def Record.toRow (r : Record) : Row :=
  r.entries

/-- A type into which values can be read, with its name for errors. -/
structure Decoder (α : Type) where
  name : String
  read : Json → Option α

namespace Decoder

variable {α : Type}

/-- Whole numbers in a range. Other numbers are refused, also when they are whole. -/
def intIn (name : String) (low high : Int) : Decoder Int where
  name := name
  read
    | .int n => if low ≤ n ∧ n ≤ high then some n else none
    | _ => none

/-- Whole numbers of `bits` bits with a sign. -/
def signed (bits : Nat) : Decoder Int :=
  intIn ("a signed number of " ++ toString bits ++ " bits") (-Nat.pow 2 (bits - 1)) (Nat.pow 2 (bits - 1) - 1)

/-- Whole numbers of `bits` bits without a sign. -/
def unsigned (bits : Nat) : Decoder Int :=
  intIn ("an unsigned number of " ++ toString bits ++ " bits") 0 (Nat.pow 2 bits - 1)

def string : Decoder String where
  name := "a text"
  read
    | .string s => some s
    | _ => none

def bool : Decoder Bool where
  name := "a truth value"
  read
    | .bool b => some b
    | _ => none

/-- Also reads `null`. -/
def nullable (d : Decoder α) : Decoder (Option α) where
  name := d.name ++ " or null"
  read
    | .null => some none
    | json => some <$> d.read json

def list (d : Decoder α) : Decoder (List α) where
  name := "a list of " ++ d.name
  read
    | .array items => items.mapM d.read
    | _ => none

end Decoder

namespace Record

variable {α : Type}

/-- The value of a column. -/
def get (r : Record) (d : Decoder α) (column : String) : Except Error α :=
  match r.find? column with
  | none => .error (.unreadable column .columnNotFound)
  | some json =>
    match d.read json with
    | some a => .ok a
    | none => .error (.unreadable column (.mismatch d.name))

/-- All records through one reading of a whole record, whose failures do not name a column. -/
def readAll (read : Record → Option α) (records : List Record) : Except Error (List α) :=
  records.mapM fun r =>
    match read r with
    | some a => .ok a
    | none => .error (.unreadable "*" (.mismatch "a record"))

end Record

end GuardedSql
