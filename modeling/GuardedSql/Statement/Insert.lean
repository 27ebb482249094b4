import GuardedSql.Filter.OfJson
import GuardedSql.Statement.Parts

/-!
# INSERT

One or many rows. The columns are those of the first row; every other row has as many, and its values are
found by the names of the columns.
-/

namespace GuardedSql

/-- The values of a row, by their columns, which are marked texts. -/
abbrev InsertRow := List (String × Token)

structure Insert where
  table : Token
  rows : List InsertRow := []

namespace Insert

/-- No rows yet. -/
def intoTable (table : String) : Insert :=
  { table := .column table }

/-- The rows with a value added to the last one. -/
def addToLast (column : String) (value : Token) : List InsertRow → List InsertRow
  | [] => [[(column, value)]]
  | [row] => [row ++ [(column, value)]]
  | row :: next :: rest => row :: addToLast column value (next :: rest)

/-- Adds a value to the last row, the first one if there is none. -/
def set (q : Insert) (column : String) (value : Token) : Insert :=
  { q with rows := addToLast column value q.rows }

def addRow (q : Insert) (row : InsertRow) : Insert :=
  { q with rows := q.rows ++ [row] }

/-- The row of an object of scalars. -/
def rowOfJson : Json → Except Error InsertRow
  | .object members => members.mapM fun (column, json) => return (column, ← Token.ofJson json)
  | _ => .error (.invalid .insertRowNotObject)

/-- Adds the row of an object, or the rows of an array of objects. -/
def addJson (q : Insert) (json : Json) : Except Error Insert := do
  let objects := match json with
    | .array items => items
    | other => [other]
  return { q with rows := q.rows ++ (← objects.mapM rowOfJson) }

/-- The values of the row numbered `i`, in the order of the columns, in parentheses. -/
def tuple (c : Compiler) (columns : List String) (i : Nat) (row : InsertRow) : Except Error String := do
  if row.length ≠ columns.length then .error (.invalid (.insertWidth i row.length columns.length))
  else
    let values ← columns.mapM fun column =>
      match row.lookup column with
      | some value => c.emit value
      | none => .error (.invalid (.insertMissing i column))
    return "(" ++ ", ".intercalate values ++ ")"

/-- The tuples of rows, the first one numbered `i`. -/
def tuples (c : Compiler) (columns : List String) (i : Nat) : List InsertRow → Except Error (List String)
  | [] => .ok []
  | row :: rest => do
    let text ← tuple c columns i row
    let texts ← tuples c columns (i + 1) rest
    return text :: texts

def compile (c : Compiler) (q : Insert) : Except Error Statement := do
  let table ← c.table q.table
  let columns := (q.rows.head?.getD []).map Prod.fst
  if columns.isEmpty then .error (.invalid .insertWithoutColumn)
  else
    let names ← columns.mapM fun column => c.emit (.column column)
    let texts ← tuples c columns 0 q.rows
    return .ofKind ("INSERT INTO " ++ table ++ " (" ++ ", ".intercalate names ++ ") VALUES " ++
      ", ".intercalate texts) .insert

def build (c : Compiler) (q : Insert) : Logged Statement :=
  c.guarded .insert (.ofExcept (compile c q))

end Insert

end GuardedSql
