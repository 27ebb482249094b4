import GuardedSql.Statement.Parts

/-!
# SELECT

Tables and columns are marked texts: `COUNT(*) AS n|q` is written as it is, `u.name` in backticks. Blank
columns are left out; without columns the star is selected.
-/

namespace GuardedSql

inductive Direction where
  | asc
  | desc
deriving DecidableEq, Repr

def Direction.keyword : Direction → String
  | .asc => "ASC"
  | .desc => "DESC"

structure Select where
  table : Token
  columns : List Token := []
  filter : Filter := []
  order : List (Token × Direction) := []
  limit : Option Nat := none
  offset : Option Nat := none

namespace Select

/-- Everything of a table. -/
def ofTable (table : String) : Select :=
  { table := .column table }

def withColumns (q : Select) (columns : List String) : Select :=
  { q with columns := columns.map .column }

def addColumn (q : Select) (column : Token) : Select :=
  { q with columns := q.columns ++ [column] }

def withFilter (q : Select) (filter : Filter) : Select :=
  { q with filter := filter }

def orderBy (q : Select) (column : String) (direction : Direction) : Select :=
  { q with order := q.order ++ [(.column column, direction)] }

def take (q : Select) (limit : Nat) : Select :=
  { q with limit := some limit }

def skip (q : Select) (offset : Nat) : Select :=
  { q with offset := some offset }

/-- The limit and offset. An offset alone takes the largest limit there is, since it cannot stand without
one. -/
def window : Option Nat → Option Nat → String
  | some limit, some offset => " LIMIT " ++ toString limit ++ " OFFSET " ++ toString offset
  | some limit, none => " LIMIT " ++ toString limit
  | none, some offset => " LIMIT 18446744073709551615 OFFSET " ++ toString offset
  | none, none => ""

/-- The columns that are not blank, or the star. -/
def columnList (c : Compiler) (columns : List Token) : Except Error String := do
  let texts ← (columns.filter fun t => !t.isBlank).mapM c.emit
  return if texts.isEmpty then "*" else ", ".intercalate texts

def orderList (c : Compiler) (order : List (Token × Direction)) : Except Error String := do
  let texts ← order.mapM fun (column, direction) => return (← c.emit column) ++ " " ++ direction.keyword
  return if texts.isEmpty then "" else " ORDER BY " ++ ", ".intercalate texts

/-- The statement around a clause. -/
def assemble (c : Compiler) (q : Select) (table : String) (clause : Clause) : Except Error Statement := do
  let columns ← columnList c q.columns
  let order ← orderList c q.order
  return .ofKind ("SELECT " ++ columns ++ " FROM " ++ table ++ clause.writeTail ++ order ++
    window q.limit q.offset) .select

def compile (c : Compiler) (q : Select) : Logged Statement := do
  let table ← c.table q.table
  let clause ← c.filter q.filter
  if clause.isVoided then return .voided .select else assemble c q table clause

def build (c : Compiler) (q : Select) : Logged Statement :=
  c.guarded .select (compile c q)

end Select

end GuardedSql
