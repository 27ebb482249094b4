import GuardedSql.Statement.Parts

/-!
# UPDATE

Assignments of values to columns. Values are tokens, so that `hits + 1|q` read as a marked text is raw SQL
and a plain text a literal.
-/

namespace GuardedSql

structure Update where
  table : Token
  assignments : List (Token × Token) := []
  filter : Filter := []

namespace Update

/-- No assignment yet. -/
def ofTable (table : String) : Update :=
  { table := .column table }

def set (q : Update) (column : String) (value : Token) : Update :=
  { q with assignments := q.assignments ++ [(.column column, value)] }

def withFilter (q : Update) (filter : Filter) : Update :=
  { q with filter := filter }

def assignment (c : Compiler) (column value : Token) : Except Error String := do
  return (← c.emit column) ++ " = " ++ (← c.emit value)

/-- The assignments, of which there has to be one. -/
def assignmentList (c : Compiler) (assignments : List (Token × Token)) : Except Error String := do
  if assignments.isEmpty then .error (.invalid .updateWithoutColumn)
  else return ", ".intercalate (← assignments.mapM fun (column, value) => assignment c column value)

def compile (c : Compiler) (q : Update) : Logged Statement := do
  let table ← c.table q.table
  let assignments ← assignmentList c q.assignments
  let clause ← c.filter q.filter
  if clause.isVoided then return .voided .update
  else return .ofKind ("UPDATE " ++ table ++ " SET " ++ assignments ++ clause.writeTail) .update

def build (c : Compiler) (q : Update) : Logged Statement :=
  c.guarded .update (compile c q)

end Update

end GuardedSql
