import GuardedSql.Statement.Parts

/-!
# DELETE

A statement whose filter leaves nothing to write deletes nothing, unless deleting everything is allowed.
-/

namespace GuardedSql

structure Delete where
  table : Token
  filter : Filter := []
  allowAll : Bool := false

namespace Delete

def ofTable (table : String) : Delete :=
  { table := .column table }

def withFilter (q : Delete) (filter : Filter) : Delete :=
  { q with filter := filter }

def allowingAll (q : Delete) : Delete :=
  { q with allowAll := true }

/-- A space and the clause after `WHERE`; for an empty clause one that no row satisfies, or nothing. -/
def tail (allowAll : Bool) (clause : Clause) : String :=
  if clause.isEmpty then (if allowAll then "" else " WHERE 1=0") else " " ++ clause.writeWhere

def compile (c : Compiler) (q : Delete) : Logged Statement := do
  let table ← c.table q.table
  let clause ← c.filter q.filter
  if clause.isVoided then return .voided .delete
  else return .ofKind ("DELETE FROM " ++ table ++ tail q.allowAll clause) .delete

def build (c : Compiler) (q : Delete) : Logged Statement :=
  c.guarded .delete (compile c q)

end Delete

end GuardedSql
