import GuardedSql.Statement.Delete
import GuardedSql.Statement.Insert
import GuardedSql.Statement.Select
import GuardedSql.Statement.Update

/-!
# Commands

A statement of any of the four kinds that can be built.
-/

namespace GuardedSql

inductive Command where
  | select (q : Select)
  | insert (q : Insert)
  | update (q : Update)
  | delete (q : Delete)

namespace Command

def kind : Command → Kind
  | .select _ => .select
  | .insert _ => .insert
  | .update _ => .update
  | .delete _ => .delete

def build (c : Compiler) : Command → Logged Statement
  | .select q => q.build c
  | .insert q => q.build c
  | .update q => q.build c
  | .delete q => q.build c

/-- The statement with the escaping of MySQL, suspicious fragments raised. -/
def toStatement (q : Command) : Except Error Statement :=
  (q.build {}).result

/-- The text of the statement, or the error as a comment. -/
def toSql (q : Command) : String :=
  match q.toStatement with
  | .ok s => s.sql
  | .error e => "/* " ++ e.message ++ " */"

end Command

end GuardedSql
