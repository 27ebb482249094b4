import GuardedSql.Compiler
import GuardedSql.Statement

/-!
# Parts of statements

The parts that all builders of statements share: the name of a table, and what the policy makes of a
suspicious fragment anywhere in the statement.
-/

namespace GuardedSql

namespace Compiler

/-- The text of a table, which has to have a name. -/
def table (c : Compiler) (t : Token) : Except Error String :=
  if t.isBlank || Text.isBlank t.text then .error (.invalid .emptyTable) else c.emit t

/-- The statement, or a voided one of its kind if it fails on a suspicious fragment and the policy is to
void. -/
def guarded (c : Compiler) (kind : Kind) (built : Logged Statement) : Logged Statement :=
  c.onSuspicion built (.statementVoided kind) (.voided kind)

end Compiler

/-- A space and the clause after `WHERE`, or nothing. -/
def Clause.writeTail (c : Clause) : String :=
  if c.isEmpty then "" else " " ++ c.writeWhere

end GuardedSql
