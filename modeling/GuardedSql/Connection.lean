import GuardedSql.Quote.Literal
import GuardedSql.Record

/-!
# Connections

What a session needs of a connection to a MySQL database: functions on the state of the connection. Anything
that gives them can be run on. A batch answers with a reply for each statement that was completed; it stops
at the first one that fails, and the text of the failure is the last error.
-/

namespace GuardedSql

/-- What a connection answers to a statement. -/
inductive Reply where
  | rows (found : List Row)
  | affected (count : UInt64)
  /-- no result -/
  | empty
deriving DecidableEq

/-- A connection whose state is in `σ`. -/
structure Connection (σ : Type) where
  execute : String → σ → Except Error Reply × σ
  executeBatch : String → σ → Except Error (List Reply) × σ
  /-- the identifier that the last insertion generated -/
  lastInsertId : σ → UInt64
  /-- the number of rows that the last statement affected or returned -/
  affectedRows : σ → UInt64
  /-- the text of the last failure, empty if the last call succeeded -/
  lastError : σ → String
  escape : σ → Escaper := fun _ => Literal.escape
  start : σ → Except Error Unit × σ := fun s =>
    ((execute "START TRANSACTION" s).1.map fun _ => (), (execute "START TRANSACTION" s).2)
  commit : σ → Except Error Unit × σ := fun s =>
    ((execute "COMMIT" s).1.map fun _ => (), (execute "COMMIT" s).2)
  rollback : σ → Except Error Unit × σ := fun s =>
    ((execute "ROLLBACK" s).1.map fun _ => (), (execute "ROLLBACK" s).2)
  close : σ → Except Error Unit × σ := fun s => (.ok (), s)
  /-- a clock that runs beside the connection, in nanoseconds -/
  clock : σ → Nat := fun _ => 0

end GuardedSql
