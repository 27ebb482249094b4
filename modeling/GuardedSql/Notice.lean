import GuardedSql.Statement

/-!
# Notices

What is worth a line in a log. A notice has a level, and fields in the order of their names.
-/

namespace GuardedSql

inductive Level where
  | trace
  | debug
  | warn
  | error
deriving DecidableEq, Repr

def Level.name : Level → String
  | .trace => "TRACE"
  | .debug => "DEBUG"
  | .warn => "WARN"
  | .error => "ERROR"

inductive Notice where
  /-- a suspicious fragment has voided a clause -/
  | filterVoided (fragment : String)
  /-- a suspicious fragment has voided a choice on its own -/
  | choiceVoided (fragment : String)
  /-- a suspicious fragment outside the filter has voided a statement -/
  | statementVoided (kind : Kind) (fragment : String)
  | idTaken (attempt : Nat) (id : String)
  | transactionStarted
  | transactionRolledBack (error : String)
  | closeFailed (error : String)
  | rows (kind : Kind) (count : Nat) (sql : String)
  | affected (kind : Kind) (count : UInt64) (sql : String)
  | batch (statements results : Nat) (labels : List Label) (sql : String)
  | notExecuted (kind : Kind)
  | failed (kind : Kind) (error sql : String)
deriving DecidableEq, Repr

namespace Notice

def level : Notice → Level
  | .idTaken .. => .trace
  | .transactionStarted | .transactionRolledBack _ | .rows .. | .affected .. | .batch .. => .debug
  | .filterVoided _ | .choiceVoided _ | .statementVoided .. | .closeFailed _ | .notExecuted _ => .warn
  | .failed .. => .error

def labelsText (labels : List Label) : String :=
  "[" ++ ", ".intercalate (labels.map Label.describe) ++ "]"

def fields : Notice → List (String × String)
  | .filterVoided fragment =>
    [("fragment", fragment), ("message", "unescaped quote in fragment, predicate set voided")]
  | .choiceVoided fragment =>
    [("fragment", fragment), ("message", "unescaped quote in fragment, OR group voided")]
  | .statementVoided kind fragment =>
    [("fragment", fragment), ("kind", kind.keyword), ("message", "unescaped quote in fragment, statement voided")]
  | .idTaken attempt id =>
    [("attempt", toString attempt), ("id", id), ("message", "unique id collision")]
  | .transactionStarted => [("message", "transaction started")]
  | .transactionRolledBack error => [("error", error), ("message", "transaction rolled back")]
  | .closeFailed error => [("error", error), ("message", "closing connection after transaction failed")]
  | .rows kind count sql => [("kind", kind.keyword), ("rows", toString count), ("sql", sql)]
  | .affected kind count sql => [("affected", toString count.toNat), ("kind", kind.keyword), ("sql", sql)]
  | .batch statements results labels sql =>
    [("label", labelsText labels), ("results", toString results), ("sql", sql), ("statements", toString statements)]
  | .notExecuted kind =>
    [("kind", kind.keyword), ("message", "statement voided by injection guard, not executed")]
  | .failed kind error sql => [("error", error), ("kind", kind.keyword), ("sql", sql)]

end Notice

end GuardedSql
