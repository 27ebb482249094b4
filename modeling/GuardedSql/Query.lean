import GuardedSql.Notice
import GuardedSql.Text.Clip

/-!
# Queries and their outcomes

What is sent to a connection at a time, and what became of it. Texts of errors are kept up to 512 bytes.
-/

namespace GuardedSql

/-- A statement or a batch on its way to a connection. -/
structure Query where
  sql : String
  kind : Kind
  /-- the number of statements -/
  statements : Nat
  labels : List Label
deriving DecidableEq, Repr

namespace Query

def single (sql : String) (kind : Kind) : Query :=
  ⟨sql, kind, 1, []⟩

def batch (sql : String) (statements : Nat) (labels : List Label) : Query :=
  ⟨sql, .raw, statements, labels⟩

/-- A query of more than one statement, or with labels. -/
def isBatch (q : Query) : Bool :=
  1 < q.statements || !q.labels.isEmpty

end Query

inductive Outcome where
  | rows (count : Nat)
  | affected (count : UInt64)
  /-- the number of results of a batch -/
  | batch (results : Nat)
  /-- never sent -/
  | voided
  | error (text : String)
deriving DecidableEq, Repr

namespace Outcome

/-- The number of bytes kept of an error's text. -/
def maxErrorSize : Nat := 512

def failure (text : String) : Outcome :=
  .error (Text.abridge maxErrorSize text)

def isError : Outcome → Bool
  | .error _ => true
  | _ => false

def text : Outcome → String
  | .rows count => toString count ++ " rows"
  | .affected count => toString count.toNat ++ " affected"
  | .batch results => toString results ++ " result sets"
  | .voided => "voided"
  | .error text => "error: " ++ text

/-- The notice of an outcome, the SQL cut to `limit` bytes. -/
def notice (limit : Option Nat) (q : Query) (o : Outcome) : Notice :=
  let sql := match limit with
    | some limit => Text.abridge limit q.sql
    | none => q.sql
  match o with
  | .rows count => .rows q.kind count sql
  | .affected count => .affected q.kind count sql
  | .batch results => .batch q.statements results q.labels sql
  | .voided => .notExecuted q.kind
  | .error text => .failed q.kind text sql

end Outcome

end GuardedSql
