import GuardedSql.Statement.Kind

/-!
# Statements

A finished statement, with its kind and, for a batch, the labels of its results. A voided statement has no
text and must not run.
-/

namespace GuardedSql

/-- The label of a result: a name, or a position counted from zero. -/
inductive Label where
  | named (name : String)
  | index (i : Nat)
deriving DecidableEq, Repr

namespace Label

/-- A name without text. -/
def isEmpty : Label → Bool
  | .named name => Text.isBlank name
  | .index _ => false

def text : Label → String
  | .named name => name
  | .index i => toString i

/-- A character of a name between quotes. Control characters are written by their escapes. -/
def describeChar (c : Char) : List Char :=
  match c with
  | '"' => ['\\', '"']
  | '\\' => ['\\', '\\']
  | '\n' => ['\\', 'n']
  | '\r' => ['\\', 'r']
  | '\t' => ['\\', 't']
  | '\x00' => ['\\', '0']
  | c =>
    if c.toNat < 0x20 || c.toNat = 0x7f then ['\\', 'u', '{'] ++ Nat.toDigits 16 c.toNat ++ ['}']
    else [c]

/-- A label with its sort, the name in quotes. -/
def describe : Label → String
  | .named name => "Name(\"" ++ String.ofList (name.toList.flatMap describeChar) ++ "\")"
  | .index i => "Index(" ++ toString i ++ ")"

end Label

inductive Statement where
  | ready (sql : String) (kind : Kind) (labels : List Label)
  | voided (kind : Kind)
deriving DecidableEq, Repr

namespace Statement

def sql : Statement → String
  | .ready sql _ _ => sql
  | .voided _ => ""

def kind : Statement → Kind
  | .ready _ kind _ => kind
  | .voided kind => kind

def labels : Statement → List Label
  | .ready _ _ labels => labels
  | .voided _ => []

def isVoided : Statement → Bool
  | .ready .. => false
  | .voided _ => true

def ofKind (sql : String) (kind : Kind) : Statement :=
  .ready sql kind []

/-- The statement of a text, its kind read off it. -/
def ofSql (sql : String) : Statement :=
  ofKind sql (.ofSql sql)

/-- Statements joined with semicolons, and the labels of their results. -/
def batch (statements : List String) (labels : List Label) : Statement :=
  .ready (";".intercalate statements) .raw labels

end Statement

end GuardedSql
