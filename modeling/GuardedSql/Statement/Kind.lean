import GuardedSql.Text.Space

/-!
# Kinds of statements

The kind of a statement is read off its first word. Spaces, comments and opening parentheses before it are
skipped: a comment from `--` or `#` to the end of its line, and one from `/*` to the next `*/`. The star that
opens a comment may close it too, so `/*/` is a whole comment.
-/

namespace GuardedSql

inductive Kind where
  | select
  | insert
  | update
  | delete
  /-- anything else, also a batch -/
  | raw
deriving DecidableEq, Repr

namespace Kind

def keyword : Kind → String
  | .select => "SELECT"
  | .insert => "INSERT"
  | .update => "UPDATE"
  | .delete => "DELETE"
  | .raw => "RAW"

mutual

/-- The text from its first character that is not skipped. -/
def skip : List Char → List Char
  | '-' :: '-' :: cs => skipLine cs
  | '#' :: cs => skipLine cs
  | '/' :: '*' :: cs => skipBlock true cs
  | c :: cs => if Text.isSpace c || c = '(' then skip cs else c :: cs
  | [] => []

/-- Skips the rest of a line comment. -/
def skipLine : List Char → List Char
  | c :: cs => if c = '\n' then skip cs else skipLine cs
  | [] => []

/-- Skips the rest of a block comment; `star` if the character before was a star. -/
def skipBlock (star : Bool) : List Char → List Char
  | c :: cs => if star && c = '/' then skip cs else skipBlock (c = '*') cs
  | [] => []

end

/-- A character of a word. -/
def isWordChar (c : Char) : Bool :=
  c.isAlphanum || c = '_'

/-- The first word of a text, in capitals. -/
def firstWord (cs : List Char) : List Char :=
  (cs.takeWhile isWordChar).map Char.toUpper

def ofWord (word : List Char) : Kind :=
  if word = "SELECT".toList then .select
  else if word = "INSERT".toList ∨ word = "REPLACE".toList then .insert
  else if word = "UPDATE".toList then .update
  else if word = "DELETE".toList then .delete
  else .raw

def ofSql (sql : String) : Kind :=
  ofWord (firstWord (skip sql.toList))

end Kind

end GuardedSql
