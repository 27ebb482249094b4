/-!
# String literals

A text is written as a literal between single quotes, with the characters that MySQL treats specially
behind a backslash. A connection may bring an escaping of its own.
-/

namespace GuardedSql

/-- How a text is escaped for its place between single quotes. -/
abbrev Escaper := String → String

namespace Literal

/-- A character between the quotes of a literal. -/
def escapeChar : Char → List Char
  | '\x00' => ['\\', '0']
  | '\n' => ['\\', 'n']
  | '\r' => ['\\', 'r']
  | '\\' => ['\\', '\\']
  | '\'' => ['\\', '\'']
  | '"' => ['\\', '"']
  | '\x1a' => ['\\', 'Z']
  | c => [c]

/-- The escaping of a connection that says nothing else. -/
def escape : Escaper := fun s =>
  String.ofList (s.toList.flatMap escapeChar)

@[simp] theorem toList_escape (s : String) : (escape s).toList = s.toList.flatMap escapeChar :=
  String.toList_ofList

def quote (escaper : Escaper) (s : String) : String :=
  "'" ++ escaper s ++ "'"

end Literal

end GuardedSql
