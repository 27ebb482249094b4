import GuardedSql.Json.Basic
import GuardedSql.Decimal.Layout

/-!
# Writing JSON

The compact form: no spaces, members in order. A string escapes the quote, the backslash and the
characters below the space, and nothing else.
-/

namespace GuardedSql.Json

/-- Two lower case hexadecimal digits. -/
def hexByte (n : Nat) : String :=
  String.ofList [Nat.digitChar (n / 16 % 16), Nat.digitChar (n % 16)]

/-- A character as it stands between the quotes of a string. -/
def escapeChar (c : Char) : String :=
  match c with
  | '"' => "\\\""
  | '\\' => "\\\\"
  | '\n' => "\\n"
  | '\r' => "\\r"
  | '\t' => "\\t"
  | '\x08' => "\\b"
  | '\x0c' => "\\f"
  | c => if c.toNat < 0x20 then "\\u00" ++ hexByte c.toNat else String.singleton c

def quoteString (s : String) : String :=
  "\"" ++ String.join (s.toList.map escapeChar) ++ "\""

mutual

/-- The compact text of a value. -/
def print : Json → String
  | .null => "null"
  | .bool true => "true"
  | .bool false => "false"
  | .int n => toString n
  | .float x => Layout.json.write .double x.value
  | .string s => quoteString s
  | .array items => "[" ++ ",".intercalate (printItems items) ++ "]"
  | .object members => "\x7b" ++ ",".intercalate (printMembers members) ++ "\x7d"
termination_by structural json => json

def printItems : List Json → List String
  | [] => []
  | item :: rest => item.print :: printItems rest
termination_by structural items => items

def printMembers : List (String × Json) → List String
  | [] => []
  | (key, value) :: rest => (quoteString key ++ ":" ++ value.print) :: printMembers rest
termination_by structural members => members

end

end GuardedSql.Json
