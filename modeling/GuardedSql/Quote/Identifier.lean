import GuardedSql.Quote.Guard
import GuardedSql.Text.Space

/-!
# Identifiers

A name is written in backticks, each of its dotted segments on its own: `users.id` gives
`` `users`.`id` ``. Backticks inside a segment are doubled. A star is left bare, and a segment that comes in
backticks is left as it is.
-/

namespace GuardedSql.Identifier

/-- A segment that begins and ends with a backtick of its own. -/
def isQuoted (segment : List Char) : Bool :=
  2 ≤ segment.length && segment.head? = some '`' && segment.getLast? = some '`'

def escapeChar (c : Char) : List Char :=
  if c = '`' then ['`', '`'] else [c]

/-- A segment without the spaces at its ends, as it is written. -/
def quoteSegment (segment : List Char) : List Char :=
  if segment = ['*'] ∨ isQuoted segment then segment
  else '`' :: segment.flatMap escapeChar ++ ['`']

/-- The segments of a name, without the spaces at their ends. -/
def segments (name : String) : List (List Char) :=
  (Text.split (· = '.') name.toList).map Text.trim

def quote (name : String) : Except Error String :=
  if name.isEmpty then .error (.invalid .emptyIdentifier)
  else if Guard.hasQuote name then .error (.suspicious name)
  else if [] ∈ segments name then .error (.invalid (.emptySegment name))
  else .ok (".".intercalate ((segments name).map fun s => String.ofList (quoteSegment s)))

end GuardedSql.Identifier
