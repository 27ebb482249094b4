import GuardedSql.Token
import GuardedSql.Quote.Identifier
import GuardedSql.Quote.Literal

/-!
# Writing tokens

What a token contributes to the text of a statement. A blank token contributes nothing; what stands
around it is left to the statement.
-/

namespace GuardedSql.Token

/-- Raw SQL is written as it is, if there is some and it leaves no literal open. -/
def emitRaw (sql : String) : Except Error String :=
  if Text.isBlank sql then .error (.invalid .emptyRaw)
  else do
    Guard.checkRaw sql
    return sql

def emit (escaper : Escaper) : Token → Except Error String
  | .null => .ok "NULL"
  | .of .column name | .of .reference name => Identifier.quote name
  | .of .value text | .of .literal text => .ok (Literal.quote escaper text)
  | .of .raw sql => emitRaw sql
  | .of .blank _ => .ok ""

end GuardedSql.Token
