/-!
# Errors

What can go wrong, as causes: `Error.message` has the wording. The errors up to `suspicious`, and
`invalid`, are raised before a connection is asked for anything.
-/

namespace GuardedSql

/-- Why an input cannot be used. -/
inductive Invalid where
  | emptyIdentifier
  /-- a dotted name with nothing between two dots -/
  | emptySegment (name : String)
  | emptyRaw
  | emptyTable
  | insertWithoutColumn
  | insertWidth (row got expected : Nat)
  | insertMissing (row : Nat) (column : String)
  | updateWithoutColumn
  | filterNotObject
  | choiceNotObject
  | nestedObject (key : String)
  | nestedChoiceObject (key : String)
  | noOperator (key : String)
  | operatorNotText (key : String)
  /-- a value where only a scalar can stand, by its JSON text -/
  | notScalar (json : String)
  | insertRowNotObject
  | batchTooLong (statements limit : Nat)
  /-- any other reason, as a connection or a caller words it -/
  | other (reason : String)
deriving DecidableEq, Repr

namespace Invalid

def message : Invalid → String
  | .emptyIdentifier => "Identifier cannot be empty"
  | .emptySegment name => "Empty identifier segment in '" ++ name ++ "'"
  | .emptyRaw => "Raw SQL fragment is empty"
  | .emptyTable => "Table name cannot be empty"
  | .insertWithoutColumn => "INSERT requires at least one column"
  | .insertWidth row got expected =>
    "Insert row " ++ toString row ++ " has " ++ toString got ++ " column(s), expected " ++ toString expected
  | .insertMissing row column => "Insert row " ++ toString row ++ " is missing column '" ++ column ++ "'"
  | .updateWithoutColumn => "UPDATE requires at least one SET"
  | .filterNotObject => "Where spec must be a JSON object"
  | .choiceNotObject => "OR group must be a JSON object"
  | .nestedObject key => "Nested object under column '" ++ key ++ "' is not a predicate"
  | .nestedChoiceObject key => "Nested object under OR column '" ++ key ++ "' must be wrapped in a list"
  | .noOperator key => "Empty operator list for '" ++ key ++ "'"
  | .operatorNotText key => "Operator for '" ++ key ++ "' must be a string"
  | .notScalar json => "Expected a scalar value, got " ++ json
  | .insertRowNotObject => "Insert row must be a JSON object"
  | .batchTooLong statements limit =>
    "Batch of " ++ toString statements ++ " statements exceeds the limit of " ++ toString limit ++ " result sets"
  | .other reason => reason

end Invalid

/-- Why a column cannot be read as a type. -/
inductive DecodeFault where
  | columnNotFound
  | mismatch (expected : String)
  | other (reason : String)
deriving DecidableEq, Repr

def DecodeFault.message : DecodeFault → String
  | .columnNotFound => "column not found"
  | .mismatch expected => "expected " ++ expected
  | .other reason => reason

inductive Error where
  /-- no operator has this keyword -/
  | unknownOperator (keyword : String)
  | operandCount (operator expected : String) (got : Nat)
  /-- a batch has labels, but not one for each statement -/
  | labelCount (labels statements : Nat)
  /-- a template has more or fewer places than arguments -/
  | argumentCount (expected got : Nat)
  /-- a text that is written without escaping holds a quote that it must not hold -/
  | suspicious (fragment : String)
  | query (sql reason : String)
  | connection (reason : String)
  | transaction (reason : String)
  | unreadable (column : String) (fault : DecodeFault)
  | invalid (reason : Invalid)
deriving DecidableEq, Repr

namespace Error

def message : Error → String
  | .unknownOperator keyword => "Unsupported operator: " ++ keyword
  | .operandCount operator expected got =>
    "Operator " ++ operator ++ " expects " ++ expected ++ " operand(s), got " ++ toString got
  | .labelCount labels statements =>
    "Label count mismatch: " ++ toString labels ++ " label(s) for " ++ toString statements ++ " statement(s)"
  | .argumentCount expected got =>
    "Argument count mismatch: template has " ++ toString expected ++ " placeholder(s), got " ++ toString got ++
      " argument(s)"
  | .suspicious fragment => "Injection suspected in fragment: " ++ fragment
  | .query sql reason => "Query error: " ++ reason ++ " (sql: " ++ sql ++ ")"
  | .connection reason => "Connection error: " ++ reason
  | .transaction reason => "Transaction error: " ++ reason
  | .unreadable column fault => "Decode error on column '" ++ column ++ "': " ++ fault.message
  | .invalid reason => "Validation error: " ++ reason.message

/-- Raised before a connection is asked for anything. -/
def isRefusal : Error → Bool
  | .unknownOperator _ | .operandCount .. | .labelCount .. | .argumentCount .. | .suspicious _
  | .invalid _ => true
  | _ => false

def isSuspicion : Error → Bool
  | .suspicious _ => true
  | _ => false

/-- Reported by a connection. -/
def isReported : Error → Bool
  | .query .. | .connection _ => true
  | _ => false

end Error

end GuardedSql
