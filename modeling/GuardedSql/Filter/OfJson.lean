import GuardedSql.Error
import GuardedSql.Filter
import GuardedSql.Json.Printer
import GuardedSql.Token.OfData

/-!
# Filters from JSON

A filter is an object of keys, which may be marked texts.

- A scalar is a value that the key equals. A text may be marked.
- An array is a call: the operator, then operands, which are scalars or arrays of scalars.
- An object or an array under a key of digits is a choice, which has to be an object.

A choice is an object of keys too. An array lists alternatives: scalars, calls, and objects, which are
filters. A scalar goes to the part joined with `AND`.
-/

namespace GuardedSql

/-- The token of a scalar. -/
def Token.ofJson : Json → Except Error Token
  | .null => .ok .null
  | .bool b => .ok (.ofBool b)
  | .int n => .ok (.value (toString n))
  | .float x => .ok (.value (Json.float x).print)
  | .string s => .ok (.value s)
  | json => .error (.invalid (.notScalar json.print))

def Operand.ofJson : Json → Except Error Operand
  | .array items => return .list (← items.mapM Token.ofJson)
  | json => return .one (← Token.ofJson json)

/-- The call of an array's items; errors name `key`. -/
def Call.ofJson (key : String) : List Json → Except Error Call
  | [] => .error (.invalid (.noOperator key))
  | .string operator :: rest => return ⟨operator, ← rest.mapM Operand.ofJson⟩
  | _ :: _ => .error (.invalid (.operatorNotText key))

/-- A key of digits alone, which holds the place of a choice. -/
def isPlace (key : String) : Bool :=
  key ≠ "" && key.toList.all Char.isDigit

mutual

def Filter.ofMembers : List (String × Json) → Except Error Filter
  | [] => .ok []
  | (key, json) :: rest => do
    let entry ← Entry.ofMember key json
    let entries ← Filter.ofMembers rest
    return entry :: entries
termination_by structural members => members

def Entry.ofMember (key : String) : Json → Except Error Entry
  | .object members =>
    if isPlace key then return ⟨.and, .blank, .choice (← Choice.ofMembers members)⟩
    else .error (.invalid (.nestedObject key))
  | .array items =>
    if isPlace key then .error (.invalid .choiceNotObject)
    else return ⟨.and, .column key, .call (← Call.ofJson key items)⟩
  | scalar => return ⟨.and, .column key, .equals (← Token.ofJson scalar)⟩
termination_by structural json => json

def Choice.ofMembers : List (String × Json) → Except Error Choice
  | [] => .ok []
  | (key, json) :: rest => do
    let branch ← Branch.ofMember key json
    let branches ← Choice.ofMembers rest
    return branch :: branches
termination_by structural members => members

def Branch.ofMember (key : String) : Json → Except Error Branch
  | .array items => return .any (.column key) (← Disjunct.ofItems items)
  | .object _ => .error (.invalid (.nestedChoiceObject key))
  | scalar => return .all (.column key) (.equals (← Token.ofJson scalar))
termination_by structural json => json

def Disjunct.ofItems : List Json → Except Error (List Disjunct)
  | [] => .ok []
  | item :: rest => do
    let disjunct ← Disjunct.ofJson item
    let disjuncts ← Disjunct.ofItems rest
    return disjunct :: disjuncts
termination_by structural items => items

def Disjunct.ofJson : Json → Except Error Disjunct
  | .object members => return .filter (← Filter.ofMembers members)
  | .array items => return .call (← Call.ofJson "OR item" items)
  | scalar => return .equals (← Token.ofJson scalar)
termination_by structural json => json

end

def Filter.ofJson : Json → Except Error Filter
  | .object members => Filter.ofMembers members
  | _ => .error (.invalid .filterNotObject)

def Choice.ofJson : Json → Except Error Choice
  | .object members => Choice.ofMembers members
  | _ => .error (.invalid .choiceNotObject)

end GuardedSql
