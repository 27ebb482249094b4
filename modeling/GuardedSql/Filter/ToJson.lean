import GuardedSql.Filter
import GuardedSql.Json.Basic
import GuardedSql.Keyed

/-!
# Filters to JSON

The form of a filter in JSON that leaves nothing to its place: a key always has the mark of its role, a value
has one unless it is data. A choice stands under its place among the entries, in digits. A template has no
form of its own, and how entries are joined is not kept.
-/

namespace GuardedSql

/-- The mark of a role. A column, which is a reference in the place of a value, has that of a reference; data
has none. -/
def Role.mark? : Role → Option Mark
  | .column | .reference => some .reference
  | .raw => some .raw
  | .literal => some .literal
  | .blank => some .blank
  | .value => none

namespace Token

/-- The text of a token with the mark of its role behind it. -/
def marked (t : Token) : String :=
  match t.role.mark? with
  | some m => String.ofList (t.text.toList ++ ['|', m.letter])
  | none => t.text

def toJson : Token → Json
  | .null => .null
  | .of role text => .string (marked (.of role text))

end Token

def Operand.toJson : Operand → Json
  | .one value => value.toJson
  | .list values => .array (values.map Token.toJson)

/-- The operator, then its operands. -/
def Call.toItems (c : Call) : List Json :=
  .string c.operator :: c.operands.map Operand.toJson

def Call.toJson (c : Call) : Json :=
  .array c.toItems

/-- An object into which the members are put one after the other. -/
def Json.ofMembers (members : List (String × Json)) : Json :=
  .object (Keyed.ofList members).entries

/-- The key under which a condition stands, as the entry in this place. -/
def Condition.keyAt (place : Nat) (key : Token) : Condition → String
  | .choice _ => toString place
  | .equals _ | .call _ | .template _ _ => key.marked

mutual

/-- The members of a filter whose first entry stands in this place. -/
def Filter.toMembers (place : Nat) : List Entry → List (String × Json)
  | [] => []
  | ⟨_, key, condition⟩ :: rest =>
    (condition.keyAt place key, Condition.toJson condition) :: Filter.toMembers (place + 1) rest
termination_by structural entries => entries

def Condition.toJson : Condition → Json
  | .equals value => value.toJson
  | .call c => c.toJson
  | .choice branches => .ofMembers (Choice.toMembers branches)
  | .template _ _ => .null
termination_by structural condition => condition

def Choice.toMembers : List Branch → List (String × Json)
  | [] => []
  | .any key disjuncts :: rest => (key.marked, .array (Disjunct.toItems disjuncts)) :: Choice.toMembers rest
  | .all key condition :: rest => (key.marked, Condition.toJson condition) :: Choice.toMembers rest
termination_by structural branches => branches

def Disjunct.toItems : List Disjunct → List Json
  | [] => []
  | disjunct :: rest => Disjunct.toJson disjunct :: Disjunct.toItems rest
termination_by structural disjuncts => disjuncts

def Disjunct.toJson : Disjunct → Json
  | .equals value => value.toJson
  | .call c => c.toJson
  | .filter entries => .ofMembers (Filter.toMembers 0 entries)
termination_by structural disjunct => disjunct

end

def Filter.toJson (f : Filter) : Json :=
  .ofMembers (Filter.toMembers 0 f)

def Choice.toJson (c : Choice) : Json :=
  .ofMembers (Choice.toMembers c)

end GuardedSql
