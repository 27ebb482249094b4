import GuardedSql.Token

/-!
# Filters

A filter is a list of entries, each a condition on a key, joined to the entries before it with `AND` or
`OR`. A condition may be a choice: branches that each offer alternatives for a key, which are joined with
`OR`, or hold a condition that goes to the part joined with `AND`. An alternative may be a filter again.
Filters and choices are built from left to right, by appending.
-/

namespace GuardedSql

/-- How an entry is joined to the entries before it. -/
inductive Join where
  | and
  | or
deriving DecidableEq, Repr

def Join.keyword : Join → String
  | .and => "AND"
  | .or => "OR"

/-- One operand, or a list that counts as its members. -/
inductive Operand where
  | one (value : Token)
  | list (values : List Token)
deriving DecidableEq, Repr

def Operand.tokens : Operand → List Token
  | .one value => [value]
  | .list values => values

/-- An operator by its keyword, with operands. -/
structure Call where
  operator : String
  operands : List Operand
deriving DecidableEq, Repr

/-- The operands of a call, lists opened. -/
def Call.tokens (c : Call) : List Token :=
  c.operands.flatMap Operand.tokens

mutual

/-- What is asked of a key. -/
inductive Condition where
  /-- the key equals the value -/
  | equals (value : Token)
  | call (call : Call)
  | choice (branches : List Branch)
  /-- SQL with places `?` for the arguments -/
  | template (sql : String) (args : List Token)

structure Entry where
  join : Join
  key : Token
  condition : Condition

/-- A key of a choice. -/
inductive Branch where
  | any (key : Token) (disjuncts : List Disjunct)
  | all (key : Token) (condition : Condition)

/-- An alternative for a key. -/
inductive Disjunct where
  | equals (value : Token)
  | call (call : Call)
  | filter (entries : List Entry)

end

abbrev Filter := List Entry

abbrev Choice := List Branch

namespace Filter

/-- The filter with one more entry. -/
def add (f : Filter) (join : Join) (key : Token) (condition : Condition) : Filter :=
  f ++ [⟨join, key, condition⟩]

/-- `AND column = value`, the column a marked text. -/
def eq (f : Filter) (column : String) (value : Token) : Filter :=
  f.add .and (.column column) (.equals value)

/-- `OR column = value`. -/
def orEq (f : Filter) (column : String) (value : Token) : Filter :=
  f.add .or (.column column) (.equals value)

def call (f : Filter) (column operator : String) (operands : List Operand) : Filter :=
  f.add .and (.column column) (.call ⟨operator, operands⟩)

/-- `AND column operator value`. -/
def compare (f : Filter) (column operator : String) (value : Token) : Filter :=
  f.call column operator [.one value]

def oneOf (f : Filter) (column : String) (values : List Token) : Filter :=
  f.call column "IN" [.list values]

def noneOf (f : Filter) (column : String) (values : List Token) : Filter :=
  f.call column "NOT IN" [.list values]

def between (f : Filter) (column : String) (low high : Token) : Filter :=
  f.call column "BETWEEN" [.one low, .one high]

def notBetween (f : Filter) (column : String) (low high : Token) : Filter :=
  f.call column "NOT BETWEEN" [.one low, .one high]

/-- `AND` the choice. -/
def choose (f : Filter) (c : Choice) : Filter :=
  f.add .and .blank (.choice c)

/-- `OR` the choice. -/
def orChoose (f : Filter) (c : Choice) : Filter :=
  f.add .or .blank (.choice c)

/-- `AND` the SQL, an argument in each of its places. -/
def template (f : Filter) (sql : String) (args : List Token) : Filter :=
  f.add .and .blank (.template sql args)

/-- `AND` the SQL as it is. -/
def raw (f : Filter) (sql : String) : Filter :=
  f.add .and .blank (.equals (.raw sql))

end Filter

namespace Choice

def any (c : Choice) (column : String) (values : List Token) : Choice :=
  c ++ [.any (.column column) (values.map .equals)]

def anyOf (c : Choice) (column : String) (disjuncts : List Disjunct) : Choice :=
  c ++ [.any (.column column) disjuncts]

/-- A value for the part joined with `AND`. -/
def all (c : Choice) (column : String) (value : Token) : Choice :=
  c ++ [.all (.column column) (.equals value)]

end Choice

end GuardedSql
