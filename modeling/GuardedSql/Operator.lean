import GuardedSql.Error
import GuardedSql.Text.Space

/-!
# Operators

The comparison operators, their keywords and the number of operands they take.

- `ofKeyword?_keyword`: an operator is read from its own keyword.
-/

namespace GuardedSql

inductive Operator where
  | eq
  | ne
  | lt
  | le
  | gt
  | ge
  | oneOf
  | noneOf
  | between
  | notBetween
deriving DecidableEq, Repr

/-- How many operands an operator takes. -/
inductive Arity where
  | one
  | two
  | any
deriving DecidableEq, Repr

namespace Arity

def admits : Arity → Nat → Bool
  | .one, n => n = 1
  | .two, n => n = 2
  | .any, _ => true

def text : Arity → String
  | .one => "1"
  | .two => "2"
  | .any => "any"

end Arity

namespace Operator

def all : List Operator :=
  [.eq, .ne, .lt, .le, .gt, .ge, .oneOf, .noneOf, .between, .notBetween]

def keyword : Operator → String
  | .eq => "="
  | .ne => "!="
  | .lt => "<"
  | .le => "<="
  | .gt => ">"
  | .ge => ">="
  | .oneOf => "IN"
  | .noneOf => "NOT IN"
  | .between => "BETWEEN"
  | .notBetween => "NOT BETWEEN"

/-- The capital of a letter. Of the characters outside ASCII, the dotless i alone has a capital that
occurs in a keyword. -/
def capital (c : Char) : Char :=
  if c = 'ı' then 'I' else c.toUpper

/-- The operator with these words. -/
def ofWords? : List (List Char) → Option Operator
  | [['=']] => some .eq
  | [['!', '=']] | [['<', '>']] => some .ne
  | [['<']] => some .lt
  | [['<', '=']] => some .le
  | [['>']] => some .gt
  | [['>', '=']] => some .ge
  | [['I', 'N']] => some .oneOf
  | [['N', 'O', 'T'], ['I', 'N']] => some .noneOf
  | [['B', 'E', 'T', 'W', 'E', 'E', 'N']] => some .between
  | [['N', 'O', 'T'], ['B', 'E', 'T', 'W', 'E', 'E', 'N']] => some .notBetween
  | _ => none

/-- The operator of a keyword in any spelling: capitals or not, with any spaces around its words. -/
def ofKeyword? (keyword : String) : Option Operator :=
  ofWords? ((Text.words keyword.toList).map (·.map capital))

theorem ofKeyword?_keyword (op : Operator) : ofKeyword? op.keyword = some op := by
  cases op <;> decide +kernel

def ofKeyword (keyword : String) : Except Error Operator :=
  match ofKeyword? keyword with
  | some op => .ok op
  | none => .error (.unknownOperator keyword)

def arity : Operator → Arity
  | .oneOf | .noneOf => .any
  | .between | .notBetween => .two
  | _ => .one

/-- Refuses a number of operands that the operator does not take. -/
def checkOperands (op : Operator) (got : Nat) : Except Error Unit :=
  if op.arity.admits got then .ok () else .error (.operandCount op.keyword op.arity.text got)

end Operator

end GuardedSql
