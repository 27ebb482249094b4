import GuardedSql.Filter
import GuardedSql.Operator

/-!
# Clauses

A filter compiles to a tree of comparisons, groups and fragments whose texts are ready to be written. The
tree is written without a further check.
-/

namespace GuardedSql

/-- A comparison with its texts. A blank key has no text; `NULL` operands have none either, as some
operators are written differently for them. -/
structure Comparison where
  lhs : Option String
  operator : Operator
  operands : List (Option String)
deriving DecidableEq, Repr

namespace Comparison

variable (c : Comparison)

/-- The key and a space, or nothing. -/
def lead : String :=
  match c.lhs with
  | some lhs => lhs ++ " "
  | none => ""

def operandText (operand : Option String) : String :=
  operand.getD "NULL"

/-- The text of the operand at `i`, empty if there is none. -/
def operandAt (i : Nat) : String :=
  match c.operands[i]? with
  | some operand => operandText operand
  | none => ""

/-- The comparison with `NULL`. -/
def writeNull (keyword : String) : String :=
  c.lead ++ keyword

/-- The comparison with one operand. -/
def writeOne : String :=
  let operand := c.operandAt 0
  c.lead ++ c.operator.keyword ++ (if operand.isEmpty then "" else " " ++ operand)

/-- The comparison with two bounds. -/
def writeBounds : String :=
  c.lead ++ c.operator.keyword ++ " " ++ c.operandAt 0 ++ " AND " ++ c.operandAt 1

/-- The comparison with a list; `constant` if the list is empty. -/
def writeList (constant : String) : String :=
  if c.operands.isEmpty then constant
  else c.lead ++ c.operator.keyword ++ " (" ++ ",".intercalate (c.operands.map operandText) ++ ")"

def write : String :=
  match c.operator with
  | .oneOf => c.writeList "1=0"
  | .noneOf => c.writeList "1=1"
  | .between | .notBetween => c.writeBounds
  | .eq => if c.operands.head? = some none then c.writeNull "IS NULL" else c.writeOne
  | .ne => if c.operands.head? = some none then c.writeNull "IS NOT NULL" else c.writeOne
  | .lt | .le | .gt | .ge => c.writeOne

end Comparison

mutual

inductive Node where
  | comparison (c : Comparison)
  /-- in parentheses when written -/
  | group (links : List Link)
  /-- SQL that is ready -/
  | fragment (sql : String)

/-- A node with the join to the nodes before it. -/
structure Link where
  join : Join
  node : Node

end

namespace Node

/-- A node that would leave no text. -/
def isEmpty : Node → Bool
  | .comparison _ => false
  | .group links => links.isEmpty
  | .fragment sql => sql.isEmpty

/-- The links with a node in front, unless it is empty. -/
def consUnlessEmpty (join : Join) (node : Node) (links : List Link) : List Link :=
  if node.isEmpty then links else ⟨join, node⟩ :: links

end Node

mutual

def Node.write : Node → String
  | .comparison c => c.write
  | .group links => "(" ++ Link.writeAll links ++ ")"
  | .fragment sql => sql

/-- The nodes, with their joins between them. -/
def Link.writeAll : List Link → String
  | [] => ""
  | ⟨_, node⟩ :: rest => node.write ++ Link.writeRest rest

/-- The nodes, each after its join. -/
def Link.writeRest : List Link → String
  | [] => ""
  | ⟨join, node⟩ :: rest => " " ++ join.keyword ++ " " ++ node.write ++ Link.writeRest rest

end

/-- What a filter compiles to. A voided clause stands for a statement that must not run. -/
inductive Clause where
  | of (links : List Link)
  | voided

namespace Clause

def links : Clause → List Link
  | .of links => links
  | .voided => []

def isVoided : Clause → Bool
  | .of _ => false
  | .voided => true

def isEmpty (c : Clause) : Bool :=
  c.links.isEmpty

def write (c : Clause) : String :=
  Link.writeAll c.links

/-- The clause in parentheses, nothing if it is empty. -/
def writeGroup (c : Clause) : String :=
  if c.isEmpty then "" else "(" ++ c.write ++ ")"

/-- The clause after `WHERE`, nothing if it is empty. -/
def writeWhere (c : Clause) : String :=
  if c.isEmpty then "" else "WHERE " ++ c.write

end Clause

end GuardedSql
