import GuardedSql.Clause
import GuardedSql.Quote.Emit

/-!
# Compiling filters

A filter gives one node for each entry, in order; nodes without text are left out. The nodes of a choice
are its alternatives, joined with `OR`, and then the conditions of its other branches, joined to each other
with `AND`: `AND` binds tighter, so the latter form one more alternative.

Texts are checked in the order in which they stand in the filter, and the first error is the answer.
-/

namespace GuardedSql

variable (escaper : Escaper)

/-- The text of a key; a blank key has none. -/
def Token.emitKey (key : Token) : Except Error (Option String) :=
  if key.isBlank then .ok none else some <$> key.emit escaper

/-- The text of an operand; `NULL` has none. -/
def Token.emitOperand (value : Token) : Except Error (Option String) :=
  if value.isNull then .ok none else some <$> value.emit escaper

/-- `key = value`. Of a blank side only the other one is left. -/
def Token.equate (key value : Token) : Except Error Node := do
  let lhs ← key.emitKey escaper
  if value.isBlank then return .fragment (lhs.getD "")
  else match lhs with
    | some lhs => return .comparison ⟨some lhs, .eq, [← value.emitOperand escaper]⟩
    | none => return .fragment (← value.emit escaper)

def Call.compile (key : Token) (c : Call) : Except Error Comparison := do
  let operator ← Operator.ofKeyword c.operator
  operator.checkOperands c.tokens.length
  let lhs ← key.emitKey escaper
  let operands ← c.tokens.mapM (·.emitOperand escaper)
  return ⟨lhs, operator, operands⟩

/-- The text with each place taken by the next argument. -/
def Template.fill : List Char → List Token → Except Error (List Char)
  | [], _ => .ok []
  | '?' :: cs, arg :: args => do
    let text ← arg.emit escaper
    return text.toList ++ (← fill cs args)
  | '?' :: cs, [] => fill cs []
  | c :: cs, args => return c :: (← fill cs args)

/-- SQL with as many places as arguments, written with the arguments in their places. -/
def Template.compile (sql : String) (args : List Token) : Except Error String := do
  let places := sql.toList.count '?'
  if places ≠ args.length then .error (.argumentCount places args.length)
  else
    Guard.checkRaw sql
    return String.ofList (← Template.fill escaper sql.toList args)

/-- The nodes of a choice, empty ones left out: alternatives, then the part joined with `AND`. -/
def Choice.join (disjuncts conjuncts : List Node) : List Link :=
  let present (nodes : List Node) := nodes.filter fun node => !node.isEmpty
  (present disjuncts).map (⟨.or, ·⟩) ++
    match present conjuncts with
    | [] => []
    | first :: rest => ⟨.or, first⟩ :: rest.map (⟨.and, ·⟩)

mutual

def Filter.compile : List Entry → Except Error (List Link)
  | [] => .ok []
  | ⟨join, key, condition⟩ :: rest => do
    let node ← Condition.compile key condition
    let links ← Filter.compile rest
    return node.consUnlessEmpty join links
termination_by structural entries => entries

def Condition.compile (key : Token) : Condition → Except Error Node
  | .equals value => key.equate escaper value
  | .call c => return .comparison (← c.compile escaper key)
  | .choice branches => do
    let (disjuncts, conjuncts) ← Branch.compileAll branches
    return .group (Choice.join disjuncts conjuncts)
  | .template sql args => do
    let sql ← Template.compile escaper sql args
    match ← key.emitKey escaper with
    | some lhs => return .fragment (lhs ++ " " ++ sql)
    | none => return .fragment sql
termination_by structural condition => condition

/-- The nodes of the alternatives and of the other branches. -/
def Branch.compileAll : List Branch → Except Error (List Node × List Node)
  | [] => .ok ([], [])
  | .any key items :: rest => do
    let nodes ← Disjunct.compileAll key items
    let (disjuncts, conjuncts) ← Branch.compileAll rest
    return (nodes ++ disjuncts, conjuncts)
  | .all key condition :: rest => do
    let node ← Condition.compile key condition
    let (disjuncts, conjuncts) ← Branch.compileAll rest
    return (disjuncts, node :: conjuncts)
termination_by structural branches => branches

def Disjunct.compileAll (key : Token) : List Disjunct → Except Error (List Node)
  | [] => .ok []
  | item :: rest => do
    let node ← Disjunct.compile key item
    let nodes ← Disjunct.compileAll key rest
    return node :: nodes
termination_by structural items => items

def Disjunct.compile (key : Token) : Disjunct → Except Error Node
  | .equals value => key.equate escaper value
  | .call c => return .comparison (← c.compile escaper key)
  | .filter entries => return .group (← Filter.compile entries)
termination_by structural d => d

end

def Choice.compile (branches : Choice) : Except Error (List Link) := do
  let (disjuncts, conjuncts) ← Branch.compileAll escaper branches
  return Choice.join disjuncts conjuncts

end GuardedSql
