import GuardedSql.Statement.Command

/-!
# The tokens of a statement

Which tokens a filter or a statement writes, in which order, what is asked of every token of it, and what is
done to every token of it. The texts of templates, which are no tokens, are asked about on their own.
-/

namespace GuardedSql

def Operand.map (f : Token → Token) : Operand → Operand
  | .one value => .one (f value)
  | .list values => .list (values.map f)

def Call.map (f : Token → Token) (c : Call) : Call :=
  ⟨c.operator, c.operands.map (·.map f)⟩

@[simp] theorem Operand.tokens_map (f : Token → Token) (o : Operand) : (o.map f).tokens = o.tokens.map f := by
  cases o <;> rfl

@[simp] theorem Call.tokens_map (f : Token → Token) (c : Call) : (c.map f).tokens = c.tokens.map f := by
  simp [Call.tokens, Call.map, List.flatMap_map, List.map_flatMap]

mutual

/-- The filter with each of its tokens replaced. -/
def Filter.map (f : Token → Token) : List Entry → List Entry
  | [] => []
  | ⟨join, key, condition⟩ :: rest => ⟨join, f key, Condition.map f condition⟩ :: Filter.map f rest
termination_by structural entries => entries

def Condition.map (f : Token → Token) : Condition → Condition
  | .equals value => .equals (f value)
  | .call c => .call (c.map f)
  | .choice branches => .choice (Branch.mapAll f branches)
  | .template sql args => .template sql (args.map f)
termination_by structural condition => condition

def Branch.mapAll (f : Token → Token) : List Branch → List Branch
  | [] => []
  | .any key items :: rest => .any (f key) (Disjunct.mapAll f items) :: Branch.mapAll f rest
  | .all key condition :: rest => .all (f key) (Condition.map f condition) :: Branch.mapAll f rest
termination_by structural branches => branches

def Disjunct.mapAll (f : Token → Token) : List Disjunct → List Disjunct
  | [] => []
  | item :: rest => Disjunct.map f item :: Disjunct.mapAll f rest
termination_by structural items => items

def Disjunct.map (f : Token → Token) : Disjunct → Disjunct
  | .equals value => .equals (f value)
  | .call c => .call (c.map f)
  | .filter entries => .filter (Filter.map f entries)
termination_by structural d => d

end

/-- The tokens of a comparison. One that has a list without members is written as a constant. -/
def Call.written (key : Token) (c : Call) : List Token :=
  if c.tokens.isEmpty then [] else key :: c.tokens

mutual

/-- The tokens that a filter writes, in their order. -/
def Filter.tokens : List Entry → List Token
  | [] => []
  | ⟨_, key, condition⟩ :: rest => Condition.tokens key condition ++ Filter.tokens rest
termination_by structural entries => entries

def Condition.tokens (key : Token) : Condition → List Token
  | .equals value => [key, value]
  | .call c => c.written key
  | .choice branches => (Branch.tokensAll branches).1 ++ (Branch.tokensAll branches).2
  | .template _ args => key :: args
termination_by structural condition => condition

/-- The tokens of the alternatives and of the other branches. -/
def Branch.tokensAll : List Branch → List Token × List Token
  | [] => ([], [])
  | .any key items :: rest =>
    (Disjunct.tokensAll key items ++ (Branch.tokensAll rest).1, (Branch.tokensAll rest).2)
  | .all key condition :: rest =>
    ((Branch.tokensAll rest).1, Condition.tokens key condition ++ (Branch.tokensAll rest).2)
termination_by structural branches => branches

def Disjunct.tokensAll (key : Token) : List Disjunct → List Token
  | [] => []
  | item :: rest => Disjunct.tokens key item ++ Disjunct.tokensAll key rest
termination_by structural items => items

def Disjunct.tokens (key : Token) : Disjunct → List Token
  | .equals value => [key, value]
  | .call c => c.written key
  | .filter entries => Filter.tokens entries
termination_by structural d => d

end

def Select.tokens (q : Select) : List Token :=
  q.columns ++ q.table :: Filter.tokens q.filter ++ q.order.map Prod.fst

/-- The names of the columns, those of the first row. -/
def Insert.columns (q : Insert) : List String :=
  (q.rows.head?.getD []).map Prod.fst

def Insert.tokens (q : Insert) : List Token :=
  q.table :: q.columns.map Token.column ++
    q.rows.flatMap fun row => q.columns.filterMap fun column => row.lookup column

def Update.tokens (q : Update) : List Token :=
  q.table :: q.assignments.flatMap (fun a => [a.1, a.2]) ++ Filter.tokens q.filter

def Delete.tokens (q : Delete) : List Token :=
  q.table :: Filter.tokens q.filter

def Command.table : Command → Token
  | .select q => q.table
  | .insert q => q.table
  | .update q => q.table
  | .delete q => q.table

/-- The tokens that a statement writes, in their order. -/
def Command.tokens : Command → List Token
  | .select q => q.tokens
  | .insert q => q.tokens
  | .update q => q.tokens
  | .delete q => q.tokens

section

variable (p : Token → Bool) (template : String → Bool)

mutual

/-- Whether `p` holds of every token of a filter, and `template` of the text of every template. -/
def Filter.check : List Entry → Bool
  | [] => true
  | ⟨_, key, condition⟩ :: rest => p key && Condition.check condition && Filter.check rest
termination_by structural entries => entries

def Condition.check : Condition → Bool
  | .equals value => p value
  | .call c => c.tokens.all p
  | .choice branches => Branch.checkAll branches
  | .template sql args => template sql && args.all p
termination_by structural condition => condition

def Branch.checkAll : List Branch → Bool
  | [] => true
  | .any key items :: rest => p key && Disjunct.checkAll items && Branch.checkAll rest
  | .all key condition :: rest => p key && Condition.check condition && Branch.checkAll rest
termination_by structural branches => branches

def Disjunct.checkAll : List Disjunct → Bool
  | [] => true
  | item :: rest => Disjunct.check item && Disjunct.checkAll rest
termination_by structural items => items

def Disjunct.check : Disjunct → Bool
  | .equals value => p value
  | .call c => c.tokens.all p
  | .filter entries => Filter.check entries
termination_by structural d => d

end

def Select.check (q : Select) : Bool :=
  p q.table && q.columns.all p && Filter.check p template q.filter && q.order.all fun o => p o.1

/-- The names of an insertion's columns count as the tokens that they are read as. -/
def Insert.check (q : Insert) : Bool :=
  p q.table && q.rows.all fun row => row.all fun e => p (.column e.1) && p e.2

def Update.check (q : Update) : Bool :=
  p q.table && q.assignments.all (fun a => p a.1 && p a.2) && Filter.check p template q.filter

def Delete.check (q : Delete) : Bool :=
  p q.table && Filter.check p template q.filter

/-- Whether `p` holds of every token of a statement, and `template` of the text of every template. -/
def Command.check : Command → Bool
  | .select q => q.check p template
  | .insert q => q.check p
  | .update q => q.check p template
  | .delete q => q.check p template

end

def Select.map (f : Token → Token) (q : Select) : Select :=
  { q with
    table := f q.table
    columns := q.columns.map f
    filter := Filter.map f q.filter
    order := q.order.map fun o => (f o.1, o.2) }

def Update.map (f : Token → Token) (q : Update) : Update :=
  { q with
    table := f q.table
    assignments := q.assignments.map fun a => (f a.1, f a.2)
    filter := Filter.map f q.filter }

def Delete.map (f : Token → Token) (q : Delete) : Delete :=
  { q with table := f q.table, filter := Filter.map f q.filter }

end GuardedSql
