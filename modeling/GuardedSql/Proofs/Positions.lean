import GuardedSql.Proofs.QuotedName
import GuardedSql.Proofs.Suspicion
import GuardedSql.Proofs.Traversal

/-!
# The positions of a statement

A statement that is built has positions for texts: the columns and values of an insertion, both sides of an
assignment, the columns of an order, and the operands of comparisons. Each holds the text of one token, and only
blank tokens have no text. A value against a key gets a position only if neither of them is blank. In the other
places there is a position whatever the token is, and a blank one leaves it empty.

- `Outline`: a statement as it is laid out, how it is written, and its positions.
- `Command.slots`: the tokens that have a position.
- `Command.gives_outline`: a statement that is built is laid out with the texts of these tokens.
- `Command.filled_iff`: no position is empty if and only if none of these tokens is blank.
-/

namespace GuardedSql

/-! ## Outlines -/

/-- The operands of a comparison that are written, by how many its operator takes. -/
def Comparison.positions (c : Comparison) : List String :=
  match c.operator.arity with
  | .one => [c.operandAt 0]
  | .two => [c.operandAt 0, c.operandAt 1]
  | .any => c.operands.map operandText

mutual

/-- The operands of all comparisons in a node. -/
def Node.positions : Node → List String
  | .comparison c => c.positions
  | .group links => Link.positionsAll links
  | .fragment _ => []
termination_by structural node => node

def Link.positionsAll : List Link → List String
  | [] => []
  | ⟨_, node⟩ :: rest => node.positions ++ Link.positionsAll rest
termination_by structural links => links

end

/-- A statement, taken apart into its texts. -/
inductive Outline where
  | select (columns : List String) (table : String) (clause : Clause) (order : List (String × Direction))
    (limit offset : Option Nat)
  | insert (table : String) (columns : List String) (tuples : List (List String))
  | update (table : String) (assignments : List (String × String)) (clause : Clause)
  | delete (table : String) (clause : Clause) (allowAll : Bool)

namespace Outline

def writeKey : String × Direction → String
  | (column, direction) => column ++ " " ++ direction.keyword

def writeOrder (order : List (String × Direction)) : String :=
  if order.isEmpty then "" else " ORDER BY " ++ ", ".intercalate (order.map writeKey)

def writeAssignment : String × String → String
  | (column, value) => column ++ " = " ++ value

def writeTuple (values : List String) : String :=
  "(" ++ ", ".intercalate values ++ ")"

def write : Outline → String
  | .select columns table clause order limit offset =>
    "SELECT " ++ (if columns.isEmpty then "*" else ", ".intercalate columns) ++ " FROM " ++ table ++
      clause.writeTail ++ writeOrder order ++ Select.window limit offset
  | .insert table columns tuples =>
    "INSERT INTO " ++ table ++ " (" ++ ", ".intercalate columns ++ ") VALUES " ++
      ", ".intercalate (tuples.map writeTuple)
  | .update table assignments clause =>
    "UPDATE " ++ table ++ " SET " ++ ", ".intercalate (assignments.map writeAssignment) ++ clause.writeTail
  | .delete table clause allowAll => "DELETE FROM " ++ table ++ Delete.tail allowAll clause

/-- The texts of its positions. -/
def positions : Outline → List String
  | .select _ _ clause order _ _ => Link.positionsAll clause.links ++ order.map Prod.fst
  | .insert _ columns tuples => columns ++ tuples.flatten
  | .update _ assignments clause => assignments.flatMap (fun a => [a.1, a.2]) ++ Link.positionsAll clause.links
  | .delete _ clause _ => Link.positionsAll clause.links

end Outline

/-! ## The tokens with a position -/

/-- A value that stands alone against a key has a position if neither is left out. -/
def Token.opposite (key value : Token) : List Token :=
  if key.isBlank || value.isBlank then [] else [value]

mutual

/-- The tokens of a filter that have a position, in the order in which they are written. -/
def Filter.slots : List Entry → List Token
  | [] => []
  | ⟨_, key, condition⟩ :: rest => Condition.slots key condition ++ Filter.slots rest
termination_by structural entries => entries

def Condition.slots (key : Token) : Condition → List Token
  | .equals value => key.opposite value
  | .call c => c.tokens
  | .choice branches => (Branch.slotsAll branches).1 ++ (Branch.slotsAll branches).2
  | .template _ _ => []
termination_by structural condition => condition

/-- The tokens of the alternatives and of the other branches. -/
def Branch.slotsAll : List Branch → List Token × List Token
  | [] => ([], [])
  | .any key items :: rest =>
    (Disjunct.slotsAll key items ++ (Branch.slotsAll rest).1, (Branch.slotsAll rest).2)
  | .all key condition :: rest =>
    ((Branch.slotsAll rest).1, Condition.slots key condition ++ (Branch.slotsAll rest).2)
termination_by structural branches => branches

def Disjunct.slotsAll (key : Token) : List Disjunct → List Token
  | [] => []
  | item :: rest => Disjunct.slots key item ++ Disjunct.slotsAll key rest
termination_by structural items => items

def Disjunct.slots (key : Token) : Disjunct → List Token
  | .equals value => key.opposite value
  | .call c => c.tokens
  | .filter entries => Filter.slots entries
termination_by structural d => d

end

/-- The tokens of a statement that have a position. -/
def Command.slots : Command → List Token
  | .select q => Filter.slots q.filter ++ q.order.map Prod.fst
  | .insert q =>
    q.columns.map Token.column ++ q.rows.flatMap fun row => q.columns.filterMap fun column => row.lookup column
  | .update q => q.assignments.flatMap (fun a => [a.1, a.2]) ++ Filter.slots q.filter
  | .delete q => Filter.slots q.filter

/-- Each position holds the text of the token that it is for. -/
def Filled (escaper : Escaper) (slots : List Token) (positions : List String) : Prop :=
  List.Forall₂ (fun t text => t.emit escaper = .ok text) slots positions

variable {escaper : Escaper}

/-! ## Texts of tokens -/

/-- Of all tokens only blank ones have no text. -/
theorem Token.emit_eq_empty_iff {t : Token} {text : String} (h : t.emit escaper = .ok text) :
    text = "" ↔ t.isBlank = true := by
  rcases t with ⟨role, s⟩ | _
  · have hquote : ∀ text, Literal.quote escaper text ≠ "" := fun text he => by
      have hlength := congrArg (List.length ∘ String.toList) he
      simp [Literal.quote] at hlength
    cases role with
    | column | reference => simp [Token.isBlank, Token.role, Identifier.quote_ne_empty h]
    | value | literal =>
      obtain rfl : Literal.quote escaper s = text := Except.ok.inj h
      simp [Token.isBlank, Token.role, hquote]
    | raw =>
      change Token.emitRaw s = .ok text at h
      unfold Token.emitRaw at h
      split at h
      · cases h
      · rename_i hs
        obtain ⟨_, -, h⟩ := bind_eq_ok_iff.1 h
        obtain rfl : s = text := Except.ok.inj h
        have hne : s ≠ "" := fun e => hs (by subst e; rfl)
        simp [Token.isBlank, Token.role, hne]
    | blank =>
      obtain rfl : "" = text := Except.ok.inj h
      simp [Token.isBlank, Token.role]
  · obtain rfl : "NULL" = text := Except.ok.inj h
    decide

namespace Filled

variable {slots slots' : List Token} {positions positions' : List String}

theorem append (h : Filled escaper slots positions) (h' : Filled escaper slots' positions') :
    Filled escaper (slots ++ slots') (positions ++ positions') :=
  List.rel_append h h'

/-- A position is empty just if the token for it is blank. -/
theorem forall_ne_iff (h : Filled escaper slots positions) :
    (∀ text ∈ positions, text ≠ "") ↔ ∀ t ∈ slots, t.isBlank = false := by
  induction h with
  | nil => simp
  | cons ht _ ih =>
    rw [List.forall_mem_cons, List.forall_mem_cons, ih, ne_eq, Token.emit_eq_empty_iff ht, Bool.not_eq_true]

theorem empty_mem (h : Filled escaper slots positions) (hblank : ∃ t ∈ slots, t.isBlank = true) :
    "" ∈ positions := by
  by_contra hmem
  have hne : ∀ text ∈ positions, text ≠ "" := fun text htext he => hmem (he ▸ htext)
  obtain ⟨t, ht, htrue⟩ := hblank
  have hfalse := h.forall_ne_iff.1 hne t ht
  simp [htrue] at hfalse

end Filled

/-- Something that is written from a part whose positions hold the texts of the tokens. -/
def LaidOut {π β : Type} (escaper : Escaper) (write : π → β) (positions : π → List String) (slots : List Token)
    (b : β) : Prop :=
  ∃ p, write p = b ∧ Filled escaper slots (positions p)

theorem gives_laidOut_mapM {α β π : Type} {f : α → Except Error β} {write : π → β}
    {positions : π → List String} {slots : α → List Token}
    (h : ∀ a, Gives (LaidOut escaper write positions (slots a)) (f a)) (as : List α) :
    Gives (LaidOut escaper (List.map write) (List.flatMap positions) (as.flatMap slots)) (as.mapM f) := by
  induction as with
  | nil => exact gives_ok ⟨[], rfl, .nil⟩
  | cons a as ih =>
    rw [List.mapM_cons]
    refine (h a).bind fun b ⟨p, hw, hp⟩ => ih.bind fun bs ⟨ps, hws, hps⟩ => gives_ok ⟨p :: ps, ?_, ?_⟩
    · rw [List.map_cons, hw, hws]
    · exact hp.append hps

theorem gives_emit (t : Token) : Gives (LaidOut escaper id ([·]) [t]) (t.emit escaper) :=
  fun text h => ⟨text, rfl, .cons h .nil⟩

/-! ## Comparisons -/

theorem Comparison.positions_of_admits {c : Comparison}
    (h : c.operator.arity.admits c.operands.length = true) : c.positions = c.operands.map operandText := by
  unfold Comparison.positions
  cases ha : c.operator.arity with
  | any => rfl
  | one =>
    have hn : c.operands.length = 1 := by simpa [ha, Arity.admits] using h
    obtain ⟨operand, ho⟩ := List.length_eq_one_iff.1 hn
    simp [Comparison.operandAt, ho]
  | two =>
    have hn : c.operands.length = 2 := by simpa [ha, Arity.admits] using h
    obtain ⟨low, high, ho⟩ := List.length_eq_two.1 hn
    simp [Comparison.operandAt, ho]

theorem gives_checkOperands (op : Operator) (n : Nat) :
    Gives (fun _ => op.arity.admits n = true) (op.checkOperands n) := by
  unfold Operator.checkOperands
  split
  · exact gives_ok ‹_›
  · exact fun _ h => nomatch h

theorem gives_operand (t : Token) :
    Gives (LaidOut escaper id (fun operand => [Comparison.operandText operand]) [t]) (t.emitOperand escaper) := by
  unfold Token.emitOperand
  split
  · rename_i hnull
    cases t with
    | of => cases hnull
    | null => exact gives_ok ⟨none, rfl, .cons rfl .nil⟩
  · exact (gives_emit t).map fun _ ⟨text, he, ht⟩ => ⟨some text, congrArg some he, ht⟩

theorem gives_operands (ts : List Token) :
    Gives (fun operands => Filled escaper ts (operands.map Comparison.operandText))
      (ts.mapM fun t => t.emitOperand escaper) := by
  intro operands h
  obtain ⟨parts, rfl, hparts⟩ := gives_laidOut_mapM gives_operand ts operands h
  rw [List.map_id, List.map_eq_flatMap]
  rwa [List.flatMap_singleton'] at hparts

theorem gives_filled_call (key : Token) (c : Call) :
    Gives (fun comparison => Filled escaper c.tokens comparison.positions) (c.compile escaper key) := by
  refine gives_bind fun operator => (gives_checkOperands operator _).bind fun _ hadmits =>
    gives_bind fun lhs => (gives_operands c.tokens).bind fun operands hoperands => gives_ok ?_
  have hlength : c.tokens.length = operands.length := by simpa using hoperands.length_eq
  rw [Comparison.positions_of_admits (by rwa [← hlength])]
  exact hoperands

theorem gives_emitKey (key : Token) :
    Gives (fun lhs => lhs.isNone = key.isBlank) (key.emitKey escaper) := by
  unfold Token.emitKey
  split
  · rename_i hblank
    exact gives_ok hblank.symm
  · rename_i hblank
    exact (gives_emit key).map fun _ _ => (Bool.eq_false_iff.2 hblank).symm

/-- Of a value against a key nothing is left open: if one of them is blank, the other stands alone. -/
theorem gives_filled_equate (key value : Token) :
    Gives (fun node => Filled escaper (key.opposite value) node.positions) (key.equate escaper value) := by
  refine (gives_emitKey key).bind fun lhs hlhs => ?_
  rw [Token.opposite, ← hlhs]
  cases value.isBlank with
  | true =>
    rw [Bool.or_true]
    exact gives_ok .nil
  | false =>
    rw [Bool.or_false]
    cases lhs with
    | none => exact gives_bind fun _ => gives_ok .nil
    | some lhs =>
      refine (gives_operand value).bind fun _ ⟨operand, he, ht⟩ => ?_
      subst he
      exact gives_ok ht

/-! ## Filters -/

theorem Node.positions_of_isEmpty {node : Node} (h : node.isEmpty = true) : node.positions = [] := by
  cases node with
  | comparison => cases h
  | group links =>
    obtain rfl : links = [] := List.isEmpty_iff.1 h
    rfl
  | fragment => rfl

theorem Link.positionsAll_consUnlessEmpty (join : Join) (node : Node) (links : List Link) :
    positionsAll (node.consUnlessEmpty join links) = node.positions ++ positionsAll links := by
  unfold Node.consUnlessEmpty
  split
  · rename_i hempty
    rw [Node.positions_of_isEmpty hempty, List.nil_append]
  · rw [positionsAll]

theorem Link.positionsAll_append (links links' : List Link) :
    positionsAll (links ++ links') = positionsAll links ++ positionsAll links' := by
  induction links with
  | nil => rfl
  | cons link links ih =>
    obtain ⟨join, node⟩ := link
    rw [List.cons_append, positionsAll, positionsAll, ih, List.append_assoc]

theorem Link.positionsAll_map (join : Join) (nodes : List Node) :
    positionsAll (nodes.map (⟨join, ·⟩)) = nodes.flatMap Node.positions := by
  induction nodes with
  | nil => rfl
  | cons node nodes ih => rw [List.map_cons, positionsAll, ih, List.flatMap_cons]

/-- Nodes that are left out have no positions. -/
theorem flatMap_positions_filter (nodes : List Node) :
    (nodes.filter fun node => !node.isEmpty).flatMap Node.positions = nodes.flatMap Node.positions := by
  induction nodes with
  | nil => rfl
  | cons node nodes ih =>
    cases hempty : node.isEmpty with
    | false => simp [hempty, ih]
    | true => simp [hempty, ih, Node.positions_of_isEmpty hempty]

theorem Link.positionsAll_join (disjuncts conjuncts : List Node) :
    positionsAll (Choice.join disjuncts conjuncts) =
      disjuncts.flatMap Node.positions ++ conjuncts.flatMap Node.positions := by
  unfold Choice.join
  dsimp only
  rw [positionsAll_append, positionsAll_map, flatMap_positions_filter, ← flatMap_positions_filter conjuncts]
  cases conjuncts.filter fun node => !node.isEmpty with
  | nil => rfl
  | cons first rest =>
    dsimp only
    rw [positionsAll, positionsAll_map, List.flatMap_cons]

mutual

/-- The positions of what a filter compiles to hold the texts of its tokens. The induction is on the filter. -/
theorem gives_filled : ∀ f : List Entry,
    Gives (fun links => Filled escaper (Filter.slots f) (Link.positionsAll links)) (Filter.compile escaper f)
  | [] => gives_ok .nil
  | ⟨join, key, condition⟩ :: rest =>
    (gives_filled_condition key condition).bind fun node hnode => (gives_filled rest).bind fun links hlinks =>
      gives_ok (by
        rw [Link.positionsAll_consUnlessEmpty]
        exact hnode.append hlinks)
termination_by structural f => f

theorem gives_filled_condition (key : Token) : ∀ c : Condition,
    Gives (fun node => Filled escaper (Condition.slots key c) node.positions) (c.compile escaper key)
  | .equals value => gives_filled_equate key value
  | .call c => (gives_filled_call key c).bind fun _ h => gives_ok h
  | .choice branches => (gives_filled_branches branches).bind fun _ ⟨hd, hc⟩ => gives_ok (by
      rw [Node.positions, Link.positionsAll_join]
      exact hd.append hc)
  | .template sql args => gives_bind fun _ => gives_bind fun lhs => by
      cases lhs <;> exact gives_ok .nil
termination_by structural c => c

theorem gives_filled_branches : ∀ bs : List Branch,
    Gives (fun nodes => Filled escaper (Branch.slotsAll bs).1 (nodes.1.flatMap Node.positions) ∧
        Filled escaper (Branch.slotsAll bs).2 (nodes.2.flatMap Node.positions))
      (Branch.compileAll escaper bs)
  | [] => gives_ok ⟨.nil, .nil⟩
  | .any key items :: rest =>
    (gives_filled_disjuncts key items).bind fun _ hn => (gives_filled_branches rest).bind fun _ ⟨hd, hc⟩ =>
      gives_ok ⟨by
        rw [List.flatMap_append]
        exact hn.append hd, hc⟩
  | .all key condition :: rest =>
    (gives_filled_condition key condition).bind fun _ hn => (gives_filled_branches rest).bind fun _ ⟨hd, hc⟩ =>
      gives_ok ⟨hd, hn.append hc⟩
termination_by structural bs => bs

theorem gives_filled_disjuncts (key : Token) : ∀ ds : List Disjunct,
    Gives (fun nodes => Filled escaper (Disjunct.slotsAll key ds) (nodes.flatMap Node.positions))
      (Disjunct.compileAll escaper key ds)
  | [] => gives_ok .nil
  | item :: rest =>
    (gives_filled_disjunct key item).bind fun _ hn => (gives_filled_disjuncts key rest).bind fun _ hs =>
      gives_ok (hn.append hs)
termination_by structural ds => ds

theorem gives_filled_disjunct (key : Token) : ∀ d : Disjunct,
    Gives (fun node => Filled escaper (Disjunct.slots key d) node.positions) (d.compile escaper key)
  | .equals value => gives_filled_equate key value
  | .call c => (gives_filled_call key c).bind fun _ h => gives_ok h
  | .filter entries => (gives_filled entries).bind fun _ h => gives_ok h
termination_by structural d => d

end

/-! ## Statements -/

/-- Unless it is voided, the statement is written from an outline whose positions hold the texts of the
tokens. -/
def Statement.IsLaidOut (escaper : Escaper) (slots : List Token) : Statement → Prop
  | .ready sql _ _ => LaidOut escaper Outline.write Outline.positions slots sql
  | .voided _ => True

section

variable (c : Compiler)

theorem gives_filled_clause (f : Filter) :
    Gives
      (fun clause => Filled c.escaper (Filter.slots f) (Link.positionsAll clause.links) ∨ clause.isVoided = true)
      (c.filter f).result := by
  intro clause hclause
  cases clause with
  | voided => exact .inr rfl
  | of links => exact .inl (gives_filled f links (Compiler.compile_of_filter hclause))

theorem gives_order (order : List (Token × Direction)) :
    Gives (LaidOut c.escaper Outline.writeOrder (List.map Prod.fst) (order.map Prod.fst))
      (Select.orderList c order) := by
  have hkey : ∀ o : Token × Direction,
      Gives (LaidOut c.escaper Outline.writeKey (fun key => [key.1]) [o.1])
        (do return (← c.emit o.1) ++ " " ++ o.2.keyword) := fun o =>
    (gives_emit o.1).bind fun _ ⟨text, he, ht⟩ => by
      subst he
      exact gives_ok ⟨(text, o.2), rfl, ht⟩
  refine (gives_laidOut_mapM hkey order).bind fun texts ⟨keys, hwrite, hkeys⟩ => ?_
  subst hwrite
  refine gives_ok ⟨keys, ?_, ?_⟩
  · rw [Outline.writeOrder, List.isEmpty_map]
  · rwa [List.map_eq_flatMap, List.map_eq_flatMap]

theorem gives_assignments (assignments : List (Token × Token)) :
    Gives (LaidOut c.escaper (fun texts => ", ".intercalate (texts.map Outline.writeAssignment))
        (List.flatMap fun a => [a.1, a.2]) (assignments.flatMap fun a => [a.1, a.2]))
      (Update.assignmentList c assignments) := by
  have hassignment : ∀ a : Token × Token,
      Gives (LaidOut c.escaper Outline.writeAssignment (fun texts => [texts.1, texts.2]) [a.1, a.2])
        (Update.assignment c a.1 a.2) := fun a =>
    (gives_emit a.1).bind fun _ ⟨column, hcolumn, h₁⟩ => (gives_emit a.2).bind fun _ ⟨value, hvalue, h₂⟩ => by
      subst hcolumn hvalue
      exact gives_ok ⟨(column, value), rfl, h₁.append h₂⟩
  unfold Update.assignmentList
  split
  · exact fun _ h => nomatch h
  · refine (gives_laidOut_mapM hassignment assignments).bind fun texts ⟨sides, hwrite, hsides⟩ => ?_
    subst hwrite
    exact gives_ok ⟨sides, rfl, hsides⟩

theorem gives_tuple (columns : List String) (i : Nat) (row : InsertRow) :
    Gives (LaidOut c.escaper Outline.writeTuple id (columns.filterMap fun column => row.lookup column))
      (Insert.tuple c columns i row) := by
  unfold Insert.tuple
  split
  · exact fun _ h => nomatch h
  · -- a column that the row has no value for is an error
    refine Gives.bind (P := LaidOut c.escaper (List.map id) (List.flatMap ([·]))
      (columns.flatMap fun column => (row.lookup column).toList)) (gives_laidOut_mapM (fun column => ?_) columns) ?_
    · cases row.lookup column with
      | some value => exact gives_emit value
      | none => exact fun _ h => nomatch h
    · rintro texts ⟨values, rfl, hvalues⟩
      rw [List.filterMap_eq_flatMap_toList]
      rw [List.flatMap_singleton'] at hvalues
      exact gives_ok ⟨values, by rw [List.map_id]; rfl, hvalues⟩

theorem gives_tuples (columns : List String) (i : Nat) (rows : List InsertRow) :
    Gives (LaidOut c.escaper (List.map Outline.writeTuple) List.flatten
        (rows.flatMap fun row => columns.filterMap fun column => row.lookup column))
      (Insert.tuples c columns i rows) := by
  induction rows generalizing i with
  | nil => exact gives_ok ⟨[], rfl, .nil⟩
  | cons row rows ih =>
    refine (gives_tuple c columns i row).bind fun _ ⟨values, hvalues, h₁⟩ =>
      (ih (i + 1)).bind fun _ ⟨tuples, htuples, h₂⟩ => ?_
    subst hvalues htuples
    exact gives_ok ⟨values :: tuples, rfl, h₁.append h₂⟩

theorem gives_names (columns : List String) :
    Gives (Filled c.escaper (columns.map Token.column))
      (columns.mapM fun column => c.emit (.column column)) := by
  intro names h
  obtain ⟨texts, rfl, htexts⟩ := gives_laidOut_mapM (fun column => gives_emit (.column column)) columns names h
  rw [List.map_id, List.map_eq_flatMap]
  rwa [List.flatMap_singleton'] at htexts

theorem gives_columnList (columns : List Token) :
    Gives (fun text => ∃ columns : List String, (if columns.isEmpty then "*" else ", ".intercalate columns) = text)
      (Select.columnList c columns) :=
  gives_bind fun texts => gives_ok ⟨texts, rfl⟩

theorem Select.gives_outline (q : Select) :
    Gives (Statement.IsLaidOut c.escaper (Command.select q).slots) (q.build c).result := by
  refine Compiler.gives_guarded (fun _ => trivial) ?_
  simp only [compile, Logged.result_bind]
  refine gives_bind fun table => (gives_filled_clause c q.filter).bind fun clause hclause => ?_
  split
  · exact gives_ok trivial
  · refine (gives_columnList c q.columns).bind fun _ ⟨columns, hcolumns⟩ =>
      (gives_order c q.order).bind fun _ ⟨order, horder, hkeys⟩ => ?_
    subst hcolumns horder
    have hfilled := hclause.resolve_right ‹_›
    exact gives_ok ⟨.select columns table clause order q.limit q.offset, rfl, hfilled.append hkeys⟩

theorem Insert.gives_outline (q : Insert) :
    Gives (Statement.IsLaidOut c.escaper (Command.insert q).slots) (q.build c).result := by
  refine Compiler.gives_guarded (fun _ => trivial) (gives_bind fun table => ?_)
  dsimp only
  split
  · exact fun _ h => nomatch h
  · refine (gives_names c q.columns).bind fun names hnames =>
      (gives_tuples c q.columns 0 q.rows).bind fun _ ⟨tuples, htuples, hvalues⟩ => ?_
    subst htuples
    exact gives_ok ⟨.insert table names tuples, rfl, hnames.append hvalues⟩

theorem Update.gives_outline (q : Update) :
    Gives (Statement.IsLaidOut c.escaper (Command.update q).slots) (q.build c).result := by
  refine Compiler.gives_guarded (fun _ => trivial) ?_
  simp only [compile, Logged.result_bind]
  refine gives_bind fun table => (gives_assignments c q.assignments).bind fun _ ⟨sides, hwrite, hsides⟩ =>
    (gives_filled_clause c q.filter).bind fun clause hclause => ?_
  subst hwrite
  split
  · exact gives_ok trivial
  · have hfilled := hclause.resolve_right ‹_›
    exact gives_ok ⟨.update table sides clause, rfl, hsides.append hfilled⟩

theorem Delete.gives_outline (q : Delete) :
    Gives (Statement.IsLaidOut c.escaper (Command.delete q).slots) (q.build c).result := by
  refine Compiler.gives_guarded (fun _ => trivial) ?_
  simp only [compile, Logged.result_bind]
  refine gives_bind fun table => (gives_filled_clause c q.filter).bind fun clause hclause => ?_
  split
  · exact gives_ok trivial
  · have hfilled := hclause.resolve_right ‹_›
    exact gives_ok ⟨.delete table clause q.allowAll, rfl, hfilled⟩

theorem Command.gives_outline (q : Command) :
    Gives (Statement.IsLaidOut c.escaper q.slots) (q.build c).result := by
  cases q with
  | select q => exact q.gives_outline c
  | insert q => exact q.gives_outline c
  | update q => exact q.gives_outline c
  | delete q => exact q.gives_outline c

end

/-- A statement that is built is laid out with positions for its tokens. Each holds the text of its token, and
none is empty if and only if none of the tokens is blank. -/
theorem Command.filled_iff {c : Compiler} {q : Command} {sql : String} {kind : Kind} {labels : List Label}
    (h : (q.build c).result = .ok (.ready sql kind labels)) :
    ∃ outline : Outline, outline.write = sql ∧ Filled c.escaper q.slots outline.positions ∧
      ((∀ text ∈ outline.positions, text ≠ "") ↔ ∀ t ∈ q.slots, t.isBlank = false) := by
  obtain ⟨outline, hwrite, hfilled⟩ := q.gives_outline c _ h
  exact ⟨outline, hwrite, hfilled, hfilled.forall_ne_iff⟩

/-- Blank columns and values that leave no position: a column of the list, and a value against a key. -/
theorem Command.filled_select :
    let q : Command := .select ((((Select.ofTable "users").withColumns ["id", "name|b"]).withFilter
      (Filter.eq (Filter.eq [] "active" .blank) "age" (.value "7"))).orderBy "id" .asc)
    let sql := "SELECT `id` FROM `users` WHERE `active` AND `age` = '7' ORDER BY `id` ASC"
    (q.build {}).result = .ok (.ready sql .select []) ∧ (∀ t ∈ q.slots, t.isBlank = false) ∧
      ∃ outline : Outline, outline.write = sql ∧ ∀ text ∈ outline.positions, text ≠ "" := by
  intro q sql
  have hbuild : (q.build {}).result = .ok (.ready sql .select []) := by decide +kernel
  have hslots : ∀ t ∈ q.slots, t.isBlank = false := by decide +kernel
  obtain ⟨outline, hwrite, -, hiff⟩ := filled_iff hbuild
  exact ⟨hbuild, hslots, outline, hwrite, hiff.2 hslots⟩

/-- The statement is built with this text, and a position of it is empty. -/
def Command.IsHoled (q : Command) (sql : String) : Prop :=
  (q.build {}).result = .ok (.ready sql q.kind []) ∧
    ∀ outline : Outline, Filled Literal.escape q.slots outline.positions → "" ∈ outline.positions

theorem Command.isHoled_of_isBlank {q : Command} {sql : String}
    (h : (q.build {}).result = .ok (.ready sql q.kind [])) (hblank : ∃ t ∈ q.slots, t.isBlank = true) :
    q.IsHoled sql :=
  ⟨h, fun _ hfilled => hfilled.empty_mem hblank⟩

/-- Blank tokens in an order, in an insertion, in assignments, and as operands of a list, of bounds and of an
operator: each statement is built, and each has an empty position. -/
theorem Command.exists_hole :
    IsHoled (.select (((Select.ofTable "t").orderBy "|b" .asc).orderBy "a" .desc))
        "SELECT * FROM `t` ORDER BY  ASC, `a` DESC" ∧
      IsHoled (.insert ((Insert.intoTable "t").addRow [("name|b", .value "x"), ("age", .blank)]))
        "INSERT INTO `t` (, `age`) VALUES ('x', )" ∧
      IsHoled (.update (((Update.ofTable "t").set "a|b" (.value "1")).set "c" .blank))
        "UPDATE `t` SET  = '1', `c` = " ∧
      IsHoled (.delete ((Delete.ofTable "t").withFilter (Filter.oneOf [] "a" [.value "1", .blank])))
        "DELETE FROM `t` WHERE `a` IN ('1',)" ∧
      IsHoled (.delete ((Delete.ofTable "t").withFilter (Filter.between [] "a" .blank (.value "2"))))
        "DELETE FROM `t` WHERE `a` BETWEEN  AND '2'" ∧
      IsHoled (.delete ((Delete.ofTable "t").withFilter (Filter.compare [] "a" ">" .blank)))
        "DELETE FROM `t` WHERE `a` >" := by
  refine ⟨?_, ?_, ?_, ?_, ?_, ?_⟩
  all_goals
    apply isHoled_of_isBlank
    · decide +kernel
    · decide +kernel

end GuardedSql
