import GuardedSql.Proofs.PlainStatement
import GuardedSql.Proofs.Suspicion
import Mathlib.Data.List.Forall2

/-!
# Statements that differ in their data

Two statements are alike if they are the same once the texts of their data are left out. Of a statement and
its hollow counterpart, the latter does not depend on these texts. So of two alike statements whose tokens
are plain, the texts are read as the same lexemes, apart from what is in the literals.

- `compile_erase`: the nodes of a filter, hollow, are those of the filter without its data.
- `lexemes_build`: what the text of a plain statement is read as, and the texts of statements alike it.
-/

namespace GuardedSql

open Lexer

/-- The token with no text if it is data. -/
def Token.erase : Token → Token
  | .of .value _ => .of .value ""
  | .of .literal _ => .of .literal ""
  | t => t

namespace Token

@[simp] theorem isBlank_erase (t : Token) : t.erase.isBlank = t.isBlank := by
  rcases t with ⟨role, text⟩ | _
  · cases role <;> rfl
  · rfl

@[simp] theorem isNull_erase (t : Token) : t.erase.isNull = t.isNull := by
  rcases t with ⟨role, text⟩ | _
  · cases role <;> rfl
  · rfl

@[simp] theorem emit_erase (t : Token) : t.erase.emit dropText = t.emit dropText := by
  rcases t with ⟨role, text⟩ | _
  · cases role <;> rfl
  · rfl

@[simp] theorem emitKey_erase (t : Token) : t.erase.emitKey dropText = t.emitKey dropText := by
  simp [emitKey]

@[simp] theorem emitOperand_erase (t : Token) : t.erase.emitOperand dropText = t.emitOperand dropText := by
  simp [emitOperand]

@[simp] theorem equate_erase (key value : Token) :
    key.erase.equate dropText value.erase = key.equate dropText value := by
  simp [equate]

end Token

/-! ## Filters -/

theorem mapM_erase {α : Type} {f : Token → Except Error α} (h : ∀ t, f t.erase = f t) (ts : List Token) :
    (ts.map Token.erase).mapM f = ts.mapM f := by
  simp [List.mapM_map, Function.comp_def, h]

@[simp] theorem Call.compile_erase (key : Token) (c : Call) :
    (c.map Token.erase).compile dropText key.erase = c.compile dropText key := by
  simp only [Call.compile, Call.tokens_map, List.length_map, Token.emitKey_erase,
    mapM_erase Token.emitOperand_erase]
  rfl

@[simp] theorem Template.fill_erase (cs : List Char) (args : List Token) :
    Template.fill dropText cs (args.map Token.erase) = Template.fill dropText cs args := by
  induction cs generalizing args with
  | nil => cases args <;> rfl
  | cons c cs ih =>
    by_cases hc : c = '?'
    · subst hc
      cases args with
      | nil => rfl
      | cons t args => simp only [List.map_cons, Template.fill, Token.emit_erase, ih]
    · simp only [Template.fill, hc, ih, false_implies, implies_true]

@[simp] theorem Template.compile_erase (sql : String) (args : List Token) :
    Template.compile dropText sql (args.map Token.erase) = Template.compile dropText sql args := by
  simp [Template.compile]

mutual

theorem compile_erase : ∀ f : List Entry,
    Filter.compile dropText (Filter.map Token.erase f) = Filter.compile dropText f
  | [] => rfl
  | ⟨join, key, condition⟩ :: rest => by
    simp only [Filter.map, Filter.compile, condition_erase key condition, compile_erase rest]
termination_by structural f => f

theorem condition_erase (key : Token) : ∀ c : Condition,
    (c.map Token.erase).compile dropText key.erase = c.compile dropText key
  | .equals value => Token.equate_erase key value
  | .call c => by simp only [Condition.map, Condition.compile, Call.compile_erase]
  | .choice branches => by simp only [Condition.map, Condition.compile, branches_erase branches]
  | .template sql args => by
    simp only [Condition.map, Condition.compile, Template.compile_erase, Token.emitKey_erase]
termination_by structural c => c

theorem branches_erase : ∀ bs : List Branch,
    Branch.compileAll dropText (Branch.mapAll Token.erase bs) = Branch.compileAll dropText bs
  | [] => rfl
  | .any key items :: rest => by
    simp only [Branch.mapAll, Branch.compileAll, disjuncts_erase key items, branches_erase rest]
  | .all key condition :: rest => by
    simp only [Branch.mapAll, Branch.compileAll, condition_erase key condition, branches_erase rest]
termination_by structural bs => bs

theorem disjuncts_erase (key : Token) : ∀ ds : List Disjunct,
    Disjunct.compileAll dropText key.erase (Disjunct.mapAll Token.erase ds) =
      Disjunct.compileAll dropText key ds
  | [] => rfl
  | item :: rest => by
    simp only [Disjunct.mapAll, Disjunct.compileAll, disjunct_erase key item, disjuncts_erase key rest]
termination_by structural ds => ds

theorem disjunct_erase (key : Token) : ∀ d : Disjunct,
    (d.map Token.erase).compile dropText key.erase = d.compile dropText key
  | .equals value => Token.equate_erase key value
  | .call c => by simp only [Disjunct.map, Disjunct.compile, Call.compile_erase]
  | .filter entries => by simp only [Disjunct.map, Disjunct.compile, compile_erase entries]
termination_by structural d => d

end

/-! ## Statements -/

section

variable {c : Compiler}

theorem filter_erase (c : Compiler) (f : Filter) :
    c.hollow.filter (Filter.map Token.erase f) = c.hollow.filter f := by
  simp only [Compiler.filter, Compiler.hollow, compile_erase]

theorem emitBy_erase (c : Compiler) (t : Token) : c.hollow.emit t.erase = c.hollow.emit t :=
  t.emit_erase

theorem columnList_erase (c : Compiler) (columns : List Token) :
    Select.columnList c.hollow (columns.map Token.erase) = Select.columnList c.hollow columns := by
  simp only [Select.columnList, List.filter_map, Function.comp_def, Token.isBlank_erase,
    mapM_erase (emitBy_erase c)]

theorem orderList_erase (c : Compiler) (order : List (Token × Direction)) :
    Select.orderList c.hollow (order.map fun o => (o.1.erase, o.2)) = Select.orderList c.hollow order := by
  simp [Select.orderList, List.mapM_map, Function.comp_def, emitBy_erase]

theorem assignmentList_erase (c : Compiler) (assignments : List (Token × Token)) :
    Update.assignmentList c.hollow (assignments.map fun a => (a.1.erase, a.2.erase)) =
      Update.assignmentList c.hollow assignments := by
  simp [Update.assignmentList, Update.assignment, List.mapM_map, Function.comp_def, emitBy_erase]

theorem emitBy_eq {t t' : Token} (h : t.erase = t'.erase) : c.hollow.emit t = c.hollow.emit t' := by
  rw [← emitBy_erase c t, h, emitBy_erase]

/-- A table is refused for its text if that is blank, and its text is not looked at otherwise. -/
theorem table_eq {t t' : Token} (h : t.erase = t'.erase) :
    c.hollow.table t = .error (.invalid .emptyTable) ∨ c.hollow.table t' = .error (.invalid .emptyTable) ∨
      c.hollow.table t = c.hollow.table t' := by
  unfold Compiler.table
  split
  · exact .inl rfl
  · split
    · exact .inr (.inl rfl)
    · exact .inr (.inr (emitBy_eq h))

theorem Command.build_of_table {q : Command} (h : c.table q.table = .error (.invalid .emptyTable)) :
    (q.build c).result = .error (.invalid .emptyTable) := by
  have guarded : ∀ (kind : Kind) (x : Logged Statement), x.result = .error (.invalid .emptyTable) →
      (c.guarded kind x).result = .error (.invalid .emptyTable) := by
    intro kind x hx
    rw [Compiler.guarded, Compiler.onSuspicion_of_invalid hx, hx]
  have bind : ∀ f : String → Logged Statement,
      (liftM (c.table q.table) >>= f : Logged Statement).result = .error (.invalid .emptyTable) := by
    intro f
    rw [h]
    rfl
  cases q with
  | select q => exact guarded _ _ (bind _)
  | update q => exact guarded _ _ (bind _)
  | delete q => exact guarded _ _ (bind _)
  | insert q =>
    refine guarded _ _ ?_
    change c.table q.table = _ at h
    simp only [Logged.ofExcept, Insert.compile, h]
    rfl

theorem select_eq {q q' : Select} (h : q.map Token.erase = q'.map Token.erase)
    (ht : c.hollow.table q.table = c.hollow.table q'.table) : q.build c.hollow = q'.build c.hollow := by
  simp only [Select.map, Select.mk.injEq] at h
  obtain ⟨-, hcolumns, hfilter, horder, hlimit, hoffset⟩ := h
  have hc : Select.columnList c.hollow q.columns = Select.columnList c.hollow q'.columns := by
    rw [← columnList_erase, hcolumns, columnList_erase]
  have ho : Select.orderList c.hollow q.order = Select.orderList c.hollow q'.order := by
    rw [← orderList_erase, horder, orderList_erase]
  have hf : c.hollow.filter q.filter = c.hollow.filter q'.filter := by
    rw [← filter_erase, hfilter, filter_erase]
  simp only [Select.build, Select.compile, Select.assemble, ht, hc, ho, hf, hlimit, hoffset]

theorem update_eq {q q' : Update} (h : q.map Token.erase = q'.map Token.erase)
    (ht : c.hollow.table q.table = c.hollow.table q'.table) : q.build c.hollow = q'.build c.hollow := by
  simp only [Update.map, Update.mk.injEq] at h
  obtain ⟨-, hassignments, hfilter⟩ := h
  have ha : Update.assignmentList c.hollow q.assignments = Update.assignmentList c.hollow q'.assignments := by
    rw [← assignmentList_erase, hassignments, assignmentList_erase]
  have hf : c.hollow.filter q.filter = c.hollow.filter q'.filter := by
    rw [← filter_erase, hfilter, filter_erase]
  simp only [Update.build, Update.compile, ht, ha, hf]

theorem delete_eq {q q' : Delete} (h : q.map Token.erase = q'.map Token.erase)
    (ht : c.hollow.table q.table = c.hollow.table q'.table) : q.build c.hollow = q'.build c.hollow := by
  simp only [Delete.map, Delete.mk.injEq] at h
  obtain ⟨-, hfilter, hall⟩ := h
  have hf : c.hollow.filter q.filter = c.hollow.filter q'.filter := by
    rw [← filter_erase, hfilter, filter_erase]
  simp only [Delete.build, Delete.compile, ht, hf, hall]

/-! ## Insertions -/

theorem refines_mapM {α β γ : Type} {f : α → Except Error γ} {g : β → Except Error γ} {rename : α → β}
    (h : ∀ a, Refines (f a) (g (rename a))) (as : List α) : Refines (as.mapM f) ((as.map rename).mapM g) := by
  induction as with
  | nil => exact fun _ => id
  | cons a as ih =>
    rw [List.map_cons, List.mapM_cons, List.mapM_cons]
    exact (h a).bind fun _ => ih.bind fun _ _ => id

/-- A change of the names of columns that are data. Values are found by the names, so different ones are kept
different. -/
structure IsRenaming (rename : String → String) : Prop where
  injective : Function.Injective rename
  erase : ∀ name, (Token.column (rename name)).erase = (Token.column name).erase

/-- The same values, apart from the texts of their data, in renamed columns. -/
abbrev InsertRow.Alike (rename : String → String) : InsertRow → InsertRow → Prop :=
  List.Forall₂ fun e e' => e'.1 = rename e.1 ∧ e.2.erase = e'.2.erase

variable {rename : String → String}

theorem lookup_alike (hr : IsRenaming rename) {row row' : InsertRow} (h : row.Alike rename row')
    {column : String} {value : Token} (hv : row.lookup column = some value) :
    ∃ value', row'.lookup (rename column) = some value' ∧ value.erase = value'.erase := by
  induction h with
  | nil => cases hv
  | @cons e e' row row' he _ ih =>
    obtain ⟨name, v⟩ := e
    obtain ⟨name', v'⟩ := e'
    obtain ⟨rfl, hvalue⟩ := he
    rw [List.lookup_cons] at hv ⊢
    by_cases hn : column = name
    · subst hn
      obtain rfl : v = value := by simpa using hv
      exact ⟨v', by simp, hvalue⟩
    · have hn' : rename column ≠ rename name := fun e => hn (hr.injective e)
      rw [beq_eq_false_iff_ne.2 hn] at hv
      rw [beq_eq_false_iff_ne.2 hn']
      exact ih hv

theorem refines_tuple (hr : IsRenaming rename) (columns : List String) (i : Nat) {row row' : InsertRow}
    (h : row.Alike rename row') :
    Refines (Insert.tuple c.hollow columns i row) (Insert.tuple c.hollow (columns.map rename) i row') := by
  unfold Insert.tuple
  rw [h.length_eq, List.length_map]
  split
  · exact fun _ => id
  · refine (refines_mapM (fun column => ?_) columns).bind fun _ _ => id
    intro s hs
    cases hl : row.lookup column with
    | none => simp [hl] at hs
    | some value =>
      obtain ⟨value', hl', he⟩ := lookup_alike hr h hl
      rw [hl] at hs
      rw [hl']
      exact (emitBy_eq he).symm.trans hs

theorem refines_tuples (hr : IsRenaming rename) (columns : List String) {rows rows' : List InsertRow}
    (h : List.Forall₂ (InsertRow.Alike rename) rows rows') (i : Nat) :
    Refines (Insert.tuples c.hollow columns i rows) (Insert.tuples c.hollow (columns.map rename) i rows') := by
  induction h generalizing i with
  | nil => exact fun _ => id
  | cons hrow _ ih =>
    exact (refines_tuple hr columns i hrow).bind fun _ => (ih (i + 1)).bind fun _ _ => id

theorem columns_alike {q q' : Insert} (h : List.Forall₂ (InsertRow.Alike rename) q.rows q'.rows) :
    q'.columns = q.columns.map rename := by
  unfold Insert.columns
  generalize q.rows = rows at h ⊢
  generalize q'.rows = rows' at h ⊢
  cases h with
  | nil => rfl
  | @cons row row' _ _ hrow _ =>
    induction hrow with
    | nil => rfl
    | cons he _ ih => simpa [he.1] using ih

theorem refines_insert (hr : IsRenaming rename) {q q' : Insert}
    (h : List.Forall₂ (InsertRow.Alike rename) q.rows q'.rows)
    (ht : c.hollow.table q.table = c.hollow.table q'.table) :
    Refines (Insert.compile c.hollow q) (Insert.compile c.hollow q') := by
  have hcolumns := columns_alike h
  unfold Insert.columns at hcolumns
  simp only [Insert.compile, ht, hcolumns]
  refine Refines.bind (fun _ => id) fun table => ?_
  generalize List.map Prod.fst (q.rows.head?.getD []) = columns
  cases columns with
  | nil => exact fun _ => id
  | cons name names =>
    have hn : Refines ((name :: names).mapM fun column => c.hollow.emit (.column column))
        (((name :: names).map rename).mapM fun column => c.hollow.emit (.column column)) := by
      refine refines_mapM (fun column s hs => ?_) (name :: names)
      rwa [emitBy_eq (hr.erase column)]
    exact hn.bind fun _ =>
      (refines_tuples hr (name :: names) h 0).bind fun _ _ => id

end

/-! ## Statements that are alike -/

/-- Statements that differ in nothing but the texts of their data. -/
def Command.Alike : Command → Command → Prop
  | .select q, .select q' => q.map Token.erase = q'.map Token.erase
  | .update q, .update q' => q.map Token.erase = q'.map Token.erase
  | .delete q, .delete q' => q.map Token.erase = q'.map Token.erase
  | .insert q, .insert q' =>
    q.table.erase = q'.table.erase ∧
      ∃ rename, IsRenaming rename ∧ List.Forall₂ (InsertRow.Alike rename) q.rows q'.rows
  | _, _ => False

namespace Command

variable {c : Compiler} {q q' : Command}

theorem erase_table_of_alike (h : q.Alike q') : q.table.erase = q'.table.erase := by
  cases q <;> cases q' <;> try exact h.elim
  · exact congrArg Select.table h
  · exact h.1
  · exact congrArg Update.table h
  · exact congrArg Delete.table h

/-- A hollow statement is that of any statement alike it that has a table. -/
theorem build_alike (h : q.Alike q') (ht : c.hollow.table q.table = c.hollow.table q'.table) {sql : String}
    {kind : Kind} {labels : List Label} (hs : (q.build c.hollow).result = .ok (.ready sql kind labels)) :
    (q'.build c.hollow).result = .ok (.ready sql kind labels) := by
  cases q <;> cases q' <;> try exact h.elim
  · rwa [build, ← select_eq h ht]
  · obtain ⟨-, rename, hr, hrows⟩ := h
    exact Compiler.guarded_ready_iff.2 (refines_insert hr hrows ht _ (Compiler.guarded_ready_iff.1 hs))
  · rwa [build, ← update_eq h ht]
  · rwa [build, ← delete_eq h ht]

/-- What the text of a plain statement is read as. Reading ends outside of quotes, and the literals are the
texts of the data that the statement writes. A statement that differs from it in nothing but these texts has
no table, or is written with the same text around its literals. -/
theorem lexemes_build (hc : c.escaper = Literal.escape) (hq : q.isPlain = true) {sql : String} {kind : Kind}
    {labels : List Label} (hs : (q.build c).result = .ok (.ready sql kind labels)) :
    endsOutside allQuotes sql = true ∧ literals (lexemes allQuotes sql) = literalsOf q.tokens ∧
      ∀ q' : Command, q'.isPlain = true → q.Alike q' →
        (q'.build c).result = .error (.invalid .emptyTable) ∨
          ∃ sql', (q'.build c).result = .ok (.ready sql' kind labels) ∧
            around (lexemes allQuotes sql') = around (lexemes allQuotes sql) := by
  obtain ⟨_, hs₀, hsp⟩ := (agree_build hc hq).eq_ok hs
  cases hsp with
  | @ready _ sql₀ _ h =>
    obtain ⟨hend, hliterals, haround⟩ := h.lexemes
    refine ⟨hend, hliterals, fun q' hq' halike => ?_⟩
    rcases table_eq (c := c) (erase_table_of_alike halike) with ht | ht | ht
    · rw [build_of_table ht] at hs₀
      cases hs₀
    · exact .inl ((agree_build hc hq').eq_error_of_right (build_of_table ht))
    · obtain ⟨_, hs', hsp'⟩ := (agree_build hc hq').eq_ok_of_right (build_alike halike ht hs₀)
      cases hsp' with
      | ready h' => exact .inr ⟨_, hs', h'.lexemes.2.2.trans haround.symm⟩

/-- A choice whose second part comes first, with a list and with a key that is data. -/
def findByName (name note key : String) : Command :=
  .select {
    table := .column "users"
    filter := [⟨.or, .blank, .choice [
      .all (.literal key) (.equals (.data "7")),
      .any (.column "name") [
        .equals (.data name),
        .filter [⟨.and, .column "note", .call ⟨"IN", [.list [.data note, .null]]⟩⟩]]]⟩] }

/-- Texts that look like SQL are read as literals, and change nothing around them. -/
theorem lexemes_build_findByName :
    let sql := "SELECT * FROM `users` WHERE (`name` = 'a\\' OR \\'1' OR (`note` IN ('\\\\',NULL)) OR 'x\\'' = '7')"
    endsOutside allQuotes sql = true ∧
      literals (lexemes allQuotes sql) = ["a' OR '1", "\\", "x'", "7"] ∧
      ∃ sql', ((findByName "" "*/" "|v").build {}).result = .ok (.ready sql' .select []) ∧
        around (lexemes allQuotes sql') = around (lexemes allQuotes sql) := by
  have hs : ((findByName "a' OR '1" "\\" "x'").build {}).result = .ok (.ready
      "SELECT * FROM `users` WHERE (`name` = 'a\\' OR \\'1' OR (`note` IN ('\\\\',NULL)) OR 'x\\'' = '7')"
      .select []) := by decide
  obtain ⟨hend, hliterals, halike⟩ := lexemes_build (c := {}) rfl (by decide) hs
  refine ⟨hend, hliterals, (halike (findByName "" "*/" "|v") (by decide) rfl).resolve_left ?_⟩
  decide

end Command

end GuardedSql
