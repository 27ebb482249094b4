import GuardedSql.Proofs.FilterTexts
import GuardedSql.Proofs.Spelling
import GuardedSql.Proofs.Suspicion

/-!
# Statements of plain values

A statement whose tokens are plain and whose filter has no template is written with the same lexemes
whatever its data is, apart from what is in the literals, and its literals hold its data in order.

- `relates_plain`: what a plain token contributes, and with that a filter of plain tokens.
- `Gathers.writeWhere`: the nodes of a clause after `WHERE`.
- `agree_select`, `agree_insert`, `agree_update`, `agree_delete`: the statements.
- `agree_build`: any of them.
-/

namespace GuardedSql

open Lexer

/-- Whether a token is data, a name without quotes, `NULL` or blank. -/
def Token.isPlain : Token → Bool
  | .of .column name | .of .reference name => isBare name
  | .of .value _ | .of .literal _ | .of .blank _ | .null => true
  | .of .raw _ => false

/-- Whether all tokens of a filter are plain and none of its conditions is a template. -/
def Filter.isPlain (f : Filter) : Bool :=
  Filter.check Token.isPlain noTemplate f

/-! ## Tokens -/

theorem not_mem_of_isBare {s : String} (h : isBare s = true) : '`' ∉ s.toList := by
  intro hm
  have := List.all_eq_true.1 h _ hm
  simp [Lexeme.isWhole] at this

theorem agree_identifier {name : String} (h : isBare name = true) :
    Agree (Spells · · []) (Identifier.quote name) (Identifier.quote name) := by
  cases hs : Identifier.quote name with
  | ok s => exact .ok (spells_identifier (not_mem_of_isBare h) hs)
  | error e => exact .error e

theorem agree_emit {t : Token} (h : t.isPlain = true) :
    Agree (Spells · · t.literals) (t.emit Literal.escape) (t.emit dropText) := by
  rcases t with ⟨role, text⟩ | _
  · cases role with
    | column => exact agree_identifier h
    | reference => exact agree_identifier h
    | value => exact .ok (spells_quote text)
    | literal => exact .ok (spells_quote text)
    | blank => exact .ok (spells_bare (by decide))
    | raw => cases h
  · exact .ok (spells_bare (by decide))

theorem relates_plain : Relates Literal.escape dropText Token.isPlain Spells where
  toSideBySide := sideBySide_spells
  agree_emit := agree_emit

/-- The compiler with the escaping that drops every text. -/
def Compiler.hollow (c : Compiler) : Compiler :=
  { c with escaper := dropText }

/-- Whether all tokens of a statement are plain and none of its conditions is a template. -/
def Command.isPlain (q : Command) : Bool :=
  q.check Token.isPlain noTemplate

section

variable {c : Compiler}

/-! ## Clauses -/

inductive SpellsClause : Clause → Clause → List String → Prop
  | of {ls ls₀ texts} (h : Gathers (LinkTexts Spells) ls ls₀ texts) : SpellsClause (.of ls) (.of ls₀) texts
  | voided (texts) : SpellsClause .voided .voided texts

theorem agree_clause (hc : c.escaper = Literal.escape) {f : Filter} (h : Filter.isPlain f = true) :
    Agree (SpellsClause · · (literalsOf (Filter.tokens f))) (c.filter f).result (c.hollow.filter f).result := by
  refine Compiler.agree_onSuspicion rfl ?_ (.voided _) _ _
  rw [hc]
  exact (relates_plain.agree_filter f h).map fun _ _ => .of

theorem Clause.writeTail_of (ls : List Link) :
    (Clause.of ls).writeTail = if ls.isEmpty then "" else " WHERE " ++ Link.writeAll ls := by
  cases ls with
  | nil => rfl
  | cons l ls => exact String.append_assoc.symm

theorem Delete.tail_of (allowAll : Bool) (ls : List Link) :
    Delete.tail allowAll (.of ls) =
      if ls.isEmpty then (if allowAll then "" else " WHERE 1=0") else " WHERE " ++ Link.writeAll ls := by
  cases ls with
  | nil => rfl
  | cons l ls => exact String.append_assoc.symm

/-- The nodes of a clause after `WHERE`, or another text without quotes if there are none. -/
theorem Gathers.writeWhere {ls ls₀ : List Link} {texts : List String} (h : Gathers (LinkTexts Spells) ls ls₀ texts)
    {instead : String} (hw : isWord instead = true) :
    Follows Spells (if ls.isEmpty then instead else " WHERE " ++ Link.writeAll ls)
      (if ls₀.isEmpty then instead else " WHERE " ++ Link.writeAll ls₀) texts := by
  rw [h.isEmpty.1]
  split
  · rw [h.isEmpty.2 ‹_›]
    exact sideBySide_spells.follows_word hw
  · exact sideBySide_spells.after_word (h.writeAll sideBySide_spells) (by decide) (by decide)

/-! ## Parts of statements -/

theorem agree_emitBy (hc : c.escaper = Literal.escape) {t : Token} (h : t.isPlain = true) :
    Agree (Spells · · t.literals) (c.emit t) (c.hollow.emit t) := by
  rw [Compiler.emit, hc]
  exact agree_emit h

theorem agree_table (hc : c.escaper = Literal.escape) {t : Token} (h : t.isPlain = true) :
    Agree (Spells · · t.literals) (c.table t) (c.hollow.table t) := by
  unfold Compiler.table
  split
  · exact .error _
  · exact agree_emitBy hc h

theorem agree_columnList (hc : c.escaper = Literal.escape) {columns : List Token}
    (h : columns.all Token.isPlain = true) :
    Agree (Spells · · (literalsOf columns)) (Select.columnList c columns)
      (Select.columnList c.hollow columns) := by
  have hl : literalsOf columns = literalsOf (columns.filter fun t => !t.isBlank) := by
    clear h
    induction columns with
    | nil => rfl
    | cons t ts ih =>
      cases hb : t.isBlank with
      | true => simpa [literalsOf, hb, Token.literals_of_isBlank hb] using ih
      | false => simpa [literalsOf, hb] using ih
  rw [hl]
  have hm : ∀ t ∈ columns.filter fun t => !t.isBlank,
      Agree (Spells · · t.literals) (c.emit t) (c.hollow.emit t) := by
    intro t ht
    have hp : t.isPlain = true := List.all_eq_true.1 h t (List.mem_of_mem_filter ht)
    exact agree_emitBy hc hp
  refine (agree_mapM hm).bind fun ss ss₀ hmap => ?_
  have hs := hmap.2
  rw [hs.isEmpty.1]
  split
  · rw [literalsOf, hs.isEmpty.2 ‹_›]
    exact .ok (sideBySide_spells.word (by decide))
  · exact .ok (sideBySide_spells.intercalate ", " (by decide) (by decide) hs)

theorem agree_orderList (hc : c.escaper = Literal.escape) {order : List (Token × Direction)}
    (h : (order.all fun o => o.1.isPlain) = true) :
    Agree (Follows Spells · · (literalsOf (order.map Prod.fst))) (Select.orderList c order)
      (Select.orderList c.hollow order) := by
  rw [literalsOf, List.flatMap_map]
  have hm : ∀ o ∈ order, Agree (Spells · · o.1.literals)
      (do return (← c.emit o.1) ++ " " ++ o.2.keyword : Except Error String)
      (do return (← c.hollow.emit o.1) ++ " " ++ o.2.keyword : Except Error String) := by
    intro o ho
    refine (agree_emitBy hc (List.all_eq_true.1 h o ho)).bind fun s s₀ hs => .ok ?_
    refine sideBySide_spells.word_right (sideBySide_spells.word_right hs (by decide)) ?_
    cases o.2 <;> decide
  refine (agree_mapM hm).bind fun ss ss₀ hmap => ?_
  have hs := hmap.2
  rw [hs.isEmpty.1]
  split
  · rw [hs.isEmpty.2 ‹_›]
    exact .ok .nil
  · have hlist := sideBySide_spells.intercalate ", " (by decide) (by decide) hs
    exact .ok (sideBySide_spells.after_word hlist (by decide) (by decide))

/-! ## Statements -/

inductive SpellsStatement : Statement → Statement → List String → Prop
  | ready {sql sql₀ texts} (h : Spells sql sql₀ texts) (kind : Kind) (labels : List Label) :
    SpellsStatement (.ready sql kind labels) (.ready sql₀ kind labels) texts
  | voided (kind : Kind) (texts) : SpellsStatement (.voided kind) (.voided kind) texts

theorem isWord_toString (n : Nat) : isWord (toString n) = true := by
  refine List.all_eq_true.2 fun c hc => ?_
  have hd : c.isDigit = true := by
    rw [show toString n = n.repr from rfl, Nat.toList_repr] at hc
    exact Nat.isDigit_of_mem_toDigits (by decide) (by decide) hc
  simp only [Bool.and_eq_true, decide_eq_true_eq]
  refine ⟨⟨?_, ?_⟩, ?_⟩
  all_goals
    rintro rfl
    cases hd

theorem isWord_window (limit offset : Option Nat) : isWord (Select.window limit offset) = true := by
  cases limit <;> cases offset <;> unfold Select.window
  · rfl
  · exact isWord_append (by decide) (isWord_toString _)
  · exact isWord_append (by decide) (isWord_toString _)
  · refine isWord_append (isWord_append (isWord_append ?_ (isWord_toString _)) ?_) (isWord_toString _)
    · decide
    · decide

theorem agree_select (hc : c.escaper = Literal.escape) {q : Select}
    (h : q.check Token.isPlain noTemplate = true) :
    Agree (SpellsStatement · · (literalsOf q.tokens)) (q.build c).result (q.build c.hollow).result := by
  simp only [Select.check, Bool.and_eq_true] at h
  obtain ⟨⟨⟨ht, hcs⟩, hf⟩, ho⟩ := h
  refine Compiler.agree_onSuspicion rfl ?_ (.voided _ _) _ _
  simp only [Select.compile, Logged.result_bind]
  refine (agree_table hc ht).bind fun table table₀ htable => ?_
  refine (agree_clause hc hf).bind fun clause clause₀ hclause => ?_
  cases hclause with
  | voided => exact .ok (.voided _ _)
  | @of ls ls₀ _ hl =>
    refine (agree_columnList hc hcs).bind fun columns columns₀ hcolumns => ?_
    refine (agree_orderList hc ho).bind fun order order₀ horder => .ok (.ready ?_ _ _)
    have htexts : literalsOf q.tokens = literalsOf q.columns ++ q.table.literals ++
        literalsOf (Filter.tokens q.filter) ++ literalsOf (q.order.map Prod.fst) := by
      simp [Select.tokens, literalsOf]
    rw [htexts, Clause.writeTail_of, Clause.writeTail_of]
    have hselect := sideBySide_spells.word_left (w := "SELECT ") (by decide) (by decide) hcolumns
    refine sideBySide_spells.word_right (horder _ _ _ (hl.writeWhere (by decide) _ _ _ ?_)) (isWord_window _ _)
    exact sideBySide_spells.join hselect (by decide) (by decide) htable

theorem agree_assignmentList (hc : c.escaper = Literal.escape) {assignments : List (Token × Token)}
    (h : (assignments.all fun a => a.1.isPlain && a.2.isPlain) = true) :
    Agree (Spells · · (literalsOf (assignments.flatMap fun a => [a.1, a.2])))
      (Update.assignmentList c assignments) (Update.assignmentList c.hollow assignments) := by
  have hm : ∀ a ∈ assignments, Agree (Spells · · (literalsOf [a.1, a.2])) (Update.assignment c a.1 a.2)
      (Update.assignment c.hollow a.1 a.2) := by
    intro a ha
    obtain ⟨hcolumn, hvalue⟩ := Bool.and_eq_true_iff.1 (List.all_eq_true.1 h a ha)
    rw [literalsOf, List.flatMap_cons, List.flatMap_singleton]
    refine (agree_emitBy hc hcolumn).bind fun s s₀ hs => ?_
    exact (agree_emitBy hc hvalue).bind fun t t₀ ht => .ok (sideBySide_spells.join hs (by decide) (by decide) ht)
  unfold Update.assignmentList
  split
  · exact .error _
  · rw [literalsOf, List.flatMap_assoc]
    refine (agree_mapM hm).bind fun ss ss₀ hmap => .ok ?_
    exact sideBySide_spells.intercalate ", " (by decide) (by decide) hmap.2

theorem agree_update (hc : c.escaper = Literal.escape) {q : Update}
    (h : q.check Token.isPlain noTemplate = true) :
    Agree (SpellsStatement · · (literalsOf q.tokens)) (q.build c).result (q.build c.hollow).result := by
  simp only [Update.check, Bool.and_eq_true] at h
  obtain ⟨⟨ht, ha⟩, hf⟩ := h
  refine Compiler.agree_onSuspicion rfl ?_ (.voided _ _) _ _
  simp only [Update.compile, Logged.result_bind]
  refine (agree_table hc ht).bind fun table table₀ htable => ?_
  refine (agree_assignmentList hc ha).bind fun assignments assignments₀ hassignments => ?_
  refine (agree_clause hc hf).bind fun clause clause₀ hclause => ?_
  cases hclause with
  | voided => exact .ok (.voided _ _)
  | @of ls ls₀ _ hl =>
    refine .ok (.ready ?_ _ _)
    have htexts : literalsOf q.tokens = q.table.literals ++
        literalsOf (q.assignments.flatMap fun a => [a.1, a.2]) ++ literalsOf (Filter.tokens q.filter) := by
      simp [Update.tokens, literalsOf]
    rw [htexts, Clause.writeTail_of, Clause.writeTail_of]
    have htarget := sideBySide_spells.word_left (w := "UPDATE ") (by decide) (by decide) htable
    exact hl.writeWhere (by decide) _ _ _ (sideBySide_spells.join htarget (by decide) (by decide) hassignments)

theorem agree_delete (hc : c.escaper = Literal.escape) {q : Delete}
    (h : q.check Token.isPlain noTemplate = true) :
    Agree (SpellsStatement · · (literalsOf q.tokens)) (q.build c).result (q.build c.hollow).result := by
  simp only [Delete.check, Bool.and_eq_true] at h
  refine Compiler.agree_onSuspicion rfl ?_ (.voided _ _) _ _
  simp only [Delete.compile, Logged.result_bind]
  refine (agree_table hc h.1).bind fun table table₀ htable => ?_
  refine (agree_clause hc h.2).bind fun clause clause₀ hclause => ?_
  cases hclause with
  | voided => exact .ok (.voided _ _)
  | @of ls ls₀ _ hl =>
    refine .ok (.ready ?_ _ _)
    rw [Delete.tokens, literalsOf, List.flatMap_cons, Delete.tail_of, Delete.tail_of]
    refine hl.writeWhere ?_ _ _ _ (sideBySide_spells.word_left (by decide) (by decide) htable)
    cases q.allowAll <;> decide

/-! ## Insertions -/

theorem agree_tuple (hc : c.escaper = Literal.escape) (columns : List String) (i : Nat) {row : InsertRow}
    (h : ∀ e ∈ row, e.2.isPlain = true) :
    Agree (Spells · · (literalsOf (columns.filterMap fun column => row.lookup column)))
      (Insert.tuple c columns i row) (Insert.tuple c.hollow columns i row) := by
  unfold Insert.tuple
  split
  · exact .error _
  · rw [literalsOf, List.filterMap_eq_flatMap_toList, List.flatMap_assoc]
    refine Agree.bind (R := fun ss ss₀ => ss.length = columns.length ∧
      Gathers Spells ss ss₀ (columns.flatMap fun column => literalsOf (row.lookup column).toList))
      (agree_mapM fun column _ => ?_) fun ss ss₀ hmap => .ok ?_
    · cases hl : row.lookup column with
      | none => exact .error _
      | some value =>
        obtain ⟨_, _, hrow, -⟩ := List.lookup_eq_some_iff.1 hl
        rw [literalsOf, Option.toList_some, List.flatMap_singleton]
        exact agree_emitBy hc (h (column, value) (by simp [hrow]))
    · have hlist := sideBySide_spells.intercalate ", " (by decide) (by decide) hmap.2
      exact sideBySide_spells.word_right (sideBySide_spells.word_left (by decide) (by decide) hlist) (by decide)

theorem agree_tuples (hc : c.escaper = Literal.escape) (columns : List String) {rows : List InsertRow} (i : Nat)
    (h : ∀ row ∈ rows, ∀ e ∈ row, e.2.isPlain = true) :
    Agree (Gathers Spells · ·
        (literalsOf (rows.flatMap fun row => columns.filterMap fun column => row.lookup column)))
      (Insert.tuples c columns i rows) (Insert.tuples c.hollow columns i rows) := by
  induction rows generalizing i with
  | nil => exact .ok .nil
  | cons row rest ih =>
    rw [List.flatMap_cons, literalsOf_append]
    refine (agree_tuple hc columns i (h row List.mem_cons_self)).bind fun s s₀ hs => ?_
    refine (ih (i + 1) fun row hr => h row (List.mem_cons_of_mem _ hr)).bind fun ss ss₀ hss => ?_
    exact .ok (.cons hs hss)

theorem agree_insert (hc : c.escaper = Literal.escape) {q : Insert} (h : q.check Token.isPlain = true) :
    Agree (SpellsStatement · · (literalsOf q.tokens)) (q.build c).result (q.build c.hollow).result := by
  simp only [Insert.check, Bool.and_eq_true, List.all_eq_true] at h
  obtain ⟨ht, hr⟩ := h
  refine Compiler.agree_onSuspicion rfl ?_ (.voided _ _) _ _
  refine (agree_table hc ht).bind fun table table₀ htable => ?_
  have hm : ∀ name ∈ q.columns, Agree (Spells · · (Token.column name).literals) (c.emit (.column name))
      (c.hollow.emit (.column name)) := by
    intro name hname
    obtain ⟨e, he, rfl⟩ := List.mem_map.1 hname
    cases hrows : q.rows with
    | nil => simp [hrows] at he
    | cons row rest => exact agree_emitBy hc (hr row (by simp [hrows]) e (by simpa [hrows] using he)).1
  by_cases hn : q.columns.isEmpty = true
  · simp only [Insert.columns] at hn
    simp only [hn, if_true]
    exact .error _
  · simp only [Insert.columns] at hn
    simp only [hn]
    refine (agree_mapM hm).bind fun names names₀ hnames => ?_
    have hv : ∀ row ∈ q.rows, ∀ e ∈ row, e.2.isPlain = true := fun row hrow e he => (hr row hrow e he).2
    refine (agree_tuples hc q.columns 0 hv).bind fun texts texts₀ htexts => .ok (.ready ?_ _ _)
    have hl : literalsOf q.tokens = q.table.literals ++
        (q.columns.flatMap fun name => (Token.column name).literals) ++
        literalsOf (q.rows.flatMap fun row => q.columns.filterMap fun column => row.lookup column) := by
      simp [Insert.tokens, literalsOf, List.flatMap_map]
    rw [hl]
    have hinto := sideBySide_spells.word_left (w := "INSERT INTO ") (by decide) (by decide) htable
    have hlist := sideBySide_spells.intercalate ", " (by decide) (by decide) hnames.2
    have hrows := sideBySide_spells.intercalate ", " (by decide) (by decide) htexts
    exact sideBySide_spells.join (sideBySide_spells.join hinto (by decide) (by decide) hlist) (by decide)
      (by decide) hrows

/-- A statement of plain tokens differs from its hollow counterpart in what is in the literals, or fails with
the same error. -/
theorem agree_build (hc : c.escaper = Literal.escape) {q : Command} (h : q.isPlain = true) :
    Agree (SpellsStatement · · (literalsOf q.tokens)) (q.build c).result (q.build c.hollow).result := by
  cases q with
  | select q => exact agree_select hc h
  | insert q => exact agree_insert hc h
  | update q => exact agree_update hc h
  | delete q => exact agree_delete hc h

end

end GuardedSql
