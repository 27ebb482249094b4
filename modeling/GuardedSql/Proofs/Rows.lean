import Mathlib.Data.List.Nodup
import Mathlib.Data.List.Perm.Subperm
import GuardedSql.Proofs.Coverage
import GuardedSql.Proofs.Positions

/-!
# The rows of an insertion

The columns of an insertion are those of its first row. Any other row is counted against them, and is asked for a
value for each of them by its name; it gives the first one that it has. That finds every row with other columns,
as long as the columns are different. If a column comes twice, its first value is written in both places, and a
row may have another column in place of the second one, with a value that is not written.

- `InsertRow.isKept_iff`: a row that has been written has lost no value exactly if it has the columns, and values
  for one column have one text.
- `Insert.build_ready_iff`: which insertions are built, and how they are written.
- `Insert.kept_iff`: when an insertion that is built has lost no value, and what is refused.
-/

namespace GuardedSql

theorem map_eq_map_iff {α β γ : Type} {f : α → γ} {g : β → γ} {as : List α} {bs : List β} :
    as.map f = bs.map g ↔ List.Forall₂ (fun a b => f a = g b) as bs := by
  rw [← List.forall₂_eq_eq_eq, List.forall₂_map_left_iff, List.forall₂_map_right_iff]

variable {c : Compiler}

/-! ## Rows -/

namespace InsertRow

def names (row : InsertRow) : List String :=
  row.map Prod.fst

/-- What the row gives when it is asked for the value of a column. -/
def answer (c : Compiler) (row : InsertRow) (column : String) : Option (Except Error String) :=
  (row.lookup column).map c.emit

/-- The row has as many values as there are columns, and gives these texts for them. -/
structure Fills (c : Compiler) (columns : List String) (row : InsertRow) (values : List String) : Prop where
  width : row.length = columns.length
  answers : columns.map (row.answer c) = values.map fun text => some (.ok text)

/-- The names and texts of the row's values are the columns with the texts in their places, with multiplicity. So
no value is left out, and none is written in place of another. -/
def IsKept (c : Compiler) (columns : List String) (row : InsertRow) (values : List String) : Prop :=
  (row.map fun e => (e.1, c.emit e.2)).Perm (columns.zip (values.map .ok))

/-- Values for the same column have the same text. -/
def IsConsistent (c : Compiler) (row : InsertRow) : Prop :=
  ∀ e ∈ row, ∀ e' ∈ row, e.1 = e'.1 → c.emit e.2 = c.emit e'.2

variable {columns : List String} {row : InsertRow} {values : List String}

theorem mem_of_lookup {column : String} {value : Token} (h : row.lookup column = some value) :
    (column, value) ∈ row := by
  obtain ⟨before, after, rfl, -⟩ := List.lookup_eq_some_iff.1 h
  exact List.mem_append_right before List.mem_cons_self

/-- Every column is the name of a value. -/
theorem Fills.subset (h : Fills c columns row values) : columns ⊆ row.names := by
  intro column hcolumn
  have hanswer : row.answer c column ∈ values.map fun text => some (.ok text) :=
    h.answers ▸ List.mem_map_of_mem hcolumn
  obtain ⟨text, -, htext⟩ := List.mem_map.1 hanswer
  obtain ⟨value, hvalue, -⟩ := Option.map_eq_some_iff.1 htext.symm
  exact List.mem_map_of_mem (mem_of_lookup hvalue)

/-- Where no column comes twice, the row has the columns and no others. -/
theorem Fills.names_perm (h : Fills c columns row values) (hd : columns.Nodup) : row.names.Perm columns := by
  -- there are as many names as columns, so there is none besides them
  have hwidth : row.names.length ≤ columns.length := by simp [names, h.width]
  exact ((List.subperm_of_subset hd h.subset).perm_of_length_le hwidth).symm

/-- What the row gives for a column that it has. -/
def text (c : Compiler) (row : InsertRow) (column : String) : Except Error String :=
  (row.answer c column).getD (.ok "")

/-- The columns with the texts in their places. -/
theorem Fills.zip_eq (h : Fills c columns row values) :
    columns.zip (values.map .ok) = columns.map fun column => (column, row.text c column) := by
  have htexts : columns.map (row.text c) = values.map .ok := by
    have htext : row.text c = (·.getD (.ok "")) ∘ row.answer c := rfl
    rw [htext, ← List.map_map, h.answers, List.map_map]
    rfl
  have hzip := List.zip_map' (f := id) (g := row.text c) (l := columns)
  rwa [List.map_id, htexts] at hzip

theorem isConsistent_iff : row.IsConsistent c ↔ ∀ e ∈ row, c.emit e.2 = row.text c e.1 := by
  constructor
  · intro h e he
    cases hlookup : row.lookup e.1 with
    | none =>
      have hname := List.lookup_eq_none_iff.1 hlookup e he
      simp at hname
    | some value =>
      rw [text, answer, hlookup]
      exact h e he (e.1, value) (mem_of_lookup hlookup) rfl
  · intro h e he e' he' hname
    rw [h e he, h e' he', hname]

theorem isKept_iff (h : Fills c columns row values) :
    row.IsKept c columns values ↔ row.names.Perm columns ∧ row.IsConsistent c := by
  rw [IsKept, h.zip_eq, isConsistent_iff]
  constructor
  · intro hperm
    refine ⟨?_, fun e he => ?_⟩
    · have hnames := hperm.map Prod.fst
      simpa [names, Function.comp_def] using hnames
    · have hmem : (e.1, c.emit e.2) ∈ columns.map fun column => (column, row.text c column) :=
        hperm.subset (List.mem_map_of_mem he)
      obtain ⟨column, -, hpair⟩ := List.mem_map.1 hmem
      obtain ⟨rfl, htext⟩ := Prod.mk.inj hpair
      exact htext.symm
  · rintro ⟨hnames, htexts⟩
    -- what is written under a name does not depend on which of the row's values is found
    have hpairs : row.map (fun e => (e.1, c.emit e.2)) = row.names.map fun name => (name, row.text c name) := by
      rw [names, List.map_map]
      exact List.map_congr_left fun e he => by rw [htexts e he, Function.comp_apply]
    rw [hpairs]
    exact hnames.map _

/-- Different columns have one value each. -/
theorem isConsistent_of_nodup (hd : row.names.Nodup) : row.IsConsistent c := by
  intro e he e' he' hname
  obtain rfl : e = e' := List.inj_on_of_nodup_map hd he he' hname
  rfl

end InsertRow

/-! ## What is written of the rows -/

namespace Insert

variable {columns : List String}

theorem tuple_eq_ok_iff {i : Nat} {row : InsertRow} {text : String} :
    tuple c columns i row = .ok text ↔
      ∃ values, row.Fills c columns values ∧ Outline.writeTuple values = text := by
  unfold tuple
  split
  · rename_i hwidth
    exact iff_of_false (fun h => nomatch h) fun ⟨_, h, _⟩ => hwidth h.width
  · rename_i hwidth
    rw [bind_eq_ok_iff]
    refine exists_congr fun values => and_congr ?_ (iff_of_eq (Except.ok.injEq _ _))
    have hfills : row.Fills c columns values ↔
        List.Forall₂ (fun column text => row.answer c column = some (.ok text)) columns values := by
      rw [← map_eq_map_iff]
      exact ⟨fun h => h.answers, fun h => ⟨not_not.1 hwidth, h⟩⟩
    rw [mapM_eq_ok_iff, hfills]
    -- a column that the row has no value for is an error
    refine iff_of_eq (congrArg (fun R => List.Forall₂ R columns values) ?_)
    funext column text
    rw [InsertRow.answer]
    cases row.lookup column with
    | none => simp
    | some value => simp

theorem tuples_eq_ok_iff {i : Nat} {rows : List InsertRow} {texts : List String} :
    tuples c columns i rows = .ok texts ↔
      ∃ values, List.Forall₂ (InsertRow.Fills c columns) rows values ∧ values.map Outline.writeTuple = texts := by
  induction rows generalizing i texts with
  | nil => simp [tuples]
  | cons row rows ih =>
    have hrest : ∀ text, (tuples c columns (i + 1) rows >>= fun texts => pure (text :: texts)) = .ok texts ↔
        ∃ values, List.Forall₂ (InsertRow.Fills c columns) rows values ∧
          text :: values.map Outline.writeTuple = texts := by
      intro text
      rw [bind_eq_ok_iff]
      simp [ih, pure, Except.pure]
    rw [tuples, bind_eq_ok_iff]
    simp only [tuple_eq_ok_iff, hrest, List.forall₂_cons_left_iff]
    constructor
    · rintro ⟨_, ⟨values, hvalues, rfl⟩, rest, hrows, rfl⟩
      exact ⟨values :: rest, ⟨values, rest, hvalues, hrows, rfl⟩, rfl⟩
    · rintro ⟨_, ⟨values, rest, hvalues, hrows, rfl⟩, rfl⟩
      exact ⟨_, ⟨values, hvalues, rfl⟩, rest, hrows, rfl⟩

/-- How an insertion is written. -/
structure IsWritten (c : Compiler) (q : Insert) (table : String) (names : List String)
    (tuples : List (List String)) : Prop where
  table : c.table q.table = .ok table
  columns : q.columns ≠ []
  names : q.columns.map (fun column => c.emit (.column column)) = names.map .ok
  tuples : List.Forall₂ (InsertRow.Fills c q.columns) q.rows tuples

variable {q : Insert}

theorem build_ready_iff {sql : String} {kind : Kind} {labels : List Label} :
    (q.build c).result = .ok (.ready sql kind labels) ↔ kind = .insert ∧ labels = [] ∧
      ∃ table names tuples, q.IsWritten c table names tuples ∧ (Outline.insert table names tuples).write = sql := by
  have hcompile : (Logged.ofExcept (compile c q)).result = compile c q := rfl
  have hcolumns : (q.rows.head?.getD []).map Prod.fst = q.columns := rfl
  rw [build, Compiler.guarded_ready_iff, hcompile, compile, bind_eq_ok_iff]
  simp only [hcolumns]
  constructor
  · rintro ⟨table, htable, h⟩
    split at h
    · cases h
    · rename_i hempty
      obtain ⟨names, hnames, h⟩ := bind_eq_ok_iff.1 h
      obtain ⟨texts, htexts, h⟩ := bind_eq_ok_iff.1 h
      obtain ⟨tuples, htuples, rfl⟩ := tuples_eq_ok_iff.1 htexts
      cases h
      refine ⟨rfl, rfl, table, names, tuples, ⟨htable, ?_, ?_, htuples⟩, rfl⟩
      · simpa using hempty
      · exact map_eq_map_iff.2 (mapM_eq_ok_iff.1 hnames)
  · rintro ⟨rfl, rfl, table, names, tuples, h, rfl⟩
    refine ⟨table, h.table, ?_⟩
    rw [if_neg (by simpa using h.columns)]
    refine bind_eq_ok_iff.2 ⟨names, mapM_eq_ok_iff.2 (map_eq_map_iff.1 h.names), ?_⟩
    exact bind_eq_ok_iff.2 ⟨_, tuples_eq_ok_iff.2 ⟨tuples, h.tuples, rfl⟩, rfl⟩

/-- No row has lost a value. -/
def AllKept (c : Compiler) (q : Insert) (tuples : List (List String)) : Prop :=
  List.Forall₂ (InsertRow.IsKept c q.columns) q.rows tuples

theorem forall₂_isKept_iff {rows : List InsertRow} {tuples : List (List String)}
    (h : List.Forall₂ (InsertRow.Fills c columns) rows tuples) :
    List.Forall₂ (InsertRow.IsKept c columns) rows tuples ↔
      ∀ row ∈ rows, row.names.Perm columns ∧ row.IsConsistent c := by
  induction h with
  | nil => simp
  | cons hrow _ ih => rw [List.forall₂_cons, InsertRow.isKept_iff hrow, ih, List.forall_mem_cons]

/-- Where no column comes twice, all rows have the columns. -/
theorem names_perm {rows : List InsertRow} {tuples : List (List String)}
    (h : List.Forall₂ (InsertRow.Fills c columns) rows tuples) (hd : columns.Nodup) :
    ∀ row ∈ rows, row.names.Perm columns := by
  induction h with
  | nil => simp
  | cons hrow _ ih => exact List.forall_mem_cons.2 ⟨hrow.names_perm hd, ih⟩

theorem refused_of_not_ready
    (h : ∀ sql kind labels, (q.build c).result ≠ .ok (.ready sql kind labels)) :
    (∃ e, (q.build c).result = .error e) ∨ c.policy = .void ∧ (q.build c).result = .ok (.voided .insert) := by
  have hcovered : Covered c.policy .insert q.fragments (q.build c).result :=
    covered_build c (.insert q)
  generalize (q.build c).result = r at h hcovered ⊢
  cases hcovered with
  | ready => exact absurd rfl (h _ _ _)
  | suspicion => exact .inl ⟨_, rfl⟩
  | voided hpolicy => exact .inr ⟨hpolicy, rfl⟩
  | other => exact .inl ⟨_, rfl⟩

/-- An insertion that is built has lost no value exactly if every row has the columns of the first one, with
multiplicity, and its values for one column have one text. If the columns are different, that is so whenever it
is built, and where a row has other columns it is refused: there is an error, or it is voided where suspicions
void. -/
theorem kept_iff (c : Compiler) (q : Insert) :
    (∀ sql kind labels, (q.build c).result = .ok (.ready sql kind labels) →
      ∃ table names tuples, q.IsWritten c table names tuples ∧
        (Outline.insert table names tuples).write = sql ∧
        (q.AllKept c tuples ↔ ∀ row ∈ q.rows, row.names.Perm q.columns ∧ row.IsConsistent c) ∧
        (q.columns.Nodup → q.AllKept c tuples)) ∧
    (q.columns.Nodup → (∃ row ∈ q.rows, ¬row.names.Perm q.columns) →
      (∃ e, (q.build c).result = .error e) ∨
        c.policy = .void ∧ (q.build c).result = .ok (.voided .insert)) := by
  constructor
  · intro sql kind labels h
    obtain ⟨-, -, table, names, tuples, hwritten, hsql⟩ := build_ready_iff.1 h
    have hiff := forall₂_isKept_iff hwritten.tuples
    refine ⟨table, names, tuples, hwritten, hsql, hiff, fun hd => hiff.2 fun row hrow => ?_⟩
    have hperm := names_perm hwritten.tuples hd row hrow
    exact ⟨hperm, InsertRow.isConsistent_of_nodup (hperm.nodup_iff.2 hd)⟩
  · rintro hd ⟨row, hrow, hne⟩
    refine refused_of_not_ready fun sql kind labels h => ?_
    obtain ⟨-, -, table, names, tuples, hwritten, -⟩ := build_ready_iff.1 h
    exact hne (names_perm hwritten.tuples hd row hrow)

/-- Rows with different columns, and a third one with another column. -/
theorem kept_iff_two_rows :
    let q := ((Insert.intoTable "t").addRow [("a", .data "1"), ("b", .data "2")]).addRow
      [("b", .data "4"), ("a", .data "3")]
    let q' := q.addRow [("a", .data "5"), ("c", .data "6")]
    let void : Compiler := ⟨Literal.escape, .void⟩
    (∃ table names tuples, q.IsWritten {} table names tuples ∧ q.AllKept {} tuples ∧
      (Outline.insert table names tuples).write = "INSERT INTO `t` (`a`, `b`) VALUES ('1', '2'), ('3', '4')") ∧
    ((∃ e, (q'.build void).result = .error e) ∨
      Policy.void = .void ∧ (q'.build void).result = .ok (.voided .insert)) := by
  intro q q' void
  have hbuild : (q.build {}).result =
      .ok (.ready "INSERT INTO `t` (`a`, `b`) VALUES ('1', '2'), ('3', '4')" .insert []) := by decide +kernel
  have hcolumns : q.columns.Nodup := by decide
  obtain ⟨table, names, tuples, hwritten, hsql, -, hkept⟩ := (kept_iff {} q).1 _ _ _ hbuild
  have hother : ∃ row ∈ q'.rows, ¬row.names.Perm q'.columns := by decide
  exact ⟨⟨table, names, tuples, hwritten, hkept hcolumns, hsql⟩, (kept_iff void q').2 (by decide) hother⟩

/-- A column that comes twice in the first row. The insertion is built, although the second row has another
column in place of the second one, and it has lost the values 2 and 4. -/
theorem build_loses :
    let q := ((Insert.intoTable "t").addRow [("a", .data "1"), ("a", .data "2")]).addRow
      [("a", .data "3"), ("b", .data "4")]
    (q.build {}).result = .ok (.ready "INSERT INTO `t` (`a`, `a`) VALUES ('1', '1'), ('3', '3')" .insert []) ∧
      (∃ row ∈ q.rows, ¬row.names.Perm q.columns) ∧
      ∀ table names tuples, q.IsWritten {} table names tuples → ¬q.AllKept {} tuples := by
  intro q
  have hother : ∃ row ∈ q.rows, ¬row.names.Perm q.columns := by decide
  refine ⟨by decide +kernel, hother, fun table names tuples hwritten hkept => ?_⟩
  obtain ⟨row, hrow, hne⟩ := hother
  exact hne ((forall₂_isKept_iff hwritten.tuples).1 hkept row hrow).1

end Insert

end GuardedSql
