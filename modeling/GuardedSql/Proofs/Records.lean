import GuardedSql.Record
import Mathlib.Data.List.Nodup

/-!
# The records of rows

A row may have a column more than once. The row is asked for the first of its values; the record keeps the place
of the first and the value of the last. So they have the same columns, and the same value for a column that comes
once.

- `lookup_reverse_eq_some_iff`: the last value of a key.
- `Record.IsOf`: what a record is of its row.
- `Record.isOf_ofRows`: every row has its record, and records are the records of their own entries.
-/

namespace GuardedSql

/-! ## The first and the last of several values -/

section

variable {κ α : Type} [DecidableEq κ] {entries : List (κ × α)} {key : κ} {value : α}

theorem lookup_reverse_eq_some_iff :
    entries.reverse.lookup key = some value ↔
      ∃ before after, entries = before ++ (key, value) :: after ∧ key ∉ after.map Prod.fst := by
  rw [List.lookup_eq_some_iff]
  constructor
  · rintro ⟨after, before, hentries, hafter⟩
    refine ⟨before.reverse, after.reverse, ?_, ?_⟩
    · rw [← List.reverse_reverse entries, hentries]
      simp
    · rw [List.map_reverse, List.mem_reverse]
      intro hmem
      obtain ⟨e, he, hkey⟩ := List.mem_map.1 hmem
      exact absurd hkey.symm (by simpa using hafter e he)
  · rintro ⟨before, after, rfl, hafter⟩
    refine ⟨after.reverse, before.reverse, by simp, fun e he => ?_⟩
    have hne : key ≠ e.1 := fun h => hafter (h ▸ List.mem_map_of_mem (List.mem_reverse.1 he))
    simpa using hne

theorem isSome_lookup_iff : (entries.lookup key).isSome = true ↔ key ∈ entries.map Prod.fst := by
  rw [Option.isSome_iff_ne_none, ne_eq, List.lookup_eq_none_iff, List.mem_map]
  simp [@eq_comm _ key]

/-- The only value of a key is the first and the last one. -/
theorem lookup_reverse_of_count (h : (entries.map Prod.fst).count key = 1) :
    entries.reverse.lookup key = entries.lookup key := by
  have hmem : key ∈ entries.map Prod.fst := List.count_pos_iff.1 (by omega)
  obtain ⟨value, hvalue⟩ := Option.isSome_iff_exists.1 (isSome_lookup_iff.2 hmem)
  obtain ⟨before, after, rfl, -⟩ := List.lookup_eq_some_iff.1 hvalue
  rw [hvalue, lookup_reverse_eq_some_iff]
  refine ⟨before, after, rfl, List.count_eq_zero.1 ?_⟩
  rw [List.map_append, List.map_cons, List.count_append, List.count_cons_self] at h
  omega

end

/-! ## Records -/

/-- The names of the columns, as often as they come. -/
def Row.columns (row : Row) : List String :=
  row.map Prod.fst

namespace Record

/-- The record of a row. -/
structure IsOf (row : Row) (r : Record) : Prop where
  /-- the columns of the row, each in the place where it first comes -/
  keys : r.keys = row.columns.eraseDups
  /-- the last value that the row has for a column -/
  value : ∀ column value, r.find? column = some value ↔
    ∃ (before after : Row), row = before ++ (column, value) :: after ∧ column ∉ after.columns
  /-- there is a value where the row has one -/
  isSome : ∀ column, (r.find? column).isSome = (row.get? column).isSome
  /-- and it is the same for a column that comes once -/
  once : ∀ column, row.columns.count column = 1 → r.find? column = row.get? column

theorem isOf_ofList (row : Row) : IsOf row (.ofList row) where
  keys := Keyed.keys_ofList row
  value column value := by
    rw [Keyed.find?_ofList]
    exact lookup_reverse_eq_some_iff
  isSome column := by
    rw [Keyed.find?_ofList, Row.get?, Bool.eq_iff_iff, isSome_lookup_iff, isSome_lookup_iff, List.map_reverse,
      List.mem_reverse]
  once column h := by
    rw [Keyed.find?_ofList]
    exact lookup_reverse_of_count h

/-- There is one record for each row, in their order: the row's own. The rows that are made of the records' columns
and values have the same records. -/
theorem isOf_ofRows (rows : List Row) :
    List.Forall₂ IsOf rows (ofRows rows) ∧ ofRows ((ofRows rows).map toRow) = ofRows rows := by
  constructor
  · rw [ofRows, List.forall₂_map_right_iff, List.forall₂_same]
    exact fun row _ => isOf_ofList row
  · have hself : ∀ r : Record, Keyed.ofList (toRow r) = r := Keyed.ofList_entries
    rw [ofRows, ofRows, List.map_map, List.map_map]
    exact List.map_congr_left fun row _ => hself _

/-- Of three columns two have the same name: the record has the name first, with the later value, and the row is
asked for the earlier one. -/
example :
    let row : Row := [("id", .int 1), ("name", .null), ("id", .int 9)]
    (ofRows [row]).map (·.entries) = [[("id", .int 9), ("name", .null)]] ∧ row.get? "id" = some (.int 1) := by
  decide

end Record

end GuardedSql
