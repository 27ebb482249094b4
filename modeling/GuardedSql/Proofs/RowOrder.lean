import Mathlib.Data.List.Perm.Basic
import GuardedSql.Proofs.Rows

/-!
# The order of the values in a row

A row whose columns are different gives each of them the same value in whatever order it lists them. So the order
in a row after the first one makes no difference, also not to which error there is. The order in the first row is
that of the columns: the places of the columns and of the values in every tuple go with it.

- `InsertRow.lookup_perm`: the answers of a row in another order.
- `arrange_map`, `exists_arrange`: a list in another order as the list of the places of its members.
- `InsertRow.Fills.arranged`: what a row gives for the columns in another order.
- `Insert.build_perm`: rows after the first one in another order.
- `Insert.matched_by_name`: values are found by their names.
-/

namespace GuardedSql

/-! ## Lists in another order -/

/-- The members of a list at these places. -/
def arrange {α : Type} (places : List Nat) (xs : List α) : List α :=
  places.filterMap (xs[·]?)

section

variable {α β : Type} {places : List Nat} {xs xs' : List α}

theorem arrange_map (f : α → β) (places : List Nat) (xs : List α) :
    arrange places (xs.map f) = (arrange places xs).map f := by
  simp [arrange, List.map_filterMap]

/-- The places name the members of another list, one after the other. -/
theorem arrange_eq_of_map (h : xs'.map some = places.map (xs[·]?)) : arrange places xs = xs' := by
  have hplaces : arrange places xs = (places.map (xs[·]?)).filterMap id := by
    rw [List.filterMap_map]
    rfl
  rw [hplaces, ← h, List.filterMap_map]
  exact List.filterMap_some

theorem map_some_eq (xs : List α) : xs.map some = (List.range xs.length).map (xs[·]?) := by
  refine List.ext_getElem (by simp) fun i _ _ => ?_
  simp

theorem arrange_perm (h : places.Perm (List.range xs.length)) : (arrange places xs).Perm xs := by
  have hrange : arrange (List.range xs.length) xs = xs := arrange_eq_of_map (map_some_eq xs)
  have hperm : (arrange places xs).Perm (arrange (List.range xs.length) xs) := h.filterMap _
  rwa [hrange] at hperm

/-- Whatever the order is, it is that of some places. -/
theorem exists_arrange (h : xs'.Perm xs) :
    ∃ places, places.Perm (List.range xs.length) ∧ xs' = arrange places xs := by
  -- the places are put in order with the members: equal members have a place each
  have hrange : List.Forall₂ (fun x i => some x = xs[i]?) xs (List.range xs.length) :=
    map_eq_map_iff.1 (map_some_eq xs)
  obtain ⟨places, hmembers, hperm⟩ := List.perm_comp_forall₂ h hrange
  have hmap : xs'.map some = places.map (xs[·]?) := map_eq_map_iff.2 hmembers
  exact ⟨places, hperm, (arrange_eq_of_map hmap).symm⟩

end

variable {c : Compiler} {columns values : List String}

/-! ## Rows in another order -/

namespace InsertRow

variable {row row' : InsertRow}

theorem lookup_eq_some_iff (hd : row.names.Nodup) {column : String} {value : Token} :
    row.lookup column = some value ↔ (column, value) ∈ row := by
  refine ⟨mem_of_lookup, fun hmem => ?_⟩
  cases hlookup : row.lookup column with
  | none =>
    have hname := List.lookup_eq_none_iff.1 hlookup (column, value) hmem
    simp at hname
  | some found =>
    have hsame := List.inj_on_of_nodup_map hd (mem_of_lookup hlookup) hmem rfl
    rw [(Prod.mk.inj hsame).2]

theorem lookup_perm (h : row'.Perm row) (hd : row.names.Nodup) (column : String) :
    row'.lookup column = row.lookup column := by
  have hd' : row'.names.Nodup := (h.map Prod.fst).nodup_iff.2 hd
  refine Option.ext fun value => ?_
  rw [lookup_eq_some_iff hd', lookup_eq_some_iff hd, h.mem_iff]

theorem answer_perm (h : row'.Perm row) (hd : row.names.Nodup) : row'.answer c = row.answer c := by
  funext column
  rw [answer, answer, lookup_perm h hd]

/-- For the columns in another order the row gives the texts in that order. -/
theorem Fills.arranged {places : List Nat} (h : Fills c columns row values)
    (hplaces : places.Perm (List.range columns.length)) (hrow : row'.Perm row) (hd : row.names.Nodup) :
    Fills c (arrange places columns) row' (arrange places values) where
  width := by rw [hrow.length_eq, h.width, (arrange_perm hplaces).length_eq]
  answers := by rw [answer_perm hrow hd, ← arrange_map, ← arrange_map, h.answers]

end InsertRow

namespace Insert

variable {q q' : Insert}

/-! ## Other rows than the first one -/

/-- The same insertion, up to the order of the values in the rows after the first one. -/
structure IsReordering (q q' : Insert) : Prop where
  table : q'.table = q.table
  first : q'.rows.head? = q.rows.head?
  rows : List.Forall₂ List.Perm q'.rows q.rows

theorem tuple_perm {row row' : InsertRow} (h : row'.Perm row) (hd : row.names.Nodup) (i : Nat) :
    tuple c columns i row' = tuple c columns i row := by
  simp only [tuple, h.length_eq, InsertRow.lookup_perm h hd]

theorem tuples_perm {rows rows' : List InsertRow} (h : List.Forall₂ List.Perm rows' rows)
    (hd : ∀ row ∈ rows, row.names.Nodup) (i : Nat) : tuples c columns i rows' = tuples c columns i rows := by
  induction h generalizing i with
  | nil => rfl
  | cons hrow _ ih =>
    obtain ⟨hrowd, hd⟩ := List.forall_mem_cons.1 hd
    simp only [tuples, tuple_perm hrow hrowd, ih hd]

theorem build_perm (h : q.IsReordering q') (hd : ∀ row ∈ q.rows, row.names.Nodup) : q'.build c = q.build c := by
  simp only [build, compile, h.table, h.first, tuples_perm h.rows hd]

/-! ## The first row -/

theorem fills_arranged {places : List Nat} (hplaces : places.Perm (List.range columns.length))
    {rows rows' : List InsertRow} (hrows : List.Forall₂ List.Perm rows' rows)
    (hd : ∀ row ∈ rows, row.names.Nodup) {tuples : List (List String)}
    (h : List.Forall₂ (InsertRow.Fills c columns) rows tuples) :
    List.Forall₂ (InsertRow.Fills c (arrange places columns)) rows' (tuples.map (arrange places)) := by
  induction hrows generalizing tuples with
  | nil =>
    obtain rfl : tuples = [] := List.forall₂_nil_left_iff.1 h
    exact .nil
  | cons hrow _ ih =>
    obtain ⟨values, rest, hvalues, hrest, rfl⟩ := List.forall₂_cons_left_iff.1 h
    obtain ⟨hrowd, hd⟩ := List.forall_mem_cons.1 hd
    exact .cons (hvalues.arranged hplaces hrow hrowd) (ih hd hrest)

/-- The columns in another order, and the values of each tuple with them. -/
theorem IsWritten.arranged {table : Token} {text : String} {names : List String} {tuples : List (List String)}
    {first first' : InsertRow} {rest : List InsertRow} {places : List Nat}
    (h : IsWritten c ⟨table, first :: rest⟩ text names tuples)
    (hd : ∀ row ∈ first :: rest, row.names.Nodup)
    (hplaces : places.Perm (List.range first.length)) (hfirst : first' = arrange places first) :
    IsWritten c ⟨table, first' :: rest⟩ text (arrange places names) (tuples.map (arrange places)) := by
  have hperm : first'.Perm first := hfirst ▸ arrange_perm hplaces
  have hcolumns : first'.map Prod.fst = arrange places (first.map Prod.fst) := by rw [hfirst, arrange_map]
  have hrange : places.Perm (List.range (first.map Prod.fst).length) := by simpa using hplaces
  have hrows : List.Forall₂ List.Perm (first' :: rest) (first :: rest) :=
    .cons hperm (List.forall₂_same.2 fun row _ => .refl row)
  refine ⟨h.table, ?_, ?_, ?_⟩
  · intro hempty
    have hnil : first' = [] := List.map_eq_nil_iff.1 hempty
    have hfirst : first = [] := (hnil ▸ hperm).symm.eq_nil
    exact h.columns (congrArg (List.map Prod.fst) hfirst)
  · change (first'.map Prod.fst).map _ = _
    rw [hcolumns, ← arrange_map, ← arrange_map]
    exact congrArg (arrange places) h.names
  · change List.Forall₂ (InsertRow.Fills c (first'.map Prod.fst)) _ _
    rw [hcolumns]
    exact fills_arranged hrange hrows hd h.tuples

/-- Values are matched by their names, where each row has different columns. In the rows after the first one, the
order of the values makes no difference to what is given or to the notices. In the first row it is the order of
the columns: if the insertion is built, then with the values of its first row in another order it is written with
the columns and the values of every tuple in that order. -/
theorem matched_by_name (c : Compiler) (q : Insert) (hd : ∀ row ∈ q.rows, row.names.Nodup) :
    (∀ q', q.IsReordering q' → q'.build c = q.build c) ∧
    ∀ first rest sql kind labels, q.rows = first :: rest →
      (q.build c).result = .ok (.ready sql kind labels) →
      ∃ table names tuples, q.IsWritten c table names tuples ∧ (Outline.insert table names tuples).write = sql ∧
        ∀ first', first'.Perm first →
          ∃ places, places.Perm (List.range first.length) ∧ first' = arrange places first ∧
            (build c ⟨q.table, first' :: rest⟩).result =
              .ok (.ready (Outline.insert table (arrange places names) (tuples.map (arrange places))).write
                .insert []) := by
  refine ⟨fun q' h => build_perm h hd, fun first rest sql kind labels hrows h => ?_⟩
  obtain ⟨table, rows⟩ := q
  obtain rfl : rows = first :: rest := hrows
  obtain ⟨-, -, text, names, tuples, hwritten, hsql⟩ := build_ready_iff.1 h
  refine ⟨text, names, tuples, hwritten, hsql, fun first' hfirst => ?_⟩
  obtain ⟨places, hplaces, harrange⟩ := exists_arrange hfirst
  have harranged := hwritten.arranged hd hplaces harrange
  exact ⟨places, hplaces, harrange, build_ready_iff.2 ⟨rfl, rfl, _, _, _, harranged, rfl⟩⟩

/-- The second row the other way round, and then the first one. -/
theorem matched_by_name_swapped :
    let first : InsertRow := [("a", .data "1"), ("b", .data "2")]
    let q : Insert := ⟨.column "t", [first, [("b", .data "4"), ("a", .data "3")]]⟩
    let q' : Insert := ⟨.column "t", [first, [("a", .data "3"), ("b", .data "4")]]⟩
    q'.build {} = q.build {} ∧
      ∃ table names tuples, q.IsWritten {} table names tuples ∧
        (Outline.insert table names tuples).write = "INSERT INTO `t` (`a`, `b`) VALUES ('1', '2'), ('3', '4')" ∧
        ∃ places, places.Perm [0, 1] ∧ first.reverse = arrange places first ∧
          (build {} ⟨.column "t", [first.reverse, [("b", .data "4"), ("a", .data "3")]]⟩).result =
            .ok (.ready (Outline.insert table (arrange places names) (tuples.map (arrange places))).write
              .insert []) := by
  intro first q q'
  have hd : ∀ row ∈ q.rows, row.names.Nodup := by decide
  have hrows : List.Forall₂ List.Perm q'.rows q.rows := .cons (.refl _) (.cons (.swap _ _ _) .nil)
  have hbuild : (q.build {}).result =
      .ok (.ready "INSERT INTO `t` (`a`, `b`) VALUES ('1', '2'), ('3', '4')" .insert []) := by decide +kernel
  obtain ⟨hsame, hfirst⟩ := matched_by_name {} q hd
  obtain ⟨table, names, tuples, hwritten, hsql, harranged⟩ := hfirst first _ _ _ _ rfl hbuild
  exact ⟨hsame q' ⟨rfl, rfl, hrows⟩, table, names, tuples, hwritten, hsql, harranged _ first.reverse_perm⟩

end Insert

end GuardedSql
