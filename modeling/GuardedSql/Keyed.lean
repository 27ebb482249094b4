/-!
# Maps in order of insertion

A map whose entries stand in the order in which their keys first came. A key that comes again keeps its
place and takes the new value.

- `find?_insert_self`, `find?_insert_of_ne`: what a look-up sees after an insertion.
- `keys_insert`: an insertion adds its key at the end, unless it is there.
- `entries_ofList`, `nodup_of_length_ofList`: a map made of entries has them all exactly if their keys are
  different.
- `keys_ofList`, `find?_ofList`: in any case it has each key where it first comes, with the value that comes last.
-/

namespace GuardedSql

variable {κ α : Type}

/-- A map as its entries, no key twice. -/
structure Keyed (κ α : Type) where
  entries : List (κ × α)
  nodup : (entries.map Prod.fst).Nodup

namespace Keyed

def empty : Keyed κ α := ⟨[], List.nodup_nil⟩

def keys (m : Keyed κ α) : List κ :=
  m.entries.map Prod.fst

@[ext] theorem ext {m n : Keyed κ α} (h : m.entries = n.entries) : m = n := by
  cases m; cases n; cases h; rfl

variable [DecidableEq κ]

/-- The entries with the value of `key` replaced, or with a new last entry. -/
def put (key : κ) (value : α) : List (κ × α) → List (κ × α)
  | [] => [(key, value)]
  | (k, v) :: rest => if k = key then (k, value) :: rest else (k, v) :: put key value rest

theorem map_fst_put (key : κ) (value : α) (entries : List (κ × α)) :
    (put key value entries).map Prod.fst =
      if key ∈ entries.map Prod.fst then entries.map Prod.fst else entries.map Prod.fst ++ [key] := by
  induction entries with
  | nil => simp [put]
  | cons e rest ih =>
    obtain ⟨k, v⟩ := e
    by_cases h : k = key
    · subst h; simp [put]
    · have h' : ¬ key = k := fun e => h e.symm
      by_cases hm : key ∈ rest.map Prod.fst <;> simp_all [put]

def insert (m : Keyed κ α) (key : κ) (value : α) : Keyed κ α where
  entries := put key value m.entries
  nodup := by
    rw [map_fst_put]
    split
    · exact m.nodup
    · rename_i h
      exact List.nodup_append.2 ⟨m.nodup, by simp, fun a ha b hb => by
        simp only [List.mem_singleton] at hb
        subst hb
        exact fun e => h (e ▸ ha)⟩

/-- The map that comes of inserting the entries one after the other. -/
def ofList (entries : List (κ × α)) : Keyed κ α :=
  entries.foldl (fun m e => m.insert e.1 e.2) empty

def find? (m : Keyed κ α) (key : κ) : Option α :=
  m.entries.lookup key

instance [DecidableEq α] : DecidableEq (Keyed κ α) := fun m n =>
  decidable_of_iff (m.entries = n.entries) ⟨Keyed.ext, fun h => h ▸ rfl⟩

theorem keys_insert (m : Keyed κ α) (key : κ) (value : α) :
    (m.insert key value).keys = if key ∈ m.keys then m.keys else m.keys ++ [key] :=
  map_fst_put key value m.entries

theorem lookup_put_self (key : κ) (value : α) (entries : List (κ × α)) :
    (put key value entries).lookup key = some value := by
  induction entries with
  | nil => simp [put]
  | cons e rest ih =>
    obtain ⟨k, v⟩ := e
    by_cases h : k = key
    · subst h; simp [put]
    · rw [put, if_neg h, List.lookup_cons, beq_eq_false_iff_ne.2 (Ne.symm h)]
      exact ih

theorem lookup_put_of_ne {key other : κ} (h : other ≠ key) (value : α) (entries : List (κ × α)) :
    (put key value entries).lookup other = entries.lookup other := by
  induction entries with
  | nil => simp [put, List.lookup_cons, beq_eq_false_iff_ne.2 h]
  | cons e rest ih =>
    obtain ⟨k, v⟩ := e
    by_cases hk : k = key
    · subst hk; simp [put, List.lookup_cons, beq_eq_false_iff_ne.2 h]
    · simp only [put, hk, if_false, List.lookup_cons, ih]

theorem find?_insert_self (m : Keyed κ α) (key : κ) (value : α) :
    (m.insert key value).find? key = some value :=
  lookup_put_self key value m.entries

theorem find?_insert_of_ne (m : Keyed κ α) {key other : κ} (h : other ≠ key) (value : α) :
    (m.insert key value).find? other = m.find? other :=
  lookup_put_of_ne h value m.entries

/-! ## Maps made of lists -/

theorem put_of_not_mem {key : κ} {entries : List (κ × α)} (h : key ∉ entries.map Prod.fst) (value : α) :
    put key value entries = entries ++ [(key, value)] := by
  induction entries with
  | nil => rfl
  | cons e rest ih =>
    simp only [List.map_cons, List.mem_cons, not_or] at h
    rw [put, if_neg (Ne.symm h.1), ih h.2, List.cons_append]

/-- Entries with keys that are new are added at the end. -/
theorem entries_foldl_insert (m : Keyed κ α) (entries : List (κ × α))
    (h : (m.keys ++ entries.map Prod.fst).Nodup) :
    (entries.foldl (fun m e => m.insert e.1 e.2) m).entries = m.entries ++ entries := by
  induction entries generalizing m with
  | nil => simp
  | cons e rest ih =>
    obtain ⟨key, value⟩ := e
    rw [List.map_cons, List.append_cons] at h
    have hkey : key ∉ m.keys := by
      have hleft := (List.nodup_append.1 h).1
      exact fun hmem => (List.nodup_append.1 hleft).2.2 key hmem key (List.mem_singleton_self key) rfl
    have hentries : (m.insert key value).entries = m.entries ++ [(key, value)] := put_of_not_mem hkey value
    have hkeys : (m.insert key value).keys = m.keys ++ [key] := by
      rw [keys_insert, if_neg hkey]
    rw [List.foldl_cons, ih _ (by rwa [hkeys]), hentries, List.append_assoc]
    rfl

theorem entries_ofList {entries : List (κ × α)} (h : (entries.map Prod.fst).Nodup) :
    (ofList entries).entries = entries :=
  entries_foldl_insert empty entries h

/-- A map is made of its own entries. -/
theorem ofList_entries (m : Keyed κ α) : ofList m.entries = m :=
  ext (entries_ofList m.nodup)

/-- Entries add their new keys, each where it first comes. -/
theorem keys_foldl_insert (m : Keyed κ α) (entries : List (κ × α)) :
    (entries.foldl (fun m e => m.insert e.1 e.2) m).keys =
      m.keys ++ ((entries.map Prod.fst).removeAll m.keys).eraseDups := by
  induction entries generalizing m with
  | nil => simp [List.removeAll]
  | cons e rest ih =>
    rw [List.foldl_cons, ih, keys_insert, List.map_cons, List.cons_removeAll]
    by_cases hkey : e.1 ∈ m.keys
    · rw [if_pos hkey, if_neg (by simpa using hkey)]
    · rw [if_neg hkey, if_pos (by simpa using hkey), List.eraseDups_cons, List.append_assoc,
        List.singleton_append]
      -- what is new after the key is what was new before, without the key
      have hrest : (rest.map Prod.fst).removeAll (m.keys ++ [e.1]) =
          ((rest.map Prod.fst).removeAll m.keys).filter fun key => !key == e.1 := by
        rw [List.removeAll, List.removeAll, List.filter_filter]
        refine List.filter_congr fun key _ => ?_
        by_cases h : key = e.1 <;> simp [h]
      rw [hrest]

theorem keys_ofList (entries : List (κ × α)) : (ofList entries).keys = (entries.map Prod.fst).eraseDups := by
  rw [ofList, keys_foldl_insert]
  simp [empty, keys]

/-- Of entries with one key the last one stays; where there is none, what was there before. -/
theorem find?_foldl_insert (m : Keyed κ α) (entries : List (κ × α)) (key : κ) :
    (entries.foldl (fun m e => m.insert e.1 e.2) m).find? key =
      (entries.reverse.lookup key).or (m.find? key) := by
  induction entries generalizing m with
  | nil => rfl
  | cons e rest ih =>
    obtain ⟨k, value⟩ := e
    rw [List.foldl_cons, ih, List.reverse_cons, List.lookup_append, Option.or_assoc]
    congr 1
    by_cases hkey : key = k
    · subst hkey
      simp [find?_insert_self]
    · rw [find?_insert_of_ne _ hkey, List.lookup_cons, beq_eq_false_iff_ne.2 hkey]
      rfl

theorem find?_ofList (entries : List (κ × α)) (key : κ) :
    (ofList entries).find? key = entries.reverse.lookup key := by
  rw [ofList, find?_foldl_insert]
  exact Option.or_none

theorem length_insert (m : Keyed κ α) (key : κ) (value : α) :
    (m.insert key value).entries.length = m.entries.length + if key ∈ m.keys then 0 else 1 := by
  have h := congrArg List.length (m.keys_insert key value)
  by_cases hkey : key ∈ m.keys
  · rw [if_pos hkey] at h ⊢
    simpa [keys] using h
  · rw [if_neg hkey] at h ⊢
    simpa [keys] using h

theorem length_foldl_insert_le (m : Keyed κ α) (entries : List (κ × α)) :
    (entries.foldl (fun m e => m.insert e.1 e.2) m).entries.length ≤ m.entries.length + entries.length := by
  induction entries generalizing m with
  | nil => simp
  | cons e rest ih =>
    have hrest := ih (m.insert e.1 e.2)
    rw [length_insert] at hrest
    rw [List.foldl_cons, List.length_cons]
    split at hrest <;> omega

/-- Where no entry has been lost, the keys were different. -/
theorem nodup_of_length_foldl_insert (m : Keyed κ α) (entries : List (κ × α))
    (h : (entries.foldl (fun m e => m.insert e.1 e.2) m).entries.length = m.entries.length + entries.length) :
    (m.keys ++ entries.map Prod.fst).Nodup := by
  induction entries generalizing m with
  | nil => simpa [keys] using m.nodup
  | cons e rest ih =>
    have hle := length_foldl_insert_le (m.insert e.1 e.2) rest
    have hlen := m.length_insert e.1 e.2
    rw [List.foldl_cons, List.length_cons] at h
    by_cases hkey : e.1 ∈ m.keys
    · rw [if_pos hkey] at hlen
      omega
    · rw [if_neg hkey] at hlen
      have hrest := ih (m.insert e.1 e.2) (by omega)
      rw [keys_insert, if_neg hkey] at hrest
      rwa [List.map_cons, List.append_cons]

theorem nodup_of_length_ofList {entries : List (κ × α)}
    (h : (ofList entries).entries.length = entries.length) : (entries.map Prod.fst).Nodup :=
  nodup_of_length_foldl_insert empty entries (by simpa [empty, ofList] using h)

end Keyed

end GuardedSql
