import GuardedSql.Session

/-!
# What is shown of long texts

Errors are kept, and SQL is logged, in a number of bytes. A text that takes more is cut at the last place between
characters that is in reach, and three dots stand for the rest.

- `IsLongest`, `isLongest_iff`: the longest beginning that fits, which is what the cut leaves.
- `IsShown`, `isShown_abridge`: a text in full, or its longest beginning and three dots.
- `cuts_between_characters`: where the cut is, what it leaves, and what outcomes and the log show of a text.
-/

namespace GuardedSql

namespace Text

open String.Pos (Raw)

variable {room : Nat} {s t u : String}

/-! ## What the cut leaves -/

theorem backOff_of_size_le (h : s.utf8ByteSize ≤ room) : backOff s room = s.utf8ByteSize := by
  have hplace := isLastPlace_backOff s room
  have hend : Raw.IsValid s ⟨s.utf8ByteSize⟩ := Raw.isValid_rawEndPos
  exact Nat.le_antisymm hplace.between.le_utf8ByteSize (hplace.last _ hend h)

theorem exists_upTo_append {i : Nat} (h : Raw.IsValid s ⟨i⟩) : ∃ rest, s = upTo s i h ++ rest :=
  ⟨_, (s.pos ⟨i⟩ h).splits.eq_append⟩

theorem toByteArray_upTo {i : Nat} (h : Raw.IsValid s ⟨i⟩) :
    (upTo s i h).toByteArray = s.toByteArray.extract 0 i :=
  (s.pos ⟨i⟩ h).splits.toByteArray_left_eq

/-- A text that fits ends at the last place too, so there is one equation for both. -/
theorem clip_eq_upTo (room : Nat) (s : String) :
    clip room s = upTo s (backOff s room) (isLastPlace_backOff s room).between := by
  rw [clip]
  split
  case isTrue h =>
    rw [← String.toByteArray_inj, toByteArray_upTo, backOff_of_size_le h, ← String.size_toByteArray,
      ByteArray.extract_zero_size]
  case isFalse => rfl

theorem toByteArray_clip (room : Nat) (s : String) :
    (clip room s).toByteArray = s.toByteArray.extract 0 (backOff s room) := by
  rw [clip_eq_upTo, toByteArray_upTo]

theorem utf8ByteSize_clip (room : Nat) (s : String) : (clip room s).utf8ByteSize = backOff s room := by
  have hle : backOff s room ≤ s.utf8ByteSize := (isLastPlace_backOff s room).between.le_utf8ByteSize
  rw [← String.size_toByteArray, toByteArray_clip, ByteArray.size_extract, String.size_toByteArray]
  omega

/-- The longest text of at most `room` bytes with which a text begins. -/
structure IsLongest (room : Nat) (s t : String) : Prop where
  begins : ∃ rest, s = t ++ rest
  fits : t.utf8ByteSize ≤ room
  longest : ∀ u rest, s = u ++ rest → u.utf8ByteSize ≤ room → u.utf8ByteSize ≤ t.utf8ByteSize

theorem isLongest_clip (room : Nat) (s : String) : IsLongest room s (clip room s) where
  begins := by
    rw [clip_eq_upTo]
    exact exists_upTo_append _
  fits := by
    rw [utf8ByteSize_clip]
    exact (isLastPlace_backOff s room).le
  longest u rest hu hfits := by
    have hend : Raw.IsValid s ⟨u.utf8ByteSize⟩ := Raw.isValid_iff_exists_append.2 ⟨u, rest, hu, rfl⟩
    rw [utf8ByteSize_clip]
    exact (isLastPlace_backOff s room).last _ hend hfits

/-- There is only one: two beginnings of a text that have the same size are the same. -/
theorem IsLongest.eq (ht : IsLongest room s t) (hu : IsLongest room s u) : t = u := by
  obtain ⟨rest, hrest⟩ := ht.begins
  obtain ⟨rest', hrest'⟩ := hu.begins
  have hsize : t.utf8ByteSize = u.utf8ByteSize :=
    Nat.le_antisymm (hu.longest t rest hrest ht.fits) (ht.longest u rest' hrest' hu.fits)
  have hbytes : t.toByteArray ++ rest.toByteArray = u.toByteArray ++ rest'.toByteArray := by
    rw [← String.toByteArray_append, ← String.toByteArray_append, ← hrest, ← hrest']
  exact String.toByteArray_inj.1 (ByteArray.append_inj_left hbytes hsize)

theorem isLongest_iff : IsLongest room s t ↔ t = clip room s := by
  constructor
  · intro h
    exact h.eq (isLongest_clip room s)
  · rintro rfl
    exact isLongest_clip room s

theorem clip_eq_self_iff : clip room s = s ↔ s.utf8ByteSize ≤ room := by
  constructor
  · intro h
    rw [← h]
    exact (isLongest_clip room s).fits
  · intro h
    exact if_pos h

/-- A cut inside a character leaves nothing of it, also if nothing comes before it. -/
example : clip 2 "aéb" = "a" ∧ clip 3 "aéb" = "aé" ∧ clip 2 "€" = "" := by decide

/-! ## What is shown -/

/-- What is shown of a text with room for `limit` bytes, or without a limit. -/
inductive IsShown (limit : Option Nat) (s : String) : String → Prop
  | whole (h : ∀ room ∈ limit, s.utf8ByteSize ≤ room) : IsShown limit s s
  | cut {room : Nat} {t : String} (hlimit : limit = some room) (h : room < s.utf8ByteSize)
      (ht : IsLongest room s t) : IsShown limit s (t ++ "...")

theorem isShown_abridge (room : Nat) (s : String) : IsShown (some room) s (abridge room s) := by
  rw [abridge]
  split
  case isTrue h => exact .whole (by simpa using h)
  case isFalse h => exact .cut rfl (by omega) (isLongest_clip room s)

end Text

open Text

/-- The notice of an outcome shows the SQL of the query once, and that of a voided statement does not. -/
theorem Outcome.exists_sql_mem_fields (limit : Option Nat) (q : Query) (o : Outcome) :
    ∃ shown, IsShown limit q.sql shown ∧
      ∀ t, ("sql", t) ∈ (o.notice limit q).fields ↔ o ≠ .voided ∧ t = shown := by
  cases limit with
  | none =>
    refine ⟨q.sql, .whole nofun, fun t => ?_⟩
    cases o <;> simp [notice, Notice.fields]
  | some room =>
    refine ⟨abridge room q.sql, isShown_abridge room q.sql, fun t => ?_⟩
    cases o <;> simp [notice, Notice.fields]

/-- A cut is at the last place between characters that is in reach, and leaves the bytes before it, which are the
longest beginning that fits, in whole characters. What is kept of an error, and what the log shows of the SQL of a
query, is the whole text if it fits, and else its longest beginning that does and three dots. -/
theorem Text.cuts_between_characters (room : Nat) (s : String) :
    IsLastPlace s room (backOff s room) ∧
      (clip room s).toByteArray = s.toByteArray.extract 0 (backOff s room) ∧
      (∀ t, IsLongest room s t ↔ t = clip room s) ∧
      (clip room s = s ↔ s.utf8ByteSize ≤ room) ∧
      (∃ shown, IsShown (some 512) s shown ∧ Outcome.failure s = .error shown) ∧
      ∀ (limit : Option Nat) (q : Query) (duration : Nat) (o : Outcome), ∃ n shown,
        Event.logged limit (.completed q duration o) = some n ∧ IsShown limit q.sql shown ∧
          ∀ t, ("sql", t) ∈ n.fields ↔ o ≠ .voided ∧ t = shown := by
  have herror : ∃ shown, IsShown (some 512) s shown ∧ Outcome.failure s = .error shown :=
    ⟨abridge 512 s, isShown_abridge 512 s, rfl⟩
  refine ⟨isLastPlace_backOff s room, toByteArray_clip room s, fun t => isLongest_iff, clip_eq_self_iff, herror,
    fun limit q duration o => ?_⟩
  obtain ⟨shown, hshown, hfields⟩ := o.exists_sql_mem_fields limit q
  exact ⟨o.notice limit q, shown, rfl, hshown, hfields⟩

end GuardedSql
