/-!
# Cutting a text to a number of bytes

Lengths are counted in UTF-8 bytes. A cut that would fall inside a character is moved back, byte by byte, to where
the character begins.

- `isLastPlace_backOff`: it is moved to the last place between characters, and no further.
-/

namespace GuardedSql.Text

open String.Pos (Raw)

/-! ## The place of a cut -/

/-- Where a cut after `i` bytes is moved back to. -/
def backOff (s : String) : (i : Nat) → Nat
  | 0 => 0
  | i + 1 => if Raw.isValid s ⟨i + 1⟩ then i + 1 else backOff s i

/-- The last place between characters that is at most `i` bytes from the beginning of a text. -/
structure IsLastPlace (s : String) (i j : Nat) : Prop where
  between : Raw.IsValid s ⟨j⟩
  le : j ≤ i
  last : ∀ k, Raw.IsValid s ⟨k⟩ → k ≤ i → k ≤ j

namespace IsLastPlace

variable {s : String} {i j : Nat}

theorem of_isValid (h : Raw.IsValid s ⟨i⟩) : IsLastPlace s i i where
  between := h
  le := Nat.le_refl i
  last _ _ hle := hle

/-- A byte inside a character is passed over. -/
theorem succ (h : IsLastPlace s i j) (hinside : ¬ Raw.IsValid s ⟨i + 1⟩) : IsLastPlace s (i + 1) j where
  between := h.between
  le := Nat.le_succ_of_le h.le
  last k hk hle := by
    have hne : k ≠ i + 1 := by
      rintro rfl
      exact hinside hk
    exact h.last k hk (by omega)

end IsLastPlace

theorem isLastPlace_backOff (s : String) (i : Nat) : IsLastPlace s i (backOff s i) := by
  induction i with
  | zero => exact .of_isValid Raw.isValid_zero
  | succ i ih =>
    rw [backOff]
    split
    case isTrue h => exact .of_isValid (Raw.isValid_eq_true_iff.1 h)
    case isFalse h => exact ih.succ fun hvalid => h (Raw.isValid_eq_true_iff.2 hvalid)

/-! ## Cut texts -/

/-- The first `i` bytes of a text, which are a text if they end between characters. -/
def upTo (s : String) (i : Nat) (h : Raw.IsValid s ⟨i⟩) : String :=
  (s.sliceTo (s.pos ⟨i⟩ h)).copy

/-- The longest beginning of a text that takes at most `room` bytes. -/
def clip (room : Nat) (s : String) : String :=
  if s.utf8ByteSize ≤ room then s else upTo s (backOff s room) (isLastPlace_backOff s room).between

/-- The text itself if it fits, else what `clip` leaves of it, followed by three dots. -/
def abridge (room : Nat) (s : String) : String :=
  if s.utf8ByteSize ≤ room then s else clip room s ++ "..."

end GuardedSql.Text
