/-!
# White space

The characters with the Unicode property `White_Space`, and what is done with them: trimming, the
blank test, and the words of a text. A text is looked at as its list of characters.

- `isSpace_of_isWhitespace`: every character of the core library's class is in the table.
- `trim_eq_nil_iff`: trimming leaves nothing of a text of spaces, and of no other.
-/

namespace GuardedSql.Text

/-- The ranges of the property `White_Space`, in code point order. -/
def spaceRanges : List (Nat × Nat) :=
  [(0x09, 0x0D), (0x20, 0x20), (0x85, 0x85), (0xA0, 0xA0), (0x1680, 0x1680), (0x2000, 0x200A),
    (0x2028, 0x2029), (0x202F, 0x202F), (0x205F, 0x205F), (0x3000, 0x3000)]

/-- A character with the property `White_Space`. -/
def isSpace (c : Char) : Bool :=
  spaceRanges.any fun (first, last) => first ≤ c.toNat && c.toNat ≤ last

example : (spaceRanges.map fun (first, last) => last + 1 - first).sum = 25 := by decide

theorem isSpace_of_isWhitespace {c : Char} (h : c.isWhitespace = true) : isSpace c = true := by
  simp only [Char.isWhitespace, Bool.or_eq_true, decide_eq_true_eq] at h
  rcases h with ((h | h) | h) | h <;> subst h <;> decide

def trimStart (s : List Char) : List Char :=
  s.dropWhile isSpace

def trimEnd (s : List Char) : List Char :=
  (s.reverse.dropWhile isSpace).reverse

/-- The text without the spaces at its two ends. -/
def trim (s : List Char) : List Char :=
  trimEnd (trimStart s)

/-- Whether a text has nothing but spaces. -/
def isBlank (s : String) : Bool :=
  s.toList.all isSpace

theorem dropWhile_isSpace_eq_nil_iff {s : List Char} :
    s.dropWhile isSpace = [] ↔ s.all isSpace = true := by
  induction s with
  | nil => simp
  | cons c s ih => by_cases h : isSpace c <;> simp [h, ih]

theorem all_trimStart (s : List Char) : (trimStart s).all isSpace = s.all isSpace := by
  induction s with
  | nil => rfl
  | cons c s ih => by_cases h : isSpace c <;> simp_all [trimStart]

theorem trim_eq_nil_iff {s : List Char} : trim s = [] ↔ s.all isSpace = true := by
  rw [trim, trimEnd, List.reverse_eq_nil_iff, dropWhile_isSpace_eq_nil_iff, List.all_reverse,
    all_trimStart]

/-- The parts of a text between the characters that satisfy `p`: one more than there are of them. -/
def split (p : Char → Bool) : List Char → List (List Char)
  | [] => [[]]
  | c :: cs => if p c then [] :: split p cs else (split p cs).modifyHead (c :: ·)

/-- The runs of characters that are not spaces. -/
def words (s : List Char) : List (List Char) :=
  (split isSpace s).filter fun word => !word.isEmpty

end GuardedSql.Text
