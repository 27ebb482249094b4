/-!
# Tokens

A key or a value of a statement is a token: a text with the role in which it is written. A marked text
says its role itself, by a mark at its very end: the bar and a letter.

| mark | the text is |
|------|-------------|
| `q`  | raw SQL, written as it is |
| `v`  | a literal, also in column position |
| `b`  | left out |
| `c`  | a column, also in value position |

Only `Token.parse` reads marks, once and at the end of the text: `a|x|q` is the raw text `a|x`, and `a|qb`
has no mark.

- `splitMark_append_mark`, `splitMark_eq_none_iff`: when a text has a mark, and which.
-/

namespace GuardedSql

/-- What the mark at the end of a text asks for. -/
inductive Mark where
  | raw
  | literal
  | blank
  | reference
deriving DecidableEq, Repr

namespace Mark

def letter : Mark → Char
  | .raw => 'q'
  | .literal => 'v'
  | .blank => 'b'
  | .reference => 'c'

def ofLetter? : Char → Option Mark
  | 'q' => some .raw
  | 'v' => some .literal
  | 'b' => some .blank
  | 'c' => some .reference
  | _ => none

theorem ofLetter?_eq_some_iff {c : Char} {m : Mark} : ofLetter? c = some m ↔ c = m.letter := by
  constructor
  · intro h
    unfold ofLetter? at h
    split at h <;> cases h <;> rfl
  · rintro rfl
    cases m <;> rfl

end Mark

/-- The mark at the end of a text that is given back to front, and the text before it. -/
def splitMarkRev : List Char → Option (List Char × Mark)
  | letter :: '|' :: rest => (Mark.ofLetter? letter).map fun m => (rest.reverse, m)
  | _ => none

/-- The text before its mark, and the mark; nothing if the text ends in none. -/
def splitMark (s : List Char) : Option (List Char × Mark) :=
  splitMarkRev s.reverse

theorem splitMark_append_mark (s : List Char) (m : Mark) :
    splitMark (s ++ ['|', m.letter]) = some (s, m) := by
  simp [splitMark, splitMarkRev, Mark.ofLetter?_eq_some_iff.2 rfl]

theorem eq_append_of_splitMark {s t : List Char} {m : Mark} (h : splitMark s = some (t, m)) :
    s = t ++ ['|', m.letter] := by
  unfold splitMark splitMarkRev at h
  split at h
  · rename_i c rest heq
    simp only [Option.map_eq_some_iff, Prod.mk.injEq] at h
    obtain ⟨m', hm, rfl, rfl⟩ := h
    rw [← List.reverse_reverse s, heq, Mark.ofLetter?_eq_some_iff.1 hm]
    simp
  · cases h

theorem splitMark_eq_none_iff {s : List Char} :
    splitMark s = none ↔ ∀ t m, s ≠ t ++ ['|', Mark.letter m] := by
  constructor
  · rintro h t m rfl
    rw [splitMark_append_mark] at h
    cases h
  · intro h
    cases hs : splitMark s with
    | none => rfl
    | some r => exact absurd (eq_append_of_splitMark hs) (h r.1 r.2)

/-- The side of a comparison on which a text stands. -/
inductive Position where
  | column
  | value
deriving DecidableEq, Repr

/-- How a text is written into a statement. -/
inductive Role where
  /-- an identifier, in backticks -/
  | column
  /-- a literal, escaped and in single quotes -/
  | value
  /-- as it is -/
  | raw
  /-- a literal, also in column position -/
  | literal
  /-- not at all -/
  | blank
  /-- an identifier in value position -/
  | reference
deriving DecidableEq, Repr

namespace Role

/-- The role of a text in its position. A reference in column position is a column. -/
def ofMark : Option Mark → Position → Role
  | none, .column => .column
  | none, .value => .value
  | some .raw, _ => .raw
  | some .literal, _ => .literal
  | some .blank, _ => .blank
  | some .reference, .column => .column
  | some .reference, .value => .reference

def isIdentifier : Role → Bool
  | .column | .reference => true
  | _ => false

def isLiteral : Role → Bool
  | .value | .literal => true
  | _ => false

end Role

/-- A text in its role, or the SQL value `NULL`. -/
inductive Token where
  | of (role : Role) (text : String)
  | null
deriving DecidableEq, Repr

namespace Token

/-- The token of a marked text. -/
def parse (position : Position) (marked : String) : Token :=
  match splitMark marked.toList with
  | some (text, m) => .of (Role.ofMark (some m) position) (String.ofList text)
  | none => .of (Role.ofMark none position) marked

/-- The token of a marked text in column position. -/
def column (marked : String) : Token :=
  parse .column marked

/-- The token of a marked text in value position. -/
def value (marked : String) : Token :=
  parse .value marked

/-- A text that is data whatever it holds. -/
def data (text : String) : Token :=
  .of .value text

def raw (sql : String) : Token :=
  .of .raw sql

def literal (text : String) : Token :=
  .of .literal text

def reference (name : String) : Token :=
  .of .reference name

/-- A position that is left out. -/
def blank : Token :=
  .of .blank ""

/-- The text of a token; that of `NULL` is its keyword. -/
def text : Token → String
  | .of _ text => text
  | .null => "NULL"

/-- The role of a token; `NULL` is written as it is. -/
def role : Token → Role
  | .of role _ => role
  | .null => .raw

def isNull : Token → Bool
  | .null => true
  | _ => false

def isBlank (t : Token) : Bool :=
  t.role = .blank

end Token

end GuardedSql
