import GuardedSql.Filter

/-!
# Conditions as they are written

A condition as a sequence of words: atoms, `NOT`, `AND`, `OR` and parentheses, each spelled in any way. It is read
from left to right, `NOT` before `AND` and `AND` before `OR`, under an assignment of truth values to its atoms.

- `value?_words`: every expression has a truth value.
- `effect_le`: what is read before an expression and holds less often makes it hold less often.
- `effect_le_self`: an expression without an `OR` outside of parentheses can only make what is read before it hold
  less often.
-/

namespace GuardedSql

/-- A word of a condition, with its text. -/
inductive Word where
  | atom (text : String)
  | not (spelling : String)
  | join (j : Join) (spelling : String)
  | opening (spelling : String)
  | closing (spelling : String)
deriving DecidableEq, Repr

/-- What has been read of a condition inside of the same parentheses. -/
structure Word.Reading where
  /-- whether an alternative holds that is complete -/
  found : Bool := false
  /-- whether all operands hold of the one that is not -/
  run : Bool := true
  /-- whether `NOT` stands before the operand that comes next -/
  negated : Bool := false
deriving DecidableEq, Repr

namespace Word.Reading

/-- One more operand of the alternative. -/
def add (l : Reading) (b : Bool) : Reading :=
  { found := l.found, run := l.run && (if l.negated then !b else b) }

def negate (l : Reading) : Reading :=
  { l with negated := !l.negated }

def value (l : Reading) : Bool :=
  l.found || l.run

/-- What has been read after one more join. -/
def next (l : Reading) : Join → Reading
  | .and => l
  | .or => { found := l.value }

end Word.Reading

namespace Word

def text : Word → String
  | .atom text => text
  | .not spelling => spelling
  | .join _ spelling => spelling
  | .opening spelling => spelling
  | .closing spelling => spelling

/-- The text of a sequence of words. -/
def spell : List Word → String
  | [] => ""
  | w :: ws => w.text ++ spell ws

theorem spell_append (ws us : List Word) : spell (ws ++ us) = spell ws ++ spell us := by
  induction ws with
  | nil => exact String.empty_append.symm
  | cons w ws ih => rw [List.cons_append, spell, ih, spell, String.append_assoc]

variable (v : String → Bool)

mutual

/-- Reads on where an operand is expected, inside of parentheses before which `outer` has been read. -/
def operand (outer : List Reading) (l : Reading) : List Word → Option Bool
  | .atom text :: ws => operator outer (l.add (v text)) ws
  | .not _ :: ws => operand outer l.negate ws
  | .opening _ :: ws => operand (l :: outer) {} ws
  | _ => none
termination_by structural ws => ws

/-- Reads on after an operand. -/
def operator (outer : List Reading) (l : Reading) : List Word → Option Bool
  | [] => if outer.isEmpty then some l.value else none
  | .join j _ :: ws => operand outer (l.next j) ws
  | .closing _ :: ws =>
    match outer with
    | o :: outer => operator outer (o.add l.value) ws
    | [] => none
  | _ => none
termination_by structural ws => ws

end

/-- The truth value of a sequence of words, if it is a condition. -/
def value? (ws : List Word) : Option Bool :=
  operand v [] {} ws

end Word

/-- A condition by the order of its words. What is joined, negated and in parentheses is only written so: how it is
read depends on what is around it. -/
inductive Expression where
  | atom (text : String)
  | not (spelling : String) (e : Expression)
  | join (j : Join) (spelling : String) (left right : Expression)
  | parentheses (opening closing : String) (e : Expression)
deriving DecidableEq, Repr

namespace Expression

open Word (Reading)

def words : Expression → List Word
  | .atom text => [.atom text]
  | .not spelling e => .not spelling :: e.words
  | .join j spelling left right => left.words ++ .join j spelling :: right.words
  | .parentheses opening closing e => .opening opening :: (e.words ++ [.closing closing])

def text (e : Expression) : String :=
  Word.spell e.words

theorem text_atom (text : String) : (Expression.atom text).text = text :=
  String.append_empty

theorem text_join (j : Join) (spelling : String) (left right : Expression) :
    (join j spelling left right).text = left.text ++ spelling ++ right.text := by
  rw [Expression.text, words, Word.spell_append, Word.spell, ← String.append_assoc]
  rfl

theorem text_parentheses (opening closing : String) (e : Expression) :
    (parentheses opening closing e).text = opening ++ e.text ++ closing := by
  rw [Expression.text, words, Word.spell, Word.spell_append, Word.spell, Word.spell, String.append_empty,
    ← String.append_assoc]
  rfl

/-- The expression with a text: the first one that is known to have it, or an atom. -/
def ofText (known : List Expression) (text : String) : Expression :=
  (known.find? (·.text = text)).getD (.atom text)

theorem text_ofText (known : List Expression) (text : String) : (ofText known text).text = text := by
  unfold ofText
  cases h : known.find? (·.text = text) with
  | none => exact text_atom text
  | some e =>
    have he := List.find?_some h
    exact of_decide_eq_true he

/-- Whether no `OR` stands outside of parentheses. -/
def isConjunction : Expression → Bool
  | .atom _ => true
  | .not _ e => e.isConjunction
  | .join .and _ left right => left.isConjunction && right.isConjunction
  | .join .or .. => false
  | .parentheses .. => true

variable (v : String → Bool)

/-- What has been read after an expression. -/
def effect : Expression → Reading → Reading
  | .atom text, l => l.add (v text)
  | .not _ e, l => e.effect l.negate
  | .join j _ left right, l => right.effect ((left.effect l).next j)
  | .parentheses _ _ e, l => l.add (e.effect {}).value

variable {v}

theorem operand_words (e : Expression) (outer : List Reading) (l : Reading) (rest : List Word) :
    Word.operand v outer l (e.words ++ rest) = Word.operator v outer (e.effect v l) rest := by
  induction e generalizing outer l rest with
  | atom text => rfl
  | not spelling e ih => exact ih outer l.negate rest
  | join j spelling left right ihl ihr =>
    rw [words, List.append_assoc, ihl, List.cons_append, Word.operator, ihr]
    rfl
  | parentheses opening closing e ih =>
    rw [words, List.cons_append, List.append_assoc, Word.operand, ih]
    rfl

theorem value?_words (e : Expression) : Word.value? v e.words = some (e.effect v {}).value := by
  rw [Word.value?, ← List.append_nil e.words, operand_words]
  rfl

/-- What is written as the left side of an `AND` is not its left side when it is read. -/
example :
    let e : Expression := .join .and " AND " (.join .or " OR " (.atom "a") (.not "NOT " (.atom "b"))) (.atom "c")
    e.text = "a OR NOT b AND c" ∧ Word.value? (· = "a") e.words = some true := by
  decide

end Expression

/-! ## Conditions that hold less often -/

namespace Word.Reading

/-- Whatever is read after both, the first comes to hold less often than the second. -/
structure Le (l l' : Reading) : Prop where
  found : l.found = true → l'.found = true
  run : l.run = true → l'.run = true
  negated : l.negated = l'.negated

variable {l l' l'' : Reading}

theorem Le.refl (l : Reading) : Le l l :=
  ⟨id, id, rfl⟩

theorem Le.trans (h : Le l l') (h' : Le l' l'') : Le l l'' :=
  ⟨h'.found ∘ h.found, h'.run ∘ h.run, h.negated.trans h'.negated⟩

theorem Le.value (h : Le l l') (hv : l.value = true) : l'.value = true := by
  rw [Reading.value, Bool.or_eq_true] at hv ⊢
  exact hv.imp h.found h.run

theorem Le.add (h : Le l l') (b : Bool) : Le (l.add b) (l'.add b) := by
  refine ⟨h.found, ?_, rfl⟩
  rw [Reading.add, Reading.add, h.negated, Bool.and_eq_true, Bool.and_eq_true]
  exact And.imp_left h.run

theorem Le.negate (h : Le l l') : Le l.negate l'.negate :=
  ⟨h.found, h.run, congrArg (!·) h.negated⟩

theorem Le.next (h : Le l l') (j : Join) : Le (l.next j) (l'.next j) := by
  cases j with
  | and => exact h
  | or => exact ⟨h.value, id, rfl⟩

end Word.Reading

namespace Expression

open Word (Reading)

variable {v : String → Bool} {l l' : Reading}

theorem effect_le (e : Expression) (h : l.Le l') : (e.effect v l).Le (e.effect v l') := by
  induction e generalizing l l' with
  | atom text => exact h.add (v text)
  | not spelling e ih => exact ih h.negate
  | join j spelling left right ihl ihr => exact ihr ((ihl h).next j)
  | parentheses opening closing e ih => exact h.add _

/-- After an expression no `NOT` is left. -/
theorem negated_effect (e : Expression) (l : Reading) : (e.effect v l).negated = false := by
  induction e generalizing l with
  | atom text => rfl
  | not spelling e ih => exact ih l.negate
  | join j spelling left right ihl ihr => exact ihr _
  | parentheses opening closing e ih => rfl

theorem effect_of_isConjunction {e : Expression} (he : e.isConjunction = true) (l : Reading) :
    (e.effect v l).found = l.found ∧ ((e.effect v l).run = true → l.run = true) := by
  have hadd : ∀ (l : Reading) (b : Bool), (l.add b).found = l.found ∧ ((l.add b).run = true → l.run = true) := by
    intro l b
    refine ⟨rfl, ?_⟩
    rw [Reading.add, Bool.and_eq_true]
    exact And.left
  induction e generalizing l with
  | atom text => exact hadd l (v text)
  | not spelling e ih => exact ih he l.negate
  | parentheses opening closing e ih => exact hadd l _
  | join j spelling left right ihl ihr =>
    cases j with
    | or => cases he
    | and =>
      rw [isConjunction, Bool.and_eq_true] at he
      obtain ⟨hfound, hrun⟩ := ihl he.1 l
      obtain ⟨hfound', hrun'⟩ := ihr he.2 (left.effect v l)
      exact ⟨hfound'.trans hfound, hrun ∘ hrun'⟩

/-- An expression without an `OR` outside of parentheses continues the alternative that is not complete. -/
theorem effect_le_self {e : Expression} (he : e.isConjunction = true) (hl : l.negated = false) :
    (e.effect v l).Le l := by
  obtain ⟨hfound, hrun⟩ := effect_of_isConjunction (v := v) he l
  refine ⟨?_, hrun, (negated_effect e l).trans hl.symm⟩
  rw [hfound]
  exact id

end Expression

end GuardedSql
