import GuardedSql.Filter.Compile
import GuardedSql.Logged

/-!
# Compilers

A compiler has an escaping and a policy on suspicious fragments: they are raised as errors, or void what
is being compiled, with a notice.

- `filter_raise`, `filter_void`: what the two policies make of the same filter.
-/

namespace GuardedSql

/-- What becomes of a suspicious fragment. -/
inductive Policy where
  | raise
  | void
deriving DecidableEq, Repr

structure Compiler where
  escaper : Escaper := Literal.escape
  policy : Policy := .raise

namespace Compiler

variable {α : Type}

/-- The computation, or `instead` with a notice if it fails on a suspicious fragment and the policy is to
void. -/
def onSuspicion (c : Compiler) (x : Logged α) (notice : String → Notice) (instead : α) : Logged α :=
  match x.result, c.policy with
  | .error (.suspicious fragment), .void => ⟨.ok instead, x.notices ++ [notice fragment]⟩
  | _, _ => x

def filter (c : Compiler) (f : Filter) : Logged Clause :=
  c.onSuspicion (.ofExcept (Clause.of <$> Filter.compile c.escaper f)) .filterVoided .voided

/-- The text of a choice in parentheses, nothing if it is empty or voided. -/
def choice (c : Compiler) (ch : Choice) : Logged String :=
  c.onSuspicion (.ofExcept ((Clause.writeGroup ∘ Clause.of) <$> Choice.compile c.escaper ch)) .choiceVoided ""

def emit (c : Compiler) (t : Token) : Except Error String :=
  t.emit c.escaper

theorem filter_raise (escaper : Escaper) (f : Filter) :
    filter ⟨escaper, .raise⟩ f = .ofExcept (Clause.of <$> Filter.compile escaper f) := by
  simp [filter, onSuspicion]

theorem filter_void (escaper : Escaper) (f : Filter) :
    filter ⟨escaper, .void⟩ f =
      match Filter.compile escaper f with
      | .ok links => ⟨.ok (.of links), []⟩
      | .error (.suspicious fragment) => ⟨.ok .voided, [.filterVoided fragment]⟩
      | .error e => ⟨.error e, []⟩ := by
  simp only [filter, onSuspicion, Logged.ofExcept]
  cases Filter.compile escaper f with
  | ok links => rfl
  | error e => cases e <;> rfl

end Compiler

end GuardedSql
