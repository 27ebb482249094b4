import GuardedSql.Filter
import Mathlib.Data.List.SplitBy

/-!
# Conditions with AND and OR

How a database reads a sequence of atomic conditions, `AND`, `OR` and parentheses: `AND` binds tighter, so
what stands between two `OR` is one run, and the runs are alternatives.

- `formula_foldl_next`: joined formulas, read from left to right, are the `OR` of their maximal `AND`-runs.
- `reads_parentheses`: what stands in parentheses is read as one operand.
-/

namespace GuardedSql

/-- A condition over atoms, which are texts. -/
inductive Formula where
  | atom (text : String)
  | and (φ ψ : Formula)
  | or (φ ψ : Formula)
deriving DecidableEq, Repr

namespace Formula

/-- Whether a condition holds where its atoms have these truth values. -/
def eval (v : String → Bool) : Formula → Bool
  | .atom text => v text
  | .and φ ψ => φ.eval v && ψ.eval v
  | .or φ ψ => φ.eval v || ψ.eval v

/-- The `AND` of formulas, if there are any. -/
def conj : List Formula → Option Formula
  | [] => none
  | φ :: φs => some (φs.foldl .and φ)

/-- The `OR` of formulas, if there are any. -/
def disj : List Formula → Option Formula
  | [] => none
  | φ :: φs => some (φs.foldl .or φ)

theorem eval_conj {φs : List Formula} {φ : Formula} (h : conj φs = some φ) (v : String → Bool) :
    φ.eval v = φs.all (·.eval v) := by
  have hf : ∀ (φs : List Formula) (φ : Formula),
      (φs.foldl .and φ).eval v = (φ.eval v && φs.all (·.eval v)) := by
    intro φs
    induction φs with
    | nil => simp
    | cons ψ φs ih => intro φ; rw [List.foldl_cons, ih, eval, List.all_cons, Bool.and_assoc]
  cases φs with
  | nil => cases h
  | cons ψ φs =>
    obtain rfl := Option.some.inj h
    rw [hf, List.all_cons]

theorem eval_disj {φs : List Formula} {φ : Formula} (h : disj φs = some φ) (v : String → Bool) :
    φ.eval v = φs.any (·.eval v) := by
  have hf : ∀ (φs : List Formula) (φ : Formula),
      (φs.foldl .or φ).eval v = (φ.eval v || φs.any (·.eval v)) := by
    intro φs
    induction φs with
    | nil => simp
    | cons ψ φs ih => intro φ; rw [List.foldl_cons, ih, eval, List.any_cons, Bool.or_assoc]
  cases φs with
  | nil => cases h
  | cons ψ φs =>
    obtain rfl := Option.some.inj h
    rw [hf, List.any_cons]

/-- The maximal runs of formulas that are joined with `AND`. -/
def runs (parts : List (Join × Formula)) : List (List Formula) :=
  (parts.splitBy fun _ part => part.1 = .and).map fun run => run.map Prod.snd

/-- Joined formulas as the `OR` of their maximal runs joined with `AND`. -/
def ofParts (parts : List (Join × Formula)) : Option Formula :=
  disj ((runs parts).filterMap conj)

theorem conj_eq_none_iff {φs : List Formula} : conj φs = none ↔ φs = [] := by
  cases φs <;> simp [conj]

theorem disj_eq_none_iff {φs : List Formula} : disj φs = none ↔ φs = [] := by
  cases φs <;> simp [disj]

theorem filterMap_conj_singleton (φs : List Formula) : [φs].filterMap conj = (conj φs).toList := by
  cases φs <;> rfl

theorem ofParts_eq_none_iff {parts : List (Join × Formula)} : ofParts parts = none ↔ parts = [] := by
  constructor
  · intro h
    by_contra hne
    obtain ⟨run, hrun⟩ := List.exists_mem_of_ne_nil _ (mt List.splitBy_eq_nil.1 hne)
    have hconj := List.filterMap_eq_nil_iff.1 (disj_eq_none_iff.1 h) _ (List.mem_map_of_mem hrun)
    rw [conj_eq_none_iff, List.map_eq_nil_iff] at hconj
    exact List.nil_notMem_splitBy _ _ (hconj ▸ hrun)
  · rintro rfl
    rfl

end Formula

/-- A part of a written condition. -/
inductive Sign where
  | atom (text : String)
  | join (j : Join)
  | opening
  | closing
deriving DecidableEq, Repr

namespace Sign

def text : Sign → String
  | .atom text => text
  | .join j => " " ++ j.keyword ++ " "
  | .opening => "("
  | .closing => ")"

/-- The text of a sequence of signs. -/
def spell : List Sign → String
  | [] => ""
  | s :: ss => s.text ++ spell ss

@[simp] theorem spell_append (ss ts : List Sign) : spell (ss ++ ts) = spell ss ++ spell ts := by
  induction ss with
  | nil => simp [spell]
  | cons s ss ih => rw [List.cons_append, spell, ih, spell, String.append_assoc]

/-- What has been read of a condition, up to where an operand ends. -/
structure Reading where
  /-- the runs that are complete -/
  runs : List Formula := []
  /-- the operands of the run that is not -/
  run : List Formula := []

namespace Reading

/-- One more operand of the run. -/
def add (l : Reading) (φ : Formula) : Reading :=
  { l with run := l.run ++ [φ] }

/-- All runs up to here, the last one complete. -/
def closed (l : Reading) : List Formula :=
  l.runs ++ (Formula.conj l.run).toList

/-- One more operand after its join. -/
def next (l : Reading) (part : Join × Formula) : Reading :=
  match part.1 with
  | .and => l.add part.2
  | .or => { runs := l.closed, run := [part.2] }

def formula (l : Reading) : Option Formula :=
  Formula.disj l.closed

end Reading

mutual

/-- Reads on where an operand is expected, inside of parentheses before which `outer` has been read. -/
def operand (outer : List Reading) (l : Reading) : List Sign → Option Formula
  | .atom text :: ss => operator outer (l.add (.atom text)) ss
  | .opening :: ss => operand (l :: outer) {} ss
  | _ => none
termination_by structural ss => ss

/-- Reads on after an operand. -/
def operator (outer : List Reading) (l : Reading) : List Sign → Option Formula
  | [] => if outer.isEmpty then l.formula else none
  | .join .and :: ss => operand outer l ss
  | .join .or :: ss => operand outer { runs := l.closed } ss
  | .closing :: ss =>
    match outer, l.formula with
    | o :: outer, some φ => operator outer (o.add φ) ss
    | _, _ => none
  | _ => none
termination_by structural ss => ss

end

/-- The condition that a sequence of signs is read as, if it is one. -/
def parse (ss : List Sign) : Option Formula :=
  operand [] {} ss

/-! ## Reading from left to right -/

namespace Reading

/-- The runs that are read are those into which the parts are split, with the runs `gs` and the run `part :: g`
back to front before the parts. -/
theorem closed_foldl_next (parts : List (Join × Formula)) (part : Join × Formula) (g : List (Join × Formula))
    (gs : List (List (Join × Formula))) :
    (parts.foldl next
        { runs := (gs.reverse.map fun run => run.map Prod.snd).filterMap Formula.conj
          run := (part :: g).reverse.map Prod.snd }).closed =
      ((List.splitBy.loop (fun _ part => part.1 = .and) parts part g gs).map fun run =>
        run.map Prod.snd).filterMap Formula.conj := by
  induction parts generalizing part g gs with
  | nil => simp [closed, List.splitBy.loop, Formula.filterMap_conj_singleton]
  | cons first parts ih =>
    obtain ⟨join, φ⟩ := first
    cases join with
    | and => simpa [List.splitBy.loop, next, add] using ih (.and, φ) (part :: g) gs
    | or =>
      simpa [List.splitBy.loop, next, closed, Formula.filterMap_conj_singleton] using
        ih (.or, φ) [] ((part :: g).reverse :: gs)

/-- Joined formulas that are read from left to right are the `OR` of their maximal `AND`-runs. -/
theorem formula_foldl_next (parts : List (Join × Formula)) :
    (parts.foldl next {}).formula = Formula.ofParts parts := by
  cases parts with
  | nil => rfl
  | cons part parts =>
    have hn : next {} part = { run := [part.2] } := by
      obtain ⟨join, φ⟩ := part
      cases join <;> rfl
    rw [List.foldl_cons, hn, formula, Formula.ofParts, Formula.runs, List.splitBy]
    exact congrArg Formula.disj (closed_foldl_next parts part [] [])

end Reading

/-- Signs that are read as one operand. -/
def Reads (ss : List Sign) (φ : Formula) : Prop :=
  ∀ outer l rest, operand outer l (ss ++ rest) = operator outer (l.add φ) rest

theorem reads_atom (text : String) : Reads [.atom text] (.atom text) :=
  fun _ _ _ => rfl

/-- An operand after its join. -/
theorem operator_join {ss : List Sign} {φ : Formula} (h : Reads ss φ) (outer : List Reading) (l : Reading)
    (j : Join) (rest : List Sign) :
    operator outer l (.join j :: (ss ++ rest)) = operator outer (l.next (j, φ)) rest := by
  cases j with
  | and => exact h outer l rest
  | or => exact h outer { runs := l.closed } rest

/-- What is read up to a closing parenthesis is one operand with the parentheses. -/
theorem reads_parentheses {ss : List Sign} {l : Reading} {φ : Formula} (hl : l.formula = some φ)
    (h : ∀ outer rest, operand outer {} (ss ++ rest) = operator outer l rest) :
    Reads (.opening :: (ss ++ [.closing])) φ := by
  intro outer l' rest
  rw [List.cons_append, List.append_assoc, operand, h, List.cons_append]
  simp only [operator, hl, List.nil_append]

example :
    parse [.atom "a", .join .or, .atom "b", .join .and, .opening, .atom "c", .join .or, .atom "d", .closing] =
      some (.or (.atom "a") (.and (.atom "b") (.or (.atom "c") (.atom "d")))) := by decide

end Sign

end GuardedSql
