import GuardedSql.Error
import Mathlib.Data.List.Forall2

/-!
# Outcomes of computations

What can be said of computations that may fail, and of sequences of them, step by step.

- `Gives.bind`: what a sequence gives if it does not fail.
- `bind_eq_ok_iff`, `mapM_eq_ok_iff`: sequences that do not fail, taken apart.
- `Refines.bind`: a sequence that gives whatever another one gives.
- `Agree.bind`: two sequences that go through the same checks.
-/

namespace GuardedSql

variable {α β γ δ : Type}

/-- What the computation gives, if it does not fail, satisfies `P`. -/
def Gives (P : α → Prop) (x : Except Error α) : Prop :=
  ∀ a, x = .ok a → P a

theorem gives_ok {P : α → Prop} {a : α} (h : P a) : Gives P (.ok a) := by
  intro b hb
  cases hb
  exact h

theorem Gives.bind {P : α → Prop} {Q : β → Prop} {x : Except Error α} {f : α → Except Error β}
    (h : Gives P x) (hf : ∀ a, P a → Gives Q (f a)) : Gives Q (x >>= f) := by
  cases x with
  | ok a => exact hf a (h a rfl)
  | error e => intro b hb; cases hb

theorem Gives.map {P : α → Prop} {Q : β → Prop} {x : Except Error α} {f : α → β} (h : Gives P x)
    (hf : ∀ a, P a → Q (f a)) : Gives Q (f <$> x) := by
  cases x with
  | ok a => exact gives_ok (hf a (h a rfl))
  | error e => intro b hb; cases hb

/-- What stands after a step, whatever that gives. -/
theorem gives_bind {Q : β → Prop} {x : Except Error α} {f : α → Except Error β} (hf : ∀ a, Gives Q (f a)) :
    Gives Q (x >>= f) :=
  Gives.bind (P := fun _ => True) (fun _ _ => trivial) fun a _ => hf a

theorem bind_eq_ok_iff {x : Except Error α} {f : α → Except Error β} {b : β} :
    x >>= f = .ok b ↔ ∃ a, x = .ok a ∧ f a = .ok b := by
  cases x with
  | ok a =>
    change f a = .ok b ↔ _
    simp only [Except.ok.injEq, exists_eq_left']
  | error e => exact iff_of_false (fun h => nomatch h) fun ⟨_, h, _⟩ => nomatch h

theorem map_eq_ok_iff {x : Except Error α} {f : α → β} {b : β} : f <$> x = .ok b ↔ ∃ a, x = .ok a ∧ f a = b := by
  rw [← bind_pure_comp, bind_eq_ok_iff]
  simp only [pure, Except.pure, Except.ok.injEq]

theorem mapM_eq_ok_iff {f : α → Except Error β} {as : List α} {bs : List β} :
    as.mapM f = .ok bs ↔ List.Forall₂ (fun a b => f a = .ok b) as bs := by
  induction as generalizing bs with
  | nil =>
    rw [List.forall₂_nil_left_iff]
    exact Except.ok.injEq [] bs ▸ eq_comm
  | cons a as ih =>
    have htail : ∀ b, (as.mapM f >>= fun bs' => pure (b :: bs')) = Except.ok bs ↔
        ∃ bs', List.Forall₂ (fun a b => f a = .ok b) as bs' ∧ bs = b :: bs' := by
      intro b
      rw [bind_eq_ok_iff]
      simp only [ih, pure, Except.pure, Except.ok.injEq, eq_comm]
    rw [List.mapM_cons, bind_eq_ok_iff, List.forall₂_cons_left_iff]
    simp only [htail, exists_and_left]

/-- What the first computation gives, the second one gives. -/
def Refines (x y : Except Error α) : Prop :=
  ∀ a, x = .ok a → y = .ok a

theorem Refines.bind {x y : Except Error α} {f g : α → Except Error β} (h : Refines x y)
    (hf : ∀ a, Refines (f a) (g a)) : Refines (x >>= f) (y >>= g) := by
  intro b hb
  cases x with
  | error e => cases hb
  | ok a =>
    rw [h a rfl]
    exact hf a b hb

/-- Both computations fail with the same error, or neither does and what they give is related. -/
inductive Agree (R : α → β → Prop) : Except Error α → Except Error β → Prop
  | ok {a b} (h : R a b) : Agree R (.ok a) (.ok b)
  | error (e : Error) : Agree R (.error e) (.error e)

namespace Agree

variable {R : α → β → Prop} {S : γ → δ → Prop} {x : Except Error α} {y : Except Error β}

theorem bind {f : α → Except Error γ} {g : β → Except Error δ} (h : Agree R x y)
    (hf : ∀ a b, R a b → Agree S (f a) (g b)) : Agree S (x >>= f) (y >>= g) := by
  cases h with
  | ok h => exact hf _ _ h
  | error e => exact .error e

theorem map {f : α → γ} {g : β → δ} (h : Agree R x y) (hf : ∀ a b, R a b → S (f a) (g b)) :
    Agree S (f <$> x) (g <$> y) := by
  cases h with
  | ok h => exact .ok (hf _ _ h)
  | error e => exact .error e

theorem eq_ok {a : α} (h : Agree R x y) (hx : x = .ok a) : ∃ b, y = .ok b ∧ R a b := by
  subst hx
  cases h with
  | ok h => exact ⟨_, rfl, h⟩

theorem eq_ok_of_right {b : β} (h : Agree R x y) (hy : y = .ok b) : ∃ a, x = .ok a ∧ R a b := by
  subst hy
  cases h with
  | ok h => exact ⟨_, rfl, h⟩

theorem eq_error_of_right {e : Error} (h : Agree R x y) (hy : y = .error e) : x = .error e := by
  subst hy
  cases h with
  | error => rfl

end Agree

/-- A computation that is not concerned agrees with itself. -/
theorem agree_self (x : Except Error α) : Agree (· = ·) x x := by
  cases x with
  | ok a => exact .ok rfl
  | error e => exact .error e

end GuardedSql
