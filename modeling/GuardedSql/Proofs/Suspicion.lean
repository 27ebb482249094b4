import GuardedSql.Proofs.Outcome
import GuardedSql.Statement.Parts

/-!
# What the policy changes

A policy on suspicious fragments leaves a computation as it is if that does not fail, or fails on something
else. So what is ready to be run comes from the computation itself.

- `eq_of_onSuspicion`: what there is in the end is given by the computation, or stands for it.
- `agree_onSuspicion`: two computations under the same policy.
- `gives_guarded`: what holds of a statement under either policy.
- `guarded_ready_iff`, `compile_of_filter`, `filter_of_compile`: statements and clauses that are not voided.
-/

namespace GuardedSql.Compiler

variable {c : Compiler} {α : Type} {x : Logged α} {notice : String → Notice} {instead : α}

theorem onSuspicion_of_ok {a : α} (h : x.result = .ok a) : c.onSuspicion x notice instead = x := by
  obtain ⟨result, notices⟩ := x
  obtain rfl : result = .ok a := h
  rfl

theorem onSuspicion_of_invalid {reason : Invalid} (h : x.result = .error (.invalid reason)) :
    c.onSuspicion x notice instead = x := by
  obtain ⟨result, notices⟩ := x
  obtain rfl : result = .error (.invalid reason) := h
  rfl

theorem eq_of_onSuspicion {a : α} (h : (c.onSuspicion x notice instead).result = .ok a) :
    x.result = .ok a ∨ a = instead := by
  unfold Compiler.onSuspicion at h
  split at h
  · exact .inr (Except.ok.inj h).symm
  · exact .inl h

theorem agree_onSuspicion {c' : Compiler} {β : Type} (hpolicy : c'.policy = c.policy) {R : α → β → Prop}
    {y : Logged β} (h : Agree R x.result y.result) {a : α} {b : β} (hi : R a b)
    (notice notice' : String → Notice) :
    Agree R (c.onSuspicion x notice a).result (c'.onSuspicion y notice' b).result := by
  obtain ⟨result, notices⟩ := x
  obtain ⟨result', notices'⟩ := y
  cases h with
  | ok h => exact .ok h
  | error e =>
    unfold Compiler.onSuspicion
    rw [hpolicy]
    cases e <;> first | exact .error _ | skip
    cases c.policy with
    | raise => exact .error _
    | void => exact .ok hi

/-- The policy makes no statement that is to be run. -/
theorem guarded_ready_iff {x : Logged Statement} {k kind : Kind} {sql : String} {labels : List Label} :
    (c.guarded k x).result = .ok (.ready sql kind labels) ↔ x.result = .ok (.ready sql kind labels) := by
  constructor
  · intro h
    exact (eq_of_onSuspicion h).resolve_right Statement.noConfusion
  · intro h
    rw [guarded, onSuspicion_of_ok h, h]

/-- What holds of every voided statement holds of what is guarded if it holds of what is built. -/
theorem gives_guarded {P : Statement → Prop} (hvoided : ∀ kind, P (.voided kind)) {kind : Kind}
    {x : Logged Statement} (h : Gives P x.result) : Gives P (c.guarded kind x).result := by
  intro statement hstatement
  rcases eq_of_onSuspicion hstatement with hx | rfl
  · exact h statement hx
  · exact hvoided kind

/-- A clause that is not voided has the nodes of its filter. -/
theorem compile_of_filter {f : Filter} {links : List Link} (h : (c.filter f).result = .ok (.of links)) :
    Filter.compile c.escaper f = .ok links := by
  have hc : Clause.of <$> Filter.compile c.escaper f = .ok (.of links) :=
    (eq_of_onSuspicion h).resolve_right Clause.noConfusion
  obtain ⟨links', hf, hlinks⟩ := map_eq_ok_iff.1 hc
  rw [hf, Clause.of.inj hlinks]

theorem filter_of_compile {f : Filter} {links : List Link} (h : Filter.compile c.escaper f = .ok links) :
    (c.filter f).result = .ok (.of links) := by
  have hc : (Logged.ofExcept (Clause.of <$> Filter.compile c.escaper f)).result = .ok (.of links) := by
    rw [h]
    rfl
  rw [filter, onSuspicion_of_ok hc, hc]

end GuardedSql.Compiler
