import GuardedSql.Error
import GuardedSql.Notice

/-!
# Results with notices

A computation that may fail and that gives notices on the way, also when it fails.

- `result_bind`, `notices_bind`: what a sequence of two gives.
-/

namespace GuardedSql

structure Logged (α : Type) where
  result : Except Error α
  notices : List Notice

namespace Logged

variable {α β : Type}

def bind (x : Logged α) (f : α → Logged β) : Logged β :=
  match x.result with
  | .ok a => ⟨(f a).result, x.notices ++ (f a).notices⟩
  | .error e => ⟨.error e, x.notices⟩

instance : Monad Logged where
  pure a := ⟨.ok a, []⟩
  bind := bind

/-- A result without notices. -/
def ofExcept (x : Except Error α) : Logged α :=
  ⟨x, []⟩

instance : MonadLift (Except Error) Logged where
  monadLift := ofExcept

@[simp] theorem result_pure (a : α) : (pure a : Logged α).result = .ok a := rfl

@[simp] theorem notices_pure (a : α) : (pure a : Logged α).notices = [] := rfl

@[simp] theorem result_bind (x : Logged α) (f : α → Logged β) :
    (x >>= f).result = x.result >>= fun a => (f a).result := by
  change (Logged.bind x f).result = _
  unfold Logged.bind
  split <;> rename_i h <;> rw [h] <;> rfl

theorem notices_bind (x : Logged α) (f : α → Logged β) :
    (x >>= f).notices =
      x.notices ++ match x.result with
        | .ok a => (f a).notices
        | .error _ => [] := by
  change (Logged.bind x f).notices = _
  unfold Logged.bind
  split <;> rename_i h <;> simp

end Logged

end GuardedSql
