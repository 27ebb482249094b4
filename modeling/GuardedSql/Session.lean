import GuardedSql.Connection
import GuardedSql.Logged
import GuardedSql.Query
import GuardedSql.Stats

/-!
# Sessions

A session is a computation on the state of a connection that may fail. Its run gives the result, the state,
and the events in their order: calls of the connection, the beginning and completion of queries, and notices.
A failure keeps the state and the events up to it. Monitors read the events.

Sums of words wrap, and one that does is an event. A program that checks its additions ends there instead, so the
events up to the first such one, without a result, are all that there is of its run (`Run.checked`).

- `events_bind`, `state_bind`: what the run of a sequence of two gives.
-/

namespace GuardedSql

/-- A call of a connection. -/
inductive Request where
  | execute (sql : String)
  | batch (sql : String)
  | start
  | commit
  | rollback
  | close
deriving DecidableEq, Repr

inductive Event where
  | started (q : Query)
  | called (r : Request) (succeeded : Bool)
  | completed (q : Query) (duration : Nat) (o : Outcome)
  | noticed (n : Notice)
  /-- a sum does not fit into its word -/
  | overflowed
deriving DecidableEq, Repr

/-! ## Monitors -/

namespace Event

/-- The notice of a log that also reports completed queries, their SQL cut to `limit` bytes. -/
def logged (limit : Option Nat) : Event → Option Notice
  | .completed q _ o => some (o.notice limit q)
  | .noticed n => some n
  | _ => none

/-- The notice of a log that does not. -/
def notice? : Event → Option Notice
  | .noticed n => some n
  | _ => none

def observe (s : Stats) : Event → Stats
  | .completed q duration o => s.observe q duration o
  | _ => s

end Event

/-- The statistics after events. -/
def Stats.observeAll (s : Stats) (events : List Event) : Stats :=
  events.foldl Event.observe s

/-! ## Runs -/

structure Run (σ ε α : Type) where
  result : Except ε α
  state : σ
  events : List Event

/-- The events of a run and its result where additions are checked: the first sum that does not fit ends the
program, and what is called or told later is not, and there is no result. -/
def Run.checked {σ ε α : Type} (run : Run σ ε α) : List Event × Option (Except ε α) :=
  (run.events.takeWhile (· ≠ .overflowed), if .overflowed ∈ run.events then none else some run.result)

/-- A computation on connections whose state is in `σ`, with errors in `ε`. -/
def Session (σ ε α : Type) : Type :=
  σ → Run σ ε α

namespace Session

variable {σ ε ε' α β : Type}

def pure (a : α) : Session σ ε α := fun s =>
  ⟨.ok a, s, []⟩

def bind (x : Session σ ε α) (f : α → Session σ ε β) : Session σ ε β := fun s =>
  match x s with
  | ⟨.ok a, s', events⟩ => ⟨(f a s').result, (f a s').state, events ++ (f a s').events⟩
  | ⟨.error e, s', events⟩ => ⟨.error e, s', events⟩

instance : Monad (Session σ ε) where
  pure := pure
  bind := bind

/-- Gives up. -/
def fail (e : ε) : Session σ ε α := fun s =>
  ⟨.error e, s, []⟩

def ofExcept (x : Except ε α) : Session σ ε α := fun s =>
  ⟨x, s, []⟩

/-- Something of the state. -/
def read (f : σ → α) : Session σ ε α := fun s =>
  ⟨.ok (f s), s, []⟩

def emit (e : Event) : Session σ ε Unit := fun s =>
  ⟨.ok (), s, [e]⟩

def notice (n : Notice) : Session σ ε Unit :=
  emit (.noticed n)

/-- A computation without a connection, its notices as events. -/
def ofLogged (x : Logged α) : Session σ Error α := fun s =>
  ⟨x.result, s, x.notices.map .noticed⟩

/-- A call of the connection, its error as a value. -/
def call (c : Request) (f : σ → Except Error α × σ) : Session σ ε (Except Error α) := fun s =>
  ⟨.ok (f s).1, (f s).2, [.called c (f s).1.isOk]⟩

/-- The result of a session as a value, also if it fails. -/
def observe (x : Session σ ε α) : Session σ ε' (Except ε α) := fun s =>
  ⟨.ok (x s).result, (x s).state, (x s).events⟩

theorem result_bind (x : Session σ ε α) (f : α → Session σ ε β) (s : σ) :
    ((x >>= f) s).result = (x s).result >>= fun a => (f a (x s).state).result := by
  change (bind x f s).result = _
  unfold bind
  split <;> rename_i h <;> rw [h] <;> rfl

theorem state_bind (x : Session σ ε α) (f : α → Session σ ε β) (s : σ) :
    ((x >>= f) s).state =
      match (x s).result with
      | .ok a => (f a (x s).state).state
      | .error _ => (x s).state := by
  change (bind x f s).state = _
  unfold bind
  split <;> rename_i h <;> rw [h]

theorem events_bind (x : Session σ ε α) (f : α → Session σ ε β) (s : σ) :
    ((x >>= f) s).events =
      (x s).events ++ match (x s).result with
        | .ok a => (f a (x s).state).events
        | .error _ => [] := by
  change (bind x f s).events = _
  unfold bind
  split
  · rename_i h
    simp [h]
  · rename_i h
    simp [h]

end Session

end GuardedSql
