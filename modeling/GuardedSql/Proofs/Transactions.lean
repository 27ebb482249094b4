import GuardedSql.Client.Transaction
import GuardedSql.Proofs.Runs

/-!
# How a transaction runs

A transaction that cannot be started fails with that error, and nothing else happens. Otherwise its session
runs, and then the transaction ends in one of four ways (`Ending`), by what the session and the connection
give; closing the connection comes after that and has no say in the result.

- `transactionWith_of_not_started`, `transactionWith_of_started`: the two cases.
-/

namespace GuardedSql

open Event

variable {σ ε α : Type}

/-- How a transaction ends whose session has given a result and left a state: by a call, which succeeds or not,
with a result of the transaction and a state. -/
inductive Ending [Failure ε] (connection : Connection σ) :
    Except ε α → σ → Request → Bool → Except ε α → σ → Prop
  | committed (value : α) {s : σ} (h : (connection.commit s).1 = .ok ()) :
      Ending connection (.ok value) s .commit true (.ok value) (connection.commit s).2
  /-- the error of the commit is returned -/
  | notCommitted (value : α) {s : σ} {e : Error} (h : (connection.commit s).1 = .error e) :
      Ending connection (.ok value) s .commit false (.error (Failure.ofError e)) (connection.commit s).2
  /-- the error of the session is returned as it is -/
  | rolledBack (e : ε) {s : σ} (h : (connection.rollback s).1 = .ok ()) :
      Ending connection (.error e) s .rollback true (.error e) (connection.rollback s).2
  /-- an error that holds both texts is returned -/
  | notRolledBack (e : ε) {s : σ} {e' : Error} (h : (connection.rollback s).1 = .error e') :
      Ending connection (.error e) s .rollback false
        (.error (Failure.ofError
          (.transaction (Failure.message e ++ " (rollback failed: " ++ e'.message ++ ")"))))
        (connection.rollback s).2

/-- A transaction ends with one call, a commit or a rollback. -/
theorem Ending.call_eq [Failure ε] {connection : Connection σ} {result result' : Except ε α} {s s' : σ}
    {call : Request} {succeeded : Bool} (h : Ending connection result s call succeeded result' s') :
    call = if result.isOk then .commit else .rollback := by
  cases h <;> rfl

namespace Connection

variable (connection : Connection σ)

/-- The call that closes the connection, if it is to be closed. -/
def closing (close : Bool) (s : σ) : List Event :=
  if close then [.called .close (connection.close s).1.isOk] else []

@[simp] theorem withoutNotices_closing (close : Bool) (s : σ) :
    withoutNotices (connection.closing close s) = connection.closing close s := by
  cases close <;> rfl

/-- The state after the connection is closed, if it is to be closed. -/
def closed (close : Bool) (s : σ) : σ :=
  if close then (connection.close s).2 else s

end Connection

namespace Client

variable (client : Client σ)

theorem finish_run [Failure ε] (result : Except ε α) (s : σ) :
    ∃ call succeeded result' s' notices,
      Ending client.connection result s call succeeded result' s' ∧ withoutNotices notices = [] ∧
        client.finish result s = ⟨.ok result', s', .called call succeeded :: notices⟩ := by
  cases result with
  | ok value =>
    cases h : (client.connection.commit s).1 with
    | ok _ => exact ⟨_, _, _, _, [], .committed value h, rfl, by simp [finish, h, Except.isOk, Except.toBool]⟩
    | error e => exact ⟨_, _, _, _, [], .notCommitted value h, rfl, by simp [finish, h, Except.isOk, Except.toBool]⟩
  | error e =>
    cases h : (client.connection.rollback s).1 with
    | ok _ =>
      exact ⟨_, _, _, _, [.noticed (.transactionRolledBack (Failure.message e))], .rolledBack e h, rfl, by
        simp [finish, h, Except.isOk, Except.toBool]⟩
    | error e' => exact ⟨_, _, _, _, [], .notRolledBack e h, rfl, by simp [finish, h, Except.isOk, Except.toBool]⟩

/-- Whether or not the connection can be closed, the session goes on. -/
theorem closeAfter_run (close : Bool) (s : σ) :
    ∃ notices, withoutNotices notices = [] ∧
      (client.closeAfter close : Session σ ε Unit) s =
        ⟨.ok (), client.connection.closed close s, client.connection.closing close s ++ notices⟩ := by
  cases close with
  | false => exact ⟨[], rfl, rfl⟩
  | true =>
    cases h : (client.connection.close s).1 with
    | ok _ => exact ⟨[], rfl, by simp [closeAfter, Connection.closed, Connection.closing, h]⟩
    | error e => exact ⟨[.noticed (.closeFailed e.message)], rfl, by
        simp [closeAfter, Connection.closed, Connection.closing, h]⟩

theorem transactionWith_of_not_started [Failure ε] (close : Bool) (body : Session σ ε α) {s : σ} {e : Error}
    (h : (client.connection.start s).1 = .error e) :
    client.transactionWith close body s =
      ⟨.error (Failure.ofError e), (client.connection.start s).2, [.called .start false]⟩ := by
  simp [transactionWith, h, Except.isOk, Except.toBool]

/-- The session runs once, then the transaction ends, and then the connection is closed if it is to be. -/
theorem transactionWith_of_started [Failure ε] (close : Bool) (body : Session σ ε α) {s : σ}
    (hstart : (client.connection.start s).1 = .ok ()) :
    let inner := body (client.connection.start s).2
    ∃ call succeeded result s',
      Ending client.connection inner.result inner.state call succeeded result s' ∧
        (client.transactionWith close body s).result = result ∧
        (client.transactionWith close body s).state = client.connection.closed close s' ∧
        withoutNotices (client.transactionWith close body s).events =
          .called .start true :: withoutNotices inner.events ++
            .called call succeeded :: client.connection.closing close s' := by
  intro inner
  obtain ⟨call, succeeded, result, s', notices, hend, hnotices, hfinish⟩ :=
    client.finish_run inner.result inner.state
  obtain ⟨notices', hnotices', hclose⟩ := client.closeAfter_run (ε := ε) close s'
  have hrun : client.transactionWith close body s =
      ⟨result, client.connection.closed close s', .called .start true :: .noticed .transactionStarted ::
        (inner.events ++ .called call succeeded ::
          (notices ++ (client.connection.closing close s' ++ notices')))⟩ := by
    simp [transactionWith, hstart, inner, Except.isOk, Except.toBool, Session.bind_of_ok hfinish,
      Session.bind_of_ok hclose]
  refine ⟨call, succeeded, result, s', hend, ?_⟩
  simp [hrun, hnotices, hnotices']

end Client

end GuardedSql
