import GuardedSql.Client

/-!
# Transactions

A transaction runs a session between the start and the end of a transaction of the connection: a commit if
the session succeeds, a rollback if it fails. The session may have errors of its own sort, into which the
errors of the connection are turned.
-/

namespace GuardedSql

/-- A sort of errors among which those of a connection have a place. -/
class Failure (ε : Type) where
  ofError : Error → ε
  message : ε → String

instance : Failure Error where
  ofError := id
  message := Error.message

namespace Client

variable {σ ε α : Type} [Failure ε] (client : Client σ)

/-- Ends a transaction whose session has given `result`. The error of a failed rollback holds the text of
the session's error too. -/
def finish (result : Except ε α) : Session σ ε (Except ε α) := do
  match result with
  | .ok value =>
    match ← Session.call .commit client.connection.commit with
    | .ok () => return .ok value
    | .error e => return .error (Failure.ofError e)
  | .error e =>
    match ← Session.call .rollback client.connection.rollback with
    | .ok () =>
      Session.notice (.transactionRolledBack (Failure.message e))
      return .error e
    | .error e' =>
      let text := Failure.message e ++ " (rollback failed: " ++ e'.message ++ ")"
      return .error (Failure.ofError (.transaction text))

/-- Closes the connection after a transaction; a failure is a notice only. -/
def closeAfter (close : Bool) : Session σ ε Unit := do
  if close then
    match ← Session.call .close client.connection.close with
    | .ok () => return ()
    | .error e => Session.notice (.closeFailed e.message)

/-- Runs a session in a transaction, and closes the connection after it if asked to. -/
def transactionWith (close : Bool) (body : Session σ ε α) : Session σ ε α := do
  match ← Session.call .start client.connection.start with
  | .error e => Session.fail (Failure.ofError e)
  | .ok () =>
    Session.notice .transactionStarted
    let result ← body.observe
    let result ← client.finish result
    client.closeAfter close
    Session.ofExcept result

/-- Runs a session in a transaction, as the configuration says. -/
def transaction (body : Session σ ε α) : Session σ ε α :=
  client.transactionWith client.config.closeAfter body

end Client

end GuardedSql
