import GuardedSql.Client

/-!
# Batches

Several statements in one call. Blank statements and labels at the end are dropped first. With correlation
each result is kept under its label, or under its position if there are no labels; without it only the sizes
of the results are kept. The sizes are added up as the replies are read, up to the first statement without one.
-/

namespace GuardedSql

namespace Batch

variable {α : Type}

/-- The list up to its last item that is not blank. -/
def trimEnd (blank : α → Bool) (items : List α) : List α :=
  (items.reverse.dropWhile blank).reverse

/-- The results of the statements. Where replies are missing, the last error belongs to the first statement
without one; if there is none, the statements have no result. -/
def outcomes (lastError : String) : (statements : List String) → List Reply → Except Error (List BatchPart)
  | [], _ => .ok []
  | _ :: statements, reply :: replies => do
    return .ofReply reply :: (← outcomes lastError statements replies)
  | statement :: statements, [] =>
    if lastError ≠ "" then .error (.query statement lastError)
    else return .done :: (← outcomes lastError statements [])

/-- The sizes of the replies to the statements. -/
def sizesOf (statements : List String) (replies : List Reply) : List UInt64 :=
  (replies.take statements.length).map fun reply => (BatchPart.ofReply reply).size

/-- Whether a sum does not fit when the sizes are added to `total` one after the other. -/
def overflows (total : UInt64) : List UInt64 → Bool
  | [] => false
  | size :: sizes => UInt64.size ≤ total.toNat + size.toNat || overflows (total + size) sizes

/-- The labels of `n` results: those given, or positions. -/
def labelsOf (labels : List Label) (n : Nat) : List Label :=
  (List.range n).map fun i => labels.getD i (.index i)

def yieldOf (labels : List Label) (correlate : Bool) (outcomes : List BatchPart) : Yield :=
  let affected := (outcomes.map BatchPart.size).foldl (· + ·) 0
  if correlate then
    { affected := affected, byLabel := .ofList ((labelsOf labels outcomes.length).zip outcomes) }
  else { affected := affected, sizes := outcomes.map BatchPart.size }

end Batch

namespace Client

variable {σ : Type} (client : Client σ)

/-- Sends the statements as one batch, without the fallback. -/
def sendBatch (statements : List String) (labels : List Label) (correlate : Bool) : Session σ Error Yield := do
  let sql := (Statement.batch statements labels).sql
  let q := Query.batch sql statements.length labels
  Session.emit (.started q)
  let (duration, replies) ← client.timed (.batch sql) (client.connection.executeBatch sql)
  let lastError ← Session.read client.connection.lastError
  match replies with
  | .error e =>
    let e := e.naming sql
    Session.emit (.completed q duration (.failure e.message))
    Session.fail e
  | .ok replies =>
    if Batch.overflows 0 (Batch.sizesOf statements replies) then Session.emit .overflowed
    match Batch.outcomes lastError statements replies with
    | .error e =>
      Session.emit (.completed q duration (.failure e.message))
      Session.fail e
    | .ok outcomes =>
      Session.emit (.completed q duration (.batch (min replies.length statements.length)))
      return Batch.yieldOf labels correlate outcomes

/-- Runs statements as one batch. Labels that do not fit the statements, and too many statements, are
refused before anything is sent. -/
def runBatch (statements : List String) (labels : List Label) (correlate : Bool) : Session σ Error Yield := do
  let statements := Batch.trimEnd Text.isBlank statements
  let labels := Batch.trimEnd Label.isEmpty labels
  if correlate && !labels.isEmpty && labels.length ≠ statements.length then
    Session.fail (.labelCount labels.length statements.length)
  else if statements.isEmpty then return {}
  else if client.config.maxBatch < statements.length then
    Session.fail (.invalid (.batchTooLong statements.length client.config.maxBatch))
  else
    match ← (client.sendBatch statements labels correlate).observe with
    | .ok y => return y
    | .error e => client.recover e

end Client

end GuardedSql
