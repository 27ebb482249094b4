import GuardedSql.Session
import GuardedSql.Statement.Command
import GuardedSql.FreshId

/-!
# Clients

A client runs statements on a connection, one at a time, as its configuration says. Each statement that is
sent is reported when it starts and when it is completed; a voided one is reported as that and not sent.
An error of the connection names the statement that failed. It may be turned into a result by a fallback;
no other error is.
-/

namespace GuardedSql

/-- The result of one statement of a batch. -/
inductive BatchPart where
  | rows (records : List Record)
  | count (n : UInt64)
  | done
deriving DecidableEq

namespace BatchPart

def ofReply : Reply → BatchPart
  | .rows found => .rows (Record.ofRows found)
  | .affected n => .count n
  | .empty => .done

/-- The number of rows returned or affected. -/
def size : BatchPart → UInt64
  | .rows records => records.length.toUInt64
  | .count n => n
  | .done => 0

end BatchPart

/-- What a statement or a batch has produced. -/
structure Yield where
  /-- the number of rows affected or returned, modulo `2 ^ 64` -/
  affected : UInt64 := 0
  /-- the rows of a single statement -/
  rows : List Record := []
  /-- the results of a batch by their labels -/
  byLabel : Keyed Label BatchPart := .empty
  /-- the sizes of the results of a batch without labels -/
  sizes : List UInt64 := []
  /-- the identifier that an insertion generated -/
  lastInsertId : Option UInt64 := none
  /-- whether the statement was voided and not sent -/
  voided : Bool := false

/-- What becomes of an error of the connection. -/
inductive Recovery where
  | raise
  | fallback (handler : Error → Yield)

structure Config where
  suspicion : Policy := .raise
  /-- the most statements that a batch may have -/
  maxBatch : Nat := 10
  /-- whether to close the connection after each transaction -/
  closeAfter : Bool := false
  recovery : Recovery := .raise
  /-- the number of bytes to which SQL is cut in the log -/
  logLimit : Option Nat := some 200
  freshId : FreshId.Config := {}

/-- An error of a query names the statement that was sent. -/
def Error.naming (sql : String) : Error → Error
  | .query _ reason => .query sql reason
  | e => e

structure Client (σ : Type) where
  connection : Connection σ
  config : Config := {}

namespace Client

variable {σ α : Type} (client : Client σ)

/-- The result, or what the fallback makes of an error of the connection. -/
def recover (e : Error) : Session σ Error Yield :=
  match client.config.recovery with
  | .fallback handler => if e.isReported then pure (handler e) else .fail e
  | .raise => .fail e

/-- A call of the connection with the time it took. -/
def timed (c : Request) (f : σ → Except Error α × σ) : Session σ Error (Nat × Except Error α) := do
  let before ← Session.read client.connection.clock
  let result ← Session.call c f
  let after ← Session.read client.connection.clock
  return (after - before, result)

/-- What a reply to a statement of this kind amounts to. -/
def yieldOf (kind : Kind) (reply : Reply) (s : σ) : Yield :=
  let inserted := if kind = .insert then some (client.connection.lastInsertId s) else none
  match reply with
  | .rows found =>
    { rows := Record.ofRows found, affected := found.length.toUInt64, lastInsertId := inserted }
  | .affected n => { affected := n, lastInsertId := inserted }
  | .empty => { affected := client.connection.affectedRows s, lastInsertId := inserted }

/-- How a result of a statement of this kind is reported. -/
def outcomeOf (kind : Kind) (y : Yield) : Outcome :=
  if y.rows.isEmpty && kind ≠ .select then .affected y.affected else .rows y.rows.length

/-- Sends a statement, without the fallback. -/
def send (sql : String) (kind : Kind) : Session σ Error Yield := do
  let q := Query.single sql kind
  Session.emit (.started q)
  let (duration, reply) ← client.timed (.execute sql) (client.connection.execute sql)
  match reply with
  | .ok reply =>
    let y ← Session.read (client.yieldOf kind reply)
    Session.emit (.completed q duration (outcomeOf kind y))
    return y
  | .error e =>
    let e := e.naming sql
    Session.emit (.completed q duration (.failure e.message))
    Session.fail e

def sendOrRecover (sql : String) (kind : Kind) : Session σ Error Yield := do
  match ← (client.send sql kind).observe with
  | .ok y => return y
  | .error e => client.recover e

/-- Runs the SQL, its kind read off it. -/
def runSql (sql : String) : Session σ Error Yield :=
  client.sendOrRecover sql (.ofSql sql)

def run : Statement → Session σ Error Yield
  | .voided kind => do
    Session.emit (.completed (.single "" kind) 0 .voided)
    return { voided := true }
  | .ready sql kind _ => client.sendOrRecover sql kind

/-- Builds a statement with the escaping of the connection. -/
def compile (q : Command) : Session σ Error Statement := do
  let escaper ← Session.read client.connection.escape
  Session.ofLogged (q.build ⟨escaper, client.config.suspicion⟩)

def execute (q : Command) : Session σ Error Yield := do
  let statement ← client.compile q
  client.run statement

def select (table : String) (f : Filter) : Session σ Error Yield :=
  client.execute (.select ((Select.ofTable table).withFilter f))

/-- The first row that satisfies the filter. -/
def first? (table : String) (f : Filter) : Session σ Error (Option Record) := do
  let y ← client.execute (.select (((Select.ofTable table).withFilter f).take 1))
  return y.rows.head?

def insert (table : String) (row : InsertRow) : Session σ Error Yield :=
  client.execute (.insert ((Insert.intoTable table).addRow row))

def update (table : String) (values : List (String × Token)) (f : Filter) : Session σ Error Yield :=
  client.execute (.update ((values.foldl (fun q v => q.set v.1 v.2) (Update.ofTable table)).withFilter f))

/-- Deletes the rows that satisfy the filter, none if there is nothing in it. -/
def delete (table : String) (f : Filter) : Session σ Error Yield :=
  client.execute (.delete ((Delete.ofTable table).withFilter f))

/-- The query whether a value of a column exists. -/
def probe (table column id : String) : Command :=
  .select ((((Select.ofTable table).addColumn (.raw "1")).withFilter
    (Filter.eq [] column (.literal id))).take 1)

/-- Whether a value of a column exists. A probe that fails or is voided is an error, fallback or not. -/
def isTaken (table column id : String) : Session σ Error Bool := do
  match ← client.compile (probe table column id) with
  | .voided _ => Session.fail (.suspicious (table ++ "." ++ column))
  | .ready sql kind _ =>
    let y ← client.send sql kind
    return !y.rows.isEmpty

/-- An identifier that no row of the table has in the column, if one of the attempts finds it. -/
def freshId (table column seed : String) : Session σ Error (Option String) :=
  FreshId.search (client.isTaken table column) (fun attempt id => Session.notice (.idTaken attempt id)) seed
    client.config.freshId.length client.config.freshId.attempts

def close : Session σ Error Unit := do
  Session.ofExcept (← Session.call .close client.connection.close)

end Client

end GuardedSql
