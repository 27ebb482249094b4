import GuardedSql.Proofs.Sending
import GuardedSql.Proofs.Transactions

/-!
# Programs

A program runs operations of a client one after the other, each chosen by what the ones before it gave, and
some of them in transactions, which may stand in each other. What holds of every single operation and of the
calls around a transaction holds of the run of a program.

- `Client.Keeps.operation`: what a run keeps that consists of sent queries, voided statements and notices.
- `Program.keeps`: what the run of a program keeps.
- `Program.filter_events`: what is sent and told of queries comes from the operations that are performed.
-/

namespace GuardedSql

variable {σ ε α β : Type}

/-! ## Operations -/

/-- An operation of a client, with the type of what it gives. -/
inductive Operation : Type → Type where
  | compile (q : Command) : Operation Statement
  | runSql (sql : String) : Operation Yield
  | run (statement : Statement) : Operation Yield
  | execute (q : Command) : Operation Yield
  | select (table : String) (f : Filter) : Operation Yield
  | first (table : String) (f : Filter) : Operation (Option Record)
  | insert (table : String) (row : InsertRow) : Operation Yield
  | update (table : String) (values : List (String × Token)) (f : Filter) : Operation Yield
  | delete (table : String) (f : Filter) : Operation Yield
  | runBatch (statements : List String) (labels : List Label) (correlate : Bool) : Operation Yield
  | freshId (table column seed : String) : Operation (Option String)
  | close : Operation Unit

namespace Operation

def session (client : Client σ) : Operation α → Session σ Error α
  | .compile q => client.compile q
  | .runSql sql => client.runSql sql
  | .run statement => client.run statement
  | .execute q => client.execute q
  | .select table f => client.select table f
  | .first table f => client.first? table f
  | .insert table row => client.insert table row
  | .update table values f => client.update table values f
  | .delete table f => client.delete table f
  | .runBatch statements labels correlate => client.runBatch statements labels correlate
  | .freshId table column seed => client.freshId table column seed
  | .close => client.close

/-- The command that an operation builds and runs. -/
def command? : Operation α → Option Command
  | .execute q => some q
  | .select table f => some (.select ((Select.ofTable table).withFilter f))
  | .first table f => some (.select (((Select.ofTable table).withFilter f).take 1))
  | .insert table row => some (.insert ((Insert.intoTable table).addRow row))
  | .update table values f =>
    some (.update ((values.foldl (fun q v => q.set v.1 v.2) (Update.ofTable table)).withFilter f))
  | .delete table f => some (.delete ((Delete.ofTable table).withFilter f))
  | _ => none

/-- An operation with a command runs it, whatever it makes of what that gives. -/
theorem session_of_command (client : Client σ) {op : Operation α} {q : Command} (h : op.command? = some q)
    (s : σ) :
    (op.session client s).events = (client.execute q s).events ∧
      (op.session client s).state = (client.execute q s).state := by
  cases op with
  | first table f =>
    cases h
    simp only [session, Client.first?, Session.events_bind, Session.state_bind]
    cases (client.execute _ s).result <;> exact ⟨List.append_nil _, rfl⟩
  | compile | runSql | run | runBatch | freshId | close => cases h
  | execute | select | insert | update | delete =>
    cases h
    exact ⟨rfl, rfl⟩

end Operation

/-- What an operation is given to send as it is. -/
def Operation.verbatim : Operation α → List Request
  | .runSql sql => [.execute sql]
  | .run (.ready sql _ _) => [.execute sql]
  | .runBatch statements _ _ => [.batch (";".intercalate (Batch.sent statements))]
  | _ => []

/-- The events of a statement that is voided and not sent. -/
def Event.ofVoided (kind : Kind) : List Event :=
  [.completed (.single "" kind) 0 .voided]

/-- What holds of the parts of an operation that runs no voided statement: notices, and calls that are
allowed. Whatever is built is allowed. -/
structure Client.Keeps (client : Client σ) (allowed : Request → Prop) (Q : σ → List Event → σ → Prop) : Prop
    extends Composes Q where
  built : ∀ {q : Command} {c : Compiler} {sql kind labels},
    (q.build c).result = .ok (.ready sql kind labels) → allowed (.execute sql)
  notice : ∀ n s, Q s [.noticed n] s
  send : ∀ {sql} kind, allowed (.execute sql) → (client.send sql kind).Always Q
  sendBatch : ∀ {statements} labels correlate, allowed (.batch (";".intercalate statements)) →
    (client.sendBatch statements labels correlate).Always Q
  close : client.close.Always Q

namespace Client.Keeps

open Session

variable {client : Client σ} {allowed : Request → Prop} {Q : σ → List Event → σ → Prop}
  (hQ : client.Keeps allowed Q)

include hQ

theorem compile (q : Command) : (client.compile q).Always Q :=
  hQ.always_bind (hQ.always_read _) fun _ => hQ.notices hQ.notice _

theorem recover (e : Error) : (client.recover e).Always Q := by
  unfold Client.recover
  split
  · split
    · exact hQ.always_pure _
    · exact hQ.always_fail e
  · exact hQ.always_fail e

/-- The fallback sends nothing. -/
theorem recovering {x : Session σ Error Yield} (hx : x.Always Q) :
    (x.observe >>= fun result => match result with
      | .ok y => Pure.pure y
      | .error e => client.recover e).Always Q := by
  refine hQ.always_bind hx fun result => ?_
  cases result with
  | ok y => exact hQ.always_pure y
  | error e => exact hQ.recover e

theorem sendOrRecover {sql : String} (kind : Kind) (h : allowed (.execute sql)) :
    (client.sendOrRecover sql kind).Always Q :=
  hQ.recovering (hQ.send kind h)

theorem runBatch {statements : List String} (labels : List Label) (correlate : Bool)
    (h : allowed (.batch (";".intercalate (Batch.sent statements)))) :
    (client.runBatch statements labels correlate).Always Q := by
  unfold Client.runBatch
  dsimp only
  split
  · exact hQ.always_fail _
  · split
    · exact hQ.always_pure _
    · split
      · exact hQ.always_fail _
      · exact hQ.recovering (hQ.sendBatch _ _ h)

theorem isTaken (table column id : String) : (client.isTaken table column id).Always Q := by
  refine fun s => hQ.from_bind (hQ.compile _ s) fun statement hstatement => ?_
  cases statement with
  | voided kind => exact hQ.always_fail _ s
  | ready sql kind labels =>
    exact hQ.always_bind (hQ.send kind (hQ.built hstatement)) (fun _ => hQ.always_pure _) s

theorem freshId (table column seed : String) : (client.freshId table column seed).Always Q := by
  unfold Client.freshId FreshId.search
  generalize client.config.freshId.attempts = attempts
  generalize 0 = attempt
  induction attempts generalizing attempt with
  | zero => exact hQ.always_pure _
  | succ attempts ih =>
    refine hQ.always_bind (hQ.isTaken table column _) fun taken => ?_
    cases taken with
    | false => exact hQ.always_pure _
    | true => exact hQ.always_bind (hQ.notice _) fun _ => ih (attempt + 1)

variable (hvoided : ∀ kind s, Q s (Event.ofVoided kind) s)

include hvoided

theorem run {statement : Statement} (h : ∀ r ∈ (Operation.run statement).verbatim, allowed r) :
    (client.run statement).Always Q := by
  cases statement with
  | voided kind => exact hQ.always_bind (hvoided kind) fun _ => hQ.always_pure _
  | ready sql kind labels => exact hQ.sendOrRecover kind (h _ (List.mem_singleton_self _))

theorem execute (q : Command) : (client.execute q).Always Q := by
  refine fun s => hQ.from_bind (hQ.compile q s) fun statement hstatement => ?_
  refine hQ.run hvoided (fun r hr => ?_) s
  cases statement with
  | voided kind => cases hr
  | ready sql kind labels =>
    obtain rfl := List.mem_singleton.1 hr
    exact hQ.built hstatement

/-- What holds of the parts holds of an operation. -/
theorem operation : ∀ op : Operation α, (∀ r ∈ op.verbatim, allowed r) → (op.session client).Always Q
  | .compile q, _ => hQ.compile q
  | .runSql _, h => hQ.sendOrRecover _ (h _ (List.mem_singleton_self _))
  | .run _, h => hQ.run hvoided h
  | .execute q, _ => hQ.execute hvoided q
  | .select _ _, _ => hQ.execute hvoided _
  | .first _ _, _ => hQ.always_bind (hQ.execute hvoided _) fun _ => hQ.always_pure _
  | .insert _ _, _ => hQ.execute hvoided _
  | .update _ _ _, _ => hQ.execute hvoided _
  | .delete _ _, _ => hQ.execute hvoided _
  | .runBatch _ labels correlate, h => hQ.runBatch labels correlate (h _ (List.mem_singleton_self _))
  | .freshId table column seed, _ => hQ.freshId table column seed
  | .close, _ => hQ.close

end Client.Keeps

/-! ## Programs -/

/-- A program whose errors are in `ε`. What follows an operation or a transaction depends on its result, which
may be an error, and need not be told to fail by it. -/
inductive Program : Type → Type → Type 1 where
  | done {ε α : Type} (result : Except ε α) : Program ε α
  | step {ε α β : Type} (op : Operation β) (next : Except Error β → Program ε α) : Program ε α
  /-- a transaction, after which the connection is closed if `close` or, without a word on it, the configuration
  says so -/
  | transaction {ε ε' α β : Type} [Failure ε'] (close : Option Bool) (body : Program ε' β)
      (next : Except ε' β → Program ε α) : Program ε α

namespace Program

def session (client : Client σ) {ε α : Type} : Program ε α → Session σ ε α
  | .done result => Session.ofExcept result
  | .step op next => do
    let result ← (op.session client).observe
    (next result).session client
  | @transaction _ _ _ _ _ close body next => do
    let result ← (client.transactionWith (close.getD client.config.closeAfter) (body.session client)).observe
    (next result).session client

end Program

/-! ## The operations of a run -/

/-- An operation with the state that it starts from. -/
structure Performed (σ : Type) where
  {β : Type}
  op : Operation β
  state : σ

def Performed.run (client : Client σ) (x : Performed σ) : Run σ Error x.β :=
  x.op.session client x.state

namespace Program

/-- The operations that a program performs, in their order, those in transactions that are started among them. -/
def performed (client : Client σ) {ε α : Type} : Program ε α → σ → List (Performed σ)
  | .done _, _ => []
  | .step op next, s =>
    ⟨op, s⟩ :: (next (op.session client s).result).performed client (op.session client s).state
  | @transaction _ _ _ _ _ close body next, s =>
    let run := client.transactionWith (close.getD client.config.closeAfter) (body.session client) s
    let inner := match (client.connection.start s).1 with
      | .ok () => body.performed client (client.connection.start s).2
      | .error _ => []
    inner ++ (next run.result).performed client run.state

/-- What holds of operations, and of a transaction if it holds of what is in it, holds of the run of a program
that performs no operation but allowed ones. -/
theorem keeps {client : Client σ} {allowed : Request → Prop} {Q : σ → List Event → σ → Prop}
    (hQ : client.Keeps allowed Q) (hvoided : ∀ kind s, Q s (Event.ofVoided kind) s)
    (htransaction : ∀ {ε β : Type} [Failure ε] (close : Bool) (body : Session σ ε β) (s : σ),
      ((client.connection.start s).1 = .ok () → body.From Q (client.connection.start s).2) →
        (client.transactionWith close body).From Q s)
    {ε α : Type} (p : Program ε α) (s : σ)
    (hp : ∀ x ∈ p.performed client s, ∀ r ∈ x.op.verbatim, allowed r) : (p.session client).From Q s := by
  induction p generalizing s with
  | done result => exact hQ.always_ofExcept result s
  | step op next ih =>
    obtain ⟨hop, hnext⟩ := List.forall_mem_cons.1 hp
    refine hQ.from_bind (hQ.operation hvoided op hop s) fun result hresult => ?_
    cases hresult
    exact ih _ _ hnext
  | transaction close body next ihbody ih =>
    obtain ⟨hbody, hnext⟩ := List.forall_mem_append.1 hp
    refine hQ.from_bind (htransaction _ _ s fun hstart => ?_) fun result hresult => ?_
    · rw [hstart] at hbody
      exact ihbody _ hbody
    · cases hresult
      exact ih _ _ hnext

end Program

/-- A call for a query. -/
def Request.isOfQuery : Request → Bool
  | .execute _ | .batch _ => true
  | _ => false

/-- What is sent and told of queries. -/
def Event.isOfQuery : Event → Bool
  | .started _ | .completed .. => true
  | .called r _ => r.isOfQuery
  | .noticed _ | .overflowed => false

theorem Event.filter_withoutNotices (es : List Event) :
    (withoutNotices es).filter Event.isOfQuery = es.filter Event.isOfQuery := by
  rw [withoutNotices, List.filter_filter]
  congr 1
  funext e
  cases e <;> simp [isOfQuery, isNotice]

theorem Connection.filter_closing (connection : Connection σ) (close : Bool) (s : σ) :
    (connection.closing close s).filter Event.isOfQuery = [] := by
  cases close <;> rfl

/-- The calls around a transaction are for no query. -/
theorem Client.filter_transactionWith [Failure ε] (client : Client σ) (close : Bool) (body : Session σ ε α)
    (s : σ) :
    (client.transactionWith close body s).events.filter Event.isOfQuery =
      match (client.connection.start s).1 with
      | .ok () => (body (client.connection.start s).2).events.filter Event.isOfQuery
      | .error _ => [] := by
  cases h : (client.connection.start s).1 with
  | error e =>
    rw [client.transactionWith_of_not_started close body h]
    rfl
  | ok _ =>
    obtain ⟨call, succeeded, result, s', hend, -, -, hevents⟩ :=
      client.transactionWith_of_started close body h
    have hcall : (Event.called call succeeded).isOfQuery = false := by
      rw [hend.call_eq]
      split <;> rfl
    have hstart : (Event.called .start true).isOfQuery = false := rfl
    rw [← Event.filter_withoutNotices, hevents, List.filter_append, List.filter_cons_of_neg (by simp [hstart]),
      List.filter_cons_of_neg (by simp [hcall]), client.connection.filter_closing, List.append_nil,
      Event.filter_withoutNotices]

namespace Program

/-- What is sent and told of queries in the run of a program comes from the operations that it performs. -/
theorem filter_events (client : Client σ) {ε α : Type} (p : Program ε α) (s : σ) :
    (p.session client s).events.filter Event.isOfQuery =
      (p.performed client s).flatMap fun x => (x.run client).events.filter Event.isOfQuery := by
  induction p generalizing s with
  | done result => rfl
  | step op next ih =>
    simp [session, performed, ih, Performed.run]
  | transaction close body next ihbody ih =>
    simp only [session, performed, Session.observe_bind, Run.events_after, List.filter_append,
      client.filter_transactionWith, ih, List.flatMap_append]
    cases (client.connection.start s).1 with
    | ok _ => simp [ihbody]
    | error e => simp

end Program

end GuardedSql
