import GuardedSql.Proofs.Kinds
import GuardedSql.Proofs.Program

/-!
# What a rollback leaves

A transaction of a MySQL-like database keeps its statements pending until they are committed or rolled back,
and the start of a transaction commits one that is open. So a transaction that is rolled back leaves the
permanent state as it was at its start, if no other transaction is started in it. If one is, that does not hold:
its start makes permanent what was pending, and its commit what is in it.

- `Database`: what is relied on.
- `Program.rollback_discards`: a transaction with no other one in it.
- `Ledger.nested_survives`: a transaction with another one in it.
-/

namespace GuardedSql

open Event

variable {σ δ ε α : Type}

/-- The state after a call. -/
def Connection.after (connection : Connection σ) : Request → σ → σ
  | .execute sql, s => (connection.execute sql s).2
  | .batch sql, s => (connection.executeBatch sql s).2
  | .start, s => (connection.start s).2
  | .commit, s => (connection.commit s).2
  | .rollback, s => (connection.rollback s).2
  | .close, s => (connection.close s).2

/-- A MySQL-like database behind a connection. -/
structure Database (connection : Connection σ) (δ : Type) where
  /-- what outlives the connection -/
  permanent : σ → δ
  /-- what the connection sees, also what is pending -/
  current : σ → δ
  /-- a transaction is open -/
  IsOpen : σ → Prop
  /-- the connection is closed or lost, and what was pending with it -/
  IsGone : σ → Prop
  /-- calls that begin or end transactions, also by what statements they are for -/
  IsControl : Request → Prop
  /-- no statement that selects, inserts, updates or deletes is one of them -/
  raw_of_isControl {sql : String} : IsControl (.execute sql) → Kind.ofSql sql = .raw
  not_isControl_close : ¬ IsControl .close
  current_of_not_open {s : σ} : ¬ IsOpen s → current s = permanent s
  /-- the start of a transaction commits what is pending -/
  start {s : σ} : (connection.start s).1 = .ok () →
    permanent (connection.start s).2 = current s ∧ current (connection.start s).2 = current s ∧
      IsOpen (connection.start s).2
  /-- a transaction that is open stays so if no other one can be started, or is lost -/
  not_started {s : σ} {e : Error} : (connection.start s).1 = .error e → IsOpen s →
    permanent (connection.start s).2 = permanent s ∧
      (IsOpen (connection.start s).2 ∨ IsGone (connection.start s).2)
  /-- statements in a transaction are pending -/
  pending {r : Request} {s : σ} : ¬ IsControl r → IsOpen s →
    permanent (connection.after r s) = permanent s ∧
      (IsOpen (connection.after r s) ∨ IsGone (connection.after r s))
  /-- nothing is done on a connection that is gone -/
  gone (r : Request) {s : σ} : IsGone s →
    permanent (connection.after r s) = permanent s ∧ IsGone (connection.after r s)
  /-- a commit makes permanent what is pending -/
  commit {s : σ} : (connection.commit s).1 = .ok () → IsOpen s →
    permanent (connection.commit s).2 = current s ∧ ¬ IsOpen (connection.commit s).2
  /-- a rollback discards what is pending -/
  rollback {s : σ} : (connection.rollback s).1 = .ok () →
    permanent (connection.rollback s).2 = permanent s ∧ ¬ IsOpen (connection.rollback s).2
  close (s : σ) : permanent (connection.close s).2 = permanent s

namespace Database

section

variable {connection : Connection σ} (db : Database connection δ)

/-- Nothing that is done becomes permanent, short of the end of a transaction. -/
def Held (s : σ) : Prop :=
  db.IsOpen s ∨ db.IsGone s

theorem held_after {r : Request} (hr : ¬ db.IsControl r) {s : σ} (h : db.Held s) :
    db.permanent (connection.after r s) = db.permanent s ∧ db.Held (connection.after r s) := by
  rcases h with hopen | hgone
  · exact db.pending hr hopen
  · exact (db.gone r hgone).imp_right .inr

theorem held_of_not_started {s : σ} {e : Error} (hstart : (connection.start s).1 = .error e) (h : db.Held s) :
    db.permanent (connection.start s).2 = db.permanent s ∧ db.Held (connection.start s).2 := by
  rcases h with hopen | hgone
  · exact db.not_started hstart hopen
  · exact (db.gone .start hgone).imp_right .inr

/-- From a state in which nothing becomes permanent, nothing does if no transaction is started. -/
def Withholds (s : σ) (es : List Event) (s' : σ) : Prop :=
  (∀ e ∈ es, e ≠ .called .start true) → db.Held s → db.permanent s' = db.permanent s ∧ db.Held s'

theorem composes_withholds : Composes db.Withholds where
  nil _ _ h := ⟨rfl, h⟩
  append hes hes' hnone h := by
    obtain ⟨hnone, hnone'⟩ := List.forall_mem_append.1 hnone
    obtain ⟨heq, hheld⟩ := hes hnone h
    obtain ⟨heq', hheld'⟩ := hes' hnone' hheld
    exact ⟨heq'.trans heq, hheld'⟩

end

variable {client : Client σ} (db : Database client.connection δ)

/-- Operations make nothing permanent, unless they are given statements that begin or end transactions. -/
theorem keeps_withholds : client.Keeps (fun r => ¬ db.IsControl r) db.Withholds where
  toComposes := db.composes_withholds
  built {q} _ _ _ _ h := by
    intro hcontrol
    exact q.kind_ne_raw ((Command.kind_of_build h).2.symm.trans (db.raw_of_isControl hcontrol))
  notice _ _ _ h := ⟨rfl, h⟩
  send {sql} kind hsql s := by
    intro _ h
    rw [client.state_send]
    exact db.held_after hsql h
  sendBatch {statements} labels correlate hsql s := by
    intro _ h
    rw [client.state_sendBatch]
    exact db.held_after hsql h
  close _ _ h := db.held_after db.not_isControl_close h

/-- Nor does a transaction that is not started. -/
theorem withholds_transactionWith [Failure ε] (close : Bool) (body : Session σ ε α) (s : σ) :
    (client.transactionWith close body).From db.Withholds s := by
  intro hnone h
  cases hstart : (client.connection.start s).1 with
  | error e =>
    rw [client.transactionWith_of_not_started close body hstart]
    exact db.held_of_not_started hstart h
  | ok _ =>
    obtain ⟨call, succeeded, result, s', -, -, -, hevents⟩ :=
      client.transactionWith_of_started close body hstart
    have hmem : Event.called .start true ∈ withoutNotices (client.transactionWith close body s).events := by
      rw [hevents]
      exact List.mem_cons_self
    exact absurd rfl (hnone _ (List.mem_filter.1 hmem).1)

end Database

/-- A transaction whose program fails leaves nothing behind once it is rolled back, if no statement that the
program is given begins or ends a transaction and none is started in it. The permanent state is what the
connection saw before, and what it was before if no transaction was open. -/
theorem Program.rollback_discards [Failure ε] {client : Client σ} (db : Database client.connection δ)
    (body : Program ε α) (close : Bool) {s : σ} {e : ε}
    (hplain : ∀ x ∈ body.performed client (client.connection.start s).2,
      ∀ r ∈ x.op.verbatim, ¬ db.IsControl r)
    (hnested : ∀ event ∈ (body.session client (client.connection.start s).2).events, event ≠ .called .start true)
    (hstart : (client.connection.start s).1 = .ok ())
    (hbody : (body.session client (client.connection.start s).2).result = .error e)
    (hrollback : (client.connection.rollback (body.session client (client.connection.start s).2).state).1 = .ok ()) :
    (client.transactionWith close (body.session client) s).result = .error e ∧
      db.permanent (client.transactionWith close (body.session client) s).state = db.current s ∧
      (¬ db.IsOpen s →
        db.permanent (client.transactionWith close (body.session client) s).state = db.permanent s) := by
  obtain ⟨hpermanent, -, hopen⟩ := db.start hstart
  have hkeeps := body.keeps db.keeps_withholds (fun _ _ _ h => ⟨rfl, h⟩)
    (fun close body s _ => db.withholds_transactionWith close body s) _ hplain
  obtain ⟨hbodyPermanent, -⟩ := hkeeps hnested (.inl hopen)
  obtain ⟨call, succeeded, result, s', hend, hresult, hstate, -⟩ :=
    client.transactionWith_of_started close (body.session client) hstart
  rw [hbody] at hend
  have hdiscards : result = .error e ∧
      s' = (client.connection.rollback (body.session client (client.connection.start s).2).state).2 := by
    cases hend with
    | rolledBack => exact ⟨rfl, rfl⟩
    | notRolledBack _ h =>
      rw [hrollback] at h
      cases h
  obtain ⟨rfl, rfl⟩ := hdiscards
  have hclosed : ∀ t, db.permanent (client.connection.closed close t) = db.permanent t := by
    intro t
    cases close with
    | true => exact db.close t
    | false => rfl
  have hcurrent : db.permanent (client.transactionWith close (body.session client) s).state = db.current s := by
    rw [hstate, hclosed, (db.rollback hrollback).1, hbodyPermanent, hpermanent]
  exact ⟨hresult, hcurrent, fun hnot => hcurrent.trans (db.current_of_not_open hnot)⟩

/-! ## A ledger -/

/-- A database that keeps the texts of statements: permanent ones, and those of an open transaction. -/
structure Ledger where
  permanent : List String := []
  pending : Option (List String) := none
deriving DecidableEq

namespace Ledger

def current (l : Ledger) : List String :=
  l.permanent ++ l.pending.getD []

/-- The statements that begin or end a transaction of a ledger. -/
def control : List String :=
  ["START TRANSACTION", "COMMIT", "ROLLBACK"]

def run (sql : String) (l : Ledger) : Ledger :=
  if sql = "START TRANSACTION" then ⟨l.current, some []⟩
  else if sql = "COMMIT" then ⟨l.current, none⟩
  else if sql = "ROLLBACK" then ⟨l.permanent, none⟩
  else match l.pending with
    | some texts => ⟨l.permanent, some (texts ++ [sql])⟩
    | none => ⟨l.permanent ++ [sql], none⟩

theorem run_of_pending {sql : String} (h : sql ∉ control) {l : Ledger} {texts : List String}
    (hl : l.pending = some texts) : l.run sql = ⟨l.permanent, some (texts ++ [sql])⟩ := by
  simp only [control, List.mem_cons, List.not_mem_nil, or_false, not_or] at h
  simp [run, h, hl]

/-- A connection to a ledger. -/
def connection : Connection Ledger where
  execute sql l := (.ok (.affected 1), l.run sql)
  executeBatch sql l := (.ok [], l.run sql)
  lastInsertId _ := 0
  affectedRows _ := 1
  lastError _ := ""

def database : Database connection (List String) where
  permanent := Ledger.permanent
  current := Ledger.current
  IsOpen l := l.pending.isSome = true
  IsGone _ := False
  IsControl
    | .execute sql | .batch sql => sql ∈ control
    | .start | .commit | .rollback => True
    | .close => False
  raw_of_isControl {sql} h := by
    revert sql
    simp only [control, List.forall_mem_cons]
    decide
  not_isControl_close := id
  current_of_not_open {l} h := by
    simp [current, Option.not_isSome_iff_eq_none.1 h]
  start {l} _ := by
    simp [connection, run, current]
  not_started {l e} h := by
    cases h
  pending {r l} hr h := by
    obtain ⟨texts, htexts⟩ := Option.isSome_iff_exists.1 h
    cases r with
    | execute sql | batch sql =>
      have hrun : l.run sql = _ := run_of_pending hr htexts
      simp [Connection.after, connection, hrun]
    | close => exact ⟨rfl, .inl h⟩
    | start | commit | rollback => exact absurd trivial hr
  gone _ _ h := h.elim
  commit {l} _ _ := by
    simp [connection, run, current]
  rollback {l} _ := by
    simp [connection, run]
  close _ := rfl

def client : Client Ledger where
  connection := connection

/-- Two insertions, and a failure. -/
def flat : Program Error Unit :=
  .step (.runSql "INSERT INTO t VALUES (1)") fun _ =>
    .step (.runSql "INSERT INTO t VALUES (2)") fun _ => .done (.error (.invalid (.other "no")))

/-- Both insertions are discarded, and what was permanent stays. -/
theorem flat_discards :
    let l : Ledger := { permanent := ["INSERT INTO t VALUES (0)"] }
    let run := client.transactionWith true (flat.session client) l
    run.result = .error (.invalid (.other "no")) ∧ run.state.permanent = l.permanent := by
  intro l run
  have hplain : ∀ x ∈ flat.performed client (client.connection.start l).2,
      ∀ r ∈ x.op.verbatim, ¬ database.IsControl r := by
    simp [flat, Program.performed, Operation.verbatim, database, control]
  have hnested : ∀ event ∈ (flat.session client (client.connection.start l).2).events,
      event ≠ .called .start true := by
    decide
  obtain ⟨hresult, -, hpermanent⟩ := Program.rollback_discards database flat true hplain hnested rfl rfl rfl
  exact ⟨hresult, hpermanent Bool.false_ne_true⟩

/-- An insertion, a transaction with another one, and a failure. -/
def nested : Program Error Unit :=
  .step (.runSql "INSERT INTO t VALUES (1)") fun _ =>
    .transaction none (.step (.runSql "INSERT INTO t VALUES (2)") fun _ => .done (.ok ()))
      fun (_ : Except Error Unit) => .done (.error (.invalid (.other "no")))

/-- Where another transaction is started in it, a transaction that is rolled back leaves something behind: the
start of the other one has committed the first insertion, and its commit the second one. -/
theorem nested_survives :
    ¬ ∀ (body : Program Error Unit) (l : Ledger) (e : Error),
      (∀ x ∈ body.performed client (client.connection.start l).2,
        ∀ r ∈ x.op.verbatim, ¬ database.IsControl r) →
      (client.connection.start l).1 = .ok () →
      (body.session client (client.connection.start l).2).result = .error e →
      (client.connection.rollback (body.session client (client.connection.start l).2).state).1 = .ok () →
      ¬ database.IsOpen l →
      database.permanent (client.transactionWith false (body.session client) l).state = database.permanent l := by
  intro h
  have hperformed : ∃ l₁ l₂, nested.performed client (client.connection.start {}).2 =
      [⟨.runSql "INSERT INTO t VALUES (1)", l₁⟩, ⟨.runSql "INSERT INTO t VALUES (2)", l₂⟩] :=
    ⟨_, _, rfl⟩
  have hplain : ∀ x ∈ nested.performed client (client.connection.start {}).2,
      ∀ r ∈ x.op.verbatim, ¬ database.IsControl r := by
    obtain ⟨l₁, l₂, hperformed⟩ := hperformed
    rw [hperformed]
    simp [Operation.verbatim, database, control]
  have hpermanent := h nested {} (.invalid (.other "no")) hplain rfl rfl rfl Bool.false_ne_true
  have hleft : database.permanent (client.transactionWith false (nested.session client) {}).state =
      ["INSERT INTO t VALUES (1)", "INSERT INTO t VALUES (2)"] := by
    decide
  rw [hleft] at hpermanent
  cases hpermanent

end Ledger

end GuardedSql
