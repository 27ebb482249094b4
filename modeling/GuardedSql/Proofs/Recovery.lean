import GuardedSql.Proofs.Coverage
import GuardedSql.Proofs.Statistics

/-!
# Fallbacks

A fallback has a say in what an operation gives after an error of the connection, and in nothing else. What is
sent, what monitors hear and how the connection is left are the same where errors are raised.

- `Operation.run_settled`: an operation under any treatment of errors, next to one where they are raised.
- `Operation.namesSent`: the error of a query names what was sent.
- `Operation.isReported_of_unsent`: what is refused before anything is sent is no matter for the fallback.
- `Program.fallback_settles`: operations one after the other, under a fallback and where errors are raised.
-/

namespace GuardedSql

variable {σ ε α β : Type}

/-- The client with another treatment of errors. -/
def Client.withRecovery (client : Client σ) (recovery : Recovery) : Client σ :=
  { client with config := { client.config with recovery } }

/-- The client that raises errors. -/
abbrev Client.raising (client : Client σ) : Client σ :=
  client.withRecovery .raise

/-- The run with another result. -/
def Run.withResult (run : Run σ ε α) (result : Except ε β) : Run σ ε β :=
  ⟨result, run.state, run.events⟩

@[simp] theorem Run.withResult_self (run : Run σ ε α) : run.withResult run.result = run := rfl

/-- What becomes of a result that is made of a yield by `f`: an error of the connection becomes what is made of
the fallback's yield. -/
def Recovery.settle (f : Yield → α) : Recovery → Except Error α → Except Error α
  | .fallback handler, .error e => if e.isReported then .ok (f (handler e)) else .error e
  | _, result => result

namespace Recovery

variable (f : Yield → α) (recovery : Recovery)

@[simp] theorem settle_raise (result : Except Error α) : settle f .raise result = result := by
  cases result <;> rfl

@[simp] theorem settle_ok (a : α) : settle f recovery (.ok a) = .ok a := by
  cases recovery <;> rfl

theorem settle_of_not_reported {e : Error} (h : e.isReported = false) :
    settle f recovery (.error e) = .error e := by
  cases recovery with
  | raise => rfl
  | fallback handler => exact if_neg (Bool.eq_false_iff.1 h)

theorem settle_map (result : Except Error Yield) :
    settle f recovery (result.map f) = (settle id recovery result).map f := by
  cases result with
  | ok y =>
    rw [settle_ok]
    exact settle_ok f recovery (f y)
  | error e =>
    cases recovery with
    | raise => rfl
    | fallback handler => cases he : e.isReported <;> simp [settle, Except.map, he]

end Recovery

/-- A refusal comes before the connection is asked for anything. -/
theorem Error.isReported_of_isRefusal {e : Error} (h : e.isRefusal = true) : e.isReported = false := by
  cases e <;> first | rfl | cases h

theorem Session.map_run (x : Session σ ε α) (f : α → β) (s : σ) :
    (x >>= fun a => Pure.pure (f a)) s = (x s).withResult ((x s).result.map f) := by
  rcases hrun : x s with ⟨e | a, s', es⟩
  · rw [bind_of_error hrun]
    rfl
  · rw [bind_of_ok hrun, pure_run, Run.after_mk, List.append_nil]
    rfl

/-! ## Sessions that the fallback ends -/

namespace Client

variable {client : Client σ} {f : Yield → α}

/-- A session of the client next to the same session where errors are raised. -/
def Recovers (client : Client σ) (f : Yield → α) (x raised : Session σ Error α) : Prop :=
  ∀ s, x s = (raised s).withResult (client.config.recovery.settle f (raised s).result)

/-- Nothing is to be recovered from where no error of the connection is given. -/
theorem recovers_self {x : Session σ Error α}
    (h : ∀ s e, (x s).result = .error e → e.isReported = false) : client.Recovers f x x := by
  intro s
  cases hresult : (x s).result with
  | ok a => rw [Recovery.settle_ok, ← hresult, Run.withResult_self]
  | error e => rw [Recovery.settle_of_not_reported _ _ (h s e hresult), ← hresult, Run.withResult_self]

theorem recovers_pure (a : α) : client.Recovers f (pure a) (pure a) :=
  recovers_self fun _ _ h => nomatch h

theorem recovers_fail {e : Error} (h : e.isReported = false) :
    client.Recovers f (Session.fail e) (Session.fail e) := by
  refine recovers_self fun s e' he' => ?_
  cases he'
  exact h

namespace Recovers

/-- What comes before is the same, and gives no error of the connection. -/
theorem after {x : Session σ Error β} {g raised : β → Session σ Error α}
    (hx : ∀ s e, (x s).result = .error e → e.isReported = false)
    (hg : ∀ b, client.Recovers f (g b) (raised b)) : client.Recovers f (x >>= g) (x >>= raised) := by
  intro s
  have hx := hx s
  rcases hrun : x s with ⟨e | b, s', es⟩
  · rw [hrun] at hx
    rw [Session.bind_of_error hrun, Session.bind_of_error hrun, Recovery.settle_of_not_reported _ _ (hx e rfl)]
    rfl
  · rw [Session.bind_of_ok hrun, Session.bind_of_ok hrun, hg b s']
    rfl

/-- What is made of the yield afterwards is made of the fallback's too. -/
theorem map {x raised : Session σ Error Yield} (h : client.Recovers id x raised) (f : Yield → α) :
    client.Recovers f (x >>= fun y => pure (f y)) (raised >>= fun y => pure (f y)) := by
  intro s
  rw [Session.map_run, Session.map_run, h s]
  exact congrArg (Run.mk · _ _) (Recovery.settle_map f _ _).symm

end Recovers

/-- The session, and what becomes of its error. -/
def recovering (client : Client σ) (x : Session σ Error Yield) : Session σ Error Yield := do
  match ← x.observe with
  | .ok y => return y
  | .error e => client.recover e

theorem recover_run (client : Client σ) (e : Error) (s : σ) :
    client.recover e s = ⟨client.config.recovery.settle id (.error e), s, []⟩ := by
  unfold recover Recovery.settle
  cases client.config.recovery with
  | raise => rfl
  | fallback handler => cases he : e.isReported <;> simp [he]

/-- The fallback comes after what is sent, and does nothing but settle the result. -/
theorem recovering_run (client : Client σ) (x : Session σ Error Yield) (s : σ) :
    client.recovering x s = (x s).withResult (client.config.recovery.settle id (x s).result) := by
  rw [recovering, Session.observe_bind]
  rcases x s with ⟨e | y, s', es⟩
  · dsimp only
    rw [recover_run, Run.after_mk, List.append_nil]
    rfl
  · dsimp only
    rw [Session.pure_run, Run.after_mk, List.append_nil, Recovery.settle_ok]
    rfl

/-- Where errors are raised, nothing becomes of them. -/
theorem raising_recovering (client : Client σ) (x : Session σ Error Yield) : client.raising.recovering x = x := by
  funext s
  rw [recovering_run]
  exact congrArg (x s).withResult (Recovery.settle_raise id _)

theorem recovers_recovering (client : Client σ) (x : Session σ Error Yield) :
    client.Recovers id (client.recovering x) (client.raising.recovering x) := by
  rw [raising_recovering]
  exact client.recovering_run x

theorem recovers_run (client : Client σ) (statement : Statement) :
    client.Recovers id (client.run statement) (client.raising.run statement) := by
  cases statement with
  | voided kind => exact recovers_self fun _ _ h => nomatch h
  | ready sql kind labels => exact client.recovers_recovering (client.send sql kind)

theorem isReported_compile (client : Client σ) {q : Command} {s : σ} {e : Error}
    (h : (client.compile q s).result = .error e) : e.isReported = false :=
  Error.isReported_of_isRefusal (isRefusal_build _ q h)

/-- What cannot be built is refused, which no fallback is asked about. -/
theorem recovers_execute (client : Client σ) (q : Command) :
    client.Recovers id (client.execute q) (client.raising.execute q) :=
  Recovers.after (fun _ _ h => client.isReported_compile h) client.recovers_run

theorem recovers_runBatch (client : Client σ) (statements : List String) (labels : List Label) (correlate : Bool) :
    client.Recovers id (client.runBatch statements labels correlate)
      (client.raising.runBatch statements labels correlate) := by
  by_cases hfits : Batch.Fits correlate (Batch.given labels) (Batch.sent statements)
  · by_cases hempty : Batch.sent statements = []
    · rw [client.runBatch_of_empty hfits hempty, client.raising.runBatch_of_empty hfits hempty]
      exact recovers_pure _
    rcases Nat.lt_or_ge client.config.maxBatch (Batch.sent statements).length with h | h
    · rw [client.runBatch_of_tooLong hfits hempty h, client.raising.runBatch_of_tooLong hfits hempty h]
      exact recovers_fail (by rfl)
    · rw [client.runBatch_of_accepted hfits hempty h, client.raising.runBatch_of_accepted hfits hempty h]
      exact client.recovers_recovering _
  · rw [client.runBatch_of_not_fits hfits, client.raising.runBatch_of_not_fits hfits]
    exact recovers_fail (by rfl)

end Client

/-! ## The names of errors -/

/-- The connection was called, and failed on this SQL: a statement, a batch, or a statement of a batch that was
answered in part. -/
inductive FailedQuery (events : List Event) : String → Prop
  | statement {sql : String} (h : .called (.execute sql) false ∈ events) : FailedQuery events sql
  | batch {sql : String} (h : .called (.batch sql) false ∈ events) : FailedQuery events sql
  | part {statements : List String} {sql : String}
      (h : .called (.batch (";".intercalate statements)) true ∈ events) (hsql : sql ∈ statements) :
      FailedQuery events sql

theorem FailedQuery.mono {events events' : List Event} {sql : String} (h : FailedQuery events sql)
    (hsub : events ⊆ events') : FailedQuery events' sql := by
  cases h with
  | statement h => exact .statement (hsub h)
  | batch h => exact .batch (hsub h)
  | part h hsql => exact .part (hsub h) hsql

/-- If the session fails with an error of a query, that names what was sent. -/
def Session.NamesSent (x : Session σ Error α) : Prop :=
  ∀ s sql reason, (x s).result = .error (.query sql reason) → FailedQuery (x s).events sql

theorem Session.NamesSent.bind {x : Session σ Error α} {f : α → Session σ Error β} (hx : x.NamesSent)
    (hf : ∀ a, (f a).NamesSent) : (x >>= f).NamesSent := by
  intro s sql reason
  have hx := hx s sql reason
  rcases hrun : x s with ⟨e | a, s', es⟩
  · rw [hrun] at hx
    rw [bind_of_error hrun]
    intro h
    cases h
    exact hx rfl
  · rw [bind_of_ok hrun]
    exact fun h => (hf a s' sql reason h).mono (List.subset_append_right _ _)

theorem Session.namesSent_pure (a : α) : (Pure.pure a : Session σ Error α).NamesSent :=
  fun _ _ _ h => nomatch h

theorem Error.eq_of_naming {e : Error} {sql sql' reason : String} (h : e.naming sql = .query sql' reason) :
    sql' = sql := by
  cases e with
  | query =>
    cases h
    rfl
  | _ => cases h

namespace Client

variable (client : Client σ)

theorem namesSent_send (sql : String) (kind : Kind) : (client.send sql kind).NamesSent := by
  intro s sql' reason
  rcases h : client.connection.execute sql s with ⟨e | reply, s'⟩
  · rw [client.send_of_error h]
    intro hresult
    cases Error.eq_of_naming (Except.error.inj hresult)
    exact .statement (by simp)
  · rw [client.send_of_reply h]
    exact fun hresult => nomatch hresult

theorem namesSent_sendBatch (statements : List String) (labels : List Label) (correlate : Bool) :
    (client.sendBatch statements labels correlate).NamesSent := by
  intro s sql reason
  cases client.connection.answers statements s with
  | failed h =>
    rw [client.sendBatch_of_error h]
    intro hresult
    cases Error.eq_of_naming (Except.error.inj hresult)
    exact .batch (Batch.called_mem_events ..)
  | missing h _ hfirst houtcomes =>
    rw [client.sendBatch_of_missing h houtcomes]
    intro hresult
    cases hresult
    exact .part (Batch.called_mem_events ..) (List.mem_of_getElem? hfirst)
  | answered h _ houtcomes =>
    rw [client.sendBatch_of_outcomes h houtcomes]
    exact fun hresult => nomatch hresult

theorem namesSent_recovering {x : Session σ Error Yield} (h : x.NamesSent) :
    (client.raising.recovering x).NamesSent := by
  rwa [raising_recovering]

theorem namesSent_run (statement : Statement) : (client.raising.run statement).NamesSent := by
  cases statement with
  | voided kind => exact fun _ _ _ h => nomatch h
  | ready sql kind labels => exact client.namesSent_recovering (client.raising.namesSent_send sql kind)

theorem namesSent_execute (q : Command) : (client.raising.execute q).NamesSent := by
  refine Session.NamesSent.bind (fun s sql reason h => ?_) client.namesSent_run
  cases client.raising.isReported_compile h

theorem namesSent_runBatch (statements : List String) (labels : List Label) (correlate : Bool) :
    (client.raising.runBatch statements labels correlate).NamesSent := by
  unfold runBatch
  dsimp only
  split
  · exact fun _ _ _ h => nomatch h
  split
  · exact Session.namesSent_pure _
  split
  · exact fun _ _ _ h => nomatch h
  · exact client.namesSent_recovering (client.raising.namesSent_sendBatch _ _ _)

end Client

/-! ## Operations -/

namespace Operation

/-- What an operation makes of a yield, if the fallback may have a say in it. -/
def ofYield? : Operation α → Option (Yield → α)
  | .runSql _ | .run _ | .execute _ | .select _ _ | .insert _ _ | .update _ _ _ | .delete _ _
  | .runBatch _ _ _ => some id
  | .first _ _ => some fun y => y.rows.head?
  | .compile _ | .freshId _ _ _ | .close => none

/-- What becomes of the result of an operation. -/
def settle (op : Operation α) (recovery : Recovery) (result : Except Error α) : Except Error α :=
  match op.ofYield? with
  | some f => recovery.settle f result
  | none => result

/-- An operation next to the same one where errors are raised. -/
theorem run_settled (client : Client σ) : ∀ (op : Operation α) (s : σ),
    op.session client s =
      (op.session client.raising s).withResult (op.settle client.config.recovery (op.session client.raising s).result)
  | .compile _ | .freshId _ _ _ | .close => fun _ => rfl
  | .runSql sql => client.recovers_recovering (client.send sql (.ofSql sql))
  | .run statement => client.recovers_run statement
  | .execute q => client.recovers_execute q
  | .select _ _ | .insert _ _ | .update _ _ _ | .delete _ _ => client.recovers_execute _
  | .first _ _ => (client.recovers_execute _).map fun y => y.rows.head?
  | .runBatch statements labels correlate => client.recovers_runBatch statements labels correlate

/-- The error of a query that an operation is left with names what was sent. -/
theorem namesSent (client : Client σ) : ∀ op : Operation α, op.ofYield?.isSome = true →
    (op.session client.raising).NamesSent
  | .compile _, h | .freshId _ _ _, h | .close, h => nomatch h
  | .runSql sql, _ => client.namesSent_run (.ofSql sql)
  | .run statement, _ => client.namesSent_run statement
  | .execute q, _ => client.namesSent_execute q
  | .select _ _, _ | .insert _ _, _ | .update _ _ _, _ | .delete _ _, _ => client.namesSent_execute _
  | .first _ _, _ => (client.namesSent_execute _).bind fun _ => Session.namesSent_pure _
  | .runBatch statements labels correlate, _ => client.namesSent_runBatch statements labels correlate

variable {client : Client σ} {op : Operation α} {s : σ} {e : Error}

/-- What is refused before anything is sent is not reported by the connection. -/
theorem isReported_of_unsent (h : op.Unsent client s) (hop : op.ofYield?.isSome = true)
    (he : (op.session client.raising s).result = .error e) : e.isReported = false := by
  cases op with
  | compile | freshId | close => cases hop
  | runSql | run =>
    obtain ⟨q, e, hq, -⟩ := h
    cases hq
  | execute | select | insert | update | delete =>
    obtain ⟨q, e', hq, hresult⟩ := h
    cases hq
    obtain ⟨notices, -, hrun⟩ := client.raising.execute_of_error hresult
    rw [session] at he
    cases (congrArg Run.result hrun).symm.trans he
    exact client.isReported_compile hresult
  | first =>
    obtain ⟨q, e', hq, hresult⟩ := h
    cases hq
    obtain ⟨notices, -, hrun⟩ := client.raising.execute_of_error hresult
    rw [session, Client.first?, Session.bind_of_error hrun] at he
    cases he
    exact client.isReported_compile hresult
  | runBatch statements labels correlate =>
    by_cases hfits : Batch.Fits correlate (Batch.given labels) (Batch.sent statements)
    · by_cases hempty : Batch.sent statements = []
      · rw [session, client.raising.runBatch_of_empty hfits hempty] at he
        cases he
      · have htooLong := (h.resolve_left (not_not_intro hfits)).resolve_left hempty
        rw [session, client.raising.runBatch_of_tooLong hfits hempty htooLong] at he
        cases he
        rfl
    · rw [session, client.raising.runBatch_of_not_fits hfits] at he
      cases he
      rfl

/-- So no fallback has a say in it. -/
theorem settle_of_unsent (h : op.Unsent client s) (recovery : Recovery) :
    op.settle recovery (op.session client.raising s).result = (op.session client.raising s).result := by
  unfold settle
  split
  · rename_i f hf
    cases he : (op.session client.raising s).result with
    | ok a => exact Recovery.settle_ok f recovery a
    | error e =>
      exact Recovery.settle_of_not_reported f recovery (isReported_of_unsent h (hf ▸ rfl) he)
  · rfl

end Operation

/-! ## Operations one after the other -/

namespace Program

/-- Operations one after the other, whatever comes of each. -/
def sequence : List (Σ β, Operation β) → Program Error Unit
  | [] => .done (.ok ())
  | op :: ops => .step op.2 fun _ => sequence ops

theorem ops_performed (client : Client σ) (ops : List (Σ β, Operation β)) (s : σ) :
    ((sequence ops).performed client s).map (fun x => ⟨x.β, x.op⟩) = ops := by
  induction ops generalizing s with
  | nil => rfl
  | cons op ops ih => exact congrArg (op :: ·) (ih _)

/-- The connection is left the same after each operation, so the next one starts from the same state. -/
theorem sequence_raising (client : Client σ) (ops : List (Σ β, Operation β)) (s : σ) :
    (sequence ops).session client s = (sequence ops).session client.raising s ∧
      (sequence ops).performed client s = (sequence ops).performed client.raising s := by
  induction ops generalizing s with
  | nil => exact ⟨rfl, rfl⟩
  | cons op ops ih =>
    have hop := op.2.run_settled client s
    constructor
    · simp only [sequence, session, Session.observe_bind, hop, Run.withResult, ih]
    · simp only [sequence, performed, hop, Run.withResult, ih]

/-- Operations one after the other, under a fallback and where errors are raised. The connection is called alike,
monitors hear the same, and each operation gives the same, but for an error of the connection, which becomes what
the fallback makes of it. The error names what was sent. What is refused before anything is sent stays as it is. -/
theorem fallback_settles (client : Client σ) (handler : Error → Yield) (ops : List (Σ β, Operation β)) (s : σ) :
    let raising := client.withRecovery .raise
    let falling := client.withRecovery (.fallback handler)
    let p := sequence ops
    (p.performed raising s).map (fun x => ⟨x.β, x.op⟩) = ops ∧ p.performed falling s = p.performed raising s ∧
    p.session falling s = p.session raising s ∧
    ∀ x ∈ p.performed raising s,
      (x.run falling).events = (x.run raising).events ∧ (x.run falling).state = (x.run raising).state ∧
      (x.run falling).result = x.op.settle (.fallback handler) (x.run raising).result ∧
      (x.op.Unsent raising x.state → (x.run falling).result = (x.run raising).result) ∧
      ∀ sql reason, x.op.ofYield?.isSome = true → (x.run raising).result = .error (.query sql reason) →
        FailedQuery (x.run raising).events sql := by
  intro raising falling p
  obtain ⟨hsession, hperformed⟩ := sequence_raising falling ops s
  refine ⟨ops_performed raising ops s, hperformed, hsession, fun x _ => ?_⟩
  have hrun : x.run falling = _ := x.op.run_settled falling x.state
  refine ⟨by rw [hrun]; rfl, by rw [hrun]; rfl, by rw [hrun]; rfl, fun hunsent => ?_, fun sql reason hop => ?_⟩
  · have hunsent : x.op.Unsent falling x.state := hunsent
    rw [hrun]
    exact Operation.settle_of_unsent hunsent (.fallback handler)
  · exact x.op.namesSent client hop x.state sql reason

end Program

end GuardedSql
