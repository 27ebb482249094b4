import GuardedSql.Proofs.Monitoring

/-!
# Brackets of transactions

Transactions stand in each other like brackets, whatever the connection answers: each one that is started is
ended by a commit or a rollback before the one around it goes on.

- `Program.executes`: how a program runs, transaction by transaction.
- `Executes.bracketed`: the calls of such a run, in brackets.
- `Program.wellBracketed`: both, of every program.
-/

namespace GuardedSql

open Event

variable {σ ε α β : Type}

/-- How a program runs from a state: its result, the state that it leaves, and its events without notices. A
transaction that cannot be started leaves its error to what follows. In one that is started its body runs once.
The call that ends it comes right after that, then the connection is closed if it is to be, and then comes what
follows. -/
inductive Executes (client : Client σ) :
    {ε α : Type} → Program ε α → σ → Except ε α → σ → List Event → Prop
  | done {ε α : Type} (result : Except ε α) (s : σ) : Executes client (.done result) s result s []
  | step {ε α β : Type} (op : Operation β) {next : Except Error β → Program ε α} {s s' : σ}
      {result : Except ε α} {es : List Event}
      (hnext : Executes client (next (op.session client s).result) (op.session client s).state result s' es) :
      Executes client (.step op next) s result s' (withoutNotices (op.session client s).events ++ es)
  | notStarted {ε ε' α β : Type} [Failure ε'] (close : Option Bool) (body : Program ε' β)
      {next : Except ε' β → Program ε α} {s s' : σ} {result : Except ε α} {es : List Event} {e : Error}
      (hstart : (client.connection.start s).1 = .error e)
      (hnext : Executes client (next (.error (Failure.ofError e))) (client.connection.start s).2 result s' es) :
      Executes client (.transaction close body next) s result s' (.called .start false :: es)
  | transaction {ε ε' α β : Type} [Failure ε'] (close : Option Bool) {body : Program ε' β}
      {next : Except ε' β → Program ε α} {s t t' s' : σ} {given outcome : Except ε' β} {result : Except ε α}
      {inner es : List Event} {call : Request} {succeeded : Bool}
      (hstart : (client.connection.start s).1 = .ok ())
      (hbody : Executes client body (client.connection.start s).2 given t inner)
      (hend : Ending client.connection given t call succeeded outcome t')
      (hnext : Executes client (next outcome)
        (client.connection.closed (close.getD client.config.closeAfter) t') result s' es) :
      Executes client (.transaction close body next) s result s'
        (.called .start true :: (inner ++ .called call succeeded ::
          (client.connection.closing (close.getD client.config.closeAfter) t' ++ es)))

/-- Every program runs in this way. -/
theorem Program.executes (client : Client σ) (p : Program ε α) (s : σ) :
    Executes client p s (p.session client s).result (p.session client s).state
      (withoutNotices (p.session client s).events) := by
  induction p generalizing s with
  | done result => exact .done result s
  | step op next ih =>
    simp only [session, Session.observe_bind, Run.result_after, Run.state_after, Run.events_after,
      withoutNotices_append]
    exact .step op (ih _ _)
  | transaction close body next ihbody ih =>
    simp only [session, Session.observe_bind, Run.result_after, Run.state_after, Run.events_after,
      withoutNotices_append]
    cases hstart : (client.connection.start s).1 with
    | error e =>
      rw [client.transactionWith_of_not_started _ _ hstart]
      exact .notStarted close body hstart (ih _ _)
    | ok _ =>
      obtain ⟨call, succeeded, outcome, t', hend, hresult, hstate, hevents⟩ :=
        client.transactionWith_of_started (close.getD client.config.closeAfter) (body.session client) hstart
      rw [hresult, hstate, hevents]
      have hrun := Executes.transaction close hstart (ihbody _) hend (ih outcome _)
      simpa using hrun

/-! ## Brackets -/

/-- A call that begins or ends a transaction. -/
def Request.isBracket : Request → Bool
  | .start | .commit | .rollback => true
  | _ => false

def Event.isBracket : Event → Bool
  | .called r _ => r.isBracket
  | _ => false

/-- A transaction that is started. -/
def Event.opens : Event → Bool
  | .called .start succeeded => succeeded
  | _ => false

/-- An attempt to end a transaction. -/
def Event.ends : Event → Bool
  | .called .commit _ | .called .rollback _ => true
  | _ => false

/-- Events in which each transaction that is started is ended, by a commit or a rollback, with whole transactions
between. -/
inductive Bracketed : List Event → Prop
  | nil : Bracketed []
  | other {e : Event} {es : List Event} (he : e.isBracket = false) (h : Bracketed es) : Bracketed (e :: es)
  | notStarted {es : List Event} (h : Bracketed es) : Bracketed (.called .start false :: es)
  | transaction {inner es : List Event} {call : Request} (succeeded : Bool)
      (hcall : call = .commit ∨ call = .rollback) (hinner : Bracketed inner) (h : Bracketed es) :
      Bracketed (.called .start true :: (inner ++ .called call succeeded :: es))

namespace Bracketed

theorem of_forall {es : List Event} (h : ∀ e ∈ es, e.isBracket = false) : Bracketed es := by
  induction es with
  | nil => exact .nil
  | cons e es ih =>
    obtain ⟨he, hes⟩ := List.forall_mem_cons.1 h
    exact .other he (ih hes)

theorem append {es es' : List Event} (h : Bracketed es) (h' : Bracketed es') : Bracketed (es ++ es') := by
  induction h with
  | nil => exact h'
  | other he _ ih => exact .other he ih
  | notStarted _ ih => exact .notStarted ih
  | transaction succeeded hcall hinner _ _ ih =>
    rw [List.cons_append, List.append_assoc, List.cons_append]
    exact .transaction succeeded hcall hinner ih

/-- As many attempts to end a transaction as transactions that are started. -/
theorem countP_opens {es : List Event} (h : Bracketed es) : es.countP Event.opens = es.countP Event.ends := by
  induction h with
  | nil => rfl
  | @other e es he _ ih =>
    have hopens : e.opens = false := by
      cases e with
      | called r succeeded => cases r <;> first | rfl | cases he
      | started | completed | noticed | overflowed => rfl
    have hends : e.ends = false := by
      cases e with
      | called r succeeded => cases r <;> first | rfl | cases he
      | started | completed | noticed | overflowed => rfl
    simp [hopens, hends, ih]
  | notStarted _ ih => simpa [Event.opens, Event.ends] using ih
  | transaction succeeded hcall _ _ ihinner ih =>
    rcases hcall with rfl | rfl <;> simp [List.countP_cons, Event.opens, Event.ends, ihinner, ih] <;> omega

end Bracketed

theorem Occurs.unbracketed {connection : Connection σ} {s s' : σ} {x : Episode} (h : Occurs connection s x s')
    (hquery : x.isQuery = true) : ∀ e ∈ x.events, e.isBracket = false := by
  cases h with
  | statement | batch => simp [Episode.events, Event.isBracket, Request.isBracket]
  | voided | start | commit | rollback | close => cases hquery

/-- Operations neither begin nor end transactions. -/
theorem Operation.unbracketed (client : Client σ) (op : Operation α) (s : σ) :
    ∀ e ∈ (op.session client s).events, e.isBracket = false :=
  (client.keeps_all (P := fun e => e.isBracket = false) (fun _ => rfl) rfl Occurs.unbracketed fun _ => rfl).operation
    (fun _ _ => List.forall_mem_singleton.2 rfl) op (fun _ _ => trivial) s

theorem Connection.unbracketed_closing (connection : Connection σ) (close : Bool) (s : σ) :
    ∀ e ∈ connection.closing close s, e.isBracket = false := by
  cases close <;> simp [Connection.closing, Event.isBracket, Request.isBracket]

theorem Executes.bracketed {client : Client σ} {p : Program ε α} {s s' : σ} {result : Except ε α}
    {es : List Event} (h : Executes client p s result s' es) : Bracketed es := by
  induction h with
  | done result s => exact .nil
  | step op _ ih =>
    refine Bracketed.append (.of_forall fun e he => ?_) ih
    exact op.unbracketed client _ e (List.mem_filter.1 he).1
  | notStarted close body _ _ ih => exact .notStarted ih
  | transaction close _ _ hend _ ihbody ih =>
    refine .transaction _ ?_ ihbody (.append (.of_forall (client.connection.unbracketed_closing _ _)) ih)
    rw [hend.call_eq]
    split
    · exact .inl rfl
    · exact .inr rfl

/-- A program runs as its transactions say. The calls for them are in brackets, so there are as many attempts to
end one as there are started ones. -/
theorem Program.wellBracketed (client : Client σ) (p : Program ε α) (s : σ) :
    let run := p.session client s
    Executes client p s run.result run.state (withoutNotices run.events) ∧
      Bracketed (withoutNotices run.events) ∧
      (withoutNotices run.events).countP Event.opens = (withoutNotices run.events).countP Event.ends := by
  have hexecutes := p.executes client s
  exact ⟨hexecutes, hexecutes.bracketed, hexecutes.bracketed.countP_opens⟩

end GuardedSql
