import GuardedSql.Proofs.History
import GuardedSql.Proofs.Monitoring

/-!
# Statistics of runs

The statistics of a run count its events: the queries that were sent, those of them that failed, and the
voided statements. The first two are counts of the episodes of the run's course, the last one of the operations
that run a voided statement, which do nothing else.

- `Stats.observeAll_eq`: what statistics hear of events.
- `Operation.events_of_voided`, `Operation.events_of_unsent`: operations that send nothing.
- `Program.monitored`: the statistics of a run, and what they count.
-/

namespace GuardedSql

variable {σ ε α β : Type}

/-! ## Counting events -/

namespace Event

/-- A call for a query. -/
def isQueryCall : Event → Bool
  | .called r _ => r.isOfQuery
  | _ => false

/-- A query that is told to be completed, with an outcome that satisfies `f`. -/
def completes (f : Outcome → Bool) : Event → Bool
  | .completed _ _ o => f o
  | _ => false

/-- A query that was sent. -/
abbrev isDone : Event → Bool :=
  completes (· ≠ .voided)

/-- A query that failed. -/
abbrev isFailure : Event → Bool :=
  completes Outcome.isError

/-- A statement that is voided. -/
abbrev isVoiding : Event → Bool :=
  completes (· = .voided)

theorem countP_withoutNotices {p : Event → Bool} (hnotice : ∀ n, p (.noticed n) = false)
    (hoverflow : p .overflowed = false) (es : List Event) : (withoutNotices es).countP p = es.countP p := by
  rw [withoutNotices, List.countP_filter]
  congr 1
  funext e
  cases e <;> simp [isNotice, hnotice, hoverflow]

end Event

/-- A list put together of parts each of which has one item that satisfies `p`, or none. -/
theorem countP_flatMap_of.{u} {ι : Type u} {p : β → Bool} {q : ι → Bool} {f : ι → List β} {l : List ι}
    (h : ∀ x ∈ l, (f x).countP p = (q x).toNat) : (l.flatMap f).countP p = l.countP q := by
  induction l with
  | nil => rfl
  | cons x l ih =>
    obtain ⟨hx, hl⟩ := List.forall_mem_cons.1 h
    rw [List.flatMap_cons, List.countP_append, List.countP_cons, hx, ih hl, Nat.add_comm]
    cases q x <;> rfl

/-- The query that an event tells to be completed. -/
def Event.completion? : Event → Option Completion
  | .completed q duration o => some ⟨q, duration, o⟩
  | _ => none

theorem Event.countP_completes (f : Outcome → Bool) (es : List Event) :
    es.countP (completes f) = (es.filterMap completion?).countP fun x => f x.outcome := by
  rw [List.countP_filterMap]
  congr 1
  funext e
  cases e <;> rfl

namespace Stats

variable (es : List Event) (st : Stats)

/-- Statistics hear of completed queries only. -/
theorem observeAll_eq : st.observeAll es = st.addAll (es.filterMap Event.completion?) := by
  rw [addAll, List.foldl_filterMap, observeAll]
  congr 1
  funext st e
  cases e <;> rfl

theorem total_observeAll : (st.observeAll es).total = st.total + (es.countP Event.isDone).toUInt64 := by
  rw [observeAll_eq, total_addAll, Event.countP_completes, Completion.sent, ← List.countP_eq_length_filter]
  simp [Completion.isVoided]

theorem failed_observeAll : (st.observeAll es).failed = st.failed + (es.countP Event.isFailure).toUInt64 := by
  rw [observeAll_eq, failed_addAll, Event.countP_completes, Completion.countP_isFailure_sent]
  rfl

theorem voided_observeAll : (st.observeAll es).voided = st.voided + (es.countP Event.isVoiding).toUInt64 := by
  rw [observeAll_eq, voided_addAll, Event.countP_completes]
  rfl

end Stats

/-! ## Counting episodes -/

namespace Occurs

variable {connection : Connection σ} {s s' : σ} {x : Episode} (h : Occurs connection s x s')

include h

theorem countP_isQueryCall : x.events.countP Event.isQueryCall = x.isQuery.toNat := by
  cases h <;> rfl

theorem countP_isDone : x.events.countP Event.isDone = x.isQuery.toNat := by
  cases h with
  | statement _ _ _ hvoided _ | batch _ _ _ hvoided _ =>
    simp [Episode.events, Event.completes, hvoided, Episode.isQuery]
  | voided | start | commit | rollback | close => rfl

theorem countP_isFailure : x.events.countP Event.isFailure = x.failed.toNat := by
  cases h with
  | @statement _ _ _ _ _ _ _ o _ herror | @batch _ _ _ _ _ _ _ o _ herror =>
    simp only [Episode.events, Episode.failed, ← herror]
    cases hfailed : o.isError <;> simp [Event.completes, hfailed]
  | voided | start | commit | rollback | close => rfl

/-- No query is voided. -/
theorem isVoiding (hquery : x.isQuery = true) : ∀ e ∈ x.events, e.isVoiding = false := by
  cases h with
  | statement _ _ _ hvoided _ | batch _ _ _ hvoided _ => simp [Episode.events, Event.completes, hvoided]
  | voided | start | commit | rollback | close => cases hquery

end Occurs

theorem Course.countP {connection : Connection σ} {s s' : σ} {course : List Episode}
    (hcourse : Course connection s course s') {p : Event → Bool} {q : Episode → Bool}
    (h : ∀ {s x s'}, Occurs connection s x s' → x.events.countP p = (q x).toNat) :
    (course.flatMap Episode.events).countP p = course.countP q := by
  refine countP_flatMap_of fun x hx => ?_
  obtain ⟨t, t', hoccurs⟩ := hcourse.exists_occurs x hx
  exact h hoccurs

/-! ## Operations that send nothing -/

namespace Client

variable (client : Client σ)

theorem execute_of_ok {q : Command} {s : σ} {statement : Statement}
    (h : (client.compile q s).result = .ok statement) :
    ∃ notices, Event.withoutNotices notices = [] ∧
      client.execute q s = (client.run statement s).after notices := by
  obtain ⟨notices, hnotices, hcompile⟩ := client.compile_run q s
  rw [h] at hcompile
  exact ⟨notices, hnotices, Session.bind_of_ok hcompile _⟩

theorem execute_of_error {q : Command} {s : σ} {e : Error} (h : (client.compile q s).result = .error e) :
    ∃ notices, Event.withoutNotices notices = [] ∧ client.execute q s = ⟨.error e, s, notices⟩ := by
  obtain ⟨notices, hnotices, hcompile⟩ := client.compile_run q s
  rw [h] at hcompile
  exact ⟨notices, hnotices, Session.bind_of_error hcompile _⟩

/-- What is sent is not voided. -/
theorem keeps_unvoiding : client.Keeps (fun _ => True) fun _ es _ => ∀ e ∈ es, e.isVoiding = false :=
  client.keeps_all (fun _ => rfl) rfl (fun h hquery => h.isVoiding hquery) fun _ => rfl

end Client

namespace Operation

/-- The statement that an operation runs from a state, given or built. -/
def statement? (client : Client σ) (op : Operation α) (s : σ) : Option Statement :=
  match op with
  | .runSql sql => some (.ofSql sql)
  | .run statement => some statement
  | op => op.command?.bind fun q => (client.compile q s).result.toOption

/-- An operation that is not to send anything: its statement, or the probe for an identifier, cannot be built,
or it is refused for what it was given. -/
def Unsent (client : Client σ) (op : Operation α) (s : σ) : Prop :=
  match op with
  | .compile _ => True
  | .runBatch statements labels correlate =>
    ¬ Batch.Fits correlate (Batch.given labels) (Batch.sent statements) ∨ Batch.sent statements = [] ∨
      client.config.maxBatch < (Batch.sent statements).length
  | .freshId table column _ => client.config.freshId.attempts = 0 ∨ ∃ id t, client.Unready table column id t
  | op => ∃ q e, op.command? = some q ∧ (client.compile q s).result = .error e

variable {client : Client σ} {op : Operation α} {q : Command} {s : σ}

/-- The statement of an operation with a command is what is built of that. -/
theorem statement?_of_command (h : op.command? = some q) :
    op.statement? client s = (client.compile q s).result.toOption := by
  cases op with
  | compile | runSql | run | runBatch | freshId | close => cases h
  | execute | select | first | insert | update | delete =>
    cases h
    rfl

theorem events_of_built {statement : Statement} (hq : op.command? = some q)
    (h : (client.compile q s).result = .ok statement) :
    Event.withoutNotices (op.session client s).events = Event.withoutNotices (client.run statement s).events ∧
      (op.session client s).state = (client.run statement s).state := by
  obtain ⟨notices, hnotices, hrun⟩ := client.execute_of_ok h
  obtain ⟨hevents, hstate⟩ := op.session_of_command client hq s
  rw [hevents, hstate, hrun]
  exact ⟨by simp [hnotices], rfl⟩

theorem events_of_not_built {e : Error} (hq : op.command? = some q)
    (h : (client.compile q s).result = .error e) :
    Event.withoutNotices (op.session client s).events = [] ∧ (op.session client s).state = s := by
  obtain ⟨notices, hnotices, hrun⟩ := client.execute_of_error h
  obtain ⟨hevents, hstate⟩ := op.session_of_command client hq s
  rw [hevents, hstate, hrun]
  exact ⟨hnotices, rfl⟩

/-- An operation with a statement runs that. -/
theorem events_of_statement {statement : Statement} (h : op.statement? client s = some statement) :
    Event.withoutNotices (op.session client s).events = Event.withoutNotices (client.run statement s).events ∧
      (op.session client s).state = (client.run statement s).state := by
  cases hq : op.command? with
  | some q =>
    rw [statement?_of_command hq] at h
    cases hresult : (client.compile q s).result with
    | error e =>
      rw [hresult] at h
      cases h
    | ok built =>
      rw [hresult] at h
      cases h
      exact events_of_built hq hresult
  | none =>
    cases op with
    | runSql sql | run statement =>
      cases h
      exact ⟨rfl, rfl⟩
    | compile | runBatch | freshId | close => cases h
    | execute | select | first | insert | update | delete => cases hq

/-- An operation whose statement is voided tells that, and does nothing else. -/
theorem events_of_voided {kind : Kind} (h : op.statement? client s = some (.voided kind)) :
    Event.withoutNotices (op.session client s).events = Event.ofVoided kind ∧ (op.session client s).state = s :=
  events_of_statement h

/-- Any other operation tells of no voided statement. -/
theorem isVoiding_of_not_voided (h : ∀ kind, op.statement? client s ≠ some (.voided kind)) :
    ∀ e ∈ Event.withoutNotices (op.session client s).events, e.isVoiding = false := by
  have hunvoiding := client.keeps_unvoiding
  cases hs : op.statement? client s with
  | some statement =>
    cases statement with
    | voided kind => exact absurd hs (h kind)
    | ready sql kind labels =>
      rw [(events_of_statement hs).1]
      exact fun e he => hunvoiding.sendOrRecover kind trivial s e (List.mem_filter.1 he).1
  | none =>
    cases hq : op.command? with
    | some q =>
      rw [statement?_of_command hq] at hs
      cases hresult : (client.compile q s).result with
      | error e =>
        rw [(events_of_not_built hq hresult).1]
        exact fun e he => nomatch he
      | ok statement =>
        rw [hresult] at hs
        cases hs
    | none =>
      refine fun e he => ?_
      have he := (List.mem_filter.1 he).1
      cases op with
      | runSql | run => cases hs
      | execute | select | first | insert | update | delete => cases hq
      | compile q => exact hunvoiding.compile q s e he
      | runBatch statements labels correlate => exact hunvoiding.runBatch labels correlate trivial s e he
      | freshId table column seed => exact hunvoiding.freshId table column seed s e he
      | close => exact hunvoiding.close s e he

/-- An operation that is not to send anything does not, and no monitor hears of it. -/
theorem events_of_unsent (h : op.Unsent client s) :
    Event.withoutNotices (op.session client s).events = [] ∧ (op.session client s).state = s := by
  cases op with
  | compile q =>
    obtain ⟨notices, hnotices, hcompile⟩ := client.compile_run q s
    rw [session, hcompile]
    exact ⟨hnotices, rfl⟩
  | runBatch statements labels correlate =>
    rw [session]
    by_cases hfits : Batch.Fits correlate (Batch.given labels) (Batch.sent statements)
    · by_cases hempty : Batch.sent statements = []
      · rw [client.runBatch_of_empty hfits hempty]
        exact ⟨rfl, rfl⟩
      · have htooLong := (h.resolve_left (not_not_intro hfits)).resolve_left hempty
        rw [client.runBatch_of_tooLong hfits hempty htooLong]
        exact ⟨rfl, rfl⟩
    · rw [client.runBatch_of_not_fits hfits]
      exact ⟨rfl, rfl⟩
  | freshId table column seed =>
    rcases h with hzero | ⟨id, t, hunready⟩
    · rw [session, Client.freshId, FreshId.search, hzero]
      exact ⟨rfl, rfl⟩
    · obtain ⟨result, notices, hnotices, -, hrun⟩ := Client.freshId_of_unready hunready seed s
      rw [session, hrun]
      exact ⟨hnotices, rfl⟩
  | runSql | run | close =>
    obtain ⟨q, e, hq, -⟩ := h
    cases hq
  | execute | select | first | insert | update | delete =>
    obtain ⟨q, e, hq, hresult⟩ := h
    exact events_of_not_built hq hresult

end Operation

/-! ## Runs of programs -/

/-- Whether the statement of an operation that is performed is voided. -/
def Performed.isVoided (client : Client σ) (x : Performed σ) : Bool :=
  (x.op.statement? client x.state).any Statement.isVoided

theorem Performed.countP_isVoiding (client : Client σ) (x : Performed σ) :
    (x.run client).events.countP Event.isVoiding = (x.isVoided client).toNat := by
  unfold Performed.isVoided Performed.run
  rw [← Event.countP_withoutNotices (fun _ => rfl) rfl]
  have hzero : (∀ kind, x.op.statement? client x.state ≠ some (.voided kind)) →
      (Event.withoutNotices (x.op.session client x.state).events).countP Event.isVoiding = 0 := by
    intro hnot
    exact List.countP_eq_zero.2 fun e he => by simp [Operation.isVoiding_of_not_voided hnot e he]
  cases h : x.op.statement? client x.state with
  | none => exact hzero fun kind => by simp [h]
  | some statement =>
    cases statement with
    | ready sql kind labels => exact hzero fun kind => by simp [h]
    | voided kind =>
      rw [(Operation.events_of_voided h).1]
      rfl

theorem Event.countP_filter_isOfQuery (es : List Event) :
    (es.filter Event.isOfQuery).countP Event.isVoiding = es.countP Event.isVoiding := by
  rw [List.countP_filter]
  congr 1
  funext e
  cases e <;> simp [completes, isOfQuery]

namespace Program

variable {ε α : Type} (client : Client σ) (p : Program ε α) (s : σ)

/-- Voided statements are told of by the operations that run them. -/
theorem countP_isVoiding :
    (p.session client s).events.countP Event.isVoiding =
      (p.performed client s).countP (Performed.isVoided client) := by
  rw [← Event.countP_filter_isOfQuery, p.filter_events]
  refine countP_flatMap_of fun x _ => ?_
  rw [Event.countP_filter_isOfQuery, x.countP_isVoiding]

/-- What is told of the queries of a run, with statistics that are kept from its beginning.

The run is a course of episodes, so every call for a query stands between the only two things told of it, and
no other call is told of. The statistics hold the number of these calls, the number of those that failed, and
the number of voided statements that were run, as words. An operation that runs a voided statement tells that
once and calls nothing; one whose statement cannot be built, or that is refused, tells and calls nothing. -/
theorem monitored :
    let run := p.session client s
    let stats := Stats.observeAll {} run.events
    (∃ course, Course client.connection s course run.state ∧
        Event.withoutNotices run.events = course.flatMap Episode.events ∧
        stats.failed = (course.countP Episode.failed).toUInt64) ∧
      stats.total = (run.events.countP Event.isQueryCall).toUInt64 ∧
      stats.voided = ((p.performed client s).countP (Performed.isVoided client)).toUInt64 ∧
      ∀ x ∈ p.performed client s,
        (∀ kind, x.op.statement? client x.state = some (.voided kind) →
          Event.withoutNotices (x.run client).events = Event.ofVoided kind ∧ (x.run client).state = x.state) ∧
        (x.op.Unsent client x.state →
          Event.withoutNotices (x.run client).events = [] ∧ (x.run client).state = x.state) := by
  intro run stats
  obtain ⟨course, hcourse, hevents⟩ := p.inCourse client s
  have hcount : ∀ {f : Event → Bool}, (∀ n, f (.noticed n) = false) → f .overflowed = false →
      run.events.countP f = (course.flatMap Episode.events).countP f := by
    intro f hnotice hoverflow
    rw [← hevents, Event.countP_withoutNotices hnotice hoverflow]
  have htotal : run.events.countP Event.isDone = run.events.countP Event.isQueryCall := by
    rw [hcount (fun _ => rfl) rfl, hcount (fun _ => rfl) rfl, hcourse.countP Occurs.countP_isDone,
      hcourse.countP Occurs.countP_isQueryCall]
  have hfailed : run.events.countP Event.isFailure = course.countP Episode.failed := by
    rw [hcount (fun _ => rfl) rfl, hcourse.countP Occurs.countP_isFailure]
  refine ⟨⟨course, hcourse, hevents, ?_⟩, ?_, ?_, fun x _ => ⟨fun kind => ?_, ?_⟩⟩
  · rw [← hfailed]
    exact (Stats.failed_observeAll run.events {}).trans (UInt64.zero_add _)
  · rw [← htotal]
    exact (Stats.total_observeAll run.events {}).trans (UInt64.zero_add _)
  · rw [← p.countP_isVoiding]
    exact (Stats.voided_observeAll run.events {}).trans (UInt64.zero_add _)
  · exact Operation.events_of_voided
  · exact Operation.events_of_unsent

end Program

end GuardedSql
