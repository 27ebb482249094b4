import GuardedSql.Proofs.Probe

/-!
# What monitors are told

The run of a program is a course of episodes: a query is told of, sent and told to be completed; a statement
is told to be voided; the connection is called to begin or end a transaction, or to close, of which no monitor
hears.

- `Course`: episodes one after the other, by what the connection answers.
- `Client.send_occurs`, `Client.sendBatch_occurs`: what is sent is an episode.
- `Program.inCourse`: the course of a run.
-/

namespace GuardedSql

variable {σ ε α β : Type}

/-! ## Episodes -/

/-- Whether what a connection answers to a batch is a failure: an error, or missing replies after one. -/
def Batch.fails (lastError : String) (statements : List String) : Except Error (List Reply) → Bool
  | .error _ => true
  | .ok replies => decide (IsMissing lastError statements replies)

/-- A query with the call for it and what is told of it, a voided statement, or another call. -/
inductive Episode where
  | query (q : Query) (call : Request) (succeeded failed : Bool) (duration : Nat) (o : Outcome)
  | voided (kind : Kind)
  | control (call : Request) (succeeded : Bool)

namespace Episode

/-- The query is the same before and after the call. -/
def events : Episode → List Event
  | .query q call succeeded _ duration o => [.started q, .called call succeeded, .completed q duration o]
  | .voided kind => Event.ofVoided kind
  | .control call succeeded => [.called call succeeded]

@[simp] theorem withoutNotices_events (x : Episode) : Event.withoutNotices x.events = x.events := by
  cases x <;> rfl

def isQuery : Episode → Bool
  | .query .. => true
  | _ => false

def failed : Episode → Bool
  | .query _ _ _ failed _ _ => failed
  | _ => false

end Episode

/-- An episode that takes the connection from one state to another. What is told of a query is an error just
if the connection has failed. -/
inductive Occurs (connection : Connection σ) : σ → Episode → σ → Prop
  | statement {sql : String} {s s' : σ} {answer : Except Error Reply}
      (h : connection.execute sql s = (answer, s')) (kind : Kind) (duration : Nat) {o : Outcome}
      (hvoided : o ≠ .voided) (herror : o.isError = !answer.isOk) :
      Occurs connection s (.query (.single sql kind) (.execute sql) answer.isOk (!answer.isOk) duration o) s'
  | batch {statements : List String} {s s' : σ} {answer : Except Error (List Reply)}
      (h : connection.executeBatch (";".intercalate statements) s = (answer, s')) (labels : List Label)
      (duration : Nat) {o : Outcome} (hvoided : o ≠ .voided)
      (herror : o.isError = Batch.fails (connection.lastError s') statements answer) :
      Occurs connection s
        (.query (.batch (";".intercalate statements) statements.length labels)
          (.batch (";".intercalate statements)) answer.isOk
          (Batch.fails (connection.lastError s') statements answer) duration o) s'
  | voided (kind : Kind) (s : σ) : Occurs connection s (.voided kind) s
  | start (s : σ) : Occurs connection s (.control .start (connection.start s).1.isOk) (connection.start s).2
  | commit (s : σ) : Occurs connection s (.control .commit (connection.commit s).1.isOk) (connection.commit s).2
  | rollback (s : σ) :
      Occurs connection s (.control .rollback (connection.rollback s).1.isOk) (connection.rollback s).2
  | close (s : σ) : Occurs connection s (.control .close (connection.close s).1.isOk) (connection.close s).2

/-- Episodes one after the other. -/
inductive Course (connection : Connection σ) : σ → List Episode → σ → Prop
  | nil (s : σ) : Course connection s [] s
  | cons {s s' s'' : σ} {x : Episode} {xs : List Episode} (h : Occurs connection s x s')
      (hs : Course connection s' xs s'') : Course connection s (x :: xs) s''

variable {connection : Connection σ}

theorem Course.append {s s' s'' : σ} {xs ys : List Episode} (hx : Course connection s xs s')
    (hy : Course connection s' ys s'') : Course connection s (xs ++ ys) s'' := by
  induction hx with
  | nil s => exact hy
  | cons h _ ih => exact .cons h (ih hy)

theorem Course.exists_occurs {s s' : σ} {xs : List Episode} (h : Course connection s xs s') :
    ∀ x ∈ xs, ∃ t t', Occurs connection t x t' := by
  induction h with
  | nil s => simp
  | cons h _ ih => exact List.forall_mem_cons.2 ⟨⟨_, _, h⟩, ih⟩

/-- Notices apart, the events are those of a course. -/
def InCourse (connection : Connection σ) (s : σ) (events : List Event) (s' : σ) : Prop :=
  ∃ course, Course connection s course s' ∧ Event.withoutNotices events = course.flatMap Episode.events

theorem composes_inCourse : Composes (InCourse connection) where
  nil s := ⟨[], .nil s, rfl⟩
  append := by
    rintro s s' s'' es es' ⟨xs, hxs, hes⟩ ⟨ys, hys, hes'⟩
    exact ⟨xs ++ ys, hxs.append hys, by simp [hes, hes']⟩

theorem inCourse_of_occurs {s s' : σ} {x : Episode} (h : Occurs connection s x s') {es : List Event}
    (hes : Event.withoutNotices es = x.events) : InCourse connection s es s' :=
  ⟨[x], .cons h (.nil s'), by simp [hes]⟩

theorem InCourse.of_eq {s s' : σ} {es es' : List Event} (h : InCourse connection s es s')
    (heq : Event.withoutNotices es' = Event.withoutNotices es) : InCourse connection s es' s' := by
  obtain ⟨course, hcourse, hes⟩ := h
  exact ⟨course, hcourse, heq.trans hes⟩

/-! ## The course of a run -/

namespace Client

variable (client : Client σ)

theorem outcomeOf_ne_voided (kind : Kind) (y : Yield) : outcomeOf kind y ≠ .voided := by
  unfold outcomeOf
  split <;> simp

theorem isError_outcomeOf (kind : Kind) (y : Yield) : (outcomeOf kind y).isError = false := by
  unfold outcomeOf
  split <;> rfl

/-- Sending a statement is an episode. -/
theorem send_occurs (sql : String) (kind : Kind) (s : σ) :
    ∃ x, Occurs client.connection s x (client.send sql kind s).state ∧ x.isQuery = true ∧
      (client.send sql kind s).events = x.events := by
  rcases h : client.connection.execute sql s with ⟨e | reply, s'⟩
  · rw [client.send_of_error h]
    exact ⟨_, .statement h kind _ Outcome.noConfusion rfl, rfl, rfl⟩
  · rw [client.send_of_reply h]
    exact ⟨_, .statement h kind _ (outcomeOf_ne_voided kind _) (isError_outcomeOf kind _), rfl, rfl⟩

/-- So is sending a batch. -/
theorem sendBatch_occurs (statements : List String) (labels : List Label) (correlate : Bool) (s : σ) :
    ∃ x, Occurs client.connection s x (client.sendBatch statements labels correlate s).state ∧ x.isQuery = true ∧
      Event.withoutNotices (client.sendBatch statements labels correlate s).events = x.events := by
  cases client.connection.answers statements s with
  | failed h =>
    rw [client.sendBatch_of_error h]
    exact ⟨_, .batch h labels _ Outcome.noConfusion rfl, rfl, rfl⟩
  | missing h hmissing _ houtcomes =>
    rw [client.sendBatch_of_missing h houtcomes]
    refine ⟨_, .batch h labels _ ?_ ?_, rfl, Batch.withoutNotices_events ..⟩
    · exact Outcome.noConfusion
    · exact (decide_eq_true hmissing).symm
  | answered h hmissing houtcomes =>
    rw [client.sendBatch_of_outcomes h houtcomes]
    refine ⟨_, .batch h labels _ ?_ ?_, rfl, Batch.withoutNotices_events ..⟩
    · exact Outcome.noConfusion
    · exact (decide_eq_false hmissing).symm

end Client

theorem Ending.occurs [Failure ε] {result result' : Except ε α} {s s' : σ} {call : Request} {succeeded : Bool}
    (h : Ending connection result s call succeeded result' s') :
    Occurs connection s (.control call succeeded) s' := by
  cases h with
  | committed _ h | notCommitted _ h =>
    have hoccurs : Occurs connection s _ _ := .commit s
    rwa [h] at hoccurs
  | rolledBack _ h | notRolledBack _ h =>
    have hoccurs : Occurs connection s _ _ := .rollback s
    rwa [h] at hoccurs

theorem inCourse_closing (close : Bool) (s : σ) :
    InCourse connection s (connection.closing close s) (connection.closed close s) := by
  cases close with
  | false => exact composes_inCourse.nil s
  | true => exact inCourse_of_occurs (.close s) rfl

theorem Client.inCourse_transactionWith [Failure ε] (client : Client σ) (close : Bool)
    (body : Session σ ε α) (s : σ)
    (hbody : (client.connection.start s).1 = .ok () →
      body.From (InCourse client.connection) (client.connection.start s).2) :
    (client.transactionWith close body).From (InCourse client.connection) s := by
  have hoccurs : Occurs client.connection s _ _ := .start s
  cases h : (client.connection.start s).1 with
  | error e =>
    rw [h] at hoccurs
    rw [Session.From, client.transactionWith_of_not_started close body h]
    exact inCourse_of_occurs hoccurs rfl
  | ok _ =>
    rw [h] at hoccurs
    obtain ⟨call, succeeded, result, s', hend, -, hstate, hevents⟩ :=
      client.transactionWith_of_started close body h
    have hstart : InCourse client.connection s [.called .start true] (client.connection.start s).2 :=
      inCourse_of_occurs hoccurs rfl
    have hcall : InCourse client.connection _ [.called call succeeded] s' := inCourse_of_occurs hend.occurs rfl
    have hrest := composes_inCourse.append hcall (inCourse_closing close s')
    rw [Session.From, hstate]
    refine (composes_inCourse.append hstart (composes_inCourse.append (hbody h) hrest)).of_eq ?_
    simp [hevents]

/-- The parts of operations are in courses. -/
theorem Client.keeps_inCourse (client : Client σ) : client.Keeps (fun _ => True) (InCourse client.connection) where
  toComposes := composes_inCourse
  built _ := trivial
  notice _ s := ⟨[], .nil s, rfl⟩
  send {sql} kind _ s := by
    obtain ⟨x, hx, -, hevents⟩ := client.send_occurs sql kind s
    exact inCourse_of_occurs hx (by simp [hevents])
  sendBatch {statements} labels correlate _ s := by
    obtain ⟨x, hx, -, hevents⟩ := client.sendBatch_occurs statements labels correlate s
    exact inCourse_of_occurs hx hevents
  close s := inCourse_of_occurs (.close s) rfl

theorem Event.forall_of_withoutNotices {P : Event → Prop} (hnotice : ∀ n, P (.noticed n))
    (hoverflow : P .overflowed) {es : List Event} (h : ∀ e ∈ withoutNotices es, P e) : ∀ e ∈ es, P e := by
  intro e he
  cases e with
  | noticed n => exact hnotice n
  | overflowed => exact hoverflow
  | started | called | completed => exact h _ (List.mem_filter.2 ⟨he, rfl⟩)

/-- What holds of notices, of overflows, of what is sent and of closing holds of all events of an operation that runs
no voided statement. -/
theorem Client.keeps_all (client : Client σ) {P : Event → Prop} (hnotice : ∀ n, P (.noticed n))
    (hoverflow : P .overflowed)
    (hquery : ∀ {s x s'}, Occurs client.connection s x s' → x.isQuery = true → ∀ e ∈ x.events, P e)
    (hclose : ∀ succeeded, P (.called .close succeeded)) :
    client.Keeps (fun _ => True) fun _ es _ => ∀ e ∈ es, P e where
  nil _ := fun _ he => nomatch he
  append h h' := List.forall_mem_append.2 ⟨h, h'⟩
  built _ := trivial
  notice n _ := List.forall_mem_singleton.2 (hnotice n)
  send {sql} kind _ s := by
    obtain ⟨x, hx, hq, hevents⟩ := client.send_occurs sql kind s
    rw [Session.From, hevents]
    exact hquery hx hq
  sendBatch {statements} labels correlate _ s := by
    obtain ⟨x, hx, hq, hevents⟩ := client.sendBatch_occurs statements labels correlate s
    refine Event.forall_of_withoutNotices hnotice hoverflow ?_
    rw [hevents]
    exact hquery hx hq
  close _ := List.forall_mem_singleton.2 (hclose _)

/-- The run of a program is a course of episodes. -/
theorem Program.inCourse (client : Client σ) {ε α : Type} (p : Program ε α) (s : σ) :
    (p.session client).From (InCourse client.connection) s :=
  p.keeps client.keeps_inCourse (fun kind s => inCourse_of_occurs (.voided kind s) rfl)
    (fun close body s => client.inCourse_transactionWith close body s) s fun _ _ _ _ => trivial

end GuardedSql
