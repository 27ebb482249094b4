import Mathlib.Algebra.GroupWithZero.Nat
import GuardedSql.Client.Batch
import GuardedSql.Proofs.Runs

/-!
# What is sent

The run of a client that sends a statement or a batch: the query is told of, the connection is called, and
the query is told to be completed, as what came of it. The query is the same before and after.

- `send_of_reply`, `send_of_error`: a statement.
- `Batch.overflows_iff`: adding up sizes goes wrong on the way exactly if the sum does not fit into a word.
- `sendBatch_of_error`, `sendBatch_of_missing`, `sendBatch_of_outcomes`: a batch that is not answered, one whose
  answer lacks a result, and one whose answer has a result for each statement.
- `Connection.answers`: there is no other way for a batch to go.
-/

namespace GuardedSql.Batch

/-- The sum of words as numbers. -/
def total (sizes : List UInt64) : Nat :=
  (sizes.map UInt64.toNat).sum

@[simp] theorem total_nil : total [] = 0 := rfl

@[simp] theorem total_cons (size : UInt64) (sizes : List UInt64) :
    total (size :: sizes) = size.toNat + total sizes :=
  rfl

/-- A sum that does not fit stays so, and one that fits is added to as a number. -/
theorem overflows_iff {start : UInt64} {sizes : List UInt64} :
    overflows start sizes = true ↔ 2 ^ 64 ≤ start.toNat + total sizes := by
  induction sizes generalizing start with
  | nil => simpa [overflows] using start.toNat_lt
  | cons size sizes ih =>
    rw [overflows, Bool.or_eq_true, decide_eq_true_iff, UInt64.size, ih, UInt64.toNat_add, total_cons]
    rcases Nat.lt_or_ge (start.toNat + size.toNat) (2 ^ 64) with hfits | hover
    · rw [Nat.mod_eq_of_lt hfits]
      omega
    · exact iff_of_true (.inl hover) (by omega)

/-- What is told of the sum of the sizes of the replies. -/
def mark (statements : List String) (replies : List Reply) : List Event :=
  if total (sizesOf statements replies) < 2 ^ 64 then [] else [.overflowed]

/-- It is told just if an addition on the way overflows. -/
theorem mark_eq (statements : List String) (replies : List Reply) :
    mark statements replies = if overflows 0 (sizesOf statements replies) then [.overflowed] else [] := by
  have hiff : overflows 0 (sizesOf statements replies) = true ↔ 2 ^ 64 ≤ total (sizesOf statements replies) := by
    simp [overflows_iff]
  by_cases hfits : total (sizesOf statements replies) < 2 ^ 64
  · rw [mark, if_pos hfits, if_neg (mt hiff.1 (Nat.not_le.2 hfits))]
  · rw [mark, if_neg hfits, if_pos (hiff.2 (Nat.not_lt.1 hfits))]

/-- The call for a batch, what comes of the sum of its sizes, and what monitors are told of it. -/
def events (statements : List String) (labels : List Label) (succeeded : Bool) (sum : List Event) (duration : Nat)
    (o : Outcome) : List Event :=
  let sql := ";".intercalate statements
  let q := Query.batch sql statements.length labels
  [.started q, .called (.batch sql) succeeded] ++ sum ++ [.completed q duration o]

theorem called_mem_events (statements : List String) (labels : List Label) (succeeded : Bool) (sum : List Event)
    (duration : Nat) (o : Outcome) :
    .called (.batch (";".intercalate statements)) succeeded ∈ events statements labels succeeded sum duration o := by
  simp [events]

theorem withoutNotices_events (statements : List String) (labels : List Label) (succeeded : Bool)
    (replies : List Reply) (duration : Nat) (o : Outcome) :
    Event.withoutNotices (events statements labels succeeded (mark statements replies) duration o) =
      events statements labels succeeded [] duration o := by
  unfold mark
  split <;> rfl

end GuardedSql.Batch

namespace GuardedSql.Client

variable {σ ε α β : Type} (client : Client σ)

/-- The time between two states. -/
def elapsed (s s' : σ) : Nat :=
  client.connection.clock s' - client.connection.clock s

@[simp] theorem timed_bind (c : Request) (f : σ → Except Error α × σ)
    (k : Nat × Except Error α → Session σ Error β) (s : σ) :
    (client.timed c f >>= k) s =
      (k (client.elapsed s (f s).2, (f s).1) (f s).2).after [.called c (f s).1.isOk] :=
  rfl

/-- Building a statement gives notices only. -/
theorem compile_run (q : Command) (s : σ) :
    ∃ notices, Event.withoutNotices notices = [] ∧
      client.compile q s = ⟨(client.compile q s).result, s, notices⟩ :=
  ⟨_, Event.withoutNotices_map_noticed _, rfl⟩

section

variable {sql : String} {s s' : σ}

theorem send_of_reply {reply : Reply} (h : client.connection.execute sql s = (.ok reply, s')) (kind : Kind) :
    client.send sql kind s =
      let y := client.yieldOf kind reply s'
      ⟨.ok y, s', [.started (.single sql kind), .called (.execute sql) true,
        .completed (.single sql kind) (client.elapsed s s') (outcomeOf kind y)]⟩ := by
  simp [send, h, Except.isOk, Except.toBool]

theorem send_of_error {e : Error} (h : client.connection.execute sql s = (.error e, s')) (kind : Kind) :
    client.send sql kind s =
      ⟨.error (e.naming sql), s', [.started (.single sql kind), .called (.execute sql) false,
        .completed (.single sql kind) (client.elapsed s s') (.failure (e.naming sql).message)]⟩ := by
  simp [send, h, Except.isOk, Except.toBool]

end

section

variable {statements : List String} {s s' : σ}

theorem sendBatch_of_error {e : Error}
    (h : client.connection.executeBatch (";".intercalate statements) s = (.error e, s'))
    (labels : List Label) (correlate : Bool) :
    client.sendBatch statements labels correlate s =
      let e := e.naming (";".intercalate statements)
      ⟨.error e, s', Batch.events statements labels false [] (client.elapsed s s') (.failure e.message)⟩ := by
  simp [sendBatch, Statement.batch, Statement.sql, Batch.events, h, Except.isOk, Except.toBool]

variable {replies : List Reply}
  (h : client.connection.executeBatch (";".intercalate statements) s = (.ok replies, s'))

include h

theorem sendBatch_of_missing {e : Error}
    (ho : Batch.outcomes (client.connection.lastError s') statements replies = .error e)
    (labels : List Label) (correlate : Bool) :
    client.sendBatch statements labels correlate s =
      ⟨.error e, s', Batch.events statements labels true (Batch.mark statements replies) (client.elapsed s s')
        (.failure e.message)⟩ := by
  rw [Batch.mark_eq]
  cases hover : Batch.overflows 0 (Batch.sizesOf statements replies) <;>
    simp [sendBatch, Statement.batch, Statement.sql, Batch.events, h, ho, hover, Except.isOk, Except.toBool]

theorem sendBatch_of_outcomes {outcomes : List BatchPart}
    (ho : Batch.outcomes (client.connection.lastError s') statements replies = .ok outcomes)
    (labels : List Label) (correlate : Bool) :
    client.sendBatch statements labels correlate s =
      ⟨.ok (Batch.yieldOf labels correlate outcomes), s',
        Batch.events statements labels true (Batch.mark statements replies) (client.elapsed s s')
          (.batch (min replies.length statements.length))⟩ := by
  rw [Batch.mark_eq]
  cases hover : Batch.overflows 0 (Batch.sizesOf statements replies) <;>
    simp [sendBatch, Statement.batch, Statement.sql, Batch.events, h, ho, hover, Except.isOk, Except.toBool]

end

/-- A statement leaves the connection as the call for it does. -/
theorem state_send (sql : String) (kind : Kind) (s : σ) :
    (client.send sql kind s).state = (client.connection.execute sql s).2 := by
  rcases h : client.connection.execute sql s with ⟨e | reply, s'⟩
  · rw [client.send_of_error h]
  · rw [client.send_of_reply h]

theorem state_sendBatch (statements : List String) (labels : List Label) (correlate : Bool) (s : σ) :
    (client.sendBatch statements labels correlate s).state =
      (client.connection.executeBatch (";".intercalate statements) s).2 := by
  rcases h : client.connection.executeBatch (";".intercalate statements) s with ⟨e | replies, s'⟩
  · rw [client.sendBatch_of_error h]
  · cases ho : Batch.outcomes (client.connection.lastError s') statements replies with
    | error e => rw [client.sendBatch_of_missing h ho]
    | ok outcomes => rw [client.sendBatch_of_outcomes h ho]

end GuardedSql.Client

namespace GuardedSql.Batch

/-- The result of the statement numbered `i`: what was replied to it, or that it is done. -/
def outcomeAt (replies : List Reply) (i : Nat) : BatchPart :=
  match replies[i]? with
  | some reply => .ofReply reply
  | none => .done

/-- A reply is missing, and the last call has failed. -/
def IsMissing (lastError : String) (statements : List String) (replies : List Reply) : Prop :=
  replies.length < statements.length ∧ lastError ≠ ""

instance (lastError : String) (statements : List String) (replies : List Reply) :
    Decidable (IsMissing lastError statements replies) :=
  inferInstanceAs (Decidable (_ ∧ _))

theorem map_outcomeAt_succ (replies : List Reply) (n : Nat) :
    (List.range (n + 1)).map (outcomeAt replies) =
      outcomeAt replies 0 :: (List.range n).map (outcomeAt replies.tail) := by
  rw [List.range_succ_eq_map, List.map_cons, List.map_map]
  cases replies <;> rfl

variable {lastError : String} {statements : List String} {replies : List Reply}

/-- If no reply is missing, or nothing has failed, every statement has its result. -/
theorem outcomes_eq (h : ¬ IsMissing lastError statements replies) :
    outcomes lastError statements replies = .ok ((List.range statements.length).map (outcomeAt replies)) := by
  induction statements generalizing replies with
  | nil => rfl
  | cons statement statements ih =>
    rw [List.length_cons, map_outcomeAt_succ]
    cases replies with
    | nil =>
      have hlast : lastError = "" := by simpa [IsMissing] using h
      rw [outcomes, if_neg (by simpa using hlast), ih (by simp [IsMissing, hlast])]
      rfl
    | cons reply replies =>
      have h' : ¬ IsMissing lastError statements replies := by simpa [IsMissing] using h
      rw [outcomes, ih h']
      rfl

/-- Otherwise the error is that of the first statement without a reply. -/
theorem outcomes_of_isMissing (h : IsMissing lastError statements replies) :
    ∃ statement, statements[replies.length]? = some statement ∧
      outcomes lastError statements replies = .error (.query statement lastError) := by
  obtain ⟨hlength, hlast⟩ := h
  induction statements generalizing replies with
  | nil => cases hlength
  | cons statement statements ih =>
    cases replies with
    | nil => exact ⟨statement, rfl, by rw [outcomes, if_pos hlast]⟩
    | cons reply replies =>
      obtain ⟨first, hfirst, houtcomes⟩ := ih (Nat.lt_of_succ_lt_succ hlength)
      exact ⟨first, hfirst, by rw [outcomes, houtcomes]; rfl⟩

end GuardedSql.Batch

namespace GuardedSql

/-- How a connection answers a batch: it fails, or a reply is missing after an error, or every statement has its
result. -/
inductive Connection.Answers {σ : Type} (connection : Connection σ) (statements : List String) (s : σ) : Prop
  | failed {e : Error} {s' : σ} (h : connection.executeBatch (";".intercalate statements) s = (.error e, s'))
  | missing {replies : List Reply} {s' : σ} {statement : String}
    (h : connection.executeBatch (";".intercalate statements) s = (.ok replies, s'))
    (hmissing : Batch.IsMissing (connection.lastError s') statements replies)
    (hfirst : statements[replies.length]? = some statement)
    (houtcomes : Batch.outcomes (connection.lastError s') statements replies =
      .error (.query statement (connection.lastError s')))
  | answered {replies : List Reply} {s' : σ}
    (h : connection.executeBatch (";".intercalate statements) s = (.ok replies, s'))
    (hmissing : ¬ Batch.IsMissing (connection.lastError s') statements replies)
    (houtcomes : Batch.outcomes (connection.lastError s') statements replies =
      .ok ((List.range statements.length).map (Batch.outcomeAt replies)))

theorem Connection.answers {σ : Type} (connection : Connection σ) (statements : List String) (s : σ) :
    connection.Answers statements s := by
  rcases h : connection.executeBatch (";".intercalate statements) s with ⟨e | replies, s'⟩
  · exact .failed h
  · by_cases hmissing : Batch.IsMissing (connection.lastError s') statements replies
    · obtain ⟨statement, hfirst, houtcomes⟩ := Batch.outcomes_of_isMissing hmissing
      exact .missing h hmissing hfirst houtcomes
    · exact .answered h hmissing (Batch.outcomes_eq hmissing)

/-- The statements of a batch without the blank ones at its end. -/
abbrev Batch.sent (statements : List String) : List String :=
  trimEnd Text.isBlank statements

/-- The labels of a batch without the empty ones at its end. -/
abbrev Batch.given (labels : List Label) : List Label :=
  trimEnd Label.isEmpty labels

/-- Labels that results can be kept under: if they are to be kept, none or one for each statement. -/
def Batch.Fits (correlate : Bool) (labels : List Label) (statements : List String) : Prop :=
  correlate = true → labels = [] ∨ labels.length = statements.length

theorem Batch.fits_iff {correlate : Bool} {labels : List Label} {statements : List String} :
    Fits correlate labels statements ↔
      ¬ (correlate && !labels.isEmpty && decide (labels.length ≠ statements.length)) = true := by
  cases correlate <;> cases labels <;> simp [Fits]

namespace Client

variable {σ : Type} (client : Client σ) {statements : List String} {labels : List Label} {correlate : Bool}

theorem runBatch_of_not_fits
    (h : ¬ Batch.Fits correlate (Batch.given labels) (Batch.sent statements)) :
    client.runBatch statements labels correlate =
      Session.fail (.labelCount (Batch.given labels).length
        (Batch.sent statements).length) :=
  if_pos (Classical.not_not.1 (mt Batch.fits_iff.2 h))

variable (hfits : Batch.Fits correlate (Batch.given labels) (Batch.sent statements))

include hfits

theorem runBatch_of_empty (h : Batch.sent statements = []) :
    client.runBatch statements labels correlate = pure {} :=
  (if_neg (Batch.fits_iff.1 hfits)).trans (if_pos (List.isEmpty_iff.2 h))

variable (hne : Batch.sent statements ≠ [])

include hne

theorem runBatch_of_tooLong (h : client.config.maxBatch < (Batch.sent statements).length) :
    client.runBatch statements labels correlate =
      Session.fail (.invalid (.batchTooLong (Batch.sent statements).length client.config.maxBatch)) :=
  (if_neg (Batch.fits_iff.1 hfits)).trans ((if_neg (mt List.isEmpty_iff.1 hne)).trans (if_pos h))

/-- A batch that is not refused is sent, and only an error of it is left to the fallback. -/
theorem runBatch_of_accepted (h : (Batch.sent statements).length ≤ client.config.maxBatch) :
    client.runBatch statements labels correlate =
      (client.sendBatch (Batch.sent statements) (Batch.given labels)
        correlate).observe >>= fun result =>
          match result with
          | .ok y => pure y
          | .error e => client.recover e :=
  (if_neg (Batch.fits_iff.1 hfits)).trans
    ((if_neg (mt List.isEmpty_iff.1 hne)).trans (if_neg (Nat.not_lt.2 h)))

end Client

end GuardedSql
