import GuardedSql.Proofs.BatchRun
import GuardedSql.Proofs.FreshIdentifier
import GuardedSql.Proofs.Kinds

/-!
# What is counted as a batch

Of everything that is sent in a run, statistics count a batch under batches, a statement under its kind, and one
that is none of the four kinds under nothing. A query is told to be a batch by its number of statements and its
labels. So a batch of one statement without labels is not told from a statement that is none of the four kinds,
and is counted under nothing as well.

- `Tells`: what is sent, as events tell of it.
- `Tells.batches_observeAll`, `Tells.ofKind_observeAll`: the counters after such events.
- `Performed.tallied`, `Program.exists_tallies`: what an operation sends, and what a run sends.
- `Program.batches_counted`: under what it is counted.
-/

namespace GuardedSql

variable {σ α : Type}

/-! ## What is sent -/

/-- A statement that is sent as one of a kind, or statements that are sent as a batch with labels. -/
inductive Sent where
  | statement (sql : String) (kind : Kind)
  | batch (statements : List String) (labels : List Label)
deriving DecidableEq

namespace Sent

/-- The call for it. -/
def request : Sent → Request
  | .statement sql _ => .execute sql
  | .batch statements _ => .batch (";".intercalate statements)

/-- What monitors are told of. -/
def query : Sent → Query
  | .statement sql kind => .single sql kind
  | .batch statements labels => .batch (";".intercalate statements) statements.length labels

def isBatch : Sent → Bool
  | .statement _ _ => false
  | .batch _ _ => true

/-- A batch without labels that has no second statement. -/
def isLone : Sent → Bool
  | .statement _ _ => false
  | .batch statements labels => statements.length ≤ 1 && labels.isEmpty

/-- A statement of a kind. -/
def isOf (kind : Kind) : Sent → Bool
  | .statement _ kind' => kind' == kind
  | .batch _ _ => false

/-- A statement of the kind that is read off it. -/
def IsDetected : Sent → Prop
  | .statement sql kind => kind = .ofSql sql
  | .batch _ _ => False

variable (x : Sent)

theorem isBatch_query : x.query.isBatch = (x.isBatch && !x.isLone) := by
  cases x with
  | statement sql kind => rfl
  | batch statements labels =>
    rw [query, Query.isBatch, Query.batch, isBatch, isLone, Bool.true_and, Bool.not_and, ← decide_not]
    simp only [Nat.not_le]

theorem IsDetected.isBatch {x : Sent} (h : x.IsDetected) : x.isBatch = false := by
  cases x with
  | statement sql kind => rfl
  | batch statements labels => exact h.elim

theorem isBatch_of_isLone (h : x.isLone = true) : x.isBatch = true := by
  cases x with
  | statement sql kind => cases h
  | batch statements labels => rfl

/-- A batch is none of the four kinds. -/
theorem isOf_query {kind : Kind} (hkind : kind ≠ .raw) :
    (!x.query.isBatch && x.query.kind == kind) = x.isOf kind := by
  cases x with
  | statement sql kind' => rfl
  | batch statements labels =>
    have hraw : ((Sent.batch statements labels).query.kind == kind) = false := beq_eq_false_iff_ne.2 hkind.symm
    rw [hraw, Bool.and_false]
    rfl

/-- Of the batches, some are told of as such, and the others are lone. -/
theorem countP_isBatch (sent : List Sent) :
    sent.countP isBatch = sent.countP (fun x => x.query.isBatch) + sent.countP isLone := by
  rw [Nat.add_comm, List.countP_eq_countP_filter_add sent isBatch isLone]
  simp only [List.countP_filter]
  congr 2
  · funext x
    cases h : x.isLone with
    | true => rw [x.isBatch_of_isLone h, Bool.and_self]
    | false => exact Bool.and_false _
  · funext x
    exact (isBatch_query x).symm

end Sent

/-! ## Events of what is sent -/

def Request.isBatch : Request → Bool
  | .batch _ => true
  | _ => false

theorem Event.filterMap_filter_isOfQuery {β : Type} {f : Event → Option β}
    (hf : ∀ e, e.isOfQuery = false → f e = none) (es : List Event) :
    (es.filter isOfQuery).filterMap f = es.filterMap f := by
  rw [List.filterMap_filter]
  congr 1
  funext e
  cases he : e.isOfQuery with
  | true => exact if_pos rfl
  | false => exact (if_neg Bool.false_ne_true).trans (hf e he).symm

/-- The calls for queries are those for what is sent, in that order, and these are the queries that are told to be
completed, voided ones apart. -/
structure Tells (es : List Event) (sent : List Sent) : Prop where
  calls : (Event.requests es).filter Request.isOfQuery = sent.map Sent.request
  completed : (Completion.sent (es.filterMap Event.completion?)).map Completion.query = sent.map Sent.query

namespace Tells

variable {es es' : List Event} {sent sent' : List Sent}

theorem nil : Tells [] [] :=
  ⟨rfl, rfl⟩

theorem append (h : Tells es sent) (h' : Tells es' sent') : Tells (es ++ es') (sent ++ sent') := by
  constructor
  · rw [Event.requests_append, List.filter_append, List.map_append, h.calls, h'.calls]
  · rw [List.filterMap_append, Completion.sent, List.filter_append, List.map_append, List.map_append]
    exact congrArg₂ (· ++ ·) h.completed h'.completed

/-- All that counts is what is sent and told of queries. -/
theorem filter_isOfQuery_iff : Tells (es.filter Event.isOfQuery) sent ↔ Tells es sent := by
  have hcalls : (Event.requests (es.filter Event.isOfQuery)).filter Request.isOfQuery =
      (Event.requests es).filter Request.isOfQuery := by
    rw [Event.requests, Event.requests, List.filter_filterMap, List.filter_filterMap]
    refine Event.filterMap_filter_isOfQuery (fun e he => ?_) es
    cases e with
    | called r succeeded =>
      have hr : r.isOfQuery = false := he
      simp [Event.request?, Option.filter, hr]
    | _ => rfl
  have hcompleted :
      (es.filter Event.isOfQuery).filterMap Event.completion? = es.filterMap Event.completion? := by
    refine Event.filterMap_filter_isOfQuery (fun e he => ?_) es
    cases e with
    | completed q duration o => cases he
    | _ => rfl
  constructor
  · rintro ⟨h, h'⟩
    exact ⟨hcalls ▸ h, hcompleted ▸ h'⟩
  · rintro ⟨h, h'⟩
    exact ⟨hcalls.trans h, hcompleted.symm ▸ h'⟩

theorem withoutNotices_iff : Tells (Event.withoutNotices es) sent ↔ Tells es sent := by
  rw [← filter_isOfQuery_iff, Event.filter_withoutNotices, filter_isOfQuery_iff]

/-- Notices tell of nothing that is sent. -/
theorem of_notices (h : Event.withoutNotices es = []) : Tells es [] :=
  withoutNotices_iff.1 (h ▸ nil)

/-- Something is sent between what is told of it. -/
theorem of_completed (x : Sent) (succeeded : Bool) (duration : Nat) {o : Outcome} (ho : o ≠ .voided) :
    Tells [.started x.query, .called x.request succeeded, .completed x.query duration o] [x] := by
  constructor
  · cases x <;> rfl
  · have hsent : Completion.sent [⟨x.query, duration, o⟩] = [⟨x.query, duration, o⟩] :=
      List.filter_cons_of_pos (by simpa [Completion.isVoided] using ho)
    exact congrArg (List.map Completion.query) hsent

variable (h : Tells es sent)

include h

theorem countP_isBatch : (Event.requests es).countP Request.isBatch = sent.countP Sent.isBatch := by
  have hcalls := congrArg (List.countP Request.isBatch) h.calls
  rw [List.countP_filter, List.countP_map] at hcalls
  refine Eq.trans ?_ (hcalls.trans ?_)
  · congr 1
    funext r
    cases r <;> rfl
  · congr 1
    funext x
    cases x <;> rfl

theorem total_observeAll : (Stats.observeAll {} es).total = sent.length.toUInt64 := by
  rw [Stats.observeAll_eq, Stats.total_addAll, ← List.length_map Completion.query, h.completed, List.length_map]
  exact UInt64.zero_add _

theorem batches_observeAll :
    (Stats.observeAll {} es).batches = (sent.countP fun x => x.query.isBatch).toUInt64 := by
  have hcount := congrArg (List.countP Query.isBatch) h.completed
  rw [List.countP_map, List.countP_map] at hcount
  rw [Stats.observeAll_eq, Stats.batches_addAll]
  exact (UInt64.zero_add _).trans (congrArg Nat.toUInt64 hcount)

theorem ofKind_observeAll {kind : Kind} (hkind : kind ≠ .raw) :
    (Stats.observeAll {} es).ofKind kind = (sent.countP (Sent.isOf kind)).toUInt64 := by
  have hcount := congrArg (List.countP fun q => !q.isBatch && q.kind == kind) h.completed
  rw [List.countP_map, List.countP_map] at hcount
  rw [Stats.observeAll_eq, Stats.ofKind_addAll _ _ hkind, Stats.ofKind_empty, UInt64.zero_add]
  refine congrArg Nat.toUInt64 (Eq.trans hcount ?_)
  congr 1
  funext x
  exact x.isOf_query hkind

end Tells

/-! ## Operations -/

/-- The batch that an operation sends. -/
def Operation.batch? (client : Client σ) : Operation α → Option Sent
  | .runBatch statements labels correlate =>
    if Batch.Accepted client.config.maxBatch (Batch.sent statements) (Batch.given labels) correlate then
      some (.batch (Batch.sent statements) (Batch.given labels))
    else none
  | _ => none

theorem Operation.isBatch_of_batch? {client : Client σ} {op : Operation α} {x : Sent}
    (h : op.batch? client = some x) : x.isBatch = true := by
  unfold batch? at h
  split at h
  · split_ifs at h
    cases h
    rfl
  · cases h

/-- The statement that an operation is given together with its kind. -/
def Operation.given? : Operation α → Option Sent
  | .run (.ready sql kind _) => some (.statement sql kind)
  | _ => none

/-- Statements of the kinds that are read off them, as events tell of them. -/
def TellsDetected (es : List Event) : Prop :=
  ∃ sent, Tells es sent ∧ ∀ x ∈ sent, x.IsDetected

theorem composes_tellsDetected : Composes fun (_ : σ) es _ => TellsDetected es where
  nil _ := ⟨[], .nil, by simp⟩
  append := by
    rintro s s' s'' es es' ⟨sent, h, hsent⟩ ⟨sent', h', hsent'⟩
    exact ⟨sent ++ sent', h.append h', List.forall_mem_append.2 ⟨hsent, hsent'⟩⟩

namespace Client

open Session

variable (client : Client σ)

theorem tells_send (sql : String) (kind : Kind) (s : σ) :
    Tells (client.send sql kind s).events [.statement sql kind] := by
  rcases h : client.connection.execute sql s with ⟨e | reply, s'⟩
  · rw [client.send_of_error h]
    exact .of_completed (.statement sql kind) false _ Outcome.noConfusion
  · rw [client.send_of_reply h]
    exact .of_completed (.statement sql kind) true _ (outcomeOf_ne_voided kind _)

theorem tells_sendBatch (statements : List String) (labels : List Label) (correlate : Bool) (s : σ) :
    Tells (client.sendBatch statements labels correlate s).events [.batch statements labels] := by
  cases client.connection.answers statements s with
  | failed h =>
    rw [client.sendBatch_of_error h]
    exact .of_completed (.batch statements labels) false _ Outcome.noConfusion
  | missing h _ _ houtcomes =>
    rw [client.sendBatch_of_missing h houtcomes, ← Tells.withoutNotices_iff, Batch.withoutNotices_events]
    exact .of_completed (.batch statements labels) true _ Outcome.noConfusion
  | answered h _ houtcomes =>
    rw [client.sendBatch_of_outcomes h houtcomes, ← Tells.withoutNotices_iff, Batch.withoutNotices_events]
    exact .of_completed (.batch statements labels) true _ Outcome.noConfusion

/-- What becomes of an error afterwards sends nothing. -/
theorem tells_recovering {x : Session σ Error Yield} {s : σ} {sent : List Sent} (h : Tells (x s).events sent) :
    Tells (client.recovering x s).events sent := by
  rwa [recovering_run]

theorem tells_runBatch (statements : List String) (labels : List Label) (correlate : Bool) (s : σ) :
    Tells (client.runBatch statements labels correlate s).events
      ((Operation.runBatch statements labels correlate).batch? client).toList := by
  rw [Operation.batch?]
  by_cases h : Batch.Accepted client.config.maxBatch (Batch.sent statements) (Batch.given labels) correlate
  · rw [if_pos h, client.runBatch_of_accepted h.fits h.nonempty h.count]
    exact client.tells_recovering (client.tells_sendBatch _ _ correlate s)
  · rw [if_neg h]
    have hunsent : (Operation.runBatch statements labels correlate).Unsent client s := by
      refine Classical.or_iff_not_imp_left.2 fun hfits => Classical.or_iff_not_imp_left.2 fun hne => ?_
      exact Nat.lt_of_not_le fun hcount => h ⟨not_not.1 hfits, hne, hcount⟩
    exact .of_notices (Operation.events_of_unsent hunsent).1

theorem tellsDetected_send {sql : String} {kind : Kind} (h : kind = .ofSql sql) (s : σ) :
    TellsDetected (client.send sql kind s).events :=
  ⟨_, client.tells_send sql kind s, List.forall_mem_singleton.2 h⟩

/-- A statement that is built is of the kind that is read off it. -/
theorem detected_of_compile {q : Command} {s : σ} {sql : String} {kind : Kind} {labels : List Label}
    (h : (client.compile q s).result = .ok (.ready sql kind labels)) : kind = .ofSql sql := by
  obtain ⟨hkind, hsql⟩ := Command.kind_of_build h
  exact hkind.trans hsql.symm

theorem tellsDetected_compile (q : Command) (s : σ) : TellsDetected (client.compile q s).events := by
  obtain ⟨notices, hnotices, hrun⟩ := client.compile_run q s
  rw [hrun]
  exact ⟨[], .of_notices hnotices, by simp⟩

theorem tellsDetected_execute (q : Command) (s : σ) : TellsDetected (client.execute q s).events := by
  refine composes_tellsDetected.from_bind (client.tellsDetected_compile q s) fun statement hstatement => ?_
  cases statement with
  | voided kind => exact ⟨[], ⟨rfl, rfl⟩, by simp⟩
  | ready sql kind labels =>
    exact ⟨_, client.tells_recovering (client.tells_send sql kind s),
      List.forall_mem_singleton.2 (client.detected_of_compile hstatement)⟩

theorem tellsDetected_isTaken (table column id : String) (s : σ) :
    TellsDetected (client.isTaken table column id s).events := by
  refine composes_tellsDetected.from_bind (client.tellsDetected_compile _ s) fun statement hstatement => ?_
  cases statement with
  | voided kind => exact composes_tellsDetected.always_fail _ s
  | ready sql kind labels =>
    exact composes_tellsDetected.from_bind
      (client.tellsDetected_send (client.detected_of_compile hstatement) s)
      fun _ _ => composes_tellsDetected.always_pure _ _

/-- The search for an identifier sends its probes. -/
theorem tellsDetected_freshId (table column seed : String) (s : σ) :
    TellsDetected (client.freshId table column seed s).events := by
  unfold freshId FreshId.search
  generalize client.config.freshId.attempts = attempts
  generalize 0 = attempt
  induction attempts generalizing attempt s with
  | zero => exact composes_tellsDetected.always_pure _ s
  | succ attempts ih =>
    refine composes_tellsDetected.from_bind (client.tellsDetected_isTaken table column _ s) fun taken _ => ?_
    cases taken with
    | false => exact composes_tellsDetected.always_pure _ _
    | true => exact composes_tellsDetected.from_bind ⟨[], .of_notices rfl, by simp⟩ fun _ _ => ih _ (attempt + 1)

end Client

/-! ## Runs -/

/-- Batches are sent by the operations that are to send them, one by each. Any other thing that is sent is a statement
of the kind that is read off it, or the statement of an operation that is given its kind. -/
structure Tallies (client : Client σ) (xs : List (Performed σ)) (es : List Event) (sent : List Sent) : Prop
    extends Tells es sent where
  batches : sent.filter Sent.isBatch = xs.filterMap fun x => x.op.batch? client
  kinds : ∀ x ∈ sent, x.isBatch = false → x.IsDetected ∨ ∃ y ∈ xs, y.op.given? = some x

namespace Tallies

variable {client : Client σ} {xs xs' : List (Performed σ)} {es es' : List Event} {sent sent' : List Sent}

theorem nil : Tallies client [] [] [] :=
  ⟨.nil, rfl, by simp⟩

theorem append (h : Tallies client xs es sent) (h' : Tallies client xs' es' sent') :
    Tallies client (xs ++ xs') (es ++ es') (sent ++ sent') where
  toTells := h.toTells.append h'.toTells
  batches := by rw [List.filter_append, List.filterMap_append, h.batches, h'.batches]
  kinds := by
    refine List.forall_mem_append.2 ⟨fun x hx hstatement => ?_, fun x hx hstatement => ?_⟩
    · exact (h.kinds x hx hstatement).imp_right fun ⟨y, hy, hgiven⟩ => ⟨y, List.mem_append_left _ hy, hgiven⟩
    · exact (h'.kinds x hx hstatement).imp_right fun ⟨y, hy, hgiven⟩ => ⟨y, List.mem_append_right _ hy, hgiven⟩

theorem filter_isOfQuery_iff :
    Tallies client xs (es.filter Event.isOfQuery) sent ↔ Tallies client xs es sent :=
  ⟨fun h => ⟨Tells.filter_isOfQuery_iff.1 h.toTells, h.batches, h.kinds⟩,
    fun h => ⟨Tells.filter_isOfQuery_iff.2 h.toTells, h.batches, h.kinds⟩⟩

end Tallies

namespace Performed

variable (client : Client σ)

theorem tallied_of_detected {x : Performed σ} (h : TellsDetected (x.run client).events)
    (hbatch : x.op.batch? client = none) : ∃ sent, Tallies client [x] (x.run client).events sent := by
  obtain ⟨sent, htells, hsent⟩ := h
  refine ⟨sent, htells, ?_, fun x hx _ => .inl (hsent x hx)⟩
  have hnone : [x].filterMap (fun x => x.op.batch? client) = [] := List.filterMap_cons_none hbatch
  rw [hnone]
  exact List.filter_eq_nil_iff.2 fun x hx => Bool.eq_false_iff.1 (hsent x hx).isBatch

theorem tallied_runBatch (statements : List String) (labels : List Label) (correlate : Bool) (s : σ) :
    let x : Performed σ := ⟨.runBatch statements labels correlate, s⟩
    ∃ sent, Tallies client [x] (x.run client).events sent := by
  intro x
  have hbatch : ∀ b ∈ (x.op.batch? client).toList, b.isBatch = true := fun b hb =>
    Operation.isBatch_of_batch? (Option.mem_toList.1 hb)
  refine ⟨(x.op.batch? client).toList, client.tells_runBatch statements labels correlate s, ?_, ?_⟩
  · rw [List.filter_eq_self.2 hbatch, List.filterMap_cons]
    cases x.op.batch? client <;> rfl
  · intro b hb hstatement
    rw [hbatch b hb] at hstatement
    cases hstatement

/-- What an operation sends. -/
theorem tallied (x : Performed σ) : ∃ sent, Tallies client [x] (x.run client).events sent := by
  obtain ⟨op, s⟩ := x
  cases op with
  | runBatch statements labels correlate => exact tallied_runBatch client statements labels correlate s
  | run statement =>
    cases statement with
    | voided kind => exact ⟨[], ⟨rfl, rfl⟩, rfl, by simp⟩
    | ready sql kind labels =>
      refine ⟨_, client.tells_recovering (client.tells_send sql kind s), rfl, ?_⟩
      exact List.forall_mem_singleton.2 fun _ => .inr ⟨_, List.mem_singleton_self _, rfl⟩
  | close => exact ⟨[], ⟨rfl, rfl⟩, rfl, by simp⟩
  | compile q => exact tallied_of_detected client (client.tellsDetected_compile q s) rfl
  | freshId table column seed =>
    exact tallied_of_detected client (client.tellsDetected_freshId table column seed s) rfl
  | runSql sql =>
    refine ⟨_, client.tells_recovering (client.tells_send sql (.ofSql sql) s), rfl, ?_⟩
    exact List.forall_mem_singleton.2 fun _ => .inl rfl
  | execute | select | insert | update | delete =>
    exact tallied_of_detected client (client.tellsDetected_execute _ s) rfl
  | first table f =>
    refine tallied_of_detected client ?_ rfl
    rw [Performed.run, (Operation.session_of_command client rfl s).1]
    exact client.tellsDetected_execute _ s

theorem tallied_all (xs : List (Performed σ)) :
    ∃ sent, Tallies client xs (xs.flatMap fun x => (x.run client).events.filter Event.isOfQuery) sent := by
  induction xs with
  | nil => exact ⟨[], .nil⟩
  | cons x xs ih =>
    obtain ⟨sent, hx⟩ := x.tallied client
    obtain ⟨sent', hxs⟩ := ih
    exact ⟨sent ++ sent', (Tallies.filter_isOfQuery_iff.2 hx).append hxs⟩

end Performed

namespace Program

variable {ε : Type} (client : Client σ) (p : Program ε α) (s : σ)

theorem exists_tallies :
    ∃ sent, Tallies client (p.performed client s) (p.session client s).events sent := by
  obtain ⟨sent, h⟩ := Performed.tallied_all client (p.performed client s)
  rw [← p.filter_events] at h
  exact ⟨sent, Tallies.filter_isOfQuery_iff.1 h⟩

/-- What is sent in a run, and under what statistics count it that are kept from its beginning.

Everything that is sent is counted once at most: a batch under batches, a statement of one of the four kinds under
its kind. Statements of no such kind are not counted, and no more are batches of one statement without labels. So
there are as many batches as calls for one exactly if there was none of these, up to a multiple of `2 ^ 64`. -/
theorem batches_counted :
    let run := p.session client s
    let stats := Stats.observeAll {} run.events
    ∃ sent : List Sent,
      Tallies client (p.performed client s) run.events sent ∧
      stats.total = sent.length.toUInt64 ∧
      stats.batches = (sent.countP fun x => x.isBatch && !x.isLone).toUInt64 ∧
      (∀ kind, kind ≠ .raw → stats.ofKind kind = (sent.countP (Sent.isOf kind)).toUInt64) ∧
      (stats.batches = ((Event.requests run.events).countP Request.isBatch).toUInt64 ↔
        2 ^ 64 ∣ sent.countP Sent.isLone) := by
  intro run stats
  obtain ⟨sent, h⟩ := p.exists_tallies client s
  have hbatches := h.batches_observeAll
  refine ⟨sent, h, h.total_observeAll, ?_, fun kind hkind => h.ofKind_observeAll hkind, ?_⟩
  · rw [hbatches]
    simp only [Sent.isBatch_query]
  · rw [hbatches, h.countP_isBatch, Sent.countP_isBatch, Nat.toUInt64_eq, Nat.toUInt64_eq, UInt64.ofNat_add,
      UInt64.left_eq_add, ← UInt64.toNat_inj, UInt64.toNat_ofNat', UInt64.toNat_zero]
    exact Nat.dvd_iff_mod_eq_zero.symm

/-- A batch of one statement without labels is sent, and not counted. -/
theorem batch_uncounted :
    let client : Client Unit := { connection := Client.answering [] }
    let p : Program Error Unit := .sequence [⟨_, .runBatch ["SELECT 1"] [] false⟩]
    let run := p.session client ()
    let stats := Stats.observeAll {} run.events
    Event.requests run.events = [.batch "SELECT 1"] ∧
      stats.batches ≠ ((Event.requests run.events).countP Request.isBatch).toUInt64 := by
  decide

end Program

end GuardedSql
