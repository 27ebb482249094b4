import Mathlib.Algebra.GroupWithZero.Nat
import Mathlib.Data.List.DropRight
import GuardedSql.Stats

/-!
# What statistics hold of their history

Statistics are told of completed queries and reset now and then. What they tell is a function of the queries
completed since they were last reset, and says how many of them there were of each sort, how long they took
together, and which of them took longest.

- `Stats.count_addAll`: a counter that every completed query adds one or nothing to.
- `Stats.nanos_addAll`: the sum of the durations, which stays at the largest word.
- `Stats.slowest_addAll`: the slowest query is the first of those that took longest.
- `Stats.snapshot_hearAll`: what is told after any history.
-/

namespace GuardedSql

/-! ## Histories -/

/-- A query that was completed. -/
structure Completion where
  query : Query
  duration : Nat
  outcome : Outcome

namespace Completion

def isVoided (x : Completion) : Bool :=
  x.outcome = .voided

/-- The completed queries that were sent. -/
def sent (xs : List Completion) : List Completion :=
  xs.filter fun x => !x.isVoided

def isFailure (x : Completion) : Bool :=
  x.outcome.isError

def isBatch (x : Completion) : Bool :=
  x.query.isBatch

/-- A single statement of a kind. -/
def isSingle (kind : Kind) (x : Completion) : Bool :=
  !x.query.isBatch && x.query.kind == kind

/-- The longest duration, zero if there is no query. -/
def longest (xs : List Completion) : Nat :=
  (xs.map duration).max?.getD 0

/-- The first query that took longest. -/
def slowest? (xs : List Completion) : Option Completion :=
  xs.find? fun x => x.duration = longest xs

theorem sent_concat_of_voided {x : Completion} (h : x.isVoided = true) (xs : List Completion) :
    sent (xs ++ [x]) = sent xs := by
  simp [sent, h]

theorem sent_concat_of_sent {x : Completion} (h : x.isVoided = false) (xs : List Completion) :
    sent (xs ++ [x]) = sent xs ++ [x] := by
  simp [sent, h]

/-- A failure was sent. -/
theorem countP_isFailure_sent (xs : List Completion) : (sent xs).countP isFailure = xs.countP isFailure := by
  rw [sent, List.countP_filter]
  congr 1
  funext x
  cases h : x.outcome <;> simp [isFailure, isVoided, h, Outcome.isError]

end Completion

/-- What statistics are told of: a completed query, or that they are to be reset. -/
inductive Report where
  | completed (x : Completion)
  | reset

namespace Report

def completion? : Report → Option Completion
  | .completed x => some x
  | .reset => none

/-- The queries completed since the last reset. -/
def sinceReset (reports : List Report) : List Completion :=
  (reports.rtakeWhile fun r => r.completion?.isSome).filterMap completion?

@[simp] theorem sinceReset_completed (reports : List Report) (x : Completion) :
    sinceReset (reports ++ [.completed x]) = sinceReset reports ++ [x] := by
  simp [sinceReset, completion?]

@[simp] theorem sinceReset_reset (reports : List Report) : sinceReset (reports ++ [.reset]) = [] := by
  simp [sinceReset, completion?]

end Report

namespace Stats

def add (s : Stats) (x : Completion) : Stats :=
  s.observe x.query x.duration x.outcome

def addAll (s : Stats) (xs : List Completion) : Stats :=
  xs.foldl add s

def hear (s : Stats) : Report → Stats
  | .completed x => s.add x
  | .reset => s.reset

def hearAll (s : Stats) (reports : List Report) : Stats :=
  reports.foldl hear s

/-- The counter of single statements of a kind, if it has one. -/
def ofKind (s : Stats) : Kind → UInt64
  | .select => s.selects
  | .insert => s.inserts
  | .update => s.updates
  | .delete => s.deletes
  | .raw => 0

theorem ofKind_empty (kind : Kind) : ({} : Stats).ofKind kind = 0 := by
  cases kind <;> rfl

theorem addAll_concat (s : Stats) (xs : List Completion) (x : Completion) :
    s.addAll (xs ++ [x]) = (s.addAll xs).add x :=
  List.foldl_concat ..

/-- The statistics after a history are those after the queries completed since it was last reset. -/
theorem hearAll_eq (reports : List Report) : hearAll {} reports = addAll {} (Report.sinceReset reports) := by
  induction reports using List.reverseRecOn with
  | nil => rfl
  | append_singleton reports r ih =>
    cases r with
    | reset =>
      rw [Report.sinceReset_reset, hearAll, List.foldl_concat]
      rfl
    | completed x =>
      rw [Report.sinceReset_completed, addAll_concat, ← ih]
      exact List.foldl_concat ..

/-! ## What a query adds -/

theorem add_of_voided {x : Completion} (h : x.isVoided = true) (s : Stats) :
    s.add x = { s with voided := s.voided + 1 } :=
  if_pos (of_decide_eq_true h)

theorem add_of_sent {x : Completion} (h : x.isVoided = false) (s : Stats) :
    s.add x = { s.countKind x.query with
      total := (s.countKind x.query).total + 1
      nanos := addSaturating (s.countKind x.query).nanos (toWord x.duration)
      failed := if x.isFailure then (s.countKind x.query).failed + 1 else (s.countKind x.query).failed
      slowest := slower (s.countKind x.query).slowest x.duration x.query.sql } :=
  if_neg (of_decide_eq_false h)

/-- Only the counters of kinds are other ones. -/
theorem countKind_eq (s : Stats) (q : Query) :
    s.countKind q = { s with
      batches := (s.countKind q).batches
      selects := (s.countKind q).selects
      inserts := (s.countKind q).inserts
      updates := (s.countKind q).updates
      deletes := (s.countKind q).deletes } := by
  unfold countKind
  split
  · rfl
  · split <;> rfl

theorem batches_countKind (s : Stats) (q : Query) :
    (s.countKind q).batches = s.batches + q.isBatch.toNat.toUInt64 := by
  unfold countKind
  cases q.isBatch with
  | true => rfl
  | false => cases q.kind <;> exact (UInt64.add_zero _).symm

theorem ofKind_countKind {kind : Kind} (hkind : kind ≠ .raw) (s : Stats) (q : Query) :
    (s.countKind q).ofKind kind = s.ofKind kind + (!q.isBatch && q.kind == kind).toNat.toUInt64 := by
  unfold countKind
  cases q.isBatch with
  | true => cases kind <;> exact (UInt64.add_zero _).symm
  | false => cases q.kind <;> cases kind <;> first | exact absurd rfl hkind | rfl | exact (UInt64.add_zero _).symm

/-! ## Counters -/

/-- A counter that every completed query adds one or nothing to. -/
theorem count_addAll {count : Stats → UInt64} {p : Completion → Bool}
    (h : ∀ s x, count (add s x) = count s + (p x).toNat.toUInt64) (s : Stats) (xs : List Completion) :
    count (s.addAll xs) = count s + (xs.countP p).toUInt64 := by
  induction xs using List.reverseRecOn with
  | nil => exact (UInt64.add_zero _).symm
  | append_singleton xs x ih =>
    have hsum : (xs ++ [x]).countP p = xs.countP p + (p x).toNat := by
      rw [List.countP_append, List.countP_singleton]
      cases p x <;> rfl
    rw [addAll_concat, h, ih, UInt64.add_assoc, hsum]
    exact congrArg (count s + ·) (UInt64.ofNat_add ..).symm

/-- A counter that a voided query leaves as it is. -/
theorem count_sent {count : Stats → UInt64} {p : Completion → Bool}
    (hvoided : ∀ s : Stats, count { s with voided := s.voided + 1 } = count s)
    (hsent : ∀ s x, x.isVoided = false → count (add s x) = count s + (p x).toNat.toUInt64)
    (s : Stats) (xs : List Completion) :
    count (s.addAll xs) = count s + ((Completion.sent xs).countP p).toUInt64 := by
  rw [Completion.sent, List.countP_filter]
  refine count_addAll (fun s x => ?_) s xs
  cases h : x.isVoided with
  | true => simp [add_of_voided h, hvoided]
  | false => simp [hsent s x h]

variable (s : Stats) (xs : List Completion)

theorem voided_addAll : (s.addAll xs).voided = s.voided + (xs.countP Completion.isVoided).toUInt64 := by
  refine count_addAll (fun s x => ?_) s xs
  cases h : x.isVoided with
  | true =>
    rw [add_of_voided h]
    rfl
  | false =>
    rw [add_of_sent h, countKind_eq]
    exact (UInt64.add_zero _).symm

theorem total_addAll : (s.addAll xs).total = s.total + (Completion.sent xs).length.toUInt64 := by
  rw [← List.countP_true]
  refine count_sent (fun _ => rfl) (fun s x h => ?_) s xs
  rw [add_of_sent h, countKind_eq]
  rfl

theorem failed_addAll :
    (s.addAll xs).failed = s.failed + ((Completion.sent xs).countP Completion.isFailure).toUInt64 := by
  refine count_sent (fun _ => rfl) (fun s x h => ?_) s xs
  rw [add_of_sent h, countKind_eq]
  cases x.isFailure with
  | true => rfl
  | false => exact (UInt64.add_zero _).symm

theorem batches_addAll :
    (s.addAll xs).batches = s.batches + ((Completion.sent xs).countP Completion.isBatch).toUInt64 := by
  refine count_sent (fun _ => rfl) (fun s x h => ?_) s xs
  rw [add_of_sent h]
  exact s.batches_countKind x.query

theorem ofKind_addAll {kind : Kind} (hkind : kind ≠ .raw) :
    (s.addAll xs).ofKind kind =
      s.ofKind kind + ((Completion.sent xs).countP (Completion.isSingle kind)).toUInt64 := by
  have hvoided : ∀ s : Stats, ({ s with voided := s.voided + 1 } : Stats).ofKind kind = s.ofKind kind := by
    intro s
    cases kind <;> rfl
  refine @count_sent (ofKind · kind) (Completion.isSingle kind) hvoided (fun s x h => ?_) s xs
  have hadd : (s.add x).ofKind kind = (s.countKind x.query).ofKind kind := by
    rw [add_of_sent h]
    cases kind <;> rfl
  exact hadd.trans (s.ofKind_countKind hkind x.query)

/-! ## Durations -/

theorem toNat_maxWord : maxWord.toNat = 2 ^ 64 - 1 :=
  rfl

theorem toNat_toWord (duration : Nat) : (toWord duration).toNat = min duration maxWord.toNat := by
  unfold toWord
  have hmax := toNat_maxWord
  split
  · rename_i h
    rw [Nat.toUInt64_eq, UInt64.toNat_ofNat_of_lt' h]
    unfold UInt64.size at h
    omega
  · rename_i h
    unfold UInt64.size at h
    omega

theorem toNat_addSaturating (x y : UInt64) :
    (addSaturating x y).toNat = min (x.toNat + y.toNat) maxWord.toNat := by
  unfold addSaturating
  have hmax := toNat_maxWord
  split
  · rename_i h
    unfold UInt64.size at h
    rw [UInt64.toNat_add]
    omega
  · rename_i h
    unfold UInt64.size at h
    omega

/-- Saturating at every addition is saturating once at the end. -/
theorem nanos_addAll :
    (s.addAll xs).nanos.toNat =
      min (s.nanos.toNat + ((Completion.sent xs).map fun x => min x.duration maxWord.toNat).sum)
        maxWord.toNat := by
  induction xs using List.reverseRecOn with
  | nil =>
    have := s.nanos.toNat_lt
    have hmax := toNat_maxWord
    simp only [Completion.sent, List.filter_nil, List.map_nil, List.sum_nil, addAll, List.foldl_nil]
    omega
  | append_singleton xs x ih =>
    rw [addAll_concat]
    cases h : x.isVoided with
    | true =>
      rw [add_of_voided h, Completion.sent_concat_of_voided h]
      exact ih
    | false =>
      rw [add_of_sent h, Completion.sent_concat_of_sent h, countKind_eq]
      simp only [toNat_addSaturating, toNat_toWord, ih, List.map_append, List.sum_append, List.map_singleton,
        List.sum_singleton]
      omega

end Stats

/-! ## The slowest query -/

namespace Completion

theorem longest_concat (xs : List Completion) (x : Completion) :
    longest (xs ++ [x]) = max (longest xs) x.duration := by
  have hfoldl : ∀ xs : List Completion, longest xs = (xs.map duration).foldl max 0 := fun xs => by
    rw [List.foldl_max, Nat.zero_max, longest]
  rw [hfoldl, hfoldl, List.map_append, List.map_singleton, List.foldl_concat]

theorem duration_le_longest {xs : List Completion} : ∀ x ∈ xs, x.duration ≤ longest xs := by
  induction xs using List.reverseRecOn with
  | nil => simp
  | append_singleton xs y ih =>
    rw [longest_concat, List.forall_mem_append, List.forall_mem_singleton]
    exact ⟨fun x hx => (ih x hx).trans (Nat.le_max_left ..), Nat.le_max_right ..⟩

theorem exists_longest {xs : List Completion} (h : xs ≠ []) : ∃ x ∈ xs, x.duration = longest xs := by
  cases hmax : (xs.map duration).max? with
  | none => exact absurd (List.map_eq_nil_iff.1 (List.max?_eq_none_iff.1 hmax)) h
  | some m =>
    obtain ⟨x, hx, rfl⟩ := List.mem_map.1 (List.max?_mem hmax)
    exact ⟨x, hx, by rw [longest, hmax, Option.getD_some]⟩

theorem slowest?_eq_none_iff {xs : List Completion} : slowest? xs = none ↔ xs = [] := by
  refine ⟨fun h => ?_, fun h => h ▸ rfl⟩
  by_contra hne
  obtain ⟨x, hx, hlongest⟩ := exists_longest hne
  exact List.find?_eq_none.1 h x hx (decide_eq_true hlongest)

theorem duration_slowest {xs : List Completion} {x : Completion} (h : slowest? xs = some x) :
    x.duration = longest xs := by
  have htrue := List.find?_some h
  exact of_decide_eq_true htrue

/-- A query is the slowest one from then on if it takes longer than all before it. -/
theorem slowest?_concat (xs : List Completion) (x : Completion) :
    slowest? (xs ++ [x]) =
      match slowest? xs with
      | some y => if y.duration < x.duration then some x else some y
      | none => some x := by
  have happend : slowest? (xs ++ [x]) =
      (xs.find? fun y => y.duration = max (longest xs) x.duration).or
        ([x].find? fun y => y.duration = max (longest xs) x.duration) := by
    rw [slowest?, longest_concat, List.find?_append]
  rw [happend]
  by_cases hlonger : longest xs < x.duration
  · -- no query before has taken as long as it
    have hnone : (xs.find? fun y => y.duration = x.duration) = none :=
      List.find?_eq_none.2 fun y hy => by simpa using ((duration_le_longest y hy).trans_lt hlonger).ne
    rw [Nat.max_eq_right hlonger.le, hnone]
    cases h : slowest? xs with
    | none => simp
    | some y => simp [duration_slowest h, hlonger]
  · rw [Nat.max_eq_left (Nat.le_of_not_lt hlonger)]
    cases h : slowest? xs with
    | none =>
      obtain rfl := slowest?_eq_none_iff.1 h
      have hzero : x.duration = 0 := Nat.eq_zero_of_not_pos hlonger
      simp [longest, hzero]
    | some y =>
      rw [← slowest?, h]
      simp [duration_slowest h, hlonger]

end Completion

theorem Stats.slowest_addAll (xs : List Completion) :
    (addAll {} xs).slowest = (Completion.slowest? (Completion.sent xs)).map fun x => (x.duration, x.query.sql) := by
  induction xs using List.reverseRecOn with
  | nil => rfl
  | append_singleton xs x ih =>
    rw [addAll_concat]
    cases h : x.isVoided with
    | true =>
      rw [add_of_voided h, Completion.sent_concat_of_voided h]
      exact ih
    | false =>
      rw [add_of_sent h, Completion.sent_concat_of_sent h, Completion.slowest?_concat, countKind_eq]
      simp only [ih, slower]
      cases Completion.slowest? (Completion.sent xs) with
      | none => rfl
      | some y =>
        simp only [Option.map_some]
        split <;> rfl

/-! ## What is told -/

/-- What there is to tell of completed queries. -/
def Snapshot.ofCompletions (xs : List Completion) : Snapshot :=
  let sent := Completion.sent xs
  { total := sent.length.toUInt64
    failed := (sent.countP Completion.isFailure).toUInt64
    voided := (xs.countP Completion.isVoided).toUInt64
    batches := (sent.countP Completion.isBatch).toUInt64
    selects := (sent.countP (Completion.isSingle .select)).toUInt64
    inserts := (sent.countP (Completion.isSingle .insert)).toUInt64
    updates := (sent.countP (Completion.isSingle .update)).toUInt64
    deletes := (sent.countP (Completion.isSingle .delete)).toUInt64
    totalDuration := min (sent.map fun x => min x.duration (2 ^ 64 - 1)).sum (2 ^ 64 - 1)
    maxDuration := Completion.longest sent
    slowest := (Completion.slowest? sent).map fun x => x.query.sql }

theorem Stats.longest_addAll (xs : List Completion) :
    (addAll {} xs).longest = Completion.longest (Completion.sent xs) := by
  rw [longest, slowest_addAll, Option.map_map]
  cases h : Completion.slowest? (Completion.sent xs) with
  | none =>
    rw [Completion.slowest?_eq_none_iff.1 h]
    rfl
  | some x => exact Completion.duration_slowest h

theorem Stats.snapshot_addAll (xs : List Completion) :
    (addAll {} xs).snapshot = Snapshot.ofCompletions xs := by
  have hkind : ∀ kind, kind ≠ .raw → (addAll {} xs).ofKind kind =
      ((Completion.sent xs).countP (Completion.isSingle kind)).toUInt64 := by
    intro kind hkind
    rw [ofKind_addAll _ _ hkind, ofKind_empty, UInt64.zero_add]
  rw [snapshot, Snapshot.ofCompletions, Snapshot.mk.injEq]
  refine ⟨?_, ?_, ?_, ?_, hkind .select Kind.noConfusion, hkind .insert Kind.noConfusion,
    hkind .update Kind.noConfusion, hkind .delete Kind.noConfusion, ?_, longest_addAll xs, ?_⟩
  · exact (total_addAll {} xs).trans (UInt64.zero_add _)
  · exact (failed_addAll {} xs).trans (UInt64.zero_add _)
  · exact (voided_addAll {} xs).trans (UInt64.zero_add _)
  · exact (batches_addAll {} xs).trans (UInt64.zero_add _)
  · rw [nanos_addAll]
    exact congrArg (min · _) (Nat.zero_add _)
  · rw [slowest_addAll, Option.map_map]
    rfl

/-- What statistics tell after any history. -/
theorem Stats.snapshot_hearAll (reports : List Report) :
    (hearAll {} reports).snapshot = Snapshot.ofCompletions (Report.sinceReset reports) := by
  rw [hearAll_eq, snapshot_addAll]

end GuardedSql
