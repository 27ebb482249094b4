import GuardedSql.Proofs.BatchRun

/-!
# The total of a batch

The results of a batch are counted together in one word, statement by statement, and nothing is done where the word
is too short. The total is the sum of the counts as long as that is below `2 ^ 64`. From there on it is what is left
of the sum, or if additions are checked there is none: the program ends after the call, before the batch is told to
be completed. Counts come from the connection, so two of them are enough.

- `Batch.toNat_wordSum`: words that are added up give their sum modulo `2 ^ 64`.
- `Batch.addsUp_iff`: no addition on the way overflows exactly if the sum at the end is below `2 ^ 64`.
- `Client.runBatch_stops_iff`: when a batch has no result if additions are checked.
- `Client.runBatch_total_iff`: so much is known of the total of a batch that is answered.
- `Client.runBatch_total_overflows`: a batch whose total is zero, or none.
-/

namespace GuardedSql

namespace Batch

/-- Words added up one after the other. -/
def wordSum (sizes : List UInt64) : UInt64 :=
  sizes.foldl (· + ·) 0

/-- No addition on the way gives more than a word holds. -/
def AddsUp (sizes : List UInt64) : Prop :=
  ∀ before size, before ++ [size] <+: sizes → (wordSum before).toNat + size.toNat < 2 ^ 64

theorem total_concat (sizes : List UInt64) (size : UInt64) : total (sizes ++ [size]) = total sizes + size.toNat := by
  simp [total]

theorem wordSum_concat (sizes : List UInt64) (size : UInt64) : wordSum (sizes ++ [size]) = wordSum sizes + size := by
  simp [wordSum]

theorem toNat_wordSum (sizes : List UInt64) : (wordSum sizes).toNat = total sizes % 2 ^ 64 := by
  induction sizes using List.reverseRecOn with
  | nil => rfl
  | append_singleton sizes size ih =>
    rw [wordSum_concat, total_concat, UInt64.toNat_add, ih, Nat.mod_add_mod]

theorem toNat_wordSum_eq_iff {sizes : List UInt64} : (wordSum sizes).toNat = total sizes ↔ total sizes < 2 ^ 64 := by
  rw [toNat_wordSum]
  exact Nat.mod_eq_iff_lt (by decide)

theorem addsUp_concat {sizes : List UInt64} {size : UInt64} :
    AddsUp (sizes ++ [size]) ↔ AddsUp sizes ∧ (wordSum sizes).toNat + size.toNat < 2 ^ 64 := by
  constructor
  · intro h
    exact ⟨fun before x hx => h before x (hx.trans (List.prefix_append sizes [size])),
      h sizes size (List.prefix_refl _)⟩
  · rintro ⟨hsizes, hsize⟩ before x hx
    rcases List.prefix_concat_iff.1 hx with heq | hx
    · obtain ⟨rfl, hlast⟩ := List.append_inj' heq rfl
      obtain rfl : x = size := List.singleton_inj.1 hlast
      exact hsize
    · exact hsizes before x hx

/-- The sum only grows, so an addition overflows if and only if the sum at the end is too large. -/
theorem addsUp_iff {sizes : List UInt64} : AddsUp sizes ↔ total sizes < 2 ^ 64 := by
  induction sizes using List.reverseRecOn with
  | nil =>
    refine iff_of_true (fun before size h => ?_) (by decide)
    exact absurd (List.prefix_nil.1 h) (by simp)
  | append_singleton sizes size ih =>
    rw [addsUp_concat, ih, total_concat]
    constructor
    · rintro ⟨hsizes, hsize⟩
      rwa [toNat_wordSum_eq_iff.2 hsizes] at hsize
    · intro h
      have hsizes : total sizes < 2 ^ 64 := by omega
      rw [toNat_wordSum_eq_iff.2 hsizes]
      exact ⟨hsizes, h⟩

/-- Statements without a reply add nothing. -/
theorem total_outcomes (replies : List Reply) (n : Nat) :
    total (((List.range n).map (outcomeAt replies)).map BatchPart.size) =
      total ((replies.take n).map fun reply => (BatchPart.ofReply reply).size) := by
  induction n generalizing replies with
  | zero => rfl
  | succ n ih =>
    rw [map_outcomeAt_succ, List.map_cons, total_cons, ih]
    cases replies with
    | nil => simp [outcomeAt, BatchPart.size]
    | cons reply replies => rfl

/-- Of a batch whose sum does not fit no more than the call is told where additions are checked. -/
theorem checked_eq {σ ε α : Type} {run : Run σ ε α} {statements : List String} {labels : List Label}
    {replies : List Reply} {duration : Nat} {o : Outcome}
    (h : run.events = events statements labels true (mark statements replies) duration o) :
    run.checked =
      if total (sizesOf statements replies) < 2 ^ 64 then (run.events, some run.result)
      else
        let sql := ";".intercalate statements
        ([.started (.batch sql statements.length labels), .called (.batch sql) true], none) := by
  unfold mark at h
  split at h
  · rw [if_pos ‹_›, Run.checked_of_not_mem (by simp [h, events])]
  · rw [if_neg ‹_›, Run.checked_of_mem (by simp [h, events]), h]
    rfl

end Batch

namespace Client

variable {σ : Type} (client : Client σ)

/-- What is seen of a batch that is sent and answered where additions are checked, whether or not the answer lacks a
reply. -/
theorem checked_runBatch {statements : List String} {labels : List Label} {correlate : Bool} {replies : List Reply}
    {s s' : σ}
    (h : Batch.Accepted client.config.maxBatch (Batch.sent statements) (Batch.given labels) correlate)
    (hreplies : client.connection.executeBatch (";".intercalate (Batch.sent statements)) s = (.ok replies, s')) :
    let run := client.runBatch statements labels correlate s
    run.checked =
      if Batch.total (Batch.sizesOf (Batch.sent statements) replies) < 2 ^ 64 then (run.events, some run.result)
      else
        let sql := ";".intercalate (Batch.sent statements)
        ([.started (.batch sql (Batch.sent statements).length (Batch.given labels)), .called (.batch sql) true],
          none) := by
  intro run
  have hrun : run = client.recovering
      (client.sendBatch (Batch.sent statements) (Batch.given labels) correlate) s :=
    congrFun (client.runBatch_of_accepted h.fits h.nonempty h.count) s
  rw [recovering_run] at hrun
  by_cases hmissing : Batch.IsMissing (client.connection.lastError s') (Batch.sent statements) replies
  · obtain ⟨statement, -, houtcomes⟩ := Batch.outcomes_of_isMissing hmissing
    rw [client.sendBatch_of_missing hreplies houtcomes] at hrun
    exact Batch.checked_eq (congrArg Run.events hrun)
  · rw [client.sendBatch_of_outcomes hreplies (Batch.outcomes_eq hmissing)] at hrun
    exact Batch.checked_eq (congrArg Run.events hrun)

/-- A batch that is accepted and gets a result for each of its statements gives the sum of their counts modulo
`2 ^ 64`. That is the sum, and no addition on the way overflows, exactly if the sum is below `2 ^ 64`. If it is not
and additions are checked, the batch gives nothing, and is not told to be completed. Without labels to keep the
results under, the counts are given too. -/
theorem runBatch_total_iff {statements : List String} {labels : List Label} {correlate : Bool} {replies : List Reply}
    {s s' : σ}
    (h : Batch.Accepted client.config.maxBatch (Batch.sent statements) (Batch.given labels) correlate)
    (hreplies : client.connection.executeBatch (";".intercalate (Batch.sent statements)) s = (.ok replies, s'))
    (hmissing : ¬ Batch.IsMissing (client.connection.lastError s') (Batch.sent statements) replies) :
    let run := client.runBatch statements labels correlate s
    let sql := ";".intercalate (Batch.sent statements)
    let counts := (List.range (Batch.sent statements).length).map fun i => (Batch.outcomeAt replies i).size
    ∃ y, run.result = .ok y ∧
      y.affected.toNat = Batch.total counts % 2 ^ 64 ∧
      (y.affected.toNat = Batch.total counts ↔ Batch.total counts < 2 ^ 64) ∧
      (Batch.AddsUp counts ↔ Batch.total counts < 2 ^ 64) ∧
      (correlate = false → y.sizes = counts) ∧
      run.checked =
        if Batch.total counts < 2 ^ 64 then (run.events, some (.ok y))
        else
          ([.started (.batch sql (Batch.sent statements).length (Batch.given labels)), .called (.batch sql) true],
            none) := by
  intro run sql counts
  have hresult := client.result_runBatch_of_answered h.fits h.nonempty h.count hreplies hmissing
  have hcounts : ((List.range (Batch.sent statements).length).map (Batch.outcomeAt replies)).map BatchPart.size =
      counts := List.map_map
  have htotal : Batch.total counts = Batch.total (Batch.sizesOf (Batch.sent statements) replies) :=
    hcounts ▸ Batch.total_outcomes replies _
  have hy : Batch.Holds (Batch.given labels) correlate
      ((List.range (Batch.sent statements).length).map (Batch.outcomeAt replies)) _ :=
    Batch.holds_yieldOf fun hc => by simpa using h.fits hc
  have haffected : _ = Batch.wordSum counts := hcounts ▸ hy.affected
  refine ⟨_, hresult, ?_, ?_, Batch.addsUp_iff, ?_, ?_⟩
  · rw [haffected, Batch.toNat_wordSum]
  · rw [haffected, Batch.toNat_wordSum_eq_iff]
  · rintro rfl
    have hsizes := hy.sizes
    rwa [hcounts] at hsizes
  · rw [client.checked_runBatch h hreplies, hresult, htotal]

/-- The largest total that there is: a count of one less, a row, and a statement without a reply. -/
theorem runBatch_total_largest :
    let client : Client Unit := { connection := answering [.affected 18446744073709551614, .rows [[]]] }
    let run := client.runBatch ["UPDATE t SET a = 1", "SELECT 1", "SET x = 1"] [] false ()
    ∃ y, run.checked = (run.events, some (.ok y)) ∧
      y.affected.toNat = Batch.total y.sizes ∧ Batch.total y.sizes = 2 ^ 64 - 1 := by
  intro client run
  obtain ⟨y, -, -, htotal, -, hsizes, hchecked⟩ := @runBatch_total_iff Unit client
    ["UPDATE t SET a = 1", "SELECT 1", "SET x = 1"] [] false [.affected 18446744073709551614, .rows [[]]] () ()
    (by decide +kernel) rfl (fun h => h.2 rfl)
  refine ⟨y, ?_, ?_, ?_⟩
  · rw [hchecked, if_pos (by decide +kernel)]
  · rw [hsizes rfl]
    exact htotal.2 (by decide +kernel)
  · rw [hsizes rfl]
    decide +kernel

/-- Two counts whose sum is `2 ^ 64`. Their total is zero, although both are given; where additions are checked there
is no result. -/
theorem runBatch_total_overflows :
    let client : Client Unit :=
      { connection := answering [.affected 9223372036854775808, .affected 9223372036854775808] }
    let run := client.runBatch ["UPDATE t SET a = 1", "UPDATE t SET b = 2"] [] false ()
    ∃ y, run.result = .ok y ∧ y.sizes = [9223372036854775808, 9223372036854775808] ∧ y.affected = 0 ∧
      Batch.total y.sizes = 2 ^ 64 ∧ ¬ Batch.AddsUp y.sizes ∧ run.checked.2 = none := by
  refine ⟨_, rfl, by decide, by decide, by decide, fun h => ?_, ?_⟩
  · exact absurd (Batch.addsUp_iff.1 h) (by decide)
  · exact Run.checked_eq_none_iff.2 (by decide +kernel)

end Client

end GuardedSql
