import GuardedSql.Proofs.Sending

/-!
# The results of a batch under their labels

A correlated batch keeps the result of each statement under the statement's label. The labels are counted
before anything is sent, but not compared: a label that is given twice takes the later result in place of the
earlier one.

- `Client.runBatch_lossless_iff`: a correlated batch keeps every result exactly if no label is given twice.
- `Client.runBatch_overwrites`: a batch with one label twice.
-/

namespace GuardedSql

theorem lookup_zip {κ α : Type} [DecidableEq κ] {keys : List κ} (hd : keys.Nodup) {values : List α}
    (hl : keys.length = values.length) {i : Nat} {key : κ} (h : keys[i]? = some key) :
    (keys.zip values).lookup key = values[i]? := by
  induction keys generalizing values i with
  | nil => cases h
  | cons k keys ih =>
    obtain ⟨hk, hd⟩ := List.nodup_cons.1 hd
    cases values with
    | nil => cases hl
    | cons v values =>
      cases i with
      | zero =>
        obtain rfl : k = key := by simpa using h
        simp
      | succ i =>
        have hne : key ≠ k := by
          rintro rfl
          exact hk (List.mem_of_getElem? h)
        rw [List.zip_cons_cons, List.lookup_cons, beq_eq_false_iff_ne.2 hne, List.getElem?_cons_succ]
        exact ih hd (Nat.succ.inj hl) h

/-! ## Results of a batch -/

namespace Batch

/-- The labels of `n` statements: those given, or if there are none their positions. -/
def effectiveLabels (labels : List Label) (n : Nat) : List Label :=
  if labels.isEmpty then (List.range n).map .index else labels

/-- The map has one entry for each label, in their order, and under each label the result that stands in the
same place. -/
structure Lossless (labels : List Label) (outcomes : List BatchPart) (m : Keyed Label BatchPart) : Prop where
  keys : m.keys = labels
  outcome : ∀ (i : Nat) (label : Label), labels[i]? = some label → m.find? label = outcomes[i]?

theorem labelsOf_eq {labels : List Label} {n : Nat} (h : labels = [] ∨ labels.length = n) :
    labelsOf labels n = effectiveLabels labels n := by
  rcases h with rfl | rfl
  · rfl
  · cases labels with
    | nil => rfl
    | cons label labels =>
      refine List.ext_getElem (by simp [labelsOf, effectiveLabels]) fun i hi _ => ?_
      have hi' : i < (label :: labels).length := by simpa [labelsOf] using hi
      simp [labelsOf, effectiveLabels, List.getElem?_eq_getElem hi']

theorem lossless_iff {labels : List Label} {outcomes : List BatchPart} (h : labels.length = outcomes.length) :
    Lossless labels outcomes (.ofList (labels.zip outcomes)) ↔ labels.Nodup := by
  constructor
  · intro hm
    rw [← hm.keys]
    exact Keyed.nodup _
  · intro hd
    have hfst : (labels.zip outcomes).map Prod.fst = labels := List.map_fst_zip (Nat.le_of_eq h)
    have hentries := Keyed.entries_ofList (hfst.symm ▸ hd)
    refine ⟨?_, fun i label hi => ?_⟩
    · rw [Keyed.keys, hentries, hfst]
    · rw [Keyed.find?, hentries, lookup_zip hd h hi]

theorem length_effectiveLabels {labels : List Label} {n : Nat} (h : labels = [] ∨ labels.length = n) :
    (effectiveLabels labels n).length = n := by
  rcases h with rfl | rfl
  · simp [effectiveLabels]
  · cases labels <;> rfl

theorem nodup_effectiveLabels (labels : List Label) (n : Nat) :
    (effectiveLabels labels n).Nodup ↔ labels.Nodup := by
  cases labels with
  | nil =>
    have hpositions : ((List.range n).map Label.index).Nodup :=
      List.Pairwise.map _ (fun _ _ hne he => hne (Label.index.inj he)) List.nodup_range
    exact ⟨fun _ => List.nodup_nil, fun _ => hpositions⟩
  | cons label labels => rfl

end Batch

namespace Client

variable {σ : Type} (client : Client σ)

/-- What a batch gives that is sent and gets a result for each statement. -/
theorem result_runBatch_of_answered {statements : List String} {labels : List Label} {correlate : Bool}
    {replies : List Reply} {s s' : σ}
    (hfits : Batch.Fits correlate (Batch.given labels) (Batch.sent statements)) (hne : Batch.sent statements ≠ [])
    (hcount : (Batch.sent statements).length ≤ client.config.maxBatch)
    (hreplies : client.connection.executeBatch (";".intercalate (Batch.sent statements)) s = (.ok replies, s'))
    (hmissing : ¬ Batch.IsMissing (client.connection.lastError s') (Batch.sent statements) replies) :
    (client.runBatch statements labels correlate s).result =
      .ok (Batch.yieldOf (Batch.given labels) correlate
        ((List.range (Batch.sent statements).length).map (Batch.outcomeAt replies))) := by
  have houtcomes := Batch.outcomes_eq hmissing
  have hsend := client.sendBatch_of_outcomes hreplies houtcomes (Batch.given labels) correlate
  rw [client.runBatch_of_accepted hfits hne hcount, Session.observe_bind, hsend]
  rfl

/-- What a correlated batch gives by its labels, if it is accepted and gets a result for each statement. -/
theorem exists_byLabel_runBatch {statements : List String} {labels : List Label} {replies : List Reply} {s s' : σ}
    (hfits : Batch.Fits true (Batch.given labels) (Batch.sent statements))
    (hcount : (Batch.sent statements).length ≤ client.config.maxBatch)
    (hreplies : client.connection.executeBatch (";".intercalate (Batch.sent statements)) s = (.ok replies, s'))
    (hmissing : ¬ Batch.IsMissing (client.connection.lastError s') (Batch.sent statements) replies) :
    ∃ y, (client.runBatch statements labels true s).result = .ok y ∧
      y.byLabel = .ofList
        ((Batch.effectiveLabels (Batch.given labels) (Batch.sent statements).length).zip
          ((List.range (Batch.sent statements).length).map (Batch.outcomeAt replies))) := by
  by_cases hne : Batch.sent statements = []
  · rw [client.runBatch_of_empty hfits hne, hne]
    exact ⟨{}, rfl, by simp [Keyed.ofList]⟩
  · refine ⟨_, client.result_runBatch_of_answered hfits hne hcount hreplies hmissing, ?_⟩
    simp only [Batch.yieldOf, if_true, List.length_map, List.length_range, Batch.labelsOf_eq (hfits rfl)]

/-- A correlated batch that is accepted and gets a result for each of its statements gives these results, and
keeps each under its label exactly if no label is given twice. -/
theorem runBatch_lossless_iff {statements : List String} {labels : List Label} {replies : List Reply} {s s' : σ}
    (hfits : Batch.Fits true (Batch.given labels) (Batch.sent statements))
    (hcount : (Batch.sent statements).length ≤ client.config.maxBatch)
    (hreplies : client.connection.executeBatch (";".intercalate (Batch.sent statements)) s = (.ok replies, s'))
    (hmissing : ¬ Batch.IsMissing (client.connection.lastError s') (Batch.sent statements) replies) :
    ∃ y, (client.runBatch statements labels true s).result = .ok y ∧
      (Batch.Lossless (Batch.effectiveLabels (Batch.given labels) (Batch.sent statements).length)
          ((List.range (Batch.sent statements).length).map (Batch.outcomeAt replies)) y.byLabel ↔
        (Batch.given labels).Nodup) := by
  obtain ⟨y, hy, hlabels⟩ := client.exists_byLabel_runBatch hfits hcount hreplies hmissing
  refine ⟨y, hy, ?_⟩
  rw [hlabels, Batch.lossless_iff, Batch.nodup_effectiveLabels]
  rw [Batch.length_effectiveLabels (hfits rfl), List.length_map, List.length_range]

/-- A connection that gives every batch the same replies, and has no rows. -/
def answering (replies : List Reply) : Connection Unit where
  execute _ s := (.ok .empty, s)
  executeBatch _ s := (.ok replies, s)
  lastInsertId _ := 0
  affectedRows _ := 0
  lastError _ := ""

/-- A name and a position stand for different labels, and a statement without a reply is kept as done. -/
theorem runBatch_lossless_mixed :
    let client : Client Unit := { connection := answering [.affected 3, .rows []] }
    ∃ y, (client.runBatch ["DELETE FROM t", "", "SELECT 1", " "] [.named "0", .index 0, .named "b", .named ""]
        true ()).result = .ok y ∧
      Batch.Lossless [.named "0", .index 0, .named "b"] [.count 3, .rows [], .done] y.byLabel := by
  intro client
  obtain ⟨y, hy, hiff⟩ := @runBatch_lossless_iff Unit client ["DELETE FROM t", "", "SELECT 1", " "]
    [.named "0", .index 0, .named "b", .named ""] [.affected 3, .rows []] () () (fun _ => .inr (by decide))
    (by decide) rfl (fun h => h.2 rfl)
  exact ⟨y, hy, hiff.2 (by decide)⟩

/-- Of two statements with the same label, only the result of the second one is kept. -/
theorem runBatch_overwrites :
    let client : Client Unit := { connection := answering [.affected 1, .affected 2] }
    ∃ y, (client.runBatch ["UPDATE t SET a = 1", "UPDATE t SET b = 2"] [.named "a", .named "a"] true ()).result =
        .ok y ∧
      y.byLabel.entries = [(.named "a", .count 2)] ∧
      ¬ Batch.Lossless [.named "a", .named "a"] [.count 1, .count 2] y.byLabel := by
  refine ⟨_, rfl, by decide, fun h => ?_⟩
  exact absurd h.keys (by decide)

end Client

end GuardedSql
