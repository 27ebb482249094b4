import GuardedSql.Query

/-!
# Statistics

Counts of queries by what they were and what became of them. Counts are words of 64 bits; the sum of the
durations, in nanoseconds, stays at the largest word once it is reached.
-/

namespace GuardedSql

structure Stats where
  total : UInt64 := 0
  failed : UInt64 := 0
  voided : UInt64 := 0
  batches : UInt64 := 0
  selects : UInt64 := 0
  inserts : UInt64 := 0
  updates : UInt64 := 0
  deletes : UInt64 := 0
  nanos : UInt64 := 0
  /-- the longest duration so far, and the text of the first query that took it -/
  slowest : Option (Nat × String) := none
deriving DecidableEq, Repr

namespace Stats

/-- The largest word. -/
def maxWord : UInt64 := 0xFFFFFFFFFFFFFFFF

/-- A duration as a word, the largest one if it is longer. -/
def toWord (duration : Nat) : UInt64 :=
  if duration < UInt64.size then duration.toUInt64 else maxWord

/-- The sum, or the largest word if it is more. -/
def addSaturating (x y : UInt64) : UInt64 :=
  if x.toNat + y.toNat < UInt64.size then x + y else maxWord

/-- Counts a query that was sent, under batches or under its kind. -/
def countKind (s : Stats) (q : Query) : Stats :=
  if q.isBatch then { s with batches := s.batches + 1 }
  else match q.kind with
    | .select => { s with selects := s.selects + 1 }
    | .insert => { s with inserts := s.inserts + 1 }
    | .update => { s with updates := s.updates + 1 }
    | .delete => { s with deletes := s.deletes + 1 }
    | .raw => s

/-- The longer of the slowest query and this one; the earlier of two that took as long. -/
def slower (slowest : Option (Nat × String)) (duration : Nat) (sql : String) : Option (Nat × String) :=
  match slowest with
  | some (longest, first) => if longest < duration then some (duration, sql) else some (longest, first)
  | none => some (duration, sql)

/-- The statistics after a query. One that was voided counts as that alone. -/
def observe (s : Stats) (q : Query) (duration : Nat) (o : Outcome) : Stats :=
  if o = .voided then { s with voided := s.voided + 1 }
  else
    let s := s.countKind q
    { s with
      total := s.total + 1
      nanos := addSaturating s.nanos (toWord duration)
      failed := if o.isError then s.failed + 1 else s.failed
      slowest := slower s.slowest duration q.sql }

/-- The longest duration, zero if there was no query. -/
def longest (s : Stats) : Nat :=
  (s.slowest.map Prod.fst).getD 0

/-- Everything anew. -/
def reset (s : Stats) : Stats :=
  { s with
    total := 0
    failed := 0
    voided := 0
    batches := 0
    selects := 0
    inserts := 0
    updates := 0
    deletes := 0
    nanos := 0
    slowest := none }

end Stats

/-- What is told of the statistics, the durations in nanoseconds. -/
structure Snapshot where
  total : UInt64
  failed : UInt64
  voided : UInt64
  batches : UInt64
  selects : UInt64
  inserts : UInt64
  updates : UInt64
  deletes : UInt64
  totalDuration : Nat
  maxDuration : Nat
  slowest : Option String
deriving DecidableEq, Repr

def Stats.snapshot (s : Stats) : Snapshot where
  total := s.total
  failed := s.failed
  voided := s.voided
  batches := s.batches
  selects := s.selects
  inserts := s.inserts
  updates := s.updates
  deletes := s.deletes
  totalDuration := s.nanos.toNat
  maxDuration := s.longest
  slowest := s.slowest.map Prod.snd

end GuardedSql
