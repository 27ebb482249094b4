import GuardedSql.Proofs.Program
import GuardedSql.Proofs.Suspicion

/-!
# Existence probes

Whether the probe of an identifier can be built depends on the table, the column and the policy. The
identifier, and how the connection escapes it, have no say. So if one probe cannot be sent, none is.

- `agree_probe`: two probes of a column.
- `freshId_of_unready`: the search for an identifier where no probe can be sent.
-/

namespace GuardedSql

/-- Two computations that go through the same checks. -/
abbrev SameChecks {α β : Type} : Except Error α → Except Error β → Prop :=
  Agree fun _ _ => True

theorem sameChecks_self {α : Type} (x : Except Error α) : SameChecks x x := by
  cases x with
  | ok a => exact .ok trivial
  | error e => exact .error e

/-- The escaping has no say in what is refused. -/
theorem Token.sameChecks_emit (escaper escaper' : Escaper) (t : Token) :
    SameChecks (t.emit escaper) (t.emit escaper') := by
  cases t with
  | null => exact .ok trivial
  | of role text =>
    cases role with
    | column | reference | raw => exact sameChecks_self _
    | value | literal | blank => exact .ok trivial

/-- Nor has a literal that stands against a key. -/
theorem Token.sameChecks_equate (escaper escaper' : Escaper) (key : Token) (id id' : String) :
    SameChecks (key.equate escaper (.literal id)) (key.equate escaper' (.literal id')) := by
  have hkey : SameChecks (key.emitKey escaper) (key.emitKey escaper') := by
    unfold Token.emitKey
    split
    · exact .ok trivial
    · exact (key.sameChecks_emit escaper escaper').map fun _ _ _ => trivial
  refine hkey.bind fun lhs lhs' _ => ?_
  cases lhs <;> cases lhs' <;> exact .ok trivial

namespace Client

/-- Either both probes fail with the same error, or both are voided, or neither. -/
theorem agree_probe {c c' : Compiler} (hpolicy : c'.policy = c.policy) (table column id id' : String) :
    Agree (fun s s' => s.isVoided = s'.isVoided) ((probe table column id).build c).result
      ((probe table column id').build c').result := by
  have hfilter : Agree (fun cl cl' => cl.isVoided = cl'.isVoided)
      (c.filter [⟨.and, .column column, .equals (.literal id)⟩]).result
      (c'.filter [⟨.and, .column column, .equals (.literal id')⟩]).result := by
    refine Compiler.agree_onSuspicion hpolicy ?_ ?_ _ _
    · refine Agree.map (R := fun _ _ => True) ?_ fun _ _ _ => rfl
      exact ((Token.column column).sameChecks_equate _ _ id id').bind fun _ _ _ => .ok trivial
    · rfl
  have htable : SameChecks (c.table (.column table)) (c'.table (.column table)) := by
    unfold Compiler.table
    split
    · exact .error _
    · exact Token.sameChecks_emit _ _ _
  refine Compiler.agree_onSuspicion hpolicy ?_ ?_ _ _
  · simp only [Select.compile, Logged.result_bind]
    refine htable.bind fun text text' _ => hfilter.bind fun clause clause' hclause => ?_
    rw [hclause]
    split
    · exact .ok rfl
    · exact .ok rfl
  · rfl

variable {σ : Type} (client : Client σ)

/-- The probe of an identifier cannot be sent: it fails to be built, or is voided. -/
def Unready (table column id : String) (s : σ) : Prop :=
  ∀ statement, (client.compile (probe table column id) s).result = .ok statement → statement.isVoided = true

variable {client} {table column : String}

/-- That does not depend on the identifier, nor on the state of the connection. -/
theorem Unready.of {id id' : String} {s s' : σ} (h : client.Unready table column id s) :
    client.Unready table column id' s' := by
  intro statement hstatement
  have hagree := @agree_probe ⟨client.connection.escape s, client.config.suspicion⟩
    ⟨client.connection.escape s', client.config.suspicion⟩ rfl table column id id'
  obtain ⟨statement', hstatement', hvoided⟩ := hagree.eq_ok_of_right hstatement
  rw [← hvoided]
  exact h statement' hstatement'

theorem isTaken_of_unready {id : String} {s : σ} (h : client.Unready table column id s) :
    ∃ e notices, Event.withoutNotices notices = [] ∧
      client.isTaken table column id s = ⟨.error e, s, notices⟩ := by
  obtain ⟨notices, hnotices, hcompile⟩ := client.compile_run (probe table column id) s
  cases hresult : (client.compile (probe table column id) s).result with
  | error e =>
    rw [hresult] at hcompile
    exact ⟨e, notices, hnotices, Session.bind_of_error hcompile _⟩
  | ok statement =>
    rw [hresult] at hcompile
    cases statement with
    | ready => cases h _ hresult
    | voided kind =>
      refine ⟨.suspicious (table ++ "." ++ column), notices, hnotices, ?_⟩
      rw [isTaken, Session.bind_of_ok hcompile]
      simp

/-- Where no probe can be sent, the search for an identifier sends nothing and finds none. -/
theorem freshId_of_unready {id : String} {s₀ : σ} (h : client.Unready table column id s₀) (seed : String)
    (s : σ) :
    ∃ result notices, Event.withoutNotices notices = [] ∧ (∀ found, result ≠ .ok (some found)) ∧
      client.freshId table column seed s = ⟨result, s, notices⟩ := by
  unfold freshId FreshId.search
  cases client.config.freshId.attempts with
  | zero => exact ⟨.ok none, [], rfl, by simp, rfl⟩
  | succ attempts =>
    obtain ⟨e, notices, hnotices, hrun⟩ := isTaken_of_unready (h.of : client.Unready table column _ s)
    exact ⟨.error e, notices, hnotices, by simp, Session.bind_of_error hrun _⟩

end Client

end GuardedSql
