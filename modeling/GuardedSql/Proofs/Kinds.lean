import GuardedSql.Proofs.Suspicion
import GuardedSql.Statement.Command

/-!
# Kinds of built statements

The kind that is read off the text of a statement that is built is that of its command. So it is none of the
statements that are told apart from these four by their first word.

- `kind_of_build`: a statement that is ready to be run.
-/

namespace GuardedSql

namespace Kind

variable (rest : String)

theorem ofSql_select : ofSql ("SELECT " ++ rest) = .select := by
  rw [ofSql, String.toList_append]
  rfl

theorem ofSql_insert : ofSql ("INSERT " ++ rest) = .insert := by
  rw [ofSql, String.toList_append]
  rfl

theorem ofSql_update : ofSql ("UPDATE " ++ rest) = .update := by
  rw [ofSql, String.toList_append]
  rfl

theorem ofSql_delete : ofSql ("DELETE " ++ rest) = .delete := by
  rw [ofSql, String.toList_append]
  rfl

end Kind

/-- Unless it is voided, the statement has the kind, and so has its text. -/
def Statement.IsOfKind (k : Kind) : Statement → Prop
  | .ready sql kind _ => kind = k ∧ Kind.ofSql sql = k
  | .voided _ => True

section

variable (c : Compiler)

theorem Select.gives_build (q : Select) : Gives (Statement.IsOfKind .select) (q.build c).result := by
  refine Compiler.gives_guarded (fun _ => trivial) ?_
  simp only [compile, Logged.result_bind]
  refine gives_bind fun table => gives_bind fun clause => ?_
  split
  · exact gives_ok trivial
  · refine gives_bind fun columns => gives_bind fun order => gives_ok ⟨rfl, ?_⟩
    simp only [String.append_assoc, Kind.ofSql_select]

theorem Update.gives_build (q : Update) : Gives (Statement.IsOfKind .update) (q.build c).result := by
  refine Compiler.gives_guarded (fun _ => trivial) ?_
  simp only [compile, Logged.result_bind]
  refine gives_bind fun table => gives_bind fun assignments => gives_bind fun clause => ?_
  split
  · exact gives_ok trivial
  · refine gives_ok ⟨rfl, ?_⟩
    simp only [String.append_assoc, Kind.ofSql_update]

theorem Delete.gives_build (q : Delete) : Gives (Statement.IsOfKind .delete) (q.build c).result := by
  refine Compiler.gives_guarded (fun _ => trivial) ?_
  simp only [compile, Logged.result_bind]
  refine gives_bind fun table => gives_bind fun clause => ?_
  split
  · exact gives_ok trivial
  · refine gives_ok ⟨rfl, ?_⟩
    rw [String.append_assoc]
    exact Kind.ofSql_delete ("FROM " ++ _)

theorem Insert.gives_build (q : Insert) : Gives (Statement.IsOfKind .insert) (q.build c).result := by
  refine Compiler.gives_guarded (fun _ => trivial) (gives_bind fun table => ?_)
  dsimp only
  split
  · exact fun _ h => nomatch h
  · refine gives_bind fun names => gives_bind fun texts => gives_ok ⟨rfl, ?_⟩
    simp only [String.append_assoc]
    exact Kind.ofSql_insert ("INTO " ++ _)

/-- A statement that is built has the kind of its command, and so has its text. -/
theorem Command.kind_of_build {c : Compiler} {q : Command} {sql : String} {kind : Kind} {labels : List Label}
    (h : (q.build c).result = .ok (.ready sql kind labels)) : kind = q.kind ∧ Kind.ofSql sql = q.kind := by
  cases q with
  | select q => exact q.gives_build c _ h
  | insert q => exact q.gives_build c _ h
  | update q => exact q.gives_build c _ h
  | delete q => exact q.gives_build c _ h

theorem Command.kind_ne_raw (q : Command) : q.kind ≠ .raw := by
  cases q <;> exact Kind.noConfusion

end

end GuardedSql
