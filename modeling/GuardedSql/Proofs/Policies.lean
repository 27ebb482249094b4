import GuardedSql.Proofs.Outcome
import GuardedSql.Proofs.Suspicion
import GuardedSql.Statement.Command

/-!
# The two policies compared

What a filter or a statement gives where suspicious fragments void it, next to what it gives where they are
raised. A suspicion in the filter voids the clause first, and then the statement without a further look at it;
one elsewhere voids the statement as a whole. Both come to the same, and to one warning.

- `softened_filter`, `softened_build`: the pairs of runs that there are.
- `policies_agree`: the policies differ in nothing but what becomes of a suspicion.
-/

namespace GuardedSql

variable {α : Type}

/-- A run where suspicions are raised, and one where they void. Either both give the same, silently, which is no
suspicion and nothing voided, or a suspicion in the one becomes `instead` in the other, with a warning. -/
inductive Softened (isVoided : α → Bool) (instead : α) : Logged α → Logged α → Prop
  | same {r : Except Error α} (hs : ∀ fragment, r ≠ .error (.suspicious fragment))
      (hv : Gives (isVoided · = false) r) : Softened isVoided instead ⟨r, []⟩ ⟨r, []⟩
  | voided (fragment : String) {n : Notice} (hn : n.level = .warn) :
      Softened isVoided instead ⟨.error (.suspicious fragment), []⟩ ⟨.ok instead, [n]⟩

/-- What is to be said of a run where suspicions are raised and one where they void. -/
structure PoliciesAgree (isVoided : α → Bool) (instead : α) (raised voiding : Logged α) : Prop where
  /-- it is voided exactly where a suspicion is raised -/
  voided_iff : voiding.result = .ok instead ↔ ∃ fragment, raised.result = .error (.suspicious fragment)
  /-- nothing else stands for what is voided -/
  voided_eq : Gives (fun a => isVoided a = true → a = instead) voiding.result
  /-- where no suspicion is raised, both give the same, or fail with the same error -/
  otherwise : (∀ fragment, raised.result ≠ .error (.suspicious fragment)) → voiding.result = raised.result
  /-- voiding gives one warning -/
  warning : voiding.result = .ok instead → ∃ n, voiding.notices = [n] ∧ n.level = .warn
  /-- and all else is silent -/
  quiet : voiding.result ≠ .ok instead → voiding.notices = []
  raised_quiet : raised.notices = []

theorem Softened.policiesAgree {isVoided : α → Bool} {instead : α} {raised voiding : Logged α}
    (h : Softened isVoided instead raised voiding) (hi : isVoided instead = true) :
    PoliciesAgree isVoided instead raised voiding := by
  cases h with
  | @same r hs hv =>
    have hne : r ≠ .ok instead := by
      intro hr
      have hf : isVoided instead = false := hv instead hr
      rw [hi] at hf
      cases hf
    refine ⟨⟨fun hr => absurd hr hne, fun ⟨fragment, hr⟩ => absurd hr (hs fragment)⟩, ?_, fun _ => rfl,
      fun hr => absurd hr hne, fun _ => rfl, rfl⟩
    intro a ha hva
    have hf : isVoided a = false := hv a ha
    rw [hva] at hf
    cases hf
  | voided fragment hn =>
    exact ⟨⟨fun _ => ⟨fragment, rfl⟩, fun _ => rfl⟩, gives_ok fun _ => rfl, fun hs => absurd rfl (hs fragment),
      fun _ => ⟨_, rfl, hn⟩, fun h => absurd rfl h, rfl⟩

namespace Compiler

theorem softened_filter (escaper : Escaper) (f : Filter) :
    Softened Clause.isVoided .voided (filter ⟨escaper, .raise⟩ f) (filter ⟨escaper, .void⟩ f) := by
  rw [filter_raise, filter_void]
  cases Filter.compile escaper f with
  | ok links => exact .same (fun _ h => by cases h) (gives_ok rfl)
  | error e =>
    cases e with
    | suspicious fragment => exact .voided fragment rfl
    | _ => exact .same (fun _ h => by cases h) (fun _ h => by cases h)

/-! ## Statements before the policy is asked about them as a whole -/

/-- A statement of a kind, before the policy is asked about it as a whole. Both runs fail alike, also on a
suspicion outside of the filter, or the filter is voided. -/
inductive Parallel (kind : Kind) : Logged Statement → Logged Statement → Prop
  | same {r : Except Error Statement} (h : Gives (·.isVoided = false) r) : Parallel kind ⟨r, []⟩ ⟨r, []⟩
  | voided (fragment : String) {n : Notice} (hn : n.level = .warn) :
      Parallel kind ⟨.error (.suspicious fragment), []⟩ ⟨.ok (.voided kind), [n]⟩

variable {kind : Kind}

/-- What comes before the filter is the same under both policies. -/
theorem Parallel.before (x : Except Error α) {f g : α → Logged Statement} (h : ∀ a, Parallel kind (f a) (g a)) :
    Parallel kind (liftM x >>= f) (liftM x >>= g) := by
  cases x with
  | ok a => exact h a
  | error e => exact .same fun _ h => by cases h

/-- A voided filter ends the statement. Otherwise what comes after it is the same under both policies. -/
theorem parallel_filter (escaper : Escaper) (f : Filter) {rest : Clause → Except Error Statement}
    (hrest : ∀ clause, Gives (·.isVoided = false) (rest clause)) :
    Parallel kind
      (filter ⟨escaper, .raise⟩ f >>= fun clause =>
        if clause.isVoided then pure (.voided kind) else liftM (rest clause))
      (filter ⟨escaper, .void⟩ f >>= fun clause =>
        if clause.isVoided then pure (.voided kind) else liftM (rest clause)) := by
  have h := softened_filter escaper f
  generalize filter ⟨escaper, .raise⟩ f = x at h ⊢
  generalize filter ⟨escaper, .void⟩ f = y at h ⊢
  cases h with
  | voided fragment hn => exact .voided fragment hn
  | @same r hs hv =>
    cases r with
    | error e => exact .same fun _ h => by cases h
    | ok clause =>
      have hc : clause.isVoided = false := hv clause rfl
      simp only [bind, Logged.bind, hc]
      exact .same (hrest clause)

/-- The policy leaves a voided filter as it is, and voids the statement on any other suspicion. -/
theorem Parallel.guarded (escaper : Escaper) {x y : Logged Statement} (h : Parallel kind x y) :
    Softened Statement.isVoided (.voided kind) (guarded ⟨escaper, .raise⟩ kind x)
      (guarded ⟨escaper, .void⟩ kind y) := by
  cases h with
  | voided fragment hn => exact .voided fragment hn
  | @same r hr =>
    cases r with
    | ok s => exact .same (fun _ h => by cases h) hr
    | error e =>
      cases e with
      | suspicious fragment => exact .voided fragment rfl
      | _ => exact .same (fun _ h => by cases h) hr

/-! ## Statements -/

variable (escaper : Escaper)

theorem parallel_select (q : Select) :
    Parallel .select (q.compile ⟨escaper, .raise⟩) (q.compile ⟨escaper, .void⟩) := by
  refine Parallel.before _ fun table => parallel_filter escaper q.filter fun clause => ?_
  exact gives_bind fun _ => gives_bind fun _ => gives_ok rfl

theorem parallel_update (q : Update) :
    Parallel .update (q.compile ⟨escaper, .raise⟩) (q.compile ⟨escaper, .void⟩) := by
  refine Parallel.before _ fun table => Parallel.before _ fun assignments => ?_
  exact parallel_filter escaper q.filter fun clause => gives_ok rfl

theorem parallel_delete (q : Delete) :
    Parallel .delete (q.compile ⟨escaper, .raise⟩) (q.compile ⟨escaper, .void⟩) := by
  refine Parallel.before _ fun table => ?_
  exact parallel_filter escaper q.filter fun clause => gives_ok rfl

theorem tuples_void (columns : List String) (i : Nat) (rows : List InsertRow) :
    Insert.tuples ⟨escaper, .void⟩ columns i rows = Insert.tuples ⟨escaper, .raise⟩ columns i rows := by
  induction rows generalizing i with
  | nil => rfl
  | cons row rows ih =>
    rw [Insert.tuples, Insert.tuples, ih]
    rfl

theorem parallel_insert (q : Insert) :
    Parallel .insert (.ofExcept (q.compile ⟨escaper, .raise⟩)) (.ofExcept (q.compile ⟨escaper, .void⟩)) := by
  have hpolicy : q.compile ⟨escaper, .void⟩ = q.compile ⟨escaper, .raise⟩ := by
    simp only [Insert.compile, tuples_void]
    rfl
  rw [hpolicy]
  refine .same (gives_bind fun table => ?_)
  dsimp only
  split
  · exact fun _ h => by cases h
  · exact gives_bind fun _ => gives_bind fun _ => gives_ok rfl

theorem softened_build (q : Command) :
    Softened Statement.isVoided (.voided q.kind) (q.build ⟨escaper, .raise⟩) (q.build ⟨escaper, .void⟩) := by
  cases q with
  | select q => exact (parallel_select escaper q).guarded escaper
  | insert q => exact (parallel_insert escaper q).guarded escaper
  | update q => exact (parallel_update escaper q).guarded escaper
  | delete q => exact (parallel_delete escaper q).guarded escaper

/-- The policies differ in nothing but what becomes of a suspicion: the statement is voided, and has its kind
and no text, or the clause of a filter is, and is empty. -/
theorem policies_agree :
    (∀ q : Command, (Statement.voided q.kind).sql = "" ∧
      PoliciesAgree Statement.isVoided (.voided q.kind) (q.build ⟨escaper, .raise⟩) (q.build ⟨escaper, .void⟩)) ∧
    ∀ f : Filter, Clause.voided.isEmpty = true ∧
      PoliciesAgree Clause.isVoided .voided (filter ⟨escaper, .raise⟩ f) (filter ⟨escaper, .void⟩ f) :=
  ⟨fun q => ⟨rfl, (softened_build escaper q).policiesAgree rfl⟩,
    fun f => ⟨rfl, (softened_filter escaper f).policiesAgree rfl⟩⟩

/-- A suspicious filter voids the statement before its column is found to have no name. -/
example :
    let q : Command := .select {
      table := .column "users"
      columns := [.column ""]
      filter := [⟨.and, .blank, .choice [.any (.column "id") [.filter [⟨.and, .blank, .equals (.raw "'")⟩]]]⟩] }
    (q.build ⟨Literal.escape, .raise⟩).result = .error (.suspicious "'") ∧
      (q.build ⟨Literal.escape, .void⟩).result = .ok (.voided .select) :=
  ⟨rfl, rfl⟩

end Compiler

end GuardedSql
