import Mathlib.Data.List.Basic
import GuardedSql.Proofs.Policies
import GuardedSql.Proofs.Traversal

/-!
# What the guard has seen

A statement is made of fixed words, of literals, and of fragments that are written without escaping: names, raw
SQL and templates. Each fragment of a statement, at any depth of its filter, has passed its check before there
is a text, and a suspicion is raised for no other reason than a fragment that has not.

- `token_mem_fragments`: what a statement writes is among its fragments.
- `Vetted.bind`: what is said of a sequence of computations, step by step.
- `vetted_emit`, `vetted_template`, `vetted_compile`: tokens, templates, and filters at any depth.
- `vetted_build`, `covered_build`: statements where suspicions are raised, and under either policy.
- `isRefusal_build`: what keeps a statement from being built.
- `fragments_pass`: the fragments of a statement and what becomes of it.
-/

namespace GuardedSql

/-- What is written without escaping. -/
inductive Fragment where
  | token (t : Token)
  | template (sql : String)
deriving DecidableEq, Repr

namespace Token

/-- Whether a name is whole and has no quote, and raw SQL has some text and an even number of quotes. Other
tokens are not written, or escaped, or are the keyword `NULL`. -/
def passes : Token → Bool
  | .of .column name | .of .reference name =>
    !name.isEmpty && Guard.quotes name = 0 && !(Identifier.segments name).contains []
  | .of .raw sql => !Text.isBlank sql && Guard.quotes sql % 2 = 0
  | .of .value _ | .of .literal _ | .of .blank _ | .null => true

theorem passes_of_isBlank {t : Token} (h : t.isBlank = true) : t.passes = true := by
  rcases t with ⟨role, text⟩ | _
  · cases role <;> first | rfl | cases h
  · rfl

end Token

namespace Fragment

def passes : Fragment → Bool
  | .token t => t.passes
  | .template sql => Guard.quotes sql % 2 = 0

def text : Fragment → String
  | .token t => t.text
  | .template sql => sql

end Fragment

/-! ## The fragments of a statement -/

mutual

/-- The fragments that a filter writes, and the keys of its lists without members, which are looked at
nonetheless. The keys of choices are not written. -/
def Filter.fragments : List Entry → List Fragment
  | [] => []
  | ⟨_, key, condition⟩ :: rest => Condition.fragments key condition ++ Filter.fragments rest
termination_by structural entries => entries

def Condition.fragments (key : Token) : Condition → List Fragment
  | .equals value => [.token key, .token value]
  | .call c => .token key :: c.tokens.map .token
  | .choice branches => Branch.fragmentsAll branches
  | .template sql args => .template sql :: args.map .token ++ [.token key]
termination_by structural condition => condition

def Branch.fragmentsAll : List Branch → List Fragment
  | [] => []
  | .any key items :: rest => Disjunct.fragmentsAll key items ++ Branch.fragmentsAll rest
  | .all key condition :: rest => Condition.fragments key condition ++ Branch.fragmentsAll rest
termination_by structural branches => branches

def Disjunct.fragmentsAll (key : Token) : List Disjunct → List Fragment
  | [] => []
  | item :: rest => Disjunct.fragments key item ++ Disjunct.fragmentsAll key rest
termination_by structural items => items

def Disjunct.fragments (key : Token) : Disjunct → List Fragment
  | .equals value => [.token key, .token value]
  | .call c => .token key :: c.tokens.map .token
  | .filter entries => Filter.fragments entries
termination_by structural d => d

end

def Select.fragments (q : Select) : List Fragment :=
  .token q.table :: Filter.fragments q.filter ++ (q.columns.map .token ++ q.order.map fun o => .token o.1)

def Insert.fragments (q : Insert) : List Fragment :=
  q.tokens.map .token

def Update.fragments (q : Update) : List Fragment :=
  .token q.table :: q.assignments.flatMap (fun a => [.token a.1, .token a.2]) ++ Filter.fragments q.filter

def Delete.fragments (q : Delete) : List Fragment :=
  .token q.table :: Filter.fragments q.filter

/-- The fragments of a statement, in every place where it has some. -/
def Command.fragments : Command → List Fragment
  | .select q => q.fragments
  | .insert q => q.fragments
  | .update q => q.fragments
  | .delete q => q.fragments

/-! ## What is written is among the fragments -/

theorem token_mem_call {key t : Token} {c : Call} (h : t ∈ c.written key) :
    .token t ∈ Fragment.token key :: c.tokens.map .token := by
  unfold Call.written at h
  split at h
  · cases h
  · exact List.mem_map_of_mem h

mutual

theorem token_mem_filter {t : Token} : ∀ f : List Entry, t ∈ Filter.tokens f → .token t ∈ Filter.fragments f
  | [] => fun h => by cases h
  | ⟨_, key, condition⟩ :: rest => fun h => List.mem_append.2 <|
      (List.mem_append.1 h).imp (token_mem_condition key condition) (token_mem_filter rest)
termination_by structural f => f

theorem token_mem_condition {t : Token} (key : Token) : ∀ c : Condition,
    t ∈ Condition.tokens key c → .token t ∈ Condition.fragments key c
  | .equals _ => fun h => List.mem_map_of_mem h
  | .call _ => token_mem_call
  | .choice branches => token_mem_branches branches
  | .template sql args => fun h => by
      rcases List.mem_cons.1 h with rfl | h
      · exact List.mem_append_right _ (List.mem_singleton_self _)
      · exact List.mem_append_left _ (.tail _ (List.mem_map_of_mem h))
termination_by structural c => c

/-- The alternatives are written before the other branches. -/
theorem token_mem_branches {t : Token} : ∀ bs : List Branch,
    t ∈ (Branch.tokensAll bs).1 ++ (Branch.tokensAll bs).2 → .token t ∈ Branch.fragmentsAll bs
  | [] => fun h => by cases h
  | .any key items :: rest => fun h => by
      rw [Branch.tokensAll, List.append_assoc] at h
      exact List.mem_append.2 <|
        (List.mem_append.1 h).imp (token_mem_disjuncts key items) (token_mem_branches rest)
  | .all key condition :: rest => fun h => by
      rw [Branch.tokensAll, List.mem_append, List.mem_append, or_left_comm] at h
      exact List.mem_append.2 <|
        h.imp (token_mem_condition key condition) fun h => token_mem_branches rest (List.mem_append.2 h)
termination_by structural bs => bs

theorem token_mem_disjuncts {t : Token} (key : Token) : ∀ ds : List Disjunct,
    t ∈ Disjunct.tokensAll key ds → .token t ∈ Disjunct.fragmentsAll key ds
  | [] => fun h => by cases h
  | item :: rest => fun h => List.mem_append.2 <|
      (List.mem_append.1 h).imp (token_mem_disjunct key item) (token_mem_disjuncts key rest)
termination_by structural ds => ds

theorem token_mem_disjunct {t : Token} (key : Token) : ∀ d : Disjunct,
    t ∈ Disjunct.tokens key d → .token t ∈ Disjunct.fragments key d
  | .equals _ => fun h => List.mem_map_of_mem h
  | .call _ => token_mem_call
  | .filter entries => token_mem_filter entries
termination_by structural d => d

end

theorem token_mem_select {t : Token} {q : Select} (h : t ∈ q.tokens) : .token t ∈ q.fragments := by
  simp only [Select.tokens, Select.fragments, List.mem_append, List.mem_cons, List.mem_map] at h ⊢
  rcases h with (h | rfl | h) | ⟨o, ho, rfl⟩
  · exact .inr (.inl ⟨t, h, rfl⟩)
  · exact .inl (.inl rfl)
  · exact .inl (.inr (token_mem_filter q.filter h))
  · exact .inr (.inr ⟨o, ho, rfl⟩)

theorem token_mem_update {t : Token} {q : Update} (h : t ∈ q.tokens) : .token t ∈ q.fragments := by
  rcases List.mem_append.1 h with h | h
  · refine List.mem_append_left _ ?_
    have hmap : q.assignments.flatMap (fun a => [Fragment.token a.1, .token a.2]) =
        (q.assignments.flatMap fun a => [a.1, a.2]).map .token := by
      rw [List.map_flatMap]
      rfl
    rw [hmap]
    exact List.mem_map_of_mem h
  · exact List.mem_append_right _ (token_mem_filter q.filter h)

theorem token_mem_fragments {t : Token} {q : Command} (h : t ∈ q.tokens) : .token t ∈ q.fragments := by
  cases q with
  | select q => exact token_mem_select h
  | insert q => exact List.mem_map_of_mem h
  | update q => exact token_mem_update h
  | delete q =>
    rcases List.mem_cons.1 h with rfl | h
    · exact List.mem_cons_self
    · exact .tail _ (token_mem_filter q.filter h)

/-! ## Computations that look at fragments -/

section

variable {α β : Type} {ps qs : List Fragment}

/-- If the computation gives something, all of the fragments have passed their checks. If it fails on a suspicion,
that is for one of them that has not. It fails with refusals only. -/
inductive Vetted (ps : List Fragment) : Except Error α → Prop
  | ok {a : α} (h : ∀ p ∈ ps, p.passes = true) : Vetted ps (.ok a)
  | suspicion {p : Fragment} (hp : p ∈ ps) (h : p.passes = false) : Vetted ps (.error (.suspicious p.text))
  | other {e : Error} (hr : e.isRefusal = true) (h : e.isSuspicion = false) : Vetted ps (.error e)

namespace Vetted

theorem bind {x : Except Error α} {f : α → Except Error β} (h : Vetted ps x) (hf : ∀ a, Vetted qs (f a)) :
    Vetted (ps ++ qs) (x >>= f) := by
  cases h with
  | suspicion hp h => exact .suspicion (List.mem_append_left _ hp) h
  | other hr h => exact .other hr h
  | @ok a hps =>
    have hfa := hf a
    change Vetted (ps ++ qs) (f a)
    generalize f a = y at hfa ⊢
    cases hfa with
    | suspicion hp h => exact .suspicion (List.mem_append_right _ hp) h
    | other hr h => exact .other hr h
    | ok hqs => exact .ok fun p hp => (List.mem_append.1 hp).elim (hps p) (hqs p)

/-- What is done at the end with what has been given. -/
theorem bind_nil {x : Except Error α} {f : α → Except Error β} (h : Vetted ps x) (hf : ∀ a, Vetted [] (f a)) :
    Vetted ps (x >>= f) := by
  have hb := h.bind hf
  rwa [List.append_nil] at hb

theorem map {x : Except Error α} (h : Vetted ps x) (f : α → β) : Vetted ps (f <$> x) := by
  cases h with
  | ok h => exact .ok h
  | suspicion hp h => exact .suspicion hp h
  | other hr h => exact .other hr h

/-- Fragments that pass by themselves may be added. -/
theorem of_subset {x : Except Error α} (h : Vetted ps x) (hsub : ∀ p ∈ ps, p ∈ qs)
    (hrest : ∀ p ∈ qs, p ∈ ps ∨ p.passes = true) : Vetted qs x := by
  cases h with
  | ok h => exact .ok fun p hp => (hrest p hp).elim (h p) id
  | suspicion hp h => exact .suspicion (hsub _ hp) h
  | other hr h => exact .other hr h

end Vetted

theorem Vetted.isRefusal {x : Except Error α} (h : Vetted ps x) {e : Error} (hx : x = .error e) :
    e.isRefusal = true := by
  subst hx
  cases h with
  | suspicion => rfl
  | other hr => exact hr

/-- Without fragments, all that is to be said is that there is no suspicion. -/
theorem vetted_pure (a : α) : Vetted [] (.ok a : Except Error α) :=
  .ok fun _ h => by cases h

theorem vetted_mapM {f : α → Except Error β} {fragments : α → List Fragment}
    (h : ∀ a, Vetted (fragments a) (f a)) (as : List α) : Vetted (as.flatMap fragments) (as.mapM f) := by
  induction as with
  | nil => exact vetted_pure []
  | cons a as ih =>
    rw [List.mapM_cons, List.flatMap_cons]
    exact (h a).bind fun b => ih.bind_nil fun bs => vetted_pure (b :: bs)

end

/-! ## Tokens and templates -/

theorem vetted_quote {name : String} {role : Role} (h : role.isIdentifier = true) :
    Vetted [.token (.of role name)] (Identifier.quote name) := by
  have hpasses : (Token.of role name).passes =
      (!name.isEmpty && Guard.quotes name = 0 && !(Identifier.segments name).contains []) := by
    cases role <;> first | rfl | cases h
  unfold Identifier.quote
  split
  · exact .other rfl rfl
  rename_i hempty
  split
  · rename_i hquote
    have hq : Guard.quotes name ≠ 0 := by simpa [Guard.hasQuote] using hquote
    have hfails : (Fragment.token (.of role name)).passes = false := hpasses.trans (by simp [hq])
    exact Vetted.suspicion (List.mem_singleton_self _) hfails
  rename_i hquote
  split
  · exact .other rfl rfl
  rename_i hsegment
  have hq : Guard.quotes name = 0 := by simpa [Guard.hasQuote] using hquote
  refine .ok fun p hp => ?_
  obtain rfl := List.mem_singleton.1 hp
  exact hpasses.trans (by simp [hempty, hq, hsegment])

/-- The guard looks at the quotes of a fragment only. -/
theorem vetted_checkRaw {p : Fragment} (h : p.passes = true ↔ Guard.quotes p.text % 2 = 0) :
    Vetted [p] (Guard.checkRaw p.text) := by
  unfold Guard.checkRaw
  split
  · rename_i hodd
    have hq : Guard.quotes p.text % 2 = 1 := by simpa [Guard.isUnbalanced] using hodd
    have hfails : p.passes = false := by
      rw [← Bool.not_eq_true, h, hq]
      decide
    exact .suspicion (List.mem_singleton_self p) hfails
  · rename_i heven
    have hq : Guard.quotes p.text % 2 = 0 := by simpa [Guard.isUnbalanced] using heven
    refine .ok fun q hmem => ?_
    obtain rfl := List.mem_singleton.1 hmem
    exact h.2 hq

theorem vetted_emitRaw (sql : String) : Vetted [.token (.raw sql)] (Token.emitRaw sql) := by
  unfold Token.emitRaw
  split
  · exact .other rfl rfl
  rename_i hblank
  have hpasses : (Fragment.token (.raw sql)).passes = true ↔ Guard.quotes sql % 2 = 0 := by
    simp [Fragment.passes, Token.passes, Token.raw, hblank]
  exact (vetted_checkRaw hpasses).bind_nil fun _ => vetted_pure sql

/-- A token that passes by itself needs no check. -/
theorem vetted_of_passes {α : Type} {t : Token} (h : t.passes = true) (a : α) :
    Vetted [.token t] (.ok a : Except Error α) := by
  refine .ok fun p hp => ?_
  obtain rfl := List.mem_singleton.1 hp
  exact h

section

variable (escaper : Escaper)

theorem vetted_emit (t : Token) : Vetted [.token t] (t.emit escaper) := by
  rcases t with ⟨role, text⟩ | _
  · cases role with
    | column => exact vetted_quote rfl
    | reference => exact vetted_quote rfl
    | raw => exact vetted_emitRaw text
    | value => exact vetted_of_passes rfl _
    | literal => exact vetted_of_passes rfl _
    | blank => exact vetted_of_passes rfl _
  · exact vetted_of_passes rfl _

theorem vetted_emitKey (key : Token) : Vetted [.token key] (key.emitKey escaper) := by
  unfold Token.emitKey
  split
  · rename_i h
    exact vetted_of_passes (Token.passes_of_isBlank h) _
  · exact (vetted_emit escaper key).map some

theorem vetted_emitOperand (value : Token) : Vetted [.token value] (value.emitOperand escaper) := by
  unfold Token.emitOperand
  split
  · rename_i h
    cases value with
    | of => cases h
    | null => exact vetted_of_passes rfl _
  · exact (vetted_emit escaper value).map some

/-- Each argument has a place, so each is written. -/
theorem vetted_fill {cs : List Char} {args : List Token} (h : cs.count '?' = args.length) :
    Vetted (args.map .token) (Template.fill escaper cs args) := by
  induction cs generalizing args with
  | nil =>
    obtain rfl := List.eq_nil_of_length_eq_zero h.symm
    exact vetted_pure []
  | cons c cs ih =>
    by_cases hc : c = '?'
    · subst hc
      cases args with
      | nil => simp at h
      | cons arg args =>
        have hrest : cs.count '?' = args.length := by simpa using h
        exact (vetted_emit escaper arg).bind fun text =>
          (ih hrest).bind_nil fun cs' => vetted_pure (text.toList ++ cs')
    · have hrest : cs.count '?' = args.length := by rwa [List.count_cons_of_ne hc] at h
      simp only [Template.fill, hc, false_implies, implies_true]
      exact (ih hrest).bind_nil fun cs' => vetted_pure (c :: cs')

theorem vetted_template (sql : String) (args : List Token) :
    Vetted (.template sql :: args.map .token) (Template.compile escaper sql args) := by
  unfold Template.compile
  dsimp only
  split
  · exact .other rfl rfl
  rename_i hcount
  have hc : sql.toList.count '?' = args.length := by simpa using hcount
  have hpasses : (Fragment.template sql).passes = true ↔ Guard.quotes sql % 2 = 0 := by
    simp [Fragment.passes]
  exact (vetted_checkRaw hpasses).bind fun _ => (vetted_fill escaper hc).bind_nil fun cs => vetted_pure _

/-! ## Filters -/

theorem vetted_equate (key value : Token) : Vetted [.token key, .token value] (key.equate escaper value) := by
  refine (vetted_emitKey escaper key).bind fun lhs => ?_
  split
  · rename_i h
    exact vetted_of_passes (Token.passes_of_isBlank h) _
  · cases lhs with
    | some lhs => exact (vetted_emitOperand escaper value).bind_nil fun _ => vetted_pure _
    | none => exact (vetted_emit escaper value).bind_nil fun _ => vetted_pure _

theorem vetted_call (key : Token) (c : Call) :
    Vetted (.token key :: c.tokens.map .token) (c.compile escaper key) := by
  have hoperator : ∀ keyword, Vetted [] (Operator.ofKeyword keyword) := by
    intro keyword
    unfold Operator.ofKeyword
    split
    · exact vetted_pure _
    · exact .other rfl rfl
  have hcount : ∀ op : Operator, Vetted [] (op.checkOperands c.tokens.length) := by
    intro op
    unfold Operator.checkOperands
    split
    · exact vetted_pure _
    · exact .other rfl rfl
  have hoperands : Vetted (c.tokens.map .token) (c.tokens.mapM (·.emitOperand escaper)) := by
    have hmap : c.tokens.map Fragment.token = c.tokens.flatMap fun t => [.token t] :=
      List.map_eq_flatMap
    rw [hmap]
    exact vetted_mapM (vetted_emitOperand escaper) c.tokens
  exact (hoperator c.operator).bind fun op => (hcount op).bind fun _ =>
    (vetted_emitKey escaper key).bind fun lhs => hoperands.bind_nil fun operands => vetted_pure _

mutual

/-- The induction is on the filter, and follows the order in which its conditions are compiled. -/
theorem vetted_compile : ∀ f : List Entry, Vetted (Filter.fragments f) (Filter.compile escaper f)
  | [] => vetted_pure []
  | ⟨join, key, condition⟩ :: rest =>
    (vetted_condition key condition).bind fun node => (vetted_compile rest).bind_nil fun links =>
      vetted_pure (node.consUnlessEmpty join links)
termination_by structural f => f

theorem vetted_condition (key : Token) : ∀ c : Condition,
    Vetted (Condition.fragments key c) (c.compile escaper key)
  | .equals value => vetted_equate escaper key value
  | .call c => (vetted_call escaper key c).bind_nil fun comparison => vetted_pure (Node.comparison comparison)
  | .choice branches => (vetted_branches branches).bind_nil fun ⟨disjuncts, conjuncts⟩ =>
      vetted_pure (Node.group (Choice.join disjuncts conjuncts))
  | .template sql args => (vetted_template escaper sql args).bind fun text =>
      (vetted_emitKey escaper key).bind_nil fun
        | some lhs => vetted_pure (Node.fragment (lhs ++ " " ++ text))
        | none => vetted_pure (Node.fragment text)
termination_by structural c => c

theorem vetted_branches : ∀ bs : List Branch, Vetted (Branch.fragmentsAll bs) (Branch.compileAll escaper bs)
  | [] => vetted_pure ([], [])
  | .any key items :: rest => (vetted_disjuncts key items).bind fun nodes =>
      (vetted_branches rest).bind_nil fun ⟨disjuncts, conjuncts⟩ => vetted_pure (nodes ++ disjuncts, conjuncts)
  | .all key condition :: rest => (vetted_condition key condition).bind fun node =>
      (vetted_branches rest).bind_nil fun ⟨disjuncts, conjuncts⟩ => vetted_pure (disjuncts, node :: conjuncts)
termination_by structural bs => bs

theorem vetted_disjuncts (key : Token) : ∀ ds : List Disjunct,
    Vetted (Disjunct.fragmentsAll key ds) (Disjunct.compileAll escaper key ds)
  | [] => vetted_pure []
  | item :: rest => (vetted_disjunct key item).bind fun node => (vetted_disjuncts key rest).bind_nil fun nodes =>
      vetted_pure (node :: nodes)
termination_by structural ds => ds

theorem vetted_disjunct (key : Token) : ∀ d : Disjunct,
    Vetted (Disjunct.fragments key d) (d.compile escaper key)
  | .equals value => vetted_equate escaper key value
  | .call c => (vetted_call escaper key c).bind_nil fun comparison => vetted_pure (Node.comparison comparison)
  | .filter entries => (vetted_compile entries).bind_nil fun links => vetted_pure (Node.group links)
termination_by structural d => d

end

/-! ## Parts of statements -/

end

section

variable (c : Compiler)

theorem vetted_table (t : Token) : Vetted [.token t] (c.table t) := by
  unfold Compiler.table
  split
  · exact .other rfl rfl
  · exact vetted_emit c.escaper t

/-- Blank columns are left out, and pass by themselves. -/
theorem vetted_columnList (columns : List Token) :
    Vetted (columns.map .token) (Select.columnList c columns) := by
  have hpresent : Vetted ((columns.filter fun t => !t.isBlank).flatMap fun t => [.token t])
      ((columns.filter fun t => !t.isBlank).mapM c.emit) :=
    vetted_mapM (vetted_emit c.escaper) _
  rw [← List.map_eq_flatMap] at hpresent
  have hall : Vetted (columns.map .token) ((columns.filter fun t => !t.isBlank).mapM c.emit) := by
    refine hpresent.of_subset ?_ ?_
    · intro p hp
      obtain ⟨t, ht, rfl⟩ := List.mem_map.1 hp
      exact List.mem_map_of_mem (List.mem_of_mem_filter ht)
    · intro p hp
      obtain ⟨t, ht, rfl⟩ := List.mem_map.1 hp
      cases hb : t.isBlank with
      | true => exact .inr (Token.passes_of_isBlank hb)
      | false => exact .inl (List.mem_map_of_mem (List.mem_filter.2 ⟨ht, by rw [hb]; rfl⟩))
  exact hall.bind_nil fun texts => vetted_pure (if texts.isEmpty then "*" else ", ".intercalate texts)

theorem vetted_orderList (order : List (Token × Direction)) :
    Vetted (order.map fun o => .token o.1) (Select.orderList c order) := by
  have hcolumn : ∀ o : Token × Direction, Vetted [.token o.1]
      (do return (← c.emit o.1) ++ " " ++ o.2.keyword : Except Error String) := fun o =>
    (vetted_emit c.escaper o.1).bind_nil fun text => vetted_pure (text ++ " " ++ o.2.keyword)
  rw [List.map_eq_flatMap]
  exact (vetted_mapM hcolumn order).bind_nil fun texts =>
    vetted_pure (if texts.isEmpty then "" else " ORDER BY " ++ ", ".intercalate texts)

theorem vetted_assignmentList (assignments : List (Token × Token)) :
    Vetted (assignments.flatMap fun a => [.token a.1, .token a.2]) (Update.assignmentList c assignments) := by
  have hassignment : ∀ a : Token × Token, Vetted [.token a.1, .token a.2] (Update.assignment c a.1 a.2) := fun a =>
    (vetted_emit c.escaper a.1).bind fun column => (vetted_emit c.escaper a.2).bind_nil fun value =>
      vetted_pure (column ++ " = " ++ value)
  unfold Update.assignmentList
  split
  · exact .other rfl rfl
  · exact (vetted_mapM hassignment assignments).bind_nil fun texts => vetted_pure (", ".intercalate texts)

/-- A row without one of the columns is refused for another reason. -/
theorem vetted_tuple (columns : List String) (i : Nat) (row : InsertRow) :
    Vetted ((columns.filterMap fun column => row.lookup column).map .token) (Insert.tuple c columns i row) := by
  unfold Insert.tuple
  split
  · exact .other rfl rfl
  rw [List.filterMap_eq_flatMap_toList, List.map_flatMap]
  refine (vetted_mapM (fun column => ?_) columns).bind_nil fun values => vetted_pure _
  cases row.lookup column with
  | some value => exact vetted_emit c.escaper value
  | none => exact .other rfl rfl

theorem vetted_tuples (columns : List String) (i : Nat) (rows : List InsertRow) :
    Vetted ((rows.flatMap fun row => columns.filterMap fun column => row.lookup column).map .token)
      (Insert.tuples c columns i rows) := by
  induction rows generalizing i with
  | nil => exact vetted_pure []
  | cons row rows ih =>
    rw [List.flatMap_cons, List.map_append]
    exact (vetted_tuple c columns i row).bind fun text => (ih (i + 1)).bind_nil fun texts =>
      vetted_pure (text :: texts)

end

/-! ## Statements -/

section

variable (escaper : Escaper)

/-- Where suspicions are raised, a filter has a clause or ends the statement. -/
theorem result_raise_filter_bind {β : Type} (f : Filter) (rest : Clause → Logged β) :
    (Compiler.filter ⟨escaper, .raise⟩ f >>= rest).result =
      Filter.compile escaper f >>= fun links => (rest (.of links)).result := by
  rw [Logged.result_bind, Compiler.filter_raise]
  exact bind_map_left _ _ _

theorem guarded_raise (kind : Kind) (x : Logged Statement) : Compiler.guarded ⟨escaper, .raise⟩ kind x = x := by
  simp [Compiler.guarded, Compiler.onSuspicion]

theorem vetted_select (q : Select) : Vetted q.fragments (q.build ⟨escaper, .raise⟩).result := by
  rw [Select.build, guarded_raise, Select.compile, Logged.result_bind]
  refine (vetted_table ⟨escaper, .raise⟩ q.table).bind fun table => ?_
  rw [result_raise_filter_bind]
  exact (vetted_compile escaper q.filter).bind fun links =>
    (vetted_columnList ⟨escaper, .raise⟩ q.columns).bind fun columns =>
      (vetted_orderList ⟨escaper, .raise⟩ q.order).bind_nil fun order => vetted_pure _

theorem vetted_insert (q : Insert) : Vetted q.fragments (q.build ⟨escaper, .raise⟩).result := by
  have hnames : Vetted ((q.columns.map Token.column).map .token)
      (q.columns.mapM fun column => Compiler.emit ⟨escaper, .raise⟩ (.column column)) := by
    rw [List.map_map, List.map_eq_flatMap]
    exact vetted_mapM (fun column => vetted_emit escaper (.column column)) q.columns
  rw [Insert.build, guarded_raise, Insert.fragments, Insert.tokens, List.map_append]
  refine (vetted_table ⟨escaper, .raise⟩ q.table).bind fun table => ?_
  dsimp only
  split
  · exact .other rfl rfl
  · exact hnames.bind fun names => (vetted_tuples ⟨escaper, .raise⟩ q.columns 0 q.rows).bind_nil fun texts =>
      vetted_pure _

theorem vetted_update (q : Update) : Vetted q.fragments (q.build ⟨escaper, .raise⟩).result := by
  rw [Update.build, guarded_raise, Update.compile, Logged.result_bind]
  refine (vetted_table ⟨escaper, .raise⟩ q.table).bind fun table => ?_
  rw [Logged.result_bind]
  refine (vetted_assignmentList ⟨escaper, .raise⟩ q.assignments).bind fun assignments => ?_
  rw [result_raise_filter_bind]
  exact (vetted_compile escaper q.filter).bind_nil fun links => vetted_pure _

theorem vetted_delete (q : Delete) : Vetted q.fragments (q.build ⟨escaper, .raise⟩).result := by
  rw [Delete.build, guarded_raise, Delete.compile, Logged.result_bind]
  refine (vetted_table ⟨escaper, .raise⟩ q.table).bind fun table => ?_
  rw [result_raise_filter_bind]
  exact (vetted_compile escaper q.filter).bind_nil fun links => vetted_pure _

theorem vetted_build (q : Command) : Vetted q.fragments (q.build ⟨escaper, .raise⟩).result := by
  cases q with
  | select q => exact vetted_select escaper q
  | insert q => exact vetted_insert escaper q
  | update q => exact vetted_update escaper q
  | delete q => exact vetted_delete escaper q

/-- Nothing but a refusal keeps a statement from being built. -/
theorem isRefusal_build (c : Compiler) (q : Command) {e : Error} (h : (q.build c).result = .error e) :
    e.isRefusal = true := by
  obtain ⟨escaper, policy⟩ := c
  have hvetted := vetted_build escaper q
  cases policy with
  | raise => exact hvetted.isRefusal h
  | void =>
    have hsoftened := Compiler.softened_build escaper q
    generalize q.build ⟨escaper, .raise⟩ = raised at hsoftened hvetted
    generalize q.build ⟨escaper, .void⟩ = voiding at hsoftened h
    cases hsoftened with
    | same => exact hvetted.isRefusal h
    | voided => cases h

/-- What becomes of a statement with these fragments. -/
inductive Covered (policy : Policy) (kind : Kind) (ps : List Fragment) : Except Error Statement → Prop
  | ready {sql : String} {k : Kind} {labels : List Label} (h : ∀ p ∈ ps, p.passes = true) :
      Covered policy kind ps (.ok (.ready sql k labels))
  | suspicion {fragment : String} (h : ∃ p ∈ ps, p.passes = false) :
      Covered policy kind ps (.error (.suspicious fragment))
  | voided (hp : policy = .void) (h : ∃ p ∈ ps, p.passes = false) : Covered policy kind ps (.ok (.voided kind))
  | other {e : Error} (h : e.isSuspicion = false) : Covered policy kind ps (.error e)

/-- Where both policies give the same, nothing is voided. -/
theorem Vetted.covered {policy : Policy} {kind : Kind} {ps : List Fragment} {r : Except Error Statement}
    (h : Vetted ps r) (hr : Gives (·.isVoided = false) r) : Covered policy kind ps r := by
  cases h with
  | @ok s hps =>
    cases s with
    | ready => exact .ready hps
    | voided => cases hr _ rfl
  | suspicion hp h => exact .suspicion ⟨_, hp, h⟩
  | other _ h => exact .other h

theorem covered_of_softened {kind : Kind} {ps : List Fragment} {raised voiding : Logged Statement}
    (hs : Softened Statement.isVoided (.voided kind) raised voiding) (hv : Vetted ps raised.result) :
    Covered .raise kind ps raised.result ∧ Covered .void kind ps voiding.result := by
  cases hs with
  | same _ hr => exact ⟨hv.covered hr, hv.covered hr⟩
  | voided =>
    refine ⟨hv.covered fun _ h => (by cases h), ?_⟩
    cases hv with
    | suspicion hp h => exact .voided rfl ⟨_, hp, h⟩
    | other _ h => cases h

theorem covered_build (c : Compiler) (q : Command) : Covered c.policy q.kind q.fragments (q.build c).result := by
  obtain ⟨escaper, policy⟩ := c
  have h := covered_of_softened (Compiler.softened_build escaper q) (vetted_build escaper q)
  cases policy with
  | raise => exact h.1
  | void => exact h.2

/-- Whatever a statement writes without escaping is a fragment of it. Once the statement has a text, all of its
fragments have passed their checks. If one has not, there is an error, or the statement is voided where suspicions
void; and no other than such a fragment makes a suspicion. -/
theorem fragments_pass (c : Compiler) (q : Command) :
    (∀ t ∈ q.tokens, .token t ∈ q.fragments) ∧
    (∀ sql kind labels, (q.build c).result = .ok (.ready sql kind labels) →
      ∀ p ∈ q.fragments, p.passes = true) ∧
    ((∃ p ∈ q.fragments, p.passes = false) →
      (∃ e, (q.build c).result = .error e) ∨ c.policy = .void ∧ (q.build c).result = .ok (.voided q.kind)) ∧
    ((∃ fragment, (q.build c).result = .error (.suspicious fragment)) ∨
        (q.build c).result = .ok (.voided q.kind) →
      ∃ p ∈ q.fragments, p.passes = false) := by
  have h := covered_build c q
  generalize (q.build c).result = r at h ⊢
  refine ⟨fun t => token_mem_fragments, ?_⟩
  cases h with
  | ready h =>
    refine ⟨fun _ _ _ _ => h, fun ⟨p, hp, hf⟩ => ?_, fun hr => ?_⟩
    · rw [h p hp] at hf
      cases hf
    · rcases hr with ⟨_, hr⟩ | hr <;> cases hr
  | suspicion h => exact ⟨fun _ _ _ hr => (by cases hr), fun _ => .inl ⟨_, rfl⟩, fun _ => h⟩
  | voided hp h => exact ⟨fun _ _ _ hr => (by cases hr), fun _ => .inr ⟨hp, rfl⟩, fun _ => h⟩
  | other he =>
    refine ⟨fun _ _ _ hr => (by cases hr), fun _ => .inl ⟨_, rfl⟩, fun hr => ?_⟩
    rcases hr with ⟨_, hr⟩ | hr <;> cases hr
    cases he

/-- The literal of a template deep in a filter, closed and left open. -/
theorem fragments_pass_template :
    let q (sql : String) : Command := .delete {
      table := .column "t"
      filter := [⟨.and, .blank, .choice [.any .blank [.filter [⟨.and, .blank, .template sql [.data "5"]⟩]]]⟩] }
    let closed := q "s = 'open' AND n = ?"
    let unclosed := q "s = 'open AND n = ?"
    let void : Compiler := ⟨Literal.escape, .void⟩
    ((closed.build {}).result = .ok (.ready "DELETE FROM `t` WHERE ((s = 'open' AND n = '5'))" .delete []) ∧
      ∀ p ∈ closed.fragments, p.passes = true) ∧
    (∃ p ∈ unclosed.fragments, p.passes = false) ∧
    ((∃ e, (unclosed.build void).result = .error e) ∨ Policy.void = .void ∧
      (unclosed.build void).result = .ok (.voided .delete)) := by
  intro q closed unclosed void
  have hclosed : (closed.build {}).result =
      .ok (.ready "DELETE FROM `t` WHERE ((s = 'open' AND n = '5'))" .delete []) := by decide +kernel
  have hunclosed : (unclosed.build void).result = .ok (.voided .delete) := rfl
  have hfails := (fragments_pass void unclosed).2.2.2 (.inr hunclosed)
  exact ⟨⟨hclosed, (fragments_pass {} closed).2.1 _ _ _ hclosed⟩, hfails,
    (fragments_pass void unclosed).2.2.1 hfails⟩

end

end GuardedSql
