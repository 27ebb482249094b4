import GuardedSql.FreshId
import GuardedSql.Proofs.Runs
import Mathlib.Logic.Function.Basic

/-!
# The search among candidates

A check is asked about one candidate after the other. It may change its state with each call, so the order of the
calls and their number can be told from what it does. Both searches ask it in the same order: one gives up where
the check fails, and reports the candidates that are taken; the other one is for checks that do not fail.

- `find?_eq_search`: the two searches are one where nothing is reported.
- `Ends`: how the answers of a check end a search.
- `search_run`: a search ends so, with the calls up to there, and no others.
- `salted_injective`: no two attempts hash the same text.
- `exists_candidates_eq`: so some hash gives the attempts whatever digests one likes.
- `searches_end`: this of both searches, with every hash.
-/

namespace GuardedSql.FreshId

/-! ## One loop for both searches -/

theorem find?_eq_search {m : Type → Type} [Monad m] [LawfulMonad m] (taken : String → m Bool) (seed : String)
    (length attempts : Nat) (hash : String → List Char) :
    find? taken seed length attempts hash = search taken (fun _ _ => pure ()) seed length attempts hash := by
  unfold find? search
  simp only [Std.Legacy.Range.forIn_eq_forIn_range', Std.Legacy.Range.size, Nat.sub_zero, Nat.add_sub_cancel,
    Nat.div_one]
  generalize 0 = attempt
  induction attempts generalizing attempt with
  | zero => simp [searchFrom]
  | succ attempts ih =>
    rw [List.range'_succ, List.forIn_cons, searchFrom]
    simp only [bind_assoc]
    refine bind_congr fun answer => ?_
    cases answer with
    | false => simp
    | true => simpa using ih (attempt + 1)

/-! ## Checks with a state -/

/-- A check of identifiers with a state of its own, which may fail. -/
abbrev Check (σ ε : Type) := String → σ → Except ε Bool × σ

variable {σ ε : Type}

/-- A check that does not fail. -/
def Check.ofSure (check : String → σ → Bool × σ) : Check σ ε := fun id s =>
  ((.ok (check id s).1), (check id s).2)

/-- Asks a check about an identifier. Beside the state of the check stand the identifiers that it has been asked
about so far. -/
def ask (check : Check σ ε) (id : String) : Session (σ × List String) ε Bool := fun s =>
  ⟨(check id s.1).1, ((check id s.1).2, s.2 ++ [id]), []⟩

section

variable (check : Check σ ε) (ids : Nat → String) (s : σ)

/-- The state of the check after a number of calls, for one identifier after the other. -/
def stateAfter : (calls : Nat) → σ
  | 0 => s
  | calls + 1 => (check (ids calls) (stateAfter calls)).2

/-- What the check says of the identifier of an attempt, if it has been asked about those before. -/
def answerAt (attempt : Nat) : Except ε Bool :=
  (check (ids attempt) (stateAfter check ids s attempt)).1

/-- The state after a number of calls, and the identifiers that they are about. -/
def asked (calls : Nat) : σ × List String :=
  (stateAfter check ids s calls, (List.range calls).map ids)

end

/-- How the answers to `attempts` attempts end a search: the number of identifiers that are taken, the number of
calls, and the attempt that has found one that is not, if there is one. -/
inductive Ends (answers : Nat → Except ε Bool) (attempts : Nat) :
    (taken calls : Nat) → Except ε (Option Nat) → Prop
  | free {k : Nat} (hk : k < attempts) (htaken : ∀ i < k, answers i = .ok true) (hfree : answers k = .ok false) :
    Ends answers attempts k (k + 1) (.ok (some k))
  | failed {k : Nat} {e : ε} (hk : k < attempts) (htaken : ∀ i < k, answers i = .ok true)
    (hfails : answers k = .error e) : Ends answers attempts k (k + 1) (.error e)
  | exhausted (htaken : ∀ i < attempts, answers i = .ok true) :
    Ends answers attempts attempts attempts (.ok none)

theorem exists_ends (answers : Nat → Except ε Bool) (attempts : Nat) :
    ∃ taken calls outcome, Ends answers attempts taken calls outcome := by
  induction attempts with
  | zero => exact ⟨0, 0, _, .exhausted fun i hi => absurd hi i.not_lt_zero⟩
  | succ attempts ih =>
    obtain ⟨taken, calls, outcome, h⟩ := ih
    cases h with
    | free hk htaken hfree => exact ⟨_, _, _, .free (Nat.lt_succ_of_lt hk) htaken hfree⟩
    | failed hk htaken hfails => exact ⟨_, _, _, .failed (Nat.lt_succ_of_lt hk) htaken hfails⟩
    | exhausted htaken =>
      cases h : answers attempts with
      | error e => exact ⟨_, _, _, .failed attempts.lt_succ_self htaken h⟩
      | ok answer =>
        cases answer with
        | false => exact ⟨_, _, _, .free attempts.lt_succ_self htaken h⟩
        | true =>
          refine ⟨_, _, _, .exhausted fun i hi => ?_⟩
          rcases Nat.lt_succ_iff_lt_or_eq.1 hi with hi | rfl
          · exact htaken i hi
          · exact h

/-! ## Runs -/

/-- The identifiers that a search goes through. -/
abbrev candidates (seed : String) (length : Nat) (hash : String → List Char) (attempt : Nat) : String :=
  candidate seed attempt length hash

/-- What is told of the identifiers that are taken. -/
def telling (tell : Nat → String → List Event) (attempt : Nat) (id : String) : Session (σ × List String) ε Unit :=
  fun s => ⟨.ok (), s, tell attempt id⟩

/-- What is told of the identifiers of the first attempts. -/
def told (tell : Nat → String → List Event) (ids : Nat → String) (taken : Nat) : List Event :=
  (List.range taken).flatMap fun attempt => tell attempt (ids attempt)

theorem ask_run (check : Check σ ε) (ids : Nat → String) (s : σ) (attempt : Nat) :
    ask check (ids attempt) (asked check ids s attempt) =
      ⟨answerAt check ids s attempt, asked check ids s (attempt + 1), []⟩ := by
  rw [asked, asked, List.range_succ, List.map_append]
  rfl

section

variable (tell : Nat → String → List Event) {check : Check σ ε} {seed : String} {length : Nat}
  {hash : String → List Char} {s : σ}

/-- The first step of a search, where it finds the identifier taken. -/
theorem searchFrom_of_taken {attempt : Nat}
    (h : answerAt check (candidates seed length hash) s attempt = .ok true) (attempts : Nat) :
    searchFrom (ask check) (telling tell) seed length attempt (attempts + 1) hash
        (asked check (candidates seed length hash) s attempt) =
      (searchFrom (ask check) (telling tell) seed length (attempt + 1) attempts hash
        (asked check (candidates seed length hash) s (attempt + 1))).after
          (tell attempt (candidates seed length hash attempt)) := by
  have hask := ask_run check (candidates seed length hash) s attempt
  rw [h] at hask
  rw [searchFrom, Session.bind_of_ok hask, if_pos rfl]
  rfl

/-- A search goes through the attempts that find their identifiers taken. -/
theorem search_of_taken {k : Nat}
    (h : ∀ i < k, answerAt check (candidates seed length hash) s i = .ok true) (attempts : Nat) :
    search (ask check) (telling tell) seed length (k + attempts) hash (s, []) =
      (searchFrom (ask check) (telling tell) seed length k attempts hash
        (asked check (candidates seed length hash) s k)).after (told tell (candidates seed length hash) k) := by
  induction k generalizing attempts with
  | zero =>
    rw [Nat.zero_add]
    rfl
  | succ k ih =>
    have hk := ih (fun i hi => h i (Nat.lt_succ_of_lt hi)) (attempts + 1)
    have htold : told tell (candidates seed length hash) (k + 1) =
        told tell (candidates seed length hash) k ++ tell k (candidates seed length hash k) := by
      rw [told, List.range_succ, List.flatMap_append, List.flatMap_singleton]
      rfl
    rw [Nat.add_right_comm, Nat.add_assoc, hk, searchFrom_of_taken tell (h k k.lt_succ_self), htold]
    simp [Run.after]

/-- A search ends as the answers of the check say. The check has been asked about the identifiers up to there, in
their order, and those that are taken have been told of. -/
theorem search_run {attempts taken calls : Nat} {outcome : Except ε (Option Nat)}
    (h : Ends (answerAt check (candidates seed length hash) s) attempts taken calls outcome) :
    search (ask check) (telling tell) seed length attempts hash (s, []) =
      ⟨outcome.map (Option.map (candidates seed length hash)), asked check (candidates seed length hash) s calls,
        told tell (candidates seed length hash) taken⟩ := by
  cases h with
  | free hk htaken hfree =>
    obtain ⟨rest, rfl⟩ := Nat.exists_eq_add_of_lt hk
    have hask := ask_run check (candidates seed length hash) s taken
    rw [hfree] at hask
    rw [Nat.add_assoc, search_of_taken tell htaken, searchFrom, Session.bind_of_ok hask]
    simp [Except.map]
  | failed hk htaken hfails =>
    obtain ⟨rest, rfl⟩ := Nat.exists_eq_add_of_lt hk
    have hask := ask_run check (candidates seed length hash) s taken
    rw [hfails] at hask
    rw [Nat.add_assoc, search_of_taken tell htaken, searchFrom, Session.bind_of_error hask]
    simp [Except.map]
  | exhausted htaken =>
    have hsearch := search_of_taken tell htaken 0
    rw [Nat.add_zero] at hsearch
    rw [hsearch, searchFrom]
    simp [Except.map]

/-- The other search ends in the same way, and tells nothing. -/
theorem find?_run {attempts taken calls : Nat} {outcome : Except ε (Option Nat)}
    (h : Ends (answerAt check (candidates seed length hash) s) attempts taken calls outcome) :
    find? (ask check) seed length attempts hash (s, []) =
      ⟨outcome.map (Option.map (candidates seed length hash)), asked check (candidates seed length hash) s calls,
        []⟩ := by
  have hlawful : LawfulMonad (Session (σ × List String) ε) := Session.lawfulMonad
  have hnothing : told (fun _ _ => []) (candidates seed length hash) taken = [] := by simp [told]
  rw [find?_eq_search, ← hnothing]
  exact search_run (fun _ _ => []) h

end

/-! ## The texts that are hashed -/

theorem toList_salted (seed : String) (attempt : Nat) :
    (salted seed attempt).toList = seed.toList ++ if attempt = 0 then [] else Nat.toDigits 10 attempt := by
  unfold salted
  split
  · rw [List.append_nil]
  · rw [String.toList_append, Nat.toString_eq_repr, Nat.toList_repr]

theorem salted_injective (seed : String) : Function.Injective (salted seed) := by
  intro i j h
  have htail := congrArg String.toList h
  rw [toList_salted, toList_salted, List.append_cancel_left_eq] at htail
  split at htail <;> split at htail
  · omega
  · exact absurd htail.symm Nat.toDigits_ne_nil
  · exact absurd htail Nat.toDigits_ne_nil
  · have hvalue := congrArg (Nat.ofDigitChars 10 · 0) htail
    simpa only [Nat.ofDigitChars_ten_toDigits] using hvalue

theorem candidates_eq (seed : String) (length : Nat) (hash : String → List Char) (attempt : Nat) :
    candidates seed length hash attempt = String.ofList ((hash (salted seed attempt)).take (min length maxLength)) :=
  rfl

theorem exists_candidates_eq (seed : String) (length : Nat) (digests : Nat → List Char) :
    ∃ hash, ∀ attempt,
      candidates seed length hash attempt = String.ofList ((digests attempt).take (min length maxLength)) := by
  refine ⟨Function.extend (salted seed) digests fun _ => [], fun attempt => ?_⟩
  rw [candidates_eq, (salted_injective seed).extend_apply]

/-! ## Both searches -/

/-- What the searches report of an identifier that is taken. -/
def report (attempt : Nat) (id : String) : Session (σ × List String) ε Unit :=
  Session.notice (.idTaken attempt id)

/-- With every hash: an attempt's candidate is a beginning of the digest of its salted text, and different attempts
have different texts, so that there are hashes which give the attempts any digests that one likes. The two searches,
with the same check that does not fail, ask it about the same identifiers in the same order and give the same one,
that of the first attempt at which it is not taken, if there is one. With a check that may fail the search ends in the
same way, or with the first error before. -/
theorem searches_end (hash : String → List Char) (seed : String) (length attempts : Nat) :
    (∀ attempt,
      candidates seed length hash attempt = String.ofList ((hash (salted seed attempt)).take (min length maxLength))) ∧
    Function.Injective (salted seed) ∧
    (∀ digests : Nat → List Char, ∃ hash', ∀ attempt,
      candidates seed length hash' attempt = String.ofList ((digests attempt).take (min length maxLength))) ∧
    let ids : Nat → String := candidates seed length hash
    (∀ (check : String → σ → Bool × σ) (s : σ),
      let sure : Check σ ε := .ofSure check
      ∃ taken calls found, Ends (answerAt sure ids s) attempts taken calls (.ok found) ∧
        find? (ask sure) seed length attempts hash (s, []) = ⟨.ok (found.map ids), asked sure ids s calls, []⟩ ∧
        search (ask sure) report seed length attempts hash (s, []) =
          ⟨.ok (found.map ids), asked sure ids s calls,
            told (fun attempt id => [.noticed (.idTaken attempt id)]) ids taken⟩) ∧
    (∀ (check : Check σ ε) (s : σ),
      ∃ taken calls outcome, Ends (answerAt check ids s) attempts taken calls outcome ∧
        search (ask check) report seed length attempts hash (s, []) =
          ⟨outcome.map (Option.map ids), asked check ids s calls,
            told (fun attempt id => [.noticed (.idTaken attempt id)]) ids taken⟩) := by
  have hreport : (report : Nat → String → Session (σ × List String) ε Unit) =
      telling fun attempt id => [.noticed (.idTaken attempt id)] := rfl
  refine ⟨candidates_eq seed length hash, salted_injective seed, exists_candidates_eq seed length,
    fun check s => ?_, fun check s => ?_⟩
  · intro sure
    obtain ⟨taken, calls, outcome, h⟩ := exists_ends (answerAt sure (candidates seed length hash) s) attempts
    cases outcome with
    | error e =>
      cases h with
      | failed _ _ hfails => cases hfails
    | ok found => exact ⟨taken, calls, found, h, find?_run h, hreport ▸ search_run _ h⟩
  · obtain ⟨taken, calls, outcome, h⟩ := exists_ends (answerAt check (candidates seed length hash) s) attempts
    exact ⟨taken, calls, outcome, h, hreport ▸ search_run _ h⟩

end GuardedSql.FreshId
