import GuardedSql.Proofs.Recovery

/-!
# The search for an identifier

An identifier is looked for by probes, one for each candidate in turn, until one of them finds no row. An
identifier is given only if its own probe was answered, and answered without rows.

- `Search`: the course of a search, attempt by attempt.
- `Client.searchFrom_run`: every search has one.
- `Client.freshId_soundings`: what is sent, and what the result says of the answers.
-/

namespace GuardedSql

variable {σ ε α : Type}

/-! ## What is asked of the connection -/

namespace Event

def request? : Event → Option Request
  | .called r _ => some r
  | _ => none

/-- The calls of the connection among the events. -/
def requests (events : List Event) : List Request :=
  events.filterMap request?

@[simp] theorem requests_append (es es' : List Event) : requests (es ++ es') = requests es ++ requests es' :=
  List.filterMap_append

@[simp] theorem requests_withoutNotices (es : List Event) : requests (withoutNotices es) = requests es := by
  rw [requests, requests, withoutNotices, List.filterMap_filter]
  congr 1
  funext e
  cases e <;> rfl

/-- Notices ask for nothing. -/
theorem requests_of_notices {es : List Event} (h : withoutNotices es = []) : requests es = [] := by
  rw [← requests_withoutNotices, h]
  rfl

end Event

/-- An answer with one row at least. -/
def Reply.hasRows : Reply → Bool
  | .rows found => !found.isEmpty
  | .affected _ | .empty => false

/-- A probe that has been sent, with the connection's answer. -/
structure Sounding where
  sql : String
  answer : Except Error Reply

namespace Sounding

/-- The probe was answered, and has found a row. -/
def isTaken (x : Sounding) : Bool :=
  match x.answer with
  | .ok reply => reply.hasRows
  | .error _ => false

/-- The probe was answered, and has found none. -/
def isFree (x : Sounding) : Bool :=
  match x.answer with
  | .ok reply => !reply.hasRows
  | .error _ => false

end Sounding

/-! ## The course of a search -/

section

variable (client : Client σ) (table column seed : String)

/-- The identifier that is tried at an attempt. -/
def Client.candidate (attempt : Nat) : String :=
  FreshId.candidate seed attempt client.config.freshId.length

/-- The text that is built to look for the identifier of an attempt. -/
def Client.Builds (attempt : Nat) (s : σ) (sql : String) : Prop :=
  ∃ kind labels, (client.compile (probe table column (client.candidate seed attempt)) s).result =
    .ok (.ready sql kind labels)

/-- Probes for the candidates from an attempt on, one after the other, each built and answered in the state that
the one before has left. -/
inductive Soundings : (attempt : Nat) → σ → List Sounding → σ → Prop
  | nil (attempt : Nat) (s : σ) : Soundings attempt s [] s
  | cons {attempt : Nat} {s s' s'' : σ} {x : Sounding} {xs : List Sounding}
      (hbuilt : client.Builds table column seed attempt s x.sql)
      (hanswer : client.connection.execute x.sql s = (x.answer, s'))
      (hrest : Soundings (attempt + 1) s' xs s'') : Soundings attempt s (x :: xs) s''

/-- A search from an attempt on, with so many attempts: the probes that it sends, and its result. -/
inductive Search : (attempt attempts : Nat) → σ → List Sounding → Except Error (Option String) → σ → Prop
  | exhausted (attempt : Nat) (s : σ) : Search attempt 0 s [] (.ok none) s
  | unready {attempt : Nat} (attempts : Nat) {s : σ} (e : Error)
      (h : client.Unready table column (client.candidate seed attempt) s) :
      Search attempt (attempts + 1) s [] (.error e) s
  | failed {attempt : Nat} (attempts : Nat) {s s' : σ} {sql : String} {e : Error}
      (hbuilt : client.Builds table column seed attempt s sql)
      (hanswer : client.connection.execute sql s = (.error e, s')) :
      Search attempt (attempts + 1) s [⟨sql, .error e⟩] (.error (e.naming sql)) s'
  | free {attempt : Nat} (attempts : Nat) {s s' : σ} {sql : String} {reply : Reply}
      (hbuilt : client.Builds table column seed attempt s sql)
      (hanswer : client.connection.execute sql s = (.ok reply, s')) (hrows : reply.hasRows = false) :
      Search attempt (attempts + 1) s [⟨sql, .ok reply⟩] (.ok (some (client.candidate seed attempt))) s'
  | taken {attempt attempts : Nat} {s s' s'' : σ} {sql : String} {reply : Reply} {xs : List Sounding}
      {result : Except Error (Option String)} (hbuilt : client.Builds table column seed attempt s sql)
      (hanswer : client.connection.execute sql s = (.ok reply, s')) (hrows : reply.hasRows = true)
      (hrest : Search (attempt + 1) attempts s' xs result s'') :
      Search attempt (attempts + 1) s (⟨sql, .ok reply⟩ :: xs) result s''

end

namespace Client

variable {client : Client σ} {table column seed : String} {attempt : Nat} {s : σ}

/-- A probe can be built, or cannot be sent. -/
theorem builds_or_unready (client : Client σ) (table column seed : String) (attempt : Nat) (s : σ) :
    (∃ sql, client.Builds table column seed attempt s sql) ∨
      client.Unready table column (client.candidate seed attempt) s := by
  cases h : (client.compile (probe table column (client.candidate seed attempt)) s).result with
  | error e =>
    refine .inr fun statement hs => ?_
    rw [h] at hs
    cases hs
  | ok statement =>
    cases statement with
    | ready sql kind labels => exact .inl ⟨sql, kind, labels, h⟩
    | voided kind =>
      refine .inr fun statement hs => ?_
      rw [h] at hs
      cases hs
      rfl

theorem not_unready_of_builds {sql : String} (h : client.Builds table column seed attempt s sql) :
    ¬ client.Unready table column (client.candidate seed attempt) s := by
  obtain ⟨kind, labels, h⟩ := h
  exact fun hunready => nomatch hunready _ h

theorem isEmpty_rows_yieldOf (client : Client σ) (kind : Kind) (reply : Reply) (s : σ) :
    (client.yieldOf kind reply s).rows.isEmpty = !reply.hasRows := by
  cases reply with
  | rows found => cases found <;> rfl
  | affected | empty => rfl

/-- A probe that is built is sent, and what it gives is read off the answer. -/
theorem isTaken_of_builds {sql : String} {answer : Except Error Reply} {s' : σ}
    (h : client.Builds table column seed attempt s sql)
    (hanswer : client.connection.execute sql s = (answer, s')) :
    ∃ es, Event.requests es = [.execute sql] ∧
      client.isTaken table column (client.candidate seed attempt) s =
        ⟨(answer.map Reply.hasRows).mapError (·.naming sql), s', es⟩ := by
  obtain ⟨kind, labels, h⟩ := h
  obtain ⟨notices, hnotices, hcompile⟩ :=
    client.compile_run (probe table column (client.candidate seed attempt)) s
  rw [h] at hcompile
  rw [isTaken, Session.bind_of_ok hcompile]
  dsimp only
  cases answer with
  | error e =>
    rw [Session.bind_of_error (client.send_of_error hanswer kind), Run.after_mk]
    exact ⟨_, by rw [Event.requests_append, Event.requests_of_notices hnotices]; rfl, rfl⟩
  | ok reply =>
    rw [Session.bind_of_ok (client.send_of_reply hanswer kind), isEmpty_rows_yieldOf, Bool.not_not,
      Session.pure_run, Run.after_mk, Run.after_mk]
    exact ⟨_, by rw [Event.requests_append, Event.requests_of_notices hnotices]; rfl, rfl⟩

/-- The search that `attempts` attempts from `attempt` on make. -/
abbrev searchFrom (client : Client σ) (table column seed : String) (attempt attempts : Nat) :
    Session σ Error (Option String) :=
  FreshId.searchFrom (client.isTaken table column) (fun attempt id => Session.notice (.idTaken attempt id)) seed
    client.config.freshId.length attempt attempts

/-- Every search has its course. -/
theorem searchFrom_run (client : Client σ) (table column seed : String) (attempt attempts : Nat) (s : σ) :
    ∃ xs es result s', Search client table column seed attempt attempts s xs result s' ∧
      Event.requests es = xs.map (.execute ·.sql) ∧
      client.searchFrom table column seed attempt attempts s = ⟨result, s', es⟩ := by
  induction attempts generalizing attempt s with
  | zero => exact ⟨[], [], .ok none, s, .exhausted attempt s, rfl, rfl⟩
  | succ attempts ih =>
    rcases client.builds_or_unready table column seed attempt s with ⟨sql, hbuilt⟩ | hunready
    · rcases hanswer : client.connection.execute sql s with ⟨e | reply, s'⟩
      · obtain ⟨es, hes, hrun⟩ := isTaken_of_builds hbuilt hanswer
        exact ⟨_, es, _, s', .failed attempts hbuilt hanswer, hes, Session.bind_of_error hrun _⟩
      · obtain ⟨es, hes, hrun⟩ := isTaken_of_builds hbuilt hanswer
        replace hrun : client.isTaken table column (client.candidate seed attempt) s =
          ⟨.ok reply.hasRows, s', es⟩ := hrun
        cases hrows : reply.hasRows with
        | false =>
          rw [hrows] at hrun
          refine ⟨_, es, _, s', .free attempts hbuilt hanswer hrows, hes, ?_⟩
          refine (Session.bind_of_ok hrun _).trans ?_
          exact congrArg (Run.mk _ s') (List.append_nil es)
        | true =>
          rw [hrows] at hrun
          obtain ⟨xs, es', result, s'', hsearch, hes', hrest⟩ := ih (attempt + 1) s'
          refine ⟨_, es ++ (.noticed (.idTaken attempt (client.candidate seed attempt)) :: es'), result, s'',
            .taken hbuilt hanswer hrows hsearch, ?_, ?_⟩
          · rw [Event.requests_append, hes, List.map_cons, ← hes']
            rfl
          · refine (Session.bind_of_ok hrun _).trans ?_
            rw [if_pos rfl, Session.notice_bind]
            exact congrArg
              (fun run => (run.after [.noticed (.idTaken attempt (client.candidate seed attempt))]).after es) hrest
    · obtain ⟨e, notices, hnotices, hrun⟩ := isTaken_of_unready hunready
      exact ⟨[], notices, .error e, s, .unready attempts e hunready, Event.requests_of_notices hnotices,
        Session.bind_of_error hrun _⟩

end Client

/-! ## What the result says of the answers -/

namespace Search

variable {client : Client σ} {table column seed : String} {attempt attempts : Nat} {s s' : σ}
  {xs : List Sounding} {result : Except Error (Option String)}
  (h : Search client table column seed attempt attempts s xs result s')

include h

theorem soundings : Soundings client table column seed attempt s xs s' := by
  induction h with
  | exhausted attempt s => exact .nil attempt s
  | unready attempts e _ => exact .nil _ _
  | failed _ hbuilt hanswer => exact .cons hbuilt hanswer (.nil _ _)
  | free _ hbuilt hanswer _ => exact .cons hbuilt hanswer (.nil _ _)
  | taken hbuilt hanswer _ _ ih => exact .cons hbuilt hanswer ih

/-- An identifier that is given is that of the last probe, which has found no row. -/
theorem of_found {id : String} (hid : result = .ok (some id)) :
    ∃ taken last, xs = taken ++ [last] ∧ taken.length < attempts ∧
      id = client.candidate seed (attempt + taken.length) ∧ (∀ x ∈ taken, x.isTaken = true) ∧
      last.isFree = true := by
  induction h with
  | exhausted | unready | failed => cases hid
  | free attempts _ _ hrows =>
    cases hid
    exact ⟨[], _, rfl, Nat.zero_lt_succ attempts, rfl, by simp, by simp [Sounding.isFree, hrows]⟩
  | @taken attempt _ _ _ _ _ _ _ _ _ _ hrows _ ih =>
    obtain ⟨taken, last, rfl, hlength, rfl, htaken, hlast⟩ := ih hid
    refine ⟨_ :: taken, last, rfl, Nat.succ_lt_succ hlength, ?_, List.forall_mem_cons.2 ⟨hrows, htaken⟩, hlast⟩
    rw [List.length_cons, Nat.add_assoc, Nat.add_comm 1]

/-- If none is given, every attempt has found a row. -/
theorem of_exhausted (hnone : result = .ok none) : xs.length = attempts ∧ ∀ x ∈ xs, x.isTaken = true := by
  induction h with
  | exhausted => exact ⟨rfl, by simp⟩
  | unready | failed | free => cases hnone
  | taken _ _ hrows _ ih =>
    obtain ⟨hlength, htaken⟩ := ih hnone
    exact ⟨congrArg Nat.succ hlength, List.forall_mem_cons.2 ⟨hrows, htaken⟩⟩

/-- A probe that fails is the last one, and its error is the result. -/
theorem of_failed {before after : List Sounding} {x : Sounding} {e : Error} (hxs : xs = before ++ x :: after)
    (hx : x.answer = .error e) : after = [] ∧ result = .error (e.naming x.sql) := by
  induction h generalizing before with
  | exhausted | unready => simp at hxs
  | failed =>
    obtain ⟨rfl, hxs⟩ | ⟨_, -, hxs⟩ := List.cons_eq_append_iff.1 hxs
    · cases hxs
      cases hx
      exact ⟨rfl, rfl⟩
    · simp at hxs
  | free =>
    obtain ⟨rfl, hxs⟩ | ⟨_, -, hxs⟩ := List.cons_eq_append_iff.1 hxs
    · cases hxs
      cases hx
    · simp at hxs
  | taken _ _ _ _ ih =>
    obtain ⟨rfl, hxs⟩ | ⟨before, -, hxs⟩ := List.cons_eq_append_iff.1 hxs
    · cases hxs
      cases hx
    · exact ih hxs

/-- If a probe cannot be sent, no probe is. -/
theorem of_unready {id : String} {t : σ} (hunready : client.Unready table column id t)
    (hattempts : 0 < attempts) : xs = [] ∧ ∃ e, result = .error e := by
  cases h with
  | exhausted => cases hattempts
  | unready attempts e _ => exact ⟨rfl, e, rfl⟩
  | failed _ hbuilt | free _ hbuilt | taken hbuilt =>
    exact absurd hunready.of (Client.not_unready_of_builds hbuilt)

end Search

/-- The probes that are sent to find an identifier, and what the result says of them. It gives an identifier only
if the last probe, that for the identifier, has found no row and those before it have found some; it gives none
only if all probes have found some. A probe that fails is the last one, and no fallback has a say in the error. If
a probe cannot be sent, none is, and the result is an error. -/
theorem Client.freshId_soundings (client : Client σ) (table column seed : String) (s : σ) :
    let run := client.freshId table column seed s
    let attempts := client.config.freshId.attempts
    (∃ xs, Soundings client table column seed 0 s xs run.state ∧
      Event.requests run.events = xs.map (.execute ·.sql) ∧
      (∀ id, run.result = .ok (some id) → ∃ taken last, xs = taken ++ [last] ∧ taken.length < attempts ∧
        id = client.candidate seed taken.length ∧ (∀ x ∈ taken, x.isTaken = true) ∧ last.isFree = true) ∧
      (run.result = .ok none → xs.length = attempts ∧ ∀ x ∈ xs, x.isTaken = true) ∧
      (∀ before x after e, xs = before ++ x :: after → x.answer = .error e →
        after = [] ∧ run.result = .error (e.naming x.sql)) ∧
      (∀ id t, client.Unready table column id t → 0 < attempts → xs = [] ∧ ∃ e, run.result = .error e)) ∧
    ∀ recovery, (client.withRecovery recovery).freshId table column seed = client.freshId table column seed := by
  intro run attempts
  refine ⟨?_, fun _ => rfl⟩
  obtain ⟨xs, es, result, s', hsearch, hes, hrun⟩ := client.searchFrom_run table column seed 0 attempts s
  have hrun : run = ⟨result, s', es⟩ := hrun
  clear_value run
  subst hrun
  refine ⟨xs, hsearch.soundings, hes, fun id hid => ?_, hsearch.of_exhausted,
    fun _ _ _ _ => hsearch.of_failed, fun _ _ => hsearch.of_unready⟩
  simpa only [Nat.zero_add] using hsearch.of_found hid

end GuardedSql
