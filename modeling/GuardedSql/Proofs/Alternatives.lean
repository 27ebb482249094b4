import GuardedSql.Proofs.FilterMeaning

/-!
# Fewer alternatives

What becomes of a clause when one alternative of a choice is removed, at any depth of its filter. What is left of
the alternatives holds in fewer cases, and so does all that is around them. But where nothing is left of a choice,
it is left out, with its join: next to an `OR` this is the same as if it never held, next to an `AND` the same as if
it always did.

- `truth`: the truth value of joined formulas, read from the left.
- `implies_replaced`, `implies_left_out`: one of them holds less often, or is left out with an `OR`.
- `implies_filter`: what is left of a filter implies it.
- `removal_narrows`: the same of clauses, and `removal_widens` where nothing is left.
-/

namespace GuardedSql

open Formula (conj disj ofParts ofParts_eq_none_iff eval_conj eval_disj conj_eq_none_iff disj_eq_none_iff)
open Sign (parse Reading)

/-! ## Removing an alternative -/

section

variable (escaper : Escaper)

/-- Whether a choice has something to write, and nothing once it is changed. -/
def Choice.vanishes (ch ch' : Choice) : Bool :=
  (ch.formula escaper).isSome && (ch'.formula escaper).isNone

/-- Whether what stands between others is left out with an `AND`. The join of the first part is not written, so it
goes with that of the part after it. -/
def Filter.leftOutWithAnd (before : List (Join × Formula)) (join : Join) (after : List (Join × Formula)) : Bool :=
  if before.isEmpty then after.head?.map Prod.fst = some .and else join = .and

mutual

/-- One alternative of a choice is removed, anywhere in a filter. The flag is set if this leaves nothing of a part
that is joined to others with `AND`. -/
inductive Filter.Removal : Bool → List Entry → List Entry → Prop
  | entry (before after : List Entry) (join : Join) (key : Token) {lost : Bool} {ch ch' : List Branch}
      (h : Choice.Removal lost ch ch') :
      Filter.Removal
        (lost || Choice.vanishes escaper ch ch' &&
          Filter.leftOutWithAnd (Filter.parts escaper before) join (Filter.parts escaper after))
        (before ++ ⟨join, key, .choice ch⟩ :: after) (before ++ ⟨join, key, .choice ch'⟩ :: after)

inductive Choice.Removal : Bool → List Branch → List Branch → Prop
  | alternative (before after : List Branch) (key : Token) (earlier later : List Disjunct) (d : Disjunct) :
      Choice.Removal false (before ++ .any key (earlier ++ d :: later) :: after)
        (before ++ .any key (earlier ++ later) :: after)
  | any (before after : List Branch) (key : Token) (earlier later : List Disjunct) {lost : Bool}
      {f f' : List Entry} (h : Filter.Removal lost f f') :
      Choice.Removal lost (before ++ .any key (earlier ++ .filter f :: later) :: after)
        (before ++ .any key (earlier ++ .filter f' :: later) :: after)
  | all (before after : List Branch) (key : Token) {lost : Bool} {ch ch' : List Branch}
      (h : Choice.Removal lost ch ch') :
      Choice.Removal
        (lost || Choice.vanishes escaper ch ch' &&
          !((Branch.formulas escaper before).2 ++ (Branch.formulas escaper after).2).isEmpty)
        (before ++ .all key (.choice ch) :: after) (before ++ .all key (.choice ch') :: after)

end

end

/-- Whether the rows of this truth assignment match, each comparison and each fragment an atom. A missing clause
matches all of them. -/
def Clause.holds (clause : Clause) (v : String → Bool) : Bool :=
  clause.isEmpty || (parse (Link.signsAll clause.links)).any (·.eval v)

/-! ## Truth values of joined formulas -/

section

variable {v : String → Bool}

/-- The truth value of an alternative `found` or the `AND` of `run` and of the formulas that follow up to the next
`OR`, or of the runs after it. -/
def truth (v : String → Bool) (found run : Bool) : List (Join × Formula) → Bool
  | [] => found || run
  | (.and, φ) :: parts => truth v found (run && φ.eval v) parts
  | (.or, φ) :: parts => truth v (found || run) (φ.eval v) parts

theorem truth_mono {parts : List (Join × Formula)} {found found' run run' : Bool}
    (hfound : found = true → found' = true) (hrun : run = true → run' = true)
    (h : truth v found run parts = true) : truth v found' run' parts = true := by
  induction parts generalizing found found' run run' with
  | nil =>
    rw [truth, Bool.or_eq_true] at h ⊢
    exact h.imp hfound hrun
  | cons part parts ih =>
    obtain ⟨join, φ⟩ := part
    cases join with
    | and =>
      refine ih hfound ?_ h
      rw [Bool.and_eq_true, Bool.and_eq_true]
      exact And.imp_left hrun
    | or =>
      refine ih ?_ id h
      rw [Bool.or_eq_true, Bool.or_eq_true]
      exact Or.imp hfound hrun

/-- A run that goes on without the alternative between its two halves implies the alternatives. -/
theorem truth_left_out {parts : List (Join × Formula)} {found run : Bool} (b : Bool)
    (h : truth v found run parts = true) : truth v (found || run) b parts = true := by
  induction parts generalizing found run b with
  | nil =>
    rw [truth] at h ⊢
    rw [h, Bool.true_or]
  | cons part parts ih =>
    obtain ⟨join, φ⟩ := part
    cases join with
    | and =>
      refine truth_mono ?_ id (ih (b && φ.eval v) h)
      rw [Bool.or_eq_true, Bool.or_eq_true, Bool.and_eq_true]
      exact Or.imp_right And.left
    | or =>
      rw [truth] at h ⊢
      refine truth_mono ?_ id h
      intro hfound
      rw [hfound, Bool.true_or]

/-- What has been read of joined formulas decides how those that follow are read. -/
theorem exists_truth_append (parts : List (Join × Formula)) (found run : Bool) :
    ∃ found' run', ∀ rest, truth v found run (parts ++ rest) = truth v found' run' rest := by
  induction parts generalizing found run with
  | nil => exact ⟨found, run, fun _ => rfl⟩
  | cons part parts ih =>
    obtain ⟨join, φ⟩ := part
    cases join with
    | and => exact ih found (run && φ.eval v)
    | or => exact ih (found || run) (φ.eval v)

theorem eval_closed {l : Reading} (hl : l.run ≠ []) (v : String → Bool) :
    l.closed.any (·.eval v) = (l.runs.any (·.eval v) || l.run.all (·.eval v)) := by
  cases hc : conj l.run with
  | none => exact absurd (conj_eq_none_iff.1 hc) hl
  | some φ => simp [Reading.closed, hc, eval_conj hc]

theorem eval_foldl_next {parts : List (Join × Formula)} {l : Reading} (hl : l.run ≠ []) {φ : Formula}
    (h : (parts.foldl Reading.next l).formula = some φ) (v : String → Bool) :
    φ.eval v = truth v (l.runs.any (·.eval v)) (l.run.all (·.eval v)) parts := by
  induction parts generalizing l with
  | nil => rw [eval_disj h, List.foldl_nil, eval_closed hl, truth]
  | cons part parts ih =>
    obtain ⟨join, ψ⟩ := part
    cases join with
    | and =>
      have hrun : (l.add ψ).run ≠ [] := List.append_ne_nil_of_right_ne_nil _ (List.cons_ne_nil ψ [])
      rw [ih hrun h, truth]
      simp [Reading.add]
    | or =>
      rw [ih (List.cons_ne_nil ψ []) h, truth, ← eval_closed hl]
      simp [Reading.next]

theorem eval_ofParts {join : Join} {φ ψ : Formula} {parts : List (Join × Formula)}
    (h : ofParts ((join, φ) :: parts) = some ψ) (v : String → Bool) :
    ψ.eval v = truth v false (φ.eval v) parts := by
  have hn : Reading.next {} (join, φ) = { run := [φ] } := by cases join <;> rfl
  rw [← Reading.formula_foldl_next, List.foldl_cons, hn] at h
  rw [eval_foldl_next (List.cons_ne_nil φ []) h]
  simp

/-! ## Formulas that imply others -/

/-- If there is something of the first condition, there is something of the second one that it implies. -/
def Implies (v : String → Bool) (φ' φ : Option Formula) : Prop :=
  ∀ ψ', φ' = some ψ' → ∃ ψ, φ = some ψ ∧ (ψ'.eval v = true → ψ.eval v = true)

theorem implies_none (φ : Option Formula) : Implies v none φ := by
  intro ψ' h
  cases h

/-- Each of the first conditions implies one of the second ones. -/
def ImplyAny (v : String → Bool) (φs' φs : List Formula) : Prop :=
  ∀ φ' ∈ φs', ∃ φ ∈ φs, φ'.eval v = true → φ.eval v = true

theorem implyAny_of_subset {φs' φs : List Formula} (h : φs' ⊆ φs) : ImplyAny v φs' φs :=
  fun φ' hφ' => ⟨φ', h hφ', id⟩

theorem implyAny_refl (φs : List Formula) : ImplyAny v φs φs :=
  implyAny_of_subset (List.Subset.refl φs)

theorem ImplyAny.append {φs' φs ψs' ψs : List Formula} (h : ImplyAny v φs' φs) (hs : ImplyAny v ψs' ψs) :
    ImplyAny v (φs' ++ ψs') (φs ++ ψs) := by
  intro φ' hφ'
  rcases List.mem_append.1 hφ' with hφ' | hφ'
  · obtain ⟨φ, hφ, himp⟩ := h φ' hφ'
    exact ⟨φ, List.mem_append_left _ hφ, himp⟩
  · obtain ⟨φ, hφ, himp⟩ := hs φ' hφ'
    exact ⟨φ, List.mem_append_right _ hφ, himp⟩

theorem Implies.toList {φ' φ : Option Formula} (h : Implies v φ' φ) : ImplyAny v φ'.toList φ.toList := by
  intro ψ' hψ'
  obtain ⟨ψ, hψ, himp⟩ := h ψ' (Option.mem_toList.1 hψ')
  exact ⟨ψ, Option.mem_toList.2 hψ, himp⟩

theorem implies_disj {φs' φs : List Formula} (h : ImplyAny v φs' φs) : Implies v (disj φs') (disj φs) := by
  intro ψ' hψ'
  have hne : disj φs ≠ none := by
    rw [Ne, disj_eq_none_iff]
    rintro rfl
    cases φs' with
    | nil => cases hψ'
    | cons φ' φs' =>
      obtain ⟨φ, hφ, -⟩ := h φ' List.mem_cons_self
      cases hφ
  obtain ⟨ψ, hψ⟩ := Option.ne_none_iff_exists'.1 hne
  refine ⟨ψ, hψ, fun heval => ?_⟩
  rw [eval_disj hψ', List.any_eq_true] at heval
  rw [eval_disj hψ, List.any_eq_true]
  obtain ⟨φ', hφ', heval⟩ := heval
  obtain ⟨φ, hφ, himp⟩ := h φ' hφ'
  exact ⟨φ, hφ, himp heval⟩

/-- One of the requirements holds less often, or it was the only one and nothing is left of it. -/
theorem implies_conj {before after : List Formula} {φ' φ : Option Formula} (h : Implies v φ' φ)
    (hlost : φ.isSome = true → φ' = none → before ++ after = []) :
    Implies v (conj (before ++ (φ'.toList ++ after))) (conj (before ++ (φ.toList ++ after))) := by
  intro ψ' hψ'
  cases φ' with
  | none =>
    cases φ with
    | none => exact ⟨ψ', hψ', id⟩
    | some φ =>
      have hnil : before ++ after = [] := hlost rfl rfl
      rw [Option.toList_none, List.nil_append, hnil] at hψ'
      cases hψ'
  | some φ' =>
    obtain ⟨φ, rfl, himp⟩ := h φ' rfl
    have hne : conj (before ++ ([φ] ++ after)) ≠ none := by simp [conj_eq_none_iff]
    obtain ⟨ψ, hψ⟩ := Option.ne_none_iff_exists'.1 hne
    refine ⟨ψ, hψ, fun heval => ?_⟩
    rw [eval_conj hψ'] at heval
    rw [eval_conj hψ]
    simp only [Option.toList_some, List.all_append, List.all_cons, List.all_nil, Bool.and_true,
      Bool.and_eq_true] at heval ⊢
    exact ⟨heval.1, himp heval.2.1, heval.2.2⟩

theorem implies_of_truth {part' part : Join × Formula} {parts' parts : List (Join × Formula)}
    (h : truth v false (part'.2.eval v) parts' = true → truth v false (part.2.eval v) parts = true) :
    Implies v (ofParts (part' :: parts')) (ofParts (part :: parts)) := by
  intro ψ' hψ'
  have hne : ofParts (part :: parts) ≠ none := mt ofParts_eq_none_iff.1 (List.cons_ne_nil part parts)
  obtain ⟨ψ, hψ⟩ := Option.ne_none_iff_exists'.1 hne
  refine ⟨ψ, hψ, ?_⟩
  rw [eval_ofParts hψ', eval_ofParts hψ]
  exact h

/-- One of joined formulas holds less often. -/
theorem implies_replaced {before after : List (Join × Formula)} {join : Join} {φ' φ : Formula}
    (h : φ'.eval v = true → φ.eval v = true) :
    Implies v (ofParts (before ++ (join, φ') :: after)) (ofParts (before ++ (join, φ) :: after)) := by
  cases before with
  | nil => exact implies_of_truth (truth_mono id h)
  | cons first before =>
    obtain ⟨found, run, hrest⟩ := exists_truth_append (v := v) before false (first.2.eval v)
    rw [List.cons_append, List.cons_append]
    refine implies_of_truth ?_
    rw [hrest, hrest]
    cases join with
    | and =>
      have hrun : (run && φ'.eval v) = true → (run && φ.eval v) = true := by
        rw [Bool.and_eq_true, Bool.and_eq_true]
        exact And.imp_right h
      exact truth_mono id hrun
    | or => exact truth_mono id h

/-- One of joined formulas is left out with an `OR`. If it is the first, the `OR` is that of the next one. -/
theorem implies_left_out {before after : List (Join × Formula)} {join : Join} (φ : Formula)
    (h : Filter.leftOutWithAnd before join after = false) :
    Implies v (ofParts (before ++ after)) (ofParts (before ++ (join, φ) :: after)) := by
  cases before with
  | nil =>
    cases after with
    | nil => exact implies_none _
    | cons next after =>
      obtain ⟨join', ψ⟩ := next
      cases join' with
      | and => cases h
      | or => exact implies_of_truth (truth_mono (fun hf => by cases hf) id)
  | cons first before =>
    obtain ⟨found, run, hrest⟩ := exists_truth_append (v := v) before false (first.2.eval v)
    rw [List.cons_append, List.cons_append]
    refine implies_of_truth ?_
    rw [hrest, hrest]
    cases join with
    | and => cases h
    | or => exact truth_left_out (φ.eval v)

theorem implies_ofParts {before after : List (Join × Formula)} {join : Join} {φ' φ : Option Formula}
    (h : Implies v φ' φ)
    (hlost : φ.isSome = true → φ' = none → Filter.leftOutWithAnd before join after = false) :
    Implies v (ofParts (before ++ ((φ'.map (join, ·)).toList ++ after)))
      (ofParts (before ++ ((φ.map (join, ·)).toList ++ after))) := by
  cases φ' with
  | some φ' =>
    obtain ⟨φ, rfl, himp⟩ := h φ' rfl
    exact implies_replaced himp
  | none =>
    cases φ with
    | none => exact fun ψ hψ => ⟨ψ, hψ, id⟩
    | some φ => exact implies_left_out φ (hlost rfl rfl)

end

/-! ## What is left of a filter -/

section

variable {escaper : Escaper} {v : String → Bool}

theorem parts_append (f g : List Entry) :
    Filter.parts escaper (f ++ g) = Filter.parts escaper f ++ Filter.parts escaper g := by
  induction f with
  | nil => rfl
  | cons e f ih =>
    obtain ⟨join, key, condition⟩ := e
    rw [List.cons_append, Filter.parts, ih, Filter.parts, List.append_assoc]

theorem disjunct_formulas_append (key : Token) (ds es : List Disjunct) :
    Disjunct.formulas escaper key (ds ++ es) =
      Disjunct.formulas escaper key ds ++ Disjunct.formulas escaper key es := by
  induction ds with
  | nil => rfl
  | cons d ds ih => rw [List.cons_append, Disjunct.formulas, ih, Disjunct.formulas, List.append_assoc]

theorem branch_formulas_append (bs cs : List Branch) :
    Branch.formulas escaper (bs ++ cs) =
      ((Branch.formulas escaper bs).1 ++ (Branch.formulas escaper cs).1,
        (Branch.formulas escaper bs).2 ++ (Branch.formulas escaper cs).2) := by
  induction bs with
  | nil => rfl
  | cons b bs ih =>
    cases b with
    | any key items => rw [List.cons_append, Branch.formulas, ih, Branch.formulas, List.append_assoc]
    | all key condition => rw [List.cons_append, Branch.formulas, ih, Branch.formulas, List.append_assoc]

theorem choice_formula_any (before after : List Branch) (key : Token) (items : List Disjunct) :
    Choice.formula escaper (before ++ .any key items :: after) =
      disj (((Branch.formulas escaper before).1 ++
          (Disjunct.formulas escaper key items ++ (Branch.formulas escaper after).1)) ++
        (conj ((Branch.formulas escaper before).2 ++ (Branch.formulas escaper after).2)).toList) := by
  rw [Choice.formula, branch_formulas_append, Branch.formulas]

theorem choice_formula_all (before after : List Branch) (key : Token) (ch : List Branch) :
    Choice.formula escaper (before ++ .all key (.choice ch) :: after) =
      disj (((Branch.formulas escaper before).1 ++ (Branch.formulas escaper after).1) ++
        (conj ((Branch.formulas escaper before).2 ++
          ((Choice.formula escaper ch).toList ++ (Branch.formulas escaper after).2))).toList) := by
  rw [Choice.formula, branch_formulas_append, Branch.formulas]
  rfl

theorem implies_any {before after : List Branch} {key : Token} {items' items : List Disjunct}
    (h : ImplyAny v (Disjunct.formulas escaper key items') (Disjunct.formulas escaper key items)) :
    Implies v (Choice.formula escaper (before ++ .any key items' :: after))
      (Choice.formula escaper (before ++ .any key items :: after)) := by
  rw [choice_formula_any, choice_formula_any]
  exact implies_disj (((implyAny_refl _).append (h.append (implyAny_refl _))).append (implyAny_refl _))

theorem implies_all {before after : List Branch} {key : Token} {ch' ch : List Branch}
    (h : Implies v (Choice.formula escaper ch') (Choice.formula escaper ch))
    (hlost : (Choice.vanishes escaper ch ch' &&
      !((Branch.formulas escaper before).2 ++ (Branch.formulas escaper after).2).isEmpty) = false) :
    Implies v (Choice.formula escaper (before ++ .all key (.choice ch') :: after))
      (Choice.formula escaper (before ++ .all key (.choice ch) :: after)) := by
  have hothers : (Choice.formula escaper ch).isSome = true → Choice.formula escaper ch' = none →
      (Branch.formulas escaper before).2 ++ (Branch.formulas escaper after).2 = [] := by
    simpa [Choice.vanishes] using hlost
  rw [choice_formula_all, choice_formula_all]
  exact implies_disj ((implyAny_refl _).append (implies_conj h hothers).toList)

theorem implies_entry {before after : List Entry} {join : Join} {key : Token} {ch' ch : List Branch}
    (h : Implies v (Choice.formula escaper ch') (Choice.formula escaper ch))
    (hlost : (Choice.vanishes escaper ch ch' &&
      Filter.leftOutWithAnd (Filter.parts escaper before) join (Filter.parts escaper after)) = false) :
    Implies v (Filter.formula escaper (before ++ ⟨join, key, .choice ch'⟩ :: after))
      (Filter.formula escaper (before ++ ⟨join, key, .choice ch⟩ :: after)) := by
  have hjoin : (Choice.formula escaper ch).isSome = true → Choice.formula escaper ch' = none →
      Filter.leftOutWithAnd (Filter.parts escaper before) join (Filter.parts escaper after) = false := by
    simpa [Choice.vanishes] using hlost
  rw [Filter.formula, Filter.formula, parts_append, parts_append]
  exact implies_ofParts h hjoin

mutual

/-- What is left of a filter implies it. The induction is on where the alternative is removed. -/
theorem implies_filter : ∀ {lost : Bool} {f f' : List Entry}, Filter.Removal escaper lost f f' → lost = false →
    Implies v (Filter.formula escaper f') (Filter.formula escaper f)
  | _, _, _, .entry _ _ _ _ h, hlost =>
    have ⟨hinside, hleft⟩ := Bool.or_eq_false_iff.1 hlost
    implies_entry (implies_choice h hinside) hleft

theorem implies_choice : ∀ {lost : Bool} {ch ch' : List Branch}, Choice.Removal escaper lost ch ch' →
    lost = false → Implies v (Choice.formula escaper ch') (Choice.formula escaper ch)
  | _, _, _, .alternative _ _ key earlier later d, _ => by
    refine implies_any ?_
    rw [disjunct_formulas_append, disjunct_formulas_append, Disjunct.formulas]
    exact (implyAny_refl _).append (implyAny_of_subset (List.subset_append_right _ _))
  | _, _, _, .any _ _ key earlier later h, hlost => by
    refine implies_any ?_
    rw [disjunct_formulas_append, disjunct_formulas_append, Disjunct.formulas, Disjunct.formulas]
    exact (implyAny_refl _).append ((implies_filter h hlost).toList.append (implyAny_refl _))
  | _, _, _, .all _ _ _ h, hlost =>
    have ⟨hinside, hleft⟩ := Bool.or_eq_false_iff.1 hlost
    implies_all (implies_choice h hinside) hleft

end

end

/-! ## Clauses -/

namespace Compiler

theorem isEmpty_iff_formula {c : Compiler} {f : Filter} {links : List Link}
    (h : (c.filter f).result = .ok (.of links)) :
    (Clause.of links).isEmpty = true ↔ f.formula c.escaper = none :=
  isEmpty_of_isRead (gives_parts f links (compile_of_filter h))

theorem holds_iff {c : Compiler} {f : Filter} {links : List Link} (h : (c.filter f).result = .ok (.of links))
    (v : String → Bool) :
    (Clause.of links).holds v = true ↔ ∀ φ, f.formula c.escaper = some φ → φ.eval v = true := by
  have hp : parse (Link.signsAll links) = f.formula c.escaper :=
    parse_signsAll (gives_parts f links (compile_of_filter h))
  have he := isEmpty_iff_formula h
  rw [Clause.holds, Bool.or_eq_true, he, Clause.links, hp]
  cases f.formula c.escaper with
  | none => simp
  | some φ => simp

/-- Removing an alternative from a choice, at any depth of a filter, makes a clause true only where it was true
before, unless it leaves nothing of a part that is joined to others with `AND`, or nothing of the clause. -/
theorem removal_narrows (c : Compiler) {f f' : Filter} (h : Filter.Removal c.escaper false f f')
    {links links' : List Link} (hf : (c.filter f).result = .ok (.of links))
    (hf' : (c.filter f').result = .ok (.of links'))
    (hempty : (Clause.of links').isEmpty = true → (Clause.of links).isEmpty = true) (v : String → Bool)
    (hv : (Clause.of links').holds v = true) : (Clause.of links).holds v = true := by
  rw [isEmpty_iff_formula hf, isEmpty_iff_formula hf'] at hempty
  rw [holds_iff hf'] at hv
  rw [holds_iff hf]
  intro φ hφ
  have hne : f'.formula c.escaper ≠ none := by
    intro hnone
    rw [hempty hnone] at hφ
    cases hφ
  obtain ⟨φ', hφ'⟩ := Option.ne_none_iff_exists'.1 hne
  obtain ⟨ψ, hψ, himp⟩ := implies_filter h rfl φ' hφ'
  obtain rfl : φ = ψ := Option.some.inj (hφ.symm.trans hψ)
  exact himp (hv φ' hφ')

/-- Nothing is left of a choice that is joined with `OR`, in a filter that is an alternative itself. -/
theorem removal_narrows_nested :
    let tenant : Entry := ⟨.and, .column "tenant", .equals (.data "3")⟩
    let one : Entry := ⟨.and, .column "x", .equals (.data "1")⟩
    let two : Disjunct := .equals (.data "2")
    let inner (ys : List Disjunct) : Filter := [one, ⟨.or, .blank, .choice [.any (.column "y") ys]⟩]
    let f (ys : List Disjunct) : Filter :=
      [tenant, ⟨.and, .blank, .choice [.any (.column "kind") [.equals (.data "a"), .filter (inner ys)]]⟩]
    Filter.Removal Literal.escape false (f [two]) (f []) ∧
      ∃ links links', (Compiler.filter {} (f [two])).result = .ok (.of links) ∧
        (Compiler.filter {} (f [])).result = .ok (.of links') ∧
        (Clause.of links').write = "`tenant` = '3' AND (`kind` = 'a' OR (`x` = '1'))" ∧
        ∀ v, (Clause.of links').holds v = true → (Clause.of links).holds v = true := by
  intro tenant one two inner f
  have hinner : Filter.Removal Literal.escape false (inner [two]) (inner []) :=
    .entry [one] [] .or .blank (.alternative [] [] (.column "y") [] [] two)
  have h : Filter.Removal Literal.escape false (f [two]) (f []) :=
    .entry [tenant] [] .and .blank (.any [] [] (.column "kind") [.equals (.data "a")] [] hinner)
  exact ⟨h, _, _, rfl, rfl, by decide, removal_narrows {} h rfl rfl fun he => by cases he⟩

/-- Nothing is left of a choice that is all of a filter, or that is joined with `AND`. -/
theorem removal_widens :
    let id (ids : List Disjunct) : Entry := ⟨.and, .blank, .choice [.any (.column "id") ids]⟩
    let tenant : Entry := ⟨.and, .column "tenant", .equals (.data "3")⟩
    let five : Disjunct := .equals (.data "5")
    (∃ lost, Filter.Removal Literal.escape lost [id [five]] [id []]) ∧
      (∃ lost, Filter.Removal Literal.escape lost [tenant, id [five]] [tenant, id []]) ∧
      ∃ alone whole rest, (Compiler.filter {} [id [five]]).result = .ok (.of alone) ∧
        (Compiler.filter {} [id []]).result = .ok (.of []) ∧
        (Compiler.filter {} [tenant, id [five]]).result = .ok (.of whole) ∧
        (Compiler.filter {} [tenant, id []]).result = .ok (.of rest) ∧
        ∃ v, (Clause.of alone).holds v = false ∧ (Clause.of []).holds v = true ∧
          (Clause.of whole).holds v = false ∧ (Clause.of rest).holds v = true := by
  intro id tenant five
  have h : Choice.Removal Literal.escape false [.any (.column "id") [five]] [.any (.column "id") []] :=
    .alternative [] [] (.column "id") [] [] five
  refine ⟨⟨_, .entry [] [] .and .blank h⟩, ⟨_, .entry [tenant] [] .and .blank h⟩, ?_⟩
  refine ⟨_, _, _, rfl, rfl, rfl, rfl, (· = "`tenant` = '3'"), ?_⟩
  decide

end Compiler

end GuardedSql
