import GuardedSql.Proofs.Formula
import GuardedSql.Proofs.Outcome
import GuardedSql.Proofs.Suspicion
import Mathlib.Data.List.Forall2

/-!
# What a filter means

A filter means the `OR` of its maximal `AND`-runs, a choice the `OR` of its alternatives and of the `AND` of
its other branches. What leaves no text is left out, with its join. The comparisons and fragments are atoms.
The clause of a filter is read as this formula, with `AND` before `OR`, and so is the text of a choice.

- `spell_signs`: the text of a node is that of its signs.
- `gives_parts`: the nodes of a filter are read as its parts, one for each.
- `parse_clause`: a clause is read as the formula of its filter.
-/

namespace GuardedSql

open Formula (conj disj ofParts ofParts_eq_none_iff)
open Sign (spell spell_append Reading Reads parse operand operator operator_join reads_parentheses)

/-! ## Clauses as signs -/

mutual

def Node.signs : Node → List Sign
  | .comparison c => [.atom c.write]
  | .group links => .opening :: (Link.signsAll links ++ [.closing])
  | .fragment sql => [.atom sql]

/-- The signs of nodes, with their joins between them. -/
def Link.signsAll : List Link → List Sign
  | [] => []
  | ⟨_, node⟩ :: rest => node.signs ++ Link.signsRest rest

/-- The signs of nodes, each after its join. -/
def Link.signsRest : List Link → List Sign
  | [] => []
  | ⟨join, node⟩ :: rest => .join join :: (node.signs ++ Link.signsRest rest)

end

mutual

theorem spell_signs : ∀ n : Node, spell n.signs = n.write
  | .comparison c => by rw [Node.signs, spell, spell, Node.write]; exact String.append_empty
  | .group links => by
    rw [Node.signs, spell, spell_append, spell_signsAll links, Node.write, ← String.append_assoc]
    rfl
  | .fragment sql => by rw [Node.signs, spell, spell, Node.write]; exact String.append_empty

theorem spell_signsAll : ∀ links : List Link, spell (Link.signsAll links) = Link.writeAll links
  | [] => rfl
  | ⟨join, node⟩ :: rest => by
    rw [Link.signsAll, spell_append, spell_signs node, spell_signsRest rest, Link.writeAll]

theorem spell_signsRest : ∀ links : List Link, spell (Link.signsRest links) = Link.writeRest links
  | [] => rfl
  | ⟨join, node⟩ :: rest => by
    rw [Link.signsRest, spell, spell_append, spell_signs node, spell_signsRest rest, Link.writeRest,
      Sign.text, ← String.append_assoc]

end

/-! ## Formulas of filters -/

/-- The formula of a condition that is written as one text: an atom, or none if there is no text. -/
def Node.leaf (node : Except Error Node) : Option Formula :=
  match node with
  | .ok node => if node.isEmpty then none else some (.atom node.write)
  | .error _ => none

section

variable (escaper : Escaper)

mutual

/-- The formulas of the entries of a filter, with their joins. Entries without a formula are left out. -/
def Filter.parts : List Entry → List (Join × Formula)
  | [] => []
  | ⟨join, key, condition⟩ :: rest =>
    ((Condition.formula key condition).map (join, ·)).toList ++ Filter.parts rest
termination_by structural entries => entries

/-- A choice is the `OR` of its alternatives and of the `AND` of its other branches. -/
def Condition.formula (key : Token) : Condition → Option Formula
  | .equals value => Node.leaf (Condition.compile escaper key (.equals value))
  | .call c => Node.leaf (Condition.compile escaper key (.call c))
  | .choice branches => disj ((Branch.formulas branches).1 ++ (conj (Branch.formulas branches).2).toList)
  | .template sql args => Node.leaf (Condition.compile escaper key (.template sql args))
termination_by structural condition => condition

/-- The formulas of the alternatives and of the other branches. -/
def Branch.formulas : List Branch → List Formula × List Formula
  | [] => ([], [])
  | .any key items :: rest =>
    (Disjunct.formulas key items ++ (Branch.formulas rest).1, (Branch.formulas rest).2)
  | .all key condition :: rest =>
    ((Branch.formulas rest).1, (Condition.formula key condition).toList ++ (Branch.formulas rest).2)
termination_by structural branches => branches

def Disjunct.formulas (key : Token) : List Disjunct → List Formula
  | [] => []
  | item :: rest => (Disjunct.formula key item).toList ++ Disjunct.formulas key rest
termination_by structural items => items

/-- A filter is the `OR` of its maximal `AND`-runs. -/
def Disjunct.formula (key : Token) : Disjunct → Option Formula
  | .equals value => Node.leaf (Disjunct.compile escaper key (.equals value))
  | .call c => Node.leaf (Disjunct.compile escaper key (.call c))
  | .filter entries => ofParts (Filter.parts entries)
termination_by structural d => d

end

/-- What a filter means, if there is anything in it that is written. -/
def Filter.formula (f : Filter) : Option Formula :=
  ofParts (Filter.parts escaper f)

def Choice.formula (ch : Choice) : Option Formula :=
  disj ((Branch.formulas escaper ch).1 ++ (conj (Branch.formulas escaper ch).2).toList)

end

/-! ## Nodes that are read as formulas -/

/-- A node and the part that it is read as, with the same join. -/
structure Link.IsRead (link : Link) (part : Join × Formula) : Prop where
  join : link.join = part.1
  node : Reads link.node.signs part.2

/-- A node that is read as a formula, or that is empty if there is none. -/
def Node.Means (node : Node) : Option Formula → Prop
  | none => node.isEmpty = true
  | some φ => node.isEmpty = false ∧ Reads node.signs φ

section

variable {links : List Link} {parts : List (Join × Formula)}

theorem operator_signsRest (h : List.Forall₂ Link.IsRead links parts) (outer : List Reading) (l : Reading)
    (rest : List Sign) :
    operator outer l (Link.signsRest links ++ rest) = operator outer (parts.foldl Reading.next l) rest := by
  induction h generalizing l with
  | nil => rfl
  | @cons link part links parts hl _ ih =>
    obtain ⟨join, node⟩ := link
    obtain ⟨join', φ⟩ := part
    obtain ⟨rfl, hn⟩ := hl
    rw [Link.signsRest, List.cons_append, List.append_assoc, operator_join hn, ih, List.foldl_cons]

/-- Where reading starts, the first join makes no difference. -/
theorem operand_signsAll (h : List.Forall₂ Link.IsRead links parts) (hne : links ≠ []) (outer : List Reading)
    (rest : List Sign) :
    operand outer {} (Link.signsAll links ++ rest) = operator outer (parts.foldl Reading.next {}) rest := by
  cases h with
  | nil => exact absurd rfl hne
  | @cons link part links parts hl hs =>
    obtain ⟨join, node⟩ := link
    obtain ⟨join', φ⟩ := part
    have hn : Reading.next {} (join', φ) = Reading.add {} φ := by cases join' <;> rfl
    rw [Link.signsAll, List.append_assoc, hl.node, operator_signsRest hs, List.foldl_cons, hn]

/-- Nodes are read as the `OR` of the maximal `AND`-runs of their parts. -/
theorem parse_signsAll (h : List.Forall₂ Link.IsRead links parts) :
    parse (Link.signsAll links) = ofParts parts := by
  by_cases hne : links = []
  · subst hne
    cases h
    rfl
  · rw [parse, ← List.append_nil (Link.signsAll links), operand_signsAll h hne, ← Reading.formula_foldl_next]
    rfl

theorem means_group (h : List.Forall₂ Link.IsRead links parts) : (Node.group links).Means (ofParts parts) := by
  cases hp : ofParts parts with
  | none =>
    rw [ofParts_eq_none_iff.1 hp, List.forall₂_nil_right_iff] at h
    rw [h]
    rfl
  | some φ =>
    have hne : links ≠ [] := by
      rintro rfl
      cases h
      cases hp
    refine ⟨by simpa [Node.isEmpty] using hne, ?_⟩
    exact reads_parentheses ((Reading.formula_foldl_next parts).trans hp) fun outer rest =>
      operand_signsAll h hne outer rest

end

/-! ## Atoms -/

/-- A node that is written as one text. -/
def Node.IsAtom (node : Node) : Prop :=
  node.signs = [.atom node.write]

section

variable {escaper : Escaper}

theorem means_leaf {x : Except Error Node} (h : Gives Node.IsAtom x) : Gives (·.Means (Node.leaf x)) x := by
  intro node hx
  have ha : node.signs = [.atom node.write] := h node hx
  subst hx
  cases he : node.isEmpty with
  | true =>
    rw [show Node.leaf (.ok node) = none by simp [Node.leaf, he]]
    exact he
  | false =>
    rw [show Node.leaf (.ok node) = some (.atom node.write) by simp [Node.leaf, he]]
    refine ⟨he, ?_⟩
    rw [ha]
    exact Sign.reads_atom _

theorem gives_equate (key value : Token) : Gives Node.IsAtom (key.equate escaper value) := by
  refine gives_bind fun lhs => ?_
  split
  · exact gives_ok rfl
  · cases lhs with
    | some lhs => exact gives_bind fun _ => gives_ok rfl
    | none => exact gives_bind fun _ => gives_ok rfl

theorem gives_template (key : Token) (sql : String) (args : List Token) :
    Gives Node.IsAtom (Condition.compile escaper key (.template sql args)) := by
  refine gives_bind fun sql => gives_bind fun lhs => ?_
  cases lhs with
  | some lhs => exact gives_ok rfl
  | none => exact gives_ok rfl

/-! ## Filters -/

/-- The parts of a choice. -/
def choiceParts (alternatives requirements : List Formula) : List (Join × Formula) :=
  alternatives.map (.or, ·) ++
    match requirements with
    | [] => []
    | first :: rest => (.or, first) :: rest.map (.and, ·)

theorem closed_foldl_or (φs : List Formula) (l : Reading) :
    ((φs.map (Join.or, ·)).foldl Reading.next l).closed = l.closed ++ φs := by
  induction φs generalizing l with
  | nil => simp
  | cons φ φs ih =>
    rw [List.map_cons, List.foldl_cons, ih]
    simp [Reading.next, Reading.closed, conj]

theorem foldl_and (φs : List Formula) (l : Reading) :
    (φs.map (Join.and, ·)).foldl Reading.next l = { l with run := l.run ++ φs } := by
  induction φs generalizing l with
  | nil => simp
  | cons φ φs ih =>
    rw [List.map_cons, List.foldl_cons, ih]
    simp [Reading.next, Reading.add]

/-- `AND` binds tighter, so the other branches are one more alternative. -/
theorem ofParts_choiceParts (alternatives requirements : List Formula) :
    ofParts (choiceParts alternatives requirements) = disj (alternatives ++ (conj requirements).toList) := by
  have hc := closed_foldl_or alternatives {}
  unfold choiceParts
  rw [← Reading.formula_foldl_next, List.foldl_append, Reading.formula]
  cases requirements with
  | nil =>
    rw [List.foldl_nil, hc]
    exact congrArg disj (List.append_nil alternatives).symm
  | cons first rest =>
    rw [List.foldl_cons, foldl_and, Reading.closed, Reading.next, hc]
    rfl

theorem isRead_present {nodes : List Node} {φs : List Formula}
    (h : List.Forall₂ (fun n φ => Reads n.signs φ) nodes φs) (j : Join) :
    List.Forall₂ Link.IsRead (nodes.map (⟨j, ·⟩)) (φs.map (j, ·)) := by
  induction h with
  | nil => exact .nil
  | cons h _ ih => exact .cons ⟨rfl, h⟩ ih

/-- The nodes of a list that are not empty are read as the formulas, one for each. -/
def AreRead (nodes : List Node) (φs : List Formula) : Prop :=
  List.Forall₂ (fun n φ => Reads n.signs φ) (nodes.filter fun n => !n.isEmpty) φs

theorem areRead_append {ns ms : List Node} {φs ψs : List Formula} (h : AreRead ns φs) (h' : AreRead ms ψs) :
    AreRead (ns ++ ms) (φs ++ ψs) := by
  rw [AreRead, List.filter_append]
  exact List.rel_append h h'

theorem areRead_cons {node : Node} {φ : Option Formula} (h : node.Means φ) {nodes : List Node}
    {φs : List Formula} (hs : AreRead nodes φs) : AreRead (node :: nodes) (φ.toList ++ φs) := by
  cases φ with
  | none =>
    rw [AreRead, List.filter_cons_of_neg (by simpa [Node.Means] using h)]
    exact hs
  | some φ =>
    rw [AreRead, List.filter_cons_of_pos (by simpa using h.1)]
    exact .cons h.2 hs

theorem isRead_choice {ds cs : List Node} {φs ψs : List Formula} (hd : AreRead ds φs) (hc : AreRead cs ψs) :
    List.Forall₂ Link.IsRead (Choice.join ds cs) (choiceParts φs ψs) := by
  unfold Choice.join choiceParts
  refine List.rel_append (isRead_present hd .or) ?_
  unfold AreRead at hc
  dsimp only
  generalize cs.filter _ = cs at hc ⊢
  cases hc with
  | nil => exact .nil
  | cons h hs => exact .cons ⟨rfl, h⟩ (isRead_present hs .and)

theorem isRead_consUnlessEmpty {node : Node} {φ : Option Formula} (h : node.Means φ) (join : Join)
    {links : List Link} {parts : List (Join × Formula)} (hs : List.Forall₂ Link.IsRead links parts) :
    List.Forall₂ Link.IsRead (node.consUnlessEmpty join links) ((φ.map (join, ·)).toList ++ parts) := by
  unfold Node.consUnlessEmpty
  cases φ with
  | none =>
    have he : node.isEmpty = true := h
    rw [if_pos he]
    exact hs
  | some φ =>
    rw [if_neg (by simpa using h.1)]
    exact .cons ⟨rfl, h.2⟩ hs

mutual

/-- The nodes of a filter are read as its parts. The induction is on the filter, and follows the order in which
its conditions are compiled. -/
theorem gives_parts : ∀ f : List Entry,
    Gives (List.Forall₂ Link.IsRead · (Filter.parts escaper f)) (Filter.compile escaper f)
  | [] => gives_ok .nil
  | ⟨join, key, condition⟩ :: rest =>
    (gives_formula key condition).bind fun _ hn => (gives_parts rest).bind fun _ hl =>
      gives_ok (isRead_consUnlessEmpty hn join hl)
termination_by structural f => f

theorem gives_formula (key : Token) : ∀ c : Condition,
    Gives (·.Means (c.formula escaper key)) (c.compile escaper key)
  | .equals value => means_leaf (gives_equate key value)
  | .call c => means_leaf (gives_bind fun _ => gives_ok rfl)
  | .choice branches => (gives_formulas branches).bind fun _ ⟨hd, hc⟩ => gives_ok (by
    rw [Condition.formula, ← ofParts_choiceParts]
    exact means_group (isRead_choice hd hc))
  | .template sql args => means_leaf (gives_template key sql args)
termination_by structural c => c

theorem gives_formulas : ∀ bs : List Branch,
    Gives (fun nodes => AreRead nodes.1 (Branch.formulas escaper bs).1 ∧
        AreRead nodes.2 (Branch.formulas escaper bs).2)
      (Branch.compileAll escaper bs)
  | [] => gives_ok ⟨.nil, .nil⟩
  | .any key items :: rest =>
    (gives_disjuncts key items).bind fun _ hn => (gives_formulas rest).bind fun _ ⟨hd, hc⟩ =>
      gives_ok ⟨areRead_append hn hd, hc⟩
  | .all key condition :: rest =>
    (gives_formula key condition).bind fun _ hn => (gives_formulas rest).bind fun _ ⟨hd, hc⟩ =>
      gives_ok ⟨hd, areRead_cons hn hc⟩
termination_by structural bs => bs

theorem gives_disjuncts (key : Token) : ∀ ds : List Disjunct,
    Gives (AreRead · (Disjunct.formulas escaper key ds)) (Disjunct.compileAll escaper key ds)
  | [] => gives_ok .nil
  | item :: rest =>
    (gives_disjunct key item).bind fun _ hn => (gives_disjuncts key rest).bind fun _ hs =>
      gives_ok (areRead_cons hn hs)
termination_by structural ds => ds

theorem gives_disjunct (key : Token) : ∀ d : Disjunct,
    Gives (·.Means (d.formula escaper key)) (d.compile escaper key)
  | .equals value => means_leaf (gives_equate key value)
  | .call _ => means_leaf (gives_bind fun _ => gives_ok rfl)
  | .filter entries => (gives_parts entries).bind fun _ hl => gives_ok (means_group hl)
termination_by structural d => d

end

end

/-! ## Clauses -/

namespace Compiler

variable (c : Compiler)

theorem compile_choice (escaper : Escaper) (ch : Choice) (join : Join) (key : Token) :
    Filter.compile escaper [⟨join, key, .choice ch⟩] =
      (fun links => (Node.group links).consUnlessEmpty join []) <$> Choice.compile escaper ch := by
  simp only [Filter.compile, Condition.compile, Choice.compile]
  cases Branch.compileAll escaper ch with
  | ok nodes => rfl
  | error e => rfl

theorem write_group (links : List Link) (join : Join) :
    Link.writeAll ((Node.group links).consUnlessEmpty join []) = (Clause.of links).writeGroup := by
  cases links with
  | nil => rfl
  | cons link links => exact String.append_empty

/-- The text of a choice is that of a filter of nothing else. -/
theorem result_choice (ch : Choice) (join : Join) (key : Token) :
    (c.choice ch).result = Clause.write <$> (c.filter [⟨join, key, .choice ch⟩]).result := by
  unfold Compiler.choice Compiler.filter
  rw [compile_choice]
  cases hch : Choice.compile c.escaper ch with
  | ok links => exact congrArg Except.ok (write_group links join).symm
  | error e =>
    unfold onSuspicion
    cases e <;> cases c.policy <;> rfl

theorem formula_choice (escaper : Escaper) (ch : Choice) (join : Join) (key : Token) :
    Filter.formula escaper [⟨join, key, .choice ch⟩] = Choice.formula escaper ch := by
  have hp : Filter.parts escaper [⟨join, key, .choice ch⟩] =
      ((Choice.formula escaper ch).map (join, ·)).toList := List.append_nil _
  rw [Filter.formula, hp]
  cases Choice.formula escaper ch with
  | none => rfl
  | some φ => rfl

theorem isEmpty_of_isRead {links : List Link} {parts : List (Join × Formula)}
    (h : List.Forall₂ Link.IsRead links parts) : (Clause.of links).isEmpty = true ↔ ofParts parts = none := by
  rw [ofParts_eq_none_iff]
  cases h with
  | nil => simp [Clause.isEmpty, Clause.links]
  | cons => simp [Clause.isEmpty, Clause.links]

/-- A clause is read, with `AND` before `OR`, as the formula of its filter, so it holds where the formula does.
It is empty if nothing of the filter is written. A choice is written as a filter of nothing else, which has the
formula of the choice. -/
theorem parse_clause :
    (∀ (f : Filter) (links : List Link), (c.filter f).result = .ok (.of links) →
      spell (Link.signsAll links) = (Clause.of links).write ∧
        ((Clause.of links).isEmpty = true ↔ f.formula c.escaper = none) ∧
        parse (Link.signsAll links) = f.formula c.escaper ∧
        ∀ v, (parse (Link.signsAll links)).map (Formula.eval v) = (f.formula c.escaper).map (Formula.eval v)) ∧
      ∀ (ch : Choice) (join : Join) (key : Token),
        (c.choice ch).result = Clause.write <$> (c.filter [⟨join, key, .choice ch⟩]).result ∧
          Filter.formula c.escaper [⟨join, key, .choice ch⟩] = ch.formula c.escaper := by
  refine ⟨fun f links h => ?_, fun ch join key => ⟨c.result_choice ch join key, formula_choice _ ch join key⟩⟩
  have hr : List.Forall₂ Link.IsRead links (Filter.parts c.escaper f) :=
    gives_parts f links (compile_of_filter h)
  have hp : parse (Link.signsAll links) = f.formula c.escaper := parse_signsAll hr
  exact ⟨spell_signsAll links, isEmpty_of_isRead hr, hp, fun v => by rw [hp]⟩

/-- A filter whose second entry and one of whose alternatives are not written. -/
def mixed : Filter :=
  [⟨.or, .column "a", .equals (.data "1")⟩, ⟨.or, .blank, .equals .blank⟩,
    ⟨.and, .blank, .choice [
      .all (.column "b") (.equals (.data "2")),
      .any (.column "c") [.equals (.data "3"), .filter [⟨.and, .blank, .choice []⟩]],
      .all (.column "d") (.equals .null)]⟩,
    ⟨.or, .column "e", .call ⟨"IN", [.list []]⟩⟩]

theorem parse_clause_mixed :
    ∃ links, (Compiler.filter {} mixed).result = .ok (.of links) ∧
      spell (Link.signsAll links) = "`a` = '1' AND (`c` = '3' OR `b` = '2' AND `d` IS NULL) OR 1=0" ∧
      parse (Link.signsAll links) = some (.or
        (.and (.atom "`a` = '1'") (.or (.atom "`c` = '3'") (.and (.atom "`b` = '2'") (.atom "`d` IS NULL"))))
        (.atom "1=0")) := by
  refine ⟨_, rfl, ?_⟩
  obtain ⟨hs, -, hp, -⟩ := (parse_clause {}).1 mixed _ rfl
  exact ⟨hs.trans (by decide), hp.trans (by decide)⟩

end Compiler

end GuardedSql
