import GuardedSql.Proofs.FilterMeaning
import GuardedSql.Proofs.Positions

/-!
# Well-formed clauses

What a filter compiles to is a tree in which nothing is missing and nothing is empty: a comparison has the
operands that its operator takes, a nested group has nodes, and a fragment has a text. So every node is written
as some text, and where a group is written there is one join between two nodes and none at either end. A
comparison keeps its operator and not the words that named it, so these are not written.

- `gives_wellFormed`: the nodes of a filter are well formed, by induction on the filter.
- `Node.WellFormed.isRegular`: a well-formed node is written with signs that follow each other as they may.
- `compile_canonical`: the spelling of operators makes no difference.
- `wellFormed_clause`: clauses are whole, and do not depend on how operators are spelled.
-/

namespace GuardedSql

/-! ## Nodes in which nothing is missing -/

/-- The comparison has the operands that its operator takes: one, two bounds, or a list of any length. -/
def Comparison.IsComplete (c : Comparison) : Prop :=
  match c.operator with
  | .eq | .ne | .lt | .le | .gt | .ge => c.operands.length = 1
  | .between | .notBetween => c.operands.length = 2
  | .oneOf | .noneOf => True

theorem Comparison.isComplete_iff {c : Comparison} :
    c.IsComplete ↔ c.operator.arity.admits c.operands.length = true := by
  unfold IsComplete
  cases c.operator <;> simp [Operator.arity, Arity.admits]

/-- A node in which nothing is missing and nothing is empty, at any depth. -/
inductive Node.WellFormed : Node → Prop
  | comparison {c : Comparison} (h : c.IsComplete) : WellFormed (.comparison c)
  | group {links : List Link} (hne : links ≠ []) (h : ∀ link ∈ links, WellFormed link.node) :
      WellFormed (.group links)
  | fragment {sql : String} (h : sql ≠ "") : WellFormed (.fragment sql)

/-- A node that stands in a tree, at any depth. -/
inductive Link.Contains : List Link → Node → Prop
  | here {links : List Link} {link : Link} (h : link ∈ links) : Contains links link.node
  | within {links inner : List Link} {join : Join} {node : Node} (h : ⟨join, .group inner⟩ ∈ links)
      (hinner : Contains inner node) : Contains links node

theorem Link.Contains.wellFormed {links : List Link} {node : Node} (h : Link.Contains links node)
    (hlinks : ∀ link ∈ links, link.node.WellFormed) : node.WellFormed := by
  induction h with
  | here hmem => exact hlinks _ hmem
  | within hmem _ ih =>
    have hgroup := hlinks _ hmem
    cases hgroup with
    | group _ hinner => exact ih hinner

/-- A node that is well formed, or that is left out. -/
def Node.IsSound (node : Node) : Prop :=
  node.isEmpty = false → node.WellFormed

theorem Node.isSound_fragment (sql : String) : (Node.fragment sql).IsSound := by
  intro hempty
  have hne : sql ≠ "" := by simpa [Node.isEmpty] using hempty
  exact .fragment hne

theorem Node.isSound_group {links : List Link} (h : ∀ link ∈ links, link.node.WellFormed) :
    (Node.group links).IsSound := by
  intro hempty
  have hne : links ≠ [] := by simpa [Node.isEmpty] using hempty
  exact .group hne h

theorem Node.IsSound.consUnlessEmpty {node : Node} (h : node.IsSound) (join : Join) {links : List Link}
    (hlinks : ∀ link ∈ links, link.node.WellFormed) :
    ∀ link ∈ node.consUnlessEmpty join links, link.node.WellFormed := by
  unfold Node.consUnlessEmpty
  split
  · exact hlinks
  · rename_i hempty
    exact List.forall_mem_cons.2 ⟨h (by simpa using hempty), hlinks⟩

theorem Choice.wellFormed_join {disjuncts conjuncts : List Node} (hd : ∀ node ∈ disjuncts, node.IsSound)
    (hc : ∀ node ∈ conjuncts, node.IsSound) :
    ∀ link ∈ Choice.join disjuncts conjuncts, link.node.WellFormed := by
  have hpresent : ∀ nodes : List Node, (∀ node ∈ nodes, node.IsSound) →
      ∀ node ∈ nodes.filter fun node => !node.isEmpty, node.WellFormed := by
    intro nodes hnodes node hmem
    obtain ⟨hmem, hempty⟩ := List.mem_filter.1 hmem
    exact hnodes node hmem (by simpa using hempty)
  have hconjuncts := hpresent conjuncts hc
  unfold Choice.join
  dsimp only
  rw [List.forall_mem_append, List.forall_mem_map]
  refine ⟨hpresent disjuncts hd, ?_⟩
  generalize conjuncts.filter _ = nodes at hconjuncts ⊢
  cases nodes with
  | nil => simp
  | cons first rest => simpa using hconjuncts

/-! ## What filters compile to -/

section

variable {escaper : Escaper}

theorem gives_isComplete (key : Token) (c : Call) : Gives Comparison.IsComplete (c.compile escaper key) := by
  refine gives_bind fun operator => (gives_checkOperands operator _).bind fun _ hadmits =>
    gives_bind fun lhs => (gives_operands c.tokens).bind fun operands hoperands => gives_ok ?_
  have hlength : c.tokens.length = operands.length := by simpa using hoperands.length_eq
  rw [Comparison.isComplete_iff]
  rwa [hlength] at hadmits

/-- A key has to equal one value. -/
theorem gives_isSound_equate (key value : Token) : Gives Node.IsSound (key.equate escaper value) := by
  refine gives_bind fun lhs => ?_
  split
  · exact gives_ok (Node.isSound_fragment _)
  · cases lhs with
    | none => exact gives_bind fun sql => gives_ok (Node.isSound_fragment sql)
    | some lhs =>
      have hcomplete : ∀ operand, (Comparison.mk (some lhs) .eq [operand]).IsComplete := fun _ => rfl
      exact gives_bind fun operand => gives_ok fun _ => .comparison (hcomplete operand)

theorem gives_isSound_call (key : Token) (c : Call) :
    Gives (fun comparison => (Node.comparison comparison).IsSound) (c.compile escaper key) :=
  fun _ h _ => .comparison (gives_isComplete key c _ h)

theorem gives_isSound_template (key : Token) (sql : String) (args : List Token) :
    Gives Node.IsSound (Condition.compile escaper key (.template sql args)) := by
  refine gives_bind fun sql => gives_bind fun lhs => ?_
  cases lhs <;> exact gives_ok (Node.isSound_fragment _)

mutual

/-- The nodes of a filter are well formed. The induction is on the filter: whether a group is empty depends on
what its own entries compile to. -/
theorem gives_wellFormed : ∀ f : List Entry,
    Gives (fun links => ∀ link ∈ links, link.node.WellFormed) (Filter.compile escaper f)
  | [] => gives_ok (by simp)
  | ⟨join, key, condition⟩ :: rest =>
    (gives_isSound key condition).bind fun _ hnode => (gives_wellFormed rest).bind fun _ hlinks =>
      gives_ok (hnode.consUnlessEmpty join hlinks)
termination_by structural f => f

theorem gives_isSound (key : Token) : ∀ c : Condition, Gives Node.IsSound (c.compile escaper key)
  | .equals value => gives_isSound_equate key value
  | .call c => (gives_isSound_call key c).bind fun _ h => gives_ok h
  | .choice branches => (gives_isSound_branches branches).bind fun _ ⟨hd, hc⟩ =>
      gives_ok (Node.isSound_group (Choice.wellFormed_join hd hc))
  | .template sql args => gives_isSound_template key sql args
termination_by structural c => c

theorem gives_isSound_branches : ∀ bs : List Branch,
    Gives (fun nodes => (∀ node ∈ nodes.1, node.IsSound) ∧ ∀ node ∈ nodes.2, node.IsSound)
      (Branch.compileAll escaper bs)
  | [] => gives_ok (by simp)
  | .any key items :: rest =>
    (gives_isSound_disjuncts key items).bind fun _ hnodes => (gives_isSound_branches rest).bind fun _ ⟨hd, hc⟩ =>
      gives_ok ⟨List.forall_mem_append.2 ⟨hnodes, hd⟩, hc⟩
  | .all key condition :: rest =>
    (gives_isSound key condition).bind fun _ hnode => (gives_isSound_branches rest).bind fun _ ⟨hd, hc⟩ =>
      gives_ok ⟨hd, List.forall_mem_cons.2 ⟨hnode, hc⟩⟩
termination_by structural bs => bs

theorem gives_isSound_disjuncts (key : Token) : ∀ ds : List Disjunct,
    Gives (fun nodes => ∀ node ∈ nodes, node.IsSound) (Disjunct.compileAll escaper key ds)
  | [] => gives_ok (by simp)
  | item :: rest =>
    (gives_isSound_disjunct key item).bind fun _ hnode => (gives_isSound_disjuncts key rest).bind fun _ hnodes =>
      gives_ok (List.forall_mem_cons.2 ⟨hnode, hnodes⟩)
termination_by structural ds => ds

theorem gives_isSound_disjunct (key : Token) : ∀ d : Disjunct, Gives Node.IsSound (d.compile escaper key)
  | .equals value => gives_isSound_equate key value
  | .call c => (gives_isSound_call key c).bind fun _ h => gives_ok h
  | .filter entries => (gives_wellFormed entries).bind fun _ hlinks => gives_ok (Node.isSound_group hlinks)
termination_by structural d => d

end

end

/-! ## Texts -/

theorem Comparison.write_ne_empty (c : Comparison) : c.write ≠ "" := by
  have hkeyword : c.operator.keyword ≠ "" := by cases c.operator <;> decide
  have hone : c.writeOne ≠ "" := by simp [writeOne, hkeyword]
  have hlist : ∀ constant, constant ≠ "" → c.writeList constant ≠ "" := by
    intro constant hconstant
    unfold writeList
    split
    · exact hconstant
    · simp
  have hnull : ∀ keyword, keyword ≠ "" → c.writeNull keyword ≠ "" := by
    intro keyword hne
    simp [writeNull, hne]
  unfold write
  split
  · exact hlist "1=0" (by decide)
  · exact hlist "1=1" (by decide)
  · simp [writeBounds]
  · simp [writeBounds]
  · split
    · exact hnull "IS NULL" (by decide)
    · exact hone
  · split
    · exact hnull "IS NOT NULL" (by decide)
    · exact hone
  all_goals exact hone

theorem Node.WellFormed.isEmpty {node : Node} (h : node.WellFormed) : node.isEmpty = false := by
  cases h with
  | comparison => rfl
  | group hne => simpa [Node.isEmpty] using hne
  | fragment hne => simpa [Node.isEmpty] using hne

theorem Node.WellFormed.write_ne_empty {node : Node} (h : node.WellFormed) : node.write ≠ "" := by
  cases h with
  | comparison => exact Comparison.write_ne_empty _
  | group => simp [Node.write]
  | fragment hne => exact hne

theorem Link.writeAll_eq_empty_iff {links : List Link} (h : ∀ link ∈ links, link.node.WellFormed) :
    Link.writeAll links = "" ↔ links = [] := by
  cases links with
  | nil => simp [Link.writeAll]
  | cons link rest =>
    obtain ⟨join, node⟩ := link
    have hne : node.write ≠ "" := (h ⟨join, node⟩ List.mem_cons_self).write_ne_empty
    simp [Link.writeAll, hne]

/-- Texts with one join between two of them. -/
def Join.separate : List (Join × String) → String
  | [] => ""
  | part :: rest => part.2 ++ String.join (rest.map fun part => " " ++ part.1.keyword ++ " " ++ part.2)

theorem Link.writeAll_eq_separate (links : List Link) :
    Link.writeAll links = Join.separate (links.map fun link => (link.join, link.node.write)) := by
  have hrest : ∀ links : List Link, Link.writeRest links =
      String.join (links.map fun link => " " ++ link.join.keyword ++ " " ++ link.node.write) := by
    intro links
    induction links with
    | nil => rfl
    | cons link rest ih =>
      obtain ⟨join, node⟩ := link
      simp [Link.writeRest, ih]
  cases links with
  | nil => rfl
  | cons link rest =>
    obtain ⟨join, node⟩ := link
    simp [Link.writeAll, Join.separate, hrest, Function.comp_def]

/-! ## Signs -/

namespace Sign

/-- Whether an operand may start with the sign. -/
def startsOperand : Sign → Bool
  | .atom _ | .opening => true
  | .join _ | .closing => false

/-- Whether an operand may end with the sign. -/
def endsOperand : Sign → Bool
  | .atom _ | .closing => true
  | .join _ | .opening => false

/-- After an operand there is a join or the end of a group, and anywhere else there is an operand. -/
def MayFollow (s t : Sign) : Prop :=
  t.startsOperand = !s.endsOperand

/-- Signs that can stand in parentheses: there is an operand at either end, one join between two operands, and
something in all parentheses. -/
def IsRegular (ss : List Sign) : Prop :=
  List.IsChain MayFollow (.opening :: (ss ++ [.closing]))

theorem isRegular_atom (text : String) : IsRegular [.atom text] := by
  simp [IsRegular, MayFollow, startsOperand, endsOperand]

/-- What may follow a sign depends on whether an operand ends with it. -/
theorem isChain_cons_congr {s s' : Sign} (h : s.endsOperand = s'.endsOperand) {ss : List Sign} :
    List.IsChain MayFollow (s :: ss) ↔ List.IsChain MayFollow (s' :: ss) := by
  cases ss with
  | nil => simp
  | cons t ss => simp [List.isChain_cons_cons, MayFollow, h]

/-- After regular signs, another sign that starts no operand may stand in place of the parenthesis. -/
theorem IsRegular.isChain_append {ss : List Sign} (h : IsRegular ss) {t : Sign} (ht : t.startsOperand = false) :
    List.IsChain MayFollow (.opening :: ss ++ [t]) := by
  have h' : List.IsChain MayFollow (.opening :: ss ++ [.closing]) := h
  rw [List.isChain_append] at h' ⊢
  obtain ⟨hss, -, hlast⟩ := h'
  refine ⟨hss, List.isChain_singleton t, ?_⟩
  have hfollows : ∀ s : Sign, MayFollow s .closing → MayFollow s t := by
    intro s hs
    have hclosing : false = !s.endsOperand := hs
    exact ht.trans hclosing
  simpa using fun s hs => hfollows s (hlast s hs .closing rfl)

theorem IsRegular.parentheses {ss : List Sign} (h : IsRegular ss) :
    IsRegular (.opening :: (ss ++ [.closing])) := by
  have hinner : List.IsChain MayFollow (.opening :: (ss ++ [.closing])) := h
  have hopening : MayFollow .opening .opening := rfl
  have hclosing : MayFollow .closing .closing := rfl
  have houter : List.IsChain MayFollow (.opening :: ss ++ .closing :: [.closing]) :=
    List.isChain_split.2 ⟨hinner, by simpa using hclosing⟩
  have hwhole : List.IsChain MayFollow (.opening :: .opening :: (ss ++ .closing :: [.closing])) :=
    List.isChain_cons_cons.2 ⟨hopening, houter⟩
  simpa [IsRegular] using hwhole

/-- Two regular sequences with a join between them. -/
theorem IsRegular.join {ss ts : List Sign} (h : IsRegular ss) (j : Join) (ht : IsRegular ts) :
    IsRegular (ss ++ .join j :: ts) := by
  have hleft : List.IsChain MayFollow (.opening :: ss ++ [.join j]) := h.isChain_append rfl
  have hends : endsOperand .opening = endsOperand (.join j) := rfl
  have hright : List.IsChain MayFollow (.join j :: (ts ++ [.closing])) := (isChain_cons_congr hends).1 ht
  have hwhole : List.IsChain MayFollow (.opening :: ss ++ .join j :: (ts ++ [.closing])) :=
    List.isChain_split.2 ⟨hleft, hright⟩
  simpa [IsRegular] using hwhole

end Sign

theorem Link.isRegular_signsAll {links : List Link} (hne : links ≠ [])
    (h : ∀ link ∈ links, Sign.IsRegular link.node.signs) : Sign.IsRegular (Link.signsAll links) := by
  have hrest : ∀ (rest : List Link), (∀ link ∈ rest, Sign.IsRegular link.node.signs) →
      ∀ ss, Sign.IsRegular ss → Sign.IsRegular (ss ++ Link.signsRest rest) := by
    intro rest
    induction rest with
    | nil =>
      intro _ ss hss
      simpa [Link.signsRest] using hss
    | cons link rest ih =>
      intro hlinks ss hss
      obtain ⟨join, node⟩ := link
      obtain ⟨hnode, hlinks⟩ := List.forall_mem_cons.1 hlinks
      exact hss.join join (ih hlinks node.signs hnode)
  obtain ⟨⟨join, node⟩, rest, rfl⟩ := List.exists_cons_of_ne_nil hne
  obtain ⟨hnode, hlinks⟩ := List.forall_mem_cons.1 h
  exact hrest rest hlinks node.signs hnode

theorem Node.WellFormed.isRegular {node : Node} (h : node.WellFormed) : Sign.IsRegular node.signs := by
  induction h with
  | comparison => exact Sign.isRegular_atom _
  | group hne _ ih => exact (Link.isRegular_signsAll hne ih).parentheses
  | fragment => exact Sign.isRegular_atom _

theorem Link.mem_signsAll {s : Sign} {links : List Link} (h : s ∈ Link.signsAll links) :
    (∃ j, s = .join j) ∨ ∃ link ∈ links, s ∈ link.node.signs := by
  have hrest : ∀ links : List Link, s ∈ Link.signsRest links →
      (∃ j, s = .join j) ∨ ∃ link ∈ links, s ∈ link.node.signs := by
    intro links
    induction links with
    | nil => simp [Link.signsRest]
    | cons link rest ih =>
      intro hs
      obtain ⟨join, node⟩ := link
      simp only [Link.signsRest, List.mem_cons, List.mem_append] at hs
      rcases hs with rfl | hs | hs
      · exact .inl ⟨join, rfl⟩
      · exact .inr ⟨⟨join, node⟩, List.mem_cons_self, hs⟩
      · exact (ih hs).imp_right fun ⟨link', hmem, hs⟩ => ⟨link', List.mem_cons_of_mem _ hmem, hs⟩
  cases links with
  | nil => simp [Link.signsAll] at h
  | cons link rest =>
    obtain ⟨join, node⟩ := link
    rcases List.mem_append.1 h with hs | hs
    · exact .inr ⟨⟨join, node⟩, List.mem_cons_self, hs⟩
    · exact (hrest rest hs).imp_right fun ⟨link', hmem, hs⟩ => ⟨link', List.mem_cons_of_mem _ hmem, hs⟩

theorem Node.WellFormed.atom_ne_empty {node : Node} (h : node.WellFormed) {text : String}
    (htext : .atom text ∈ node.signs) : text ≠ "" := by
  induction h with
  | @comparison c =>
    have heq : text = c.write := by simpa [Node.signs] using htext
    exact heq ▸ c.write_ne_empty
  | @group links _ _ ih =>
    have hmem : Sign.atom text ∈ Link.signsAll links := by simpa [Node.signs] using htext
    rcases Link.mem_signsAll hmem with ⟨j, hj⟩ | ⟨link, hlink, hs⟩
    · cases hj
    · exact ih link hlink hs
  | @fragment sql hne =>
    have heq : text = sql := by simpa [Node.signs] using htext
    exact heq ▸ hne

/-! ## Spellings of operators -/

/-- The keyword of the operator that a text names, or the text if it names none. -/
def Operator.canonical (keyword : String) : String :=
  match ofKeyword? keyword with
  | some op => op.keyword
  | none => keyword

theorem Operator.ofKeyword_canonical (keyword : String) : ofKeyword (canonical keyword) = ofKeyword keyword := by
  unfold canonical
  cases h : ofKeyword? keyword with
  | none => rfl
  | some op => simp [ofKeyword, h, ofKeyword?_keyword]

def Call.canonical (c : Call) : Call :=
  ⟨Operator.canonical c.operator, c.operands⟩

mutual

/-- The filter with every operator by its keyword. -/
def Filter.canonical : List Entry → List Entry
  | [] => []
  | ⟨join, key, condition⟩ :: rest => ⟨join, key, Condition.canonical condition⟩ :: Filter.canonical rest
termination_by structural entries => entries

def Condition.canonical : Condition → Condition
  | .equals value => .equals value
  | .call c => .call c.canonical
  | .choice branches => .choice (Branch.canonicalAll branches)
  | .template sql args => .template sql args
termination_by structural condition => condition

def Branch.canonicalAll : List Branch → List Branch
  | [] => []
  | .any key items :: rest => .any key (Disjunct.canonicalAll items) :: Branch.canonicalAll rest
  | .all key condition :: rest => .all key (Condition.canonical condition) :: Branch.canonicalAll rest
termination_by structural branches => branches

def Disjunct.canonicalAll : List Disjunct → List Disjunct
  | [] => []
  | item :: rest => Disjunct.canonical item :: Disjunct.canonicalAll rest
termination_by structural items => items

def Disjunct.canonical : Disjunct → Disjunct
  | .equals value => .equals value
  | .call c => .call c.canonical
  | .filter entries => .filter (Filter.canonical entries)
termination_by structural d => d

end

section

variable (escaper : Escaper)

theorem Call.compile_canonical (key : Token) (c : Call) :
    c.canonical.compile escaper key = c.compile escaper key := by
  have htokens : c.canonical.tokens = c.tokens := rfl
  have hoperator : Operator.ofKeyword c.canonical.operator = Operator.ofKeyword c.operator :=
    Operator.ofKeyword_canonical c.operator
  simp only [Call.compile, htokens, hoperator]

mutual

/-- A filter compiles to the same however its operators are spelled. -/
theorem compile_canonical : ∀ f : List Entry,
    Filter.compile escaper (Filter.canonical f) = Filter.compile escaper f
  | [] => rfl
  | ⟨join, key, condition⟩ :: rest => by
    simp only [Filter.canonical, Filter.compile, condition_canonical key condition, compile_canonical rest]
termination_by structural f => f

theorem condition_canonical (key : Token) : ∀ c : Condition,
    c.canonical.compile escaper key = c.compile escaper key
  | .equals _ => rfl
  | .call c => by simp only [Condition.canonical, Condition.compile, Call.compile_canonical]
  | .choice branches => by simp only [Condition.canonical, Condition.compile, branches_canonical branches]
  | .template _ _ => rfl
termination_by structural c => c

theorem branches_canonical : ∀ bs : List Branch,
    Branch.compileAll escaper (Branch.canonicalAll bs) = Branch.compileAll escaper bs
  | [] => rfl
  | .any key items :: rest => by
    simp only [Branch.canonicalAll, Branch.compileAll, disjuncts_canonical key items, branches_canonical rest]
  | .all key condition :: rest => by
    simp only [Branch.canonicalAll, Branch.compileAll, condition_canonical key condition, branches_canonical rest]
termination_by structural bs => bs

theorem disjuncts_canonical (key : Token) : ∀ ds : List Disjunct,
    Disjunct.compileAll escaper key (Disjunct.canonicalAll ds) = Disjunct.compileAll escaper key ds
  | [] => rfl
  | item :: rest => by
    simp only [Disjunct.canonicalAll, Disjunct.compileAll, disjunct_canonical key item,
      disjuncts_canonical key rest]
termination_by structural ds => ds

theorem disjunct_canonical (key : Token) : ∀ d : Disjunct,
    d.canonical.compile escaper key = d.compile escaper key
  | .equals _ => rfl
  | .call c => by simp only [Disjunct.canonical, Disjunct.compile, Call.compile_canonical]
  | .filter entries => by simp only [Disjunct.canonical, Disjunct.compile, compile_canonical entries]
termination_by structural d => d

end

end

/-! ## Clauses -/

/-- How a group is written. -/
structure Link.IsWritten (links : List Link) : Prop where
  /-- it is empty just if nothing is written -/
  isEmpty_iff : (Clause.of links).isEmpty = true ↔ (Clause.of links).write = ""
  /-- the text has the texts of the nodes, and one join between two of them -/
  write_eq : (Clause.of links).write = Join.separate (links.map fun link => (link.join, link.node.write))
  /-- it consists of these signs -/
  spell_eq : Sign.spell (Link.signsAll links) = (Clause.of links).write
  /-- no comparison and no fragment is written as an empty text -/
  atom : ∀ text, .atom text ∈ Link.signsAll links → text ≠ ""
  /-- no parentheses are empty, and no join comes first, last or next to another one -/
  isRegular : links ≠ [] → Sign.IsRegular (Link.signsAll links)

/-- What is to be said of a clause, at every depth. -/
structure Clause.IsWhole (links : List Link) : Prop where
  /-- a comparison has the operands that its operator takes, and they are those that are written -/
  comparison : ∀ c, Link.Contains links (.comparison c) →
    c.IsComplete ∧ c.positions = c.operands.map Comparison.operandText
  /-- a nested group has nodes -/
  group : ∀ inner, Link.Contains links (.group inner) → inner ≠ []
  /-- a fragment has a text -/
  fragment : ∀ sql, Link.Contains links (.fragment sql) → sql ≠ ""
  /-- every node is written -/
  write : ∀ node, Link.Contains links node → node.isEmpty = false ∧ node.write ≠ ""
  /-- the clause and its groups are written as their nodes and joins -/
  level : ∀ level, level = links ∨ Link.Contains links (.group level) → Link.IsWritten level

theorem Link.isWritten {links : List Link} (h : ∀ link ∈ links, link.node.WellFormed) : Link.IsWritten links where
  isEmpty_iff := by
    have hwrite : (Clause.of links).write = "" ↔ links = [] := Link.writeAll_eq_empty_iff h
    rw [hwrite]
    exact List.isEmpty_iff
  write_eq := Link.writeAll_eq_separate links
  spell_eq := spell_signsAll links
  atom := by
    intro text htext
    rcases Link.mem_signsAll htext with ⟨j, hj⟩ | ⟨link, hlink, hs⟩
    · cases hj
    · exact (h link hlink).atom_ne_empty hs
  isRegular hne := Link.isRegular_signsAll hne fun link hlink => (h link hlink).isRegular

theorem Clause.isWhole {links : List Link} (h : ∀ link ∈ links, link.node.WellFormed) : Clause.IsWhole links where
  comparison c hc := by
    cases hc.wellFormed h with
    | comparison hcomplete =>
      exact ⟨hcomplete, Comparison.positions_of_admits (Comparison.isComplete_iff.1 hcomplete)⟩
  group inner hinner := by
    cases hinner.wellFormed h with
    | group hne => exact hne
  fragment sql hsql := by
    cases hsql.wellFormed h with
    | fragment hne => exact hne
  write node hnode := ⟨(hnode.wellFormed h).isEmpty, (hnode.wellFormed h).write_ne_empty⟩
  level level hlevel := by
    rcases hlevel with rfl | hlevel
    · exact Link.isWritten h
    · cases hlevel.wellFormed h with
      | group _ hinner => exact Link.isWritten hinner

/-- Under either policy, a clause that is not voided is whole: at every depth no operand is missing, nothing is
empty, and the joins stand between the texts of the nodes. Calls that name the same operator compile to the same
comparison, and so filters that differ only in how they name operators have the same clause. -/
theorem Compiler.wellFormed_clause (c : Compiler) :
    (∀ (f : Filter) (links : List Link), (c.filter f).result = .ok (.of links) → Clause.IsWhole links) ∧
      (∀ (key : Token) (operands : List Operand) (keyword keyword' : String) (op : Operator),
        Operator.ofKeyword? keyword = some op → Operator.ofKeyword? keyword' = some op →
          Call.compile c.escaper key ⟨keyword, operands⟩ = Call.compile c.escaper key ⟨keyword', operands⟩) ∧
      ∀ f f' : Filter, Filter.canonical f = Filter.canonical f' → c.filter f = c.filter f' := by
  refine ⟨fun f links h => ?_, fun key operands keyword keyword' op h h' => ?_, fun f f' h => ?_⟩
  · exact Clause.isWhole (gives_wellFormed f links (compile_of_filter h))
  · have hcanonical : Call.canonical ⟨keyword, operands⟩ = Call.canonical ⟨keyword', operands⟩ := by
      simp [Call.canonical, Operator.canonical, h, h']
    rw [← Call.compile_canonical, hcanonical, Call.compile_canonical]
  · have hcompile : Filter.compile c.escaper f = Filter.compile c.escaper f' := by
      rw [← compile_canonical, h, compile_canonical]
    simp only [Compiler.filter, hcompile]

/-- A choice with a part that is not written at each depth, and two operators that are named by these words. -/
def bounded (within among : String) : Filter :=
  [⟨.or, .blank, .equals .blank⟩,
    ⟨.and, .blank, .choice [
      .any (.column "age") [.call ⟨within, [.list [.data "18", .null]]⟩, .filter [⟨.or, .blank, .choice []⟩]],
      .all (.column "id") (.call ⟨among, []⟩),
      .all .blank (.template "" [])]⟩,
    ⟨.or, .column "name", .equals .blank⟩]

theorem Compiler.wellFormed_clause_bounded :
    ∃ links, (Compiler.filter {} (bounded " not  Between" "in")).result = .ok (.of links) ∧
      (Clause.of links).write = "(`age` NOT BETWEEN '18' AND NULL OR 1=0) OR `name`" ∧
      Clause.IsWhole links ∧
      Compiler.filter {} (bounded " not  Between" "in") = Compiler.filter {} (bounded "NOT BETWEEN" "IN") := by
  have hwithin : Operator.canonical " not  Between" = Operator.canonical "NOT BETWEEN" := by decide +kernel
  have hamong : Operator.canonical "in" = Operator.canonical "IN" := by decide +kernel
  have hsame : Filter.canonical (bounded " not  Between" "in") = Filter.canonical (bounded "NOT BETWEEN" "IN") := by
    simp [bounded, Filter.canonical, Condition.canonical, Branch.canonicalAll, Disjunct.canonicalAll,
      Disjunct.canonical, Call.canonical, hwithin, hamong]
  obtain ⟨hwhole, -, hfilter⟩ := wellFormed_clause {}
  refine ⟨_, rfl, by decide +kernel, hwhole (bounded " not  Between" "in") _ rfl, hfilter _ _ hsame⟩

end GuardedSql
