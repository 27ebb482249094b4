import GuardedSql.Proofs.PlainStatement
import GuardedSql.Proofs.WellFormed

/-!
# The condition of a deletion

A filter can come to nothing in many ways: it has no entries, or choices without alternatives or with alternatives
that come to nothing themselves, or a blank key with a blank value, or a template without a text. Which filters do
is seen from the filter alone, and then, and only then, its clause is empty. A deletion has a condition that no row
satisfies in place of such a clause, unless everything may be deleted. A voided clause is empty too, but ends the
deletion.

- `Filter.isVacuous`: filters that come to nothing.
- `gives_isVacuous`: the nodes of a filter are none just if it comes to nothing, by induction on the filter.
- `isVacuous_iff`: a filter comes to nothing just if all of its entries do.
- `Delete.isConditioned`: when a deletion has a condition, and which.
-/

namespace GuardedSql

/-! ## Filters that come to nothing -/

/-- There is nothing but places, and arguments that are left out. -/
def Template.isVacuous (sql : String) (args : List Token) : Bool :=
  sql.toList.all (· == '?') && args.all Token.isBlank

mutual

/-- Whether nothing is written of a filter. -/
def Filter.isVacuous : List Entry → Bool
  | [] => true
  | ⟨_, key, condition⟩ :: rest => Condition.isVacuous key condition && Filter.isVacuous rest
termination_by structural entries => entries

def Condition.isVacuous (key : Token) : Condition → Bool
  | .equals value => key.isBlank && value.isBlank
  | .call _ => false
  | .choice branches => Branch.areVacuous branches
  | .template sql args => key.isBlank && Template.isVacuous sql args
termination_by structural condition => condition

def Branch.areVacuous : List Branch → Bool
  | [] => true
  | .any key items :: rest => Disjunct.areVacuous key items && Branch.areVacuous rest
  | .all key condition :: rest => Condition.isVacuous key condition && Branch.areVacuous rest
termination_by structural branches => branches

def Disjunct.areVacuous (key : Token) : List Disjunct → Bool
  | [] => true
  | item :: rest => Disjunct.isVacuous key item && Disjunct.areVacuous key rest
termination_by structural items => items

def Disjunct.isVacuous (key : Token) : Disjunct → Bool
  | .equals value => key.isBlank && value.isBlank
  | .call _ => false
  | .filter entries => Filter.isVacuous entries
termination_by structural d => d

end

section

variable {escaper : Escaper}

theorem isEmpty_append {α : Type} (as bs : List α) : (as ++ bs).isEmpty = (as.isEmpty && bs.isEmpty) := by
  cases as <;> rfl

theorem gives_isEmpty_emit (t : Token) : Gives (fun text => text.isEmpty = t.isBlank) (t.emit escaper) := by
  intro text h
  rw [Bool.eq_iff_iff, String.isEmpty_iff, Token.emit_eq_empty_iff h]

/-- The text of a key, if it has one. -/
theorem gives_isEmpty_emitKey (key : Token) :
    Gives (fun lhs => lhs.isNone = key.isBlank ∧ (lhs.getD "").isEmpty = key.isBlank) (key.emitKey escaper) := by
  unfold Token.emitKey
  split
  · rename_i hblank
    exact gives_ok ⟨hblank.symm, hblank.symm⟩
  · rename_i hblank
    have hfalse : key.isBlank = false := Bool.eq_false_iff.2 hblank
    exact (gives_isEmpty_emit key).map fun text htext => ⟨hfalse.symm, htext⟩

theorem gives_isEmpty_equate (key value : Token) :
    Gives (fun node => node.isEmpty = (key.isBlank && value.isBlank)) (key.equate escaper value) := by
  refine (gives_isEmpty_emitKey key).bind fun lhs ⟨hnone, hempty⟩ => ?_
  split
  · rename_i hblank
    refine gives_ok ?_
    rw [hblank, Bool.and_true]
    exact hempty
  · rename_i hblank
    have hfalse : value.isBlank = false := Bool.eq_false_iff.2 hblank
    rw [hfalse, Bool.and_false]
    cases lhs with
    | some lhs => exact gives_bind fun operand => gives_ok rfl
    | none => exact (gives_isEmpty_emit value).bind fun text htext => gives_ok (htext.trans hfalse)

/-- Each place has an argument, so the text is empty if there is nothing but places and nothing in them. -/
theorem gives_isEmpty_fill {cs : List Char} {args : List Token} (h : cs.count '?' = args.length) :
    Gives (fun text => text.isEmpty = (cs.all (· == '?') && args.all Token.isBlank))
      (Template.fill escaper cs args) := by
  induction cs generalizing args with
  | nil =>
    obtain rfl := List.eq_nil_of_length_eq_zero h.symm
    exact gives_ok rfl
  | cons c cs ih =>
    by_cases hc : c = '?'
    · subst hc
      cases args with
      | nil => simp at h
      | cons arg args =>
        have hrest : cs.count '?' = args.length := by simpa using h
        refine (gives_isEmpty_emit arg).bind fun text htext => (ih hrest).bind fun rest hempty => gives_ok ?_
        have htoList : text.toList.isEmpty = text.isEmpty := by
          rw [Bool.eq_iff_iff, List.isEmpty_iff, String.isEmpty_iff, String.toList_eq_nil_iff]
        calc (text.toList ++ rest).isEmpty
            = (text.isEmpty && rest.isEmpty) := by rw [isEmpty_append, htoList]
          _ = (arg.isBlank && (cs.all (· == '?') && args.all Token.isBlank)) := by rw [htext, hempty]
          _ = (cs.all (· == '?') && (arg.isBlank && args.all Token.isBlank)) := Bool.and_left_comm _ _ _
          _ = (('?' :: cs).all (· == '?') && (arg :: args).all Token.isBlank) := by simp
    · have hrest : cs.count '?' = args.length := by rwa [List.count_cons_of_ne hc] at h
      simp only [Template.fill, hc, false_implies, implies_true]
      refine gives_bind fun rest => gives_ok ?_
      simp [hc]

theorem gives_isEmpty_compile (sql : String) (args : List Token) :
    Gives (fun text => text.isEmpty = Template.isVacuous sql args) (Template.compile escaper sql args) := by
  unfold Template.compile
  dsimp only
  split
  · exact fun _ h => nomatch h
  · rename_i hcount
    have hplaces : sql.toList.count '?' = args.length := not_not.1 hcount
    refine gives_bind fun _ => (gives_isEmpty_fill hplaces).bind fun cs hcs => gives_ok ?_
    have hofList : (String.ofList cs).isEmpty = cs.isEmpty := by
      rw [Bool.eq_iff_iff, String.isEmpty_iff, List.isEmpty_iff]
      simp
    rw [hofList, hcs, Template.isVacuous]

theorem gives_isEmpty_template (key : Token) (sql : String) (args : List Token) :
    Gives (fun node => node.isEmpty = (key.isBlank && Template.isVacuous sql args))
      (Condition.compile escaper key (.template sql args)) := by
  refine (gives_isEmpty_compile sql args).bind fun text htext => ?_
  refine (gives_isEmpty_emitKey key).bind fun lhs ⟨hlhs, _⟩ => ?_
  rw [← hlhs, ← htext]
  cases lhs with
  | some lhs =>
    have hlead : (lhs ++ " " ++ text).isEmpty = false := by simp [Bool.eq_false_iff]
    exact gives_ok hlead
  | none => exact gives_ok rfl

theorem Choice.isEmpty_join (disjuncts conjuncts : List Node) :
    (Choice.join disjuncts conjuncts).isEmpty = (disjuncts.all Node.isEmpty && conjuncts.all Node.isEmpty) := by
  have hpresent : ∀ nodes : List Node, (nodes.filter fun node => !node.isEmpty).isEmpty = nodes.all Node.isEmpty := by
    intro nodes
    rw [Bool.eq_iff_iff, List.isEmpty_iff]
    simp
  unfold Choice.join
  dsimp only
  rw [isEmpty_append, List.isEmpty_map, ← hpresent disjuncts, ← hpresent conjuncts]
  cases conjuncts.filter fun node => !node.isEmpty <;> rfl

mutual

/-- The nodes of a filter are none just if it comes to nothing. The induction is on the filter: what is left of an
entry depends on what is left of the filters in it. -/
theorem gives_isVacuous : ∀ f : List Entry,
    Gives (fun links => links.isEmpty = Filter.isVacuous f) (Filter.compile escaper f)
  | [] => gives_ok rfl
  | ⟨join, key, condition⟩ :: rest =>
    (gives_isEmpty key condition).bind fun node hnode => (gives_isVacuous rest).bind fun links hlinks =>
      gives_ok (by
        rw [Filter.isVacuous, ← hnode, ← hlinks, Node.consUnlessEmpty]
        cases node.isEmpty <;> rfl)
termination_by structural f => f

theorem gives_isEmpty (key : Token) : ∀ c : Condition,
    Gives (fun node => node.isEmpty = Condition.isVacuous key c) (c.compile escaper key)
  | .equals value => gives_isEmpty_equate key value
  | .call _ => gives_bind fun _ => gives_ok rfl
  | .choice branches => (gives_isEmpty_branches branches).bind fun _ hnodes => gives_ok (by
      rw [Condition.isVacuous, ← hnodes]
      exact Choice.isEmpty_join _ _)
  | .template sql args => gives_isEmpty_template key sql args
termination_by structural c => c

theorem gives_isEmpty_branches : ∀ bs : List Branch,
    Gives (fun nodes => (nodes.1.all Node.isEmpty && nodes.2.all Node.isEmpty) = Branch.areVacuous bs)
      (Branch.compileAll escaper bs)
  | [] => gives_ok rfl
  | .any key items :: rest =>
    (gives_isEmpty_disjuncts key items).bind fun _ hnodes => (gives_isEmpty_branches rest).bind fun _ hrest =>
      gives_ok (by
        rw [Branch.areVacuous, ← hnodes, ← hrest, List.all_append, Bool.and_assoc])
  | .all key condition :: rest =>
    (gives_isEmpty key condition).bind fun _ hnode => (gives_isEmpty_branches rest).bind fun _ hrest =>
      gives_ok (by
        rw [Branch.areVacuous, ← hnode, ← hrest, List.all_cons, Bool.and_left_comm])
termination_by structural bs => bs

theorem gives_isEmpty_disjuncts (key : Token) : ∀ ds : List Disjunct,
    Gives (fun nodes => nodes.all Node.isEmpty = Disjunct.areVacuous key ds) (Disjunct.compileAll escaper key ds)
  | [] => gives_ok rfl
  | item :: rest =>
    (gives_isEmpty_disjunct key item).bind fun _ hnode => (gives_isEmpty_disjuncts key rest).bind fun _ hnodes =>
      gives_ok (by rw [Disjunct.areVacuous, ← hnode, ← hnodes, List.all_cons])
termination_by structural ds => ds

theorem gives_isEmpty_disjunct (key : Token) : ∀ d : Disjunct,
    Gives (fun node => node.isEmpty = Disjunct.isVacuous key d) (d.compile escaper key)
  | .equals value => gives_isEmpty_equate key value
  | .call _ => gives_bind fun _ => gives_ok rfl
  | .filter entries => (gives_isVacuous entries).bind fun _ hlinks => gives_ok hlinks
termination_by structural d => d

end

/-- The entry compiles to nothing. -/
def Entry.IsNothing (escaper : Escaper) (e : Entry) : Prop :=
  ∃ node, e.condition.compile escaper e.key = .ok node ∧ node.isEmpty = true

theorem isVacuous_iff {f : Filter} {links : List Link} (h : Filter.compile escaper f = .ok links) :
    Filter.isVacuous f = true ↔ ∀ e ∈ f, e.IsNothing escaper := by
  induction f generalizing links with
  | nil => simp [Filter.isVacuous]
  | cons e rest ih =>
    obtain ⟨join, key, condition⟩ := e
    obtain ⟨node, hnode, h⟩ := bind_eq_ok_iff.1 h
    obtain ⟨links, hlinks, -⟩ := bind_eq_ok_iff.1 h
    have hempty : node.isEmpty = Condition.isVacuous key condition := gives_isEmpty key condition node hnode
    have hentry : Entry.IsNothing escaper ⟨join, key, condition⟩ ↔ Condition.isVacuous key condition = true := by
      simp [Entry.IsNothing, hnode, hempty]
    rw [Filter.isVacuous, Bool.and_eq_true, List.forall_mem_cons, hentry, ih hlinks]

end

/-! ## Deletions -/

namespace Delete

variable {c : Compiler} {q : Delete}

theorem build_ready_iff {sql : String} {kind : Kind} {labels : List Label} :
    (q.build c).result = .ok (.ready sql kind labels) ↔ kind = .delete ∧ labels = [] ∧
      ∃ table links, c.table q.table = .ok table ∧ (c.filter q.filter).result = .ok (.of links) ∧
        "DELETE FROM " ++ table ++ tail q.allowAll (.of links) = sql := by
  rw [build, Compiler.guarded_ready_iff, compile, Logged.result_bind, bind_eq_ok_iff]
  simp only [Logged.result_bind, bind_eq_ok_iff]
  constructor
  · rintro ⟨table, htable, clause, hclause, h⟩
    cases clause with
    | voided => cases h
    | of links =>
      cases h
      exact ⟨rfl, rfl, table, links, htable, hclause, rfl⟩
  · rintro ⟨rfl, rfl, table, links, htable, hclause, rfl⟩
    exact ⟨table, htable, .of links, hclause, rfl⟩

/-- The condition of a deletion whose filter has these nodes. No row satisfies the one that stands for nothing. -/
def condition (q : Delete) (links : List Link) : String :=
  if Filter.isVacuous q.filter then "1=0" else (Clause.of links).write

/-- How a deletion is written. -/
structure IsConditioned (c : Compiler) (q : Delete) (table : String) (links : List Link) (sql : String) : Prop where
  table_eq : c.table q.table = .ok table
  filter_eq : (c.filter q.filter).result = .ok (.of links)
  /-- nothing is left of the filter just if nothing is left of each entry -/
  isVacuous_iff : Filter.isVacuous q.filter = true ↔ ∀ e ∈ q.filter, e.IsNothing c.escaper
  condition_ne : q.condition links ≠ ""
  /-- it has the condition, unless everything may be deleted and nothing is left of the filter -/
  conditional : q.allowAll = false ∨ Filter.isVacuous q.filter = false →
    sql = "DELETE FROM " ++ table ++ " WHERE " ++ q.condition links
  unconditional_iff : sql = "DELETE FROM " ++ table ↔ q.allowAll = true ∧ Filter.isVacuous q.filter = true

theorem tail_eq {links : List Link} (h : links.isEmpty = Filter.isVacuous q.filter) :
    tail q.allowAll (.of links) =
      if q.allowAll && Filter.isVacuous q.filter then "" else " WHERE " ++ q.condition links := by
  have hwrite : (Clause.of links).write = Link.writeAll links := rfl
  rw [tail_of, h, condition, hwrite]
  cases Filter.isVacuous q.filter with
  | false => simp
  | true => cases q.allowAll <;> rfl

theorem condition_ne_empty {links : List Link} (h : Filter.compile c.escaper q.filter = .ok links) :
    q.condition links ≠ "" := by
  have hempty : links.isEmpty = Filter.isVacuous q.filter := gives_isVacuous q.filter links h
  unfold condition
  split
  · decide
  · rename_i hvacuous
    have hne : links ≠ [] := by
      intro hnil
      rw [hnil] at hempty
      exact hvacuous hempty.symm
    exact fun hwrite => hne ((Link.writeAll_eq_empty_iff (gives_wellFormed q.filter links h)).1 hwrite)

/-- A deletion that is built has a condition with a text, and one that no row satisfies if nothing is left of each
entry of its filter; it has no condition only in that case, and if everything may be deleted. If the filter is
voided, there is no text, whatever may be deleted. -/
theorem isConditioned (c : Compiler) (q : Delete) :
    (∀ sql kind labels, (q.build c).result = .ok (.ready sql kind labels) →
      ∃ table links, q.IsConditioned c table links sql) ∧
    ((c.filter q.filter).result = .ok .voided →
      ∀ statement, (q.build c).result = .ok statement → statement = .voided .delete ∧ statement.sql = "") := by
  constructor
  · intro sql kind labels h
    obtain ⟨-, -, table, links, htable, hfilter, hsql⟩ := build_ready_iff.1 h
    have hcompile := Compiler.compile_of_filter hfilter
    have hempty : links.isEmpty = Filter.isVacuous q.filter := gives_isVacuous q.filter links hcompile
    have hne := condition_ne_empty hcompile
    rw [tail_eq hempty] at hsql
    refine ⟨table, links, htable, hfilter, isVacuous_iff hcompile, hne, fun hcondition => ?_, ?_⟩
    · have hfalse : (q.allowAll && Filter.isVacuous q.filter) = false := Bool.and_eq_false_iff.2 hcondition
      rw [hfalse] at hsql
      rw [← hsql]
      exact String.append_assoc.symm
    · rw [← hsql, ← Bool.and_eq_true]
      cases q.allowAll && Filter.isVacuous q.filter with
      | false => simp
      | true => simp
  · intro hvoided statement h
    have hstatement : statement = .voided .delete := by
      rcases Compiler.eq_of_onSuspicion h with hcompile | hinstead
      · rw [compile, Logged.result_bind] at hcompile
        obtain ⟨table, -, hcompile⟩ := bind_eq_ok_iff.1 hcompile
        rw [Logged.result_bind, hvoided] at hcompile
        exact (Except.ok.inj hcompile).symm
      · exact hinstead
    exact ⟨hstatement, congrArg Statement.sql hstatement⟩

/-- A filter with several entries that come to nothing, and one with a suspicious one among them. -/
theorem isConditioned_nested :
    let f : Filter := [
      ⟨.or, .blank, .equals .blank⟩,
      ⟨.and, .blank, .choice [
        .any (.column "a") [.filter [⟨.or, .blank, .choice []⟩]],
        .all .blank (.template "?" [.blank])]⟩]
    let q : Delete := { table := .column "t", filter := f }
    let q' : Delete := { q with filter := f.eq "b" (.raw "'"), allowAll := true }
    let void : Compiler := ⟨Literal.escape, .void⟩
    (∃ table links, q.IsConditioned {} table links "DELETE FROM `t` WHERE 1=0") ∧
      (∃ table links, q.allowingAll.IsConditioned {} table links "DELETE FROM `t`") ∧
      (q'.build void).result = .ok (.voided .delete) ∧ (Statement.voided .delete).sql = "" := by
  intro f q q' void
  have hbuild : (q.build {}).result = .ok (.ready "DELETE FROM `t` WHERE 1=0" .delete []) := by decide +kernel
  have hall : (q.allowingAll.build {}).result = .ok (.ready "DELETE FROM `t`" .delete []) := by decide +kernel
  have hvoided : (void.filter q'.filter).result = .ok .voided := rfl
  have hresult : (q'.build void).result = .ok (.voided .delete) := by decide +kernel
  exact ⟨(isConditioned {} q).1 _ _ _ hbuild, (isConditioned {} q.allowingAll).1 _ _ _ hall, hresult,
    ((isConditioned void q').2 hvoided _ hresult).2⟩

end Delete

end GuardedSql
