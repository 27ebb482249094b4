import GuardedSql.Proofs.Expression
import GuardedSql.Proofs.Outcome
import GuardedSql.Proofs.Suspicion

/-!
# Entries as conjuncts

The entries of a filter are written one after the other, and raw SQL and templates as they are, without parentheses.
So what an entry that is joined with `AND` takes part in depends on the texts beside it: an `OR` in one of them,
outside of parentheses, ends the alternative to which its neighbours belong.

- `text_expressionAll`: a clause as a written expression, whichever words its fragments are made of.
- `gives_links`, `compile_append`: the nodes of a filter come from its entries, in their order.
- `conjunct_admits`: a clause implies each entry beside which nothing has an `OR`, and `conjunct_escapes`: no other.
-/

namespace GuardedSql

open Word (Reading)

section

-- the words of which each fragment is made
variable (divide : String → Expression)

mutual

/-- A node as it is written. Comparisons are atoms. -/
def Node.expression : Node → Expression
  | .comparison c => .atom c.write
  | .group links => .parentheses "(" ")" (Link.expressionAll links)
  | .fragment sql => divide sql

/-- The nodes, with their joins between them. -/
def Link.expressionAll : List Link → Expression
  | [] => .atom ""
  | ⟨_, node⟩ :: rest => Link.expressionRest node.expression rest

/-- An expression, and the nodes after it, each after its join. -/
def Link.expressionRest (e : Expression) : List Link → Expression
  | [] => e
  | ⟨join, node⟩ :: rest => Link.expressionRest (.join join (" " ++ join.keyword ++ " ") e node.expression) rest

end

/-- Whether the rows of this truth assignment match, the fragments read word by word. A missing clause matches all
of them. -/
def Clause.admits (clause : Clause) (v : String → Bool) : Bool :=
  clause.isEmpty || Word.value? v (Link.expressionAll divide clause.links).words = some true

/-- Whether no `OR` stands outside of parentheses in what an entry writes. -/
def Entry.isConjunction (escaper : Escaper) (e : Entry) : Bool :=
  match e.condition.compile escaper e.key with
  | .ok node => (node.expression divide).isConjunction
  | .error _ => true

end

section

variable {divide : String → Expression}

mutual

theorem text_expression (h : ∀ sql, (divide sql).text = sql) : ∀ n : Node, (n.expression divide).text = n.write
  | .comparison c => Expression.text_atom c.write
  | .group links => by rw [Node.expression, Expression.text_parentheses, text_expressionAll h links, Node.write]
  | .fragment sql => h sql

/-- A clause is written as its words are spelled. -/
theorem text_expressionAll (h : ∀ sql, (divide sql).text = sql) : ∀ links : List Link,
    (Link.expressionAll divide links).text = Link.writeAll links
  | [] => rfl
  | ⟨_, node⟩ :: rest => by
    rw [Link.expressionAll, text_expressionRest h rest, text_expression h node, Link.writeAll]

theorem text_expressionRest (h : ∀ sql, (divide sql).text = sql) : ∀ (links : List Link) (e : Expression),
    (Link.expressionRest divide e links).text = e.text ++ Link.writeRest links
  | [], e => String.append_empty.symm
  | ⟨join, node⟩ :: rest, e => by
    rw [Link.expressionRest, text_expressionRest h rest, Expression.text_join, text_expression h node,
      Link.writeRest]
    simp only [String.append_assoc]

end

/-! ## Nodes joined with `AND` -/

/-- What has been read after nodes that are all joined with `AND`. -/
def Link.effectAll (divide : String → Expression) (v : String → Bool) (links : List Link) (l : Reading) : Reading :=
  links.foldl (fun l link => (link.node.expression divide).effect v l) l

variable {v : String → Bool}

theorem effect_expressionRest {links : List Link} (h : ∀ link ∈ links, link.join = .and) (e : Expression)
    (l : Reading) :
    (Link.expressionRest divide e links).effect v l = Link.effectAll divide v links (e.effect v l) := by
  induction links generalizing e with
  | nil => rfl
  | cons link links ih =>
    obtain ⟨join, node⟩ := link
    obtain ⟨rfl, hlinks⟩ := List.forall_mem_cons.1 h
    rw [Link.expressionRest, ih hlinks]
    rfl

/-- Where nothing has been read yet, an `AND` makes no difference. -/
theorem admits_iff {links : List Link} (h : ∀ link ∈ links, link.join = .and) :
    (Clause.of links).admits divide v = true ↔ (Link.effectAll divide v links {}).value = true := by
  cases links with
  | nil => exact iff_of_true rfl rfl
  | cons link links =>
    obtain ⟨join, node⟩ := link
    obtain ⟨-, h⟩ := List.forall_mem_cons.1 h
    have hv : Word.value? v (Link.expressionAll divide (⟨join, node⟩ :: links)).words =
        some (Link.effectAll divide v (⟨join, node⟩ :: links) {}).value := by
      rw [Expression.value?_words, Link.expressionAll, effect_expressionRest h]
      rfl
    rw [Clause.admits, Clause.links, hv]
    simp [Clause.isEmpty, Clause.links]

theorem effectAll_le (links : List Link) {l l' : Reading} (h : l.Le l') :
    (Link.effectAll divide v links l).Le (Link.effectAll divide v links l') := by
  induction links generalizing l l' with
  | nil => exact h
  | cons link links ih => exact ih (Expression.effect_le _ h)

/-- Between nodes no `NOT` is left. -/
theorem negated_effectAll (links : List Link) {l : Reading} (h : l.negated = false) :
    (Link.effectAll divide v links l).negated = false := by
  induction links generalizing l with
  | nil => exact h
  | cons link links ih => exact ih (Expression.negated_effect _ l)

/-- Nodes without an `OR` outside of parentheses can only make what is read before them hold less often. -/
theorem effectAll_le_self {links : List Link} {l : Reading} (hl : l.negated = false)
    (h : ∀ link ∈ links, (link.node.expression divide).isConjunction = true) :
    (Link.effectAll divide v links l).Le l := by
  induction links generalizing l with
  | nil => exact .refl l
  | cons link links ih =>
    obtain ⟨hlink, h⟩ := List.forall_mem_cons.1 h
    exact (ih (Expression.negated_effect _ l) h).trans (Expression.effect_le_self hlink hl)

/-- The nodes between others, of which none has an `OR` outside of parentheses, hold wherever all of them do. -/
theorem value_effectAll {before kept after : List Link}
    (hbefore : ∀ link ∈ before, (link.node.expression divide).isConjunction = true)
    (hafter : ∀ link ∈ after, (link.node.expression divide).isConjunction = true)
    (h : (Link.effectAll divide v (before ++ kept ++ after) {}).value = true) :
    (Link.effectAll divide v kept {}).value = true := by
  rw [Link.effectAll, List.foldl_append, List.foldl_append] at h
  have hb : (Link.effectAll divide v before {}).Le {} := effectAll_le_self rfl hbefore
  have hk : (Link.effectAll divide v kept (Link.effectAll divide v before {})).Le
      (Link.effectAll divide v kept {}) := effectAll_le kept hb
  have hnegated : (Link.effectAll divide v kept (Link.effectAll divide v before {})).negated = false :=
    negated_effectAll kept hb.negated
  exact hk.value ((effectAll_le_self hnegated hafter).value h)

end

/-! ## Entries and their nodes -/

section

variable {escaper : Escaper}

theorem consUnlessEmpty_append (join : Join) (node : Node) (links links' : List Link) :
    node.consUnlessEmpty join (links ++ links') = node.consUnlessEmpty join links ++ links' := by
  unfold Node.consUnlessEmpty
  split
  · rfl
  · rfl

theorem compile_append {f g : List Entry} {links : List Link} (h : Filter.compile escaper (f ++ g) = .ok links) :
    ∃ before after, Filter.compile escaper f = .ok before ∧ Filter.compile escaper g = .ok after ∧
      links = before ++ after := by
  induction f generalizing links with
  | nil => exact ⟨[], links, rfl, h, rfl⟩
  | cons e f ih =>
    obtain ⟨join, key, condition⟩ := e
    obtain ⟨node, hnode, h⟩ := bind_eq_ok_iff.1 h
    obtain ⟨links', hlinks, h⟩ := bind_eq_ok_iff.1 h
    obtain rfl : node.consUnlessEmpty join links' = links := Except.ok.inj h
    obtain ⟨before, after, hf, hg, rfl⟩ := ih hlinks
    have hbefore : Filter.compile escaper (⟨join, key, condition⟩ :: f) = .ok (node.consUnlessEmpty join before) :=
      bind_eq_ok_iff.2 ⟨node, hnode, bind_eq_ok_iff.2 ⟨before, hf, rfl⟩⟩
    exact ⟨_, after, hbefore, hg, consUnlessEmpty_append join node before after⟩

/-- What is said of the nodes of all entries holds of the nodes of a filter. -/
theorem gives_links {P : Join → Node → Prop} {f : List Entry}
    (h : ∀ e ∈ f, Gives (P e.join) (e.condition.compile escaper e.key)) :
    Gives (fun links => ∀ link ∈ links, P link.join link.node) (Filter.compile escaper f) := by
  induction f with
  | nil => exact gives_ok fun _ h => by cases h
  | cons e f ih =>
    obtain ⟨join, key, condition⟩ := e
    obtain ⟨he, hf⟩ := List.forall_mem_cons.1 h
    refine he.bind fun node hnode => (ih hf).bind fun links hlinks => gives_ok ?_
    unfold Node.consUnlessEmpty
    split
    · exact hlinks
    · exact List.forall_mem_cons.2 ⟨hnode, hlinks⟩

theorem gives_joins {f : List Entry} (h : ∀ e ∈ f, e.join = .and) :
    Gives (fun links => ∀ link ∈ links, link.join = .and) (Filter.compile escaper f) :=
  gives_links (P := fun join _ => join = .and) fun e he _ _ => h e he

theorem gives_conjunctions {divide : String → Expression} {f : List Entry}
    (h : ∀ e ∈ f, e.isConjunction divide escaper = true) :
    Gives (fun links => ∀ link ∈ links, (link.node.expression divide).isConjunction = true)
      (Filter.compile escaper f) := by
  refine gives_links (P := fun _ node => (node.expression divide).isConjunction = true) fun e he node hnode => ?_
  have hc := h e he
  rwa [Entry.isConjunction, hnode] at hc

end

namespace Compiler

/-- Where all entries are joined with `AND`, the clause is written as an expression that has a truth value. It holds
only where the clause of an entry does, or of a run of entries, if no `OR` stands outside of parentheses in what the
entries before and after it write, whichever words their fragments are made of. So an entry of that sort, added
with `AND`, can only narrow what a filter matches. -/
theorem conjunct_admits (c : Compiler) {divide : String → Expression} (hdivide : ∀ sql, (divide sql).text = sql)
    {before kept after : Filter} (hand : ∀ e ∈ before ++ kept ++ after, e.join = .and)
    (hbefore : ∀ e ∈ before, e.isConjunction divide c.escaper = true)
    (hafter : ∀ e ∈ after, e.isConjunction divide c.escaper = true)
    {links : List Link} (h : (c.filter (before ++ kept ++ after)).result = .ok (.of links)) :
    (Link.expressionAll divide links).text = (Clause.of links).write ∧
      (∀ v, ∃ b, Word.value? v (Link.expressionAll divide links).words = some b) ∧
      ∃ own, (c.filter kept).result = .ok (.of own) ∧
        ∀ v, (Clause.of links).admits divide v = true → (Clause.of own).admits divide v = true := by
  have hlinks := compile_of_filter h
  obtain ⟨front, ms, hfront, hms, rfl⟩ := compile_append hlinks
  obtain ⟨ls, ks, hls, hks, rfl⟩ := compile_append hfront
  have hjoins : ∀ link ∈ ls ++ ks ++ ms, link.join = .and := gives_joins hand _ hlinks
  have hkept : ∀ link ∈ ks, link.join = .and := fun link hlink =>
    hjoins link (List.mem_append_left _ (List.mem_append_right _ hlink))
  refine ⟨text_expressionAll hdivide _, fun v => ⟨_, Expression.value?_words _⟩, ks, filter_of_compile hks, ?_⟩
  intro v hv
  rw [admits_iff hjoins] at hv
  rw [admits_iff hkept]
  exact value_effectAll (gives_conjunctions hbefore _ hls) (gives_conjunctions hafter _ hms) hv

/-- An `OR` in what stands between parentheses, or in what the entry itself writes, does no harm. -/
theorem conjunct_admits_between :
    let either : Expression := .join .or " OR " (.atom "a = 1") (.atom "b = 2")
    let both : Expression := .join .and " AND " (.atom "x > '5'") (.parentheses "(" ")"
      (.join .or " or " (.atom "y = 1") (.not "not " (.atom "z"))))
    let divide := Expression.ofText [either, both]
    let template : Entry := ⟨.and, .blank, .template "x > ? AND (y = 1 or not z)" [.data "5"]⟩
    let raw : Entry := ⟨.and, .blank, .equals (.raw "a = 1 OR b = 2")⟩
    let three : Entry := ⟨.and, .column "c", .equals (.data "3")⟩
    divide "x > '5' AND (y = 1 or not z)" = both ∧ divide "a = 1 OR b = 2" = either ∧
    ∃ links own, (Compiler.filter {} [template, raw, three]).result = .ok (.of links) ∧
      (Compiler.filter {} [raw]).result = .ok (.of own) ∧
      (Clause.of links).write = "x > '5' AND (y = 1 or not z) AND a = 1 OR b = 2 AND `c` = '3'" ∧
      (Link.expressionAll divide links).text = (Clause.of links).write ∧
      ∀ v, (Clause.of links).admits divide v = true → (Clause.of own).admits divide v = true := by
  intro either both divide template raw three
  have hand : ∀ e ∈ [template] ++ [raw] ++ [three], e.join = .and := by decide
  have hbefore : ∀ e ∈ [template], e.isConjunction divide Literal.escape = true := by decide +kernel
  have hafter : ∀ e ∈ [three], e.isConjunction divide Literal.escape = true := by decide
  obtain ⟨htext, -, own, hown, hv⟩ :=
    conjunct_admits {} (Expression.text_ofText [either, both]) hand hbefore hafter rfl
  exact ⟨by decide, by decide, _, own, rfl, hown, by decide +kernel, htext, hv⟩

/-- An `OR` in one entry ends the alternative to which the other one belongs. -/
theorem conjunct_escapes :
    let either : Expression := .join .or " OR " (.atom "a = 1") (.atom "b = 2")
    let divide := Expression.ofText [either]
    let raw : Entry := ⟨.and, .blank, .equals (.raw "a = 1 OR b = 2")⟩
    let three : Entry := ⟨.and, .column "c", .equals (.data "3")⟩
    (∀ sql, (divide sql).text = sql) ∧
      ∃ links own, (Compiler.filter {} [raw, three]).result = .ok (.of links) ∧
        (Compiler.filter {} [three]).result = .ok (.of own) ∧
        (Clause.of links).write = "a = 1 OR b = 2 AND `c` = '3'" ∧
        ∃ v, (Clause.of links).admits divide v = true ∧ (Clause.of own).admits divide v = false := by
  intro either divide raw three
  refine ⟨Expression.text_ofText [either], _, _, rfl, rfl, ?_, (· = "a = 1"), ?_⟩
  · decide
  · decide

end Compiler

end GuardedSql
