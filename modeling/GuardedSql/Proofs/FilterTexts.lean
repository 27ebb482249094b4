import GuardedSql.Filter.Compile
import GuardedSql.Proofs.SideBySide
import GuardedSql.Proofs.Traversal

/-!
# What filters are written with

Two escapings write a filter without templates with the same words, and what they write for its tokens in the same
places. So whatever is true of the two texts of each token, and is kept when texts are put side by side, is true of
the two texts of the filter (`Relates.agree_filter`). The escapings may be the same one: then it is about the text
that is written.

- `ComparisonTexts.write`: a comparison, in each of the ways in which it is written.
- `Gathers.writeAll`, `Gathers.choice`: nodes with their joins, and those of a choice.
- `Relates.agree_filter`: the nodes of a filter.
-/

namespace GuardedSql

/-! ## Tokens -/

/-- The texts that a token writes as literals: its own if it is data. -/
def Token.literals : Token → List String
  | .of .value text | .of .literal text => [text]
  | _ => []

theorem Token.literals_of_isBlank {t : Token} (h : t.isBlank = true) : t.literals = [] := by
  rcases t with ⟨role, text⟩ | _
  · cases role <;> first | rfl | cases h
  · rfl

/-- The texts of the data that is written with these tokens. -/
abbrev literalsOf (ts : List Token) : List String :=
  ts.flatMap Token.literals

theorem literalsOf_append (ts us : List Token) : literalsOf (ts ++ us) = literalsOf ts ++ literalsOf us :=
  List.flatMap_append

/-- What is asked of templates where there must be none. -/
def noTemplate : String → Bool := fun _ => false

/-- Of the tokens that satisfy `p`, two escapings write related texts. -/
structure Relates (escaper escaper₀ : Escaper) (p : Token → Bool) (R : String → String → List String → Prop) : Prop
    extends SideBySide R where
  agree_emit {t : Token} : p t = true → Agree (R · · t.literals) (t.emit escaper) (t.emit escaper₀)

/-- A text or none, in both cases. -/
inductive OptionTexts (R : String → String → List String → Prop) : Option String → Option String → List String → Prop
  | none : OptionTexts R none none []
  | some {s s₀ texts} (h : R s s₀ texts) : OptionTexts R (some s) (some s₀) texts

namespace Relates

variable {escaper escaper₀ : Escaper} {p : Token → Bool} {R : String → String → List String → Prop}
  (hR : Relates escaper escaper₀ p R)

include hR

theorem agree_emitKey {key : Token} (h : p key = true) :
    Agree (OptionTexts R · · key.literals) (key.emitKey escaper) (key.emitKey escaper₀) := by
  unfold Token.emitKey
  split
  · rename_i hb
    rw [Token.literals_of_isBlank hb]
    exact .ok .none
  · exact (hR.agree_emit h).map fun _ _ => .some

theorem agree_emitOperand {value : Token} (h : p value = true) :
    Agree (OptionTexts R · · value.literals) (value.emitOperand escaper) (value.emitOperand escaper₀) := by
  unfold Token.emitOperand
  split
  · rename_i hn
    obtain rfl : value = .null := by
      cases value with
      | of => cases hn
      | null => rfl
    exact .ok .none
  · exact (hR.agree_emit h).map fun _ _ => .some

end Relates

/-! ## Comparisons -/

theorem isWord_keyword (op : Operator) : isWord op.keyword = true := by
  cases op <;> decide

/-- Two comparisons with the same operator, with the contents of the literals in their texts. -/
structure ComparisonTexts (R : String → String → List String → Prop) (c c₀ : Comparison)
    (key operands : List String) : Prop where
  lhs : OptionTexts R c.lhs c₀.lhs key
  operator : c₀.operator = c.operator
  operands : Gathers (OptionTexts R) c.operands c₀.operands operands

section

variable {R : String → String → List String → Prop} (hR : SideBySide R)

include hR

theorem OptionTexts.operandText {s s₀ : Option String} {texts : List String} (h : OptionTexts R s s₀ texts) :
    R (Comparison.operandText s) (Comparison.operandText s₀) texts := by
  cases h with
  | none => exact hR.word (by decide)
  | some h => exact h

end

namespace ComparisonTexts

variable {R : String → String → List String → Prop} (hR : SideBySide R) {c c₀ : Comparison}
  {key operands : List String}

theorem head?_eq_null (h : ComparisonTexts R c c₀ key operands) :
    c₀.operands.head? = some none ↔ c.operands.head? = some none := by
  have ho := h.operands
  generalize c.operands = ss at ho ⊢
  generalize c₀.operands = ts at ho ⊢
  rcases ho with _ | ⟨_ | _, _⟩ <;> simp

include hR

/-- The key and a keyword after it. -/
theorem lead (h : ComparisonTexts R c c₀ key operands) {keyword : String} (hk : isWord keyword = true) :
    R (c.lead ++ keyword) (c₀.lead ++ keyword) key := by
  have hl := h.lhs
  unfold Comparison.lead
  generalize c.lhs = lhs at hl ⊢
  generalize c₀.lhs = lhs₀ at hl ⊢
  cases hl with
  | none => simpa using hR.word hk
  | some hs => exact hR.word_right (hR.word_right hs (by decide)) hk

theorem writeList (h : ComparisonTexts R c c₀ key operands) {constant : String} (hw : isWord constant = true) :
    R (c.writeList constant) (c₀.writeList constant) (if c.operands.isEmpty then [] else key ++ operands) := by
  rw [Comparison.writeList, Comparison.writeList, h.operands.isEmpty.1, h.operator]
  split
  · exact hR.word hw
  · have hlist := hR.intercalate "," (by decide) (by decide) (h.operands.map (OptionTexts.operandText hR))
    exact hR.word_right (hR.join (h.lead hR (isWord_keyword c.operator)) (by decide) (by decide) hlist) (by decide)

theorem operandAt_one (h : ComparisonTexts R c c₀ key operands) (hn : c.operands.length = 1) :
    R (c.operandAt 0) (c₀.operandAt 0) operands := by
  have ho := h.operands
  unfold Comparison.operandAt
  generalize c.operands = ss at ho hn ⊢
  generalize c₀.operands = ts at ho ⊢
  rcases ho with _ | ⟨operand, _ | ⟨_, _⟩⟩ <;> cases hn
  simpa using operand.operandText hR

theorem operandAt_two (h : ComparisonTexts R c c₀ key operands) (hn : c.operands.length = 2) :
    ∃ low high, operands = low ++ high ∧ R (c.operandAt 0) (c₀.operandAt 0) low ∧
      R (c.operandAt 1) (c₀.operandAt 1) high := by
  have ho := h.operands
  unfold Comparison.operandAt
  generalize c.operands = ss at ho hn ⊢
  generalize c₀.operands = ts at ho ⊢
  rcases ho with _ | ⟨low, _ | ⟨high, _ | ⟨_, _⟩⟩⟩ <;> cases hn
  exact ⟨_, _, by rw [List.append_nil], low.operandText hR, high.operandText hR⟩

theorem writeBounds (h : ComparisonTexts R c c₀ key operands) (hn : c.operands.length = 2) :
    R c.writeBounds c₀.writeBounds (key ++ operands) := by
  obtain ⟨low, high, rfl, hl, hh⟩ := h.operandAt_two hR hn
  rw [Comparison.writeBounds, Comparison.writeBounds, h.operator, ← List.append_assoc]
  have hk := h.lead hR (isWord_keyword c.operator)
  exact hR.join (hR.join hk (by decide) (by decide) hl) (by decide) (by decide) hh

theorem writeOne (h : ComparisonTexts R c c₀ key operands) (hn : c.operands.length = 1) :
    R c.writeOne c₀.writeOne (key ++ operands) := by
  have ht := h.operandAt_one hR hn
  have hk := h.lead hR (isWord_keyword c.operator)
  obtain ⟨he, hnil⟩ := hR.isEmpty ht
  simp only [Comparison.writeOne, h.operator, he]
  split
  · rename_i hs
    simpa [hnil hs] using hk
  · rw [← String.append_assoc, ← String.append_assoc]
    exact hR.join hk (by decide) (by decide) ht

theorem writeNull (h : ComparisonTexts R c c₀ key operands) (hn : c.operands.length = 1)
    (hnull : c.operands.head? = some none) {keyword : String} (hk : isWord keyword = true) :
    R (c.writeNull keyword) (c₀.writeNull keyword) (key ++ operands) := by
  have ho := h.operands
  have hl := h.lead hR hk
  generalize c.operands = ss at ho hn hnull
  generalize c₀.operands = ts at ho
  rcases ho with _ | ⟨_ | _, _ | ⟨_, _⟩⟩ <;> cases hn <;> cases hnull
  simpa [Comparison.writeNull] using hl

/-- Without operands, which only a list can be, nothing is written of the key. -/
theorem write (h : ComparisonTexts R c c₀ key operands) (ha : c.operator.arity.admits c.operands.length = true) :
    R c.write c₀.write (if c.operands.isEmpty then [] else key ++ operands) := by
  have some : ∀ n, c.operands.length = n + 1 →
      (if c.operands.isEmpty then [] else key ++ operands) = key ++ operands := by
    intro n hn
    refine if_neg fun he => ?_
    rw [List.isEmpty_iff.1 he] at hn
    cases hn
  simp only [Comparison.write, h.operator, h.head?_eq_null]
  cases ho : c.operator <;> simp only [ho, Operator.arity, Arity.admits, decide_eq_true_eq] at ha ⊢
  case oneOf => exact h.writeList hR (by decide)
  case noneOf => exact h.writeList hR (by decide)
  case between | notBetween =>
    rw [some 1 ha]
    exact h.writeBounds hR ha
  case eq =>
    rw [some 0 ha]
    split
    · exact h.writeNull hR ha ‹_› (by decide)
    · exact h.writeOne hR ha
  case ne =>
    rw [some 0 ha]
    split
    · exact h.writeNull hR ha ‹_› (by decide)
    · exact h.writeOne hR ha
  all_goals
    rw [some 0 ha]
    exact h.writeOne hR ha

end ComparisonTexts

/-! ## Nodes -/

structure NodeTexts (R : String → String → List String → Prop) (n n₀ : Node) (texts : List String) : Prop where
  isEmpty : n₀.isEmpty = n.isEmpty
  nil : n.isEmpty = true → texts = []
  write : R n.write n₀.write texts

structure LinkTexts (R : String → String → List String → Prop) (l l₀ : Link) (texts : List String) : Prop where
  join : l₀.join = l.join
  node : NodeTexts R l.node l₀.node texts

section

variable {R : String → String → List String → Prop} {ls ls₀ : List Link} {ns ns₀ ms ms₀ : List Node}
  {texts more : List String}

theorem Join.isWord_keyword (join : Join) : isWord (" " ++ join.keyword ++ " ") = true := by
  cases join <;> decide

theorem Gathers.writeRest (hR : SideBySide R) (h : Gathers (LinkTexts R) ls ls₀ texts) :
    Follows R (Link.writeRest ls) (Link.writeRest ls₀) texts := by
  induction h with
  | nil => exact .nil
  | @cons l l₀ ls ls₀ texts more h _ ih =>
    obtain ⟨join, node⟩ := l
    obtain ⟨join₀, node₀⟩ := l₀
    obtain ⟨hj, hn⟩ := h
    obtain rfl : join₀ = join := hj
    refine (hR.after_word hn.write join₀.isWord_keyword ?_).append ih
    cases join₀ <;> decide

theorem Gathers.writeAll (hR : SideBySide R) (h : Gathers (LinkTexts R) ls ls₀ texts) :
    R (Link.writeAll ls) (Link.writeAll ls₀) texts := by
  cases h with
  | nil => exact hR.empty
  | @cons l l₀ _ _ _ _ h hs =>
    obtain ⟨join, node⟩ := l
    obtain ⟨join₀, node₀⟩ := l₀
    exact hs.writeRest hR _ _ _ h.node.write

theorem Gathers.group (hR : SideBySide R) (h : Gathers (LinkTexts R) ls ls₀ texts) :
    NodeTexts R (.group ls) (.group ls₀) texts where
  isEmpty := h.isEmpty.1
  nil := h.isEmpty.2
  write := hR.word_right (hR.word_left (by decide) (by decide) (h.writeAll hR)) (by decide)

theorem SideBySide.fragment (hR : SideBySide R) {s s₀ : String} (h : R s s₀ texts) :
    NodeTexts R (.fragment s) (.fragment s₀) texts where
  isEmpty := (hR.isEmpty h).1
  nil := (hR.isEmpty h).2
  write := h

/-- An empty node writes no literal, so nothing is lost when it is left out. -/
theorem NodeTexts.consUnlessEmpty {n n₀ : Node} (hn : NodeTexts R n n₀ texts) (join : Join)
    (hs : Gathers (LinkTexts R) ls ls₀ more) :
    Gathers (LinkTexts R) (n.consUnlessEmpty join ls) (n₀.consUnlessEmpty join ls₀) (texts ++ more) := by
  unfold Node.consUnlessEmpty
  rw [hn.isEmpty]
  split
  · rw [hn.nil ‹_›]
    exact hs
  · exact .cons ⟨rfl, hn⟩ hs

theorem Gathers.present (h : Gathers (NodeTexts R) ns ns₀ texts) :
    Gathers (NodeTexts R) (ns.filter fun n => !n.isEmpty) (ns₀.filter fun n => !n.isEmpty) texts := by
  induction h with
  | nil => exact .nil
  | @cons n n₀ ns ns₀ texts more h _ ih =>
    rw [List.filter_cons, List.filter_cons, h.isEmpty]
    cases he : n.isEmpty with
    | true => simpa [h.nil he] using ih
    | false => simpa using .cons h ih

theorem Gathers.links (h : Gathers (NodeTexts R) ns ns₀ texts) (join : Join) :
    Gathers (LinkTexts R) (ns.map (⟨join, ·⟩)) (ns₀.map (⟨join, ·⟩)) texts :=
  h.map fun hn => ⟨rfl, hn⟩

theorem Gathers.choice (hd : Gathers (NodeTexts R) ns ns₀ texts) (hc : Gathers (NodeTexts R) ms ms₀ more) :
    Gathers (LinkTexts R) (Choice.join ns ms) (Choice.join ns₀ ms₀) (texts ++ more) := by
  unfold Choice.join
  refine (hd.present.links .or).append ?_
  dsimp only
  have hc := hc.present
  generalize ms.filter _ = ms at hc ⊢
  generalize ms₀.filter _ = ms₀ at hc ⊢
  cases hc with
  | nil => exact .nil
  | cons h hs => exact .cons ⟨rfl, h⟩ (hs.links .and)

end

/-! ## Filters -/

theorem Call.literals_written (key : Token) (c : Call) :
    literalsOf (c.written key) = if c.tokens.isEmpty then [] else key.literals ++ literalsOf c.tokens := by
  unfold Call.written
  split <;> simp

namespace Relates

variable {escaper escaper₀ : Escaper} {p : Token → Bool} {R : String → String → List String → Prop}

theorem agree_equate (hR : Relates escaper escaper₀ p R) {key value : Token} (hk : p key = true)
    (hv : p value = true) :
    Agree (NodeTexts R · · (literalsOf [key, value])) (key.equate escaper value) (key.equate escaper₀ value) := by
  rw [literalsOf, List.flatMap_cons, List.flatMap_singleton]
  refine (hR.agree_emitKey hk).bind fun lhs lhs₀ hl => ?_
  generalize key.literals = texts at hl ⊢
  by_cases hb : value.isBlank = true
  · rw [if_pos hb, if_pos hb, Token.literals_of_isBlank hb, List.append_nil]
    cases hl with
    | none => exact .ok (hR.fragment hR.empty)
    | some h => exact .ok (hR.fragment h)
  · rw [if_neg hb, if_neg hb]
    cases hl with
    | none => exact (hR.agree_emit hv).bind fun _ _ h => .ok (hR.fragment h)
    | some h =>
      refine (hR.agree_emitOperand hv).bind fun operand operand₀ ho => .ok ?_
      have hc : ComparisonTexts R ⟨some _, .eq, [operand]⟩ ⟨some _, .eq, [operand₀]⟩ texts value.literals :=
        ⟨.some h, rfl, by simpa using Gathers.cons ho .nil⟩
      exact ⟨rfl, fun h => (by cases h), hc.write hR.toSideBySide rfl⟩

theorem agree_call (hR : Relates escaper escaper₀ p R) {key : Token} {c : Call} (hk : p key = true)
    (hc : c.tokens.all p = true) :
    Agree (fun a b => NodeTexts R (.comparison a) (.comparison b) (literalsOf (c.written key)))
      (c.compile escaper key) (c.compile escaper₀ key) := by
  refine (agree_self (Operator.ofKeyword c.operator)).bind fun op _ hop => ?_
  subst hop
  cases ha : op.checkOperands c.tokens.length with
  | error e => exact .error e
  | ok _ =>
    have hm : ∀ t ∈ c.tokens, Agree (OptionTexts R · · t.literals) (t.emitOperand escaper)
        (t.emitOperand escaper₀) := fun t ht => hR.agree_emitOperand (List.all_eq_true.1 hc t ht)
    refine (hR.agree_emitKey hk).bind fun lhs lhs₀ hl => (agree_mapM hm).bind fun ss ss₀ ⟨hn, hs⟩ => .ok ?_
    have hw : ComparisonTexts R ⟨lhs, op, ss⟩ ⟨lhs₀, op, ss₀⟩ key.literals (literalsOf c.tokens) := ⟨hl, rfl, hs⟩
    have he : ss.isEmpty = c.tokens.isEmpty := by
      rw [Bool.eq_iff_iff, List.isEmpty_iff_length_eq_zero, List.isEmpty_iff_length_eq_zero, hn]
    refine ⟨rfl, fun h => (by cases h), ?_⟩
    rw [Call.literals_written, ← he]
    refine hw.write hR.toSideBySide ?_
    rw [hn]
    by_contra h
    simp [Operator.checkOperands, h] at ha

mutual

/-- Under the two escapings a filter compiles to nodes with related texts, or to the same error. The induction is on
the filter, one case for each kind of condition and alternative. -/
theorem agree_filter (hR : Relates escaper escaper₀ p R) : ∀ f : List Entry, Filter.check p noTemplate f = true →
    Agree (Gathers (LinkTexts R) · · (literalsOf (Filter.tokens f))) (Filter.compile escaper f)
      (Filter.compile escaper₀ f)
  | [], _ => .ok .nil
  | ⟨join, key, condition⟩ :: rest, h => by
    simp only [Filter.check, Bool.and_eq_true] at h
    obtain ⟨⟨hk, hc⟩, hr⟩ := h
    rw [Filter.tokens, literalsOf_append]
    refine (hR.agree_condition key hk condition hc).bind fun node node₀ hn => ?_
    exact (hR.agree_filter rest hr).bind fun links links₀ hl => .ok (hn.consUnlessEmpty join hl)
termination_by structural f => f

theorem agree_condition (hR : Relates escaper escaper₀ p R) (key : Token) (hk : p key = true) : ∀ c : Condition,
    c.check p noTemplate = true →
    Agree (NodeTexts R · · (literalsOf (c.tokens key))) (c.compile escaper key) (c.compile escaper₀ key)
  | .equals _, h => hR.agree_equate hk h
  | .call _, h => (hR.agree_call hk h).bind fun _ _ hn => .ok hn
  | .choice branches, h => by
    rw [Condition.tokens, literalsOf_append]
    exact (hR.agree_branches branches h).bind fun _ _ ⟨hd, hc⟩ => .ok ((hd.choice hc).group hR.toSideBySide)
  | .template sql args, h => by simp [Condition.check, noTemplate] at h
termination_by structural c => c

theorem agree_branches (hR : Relates escaper escaper₀ p R) : ∀ bs : List Branch,
    Branch.checkAll p noTemplate bs = true →
    Agree (fun ns ns₀ => Gathers (NodeTexts R) ns.1 ns₀.1 (literalsOf (Branch.tokensAll bs).1) ∧
        Gathers (NodeTexts R) ns.2 ns₀.2 (literalsOf (Branch.tokensAll bs).2))
      (Branch.compileAll escaper bs) (Branch.compileAll escaper₀ bs)
  | [], _ => .ok ⟨.nil, .nil⟩
  | .any key items :: rest, h => by
    simp only [Branch.checkAll, Bool.and_eq_true] at h
    obtain ⟨⟨hk, hi⟩, hr⟩ := h
    simp only [Branch.tokensAll, literalsOf_append]
    refine (hR.agree_disjuncts key hk items hi).bind fun nodes nodes₀ hn => ?_
    exact (hR.agree_branches rest hr).bind fun _ _ ⟨hd, hc⟩ => .ok ⟨hn.append hd, hc⟩
  | .all key condition :: rest, h => by
    simp only [Branch.checkAll, Bool.and_eq_true] at h
    obtain ⟨⟨hk, hc⟩, hr⟩ := h
    simp only [Branch.tokensAll, literalsOf_append]
    refine (hR.agree_condition key hk condition hc).bind fun node node₀ hn => ?_
    exact (hR.agree_branches rest hr).bind fun _ _ ⟨hd, hc⟩ => .ok ⟨hd, .cons hn hc⟩
termination_by structural bs => bs

theorem agree_disjuncts (hR : Relates escaper escaper₀ p R) (key : Token) (hk : p key = true) : ∀ ds : List Disjunct,
    Disjunct.checkAll p noTemplate ds = true →
    Agree (Gathers (NodeTexts R) · · (literalsOf (Disjunct.tokensAll key ds)))
      (Disjunct.compileAll escaper key ds) (Disjunct.compileAll escaper₀ key ds)
  | [], _ => .ok .nil
  | item :: rest, h => by
    simp only [Disjunct.checkAll, Bool.and_eq_true] at h
    rw [Disjunct.tokensAll, literalsOf_append]
    refine (hR.agree_disjunct key hk item h.1).bind fun node node₀ hn => ?_
    exact (hR.agree_disjuncts key hk rest h.2).bind fun nodes nodes₀ hs => .ok (.cons hn hs)
termination_by structural ds => ds

theorem agree_disjunct (hR : Relates escaper escaper₀ p R) (key : Token) (hk : p key = true) : ∀ d : Disjunct,
    d.check p noTemplate = true →
    Agree (NodeTexts R · · (literalsOf (d.tokens key))) (d.compile escaper key) (d.compile escaper₀ key)
  | .equals _, h => hR.agree_equate hk h
  | .call _, h => (hR.agree_call hk h).bind fun _ _ hn => .ok hn
  | .filter entries, h => (hR.agree_filter entries h).bind fun _ _ hl => .ok (hl.group hR.toSideBySide)
termination_by structural d => d

end

end Relates

end GuardedSql
