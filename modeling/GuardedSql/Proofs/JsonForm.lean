import GuardedSql.Filter.OfJson
import GuardedSql.Filter.ToJson
import GuardedSql.Proofs.Outcome

/-!
# Filters that JSON can express

A filter is read back from its form in JSON exactly if JSON can express it: its entries are joined with
`AND`, its keys and values have roles that a mark can give them where they stand, data ends in no mark, and no
object would have a key twice. Templates cannot be expressed, nor anything but a value in the part of a choice
that is joined with `AND`.

- `column_marked_iff`, `ofJson_toJson_iff`: tokens.
- `read_ofList_iff`: members that are put into an object.
- `Filter.ofMembers_toMembers_iff`: filters, at any depth.
- `ofJson_iff_isExpressible`: filters and choices.
-/

namespace GuardedSql

/-! ## Expressible filters -/

namespace Token

/-- Whether the token is one that a key is read as. -/
def isKey : Token → Bool
  | .of .column _ | .of .raw _ | .of .literal _ | .of .blank _ => true
  | .of .value _ | .of .reference _ | .null => false

/-- Whether the token is one that a value is read as from its form in JSON. -/
def isDatum : Token → Bool
  | .of .value text => (splitMark text.toList).isNone
  | .of .raw _ | .of .literal _ | .of .blank _ | .of .reference _ | .null => true
  | .of .column _ => false

end Token

/-- Whether the members have different keys. -/
def areDistinct (members : List (String × Json)) : Bool :=
  (members.map Prod.fst).Nodup

/-- Whether the condition is that the key equals a value. -/
def Condition.isScalar : Condition → Bool
  | .equals value => value.isDatum
  | _ => false

mutual

/-- Whether JSON can express each of the entries. -/
def Filter.areExpressible : List Entry → Bool
  | [] => true
  | ⟨join, key, condition⟩ :: rest =>
    join = .and && Condition.isExpressible key condition && Filter.areExpressible rest
termination_by structural entries => entries

def Condition.isExpressible (key : Token) : Condition → Bool
  | .equals value => key.isKey && value.isDatum
  | .call c => key.isKey && c.tokens.all Token.isDatum
  | .choice branches =>
    key = .blank && areDistinct (Choice.toMembers branches) && Choice.areExpressible branches
  | .template _ _ => false
termination_by structural condition => condition

def Choice.areExpressible : List Branch → Bool
  | [] => true
  | .any key disjuncts :: rest =>
    key.isKey && Disjunct.areExpressible disjuncts && Choice.areExpressible rest
  | .all key condition :: rest => key.isKey && condition.isScalar && Choice.areExpressible rest
termination_by structural branches => branches

def Disjunct.areExpressible : List Disjunct → Bool
  | [] => true
  | disjunct :: rest => Disjunct.isExpressible disjunct && Disjunct.areExpressible rest
termination_by structural disjuncts => disjuncts

def Disjunct.isExpressible : Disjunct → Bool
  | .equals value => value.isDatum
  | .call c => c.tokens.all Token.isDatum
  | .filter entries => areDistinct (Filter.toMembers 0 entries) && Filter.areExpressible entries
termination_by structural disjunct => disjunct

end

/-- Whether JSON can express the filter. -/
def Filter.isExpressible (f : Filter) : Bool :=
  areDistinct (Filter.toMembers 0 f) && Filter.areExpressible f

/-- Whether JSON can express the choice. -/
def Choice.isExpressible (c : Choice) : Bool :=
  areDistinct (Choice.toMembers c) && Choice.areExpressible c

/-! ## What is read of a list -/

section

variable {α β : Type}

theorem return_eq_ok_iff {x : Except Error α} {f : α → β} {b : β} :
    (do return f (← x)) = Except.ok b ↔ ∃ a, x = .ok a ∧ f a = b := by
  rw [bind_eq_ok_iff]
  simp only [pure, Except.pure, Except.ok.injEq]

theorem consM_eq_ok_iff {x : Except Error α} {xs : Except Error (List α)} {ys : List α} :
    (do
      let a ← x
      let as ← xs
      return a :: as) = Except.ok ys ↔ ∃ a as, x = .ok a ∧ xs = .ok as ∧ a :: as = ys := by
  rw [bind_eq_ok_iff]
  simp only [return_eq_ok_iff, exists_and_left]

theorem consM_eq_ok_cons_iff {x : Except Error α} {xs : Except Error (List α)} {a : α} {as : List α} :
    (do
      let a ← x
      let as ← xs
      return a :: as) = Except.ok (a :: as) ↔ x = .ok a ∧ xs = .ok as := by
  rw [consM_eq_ok_iff]
  simp only [List.cons.injEq]
  exact ⟨fun ⟨_, _, hx, hxs, rfl, rfl⟩ => ⟨hx, hxs⟩, fun ⟨hx, hxs⟩ => ⟨_, _, hx, hxs, rfl, rfl⟩⟩

theorem mapM_map_eq_ok_iff {f : β → Except Error α} {g : α → β} {xs : List α} :
    (xs.map g).mapM f = .ok xs ↔ ∀ x ∈ xs, f (g x) = .ok x := by
  rw [mapM_eq_ok_iff, List.forall₂_map_left_iff, List.forall₂_same]

/-- Of members that are put into an object, all are read again exactly if no two had the same key. -/
theorem read_ofList_iff {read : List (String × Json) → Except Error (List α)}
    (hread : ∀ {members xs}, read members = .ok xs → xs.length = members.length)
    {members : List (String × Json)} {xs : List α} (h : members.length = xs.length) :
    read (Keyed.ofList members).entries = .ok xs ↔ areDistinct members = true ∧ read members = .ok xs := by
  rw [areDistinct, decide_eq_true_eq]
  constructor
  · intro hxs
    have hd := Keyed.nodup_of_length_ofList ((hread hxs).symm.trans h.symm)
    rw [Keyed.entries_ofList hd] at hxs
    exact ⟨hd, hxs⟩
  · rintro ⟨hd, hxs⟩
    rw [Keyed.entries_ofList hd, hxs]

end

/-! ## Tokens -/

namespace Token

theorem parse_marked {role : Role} {text : String} {m : Mark} (h : role.mark? = some m) (p : Position) :
    parse p (Token.of role text).marked = .of (Role.ofMark (some m) p) text := by
  have hs : splitMark (Token.of role text).marked.toList = some (text.toList, m) := by
    simp only [marked, Token.role, h, Token.text, String.toList_ofList, splitMark_append_mark]
  simp only [parse, hs, String.ofList_toList]

/-- A text has the role that its mark gives it, or that it has without one. -/
theorem parse_ne {p : Position} {role : Role} (h : ∀ m, Role.ofMark m p ≠ role) (marked text : String) :
    parse p marked ≠ .of role text := by
  unfold parse
  split <;> exact fun heq => h _ (Token.of.inj heq).1

theorem parse_ne_null (p : Position) (marked : String) : parse p marked ≠ .null := by
  unfold parse
  split <;> exact Token.noConfusion

theorem column_marked_iff (t : Token) : column t.marked = t ↔ t.isKey = true := by
  rcases t with ⟨role, text⟩ | _
  · cases role with
    | column | raw | literal | blank => exact iff_of_true ((parse_marked rfl .column).trans rfl) rfl
    | value | reference =>
      refine iff_of_false (parse_ne (fun m => ?_) _ _) Bool.noConfusion
      rcases m with _ | m <;> first | exact Role.noConfusion | (cases m <;> exact Role.noConfusion)
  · exact iff_of_false (parse_ne_null _ _) Bool.noConfusion

theorem value_eq_data_iff (text : String) :
    value text = .of .value text ↔ (splitMark text.toList).isNone = true := by
  unfold value parse
  cases splitMark text.toList with
  | none => exact iff_of_true rfl rfl
  | some s =>
    obtain ⟨_, m⟩ := s
    refine iff_of_false (fun h => ?_) Bool.noConfusion
    cases m <;> exact Role.noConfusion (Token.of.inj h).1

theorem ofJson_toJson_iff (t : Token) : ofJson t.toJson = .ok t ↔ t.isDatum = true := by
  rcases t with ⟨role, text⟩ | _
  · change Except.ok (value _) = _ ↔ _
    rw [Except.ok.injEq]
    cases role with
    | raw | literal | blank | reference => exact iff_of_true ((parse_marked rfl .value).trans rfl) rfl
    | value => exact value_eq_data_iff text
    | column =>
      refine iff_of_false (parse_ne (fun m => ?_) _ _) Bool.noConfusion
      rcases m with _ | m <;> first | exact Role.noConfusion | (cases m <;> exact Role.noConfusion)
  · exact iff_of_true rfl rfl

end Token

/-! ## Keys -/

theorem isPlace_toString (n : Nat) : isPlace (toString n) = true := by
  rw [isPlace, Nat.toString_eq_repr, Nat.toList_repr, Bool.and_eq_true, decide_eq_true_eq, List.all_eq_true]
  exact ⟨Nat.repr_ne_empty, fun c hc => Nat.isDigit_of_mem_toDigits (by decide) (by decide) hc⟩

/-- A key that ends in a mark has more than digits. -/
theorem isPlace_marked {key : Token} (h : key.isKey = true) : isPlace key.marked = false := by
  obtain ⟨m, hm⟩ : ∃ m, key.role.mark? = some m := by
    rcases key with ⟨role, text⟩ | _
    · cases role <;> first | exact ⟨_, rfl⟩ | cases h
    · cases h
  have hbar : '|' ∈ key.marked.toList := by simp [Token.marked, hm]
  have hall : key.marked.toList.all Char.isDigit = false := List.all_eq_false.2 ⟨'|', hbar, by decide⟩
  simp [isPlace, hall]

/-! ## Calls -/

theorem Operand.ofJson_toJson_iff (o : Operand) :
    Operand.ofJson o.toJson = .ok o ↔ o.tokens.all Token.isDatum = true := by
  cases o with
  | one value =>
    have h : Operand.ofJson value.toJson = do return .one (← Token.ofJson value.toJson) := by
      cases value <;> rfl
    rw [Operand.toJson, h, return_eq_ok_iff]
    simp [Operand.tokens, Token.ofJson_toJson_iff]
  | list values =>
    rw [Operand.toJson, Operand.ofJson, return_eq_ok_iff]
    simp only [Operand.list.injEq, exists_eq_right, mapM_map_eq_ok_iff, Token.ofJson_toJson_iff,
      Operand.tokens, List.all_eq_true]

theorem Call.ofJson_toItems_iff (key : String) (c : Call) :
    Call.ofJson key c.toItems = .ok c ↔ c.tokens.all Token.isDatum = true := by
  obtain ⟨operator, operands⟩ := c
  rw [Call.toItems, Call.ofJson, return_eq_ok_iff]
  simp only [Call.mk.injEq, true_and, exists_eq_right, mapM_map_eq_ok_iff, Operand.ofJson_toJson_iff,
    Call.tokens, List.all_flatMap, List.all_eq_true]

/-! ## Filters and choices -/

namespace Filter

theorem length_toMembers (place : Nat) (f : Filter) : (toMembers place f).length = f.length := by
  induction f generalizing place with
  | nil => rfl
  | cons entry rest ih =>
    obtain ⟨join, key, condition⟩ := entry
    rw [toMembers, List.length_cons, List.length_cons, ih]

theorem length_ofMembers {members : List (String × Json)} {f : Filter} (h : ofMembers members = .ok f) :
    f.length = members.length := by
  induction members generalizing f with
  | nil =>
    cases h
    rfl
  | cons member rest ih =>
    rw [ofMembers, consM_eq_ok_iff] at h
    obtain ⟨entry, entries, -, hrest, rfl⟩ := h
    rw [List.length_cons, List.length_cons, ih hrest]

end Filter

namespace Choice

theorem length_toMembers (c : Choice) : (toMembers c).length = c.length := by
  induction c with
  | nil => rfl
  | cons branch rest ih => cases branch <;> rw [toMembers, List.length_cons, List.length_cons, ih]

theorem length_ofMembers {members : List (String × Json)} {c : Choice} (h : ofMembers members = .ok c) :
    c.length = members.length := by
  induction members generalizing c with
  | nil =>
    cases h
    rfl
  | cons member rest ih =>
    rw [ofMembers, consM_eq_ok_iff] at h
    obtain ⟨branch, branches, -, hrest, rfl⟩ := h
    rw [List.length_cons, List.length_cons, ih hrest]

end Choice

/-- In the part of a choice that is joined with `AND` only a value is read back: a call would be taken for a
list of alternatives. -/
theorem Branch.ofMember_toJson_iff (key : Token) (c : Condition) :
    Branch.ofMember key.marked c.toJson = .ok (.all key c) ↔ key.isKey = true ∧ c.isScalar = true := by
  cases c with
  | equals value =>
    have h : Branch.ofMember key.marked value.toJson =
        do return .all (.column key.marked) (.equals (← Token.ofJson value.toJson)) := by
      cases value <;> rfl
    rw [Condition.toJson, h, return_eq_ok_iff, Condition.isScalar, ← Token.column_marked_iff,
      ← Token.ofJson_toJson_iff]
    simp only [Branch.all.injEq, Condition.equals.injEq]
    constructor
    · rintro ⟨_, hvalue, hkey, rfl⟩
      exact ⟨hkey, hvalue⟩
    · rintro ⟨hkey, hvalue⟩
      exact ⟨_, hvalue, hkey, rfl⟩
  | call c =>
    rw [Condition.toJson, Call.toJson, Branch.ofMember, return_eq_ok_iff]
    exact iff_of_false (fun ⟨_, _, h⟩ => nomatch h) fun h => nomatch h.2
  | choice branches => exact iff_of_false (fun h => by cases h) fun h => nomatch h.2
  | template sql args =>
    exact iff_of_false (fun h => Condition.noConfusion (Branch.all.inj (Except.ok.inj h)).2) fun h => nomatch h.2

mutual

theorem Filter.ofMembers_toMembers_iff : ∀ (place : Nat) (f : List Entry),
    Filter.ofMembers (Filter.toMembers place f) = .ok f ↔ Filter.areExpressible f = true
  | _, [] => iff_of_true rfl rfl
  | place, ⟨join, key, condition⟩ :: rest => by
    rw [Filter.toMembers, Filter.ofMembers, consM_eq_ok_cons_iff, Filter.areExpressible, Bool.and_eq_true,
      Bool.and_eq_true, decide_eq_true_eq, Entry.ofMember_toJson_iff, Filter.ofMembers_toMembers_iff]
termination_by structural _ f => f

theorem Entry.ofMember_toJson_iff (place : Nat) (join : Join) (key : Token) : ∀ c : Condition,
    Entry.ofMember (c.keyAt place key) c.toJson = .ok ⟨join, key, c⟩ ↔
      join = .and ∧ c.isExpressible key = true
  | .equals value => by
    have h : Entry.ofMember key.marked value.toJson =
        do return ⟨.and, .column key.marked, .equals (← Token.ofJson value.toJson)⟩ := by
      cases value <;> rfl
    rw [Condition.keyAt, Condition.toJson, h, return_eq_ok_iff, Condition.isExpressible, Bool.and_eq_true,
      ← Token.column_marked_iff, ← Token.ofJson_toJson_iff]
    simp only [Entry.mk.injEq, Condition.equals.injEq]
    constructor
    · rintro ⟨_, hvalue, rfl, hkey, rfl⟩
      exact ⟨rfl, hkey, hvalue⟩
    · rintro ⟨rfl, hkey, hvalue⟩
      exact ⟨_, hvalue, rfl, hkey, rfl⟩
  | .call c => by
    rw [Condition.keyAt, Condition.toJson, Call.toJson, Entry.ofMember, Condition.isExpressible,
      Bool.and_eq_true]
    split
    · rename_i hplace
      refine iff_of_false (fun h => nomatch h) fun ⟨_, hkey, _⟩ => ?_
      rw [isPlace_marked hkey] at hplace
      cases hplace
    · rw [return_eq_ok_iff, ← Token.column_marked_iff, ← Call.ofJson_toItems_iff key.marked]
      simp only [Entry.mk.injEq, Condition.call.injEq]
      constructor
      · rintro ⟨_, hcall, rfl, hkey, rfl⟩
        exact ⟨rfl, hkey, hcall⟩
      · rintro ⟨rfl, hkey, hcall⟩
        exact ⟨_, hcall, rfl, hkey, rfl⟩
  | .choice branches => by
    rw [Condition.keyAt, Condition.toJson, Json.ofMembers, Entry.ofMember, if_pos (isPlace_toString place),
      return_eq_ok_iff, Condition.isExpressible, Bool.and_eq_true, Bool.and_eq_true, decide_eq_true_eq,
      ← Choice.ofMembers_toMembers_iff, and_assoc,
      ← read_ofList_iff Choice.length_ofMembers (Choice.length_toMembers branches)]
    simp only [Entry.mk.injEq, Condition.choice.injEq]
    constructor
    · rintro ⟨_, hchoice, rfl, hkey, rfl⟩
      exact ⟨rfl, hkey.symm, hchoice⟩
    · rintro ⟨rfl, rfl, hchoice⟩
      exact ⟨_, hchoice, rfl, rfl, rfl⟩
  | .template _ _ =>
    iff_of_false (fun h => Condition.noConfusion (Entry.mk.inj (Except.ok.inj h)).2.2) fun h => nomatch h.2
termination_by structural c => c

theorem Choice.ofMembers_toMembers_iff : ∀ c : List Branch,
    Choice.ofMembers (Choice.toMembers c) = .ok c ↔ Choice.areExpressible c = true
  | [] => iff_of_true rfl rfl
  | .any key disjuncts :: rest => by
    rw [Choice.toMembers, Choice.ofMembers, consM_eq_ok_cons_iff, Choice.ofMembers_toMembers_iff,
      Choice.areExpressible, Bool.and_eq_true, Bool.and_eq_true, Branch.ofMember, return_eq_ok_iff,
      ← Token.column_marked_iff, ← Disjunct.ofItems_toItems_iff]
    simp only [Branch.any.injEq]
    constructor
    · rintro ⟨⟨_, hitems, hkey, rfl⟩, hrest⟩
      exact ⟨⟨hkey, hitems⟩, hrest⟩
    · rintro ⟨⟨hkey, hitems⟩, hrest⟩
      exact ⟨⟨_, hitems, hkey, rfl⟩, hrest⟩
  | .all key condition :: rest => by
    rw [Choice.toMembers, Choice.ofMembers, consM_eq_ok_cons_iff, Choice.ofMembers_toMembers_iff,
      Choice.areExpressible, Bool.and_eq_true, Bool.and_eq_true, Branch.ofMember_toJson_iff]
termination_by structural c => c

theorem Disjunct.ofItems_toItems_iff : ∀ ds : List Disjunct,
    Disjunct.ofItems (Disjunct.toItems ds) = .ok ds ↔ Disjunct.areExpressible ds = true
  | [] => iff_of_true rfl rfl
  | disjunct :: rest => by
    rw [Disjunct.toItems, Disjunct.ofItems, consM_eq_ok_cons_iff, Disjunct.areExpressible, Bool.and_eq_true,
      Disjunct.ofJson_toJson_iff, Disjunct.ofItems_toItems_iff]
termination_by structural ds => ds

theorem Disjunct.ofJson_toJson_iff : ∀ d : Disjunct,
    Disjunct.ofJson d.toJson = .ok d ↔ d.isExpressible = true
  | .equals value => by
    have h : Disjunct.ofJson value.toJson = do return .equals (← Token.ofJson value.toJson) := by
      cases value <;> rfl
    rw [Disjunct.toJson, h, return_eq_ok_iff, Disjunct.isExpressible, ← Token.ofJson_toJson_iff]
    simp only [Disjunct.equals.injEq, exists_eq_right]
  | .call c => by
    rw [Disjunct.toJson, Call.toJson, Disjunct.ofJson, return_eq_ok_iff, Disjunct.isExpressible,
      ← Call.ofJson_toItems_iff "OR item"]
    simp only [Disjunct.call.injEq, exists_eq_right]
  | .filter entries => by
    rw [Disjunct.toJson, Json.ofMembers, Disjunct.ofJson, return_eq_ok_iff, Disjunct.isExpressible,
      Bool.and_eq_true, ← Filter.ofMembers_toMembers_iff 0,
      ← read_ofList_iff Filter.length_ofMembers (Filter.length_toMembers 0 entries)]
    simp only [Disjunct.filter.injEq, exists_eq_right]
termination_by structural d => d

end

/-- A filter is read back from its form in JSON exactly if JSON can express it, and so is a choice. -/
theorem ofJson_iff_isExpressible :
    (∀ f : Filter, Filter.ofJson f.toJson = .ok f ↔ f.isExpressible = true) ∧
      ∀ c : Choice, Choice.ofJson c.toJson = .ok c ↔ c.isExpressible = true := by
  constructor
  · intro f
    rw [Filter.toJson, Json.ofMembers, Filter.ofJson, Filter.isExpressible, Bool.and_eq_true,
      ← Filter.ofMembers_toMembers_iff 0]
    exact read_ofList_iff Filter.length_ofMembers (Filter.length_toMembers 0 f)
  · intro c
    rw [Choice.toJson, Json.ofMembers, Choice.ofJson, Choice.isExpressible, Bool.and_eq_true,
      ← Choice.ofMembers_toMembers_iff]
    exact read_ofList_iff Choice.length_ofMembers (Choice.length_toMembers c)

/-- Keys that are digits, or have a bar in them, are told from the place of a choice, at any depth. -/
theorem ofJson_toJson_nested :
    let c : Choice := [
      .any (.of .column "0") [
        .equals .null,
        .call ⟨"in", [.list [.data "", .literal "x|v"]]⟩,
        .filter [
          ⟨.and, .of .raw "YEAR(at)", .equals (.data "|")⟩,
          ⟨.and, .blank, .choice [.any (.of .column "0") [], .any (.of .literal "0") []]⟩]],
      .all (.of .blank "") (.equals (.raw "1=1"))]
    let f : Filter := [
      ⟨.and, .of .column "a|q", .equals (.reference "t.b")⟩,
      ⟨.and, .blank, .choice c⟩,
      ⟨.and, .of .column "1", .call ⟨"BETWEEN", [.one (.data "1"), .one .null]⟩⟩]
    (c.isExpressible = true ∧ Choice.ofJson c.toJson = .ok c) ∧
      f.isExpressible = true ∧ Filter.ofJson f.toJson = .ok f := by
  intro c f
  have hc : c.isExpressible = true := by decide +kernel
  have hf : f.isExpressible = true := by decide +kernel
  exact ⟨⟨hc, (ofJson_iff_isExpressible.2 c).2 hc⟩, hf, (ofJson_iff_isExpressible.1 f).2 hf⟩

/-- Data that ends in a mark is read as what the mark says. -/
example : Filter.ofJson (Filter.toJson [⟨.and, .of .column "a", .equals (.data "b|q")⟩]) =
    .ok [⟨.and, .of .column "a", .equals (.raw "b")⟩] :=
  rfl

end GuardedSql
