import GuardedSql.Filter.OfJson
import Mathlib.Data.List.Forall2
import Mathlib.Logic.Basic

/-!
# The grammar of filters in JSON

Which JSON values are read as filters and as choices, told without the reader, and what they are read as. A
filter is an object. Each member is one entry: a scalar under any key, a call under a key that is not of
digits alone, or a choice under a key of digits. A choice is an object too, of scalars and of arrays of
alternatives, which are scalars, calls, and filters again.

- `IsEntry`, `IsBranch`, `IsItem`: the grammar.
- `DenotesEntry`, `DenotesBranch`, `DenotesItem`: what the values of the grammar stand for.
- `Decodes`: a reader that accepts what it should, gives what it should, and refuses anything else as invalid.
- `ofJson_grammar`: the readers of filters and of choices are of this kind.
-/

namespace GuardedSql

/-! ## Exact readers -/

section

variable {α β : Type}

/-- What a reader gives for a value: something of the value's shape if the value is accepted, an error that
names what is invalid if it is not. -/
inductive Decodes (accepted : Prop) (shape : α → Prop) : Except Error α → Prop
  | ok {a : α} (ha : accepted) (hs : shape a) : Decodes accepted shape (.ok a)
  | invalid (ha : ¬ accepted) (reason : Invalid) : Decodes accepted shape (.error (.invalid reason))

namespace Decodes

variable {accepted accepted' : Prop} {shape : α → Prop} {x : Except Error α}

theorem exists_ok_iff (h : Decodes accepted shape x) : (∃ a, x = .ok a) ↔ accepted := by
  cases h with
  | ok ha _ => simp [ha]
  | invalid ha _ => simp [ha]

theorem shape_of_ok (h : Decodes accepted shape x) {a : α} (hx : x = .ok a) : shape a := by
  subst hx
  cases h with
  | ok _ hs => exact hs

theorem invalid_of_error (h : Decodes accepted shape x) {e : Error} (hx : x = .error e) :
    ∃ reason, e = .invalid reason := by
  subst hx
  cases h with
  | invalid _ reason => exact ⟨reason, rfl⟩

theorem imp {shape' : α → Prop} (h : Decodes accepted shape x) (ha : accepted' ↔ accepted)
    (hs : ∀ a, shape a → shape' a) : Decodes accepted' shape' x := by
  cases h with
  | ok h₁ h₂ => exact .ok (ha.2 h₁) (hs _ h₂)
  | invalid h₁ reason => exact .invalid (fun h₂ => h₁ (ha.1 h₂)) reason

/-- What is made of a part, for a value that is accepted if the part is. -/
theorem map {shape' : β → Prop} {f : α → β} (h : Decodes accepted shape x) (ha : accepted' ↔ accepted)
    (hs : ∀ a, shape a → shape' (f a)) : Decodes accepted' shape' (do return f (← x)) := by
  cases h with
  | ok h₁ h₂ => exact .ok (ha.2 h₁) (hs _ h₂)
  | invalid h₁ reason => exact .invalid (fun h₂ => h₁ (ha.1 h₂)) reason

/-- A list is read member by member, and refused if one of them is. -/
theorem cons {P : β → Prop} {R : β → α → Prop} {b : β} {bs : List β} {xs : Except Error (List α)}
    (hx : Decodes (P b) (R b) x) (hxs : Decodes (∀ c ∈ bs, P c) (List.Forall₂ R bs) xs) :
    Decodes (∀ c ∈ b :: bs, P c) (List.Forall₂ R (b :: bs))
      (do
        let a ← x
        let as ← xs
        return a :: as) := by
  rw [List.forall_mem_cons]
  cases hx with
  | invalid hb reason => exact .invalid (fun h => hb h.1) reason
  | ok hb hs =>
    cases hxs with
    | invalid hbs reason => exact .invalid (fun h => hbs h.2) reason
    | ok hbs hss => exact .ok ⟨hb, hbs⟩ (.cons hs hss)

theorem nil {P : β → Prop} {R : β → α → Prop} :
    Decodes (∀ c ∈ [], P c) (List.Forall₂ R []) (.ok []) :=
  .ok (fun _ h => absurd h List.not_mem_nil) .nil

theorem mapM {P : β → Prop} {R : β → α → Prop} {f : β → Except Error α} (h : ∀ b, Decodes (P b) (R b) (f b))
    (bs : List β) : Decodes (∀ b ∈ bs, P b) (List.Forall₂ R bs) (bs.mapM f) := by
  induction bs with
  | nil => exact nil
  | cons b bs ih =>
    rw [List.mapM_cons]
    exact (h b).cons ih

end Decodes

end

/-! ## The grammar -/

namespace Json

/-- An operand is a scalar, or an array of scalars. -/
inductive IsOperand : Json → Prop
  | one {json : Json} (h : json.isScalar = true) : IsOperand json
  | list {items : List Json} (h : ∀ item ∈ items, item.isScalar = true) : IsOperand (.array items)

/-- A call is a text with operands behind it. -/
inductive IsCall : List Json → Prop
  | call (operator : String) {operands : List Json} (h : ∀ operand ∈ operands, IsOperand operand) :
    IsCall (.string operator :: operands)

mutual

/-- What may stand under a key of a filter. -/
inductive IsEntry : String → Json → Prop
  | scalar {key : String} {json : Json} (h : json.isScalar = true) : IsEntry key json
  | call {key : String} {items : List Json} (hk : key = "" ∨ ∃ c ∈ key.toList, c.isDigit = false)
    (h : IsCall items) : IsEntry key (.array items)
  | choice {key : String} {members : List (String × Json)} (hne : key ≠ "")
    (hk : ∀ c ∈ key.toList, c.isDigit = true) (h : ∀ m ∈ members, IsBranch m.2) :
    IsEntry key (.object members)

/-- What may stand under a key of a choice. -/
inductive IsBranch : Json → Prop
  | all {json : Json} (h : json.isScalar = true) : IsBranch json
  | any {items : List Json} (h : ∀ item ∈ items, IsItem item) : IsBranch (.array items)

/-- An alternative for a key of a choice. -/
inductive IsItem : Json → Prop
  | equals {json : Json} (h : json.isScalar = true) : IsItem json
  | call {items : List Json} (h : IsCall items) : IsItem (.array items)
  | filter {members : List (String × Json)} (h : ∀ m ∈ members, IsEntry m.1 m.2) : IsItem (.object members)

end

/-- A filter is an object of entries. -/
inductive IsFilter : Json → Prop
  | object {members : List (String × Json)} (h : ∀ m ∈ members, IsEntry m.1 m.2) : IsFilter (.object members)

/-- A choice is an object of branches. -/
inductive IsChoice : Json → Prop
  | object {members : List (String × Json)} (h : ∀ m ∈ members, IsBranch m.2) : IsChoice (.object members)

/-! ## What it stands for -/

inductive DenotesOperand : Json → Operand → Prop
  | one {json : Json} {value : Token} (h : Token.ofJson json = .ok value) : DenotesOperand json (.one value)
  | list {items : List Json} {values : List Token}
    (h : List.Forall₂ (fun item value => Token.ofJson item = .ok value) items values) :
    DenotesOperand (.array items) (.list values)

inductive DenotesCall : List Json → Call → Prop
  | call {operator : String} {items : List Json} {operands : List Operand}
    (h : List.Forall₂ DenotesOperand items operands) : DenotesCall (.string operator :: items) ⟨operator, operands⟩

mutual

/-- A member stands for one entry, joined with `AND`: the key is a marked text, but for a choice it only holds
the place. -/
inductive DenotesEntry : String → Json → Entry → Prop
  | scalar {key : String} {json : Json} {value : Token} (h : Token.ofJson json = .ok value) :
    DenotesEntry key json ⟨.and, .column key, .equals value⟩
  | call {key : String} {items : List Json} {c : Call} (h : DenotesCall items c) :
    DenotesEntry key (.array items) ⟨.and, .column key, .call c⟩
  | choice {key : String} {members : List (String × Json)} {branches : List Branch}
    (h : List.Forall₂ (fun m branch => DenotesBranch m.1 m.2 branch) members branches) :
    DenotesEntry key (.object members) ⟨.and, .blank, .choice branches⟩

/-- A member of a choice stands for one branch. -/
inductive DenotesBranch : String → Json → Branch → Prop
  | all {key : String} {json : Json} {value : Token} (h : Token.ofJson json = .ok value) :
    DenotesBranch key json (.all (.column key) (.equals value))
  | any {key : String} {items : List Json} {disjuncts : List Disjunct}
    (h : List.Forall₂ DenotesItem items disjuncts) :
    DenotesBranch key (.array items) (.any (.column key) disjuncts)

/-- An item stands for one alternative. -/
inductive DenotesItem : Json → Disjunct → Prop
  | equals {json : Json} {value : Token} (h : Token.ofJson json = .ok value) : DenotesItem json (.equals value)
  | call {items : List Json} {c : Call} (h : DenotesCall items c) : DenotesItem (.array items) (.call c)
  | filter {members : List (String × Json)} {entries : List Entry}
    (h : List.Forall₂ (fun m entry => DenotesEntry m.1 m.2 entry) members entries) :
    DenotesItem (.object members) (.filter entries)

end

/-- An object stands for the filter with one entry for each member, in their order. -/
inductive DenotesFilter : Json → Filter → Prop
  | object {members : List (String × Json)} {f : Filter}
    (h : List.Forall₂ (fun m entry => DenotesEntry m.1 m.2 entry) members f) : DenotesFilter (.object members) f

/-- An object stands for the choice with one branch for each member, in their order. -/
inductive DenotesChoice : Json → Choice → Prop
  | object {members : List (String × Json)} {c : Choice}
    (h : List.Forall₂ (fun m branch => DenotesBranch m.1 m.2 branch) members c) :
    DenotesChoice (.object members) c

theorem DenotesEntry.join_eq {key : String} {json : Json} {entry : Entry} (h : DenotesEntry key json entry) :
    entry.join = .and := by
  cases h <;> rfl

/-! ## Members and items by their kind -/

section

variable {key : String} {json : Json} {items : List Json} {members : List (String × Json)}

theorem isPlace_iff : isPlace key = true ↔ key ≠ "" ∧ ∀ c ∈ key.toList, c.isDigit = true := by
  simp [isPlace]

theorem isPlace_eq_false_iff : isPlace key = false ↔ key = "" ∨ ∃ c ∈ key.toList, c.isDigit = false := by
  rw [← Bool.not_eq_true, isPlace_iff, not_and_or, not_not]
  simp

theorem isOperand_array_iff : IsOperand (.array items) ↔ ∀ item ∈ items, item.isScalar = true := by
  constructor
  · intro h
    cases h with
    | one h => cases h
    | list h => exact h
  · exact .list

theorem isCall_string_iff {operator : String} :
    IsCall (.string operator :: items) ↔ ∀ operand ∈ items, IsOperand operand := by
  constructor
  · rintro ⟨-, h⟩
    exact h
  · exact .call operator

theorem isEntry_array_iff : IsEntry key (.array items) ↔ isPlace key = false ∧ IsCall items := by
  rw [isPlace_eq_false_iff]
  constructor
  · intro h
    cases h with
    | scalar h => cases h
    | call hk h => exact ⟨hk, h⟩
  · rintro ⟨hk, h⟩
    exact .call hk h

theorem isEntry_object_iff :
    IsEntry key (.object members) ↔ isPlace key = true ∧ ∀ m ∈ members, IsBranch m.2 := by
  rw [isPlace_iff]
  constructor
  · intro h
    cases h with
    | scalar h => cases h
    | choice hne hk h => exact ⟨⟨hne, hk⟩, h⟩
  · rintro ⟨⟨hne, hk⟩, h⟩
    exact .choice hne hk h

theorem isBranch_array_iff : IsBranch (.array items) ↔ ∀ item ∈ items, IsItem item := by
  constructor
  · intro h
    cases h with
    | all h => cases h
    | any h => exact h
  · exact .any

theorem not_isBranch_object : ¬ IsBranch (.object members) := by
  intro h
  cases h with
  | all h => cases h

theorem isItem_array_iff : IsItem (.array items) ↔ IsCall items := by
  constructor
  · intro h
    cases h with
    | equals h => cases h
    | call h => exact h
  · exact .call

theorem isItem_object_iff : IsItem (.object members) ↔ ∀ m ∈ members, IsEntry m.1 m.2 := by
  constructor
  · intro h
    cases h with
    | equals h => cases h
    | filter h => exact h
  · exact .filter

theorem isFilter_object_iff : IsFilter (.object members) ↔ ∀ m ∈ members, IsEntry m.1 m.2 := by
  constructor
  · rintro ⟨h⟩
    exact h
  · exact .object

theorem isChoice_object_iff : IsChoice (.object members) ↔ ∀ m ∈ members, IsBranch m.2 := by
  constructor
  · rintro ⟨h⟩
    exact h
  · exact .object

end

end Json

/-! ## The readers -/

open Json

theorem decodes_token (json : Json) :
    Decodes (json.isScalar = true) (fun value => Token.ofJson json = .ok value) (Token.ofJson json) := by
  cases json with
  | array => exact .invalid (by simp [isScalar]) _
  | object => exact .invalid (by simp [isScalar]) _
  | _ => exact .ok rfl rfl

/-- A scalar is read as its token, whatever it stands for. -/
theorem decodes_scalar {α : Type} {json : Json} {accepted : Prop} {shape : α → Prop} {f : Token → α}
    (hs : json.isScalar = true) (ha : accepted)
    (h : ∀ value, Token.ofJson json = .ok value → shape (f value)) :
    Decodes accepted shape (do return f (← Token.ofJson json)) :=
  (decodes_token json).map (iff_of_true ha hs) h

theorem decodes_operand (json : Json) :
    Decodes json.IsOperand json.DenotesOperand (Operand.ofJson json) := by
  cases json with
  | array items => exact (Decodes.mapM decodes_token items).map isOperand_array_iff fun _ => .list
  | object members =>
    refine .invalid (fun h => ?_) _
    cases h with
    | one h => cases h
  | _ => exact decodes_scalar rfl (.one rfl) fun _ => .one

theorem decodes_call (key : String) (items : List Json) :
    Decodes (IsCall items) (DenotesCall items) (Call.ofJson key items) := by
  cases items with
  | nil => exact .invalid (by rintro ⟨⟩) _
  | cons operator rest =>
    cases operator with
    | string operator => exact (Decodes.mapM decodes_operand rest).map isCall_string_iff fun _ => .call
    | _ => exact .invalid (by rintro ⟨⟩) _

mutual

theorem decodes_members : (members : List (String × Json)) →
    Decodes (∀ m ∈ members, IsEntry m.1 m.2)
      (List.Forall₂ (fun m entry => DenotesEntry m.1 m.2 entry) members) (Filter.ofMembers members)
  | [] => .nil
  | (key, json) :: rest =>
    Decodes.cons (P := fun m : String × Json => IsEntry m.1 m.2) (decodes_entry key json) (decodes_members rest)
termination_by structural members => members

theorem decodes_entry (key : String) : (json : Json) →
    Decodes (IsEntry key json) (DenotesEntry key json) (Entry.ofMember key json)
  | .object members => by
    rw [Entry.ofMember]
    split
    · rename_i hk
      exact (decodes_branches members).map (by rw [isEntry_object_iff]; simp [hk]) fun _ => .choice
    · rename_i hk
      exact .invalid (fun h => hk (isEntry_object_iff.1 h).1) _
  | .array items => by
    rw [Entry.ofMember]
    split
    · rename_i hk
      exact .invalid (fun h => by simp [hk, isEntry_array_iff] at h) _
    · rename_i hk
      exact (decodes_call key items).map (by rw [isEntry_array_iff]; simp [hk]) fun _ => .call
  | .null | .bool _ | .int _ | .float _ | .string _ => decodes_scalar rfl (.scalar rfl) fun _ => .scalar
termination_by structural json => json

theorem decodes_branches : (members : List (String × Json)) →
    Decodes (∀ m ∈ members, IsBranch m.2)
      (List.Forall₂ (fun m branch => DenotesBranch m.1 m.2 branch) members) (Choice.ofMembers members)
  | [] => .nil
  | (key, json) :: rest =>
    Decodes.cons (P := fun m : String × Json => IsBranch m.2) (decodes_branch key json) (decodes_branches rest)
termination_by structural members => members

theorem decodes_branch (key : String) : (json : Json) →
    Decodes (IsBranch json) (DenotesBranch key json) (Branch.ofMember key json)
  | .array items => (decodes_items items).map isBranch_array_iff fun _ => .any
  | .object _ => .invalid not_isBranch_object _
  | .null | .bool _ | .int _ | .float _ | .string _ => decodes_scalar rfl (.all rfl) fun _ => .all
termination_by structural json => json

theorem decodes_items : (items : List Json) →
    Decodes (∀ item ∈ items, IsItem item) (List.Forall₂ DenotesItem items) (Disjunct.ofItems items)
  | [] => .nil
  | item :: rest => (decodes_item item).cons (decodes_items rest)
termination_by structural items => items

theorem decodes_item : (json : Json) → Decodes (IsItem json) (DenotesItem json) (Disjunct.ofJson json)
  | .object members => (decodes_members members).map isItem_object_iff fun _ => .filter
  | .array items => (decodes_call "OR item" items).map isItem_array_iff fun _ => .call
  | .null | .bool _ | .int _ | .float _ | .string _ => decodes_scalar rfl (.equals rfl) fun _ => .equals
termination_by structural json => json

end

theorem decodes_filter (json : Json) : Decodes json.IsFilter json.DenotesFilter (Filter.ofJson json) := by
  cases json with
  | object members => exact (decodes_members members).imp isFilter_object_iff fun _ => .object
  | _ => exact .invalid (by rintro ⟨⟩) _

theorem decodes_choice (json : Json) : Decodes json.IsChoice json.DenotesChoice (Choice.ofJson json) := by
  cases json with
  | object members => exact (decodes_branches members).imp isChoice_object_iff fun _ => .object
  | _ => exact .invalid (by rintro ⟨⟩) _

/-- In a filter that stands for an object every entry is joined with `AND`. -/
theorem Json.DenotesFilter.join_eq {json : Json} {f : Filter} (h : json.DenotesFilter f) :
    ∀ entry ∈ f, entry.join = .and := by
  obtain ⟨h⟩ := h
  induction h with
  | nil => simp
  | cons he _ ih => exact List.forall_mem_cons.2 ⟨he.join_eq, ih⟩

/-- The readers of filters and of choices accept exactly what the grammar has. What they give has one part for
each member of the object, in order and of the member's shape, the entries of a filter all joined with `AND`;
what they refuse is invalid. -/
theorem ofJson_grammar (json : Json) :
    ((∃ f, Filter.ofJson json = .ok f) ↔ json.IsFilter) ∧
      (∀ f, Filter.ofJson json = .ok f → json.DenotesFilter f ∧ ∀ entry ∈ f, entry.join = .and) ∧
      (∀ e, Filter.ofJson json = .error e → ∃ reason, e = .invalid reason) ∧
      ((∃ c, Choice.ofJson json = .ok c) ↔ json.IsChoice) ∧
      (∀ c, Choice.ofJson json = .ok c → json.DenotesChoice c) ∧
      ∀ e, Choice.ofJson json = .error e → ∃ reason, e = .invalid reason := by
  have hf := decodes_filter json
  have hc := decodes_choice json
  refine ⟨hf.exists_ok_iff, fun f h => ?_, fun _ => hf.invalid_of_error, hc.exists_ok_iff,
    fun _ => hc.shape_of_ok, fun _ => hc.invalid_of_error⟩
  have hd := hf.shape_of_ok h
  exact ⟨hd, hd.join_eq⟩

end GuardedSql
