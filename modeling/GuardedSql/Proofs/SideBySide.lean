import GuardedSql.Proofs.Outcome

/-!
# Texts side by side

What is known of a text, of the one that another escaping writes in its place, and of the contents of the literals in
it, is often kept when texts are put side by side with words between them. `SideBySide` says that it is. From it come
texts that can stand right after any others, and lists of texts.

- `SideBySide.after_word`: a text with a word before it can stand after any other.
- `SideBySide.intercalate`: texts with a separator between them.
- `agree_mapM`: two computations for each member of a list that go through the same checks.
-/

namespace GuardedSql

/-- A text without quotes and backslashes, as the words of a statement are. -/
def isWord (s : String) : Bool :=
  s.toList.all fun c => c ≠ '\'' && c ≠ '`' && c ≠ '\\'

theorem isWord_append {s t : String} (hs : isWord s = true) (ht : isWord t = true) : isWord (s ++ t) = true := by
  simp only [isWord, String.toList_append, List.all_append, Bool.and_eq_true]
  exact ⟨hs, ht⟩

/-- What the theory needs of a relation between a text, its counterpart and the contents of the literals in it. -/
structure SideBySide (R : String → String → List String → Prop) : Prop where
  /-- A word is its own counterpart. -/
  word {s : String} : isWord s = true → R s s []
  /-- Two texts have a word between them, since literals that touch would be one. -/
  join {s s₀ sep t t₀ : String} {texts more : List String} : R s s₀ texts → isWord sep = true → sep ≠ "" →
    R t t₀ more → R (s ++ sep ++ t) (s₀ ++ sep ++ t₀) (texts ++ more)
  /-- Both texts are empty or none is, and an empty text has no literals. -/
  isEmpty {s s₀ : String} {texts : List String} : R s s₀ texts →
    s₀.isEmpty = s.isEmpty ∧ (s.isEmpty = true → texts = [])

/-- A text and its counterpart, which can stand right after any others. -/
def Follows (R : String → String → List String → Prop) (s s₀ : String) (texts : List String) : Prop :=
  ∀ s' s₀' texts', R s' s₀' texts' → R (s' ++ s) (s₀' ++ s₀) (texts' ++ texts)

section

variable {R : String → String → List String → Prop} {s s₀ t t₀ w : String} {texts more : List String}

theorem Follows.nil : Follows R "" "" [] := by
  intro s' s₀' texts' h
  simpa using h

theorem Follows.append (hs : Follows R s s₀ texts) (ht : Follows R t t₀ more) :
    Follows R (s ++ t) (s₀ ++ t₀) (texts ++ more) := by
  intro s' s₀' texts' h
  rw [← String.append_assoc, ← String.append_assoc, ← List.append_assoc]
  exact ht _ _ _ (hs _ _ _ h)

namespace SideBySide

variable (hR : SideBySide R)

include hR

theorem empty : R "" "" [] :=
  hR.word (by decide)

/-- After a word anything can stand. -/
theorem after_word (hs : R s s₀ texts) (hw : isWord w = true) (hne : w ≠ "") :
    Follows R (w ++ s) (w ++ s₀) texts := by
  intro s' s₀' texts' h
  rw [← String.append_assoc, ← String.append_assoc]
  exact hR.join h hw hne hs

theorem follows_word (hw : isWord w = true) : Follows R w w [] := by
  by_cases hne : w = ""
  · subst hne
    exact .nil
  · simpa using hR.after_word hR.empty hw hne

theorem word_right (hs : R s s₀ texts) (hw : isWord w = true) : R (s ++ w) (s₀ ++ w) texts := by
  simpa using hR.follows_word hw _ _ _ hs

theorem word_left (hw : isWord w = true) (hne : w ≠ "") (hs : R s s₀ texts) : R (w ++ s) (w ++ s₀) texts := by
  simpa using hR.after_word hs hw hne "" "" [] hR.empty

end SideBySide

end

/-! ## Lists of texts -/

/-- Two lists, related member by member, with the contents of the literals of all members. -/
inductive Gathers {α β : Type} (R : α → β → List String → Prop) : List α → List β → List String → Prop
  | nil : Gathers R [] [] []
  | cons {a b as bs texts more} (h : R a b texts) (hs : Gathers R as bs more) :
    Gathers R (a :: as) (b :: bs) (texts ++ more)

section

variable {α β γ δ : Type} {R : α → β → List String → Prop} {as as' : List α} {bs bs' : List β}
  {texts more : List String}

theorem Gathers.append (h : Gathers R as bs texts) (h' : Gathers R as' bs' more) :
    Gathers R (as ++ as') (bs ++ bs') (texts ++ more) := by
  induction h with
  | nil => exact h'
  | cons h _ ih =>
    rw [List.append_assoc]
    exact .cons h ih

theorem Gathers.map {S : γ → δ → List String → Prop} {f : α → γ} {g : β → δ} (h : Gathers R as bs texts)
    (hf : ∀ {a b texts}, R a b texts → S (f a) (g b) texts) : Gathers S (as.map f) (bs.map g) texts := by
  induction h with
  | nil => exact .nil
  | cons h _ ih => exact .cons (hf h) ih

theorem gathers_map {f : γ → α} {g : γ → β} {texts : γ → List String} {xs : List γ}
    (h : ∀ x ∈ xs, R (f x) (g x) (texts x)) : Gathers R (xs.map f) (xs.map g) (xs.flatMap texts) := by
  induction xs with
  | nil => exact .nil
  | cons x xs ih => exact .cons (h x List.mem_cons_self) (ih fun y hy => h y (List.mem_cons_of_mem _ hy))

theorem Gathers.isEmpty (h : Gathers R as bs texts) :
    bs.isEmpty = as.isEmpty ∧ (as.isEmpty = true → texts = []) := by
  cases h with
  | nil => exact ⟨rfl, fun _ => rfl⟩
  | cons => exact ⟨rfl, fun h => by cases h⟩

/-- What is computed for each member of a list, one for each. -/
theorem agree_mapM {f : γ → Except Error α} {g : γ → Except Error β} {texts : γ → List String} {xs : List γ}
    (h : ∀ x ∈ xs, Agree (R · · (texts x)) (f x) (g x)) :
    Agree (fun as bs => as.length = xs.length ∧ Gathers R as bs (xs.flatMap texts)) (xs.mapM f)
      (xs.mapM g) := by
  induction xs with
  | nil => exact .ok ⟨rfl, .nil⟩
  | cons x xs ih =>
    rw [List.mapM_cons, List.mapM_cons]
    refine (h x List.mem_cons_self).bind fun a b hab => ?_
    refine (ih fun y hy => h y (List.mem_cons_of_mem _ hy)).bind fun as bs ⟨hn, habs⟩ => ?_
    exact .ok ⟨congrArg (· + 1) hn, .cons hab habs⟩

end

theorem SideBySide.intercalate {R : String → String → List String → Prop} (hR : SideBySide R) (sep : String)
    (hw : isWord sep = true) (hne : sep ≠ "") {ss ts : List String} {texts : List String}
    (hs : Gathers R ss ts texts) : R (sep.intercalate ss) (sep.intercalate ts) texts := by
  induction hs with
  | nil => simpa using hR.empty
  | @cons s t ss ts texts more hst hs ih =>
    cases hs with
    | nil => simpa using hst
    | cons hs' hs =>
      rw [String.intercalate_cons_cons, String.intercalate_cons_cons]
      exact hR.join hst hw hne ih

end GuardedSql
