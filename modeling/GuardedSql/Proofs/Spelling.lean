import GuardedSql.Filter.Compile
import GuardedSql.Proofs.Lexer
import GuardedSql.Proofs.SideBySide

/-!
# Spelling out texts

A text is compared with the one that is written with nothing between the quotes of its literals, as an
escaping would write it that drops every text. The two are spelled with the same lexemes, apart from what
is in the literals. That holds of a literal, of a name and of a text without quotes, and of texts with
others between them that have no quotes.

- `sideBySide_spells`: texts with words between them.
- `SideBySide.identifier`: names, of which it is enough to know the segments.
- `spells_quote`, `spells_identifier`: literals and names.
-/

namespace GuardedSql

open Lexer

/-- The escaping that drops every text. -/
def dropText : Escaper := fun _ => ""

/-- A text without quotes. -/
def isBare (s : String) : Bool :=
  s.toList.all fun c => (Lexeme.char c).isWhole

/-- A text and its hollow counterpart, which is written with the same lexemes and with nothing in the
literals. The literals of the text have these contents. -/
def Spells (s hollow : String) (texts : List String) : Prop :=
  ∃ ls, WellSpaced ls ∧ s.toList = ls.flatMap Lexeme.write ∧
    hollow.toList = (around ls).flatMap Lexeme.write ∧ literals ls = texts

/-! ## Lexemes side by side -/

theorem wellSpaced_chars {s : String} (h : isBare s = true) : WellSpaced (s.toList.map .char) where
  whole l hl := by
    obtain ⟨c, hc, rfl⟩ := List.mem_map.1 hl
    exact List.all_eq_true.1 h c hc
  spaced := by
    refine List.Pairwise.isChain (List.pairwise_map.2 (List.pairwise_of_forall fun _ _ h => ?_))
    simp [Lexeme.isQuoted] at h

theorem WellSpaced.append {ls ks : List Lexeme} (hl : WellSpaced ls) (hk : WellSpaced ks)
    (h : ∀ l ∈ ls.getLast?, ∀ k ∈ ks.head?, ¬ (l.isQuoted = true ∧ k.isQuoted = true)) :
    WellSpaced (ls ++ ks) where
  whole l hm := (List.mem_append.1 hm).elim (hl.whole l) (hk.whole l)
  spaced := List.isChain_append.2 ⟨hl.spaced, hk.spaced, h⟩

/-- Lexemes with characters between them, of which there is one at least. -/
theorem WellSpaced.join {ls ks : List Lexeme} (hl : WellSpaced ls) {sep : String} (h : isBare sep = true)
    (hne : sep ≠ "") (hk : WellSpaced ks) : WellSpaced (ls ++ (sep.toList.map .char ++ ks)) := by
  refine hl.append ((wellSpaced_chars h).append hk ?_) ?_
  · intro l hm k _ hq
    obtain ⟨c, -, rfl⟩ := List.mem_map.1 (List.mem_of_mem_getLast? hm)
    simp [Lexeme.isQuoted] at hq
  · intro l _ k hm hq
    obtain ⟨c, cs, hc⟩ := List.exists_cons_of_ne_nil (l := sep.toList) (by simpa using hne)
    rw [hc] at hm
    obtain rfl : Lexeme.char c = k := by simpa using hm
    simp [Lexeme.isQuoted] at hq

theorem flatMap_write_chars (s : List Char) : (s.map .char).flatMap Lexeme.write = s := by
  induction s with
  | nil => rfl
  | cons c s ih => rw [List.map_cons, List.flatMap_cons, ih]; rfl

theorem around_chars (s : List Char) : around (s.map .char) = s.map .char := by
  simp [around, Lexeme.hollow]

theorem literals_chars (s : List Char) : literals (s.map .char) = [] := by
  simp [literals, Lexeme.literal?, List.filterMap_eq_nil_iff]

theorem literals_append (ls ks : List Lexeme) : literals (ls ++ ks) = literals ls ++ literals ks :=
  List.filterMap_append

theorem around_append (ls ks : List Lexeme) : around (ls ++ ks) = around ls ++ around ks :=
  List.map_append

theorem WellSpaced.around {ls : List Lexeme} (h : WellSpaced ls) : WellSpaced (around ls) where
  whole l hl := by
    obtain ⟨k, hk, rfl⟩ := List.mem_map.1 hl
    rw [Lexeme.isWhole_hollow]
    exact h.whole k hk
  spaced := by
    refine (List.isChain_map _).2 (h.spaced.imp fun a b hab => ?_)
    simpa only [Lexeme.isQuoted_hollow] using hab

/-! ## Texts side by side -/

section

variable {s s₀ t t₀ sep : String} {texts more : List String}

theorem spells_bare (h : isBare s = true) : Spells s s [] :=
  ⟨_, wellSpaced_chars h, (flatMap_write_chars _).symm, by rw [around_chars, flatMap_write_chars],
    literals_chars _⟩

theorem Spells.join (hs : Spells s s₀ texts) (h : isBare sep = true) (hne : sep ≠ "") (ht : Spells t t₀ more) :
    Spells (s ++ sep ++ t) (s₀ ++ sep ++ t₀) (texts ++ more) := by
  obtain ⟨ls, hl, hs, hs₀, rfl⟩ := hs
  obtain ⟨ks, hk, ht, ht₀, rfl⟩ := ht
  refine ⟨_, hl.join h hne hk, ?_, ?_, ?_⟩
  · simp only [String.toList_append, hs, ht, List.flatMap_append, flatMap_write_chars, List.append_assoc]
  · simp only [String.toList_append, hs₀, ht₀, around_append, around_chars, List.flatMap_append,
      flatMap_write_chars, List.append_assoc]
  · simp only [literals_append, literals_chars, List.nil_append]

/-- A literal is spelled with one lexeme. -/
theorem spells_quote (text : String) :
    Spells (Literal.quote Literal.escape text) (Literal.quote dropText text) [text] := by
  refine ⟨[.quoted .literal text.toList], ⟨by simp [Lexeme.isWhole], .singleton _⟩, ?_, ?_, ?_⟩
  · rw [Lexeme.toList_quote, List.flatMap_singleton]
  · simp [Literal.quote, dropText, around, Lexeme.hollow, Lexeme.write, Quote.mark]
  · simp [literals, Lexeme.literal?]

theorem eq_empty_iff {ls : List Lexeme} (h : s.toList = ls.flatMap Lexeme.write) : s = "" ↔ ls = [] := by
  rw [← String.toList_eq_nil_iff, h]
  cases ls with
  | nil => simp
  | cons l ls => simp [Lexeme.write_ne_nil]

/-- Of a text and its hollow counterpart both are empty or none is, and an empty text has no literals. -/
theorem Spells.isEmpty (h : Spells s s₀ texts) : s₀.isEmpty = s.isEmpty ∧ (s.isEmpty = true → texts = []) := by
  obtain ⟨ls, -, hs, hs₀, rfl⟩ := h
  have hn : s₀ = "" ↔ s = "" := by rw [eq_empty_iff hs₀, eq_empty_iff hs, around, List.map_eq_nil_iff]
  refine ⟨Bool.eq_iff_iff.2 (by rwa [String.isEmpty_iff, String.isEmpty_iff]), fun h => ?_⟩
  rw [(eq_empty_iff hs).1 (String.isEmpty_iff.1 h)]
  rfl

theorem isBare_of_isWord (h : isWord s = true) : isBare s = true := by
  refine List.all_eq_true.2 fun c hc => ?_
  have hw := List.all_eq_true.1 h c hc
  simp only [Bool.and_eq_true] at hw
  exact Bool.and_eq_true_iff.2 hw.1

theorem sideBySide_spells : SideBySide Spells where
  word h := spells_bare (isBare_of_isWord h)
  join hs h hne ht := hs.join (isBare_of_isWord h) hne ht
  isEmpty h := h.isEmpty

/-- A text is read as the lexemes with which it is spelled. -/
theorem Spells.lexemes (h : Spells s s₀ texts) :
    endsOutside allQuotes s = true ∧ literals (lexemes allQuotes s) = texts ∧
      around (lexemes allQuotes s) = lexemes allQuotes s₀ := by
  obtain ⟨ls, hl, hs, hs₀, rfl⟩ := h
  rw [lexemes_write hl hs, lexemes_write hl.around hs₀]
  exact ⟨endsOutside_write hl hs, rfl, rfl⟩

end

/-! ## Names -/

/-- When a name is quoted, and as what. -/
theorem Identifier.quote_eq_ok_iff {name quoted : String} :
    quote name = .ok quoted ↔
      name ≠ "" ∧ Guard.hasQuote name = false ∧ [] ∉ segments name ∧
        quoted = ".".intercalate ((segments name).map fun s => String.ofList (quoteSegment s)) := by
  unfold quote
  split
  · rename_i hempty
    simp [String.isEmpty_iff.1 hempty]
  · rename_i hempty
    have hne : name ≠ "" := fun e => hempty (String.isEmpty_iff.2 e)
    split
    · rename_i hq
      simp [hq]
    · rename_i hq
      split
      · rename_i hs
        simp [hs]
      · rename_i hs
        simp [hne, hq, hs, eq_comm]

/-- A name is written as its segments, with dots between them. -/
theorem SideBySide.identifier {R : String → String → List String → Prop} (hR : SideBySide R) {name s : String}
    (h : Identifier.quote name = .ok s)
    (hsegment : ∀ segment ∈ Identifier.segments name,
      R (String.ofList (Identifier.quoteSegment segment)) (String.ofList (Identifier.quoteSegment segment)) []) :
    R s s [] := by
  obtain ⟨-, -, -, rfl⟩ := Identifier.quote_eq_ok_iff.1 h
  have hg : Gathers R _ _ ((Identifier.segments name).flatMap fun _ => []) := gathers_map hsegment
  rw [List.flatMap_eq_nil_iff.2 fun _ _ => rfl] at hg
  exact hR.intercalate "." (by decide) (by decide) hg

theorem mem_of_mem_split {p : Char → Bool} {cs part : List Char} (h : part ∈ Text.split p cs) {c : Char}
    (hc : c ∈ part) : c ∈ cs := by
  induction cs generalizing part with
  | nil =>
    obtain rfl : part = [] := by simpa [Text.split] using h
    exact hc
  | cons d ds ih =>
    rw [Text.split] at h
    split at h
    · rcases List.mem_cons.1 h with rfl | h
      · cases hc
      · exact List.mem_cons_of_mem _ (ih h hc)
    · cases hs : Text.split p ds with
      | nil => simp [hs] at h
      | cons first parts =>
        rw [hs] at h ih
        rcases List.mem_cons.1 h with rfl | h
        · rcases List.mem_cons.1 hc with rfl | hc
          · exact List.mem_cons_self
          · exact List.mem_cons_of_mem _ (ih List.mem_cons_self hc)
        · exact List.mem_cons_of_mem _ (ih (List.mem_cons_of_mem _ h) hc)

theorem mem_of_mem_trim {s : List Char} {c : Char} (h : c ∈ Text.trim s) : c ∈ s := by
  rw [Text.trim, Text.trimEnd, List.mem_reverse] at h
  have h := (List.dropWhile_sublist _).mem h
  exact (List.dropWhile_sublist _).mem (List.mem_reverse.1 h)

theorem not_mem_segment {name : String} {c : Char} (h : c ∉ name.toList) {segment : List Char}
    (hs : segment ∈ Identifier.segments name) : c ∉ segment := by
  obtain ⟨part, hp, rfl⟩ := List.mem_map.1 hs
  exact fun hc => h (mem_of_mem_split hp (mem_of_mem_trim hc))

/-- A segment without backticks is bare, if it is the star, or gets backticks of its own. -/
theorem spells_quoteSegment {segment : List Char} (h : '`' ∉ segment) :
    Spells (String.ofList (Identifier.quoteSegment segment)) (String.ofList (Identifier.quoteSegment segment))
      [] := by
  have hq : Identifier.isQuoted segment = false := by
    cases segment with
    | nil => rfl
    | cons c cs =>
      have hc : c ≠ '`' := fun e => h (by simp [e])
      simp [Identifier.isQuoted, hc]
  by_cases hs : segment = ['*']
  · subst hs
    exact spells_bare (by decide)
  · refine ⟨[.quoted .name segment], ⟨by simp [Lexeme.isWhole], .singleton _⟩, ?_, ?_, rfl⟩
    · simp [Identifier.quoteSegment, hs, hq, Lexeme.write, Quote.mark, Lexeme.writeChar]
    · simp [Identifier.quoteSegment, hs, hq, around, Lexeme.hollow, Lexeme.write, Quote.mark, Lexeme.writeChar]

theorem spells_identifier {name s : String} (h : '`' ∉ name.toList) (hs : Identifier.quote name = .ok s) :
    Spells s s [] :=
  sideBySide_spells.identifier hs fun _ hm => spells_quoteSegment (not_mem_segment h hm)

end GuardedSql
