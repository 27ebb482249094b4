import GuardedSql.Proofs.FilterTexts
import GuardedSql.Proofs.RawGuard
import GuardedSql.Proofs.Spelling
import GuardedSql.Proofs.Suspicion

/-!
# Clauses in raw SQL

A clause that is compiled without raw SQL and templates may be put into raw SQL, as a subquery is. The guard then
reads what the escaping has written. It counts two quotes for each literal, but for one whose text ends in a
backslash: that is written as two of them, and the guard takes the closing quote for an escaped one.

- `counted_emit`: the quotes of a token.
- `relates_counted`: so they are counted in a filter.
- `Compiler.splice_iff`: so the guard refuses a clause of its own compiler exactly if the texts that end in a
  backslash are odd in number.
- `Compiler.splice_refused`: one is enough.
-/

namespace GuardedSql

def Token.isNotRaw : Token → Bool
  | .of .raw _ => false
  | _ => true

def endsInBackslash (text : String) : Bool :=
  text.toList.getLast? = some '\\'

namespace Guard

/-! ## Counting from part to part -/

/-- Whether a backslash stands right after a text, before which one stands if `escaped`. -/
def endsEscaped (escaped : Bool) : List Char → Bool
  | [] => escaped
  | c :: cs => endsEscaped (c = '\\') cs

theorem endsEscaped_append (b : Bool) (s t : List Char) :
    endsEscaped b (s ++ t) = endsEscaped (endsEscaped b s) t := by
  induction s generalizing b with
  | nil => rfl
  | cons c s ih => exact ih _

theorem countQuotes_append (b : Bool) (s t : List Char) :
    countQuotes b (s ++ t) = countQuotes b s + countQuotes (endsEscaped b s) t := by
  induction s generalizing b with
  | nil => exact (Nat.zero_add _).symm
  | cons c s ih => rw [List.cons_append, countQuotes, countQuotes, endsEscaped, ih, Nat.add_assoc]

theorem endsEscaped_eq (b : Bool) (s : List Char) :
    endsEscaped b s = (s.getLast?.map fun c => decide (c = '\\')).getD b := by
  induction s generalizing b with
  | nil => rfl
  | cons c s ih =>
    rw [endsEscaped, ih, List.getLast?_cons]
    cases s.getLast? <;> rfl

theorem endsEscaped_toList (s : String) : endsEscaped false s.toList = endsInBackslash s := by
  rw [endsEscaped_eq, endsInBackslash]
  cases s.toList.getLast? <;> simp

theorem endsInBackslash_of_append {s : String} {cs : List Char} {c : Char} (hs : s.toList = cs ++ [c])
    (hc : c ≠ '\\') : endsInBackslash s = false := by
  rw [endsInBackslash, hs, List.getLast?_concat]
  simpa using hc

theorem countQuotes_of_not_mem {b : Bool} {s : List Char} (h : '\'' ∉ s) : countQuotes b s = 0 := by
  induction s generalizing b with
  | nil => rfl
  | cons c s ih =>
    rw [List.mem_cons, not_or] at h
    rw [countQuotes, ih h.2, if_neg fun hc => h.1 hc.1.symm]

/-- Nothing but a quote is counted otherwise after a backslash. -/
theorem countQuotes_cons_of_ne {c : Char} (hc : c ≠ '\'') (b b' : Bool) (s : List Char) :
    countQuotes b (c :: s) = countQuotes b' (c :: s) := by
  simp [countQuotes, hc]

/-- The quotes that are counted in a text with literals of these contents, after which no backslash stands. -/
structure Counted (s : String) (texts : List String) : Prop where
  quotes : quotes s + texts.countP endsInBackslash = 2 * texts.length
  last : endsInBackslash s = false

variable {s t : String} {texts more : List String}

theorem Counted.append (hs : Counted s texts) (ht : Counted t more) : Counted (s ++ t) (texts ++ more) where
  quotes := by
    have hquotes : Guard.quotes (s ++ t) = Guard.quotes s + Guard.quotes t := by
      unfold Guard.quotes
      rw [String.toList_append, countQuotes_append, endsEscaped_toList, hs.last]
    have hs := hs.quotes
    have ht := ht.quotes
    rw [hquotes, List.countP_append, List.length_append]
    omega
  last := by
    rw [← endsEscaped_toList, String.toList_append, endsEscaped_append, endsEscaped_toList, hs.last,
      endsEscaped_toList, ht.last]

theorem counted_word (h : isWord s = true) : Counted s [] where
  quotes := by
    have hs : '\'' ∉ s.toList := fun hm => by simpa using List.all_eq_true.1 h _ hm
    exact countQuotes_of_not_mem hs
  last := by
    unfold endsInBackslash
    rw [decide_eq_false_iff_not]
    exact fun hl => by simpa using List.all_eq_true.1 h _ (List.mem_of_mem_getLast? hl)

theorem Counted.eq_nil (h : Counted "" texts) : texts = [] := by
  have hquotes := h.quotes
  have hle : texts.countP endsInBackslash ≤ texts.length := List.countP_le_length
  rw [show Guard.quotes "" = 0 from rfl] at hquotes
  exact List.length_eq_zero_iff.1 (by omega)

/-- A text is its own counterpart. -/
theorem sideBySide_counted : SideBySide fun s s₀ texts => s₀ = s ∧ Counted s texts where
  word h := ⟨rfl, counted_word h⟩
  join := by
    rintro s _ sep t _ texts more ⟨rfl, hs⟩ hw - ⟨rfl, ht⟩
    have hsep := hs.append (counted_word hw)
    rw [List.append_nil] at hsep
    exact ⟨rfl, hsep.append ht⟩
  isEmpty := by
    rintro s _ texts ⟨rfl, h⟩
    exact ⟨rfl, fun hempty => (String.isEmpty_iff.1 hempty ▸ h).eq_nil⟩

/-! ## Literals -/

/-- What is written for a character counts as the character, but for a quote, which does not count. -/
theorem countQuotes_escapeChar (b : Bool) (c : Char) (s : List Char) :
    countQuotes b (Literal.escapeChar c ++ s) = countQuotes (c = '\\') s := by
  unfold Literal.escapeChar
  split <;> simp_all [countQuotes]

/-- The quote after an escaped text counts, unless the text ends in a backslash. -/
theorem countQuotes_escape (b : Bool) (text : List Char) :
    countQuotes b (text.flatMap Literal.escapeChar ++ ['\'']) = if endsEscaped b text then 0 else 1 := by
  induction text generalizing b with
  | nil => cases b <;> rfl
  | cons c text ih => rw [List.flatMap_cons, List.append_assoc, countQuotes_escapeChar, ih, endsEscaped]

theorem counted_literal (text : String) : Counted (Literal.quote Literal.escape text) [text] where
  quotes := by
    have hquotes : Guard.quotes (Literal.quote Literal.escape text) =
        1 + countQuotes false (text.toList.flatMap Literal.escapeChar ++ ['\'']) := by
      simp [Guard.quotes, Literal.quote, countQuotes]
    rw [hquotes, countQuotes_escape, endsEscaped_toList]
    cases h : endsInBackslash text <;> simp [h]
  last := endsInBackslash_of_append (String.toList_append ..) (by decide)

/-! ## Names -/

/-- Where nothing counts in a name, nothing does in a segment of it: before a segment stands a dot. -/
theorem countQuotes_split {b : Bool} {s : List Char} (h : countQuotes b s = 0) :
    ∃ first rest, Text.split (· = '.') s = first :: rest ∧ countQuotes b first = 0 ∧
      ∀ part ∈ rest, countQuotes false part = 0 := by
  induction s generalizing b with
  | nil => exact ⟨[], [], rfl, rfl, by simp⟩
  | cons c s ih =>
    rw [countQuotes] at h
    obtain ⟨hc, hs⟩ := Nat.add_eq_zero_iff.1 h
    obtain ⟨first, rest, hsplit, hfirst, hrest⟩ := ih hs
    by_cases hdot : c = '.'
    · subst hdot
      refine ⟨[], first :: rest, by simp [Text.split, hsplit], rfl, List.forall_mem_cons.2 ⟨hfirst, hrest⟩⟩
    · refine ⟨c :: first, rest, by simp [Text.split, hsplit, hdot], ?_, hrest⟩
      rw [countQuotes, hc, hfirst]

theorem countQuotes_trim {s : List Char} (h : countQuotes false s = 0) : countQuotes false (Text.trim s) = 0 := by
  have hstart : countQuotes false (Text.trimStart s) = 0 := by
    induction s with
    | nil => rfl
    | cons c s ih =>
      by_cases hc : Text.isSpace c = true
      · have hne : c ≠ '\\' := by
          rintro rfl
          exact absurd hc (by decide)
        rw [countQuotes, decide_eq_false hne] at h
        rw [Text.trimStart, List.dropWhile_cons_of_pos hc]
        exact ih (Nat.add_eq_zero_iff.1 h).2
      · rwa [Text.trimStart, List.dropWhile_cons_of_neg hc]
  obtain ⟨spaces, hspaces⟩ := List.dropWhile_suffix Text.isSpace (l := (Text.trimStart s).reverse)
  have hparts : Text.trimStart s = Text.trim s ++ spaces.reverse := by
    rw [Text.trim, Text.trimEnd, ← List.reverse_append, hspaces, List.reverse_reverse]
  rw [hparts, countQuotes_append] at hstart
  exact (Nat.add_eq_zero_iff.1 hstart).1

/-- Backticks are doubled, which changes nothing. -/
theorem countQuotes_doubled (b : Bool) (s : List Char) :
    countQuotes b (s.flatMap Identifier.escapeChar) = countQuotes b s := by
  induction s generalizing b with
  | nil => rfl
  | cons c s ih =>
    rw [List.flatMap_cons]
    by_cases hc : c = '`'
    · subst hc
      simp [Identifier.escapeChar, countQuotes, ih]
    · simp [Identifier.escapeChar, hc, countQuotes, ih]

theorem counted_quoteSegment {segment : List Char} (h : countQuotes false segment = 0) :
    Counted (String.ofList (Identifier.quoteSegment segment)) [] := by
  unfold Identifier.quoteSegment
  split
  · rename_i hbare
    refine ⟨by simpa [Guard.quotes] using h, ?_⟩
    rcases hbare with rfl | hquoted
    · rfl
    · simp only [Identifier.isQuoted, Bool.and_eq_true, decide_eq_true_eq] at hquoted
      simp [endsInBackslash, hquoted.2]
  · refine ⟨?_, endsInBackslash_of_append String.toList_ofList (by decide)⟩
    have hdoubled := countQuotes_doubled false segment
    simp [Guard.quotes, countQuotes, countQuotes_append, hdoubled, h]

theorem counted_identifier {name : String} (h : Identifier.quote name = .ok s) : Counted s [] := by
  obtain ⟨-, hquote, -, -⟩ := Identifier.quote_eq_ok_iff.1 h
  have hname : countQuotes false name.toList = 0 := not_not.1 (of_decide_eq_false hquote)
  obtain ⟨first, rest, hsplit, hfirst, hrest⟩ := countQuotes_split hname
  refine (sideBySide_counted.identifier h fun segment hsegment => ⟨rfl, ?_⟩).2
  obtain ⟨part, hpart, rfl⟩ := List.mem_map.1 hsegment
  refine counted_quoteSegment (countQuotes_trim ?_)
  rw [hsplit] at hpart
  rcases List.mem_cons.1 hpart with rfl | hpart
  · exact hfirst
  · exact hrest part hpart

/-! ## Texts of tokens -/

/-- Of what a token writes, the quotes around its data count, and no others. -/
theorem counted_emit {u : Token} (hu : u.isNotRaw = true) (h : u.emit Literal.escape = .ok s) :
    Counted s u.literals := by
  rcases u with ⟨role, text⟩ | _
  · cases role with
    | column | reference => exact counted_identifier h
    | value | literal =>
      cases h
      exact counted_literal text
    | blank =>
      cases h
      exact counted_word (by decide)
    | raw => cases hu
  · cases h
    exact counted_word (by decide)

theorem relates_counted :
    Relates Literal.escape Literal.escape Token.isNotRaw fun s s₀ texts => s₀ = s ∧ Counted s texts where
  toSideBySide := sideBySide_counted
  agree_emit {u} hu := by
    cases h : u.emit Literal.escape with
    | ok s => exact .ok ⟨rfl, counted_emit hu h⟩
    | error e => exact .error e

end Guard

namespace Compiler

open Guard

variable {policy : Policy} {f : Filter} {links : List Link}

theorem counted_clause (hf : Filter.check Token.isNotRaw noTemplate f = true)
    (h : (filter ⟨Literal.escape, policy⟩ f).result = .ok (.of links)) :
    Counted (Clause.of links).writeWhere (literalsOf (Filter.tokens f)) := by
  obtain ⟨links₀, -, hlinks⟩ := (relates_counted.agree_filter f hf).eq_ok (compile_of_filter h)
  obtain ⟨-, hall⟩ := hlinks.writeAll sideBySide_counted
  unfold Clause.writeWhere
  split
  · rename_i hempty
    rw [Clause.isEmpty, Clause.links, List.isEmpty_iff] at hempty
    rwa [hempty] at hall
  · exact (counted_word (s := "WHERE ") (by decide)).append hall

/-- Of a clause in raw SQL, after a text without quotes, the guard counts the quotes as it does in the clause. -/
theorem quotes_splice {head clause : String} {texts : List String} (hhead : '\'' ∉ head.toList)
    (hclause : Counted clause texts) (hfirst : ∀ c ∈ clause.toList.head?, c ≠ '\'') :
    quotes (head ++ clause ++ ")") = quotes clause := by
  have hrest : ∀ b, countQuotes b (clause.toList ++ [')']) = quotes clause := by
    intro b
    have hstart : countQuotes b (clause.toList ++ [')']) = countQuotes false (clause.toList ++ [')']) := by
      cases hc : clause.toList with
      | nil => exact countQuotes_cons_of_ne (by decide) _ _ _
      | cons c cs => exact countQuotes_cons_of_ne (hfirst c (by simp [hc])) _ _ _
    rw [hstart, countQuotes_append, endsEscaped_toList, hclause.last]
    rfl
  unfold quotes
  rw [String.toList_append, String.toList_append, List.append_assoc, countQuotes_append,
    countQuotes_of_not_mem hhead, Nat.zero_add]
  exact hrest _

/-- A clause that is compiled without raw SQL and templates, and raw SQL with it in parentheses after a text without
quotes. The guard accepts them, and the raw SQL is written as it is, exactly if the texts of the filter's data that
end in a backslash are even in number. -/
theorem splice_iff (hf : Filter.check Token.isNotRaw noTemplate f = true)
    (h : (filter ⟨Literal.escape, policy⟩ f).result = .ok (.of links)) {head : String}
    (hhead : '\'' ∉ head.toList) :
    let clause := Clause.of links
    let sql := head ++ clause.writeWhere ++ ")"
    let texts := (literalsOf (Filter.tokens f)).filter endsInBackslash
    (checkRaw clause.writeWhere = .ok () ↔ texts.length % 2 = 0) ∧
      ∀ escaper, (Token.raw sql).emit escaper =
        if texts.length % 2 = 0 then .ok sql else .error (.suspicious sql) := by
  intro clause sql texts
  have hclause : Counted clause.writeWhere (literalsOf (Filter.tokens f)) := counted_clause hf h
  have hparity : quotes clause.writeWhere % 2 = texts.length % 2 := by
    have hcount : (literalsOf (Filter.tokens f)).countP endsInBackslash = texts.length :=
      List.countP_eq_length_filter
    have hclause := hclause.quotes
    omega
  have hfirst : ∀ c ∈ clause.writeWhere.toList.head?, c ≠ '\'' := by
    unfold Clause.writeWhere
    split <;> simp
  have hquotes : quotes sql = quotes clause.writeWhere := quotes_splice hhead hclause hfirst
  have hblank : Text.isBlank sql = false := by
    refine List.all_eq_false.2 ⟨')', ?_, by decide⟩
    exact String.toList_append ▸ List.mem_append_right _ (List.mem_singleton_self _)
  have hraw : ∀ escaper, (Token.raw sql).emit escaper = checkRaw sql >>= fun _ => .ok sql := fun _ =>
    if_neg (by simp [hblank])
  refine ⟨by rw [checkRaw_eq_ok_iff, hparity], fun escaper => ?_⟩
  rw [hraw, checkRaw, isUnbalanced, hquotes, hparity]
  rcases Nat.mod_two_eq_zero_or_one texts.length with heven | hodd
  · rw [heven]
    rfl
  · rw [hodd]
    rfl

/-- A subquery on a name with a quote in it. -/
theorem splice_iff_name :
    let f : Filter := [⟨.and, .column "name", .equals (.data "O'Brien")⟩]
    let links : List Link := [⟨.and, .comparison ⟨some "`name`", .eq, [some "'O\\'Brien'"]⟩⟩]
    let head := "(SELECT `id` FROM `users` "
    let sql := "(SELECT `id` FROM `users` WHERE `name` = 'O\\'Brien')"
    Filter.check Token.isNotRaw noTemplate f = true ∧
      (filter ⟨Literal.escape, .raise⟩ f).result = .ok (.of links) ∧ '\'' ∉ head.toList ∧
      (Token.raw sql).emit Literal.escape = .ok sql := by
  intro f links head sql
  have hf : Filter.check Token.isNotRaw noTemplate f = true := by decide +kernel
  have hlinks : (filter ⟨Literal.escape, .raise⟩ f).result = .ok (.of links) := by rfl
  have hhead : '\'' ∉ head.toList := by decide +kernel
  exact ⟨hf, hlinks, hhead, (splice_iff hf hlinks hhead).2 Literal.escape⟩

/-- A clause is compiled for a path that ends in a backslash, and is refused as raw SQL, alone and in a subquery. -/
theorem splice_refused :
    let f : Filter := [⟨.and, .column "path", .equals (.data "C:\\")⟩]
    let clause := "WHERE `path` = 'C:\\\\'"
    let sql := "(SELECT `id` FROM `files` WHERE `path` = 'C:\\\\')"
    Filter.check Token.isNotRaw noTemplate f = true ∧
      Clause.writeWhere <$> (filter ⟨Literal.escape, .raise⟩ f).result = .ok clause ∧
      checkRaw clause = .error (.suspicious clause) ∧
      (Token.raw sql).emit Literal.escape = .error (.suspicious sql) := by
  decide +kernel

end Compiler

end GuardedSql
