import GuardedSql.Quote.Identifier
import GuardedSql.Quote.Literal
import Mathlib.Data.List.Chain

/-!
# Reading quoted text

How MySQL divides the text of a statement into what stands between quotes and what does not. A single
quote opens a literal, a backtick a name; the same character closes it. Inside, a quote that is doubled
stands for itself, and in a literal a backslash makes the next character ordinary or a special one.

- `read_between`: between quotes, whatever comes is read as a lexeme that goes on from the text so far.
- `lexemes_write`: lexemes that are written out are read back, if no two quoted ones touch.
- `endsOutside_write`: reading them ends outside of quotes.
-/

namespace GuardedSql

/-- What stands between two quotes. -/
inductive Quote where
  | literal
  | name
deriving DecidableEq, Repr

/-- The character before and after. -/
def Quote.mark : Quote → Char
  | .literal => '\''
  | .name => '`'

/-- A part of a statement's text. -/
inductive Lexeme where
  /-- a character outside of quotes -/
  | char (c : Char)
  /-- the text between two quotes, as it is meant -/
  | quoted (q : Quote) (text : List Char)
  /-- the text after a quote that nothing closes -/
  | unclosed (q : Quote) (text : List Char)
deriving DecidableEq, Repr

namespace Lexeme

def isQuoted : Lexeme → Bool
  | .quoted .. => true
  | _ => false

/-- The text of a lexeme. -/
def body : Lexeme → List Char
  | .char c => [c]
  | .quoted _ text | .unclosed _ text => text

/-- The text of a literal. -/
def literal? : Lexeme → Option String
  | .quoted .literal text => some (String.ofList text)
  | _ => none

/-- The lexeme with nothing in it if it is a literal. -/
def hollow : Lexeme → Lexeme
  | .quoted .literal _ => .quoted .literal []
  | l => l

/-- A character between two quotes. -/
def writeChar : Quote → Char → List Char
  | .literal => Literal.escapeChar
  | .name => Identifier.escapeChar

def write : Lexeme → List Char
  | .char c => [c]
  | .quoted q text => q.mark :: (text.flatMap (writeChar q) ++ [q.mark])
  | .unclosed q text => q.mark :: text.flatMap (writeChar q)

/-- A lexeme that no quote is left open by, and that is not the mark of one. -/
def isWhole : Lexeme → Bool
  | .char c => c ≠ '\'' && c ≠ '`'
  | .quoted .. => true
  | .unclosed .. => false

/-- A text is quoted as the literal that holds it is written. -/
theorem toList_quote (text : String) :
    (Literal.quote Literal.escape text).toList = (quoted .literal text.toList).write := by
  simp [Literal.quote, write, Quote.mark, writeChar]

theorem write_ne_nil (l : Lexeme) : l.write ≠ [] := by
  cases l <;> simp [write]

@[simp] theorem isQuoted_hollow (l : Lexeme) : l.hollow.isQuoted = l.isQuoted := by
  rcases l with c | ⟨q, text⟩ | ⟨q, text⟩
  · rfl
  · cases q <;> rfl
  · rfl

@[simp] theorem isWhole_hollow (l : Lexeme) : l.hollow.isWhole = l.isWhole := by
  rcases l with c | ⟨q, text⟩ | ⟨q, text⟩
  · rfl
  · cases q <;> rfl
  · rfl

end Lexeme

/-- Lexemes of which no two quoted ones touch: touching, the quotes between them would be a doubled one. -/
structure WellSpaced (ls : List Lexeme) : Prop where
  whole : ∀ l ∈ ls, l.isWhole = true
  spaced : ls.IsChain fun a b => ¬ (a.isQuoted = true ∧ b.isQuoted = true)

theorem WellSpaced.tail {l : Lexeme} {ls : List Lexeme} (h : WellSpaced (l :: ls)) : WellSpaced ls :=
  ⟨fun k hk => h.whole k (List.mem_cons_of_mem _ hk), h.spaced.tail⟩

/-- After a quoted lexeme no quote follows. -/
theorem WellSpaced.head?_write_ne {q p : Quote} {text : List Char} {ls : List Lexeme}
    (h : WellSpaced (.quoted q text :: ls)) : (ls.flatMap Lexeme.write).head? ≠ some p.mark := by
  cases ls with
  | nil => simp
  | cons l ls =>
    have hw := h.whole l (by simp)
    have hs : l.isQuoted = false := by
      simpa [Lexeme.isQuoted] using (List.isChain_cons_cons.1 h.spaced).1
    rcases l with c | ⟨q', t⟩ | ⟨q', t⟩
    · simp only [Lexeme.isWhole, Bool.and_eq_true, decide_eq_true_eq] at hw
      simp only [Lexeme.write, List.flatMap_cons, List.cons_append, List.head?_cons, ne_eq, Option.some.injEq]
      rintro rfl
      cases p <;> simp [Quote.mark] at hw
    · simp [Lexeme.isQuoted] at hs
    · simp [Lexeme.isWhole] at hw

namespace Lexer

/-- Where reading stands after a part of a text. -/
inductive Mode where
  | outside
  /-- between quotes, after `text` -/
  | inside (q : Quote) (text : List Char)
  /-- in a literal, right after a backslash -/
  | escaped (text : List Char)
  /-- right after the second quote, which is the first of two if another one follows -/
  | closing (q : Quote) (text : List Char)
deriving DecidableEq, Repr

namespace Mode

def isOutside : Mode → Bool
  | .outside | .closing .. => true
  | .inside .. | .escaped _ => false

@[simp] theorem isOutside_outside : outside.isOutside = true := rfl

@[simp] theorem isOutside_inside (q : Quote) (text : List Char) : (inside q text).isOutside = false := rfl

@[simp] theorem isOutside_escaped (text : List Char) : (escaped text).isOutside = false := rfl

@[simp] theorem isOutside_closing (q : Quote) (text : List Char) : (closing q text).isOutside = true := rfl

/-- What there is left to read at the end of the text. -/
def rest : Mode → List Lexeme
  | .outside => []
  | .inside q text => [.unclosed q text]
  | .escaped text => [.unclosed .literal text]
  | .closing q text => [.quoted q text]

/-- The text so far between the quotes. -/
def text? : Mode → Option (List Char)
  | .outside => none
  | .inside _ text | .escaped text | .closing _ text => some text

/-- Right after a backslash in a literal. -/
def isEscaped : Mode → Bool
  | .escaped _ => true
  | _ => false

/-- The quotes between which reading stands. -/
def quote? : Mode → Option Quote
  | .outside => none
  | .inside q _ | .closing q _ => some q
  | .escaped _ => some .literal

end Mode

/-- What a character stands for after a backslash. -/
def unescape : Char → List Char
  | '0' => ['\x00']
  | 'b' => ['\x08']
  | 'n' => ['\n']
  | 'r' => ['\r']
  | 't' => ['\t']
  | 'Z' => ['\x1a']
  | '%' => ['\\', '%']
  | '_' => ['\\', '_']
  | c => [c]

section

variable (quotes : List Quote)

/-- What a character outside of quotes is read as, where `quotes` are looked for. -/
def start (c : Char) : List Lexeme × Mode :=
  match quotes.find? (·.mark = c) with
  | some q => ([], .inside q [])
  | none => ([.char c], .outside)

/-- What a character completes, and where reading stands after it. -/
def step : Mode → Char → List Lexeme × Mode
  | .outside, c => start quotes c
  | .inside q text, c =>
    if c = q.mark then ([], .closing q text)
    else if c = '\\' ∧ q = .literal then ([], .escaped text)
    else ([], .inside q (text ++ [c]))
  | .escaped text, c => ([], .inside .literal (text ++ unescape c))
  | .closing q text, c =>
    if c = q.mark then ([], .inside q (text ++ [c]))
    else (.quoted q text :: (start quotes c).1, (start quotes c).2)

/-- Where reading stands after a text. -/
def after (m : Mode) (s : List Char) : Mode :=
  s.foldl (fun m c => (step quotes m c).2) m

/-- What a text is read as from where reading stands. -/
def read (m : Mode) : List Char → List Lexeme
  | [] => m.rest
  | c :: cs => (step quotes m c).1 ++ read (step quotes m c).2 cs

/-- What a statement is read as. -/
def lexemes (s : String) : List Lexeme :=
  read quotes .outside s.toList

/-- Whether no quote is left open at the end of a text. -/
def endsOutside (s : String) : Bool :=
  (after quotes .outside s.toList).isOutside

end

/-- The texts of the literals, in their order. -/
def literals (ls : List Lexeme) : List String :=
  ls.filterMap Lexeme.literal?

/-- All but the texts of the literals. -/
def around (ls : List Lexeme) : List Lexeme :=
  ls.map Lexeme.hollow

/-- The quotes of literals alone. -/
abbrev strings : List Quote := [.literal]

/-- The quotes of literals and of names. -/
abbrev allQuotes : List Quote := [.literal, .name]

variable {quotes : List Quote}

@[simp] theorem after_nil (m : Mode) : after quotes m [] = m := rfl

@[simp] theorem after_cons (m : Mode) (c : Char) (cs : List Char) :
    after quotes m (c :: cs) = after quotes (step quotes m c).2 cs := rfl

@[simp] theorem read_nil (m : Mode) : read quotes m [] = m.rest := rfl

@[simp] theorem read_cons (m : Mode) (c : Char) (cs : List Char) :
    read quotes m (c :: cs) = (step quotes m c).1 ++ read quotes (step quotes m c).2 cs := rfl

/-! ## Characters outside of quotes -/

theorem start_of_ne {c : Char} (h : ∀ q ∈ quotes, q.mark ≠ c) : start quotes c = ([.char c], .outside) := by
  rw [start, List.find?_eq_none.2 (by simpa using h)]

theorem step_outside_of_ne {c : Char} (h : ∀ q ∈ quotes, q.mark ≠ c) :
    step quotes .outside c = ([.char c], .outside) :=
  start_of_ne h

/-- After a second quote that is none of two, reading goes on outside. -/
theorem read_closing {q : Quote} {text s : List Char} (h : s.head? ≠ some q.mark) :
    read quotes (.closing q text) s = .quoted q text :: read quotes .outside s := by
  cases s with
  | nil => rfl
  | cons c cs =>
    have hc : c ≠ q.mark := by simpa using h
    simp [step, hc]

theorem after_closing {q : Quote} {text s : List Char} (h : s.head? ≠ some q.mark) :
    (after quotes (.closing q text) s).isOutside = (after quotes .outside s).isOutside := by
  cases s with
  | nil => rfl
  | cons c cs =>
    have hc : c ≠ q.mark := by simpa using h
    simp [step, hc]

/-- Reading stands between quotes that are looked for. -/
theorem quote?_step {quotes : List Quote} {m : Mode} (hm : ∀ q ∈ m.quote?, q ∈ quotes) (c : Char) :
    ∀ q ∈ (step quotes m c).2.quote?, q ∈ quotes := by
  have hs : ∀ q ∈ (start quotes c).2.quote?, q ∈ quotes := by
    unfold start
    split
    · rename_i q hq
      simpa [Mode.quote?] using List.mem_of_find?_eq_some hq
    · simp [Mode.quote?]
  rcases m with _ | ⟨q, text⟩ | text | ⟨q, text⟩
  · exact hs
  · have hq := hm q rfl
    simp only [step]
    split
    · simpa [Mode.quote?] using hq
    · split
      · rename_i h
        simpa [Mode.quote?, h.2] using hq
      · simpa [Mode.quote?] using hq
  · simpa [step, Mode.quote?] using hm .literal rfl
  · have hq := hm q rfl
    simp only [step]
    split
    · simpa [Mode.quote?] using hq
    · exact hs

theorem isEscaped_step {quotes : List Quote} {m : Mode} {c : Char}
    (h : (step quotes m c).2.isEscaped = true) : c = '\\' := by
  have hs : (start quotes c).2.isEscaped = false := by
    unfold start
    split <;> rfl
  rcases m with _ | ⟨q, text⟩ | text | ⟨q, text⟩
  · rw [step, hs] at h
    cases h
  · simp only [step] at h
    split at h
    · cases h
    · split at h
      · rename_i hc
        exact hc.1
      · cases h
  · cases h
  · simp only [step] at h
    split at h
    · cases h
    · rw [hs] at h
      cases h

/-- A character is read where it stands. -/
theorem char_mem_step {m : Mode} {c d : Char} (h : .char d ∈ (step quotes m c).1) : d = c := by
  have hs : .char d ∈ (start quotes c).1 → d = c := by
    unfold start
    split <;> simp
  rcases m with _ | ⟨q, text⟩ | text | ⟨q, text⟩
  · exact hs h
  · simp only [step] at h
    split at h
    · cases h
    · split at h <;> cases h
  · cases h
  · simp only [step] at h
    split at h
    · cases h
    · exact hs (by simpa using h)

theorem char_not_mem_rest (m : Mode) (c : Char) : .char c ∉ m.rest := by
  cases m <;> simp [Mode.rest]

/-! ## Between quotes -/

theorem literal_step {c : Char} (h : Literal.escapeChar c = [c]) (text : List Char) :
    step quotes (.inside .literal text) c = ([], .inside .literal (text ++ [c])) := by
  have h₁ : c ≠ '\'' := by rintro rfl; revert h; decide
  have h₂ : c ≠ '\\' := by rintro rfl; revert h; decide
  simp [step, Quote.mark, h₁, h₂]

/-- A character is written as itself, or behind a backslash by a character that stands for it there. -/
theorem escapeChar_cases (c : Char) :
    Literal.escapeChar c = [c] ∨
      ∃ d, Literal.escapeChar c = ['\\', d] ∧ unescape d = [c] := by
  unfold Literal.escapeChar
  split
  any_goals exact .inr ⟨_, rfl, by decide⟩
  exact .inl rfl

/-- Between quotes a text is read as a lexeme that goes on from the text so far, and more. -/
theorem read_between {m : Mode} {text : List Char} (h : m.text? = some text) (s : List Char) :
    ∃ l ls u, read quotes m s = l :: ls ∧ l.body = text ++ u := by
  induction s generalizing m text with
  | nil =>
    rcases m with _ | ⟨q, t⟩ | t | ⟨q, t⟩ <;> cases h
    · exact ⟨_, [], [], rfl, by simp [Lexeme.body]⟩
    · exact ⟨_, [], [], rfl, by simp [Lexeme.body]⟩
    · exact ⟨_, [], [], rfl, by simp [Lexeme.body]⟩
  | cons c cs ih =>
    -- nothing is complete, and the text so far is longer by `t`
    have more : ∀ t, (step quotes m c).1 = [] → (step quotes m c).2.text? = some (text ++ t) →
        ∃ l ls u, read quotes m (c :: cs) = l :: ls ∧ l.body = text ++ u := by
      intro t h₁ h₂
      obtain ⟨l, ls, u, hr, hb⟩ := ih h₂
      exact ⟨l, ls, t ++ u, by rw [read_cons, h₁, hr, List.nil_append], by rw [hb, List.append_assoc]⟩
    rcases m with _ | ⟨q, t⟩ | t | ⟨q, t⟩ <;> cases h
    · by_cases hc : c = q.mark
      · exact more [] (by simp [step, hc]) (by simp [step, hc, Mode.text?])
      · by_cases hb : c = '\\' ∧ q = .literal
        · exact more [] (by simp [step, hb, Quote.mark]) (by simp [step, hb, Quote.mark, Mode.text?])
        · exact more [c] (by simp [step, hc, hb]) (by simp [step, hc, hb, Mode.text?])
    · exact more (unescape c) rfl rfl
    · by_cases hc : c = q.mark
      · exact more [c] (by simp [step, hc]) (by simp [step, hc, Mode.text?])
      · refine ⟨.quoted q text, (start quotes c).1 ++ read quotes (start quotes c).2 cs, [], ?_, ?_⟩
        · simp only [read_cons, step, if_neg hc, List.cons_append]
        · simp [Lexeme.body]

/-- A character that is written between quotes is read as itself. -/
theorem read_writeChar (q : Quote) (c : Char) (text s : List Char) :
    read quotes (.inside q text) (Lexeme.writeChar q c ++ s) = read quotes (.inside q (text ++ [c])) s ∧
      after quotes (.inside q text) (Lexeme.writeChar q c ++ s) = after quotes (.inside q (text ++ [c])) s := by
  cases q with
  | literal =>
    rcases escapeChar_cases c with h | ⟨d, h, hd⟩
    · simp [Lexeme.writeChar, h, literal_step h]
    · simp [Lexeme.writeChar, h, step, Quote.mark, hd]
  | name =>
    by_cases h : c = '`'
    · simp [Lexeme.writeChar, Identifier.escapeChar, h, step, Quote.mark]
    · simp [Lexeme.writeChar, Identifier.escapeChar, h, step, Quote.mark]

/-- So is a text. -/
theorem read_flatMap_writeChar (q : Quote) (text t s : List Char) :
    read quotes (.inside q t) (text.flatMap (Lexeme.writeChar q) ++ s) = read quotes (.inside q (t ++ text)) s ∧
      after quotes (.inside q t) (text.flatMap (Lexeme.writeChar q) ++ s) =
        after quotes (.inside q (t ++ text)) s := by
  induction text generalizing t with
  | nil => simp
  | cons c cs ih =>
    have hc := @read_writeChar quotes q c t (cs.flatMap (Lexeme.writeChar q) ++ s)
    rw [List.flatMap_cons, List.append_assoc, hc.1, hc.2, (ih _).1, (ih _).2, List.append_assoc,
      List.singleton_append]
    exact ⟨rfl, rfl⟩

theorem mark_injective : ∀ p q : Quote, p.mark = q.mark → p = q := by
  rintro (_ | _) (_ | _) h <;> first | rfl | exact absurd h (by decide)

theorem find?_mark {q : Quote} (h : q ∈ quotes) :
    quotes.find? (fun p => decide (p.mark = q.mark)) = some q := by
  obtain ⟨p, hp⟩ := Option.isSome_iff_exists.1 (List.find?_isSome (p := fun p => decide (p.mark = q.mark)) |>.2
    ⟨q, h, by simp⟩)
  rw [hp, mark_injective p q (by simpa using List.find?_some hp)]

/-- A quoted lexeme is read up to its second quote. -/
theorem read_quoted {q : Quote} (h : q ∈ quotes) (text s : List Char) :
    read quotes .outside ((Lexeme.quoted q text).write ++ s) = read quotes (.closing q text) s ∧
      after quotes .outside ((Lexeme.quoted q text).write ++ s) = after quotes (.closing q text) s := by
  have ht := @read_flatMap_writeChar quotes q text [] (q.mark :: s)
  rw [List.nil_append] at ht
  have hq : step quotes .outside q.mark = ([], .inside q []) := by rw [step, start, find?_mark h]
  have hc : step quotes (.inside q text) q.mark = ([], .closing q text) := by simp [step]
  simp only [Lexeme.write, List.cons_append, List.append_assoc, List.nil_append, read_cons, after_cons,
    hq, ht, hc, and_self]

/-! ## Lexemes that are written out -/

theorem read_after_write {ls : List Lexeme} (h : WellSpaced ls) :
    read allQuotes .outside (ls.flatMap Lexeme.write) = ls ∧
      (after allQuotes .outside (ls.flatMap Lexeme.write)).isOutside = true := by
  induction ls with
  | nil => exact ⟨rfl, rfl⟩
  | cons l ls ih =>
    have hw := h.whole l (by simp)
    rcases l with c | ⟨q, text⟩ | ⟨q, text⟩
    · have hc : ∀ q ∈ allQuotes, q.mark ≠ c := by
        simp only [Lexeme.isWhole, Bool.and_eq_true, decide_eq_true_eq, ne_eq] at hw
        rintro (_ | _) - rfl <;> simp [Quote.mark] at hw
      simpa [Lexeme.write, step_outside_of_ne hc] using ih h.tail
    · have hq : q ∈ allQuotes := by cases q <;> decide
      rw [List.flatMap_cons, (read_quoted hq text _).1, (read_quoted hq text _).2,
        read_closing h.head?_write_ne, after_closing h.head?_write_ne, (ih h.tail).1]
      exact ⟨rfl, (ih h.tail).2⟩
    · simp [Lexeme.isWhole] at hw

/-- Lexemes are read back from their text. -/
theorem lexemes_write {ls : List Lexeme} {s : String} (h : WellSpaced ls)
    (hs : s.toList = ls.flatMap Lexeme.write) : lexemes allQuotes s = ls := by
  rw [lexemes, hs, (read_after_write h).1]

theorem endsOutside_write {ls : List Lexeme} {s : String} (h : WellSpaced ls)
    (hs : s.toList = ls.flatMap Lexeme.write) : endsOutside allQuotes s = true := by
  rw [endsOutside, hs, (read_after_write h).2]

end Lexer

end GuardedSql
