import GuardedSql.Statement.Kind
import Mathlib.Data.List.Infix

/-!
# What stands before a statement

Spaces, opening parentheses and comments before a statement do not change its kind, whatever the statement is. A
block comment is skipped up to the first `*/` after its slash, which the star of `/*` may begin: a comment in which a
slash comes first is taken to end there, and what is left of it is read as the statement.

- `Skippable`: what a text is made of that may stand there, given what a block comment is.
- `skip_append`: such a text is skipped.
- `fate_skip`: any other text hides the word after it, or something of it is left before the word.
- `ofSql_append_iff`: so these are the texts that never change the kind.
-/

namespace GuardedSql.Kind

/-- What closes a block comment. -/
abbrev closer : List Char := ['*', '/']

/-- A block comment: `/*`, a text without `*/`, and `*/`. -/
def IsComment (text : List Char) : Prop :=
  ∃ body, ¬ closer <:+: body ∧ text = '/' :: '*' :: (body ++ closer)

/-- A block comment as it is skipped, from `/*` to the first `*/` after the slash. -/
def IsSkippedComment (text : List Char) : Prop :=
  ∃ body, ¬ closer <:+: body ∧ (body ++ closer).head? = some '*' ∧ text = '/' :: (body ++ closer)

/-- Spaces, opening parentheses, line comments with the ends of their lines, and block comments. -/
inductive Skippable (comment : List Char → Prop) : List Char → Prop
  | nil : Skippable comment []
  | space {c : Char} {cs : List Char} (h : Text.isSpace c = true) (hs : Skippable comment cs) :
    Skippable comment (c :: cs)
  | parenthesis {cs : List Char} (hs : Skippable comment cs) : Skippable comment ('(' :: cs)
  | dashes {body cs : List Char} (h : '\n' ∉ body) (hs : Skippable comment cs) :
    Skippable comment ('-' :: '-' :: (body ++ '\n' :: cs))
  | hash {body cs : List Char} (h : '\n' ∉ body) (hs : Skippable comment cs) :
    Skippable comment ('#' :: (body ++ '\n' :: cs))
  | block {text cs : List Char} (h : comment text) (hs : Skippable comment cs) : Skippable comment (text ++ cs)

/-! ## The ends of block comments -/

theorem closer_infix_cons {c : Char} {cs : List Char} :
    closer <:+: c :: cs ↔ (c = '*' ∧ cs.head? = some '/') ∨ closer <:+: cs := by
  have hprefix : ['/'] <+: cs ↔ cs.head? = some '/' := by
    cases cs <;> simp [List.cons_prefix_cons, eq_comm]
  rw [List.infix_cons_iff, List.cons_prefix_cons, hprefix, eq_comm (a := '*')]

/-- A comment is skipped as one unless a slash follows the `/*`. -/
theorem isSkippedComment_iff {text : List Char} (h : IsComment text) :
    IsSkippedComment text ↔ text[2]? ≠ some '/' := by
  obtain ⟨body, hbody, rfl⟩ := h
  have hthird : ('/' :: '*' :: (body ++ closer))[2]? = (body ++ closer).head? :=
    List.head?_eq_getElem?.symm
  have hslash : (body ++ closer).head? = some '/' ↔ body.head? = some '/' := by
    cases body <;> simp
  rw [hthird, ne_eq, hslash]
  constructor
  · rintro ⟨body', hbody', -, htext⟩ hhead
    obtain rfl : '*' :: body = body' := List.append_cancel_right (List.cons_injective htext)
    exact hbody' (closer_infix_cons.2 (.inl ⟨rfl, hhead⟩))
  · refine fun hhead => ⟨'*' :: body, fun hinfix => ?_, rfl, rfl⟩
    exact (closer_infix_cons.1 hinfix).elim (fun h => hhead h.2) hbody

/-! ## Texts that are skipped -/

theorem skipLine_append {body : List Char} (h : '\n' ∉ body) (cs : List Char) :
    skipLine (body ++ '\n' :: cs) = skip cs := by
  induction body with
  | nil => rfl
  | cons c body ih =>
    rw [List.mem_cons, not_or] at h
    rw [List.cons_append, skipLine, if_neg (Ne.symm h.1), ih h.2]

theorem skipBlock_append {star : Bool} {body : List Char} (h : ¬ closer <:+: body)
    (hstar : star = true → body.head? ≠ some '/') (cs : List Char) :
    skipBlock star (body ++ closer ++ cs) = skip cs := by
  induction body generalizing star with
  | nil => cases star <;> rfl
  | cons c body ih =>
    rw [closer_infix_cons, not_or] at h
    have hclosed : ¬ (star && c = '/') = true := by simpa using hstar
    rw [List.cons_append, List.cons_append, skipBlock, if_neg hclosed]
    exact ih h.2 fun hc hslash => h.1 ⟨of_decide_eq_true hc, hslash⟩

theorem skip_comment {text : List Char} (h : IsSkippedComment text) (cs : List Char) :
    skip (text ++ cs) = skip cs := by
  obtain ⟨body, hbody, hhead, rfl⟩ := h
  cases body with
  | nil => rfl
  | cons c body =>
    obtain rfl : c = '*' := by simpa using hhead
    rw [closer_infix_cons, not_or] at hbody
    exact skipBlock_append hbody.2 (fun _ hslash => hbody.1 ⟨rfl, hslash⟩) cs

/-- A space or an opening parenthesis. -/
theorem skip_blank {c : Char} (h : (Text.isSpace c || c = '(') = true) (cs : List Char) :
    skip (c :: cs) = skip cs := by
  rw [skip, if_pos h]
  all_goals
    intros
    subst c
    revert h
    decide

theorem skip_append {p : List Char} (h : Skippable IsSkippedComment p) (cs : List Char) :
    skip (p ++ cs) = skip cs := by
  induction h with
  | nil => rfl
  | space h _ ih => exact (skip_blank (by rw [h, Bool.true_or]) _).trans ih
  | parenthesis _ ih => exact (skip_blank rfl _).trans ih
  | dashes h _ ih =>
    rw [List.cons_append, List.cons_append, List.append_assoc, skip]
    exact (skipLine_append h _).trans ih
  | hash h _ ih =>
    rw [List.cons_append, List.append_assoc, skip]
    exact (skipLine_append h _).trans ih
  | block h _ ih => rw [List.append_assoc, skip_comment h, ih]

/-! ## Texts that are not -/

/-- A text of word characters, of which nothing is skipped together with what stands before it. -/
def IsWord (w : List Char) : Prop :=
  ∀ c ∈ w, isWordChar c = true

theorem IsWord.not_mem {w : List Char} (hw : IsWord w) {c : Char} (hc : isWordChar c = false) : c ∉ w := by
  intro h
  rw [hw c h] at hc
  cases hc

/-- How `f` reads what stands before a word: it is skipped, or it hides the word, or something of it is left in
front of the word. -/
def Fate (skipped : Prop) (f : List Char → List Char) : Prop :=
  skipped ∨ (∀ w, IsWord w → f w = []) ∨ ∃ kept, kept ≠ [] ∧ ∀ w, IsWord w → f w = kept ++ w

theorem Fate.imp {skipped skipped' : Prop} {f f' : List Char → List Char} (h : Fate skipped f)
    (hskipped : skipped → skipped') (hf : ∀ w, f' w = f w) : Fate skipped' f' := by
  obtain rfl : f' = f := funext hf
  exact h.imp_left hskipped

/-- The fate of a text. -/
abbrev TextFate (cs : List Char) : Prop :=
  Fate (Skippable IsSkippedComment cs) fun w => skip (cs ++ w)

/-- The fate of the rest of a line comment. -/
abbrev LineFate (cs : List Char) : Prop :=
  Fate (∃ body rest, '\n' ∉ body ∧ cs = body ++ '\n' :: rest ∧ Skippable IsSkippedComment rest)
    fun w => skipLine (cs ++ w)

/-- The fate of the rest of a block comment, which may be closed by a slash if `star`. -/
abbrev BlockFate (star : Bool) (cs : List Char) : Prop :=
  Fate (∃ body rest, ¬ closer <:+: body ∧ (if star then '*' :: cs else cs) = body ++ closer ++ rest ∧
      Skippable IsSkippedComment rest)
    fun w => skipBlock star (cs ++ w)

section

variable {c : Char} {cs : List Char} {star : Bool}

theorem lineFate_nil : LineFate [] := by
  refine .inr (.inl fun w hw => ?_)
  induction w with
  | nil => rfl
  | cons c w ih =>
    rw [IsWord, List.forall_mem_cons] at hw
    have hc : c ≠ '\n' := by
      rintro rfl
      exact absurd hw.1 (by decide)
    exact (if_neg hc).trans (ih hw.2)

theorem lineFate_newline (h : TextFate cs) : LineFate ('\n' :: cs) :=
  h.imp (fun hcs => ⟨[], cs, List.not_mem_nil, rfl, hcs⟩) fun _ => rfl

theorem lineFate_cons (hc : c ≠ '\n') (h : LineFate cs) : LineFate (c :: cs) := by
  refine h.imp ?_ fun w => if_neg hc
  rintro ⟨body, rest, hbody, rfl, hrest⟩
  exact ⟨c :: body, rest, by simp [hbody, Ne.symm hc], rfl, hrest⟩

theorem skipBlock_word {w : List Char} (hw : '/' ∉ w) : skipBlock star w = [] := by
  induction w generalizing star with
  | nil => cases star <;> rfl
  | cons c w ih =>
    rw [List.mem_cons, not_or] at hw
    rw [skipBlock, if_neg (by simp [Ne.symm hw.1]), ih hw.2]

theorem blockFate_nil : BlockFate star [] :=
  .inr (.inl fun _ hw => skipBlock_word (hw.not_mem (by decide)))

theorem blockFate_closed (hc : (star && c = '/') = true) (h : TextFate cs) : BlockFate star (c :: cs) := by
  obtain ⟨rfl, rfl⟩ : star = true ∧ c = '/' := by simpa using hc
  exact h.imp (fun hcs => ⟨[], cs, by decide, rfl, hcs⟩) fun _ => rfl

theorem blockFate_cons (hc : ¬ (star && c = '/') = true) (h : BlockFate (c = '*') cs) :
    BlockFate star (c :: cs) := by
  refine h.imp ?_ fun w => if_neg hc
  rintro ⟨body, rest, hbody, hcs, hrest⟩
  obtain ⟨first, hfirst, hcs⟩ : ∃ first, ¬ closer <:+: first ∧ c :: cs = first ++ closer ++ rest := by
    by_cases hstar : c = '*'
    · subst hstar
      exact ⟨body, hbody, by simpa using hcs⟩
    · refine ⟨c :: body, fun hinfix => ?_, by simpa [hstar] using hcs⟩
      exact (closer_infix_cons.1 hinfix).elim (fun h => hstar h.1) hbody
  cases star with
  | false => exact ⟨first, rest, hfirst, hcs, hrest⟩
  | true =>
    have hhead : first.head? ≠ some '/' := by
      cases first <;> simp_all
    refine ⟨'*' :: first, rest, fun hinfix => ?_, congrArg ('*' :: ·) hcs, hrest⟩
    exact (closer_infix_cons.1 hinfix).elim (fun h => hhead h.2) hfirst

theorem textFate_block (h : BlockFate true cs) : TextFate ('/' :: '*' :: cs) := by
  refine h.imp ?_ fun _ => rfl
  rintro ⟨body, rest, hbody, hcs, hrest⟩
  have htext : '/' :: '*' :: cs = '/' :: (body ++ closer) ++ rest := congrArg ('/' :: ·) hcs
  have hhead : (body ++ closer).head? = some '*' := by
    cases body with
    | nil => rfl
    | cons d body => exact congrArg some (List.cons.inj hcs).1.symm
  rw [htext]
  exact .block ⟨body, hbody, hhead, rfl⟩ hrest

theorem textFate_blank (hc : (Text.isSpace c || c = '(') = true) (h : TextFate cs) : TextFate (c :: cs) := by
  refine h.imp (fun hcs => ?_) fun w => skip_blank hc _
  rw [Bool.or_eq_true, decide_eq_true_eq] at hc
  obtain hspace | rfl := hc
  · exact .space hspace hcs
  · exact .parenthesis hcs

/-- A character with which nothing begins that is skipped, also if a word follows it. -/
theorem textFate_other (hdash : ∀ cs', c = '-' → cs = '-' :: cs' → False) (hhash : c = '#' → False)
    (hslash : ∀ cs', c = '/' → cs = '*' :: cs' → False) (hc : ¬ (Text.isSpace c || c = '(') = true) :
    TextFate (c :: cs) := by
  refine .inr (.inr ⟨c :: cs, List.cons_ne_nil c cs, fun w hw => ?_⟩)
  have hnext : ∀ {d : Char} {cs' : List Char}, isWordChar d = false → cs ++ w = d :: cs' →
      ∃ cs'', cs = d :: cs'' := by
    intro d cs' hd heq
    obtain ⟨rfl, rfl⟩ | ⟨cs'', rfl, -⟩ := List.append_eq_cons_iff.1 heq
    · exact absurd List.mem_cons_self (hw.not_mem hd)
    · exact ⟨cs'', rfl⟩
  change skip (c :: (cs ++ w)) = _
  rw [skip, if_neg hc]
  · rfl
  · intro cs' hd heq
    obtain ⟨cs'', hcs⟩ := hnext (by decide) heq
    exact hdash cs'' hd hcs
  · exact hhash
  · intro cs' hd heq
    obtain ⟨cs'', hcs⟩ := hnext (by decide) heq
    exact hslash cs'' hd hcs

end

/-- What stands before a word is skipped, or hides it, or is left in front of it. -/
theorem fate_skip (p : List Char) : TextFate p := by
  refine skip.induct TextFate BlockFate LineFate ?dashes ?hash ?slash ?blank ?other ?nil ?closed ?inBlock ?unclosed
    ?newline ?inLine ?endless p
  case dashes =>
    refine fun cs ih => ih.imp ?_ fun _ => rfl
    rintro ⟨body, rest, hbody, rfl, hrest⟩
    exact .dashes hbody hrest
  case hash =>
    refine fun cs ih => ih.imp ?_ fun _ => rfl
    rintro ⟨body, rest, hbody, rfl, hrest⟩
    exact .hash hbody hrest
  case slash => exact fun _ => textFate_block
  case blank => exact fun _ _ _ _ _ => textFate_blank
  case other => exact fun _ _ => textFate_other
  case nil => exact .inl .nil
  case closed => exact fun _ _ _ => blockFate_closed
  case inBlock => exact fun _ _ _ => blockFate_cons
  case unclosed => exact fun _ => blockFate_nil
  case newline => exact fun _ => lineFate_newline
  case inLine => exact fun _ _ => lineFate_cons
  case endless => exact lineFate_nil

/-! ## Kinds -/

theorem ofWord_eq_select {word : List Char} (h : ofWord word = .select) : word = "SELECT".toList := by
  unfold ofWord at h
  split_ifs at h with hword
  exact hword

theorem isWord_select : IsWord "SELECT".toList :=
  List.all_eq_true.1 (by decide)

theorem isWord_delete : IsWord "DELETE".toList :=
  List.all_eq_true.1 (by decide)

/-- What is left in front of a word changes the kind of one word or another. -/
theorem eq_nil_of_kept {kept : List Char} (hselect : ofWord (firstWord (kept ++ "SELECT".toList)) = .select)
    (hdelete : ofWord (firstWord (kept ++ "DELETE".toList)) = .delete) : kept = [] := by
  by_cases hkept : (kept.takeWhile isWordChar).length = kept.length
  · have hword := congrArg List.length (ofWord_eq_select hselect)
    rw [firstWord, List.takeWhile_append, if_pos hkept, List.length_map, List.length_append] at hword
    exact List.eq_nil_of_length_eq_zero (Nat.add_right_cancel (hword.trans (Nat.zero_add 6).symm))
  · rw [firstWord, List.takeWhile_append, if_neg hkept] at hselect hdelete
    rw [hselect] at hdelete
    cases hdelete

/-- A text never changes the kind of what follows it exactly if it is made of what is skipped, of comments of those
that have no slash right after the `/*`. -/
theorem ofSql_append_iff (p : String) :
    ((∀ s, ofSql (p ++ s) = ofSql s) ↔ Skippable IsSkippedComment p.toList) ∧
      ∀ comment, IsComment comment → (IsSkippedComment comment ↔ comment[2]? ≠ some '/') := by
  refine ⟨⟨fun h => ?_, fun h s => ?_⟩, fun comment => isSkippedComment_iff⟩
  · have hselect : ofWord (firstWord (skip (p.toList ++ "SELECT".toList))) = .select := by
      rw [← String.toList_append]
      exact h "SELECT"
    have hdelete : ofWord (firstWord (skip (p.toList ++ "DELETE".toList))) = .delete := by
      rw [← String.toList_append]
      exact h "DELETE"
    rcases fate_skip p.toList with hskipped | hhidden | ⟨kept, hne, hkept⟩
    · exact hskipped
    · rw [show skip (p.toList ++ "SELECT".toList) = [] from hhidden _ isWord_select] at hselect
      cases hselect
    · rw [show skip (p.toList ++ "SELECT".toList) = _ from hkept _ isWord_select] at hselect
      rw [show skip (p.toList ++ "DELETE".toList) = _ from hkept _ isWord_delete] at hdelete
      exact absurd (eq_nil_of_kept hselect hdelete) hne
  · rw [ofSql, String.toList_append, skip_append h, ofSql]

/-- A comment in which a slash follows the `/*` changes the kind. -/
theorem comment_changes_kind :
    ¬ ∀ p s : String, Skippable IsComment p.toList → ofSql (p ++ s) = ofSql s := by
  intro h
  have hcomment : IsComment "/*/ hint */".toList := ⟨"/ hint ".toList, by decide, rfl⟩
  have hkind := h "/*/ hint */" "SELECT 1" (by simpa using Skippable.block hcomment .nil)
  rw [ofSql, String.toList_append] at hkind
  cases hkind

end GuardedSql.Kind
