import GuardedSql.Proofs.Spelling

/-!
# Names as they are read

A quoted name is to be read as one part for each dotted segment of the name: a star, or an identifier in
backticks that unquotes to the segment, or to the identifier that the segment quotes already. A segment that
only begins and ends with a backtick, and is not a quoted identifier, is kept all the same. The name is then
read as something else; every other name is read as its segments.

- `StandsFor`, `Faithful`: the part that is meant by a segment, and a name that is read as these parts.
- `StandsFor.quoteSegment_eq_iff`: when a segment is written as its part.
- `intercalate_dot_inj`: texts without dots are told apart by the dots between them.
- `faithful_iff`: a name is read as its segments if and only if none is in backticks without being quoted.
-/

namespace GuardedSql

open Lexer

namespace Text

theorem split_eq_splitOnP (p : Char → Bool) (s : List Char) : split p s = s.splitOnP p := by
  induction s with
  | nil => rw [List.splitOnP_nil, split]
  | cons c s ih => rw [List.splitOnP_cons_eq_if_modifyHead, split, ih]

/-- What stands at the divisions of a text is in none of its parts. -/
theorem eq_false_of_mem_split {p : Char → Bool} {s : List Char} :
    ∀ part ∈ split p s, ∀ c ∈ part, p c = false := by
  induction s with
  | nil => simp [split]
  | cons d s ih =>
    obtain ⟨first, parts, hs⟩ := List.exists_cons_of_ne_nil
      (show split p s ≠ [] by rw [split_eq_splitOnP]; exact List.splitOnP_ne_nil p s)
    rw [hs, List.forall_mem_cons] at ih
    rw [split, hs]
    split
    · rw [List.forall_mem_cons, List.forall_mem_cons]
      exact ⟨fun c hc => absurd hc List.not_mem_nil, ih⟩
    · rename_i hd
      rw [List.modifyHead_cons, List.forall_mem_cons, List.forall_mem_cons]
      exact ⟨⟨Bool.eq_false_iff.2 hd, ih.1⟩, ih.2⟩

end Text

namespace Identifier

/-- A segment that is an identifier in backticks: it is not empty, and the backticks inside are doubled. -/
def IsName (segment : List Char) : Prop :=
  ∃ text, text ≠ [] ∧ segment = (Lexeme.quoted .name text).write

/-- The part that a segment of a name stands for. -/
inductive StandsFor : List Char → Lexeme → Prop
  | star : StandsFor ['*'] (.char '*')
  /-- a segment in backticks stands for the identifier that it quotes -/
  | given {text : List Char} (h : text ≠ []) : StandsFor (Lexeme.quoted .name text).write (.quoted .name text)
  /-- any other segment is an identifier itself -/
  | bare {segment : List Char} (hne : segment ≠ []) (hs : segment ≠ ['*']) (hn : ¬ IsName segment) :
    StandsFor segment (.quoted .name segment)

/-- A quoted name with the parts that the segments of the name stand for: it is written, and read, as these
parts with dots between them, and all its backticks are closed. -/
structure Faithful (name quoted : String) (parts : List Lexeme) : Prop where
  standsFor : List.Forall₂ StandsFor (segments name) parts
  written : quoted.toList = (parts.intersperse (.char '.')).flatMap Lexeme.write
  read : lexemes allQuotes quoted = parts.intersperse (.char '.')
  closed : endsOutside allQuotes quoted = true

/-! ## Segments -/

theorem segments_ne_nil (name : String) : segments name ≠ [] := by
  rw [segments, Text.split_eq_splitOnP, ne_eq, List.map_eq_nil_iff]
  exact List.splitOnP_ne_nil _ _

theorem dot_not_mem_segment {name : String} {segment : List Char} (h : segment ∈ segments name) :
    '.' ∉ segment := by
  obtain ⟨part, hp, rfl⟩ := List.mem_map.1 h
  intro hc
  have hdot := Text.eq_false_of_mem_split part hp '.' (mem_of_mem_trim hc)
  exact absurd rfl (of_decide_eq_false hdot)

/-- A segment is kept, or it is written as the identifier that it is. -/
theorem quoteSegment_eq (segment : List Char) :
    quoteSegment segment =
      if segment = ['*'] ∨ isQuoted segment then segment else (Lexeme.quoted .name segment).write :=
  rfl

/-- An identifier in backticks begins and ends with one. -/
theorem IsName.isQuoted {segment : List Char} (h : IsName segment) : isQuoted segment = true := by
  obtain ⟨text, -, rfl⟩ := h
  have hlast : (Lexeme.quoted .name text).write.getLast? = some '`' := by
    rw [Lexeme.write, ← List.cons_append, List.getLast?_concat]
    rfl
  rw [Identifier.isQuoted, hlast]
  simp [Lexeme.write, Quote.mark]

theorem exists_standsFor {segment : List Char} (hne : segment ≠ []) : ∃ part, StandsFor segment part := by
  by_cases hs : segment = ['*']
  · subst hs
    exact ⟨_, .star⟩
  · by_cases hn : IsName segment
    · obtain ⟨text, ht, rfl⟩ := hn
      exact ⟨_, .given ht⟩
    · exact ⟨_, .bare hne hs hn⟩

/-- The identifier is two characters longer than its text, and more if there are backticks in it. -/
theorem length_write_name (text : List Char) :
    text.length + 2 ≤ (Lexeme.quoted .name text).write.length := by
  have h : text.length ≤ (text.flatMap escapeChar).length := by
    induction text with
    | nil => simp
    | cons c text ih =>
      have hc : 1 ≤ (escapeChar c).length := by unfold escapeChar; split <;> simp
      rw [List.flatMap_cons, List.length_append, List.length_cons]
      omega
  simpa [Lexeme.write, Lexeme.writeChar] using h

theorem dot_not_mem_write_name {text : List Char} (h : '.' ∉ text) :
    '.' ∉ (Lexeme.quoted .name text).write := by
  intro hm
  have hm : ∃ c ∈ text, '.' ∈ escapeChar c := by
    simpa [Lexeme.write, Quote.mark, Lexeme.writeChar] using hm
  obtain ⟨c, hc, hm⟩ := hm
  unfold escapeChar at hm
  split at hm
  · simp at hm
  · obtain rfl : '.' = c := by simpa using hm
    exact h hc

theorem dot_not_mem_quoteSegment {segment : List Char} (h : '.' ∉ segment) :
    '.' ∉ quoteSegment segment := by
  rw [quoteSegment_eq]
  split
  · exact h
  · exact dot_not_mem_write_name h

namespace StandsFor

variable {segment : List Char} {part : Lexeme}

/-- A segment is written as the part that it stands for, unless it only looks quoted. -/
theorem quoteSegment_eq_iff (h : StandsFor segment part) :
    quoteSegment segment = part.write ↔ (isQuoted segment = true → IsName segment) := by
  rw [quoteSegment_eq]
  cases h with
  | star => simp [isQuoted, Lexeme.write]
  | @given text ht =>
    have hn : IsName (Lexeme.quoted .name text).write := ⟨text, ht, rfl⟩
    simp [hn.isQuoted, hn]
  | bare _ hs hn =>
    by_cases hq : isQuoted segment = true
    · -- the segment is kept, and it is too short to be what should be written
      have hlt := length_write_name segment
      have hne : segment ≠ (Lexeme.quoted .name segment).write := fun e => by
        have he := congrArg List.length e
        omega
      simp [hq, hne, hn]
    · simp [hq, hs]

theorem dot_not_mem_write (h : StandsFor segment part) (hd : '.' ∉ segment) : '.' ∉ part.write := by
  cases h with
  | star => decide
  | given => exact hd
  | bare => exact dot_not_mem_write_name hd

theorem wellSpaced (h : StandsFor segment part) : WellSpaced [part] := by
  refine ⟨?_, .singleton _⟩
  cases h <;> simp [Lexeme.isWhole]

end StandsFor

/-! ## Segments with dots between them -/

section

variable {segments : List (List Char)} {parts : List Lexeme}

theorem exists_parts (h : [] ∉ segments) : ∃ parts, List.Forall₂ StandsFor segments parts := by
  induction segments with
  | nil => exact ⟨[], .nil⟩
  | cons segment segments ih =>
    rw [List.mem_cons, not_or] at h
    obtain ⟨part, hp⟩ := exists_standsFor (Ne.symm h.1)
    obtain ⟨parts, hps⟩ := ih h.2
    exact ⟨part :: parts, .cons hp hps⟩

/-- Parts with dots between them never touch. -/
theorem wellSpaced_parts (h : List.Forall₂ StandsFor segments parts) :
    WellSpaced (parts.intersperse (.char '.')) := by
  induction h with
  | nil => exact ⟨by simp, by simp⟩
  | @cons segment part segments parts hp hps ih =>
    cases hps with
    | nil => exact hp.wellSpaced
    | cons =>
      have hdot : isBare "." = true := by decide
      exact hp.wellSpaced.join hdot (by decide) ih

theorem flatMap_write_parts (parts : List Lexeme) :
    (parts.intersperse (.char '.')).flatMap Lexeme.write = ['.'].intercalate (parts.map Lexeme.write) := by
  induction parts with
  | nil => rfl
  | cons part parts ih =>
    cases parts with
    | nil => simp
    | cons next parts =>
      rw [List.intersperse_cons_cons, List.flatMap_cons, List.flatMap_cons, ih]
      simp [Lexeme.write]

/-- Texts without dots are told apart by the dots between them. -/
theorem intercalate_dot_inj {ss ts : List (List Char)} (hs : ss ≠ []) (ht : ts ≠ [])
    (hsd : ∀ s ∈ ss, '.' ∉ s) (htd : ∀ t ∈ ts, '.' ∉ t) :
    ['.'].intercalate ss = ['.'].intercalate ts ↔ ss = ts := by
  constructor
  · intro h
    rw [← List.splitOn_intercalate '.' hsd hs, h, List.splitOn_intercalate '.' htd ht]
  · rintro rfl
    rfl

theorem dot_not_mem_parts (h : List.Forall₂ StandsFor segments parts) (hd : ∀ s ∈ segments, '.' ∉ s) :
    ∀ t ∈ parts.map Lexeme.write, '.' ∉ t := by
  induction h with
  | nil => simp
  | cons hp _ ih =>
    rw [List.forall_mem_cons] at hd
    rw [List.map_cons, List.forall_mem_cons]
    exact ⟨hp.dot_not_mem_write hd.1, ih hd.2⟩

/-- The segments are written as their parts just if each of them is. -/
theorem map_quoteSegment_eq_iff (h : List.Forall₂ StandsFor segments parts) :
    segments.map quoteSegment = parts.map Lexeme.write ↔
      ∀ segment ∈ segments, isQuoted segment = true → IsName segment := by
  induction h with
  | nil => simp
  | cons hp _ ih =>
    rw [List.map_cons, List.map_cons, List.cons.injEq, hp.quoteSegment_eq_iff, ih, List.forall_mem_cons]

end

/-! ## Names -/

theorem toList_quoted {name quoted : String} (h : quote name = .ok quoted) :
    quoted.toList = ['.'].intercalate ((segments name).map quoteSegment) := by
  obtain ⟨-, -, -, rfl⟩ := quote_eq_ok_iff.1 h
  rw [String.toList_intercalate, List.map_map]
  simp [Function.comp_def]

/-- A name that is quoted has a text. -/
theorem quote_ne_empty {name quoted : String} (h : quote name = .ok quoted) : quoted ≠ "" := by
  obtain ⟨segment, rest, hs⟩ := List.exists_cons_of_ne_nil (segments_ne_nil name)
  have hsegment : quoteSegment segment ≠ [] := by
    have hne : segment ≠ [] := fun e => (quote_eq_ok_iff.1 h).2.2.1 (by simp [hs, e])
    rw [quoteSegment_eq]
    split
    · exact hne
    · exact Lexeme.write_ne_nil _
  intro he
  have htext := toList_quoted h
  rw [he, hs, List.map_cons] at htext
  cases rest with
  | nil => exact hsegment (by simpa using htext.symm)
  | cons next rest =>
    rw [List.map_cons, List.intercalate_cons_cons] at htext
    simp at htext

/-- The parts that the segments of a name stand for are written just if no segment only looks quoted. -/
theorem written_iff {name quoted : String} (h : quote name = .ok quoted) {parts : List Lexeme}
    (hp : List.Forall₂ StandsFor (segments name) parts) :
    quoted.toList = (parts.intersperse (.char '.')).flatMap Lexeme.write ↔
      ∀ segment ∈ segments name, isQuoted segment = true → IsName segment := by
  have hparts : parts ≠ [] := fun e => by
    have hlen := hp.length_eq
    simp [e, segments_ne_nil] at hlen
  have hsd : ∀ s ∈ (segments name).map quoteSegment, '.' ∉ s := by
    intro s hs
    obtain ⟨segment, hm, rfl⟩ := List.mem_map.1 hs
    exact dot_not_mem_quoteSegment (dot_not_mem_segment hm)
  have hpd := dot_not_mem_parts hp fun _ hs => dot_not_mem_segment hs
  rw [toList_quoted h, flatMap_write_parts, ← map_quoteSegment_eq_iff hp]
  exact intercalate_dot_inj (by simp [segments_ne_nil]) (by simpa using hparts) hsd hpd

/-- A name is read as its segments if and only if none of them begins and ends with a backtick without being
an identifier in backticks. -/
theorem faithful_iff {name quoted : String} (h : quote name = .ok quoted) :
    (∃ parts, Faithful name quoted parts) ↔
      ∀ segment ∈ segments name, isQuoted segment = true → IsName segment := by
  constructor
  · rintro ⟨parts, hf⟩
    exact (written_iff h hf.standsFor).1 hf.written
  · intro hn
    obtain ⟨parts, hp⟩ := exists_parts (quote_eq_ok_iff.1 h).2.2.1
    have hw := (written_iff h hp).2 hn
    have hs := wellSpaced_parts hp
    exact ⟨parts, hp, hw, lexemes_write hs hw, endsOutside_write hs hw⟩

theorem faithful_users_id :
    quote "users. `id`" = .ok "`users`.`id`" ∧
      (∀ segment ∈ segments "users. `id`", isQuoted segment = true → IsName segment) ∧
      ∃ parts, Faithful "users. `id`" "`users`.`id`" parts := by
  have hq : quote "users. `id`" = .ok "`users`.`id`" := by decide +kernel
  have hn : ∀ segment ∈ segments "users. `id`", isQuoted segment = true → IsName segment := by
    have hs : segments "users. `id`" = ["users".toList, "`id`".toList] := by decide +kernel
    rw [hs, List.forall_mem_cons, List.forall_mem_singleton]
    exact ⟨fun h => absurd h (by decide), fun _ => ⟨['i', 'd'], by decide, by decide⟩⟩
  exact ⟨hq, hn, (faithful_iff hq).2 hn⟩

/-- Two identifiers with a word between them count as one that is quoted already: the name is kept as it is,
and the word is read outside of the backticks. -/
theorem exists_not_faithful :
    quote "`id` OR `id`" = .ok "`id` OR `id`" ∧
      lexemes allQuotes "`id` OR `id`" =
        .quoted .name ['i', 'd'] :: [' ', 'O', 'R', ' '].map .char ++ [.quoted .name ['i', 'd']] ∧
      ¬ ∃ parts, Faithful "`id` OR `id`" "`id` OR `id`" parts := by
  have hr : lexemes allQuotes "`id` OR `id`" =
      .quoted .name ['i', 'd'] :: [' ', 'O', 'R', ' '].map .char ++ [.quoted .name ['i', 'd']] := by
    decide +kernel
  refine ⟨by decide +kernel, hr, ?_⟩
  rintro ⟨parts, hf⟩
  have hone : (segments "`id` OR `id`").length = 1 := by decide +kernel
  have hlen := congrArg List.length (hr.symm.trans hf.read)
  rw [List.length_intersperse, ← hf.standsFor.length_eq, hone] at hlen
  simp at hlen

end Identifier

end GuardedSql
