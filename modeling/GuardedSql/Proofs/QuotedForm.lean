import GuardedSql.Proofs.QuotedName
import GuardedSql.Proofs.Splicing
import Mathlib.Data.List.DropRight

/-!
# Names in quoted form

A name is in quoted form if each part between its dots is a star or comes in backticks, and no quote in it counts.
These are the names that quoting leaves as they are, and every name that quoting gives is one of them: the dots of a
quoted name are those between its segments, the backticks around a segment keep its spaces, and no backslash is
taken away from a quote.

- `quote_eq_self_iff`: the names that are quoted already.
- `isQuotedForm_of_quote`: what quoting gives is quoted already.
- `quote_quoted`: so quoting it again changes nothing, segment by segment.
-/

namespace GuardedSql

/-! ## Parts without spaces at their ends -/

theorem Text.trim_eq_self {s : List Char} (hfirst : ∀ c ∈ s.head?, isSpace c = false)
    (hlast : ∀ c ∈ s.getLast?, isSpace c = false) : trim s = s := by
  have hstart : trimStart s = s := by
    cases s with
    | nil => rfl
    | cons c s =>
      have hc : isSpace c = false := hfirst c rfl
      exact List.dropWhile_cons_of_neg (by simp [hc])
  have hend : trimEnd s = s := by
    change s.rdropWhile isSpace = s
    rw [List.rdropWhile_eq_self_iff]
    intro hne
    simp [hlast (s.getLast hne) (List.getLast?_eq_getLast_of_ne_nil hne)]
  rw [trim, hstart, hend]

namespace Identifier

/-- A part that is written as it is: a star, or what begins and ends with a backtick of its own. -/
def IsWritten (part : List Char) : Prop :=
  part = ['*'] ∨ isQuoted part = true

namespace IsWritten

variable {part : List Char} (h : IsWritten part)

include h

theorem quoteSegment_eq : quoteSegment part = part :=
  if_pos h

theorem ne_nil : part ≠ [] := by
  rintro rfl
  rcases h with h | h
  · cases h
  · cases h

theorem trim_eq : Text.trim part = part := by
  rcases h with rfl | h
  · decide
  · simp only [isQuoted, Bool.and_eq_true, decide_eq_true_eq] at h
    have hspace : Text.isSpace '`' = false := by decide
    exact Text.trim_eq_self (by simp [h.1.2, hspace]) (by simp [h.2, hspace])

end IsWritten

theorem isWritten_quoteSegment (segment : List Char) : IsWritten (quoteSegment segment) := by
  unfold quoteSegment
  split
  · assumption
  · refine .inr ?_
    rw [isQuoted, List.getLast?_concat]
    simp

/-- The parts of a name between its dots. -/
def parts (name : String) : List (List Char) :=
  Text.split (· = '.') name.toList

theorem parts_eq_splitOn (name : String) : parts name = name.toList.splitOn '.' :=
  Text.split_eq_splitOnP _ _

/-- A quoted name has its dots between the segments that are written. -/
theorem parts_quoted {name quoted : String} (h : quote name = .ok quoted) :
    parts quoted = (segments name).map quoteSegment := by
  rw [parts_eq_splitOn, toList_quoted h]
  refine List.splitOn_intercalate '.' (fun segment hs => ?_) (by simp [segments_ne_nil])
  obtain ⟨segment, hm, rfl⟩ := List.mem_map.1 hs
  exact dot_not_mem_quoteSegment (dot_not_mem_segment hm)

/-! ## Names that are quoted already -/

/-- A name in quoted form. -/
structure IsQuotedForm (name : String) : Prop where
  hasQuote : Guard.hasQuote name = false
  isWritten : ∀ part ∈ parts name, IsWritten part

/-- The parts of a quoted name are its segments. -/
theorem IsQuotedForm.segments_eq {name : String} (h : IsQuotedForm name) : segments name = parts name := by
  have htrim : ∀ part ∈ parts name, Text.trim part = part := fun part hp => (h.isWritten part hp).trim_eq
  exact (List.map_congr_left htrim).trans (List.map_id _)

theorem isQuotedForm_of_quote {name quoted : String} (h : quote name = .ok quoted) : IsQuotedForm quoted where
  hasQuote := by
    have hquotes := (Guard.counted_identifier h).quotes
    simpa [Guard.hasQuote] using hquotes
  isWritten := by
    rw [parts_quoted h]
    intro part hp
    obtain ⟨segment, -, rfl⟩ := List.mem_map.1 hp
    exact isWritten_quoteSegment segment

/-- Quoting leaves a name as it is exactly if the name is in quoted form. -/
theorem quote_eq_self_iff {name : String} : quote name = .ok name ↔ IsQuotedForm name := by
  refine ⟨isQuotedForm_of_quote, fun h => quote_eq_ok_iff.2 ⟨?_, h.hasQuote, ?_, ?_⟩⟩
  · rintro rfl
    exact (h.isWritten [] (by decide)).ne_nil rfl
  · rw [h.segments_eq]
    exact fun hm => (h.isWritten [] hm).ne_nil rfl
  · have hsegments : (segments name).map quoteSegment = parts name := by
      rw [h.segments_eq]
      exact (List.map_congr_left fun part hp => (h.isWritten part hp).quoteSegment_eq).trans (List.map_id _)
    have hname : name.toList = ['.'].intercalate ((segments name).map quoteSegment) := by
      rw [hsegments, parts_eq_splitOn, List.intercalate_splitOn]
    refine String.toList_injective ?_
    rw [hname, String.toList_intercalate, List.map_map]
    simp [Function.comp_def]

/-- A quoted name is quoted as itself: it is accepted, its segments are those that have been written, and each of
them is kept. -/
theorem quote_quoted {name quoted : String} (h : quote name = .ok quoted) :
    quote quoted = .ok quoted ∧ segments quoted = (segments name).map quoteSegment ∧
      ∀ segment ∈ segments quoted, quoteSegment segment = segment := by
  have hform := isQuotedForm_of_quote h
  refine ⟨quote_eq_self_iff.2 hform, ?_, ?_⟩
  · rw [hform.segments_eq, parts_quoted h]
  · rw [hform.segments_eq]
    exact fun segment hs => (hform.isWritten segment hs).quoteSegment_eq

/-- A backtick inside a segment, spaces around one that is in backticks, a quote behind a backslash, and a star. -/
theorem quote_quoted_mixed :
    quote "we`ird. `it\\'s` .*" = .ok "`we``ird`.`it\\'s`.*" ∧
      quote "`we``ird`.`it\\'s`.*" = .ok "`we``ird`.`it\\'s`.*" := by
  have hquote : quote "we`ird. `it\\'s` .*" = .ok "`we``ird`.`it\\'s`.*" := by decide +kernel
  exact ⟨hquote, (quote_quoted hquote).1⟩

end Identifier

end GuardedSql
