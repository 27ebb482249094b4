import GuardedSql.Proofs.Lexer

/-!
# Reading a literal

A literal is read from its first quote to its second one, which is none of two. What was quoted is read back, and
reading stops right after it, if no other quote follows.

- `takeQuoted`: the text between two quotes, and what follows the second one.
- `takeQuoted_escape`: what is escaped is read as itself.
- `Literal.read?_quote`: so a literal is read back, whatever follows it but a quote.
-/

namespace GuardedSql

namespace Lexer

/-- The text between the quotes where reading stands, and what follows the second one. Nothing, if the quote is left
open. -/
def takeQuoted (quotes : List Quote) : Mode → List Char → Option (List Char × List Char)
  | .closing _ text, [] => some (text, [])
  | _, [] => none
  | m, c :: cs =>
    match step quotes m c with
    | (.quoted _ text :: _, _) => some (text, c :: cs)
    | (_, m') => takeQuoted quotes m' cs

variable {quotes : List Quote}

/-- A character that completes nothing. -/
theorem takeQuoted_cons {m m' : Mode} {c : Char} (h : step quotes m c = ([], m')) (cs : List Char) :
    takeQuoted quotes m (c :: cs) = takeQuoted quotes m' cs := by
  rw [takeQuoted, h]

/-- The second quote is none of two if no other one follows. -/
theorem takeQuoted_closing {q : Quote} {text rest : List Char} (h : rest.head? ≠ some q.mark) :
    takeQuoted quotes (.closing q text) rest = some (text, rest) := by
  cases rest with
  | nil => rfl
  | cons c cs =>
    have hc : c ≠ q.mark := by simpa using h
    rw [takeQuoted, step, if_neg hc]

theorem takeQuoted_escape (text t rest : List Char) :
    takeQuoted quotes (.inside .literal t) (text.flatMap Literal.escapeChar ++ rest) =
      takeQuoted quotes (.inside .literal (t ++ text)) rest := by
  induction text generalizing t with
  | nil => rw [List.flatMap_nil, List.nil_append, List.append_nil]
  | cons c text ih =>
    have hc : takeQuoted quotes (.inside .literal t)
        (Literal.escapeChar c ++ (text.flatMap Literal.escapeChar ++ rest)) =
          takeQuoted quotes (.inside .literal (t ++ [c])) (text.flatMap Literal.escapeChar ++ rest) := by
      rcases escapeChar_cases c with h | ⟨d, h, hd⟩
      · rw [h]
        exact takeQuoted_cons (literal_step h t) _
      · rw [h, ← hd]
        exact (takeQuoted_cons rfl _).trans (takeQuoted_cons rfl _)
    rw [List.flatMap_cons, List.append_assoc, hc, ih, List.append_assoc, List.singleton_append]

/-- The text that is read goes on from the text so far. -/
theorem prefix_of_takeQuoted {m : Mode} {t text s rest : List Char} (hm : m.text? = some t)
    (h : takeQuoted quotes m s = some (text, rest)) : t <+: text := by
  induction s generalizing m t with
  | nil =>
    cases m <;> cases h
    cases hm
    exact List.prefix_rfl
  | cons c cs ih =>
    have more : ∀ {m' : Mode} (u : List Char), step quotes m c = ([], m') → m'.text? = some (t ++ u) →
        t <+: text := by
      intro m' u hstep hm'
      rw [takeQuoted_cons hstep] at h
      exact (List.prefix_append t u).trans (ih hm' h)
    rcases m with _ | ⟨q, t'⟩ | t' | ⟨q, t'⟩ <;> cases hm
    · by_cases hc : c = q.mark
      · exact more [] (if_pos hc) (by simp [Mode.text?])
      · by_cases hb : c = '\\' ∧ q = .literal
        · exact more [] ((if_neg hc).trans (if_pos hb)) (by simp [Mode.text?])
        · exact more [c] ((if_neg hc).trans (if_neg hb)) rfl
    · exact more _ rfl rfl
    · by_cases hc : c = q.mark
      · exact more [c] (if_pos hc) rfl
      · rw [takeQuoted, step, if_neg hc] at h
        cases h
        exact List.prefix_rfl

end Lexer

namespace Literal

open Lexer

/-- The text of the literal at the beginning, and what follows it. -/
def read? (s : String) : Option (String × String) :=
  match s.toList with
  | '\'' :: cs => (takeQuoted strings (.inside .literal []) cs).map fun (text, rest) =>
    (String.ofList text, String.ofList rest)
  | _ => none

/-- Reading what was quoted comes to its second quote. -/
theorem read?_quote_append (s t : String) :
    read? (quote escape s ++ t) = (takeQuoted strings (.closing .literal s.toList) t.toList).map fun (text, rest) =>
      (String.ofList text, String.ofList rest) := by
  have htext : (quote escape s ++ t).toList = '\'' :: (s.toList.flatMap escapeChar ++ '\'' :: t.toList) := by
    simp [quote]
  rw [read?, htext]
  change Option.map _ (takeQuoted strings (.inside .literal []) _) = _
  rw [takeQuoted_escape, List.nil_append, takeQuoted_cons rfl]

theorem read?_of_head?_ne {s t : String} (h : t.toList.head? ≠ some '\'') :
    read? (quote escape s ++ t) = some (s, t) := by
  rw [read?_quote_append, takeQuoted_closing h]
  simp

/-- A text that was quoted is read back, with what follows it left, exactly if that does not begin with a quote. So
different texts have different literals. -/
theorem read?_quote :
    (∀ s t : String, read? (quote escape s ++ t) = some (s, t) ↔ t.toList.head? ≠ some '\'') ∧
      Function.Injective (quote escape) := by
  refine ⟨fun s t => ⟨fun h hquote => ?_, read?_of_head?_ne⟩, fun s s' h => ?_⟩
  · obtain ⟨cs, hcs⟩ := List.head?_eq_some_iff.1 hquote
    rw [read?_quote_append, hcs, takeQuoted_cons rfl] at h
    obtain ⟨⟨text, rest⟩, hread, htext⟩ := Option.map_eq_some_iff.1 h
    -- another quote is read as part of the text
    have hprefix : s.toList ++ ['\''] <+: text := prefix_of_takeQuoted rfl hread
    obtain rfl : text = s.toList := by
      rw [← (Prod.mk.inj htext).1, String.toList_ofList]
    exact absurd hprefix.length_le (by simp)
  · have hs := @read?_of_head?_ne s "" (by simp)
    rw [h, read?_of_head?_ne (by simp)] at hs
    exact ((Prod.mk.inj (Option.some.inj hs)).1).symm

end Literal

end GuardedSql
