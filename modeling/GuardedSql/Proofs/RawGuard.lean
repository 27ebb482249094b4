import GuardedSql.Proofs.Lexer

/-!
# What the guard lets through

The guard counts the quotes that do not come right after a backslash. A backslash makes a quote ordinary
only inside a literal, and only if it is not made ordinary itself: outside, in `\'`, and after two of them
in a literal, in `'\\'`, the quote opens or closes a literal all the same. The guard passes over those.

- `even_quotes_iff`: the quotes counted and those passed over are even in number exactly if a fragment
  leaves no literal open.
- `checkRaw_ok_iff`: so the guard tells whether a literal is left open exactly if it has passed over an
  even number of them.
- `checkRaw_ok_of_open`: it accepts a fragment that leaves one open.
-/

namespace GuardedSql

namespace Lexer

/-- Of the characters of strings, the single quotes that are not made ordinary open and close literals, and
no others. -/
theorem isOutside_step {m : Mode} (hm : ∀ q ∈ m.quote?, q ∈ strings) (c : Char) :
    (step strings m c).2.isOutside =
      if c = '\'' ∧ m.isEscaped = false then !m.isOutside else m.isOutside := by
  have hs : (start strings c).2.isOutside = !decide (c = '\'') := by
    by_cases hc : c = '\''
    · subst hc
      rfl
    · rw [start_of_ne (by simpa [Quote.mark] using Ne.symm hc)]
      simp [hc]
  rcases m with _ | ⟨q, text⟩ | text | ⟨q, text⟩
  · rw [step, hs]
    by_cases hc : c = '\'' <;> simp [hc, Mode.isEscaped]
  · obtain rfl : q = .literal := by simpa using hm q rfl
    by_cases hc : c = '\''
    · simp [step, hc, Quote.mark, Mode.isEscaped]
    · by_cases hb : c = '\\' <;> simp [step, hc, hb, Quote.mark]
  · simp [step, Mode.isEscaped]
  · obtain rfl : q = .literal := by simpa using hm q rfl
    by_cases hc : c = '\''
    · simp [step, hc, Quote.mark, Mode.isEscaped]
    · simp [step, hs, hc, Quote.mark]

end Lexer

namespace Guard

open Lexer

/-- The quotes that open or close a literal although they come right after a backslash, in a text before
which a backslash stands if `escaped`. -/
def passedOver (escaped : Bool) (m : Mode) : List Char → Nat
  | [] => 0
  | c :: cs =>
    (if c = '\'' ∧ escaped = true ∧ m.isEscaped = false then 1 else 0) +
      passedOver (c = '\\') (step strings m c).2 cs

/-- The quotes of a fragment that the guard does not count, though they open or close a literal. -/
def uncounted (fragment : String) : Nat :=
  passedOver false .outside fragment.toList

/-- Each quote that opens or closes a literal is counted or passed over. -/
theorem countQuotes_add_passedOver_cons {escaped : Bool} {m : Mode} (h : m.isEscaped = true → escaped = true)
    (c : Char) (cs : List Char) :
    countQuotes escaped (c :: cs) + passedOver escaped m (c :: cs) =
      (if c = '\'' ∧ m.isEscaped = false then 1 else 0) +
        (countQuotes (c = '\\') cs + passedOver (c = '\\') (step strings m c).2 cs) := by
  have hq : (if c = '\'' ∧ escaped = false then 1 else 0) +
      (if c = '\'' ∧ escaped = true ∧ m.isEscaped = false then 1 else 0) =
        if c = '\'' ∧ m.isEscaped = false then 1 else 0 := by
    by_cases hc : c = '\'' <;> cases escaped <;> cases hm : m.isEscaped <;> simp_all
  rw [countQuotes, passedOver, ← hq]
  omega

/-- Reading goes from outside to outside, or from inside to inside, exactly over an even number of quotes
that open or close a literal. -/
theorem even_quotes_iff_isOutside {b : Bool} {m : Mode} (hm : ∀ q ∈ m.quote?, q ∈ strings)
    (h : m.isEscaped = true → b = true) (s : List Char) :
    (countQuotes b s + passedOver b m s) % 2 = 0 ↔
      (after strings m s).isOutside = m.isOutside := by
  induction s generalizing b m with
  | nil => simp [countQuotes, passedOver]
  | cons c cs ih =>
    have ih := ih (quote?_step hm c) (b := c = '\\') fun h => decide_eq_true (isEscaped_step h)
    have hs := isOutside_step hm c
    rw [countQuotes_add_passedOver_cons h, after_cons]
    by_cases hc : c = '\'' ∧ m.isEscaped = false
    · rw [if_pos hc] at hs ⊢
      rw [hs] at ih
      have hb : (after strings (step strings m c).2 cs).isOutside = m.isOutside ↔
          ¬ (after strings (step strings m c).2 cs).isOutside = !m.isOutside := by
        cases m.isOutside <;> simp
      rw [hb, ← ih]
      omega
    · rw [if_neg hc] at hs ⊢
      rw [← hs, ← ih, Nat.zero_add]

theorem even_quotes_iff (fragment : String) :
    (quotes fragment + uncounted fragment) % 2 = 0 ↔ endsOutside strings fragment = true :=
  even_quotes_iff_isOutside (by simp [Mode.quote?]) (by simp [Mode.isEscaped]) _

theorem checkRaw_eq_ok_iff {fragment : String} : checkRaw fragment = .ok () ↔ quotes fragment % 2 = 0 := by
  simp only [checkRaw, isUnbalanced, decide_eq_true_eq]
  split
  · simp
    omega
  · simp
    omega

/-- The guard accepts a fragment exactly if what it has passed over says whether a literal is left open: none
is if it has passed over an even number of quotes, one is if it has passed over an odd number. -/
theorem checkRaw_ok_iff (fragment : String) :
    checkRaw fragment = .ok () ↔
      (endsOutside strings fragment = true ↔ uncounted fragment % 2 = 0) := by
  rw [checkRaw_eq_ok_iff, ← even_quotes_iff]
  omega

/-- In this fragment the second quote closes the literal, and the third opens another one. The guard counts
the first and the third. -/
theorem checkRaw_ok_of_open :
    checkRaw "'\\\\' OR '" = .ok () ∧ endsOutside strings "'\\\\' OR '" = false := by
  decide

end Guard

end GuardedSql
