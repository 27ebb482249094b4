import GuardedSql.Filter.Compile
import GuardedSql.Proofs.Lexer
import GuardedSql.Proofs.Outcome
import Mathlib.Data.List.Forall2

/-!
# The places of a template

A template is written with its arguments as literals, each in a place `?`. If every place stands clear,
outside of the template's own literals and next to no quote or other place, each argument is read back as
one literal and the rest is read as it is without arguments. If a place does not stand clear, there are
arguments that are read as something else: in `'?'` an argument is read outside of literals.

- `read_splice`: what a clear template is read as is a frame filled with the arguments.
- `exists_leak`: an argument in a place that does not stand clear is not read as a literal of its own.
- `exists_frame_iff`: so a template has a frame exactly if its places stand clear.
- `argument_outside_literals`: two arguments in a place between quotes, each read outside of literals.
-/

namespace GuardedSql.Template

open Lexer

/-! ## Templates with arguments in their places -/

/-- The text of a template with literals in its places. -/
def splice : List Char → List String → List Char
  | [], _ => []
  | c :: cs, texts =>
    if c = '?' then
      match texts with
      | [] => splice cs []
      | text :: texts => (Lexeme.quoted .literal text.toList).write ++ splice cs texts
    else c :: splice cs texts

theorem splice_place (cs : List Char) (text : String) (texts : List String) :
    splice ('?' :: cs) (text :: texts) = (Lexeme.quoted .literal text.toList).write ++ splice cs texts := by
  simp [splice]

theorem splice_of_ne {c : Char} (h : c ≠ '?') (cs : List Char) (texts : List String) :
    splice (c :: cs) texts = c :: splice cs texts := by
  simp [splice, h]

theorem emit_of_isLiteral {t : Token} (h : t.role.isLiteral = true) :
    t.emit Literal.escape = .ok (Literal.quote Literal.escape t.text) := by
  rcases t with ⟨role, text⟩ | _
  · cases role <;> first | rfl | cases h
  · cases h

theorem fill_eq_splice {args : List Token} (h : ∀ t ∈ args, t.role.isLiteral = true) (cs : List Char) :
    fill Literal.escape cs args = .ok (splice cs (args.map Token.text)) := by
  induction cs generalizing args with
  | nil => rfl
  | cons c cs ih =>
    by_cases hc : c = '?'
    · subst hc
      cases args with
      | nil => simpa [fill, splice] using ih h
      | cons t args =>
        have ih := ih fun u hu => h u (List.mem_cons_of_mem _ hu)
        rw [List.map_cons, splice_place, fill, emit_of_isLiteral (h t List.mem_cons_self), ih,
          ← Lexeme.toList_quote]
        rfl
    · simp only [splice_of_ne hc, fill, hc, ih h, false_implies, implies_true]
      rfl

/-! ## Frames -/

/-- What a template is read as, with holes for its arguments. -/
abbrev Frame := List (Option Lexeme)

namespace Frame

/-- The number of holes. -/
def places (f : Frame) : Nat :=
  f.count none

/-- The frame with texts in its holes, as literals. -/
def fill : Frame → List String → List Lexeme
  | [], _ => []
  | some l :: f, texts => l :: fill f texts
  | none :: f, text :: texts => .quoted .literal text.toList :: fill f texts
  | none :: f, [] => fill f []

theorem fill_map_some (ls : List Lexeme) (f : Frame) (texts : List String) :
    fill (ls.map some ++ f) texts = ls ++ fill f texts := by
  induction ls with
  | nil => rfl
  | cons l ls ih => rw [List.map_cons, List.cons_append, fill, ih, List.cons_append]

/-- Of two fillings that differ in one text, the lexemes are the same or the literals of these texts. -/
theorem fill_pair (f : Frame) (texts rest : List String) (x y : String) :
    List.Forall₂ (fun l k => l = k ∨ l = .quoted .literal x.toList ∧ k = .quoted .literal y.toList)
      (f.fill (texts ++ x :: rest)) (f.fill (texts ++ y :: rest)) := by
  induction f generalizing texts with
  | nil => exact .nil
  | cons hole f ih =>
    cases hole with
    | some l => exact .cons (.inl rfl) (ih texts)
    | none =>
      cases texts with
      | nil => exact .cons (.inr ⟨rfl, rfl⟩) (List.forall₂_same.2 fun _ _ => .inl rfl)
      | cons text texts => exact .cons (.inl rfl) (ih texts)

end Frame

/-! ## Clear places -/

/-- Whether every place is outside of the template's literals, and next to no quote or other place. -/
def isClear : Mode → List Char → Bool
  | _, [] => true
  | m, c :: cs =>
    (c ≠ '?' || (m = .outside && cs.head? ≠ some '\'' && cs.head? ≠ some '?')) &&
      isClear (step strings m c).2 cs

theorem isClear_place_iff {m : Mode} {cs : List Char} :
    isClear m ('?' :: cs) = true ↔
      (m = .outside ∧ cs.head? ≠ some '\'' ∧ cs.head? ≠ some '?') ∧ isClear .outside cs = true := by
  simp only [isClear, ne_eq, not_true_eq_false, decide_false, Bool.false_or, Bool.and_eq_true,
    decide_eq_true_eq, and_assoc]
  refine and_congr_right fun hm => ?_
  subst hm
  rfl

theorem isClear_of_ne {c : Char} (h : c ≠ '?') (m : Mode) (cs : List Char) :
    isClear m (c :: cs) = isClear (step strings m c).2 cs := by
  simp [isClear, h]

/-- A character of a template, as a hole if it is a place. -/
def hole (l : Lexeme) : Option Lexeme :=
  if l = .char '?' then none else some l

/-- What a template is read as, a hole in each place. -/
def frame (m : Mode) (cs : List Char) : Frame :=
  (read strings m cs).map hole

theorem frame_place (cs : List Char) : frame .outside ('?' :: cs) = none :: frame .outside cs := rfl

theorem frame_of_ne {c : Char} (h : c ≠ '?') (m : Mode) (cs : List Char) :
    frame m (c :: cs) = (step strings m c).1.map some ++ frame (step strings m c).2 cs := by
  have hs : Lexeme.char '?' ∉ (step strings m c).1 := fun hm => h (char_mem_step hm).symm
  rw [frame, read_cons, List.map_append, frame]
  congr 1
  refine List.map_congr_left fun l hl => ?_
  exact if_neg (ne_of_mem_of_not_mem hl hs)

theorem frame_nil (m : Mode) : frame m [] = m.rest.map some ++ [] := by
  rw [frame, read_nil, List.append_nil]
  refine List.map_congr_left fun l hl => ?_
  exact if_neg (ne_of_mem_of_not_mem hl (char_not_mem_rest m _))

theorem places_map_some (ls : List Lexeme) (f : Frame) :
    Frame.places (ls.map some ++ f) = f.places := by
  rw [Frame.places, List.count_append, List.count_eq_zero.2 (by simp), Nat.zero_add, Frame.places]

/-- The frame of a clear template has a hole for each place. -/
theorem places_frame {m : Mode} {cs : List Char} (h : isClear m cs = true) :
    (frame m cs).places = cs.count '?' := by
  induction cs generalizing m with
  | nil => rw [frame_nil, places_map_some]; rfl
  | cons c cs ih =>
    by_cases hc : c = '?'
    · subst hc
      obtain ⟨⟨rfl, -, -⟩, hcs⟩ := isClear_place_iff.1 h
      rw [frame_place, List.count_cons_self, ← ih hcs, Frame.places, List.count_cons_self, Frame.places]
    · rw [frame_of_ne hc, places_map_some, ih (isClear_of_ne hc m cs ▸ h), List.count_cons_of_ne hc]

/-- After a literal in a clear place reading goes on outside. -/
theorem read_literal_splice {cs : List Char} (text : String) (texts : List String)
    (hq : cs.head? ≠ some '\'') (hp : cs.head? ≠ some '?') :
    read strings .outside ((Lexeme.quoted .literal text.toList).write ++ splice cs texts) =
      .quoted .literal text.toList :: read strings .outside (splice cs texts) := by
  rw [(read_quoted (by decide) _ _).1, read_closing]
  cases cs with
  | nil => simp [splice]
  | cons c cs =>
    have hc : c ≠ '?' := by simpa using hp
    rw [splice_of_ne hc]
    simpa [Quote.mark] using hq

/-- What a clear template is read as is its frame, filled with the arguments. -/
theorem read_splice {m : Mode} {cs : List Char} {texts : List String} (h : isClear m cs = true)
    (hl : texts.length = cs.count '?') :
    read strings m (splice cs texts) = (frame m cs).fill texts := by
  induction cs generalizing m texts with
  | nil => rw [frame_nil, Frame.fill_map_some, Frame.fill, List.append_nil, splice, read_nil]
  | cons c cs ih =>
    by_cases hc : c = '?'
    · subst hc
      obtain ⟨⟨rfl, hq, hp⟩, hcs⟩ := isClear_place_iff.1 h
      cases texts with
      | nil => simp at hl
      | cons text texts =>
        rw [splice_place, read_literal_splice text texts hq hp, ih hcs (by simpa using hl), frame_place,
          Frame.fill]
    · rw [splice_of_ne hc, read_cons, frame_of_ne hc, Frame.fill_map_some,
        ih (isClear_of_ne hc m cs ▸ h) (by rwa [List.count_cons_of_ne hc] at hl)]

/-! ## Places that do not stand clear -/

/-- Two lexemes that tell arguments `x` and `y` apart, and not as literals of their own. -/
def Leaks (l k : Lexeme) : Prop :=
  l ≠ k ∧ l ≠ .quoted .literal ['x']

/-- Texts between quotes that go on from different characters differ. -/
theorem leaks_of_body {l k : Lexeme} {text u v : List Char} (ht : text ≠ [] ∨ u ≠ [])
    (hl : l.body = text ++ 'x' :: u) (hk : k.body = text ++ 'y' :: v) : Leaks l k := by
  constructor
  · rintro rfl
    have := List.append_cancel_left (hl.symm.trans hk)
    simp at this
  · rintro rfl
    have := congrArg List.length hl
    have hn : 0 < text.length + u.length := by
      rcases ht with h | h <;> have := List.length_pos_iff.2 h <;> omega
    simp [Lexeme.body] at this
    omega

/-- Of two texts that are read on from between quotes, the first lexemes tell `x` and `y` apart. -/
theorem exists_leak_of_text {m : Mode} {s : List Char} (text more s' : List Char) (f : List Char → Mode)
    (hf : ∀ t, (f t).text? = some t) (ht : text ≠ [] ∨ more ≠ [])
    (h : ∀ c, c = 'x' ∨ c = 'y' → read strings m (c :: s) = read strings (f (text ++ c :: more)) s') :
    ∃ E l k R R', read strings m ('x' :: s) = E ++ l :: R ∧ read strings m ('y' :: s) = E ++ k :: R' ∧
      Leaks l k := by
  obtain ⟨l, R, u, hr, hl⟩ := @read_between strings _ _ (hf (text ++ 'x' :: more)) s'
  obtain ⟨k, R', v, hr', hk⟩ := @read_between strings _ _ (hf (text ++ 'y' :: more)) s'
  refine ⟨[], l, k, R, R', by rw [h _ (.inl rfl), hr]; rfl, by rw [h _ (.inr rfl), hr']; rfl, ?_⟩
  rw [List.append_assoc, List.cons_append] at hl hk
  refine leaks_of_body (ht.imp_right fun hm => ?_) hl hk
  simp [hm]

/-- The literals `x` and `y` in a place that does not stand clear. -/
theorem exists_leak_of_place {m : Mode} (hm : ∀ q ∈ m.quote?, q ∈ strings) {s : List Char}
    (h : m ≠ .outside ∨ s.head? = some '\'') :
    ∃ E l k R R', read strings m ('\'' :: 'x' :: '\'' :: s) = E ++ l :: R ∧
      read strings m ('\'' :: 'y' :: '\'' :: s) = E ++ k :: R' ∧ Leaks l k := by
  have char : ∀ {c : Char}, c = 'x' ∨ c = 'y' → c ≠ '\'' ∧ c ≠ '\\' := by
    rintro c (rfl | rfl) <;> decide
  rcases m with _ | ⟨q, t⟩ | t | ⟨q, t⟩
  · -- the quote after the literal is the second of a doubled one
    obtain ⟨s', rfl⟩ : ∃ s', s = '\'' :: s' := by
      cases s with
      | nil => simp at h
      | cons c s' => exact ⟨s', by simpa using h⟩
    refine exists_leak_of_text (m := .inside .literal []) [] ['\''] s' (.inside .literal) (fun _ => rfl)
      (.inr (by simp)) fun c hc => ?_
    simp [step, Quote.mark, char hc]
  · -- the literal is closed, and the argument is read outside
    obtain rfl : q = .literal := by simpa using hm q rfl
    refine ⟨[.quoted .literal t], .char 'x', .char 'y', _, _, rfl, rfl, by decide, by decide⟩
  · refine exists_leak_of_text (m := .inside .literal (t ++ ['\''])) (t ++ ['\'']) [] s (.closing .literal)
      (fun _ => rfl) (.inl (by simp)) fun c hc => ?_
    simp [step, Quote.mark, char hc]
  · obtain rfl : q = .literal := by simpa using hm q rfl
    refine exists_leak_of_text (m := .inside .literal (t ++ ['\''])) (t ++ ['\'']) [] s (.closing .literal)
      (fun _ => rfl) (.inl (by simp)) fun c hc => ?_
    simp [step, Quote.mark, char hc]

/-- In a template that is not clear, two arguments of one place are not read as literals of their own. -/
theorem exists_leak {m : Mode} (hm : ∀ q ∈ m.quote?, q ∈ strings) {cs : List Char} (h : isClear m cs = false) :
    ∃ before rest : List String, (before ++ "x" :: rest).length = cs.count '?' ∧
      ∃ E l k R R', read strings m (splice cs (before ++ "x" :: rest)) = E ++ l :: R ∧
        read strings m (splice cs (before ++ "y" :: rest)) = E ++ k :: R' ∧ Leaks l k := by
  induction cs generalizing m with
  | nil => cases h
  | cons c cs ih =>
    by_cases hc : c = '?'
    · subst hc
      by_cases hp : m = .outside ∧ cs.head? ≠ some '\'' ∧ cs.head? ≠ some '?'
      · -- this place is clear, so a later one is not
        obtain ⟨rfl, hq, hn⟩ := hp
        have hcs : isClear .outside cs = false := by
          rw [← Bool.not_eq_true] at h ⊢
          exact fun hcs => h (isClear_place_iff.2 ⟨⟨rfl, hq, hn⟩, hcs⟩)
        obtain ⟨before, rest, hl, E, l, k, R, R', hx, hy, hlk⟩ := ih (by simp [Mode.quote?]) hcs
        refine ⟨"" :: before, rest, by simpa using hl, .quoted .literal [] :: E, l, k, R, R', ?_, ?_, hlk⟩
        · rw [List.cons_append, splice_place, read_literal_splice _ _ hq hn, hx]
          rfl
        · rw [List.cons_append, splice_place, read_literal_splice _ _ hq hn, hy]
          rfl
      · -- this place is not
        have hs : m ≠ .outside ∨ (splice cs (List.replicate (cs.count '?') "")).head? = some '\'' := by
          by_cases ho : m = .outside
          · rcases cs with _ | ⟨d, cs⟩
            · simp [ho] at hp
            · by_cases hd : d = '?'
              · subst hd
                rw [List.count_cons_self, List.replicate_succ, splice_place]
                exact .inr rfl
              · have hd' : d = '\'' := by simpa [ho, hd] using hp
                rw [splice_of_ne hd, hd']
                exact .inr rfl
          · exact .inl ho
        exact ⟨[], List.replicate (cs.count '?') "", by simp, exists_leak_of_place hm hs⟩
    · obtain ⟨before, rest, hl, E, l, k, R, R', hx, hy, hlk⟩ :=
        ih (quote?_step hm c) (isClear_of_ne hc m cs ▸ h)
      refine ⟨before, rest, by rwa [List.count_cons_of_ne hc], (step strings m c).1 ++ E, l, k, R, R', ?_, ?_,
        hlk⟩
      · rw [splice_of_ne hc, read_cons, hx, List.append_assoc]
      · rw [splice_of_ne hc, read_cons, hy, List.append_assoc]

/-! ## Templates that have a frame -/

/-- A template with as many arguments as places is refused by the guard alone. -/
theorem compile_eq {sql : String} (hg : Guard.checkRaw sql = .ok ()) {args : List Token}
    (h : ∀ t ∈ args, t.role.isLiteral = true) (hl : args.length = sql.toList.count '?') :
    Template.compile Literal.escape sql args =
      .ok (String.ofList (splice sql.toList (args.map Token.text))) := by
  rw [Template.compile]
  simp only [ne_eq, hl, not_true_eq_false, if_false, hg, fill_eq_splice h]
  rfl

theorem compile_ok {sql s : String} {args : List Token}
    (hs : Template.compile Literal.escape sql args = .ok s) :
    Guard.checkRaw sql = .ok () ∧ args.length = sql.toList.count '?' := by
  unfold Template.compile at hs
  dsimp only at hs
  split at hs
  · cases hs
  · rename_i hcount
    obtain ⟨_, hguard, -⟩ := bind_eq_ok_iff.1 hs
    exact ⟨hguard, (not_not.1 hcount).symm⟩

/-- Lists that start alike and are related are related where they differ first. -/
theorem forall₂_append_cons {α : Type} {r : α → α → Prop} {E R R' : List α} {l k : α}
    (h : List.Forall₂ r (E ++ l :: R) (E ++ k :: R')) : r l k := by
  induction E with
  | nil => exact (List.forall₂_cons.1 h).1
  | cons _ E ih => exact ih (List.forall₂_cons.1 h).2

/-- If every place stands clear, a template is read as one frame, whatever its arguments. -/
theorem lexemes_compile {sql s : String} {args : List Token} (hc : isClear .outside sql.toList = true)
    (h : ∀ t ∈ args, t.role.isLiteral = true) (hs : Template.compile Literal.escape sql args = .ok s) :
    lexemes strings s = (frame .outside sql.toList).fill (args.map Token.text) := by
  obtain ⟨hg, hl⟩ := compile_ok hs
  obtain rfl := Except.ok.inj ((compile_eq hg h hl).symm.trans hs)
  rw [lexemes, String.toList_ofList, read_splice hc (by simpa using hl)]

/-- A template that is read as one frame, whatever its arguments, has every place clear. -/
theorem isClear_of_frame {sql : String} (hg : Guard.checkRaw sql = .ok ()) {f : Frame}
    (hf : ∀ args : List Token, (∀ t ∈ args, t.role.isLiteral = true) →
      ∀ s, Template.compile Literal.escape sql args = .ok s →
        lexemes strings s = f.fill (args.map Token.text)) :
    isClear .outside sql.toList = true := by
  rw [← Bool.not_eq_false]
  intro h
  obtain ⟨before, rest, hl, E, l, k, R, R', hx, hy, hne, hlit⟩ := exists_leak (by simp [Mode.quote?]) h
  have fill : ∀ texts : List String, texts.length = sql.toList.count '?' →
      read strings .outside (splice sql.toList texts) = f.fill texts := by
    intro texts ht
    have hd : ∀ t ∈ texts.map Token.data, t.role.isLiteral = true := by
      intro t ht
      obtain ⟨text, -, rfl⟩ := List.mem_map.1 ht
      rfl
    have := hf _ hd _ (compile_eq hg hd (by simpa using ht))
    rwa [List.map_map, show Token.text ∘ Token.data = id from rfl, List.map_id, lexemes,
      String.toList_ofList] at this
  have pair := Frame.fill_pair f before rest "x" "y"
  rw [← fill _ hl, hx, ← fill _ (by simpa using hl), hy] at pair
  rcases forall₂_append_cons pair with e | ⟨e, -⟩
  · exact hne e
  · exact hlit e

/-- The arguments of a template are read as literals in the holes of one frame, whatever they are, exactly if
the guard refuses it or every place stands clear. -/
theorem exists_frame_iff (sql : String) :
    (∃ f : Frame, f.places = sql.toList.count '?' ∧
      ∀ args : List Token, (∀ t ∈ args, t.role.isLiteral = true) →
        ∀ s, Template.compile Literal.escape sql args = .ok s →
          lexemes strings s = f.fill (args.map Token.text)) ↔
      (Guard.checkRaw sql = .ok () → isClear .outside sql.toList = true) := by
  constructor
  · rintro ⟨f, -, hf⟩ hg
    exact isClear_of_frame hg hf
  · intro h
    by_cases hc : isClear .outside sql.toList = true
    · exact ⟨_, places_frame hc, fun args ha s hs => lexemes_compile hc ha hs⟩
    · -- nothing is ever written, so any frame does
      refine ⟨List.replicate (sql.toList.count '?') none, by simp [Frame.places], fun args _ s hs => ?_⟩
      exact absurd (h (compile_ok hs).1) hc

/-- The place of this template stands between quotes. The guard accepts it, and two arguments are each read
outside of literals. -/
theorem argument_outside_literals :
    ∃ s t, Template.compile Literal.escape "name = '?'" [.data "1"] = .ok s ∧
      Template.compile Literal.escape "name = '?'" [.data "2"] = .ok t ∧
      "1" ∉ literals (lexemes strings s) ∧ "2" ∉ literals (lexemes strings t) ∧
      around (lexemes strings s) ≠ around (lexemes strings t) :=
  ⟨"name = ''1''", "name = ''2''", by decide⟩

end GuardedSql.Template
