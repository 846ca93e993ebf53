import GoGlue.Proofs.Lexeme.LineBreaks
import Mathlib.Data.List.Infix
import Mathlib.Data.List.TakeWhile

/-!
# Lexemes tile a source

The lexemes of a source stand in it one behind the other, with nothing but blanks between them, each where its
position says. `Tiles` says so without the scanner. Line breaks and comments are what they look like: a line
comment ends with its line, and a block comment with its first closing mark.

* `Position.line_after`: a text moves to a later line exactly if it holds a line break.
* `scan_spelled`: line breaks and comments are spelled as Go has them.
* `lexemesFrom_tiles`: what is cut from a source tiles it.
* `Tiles.ordered`: no lexeme begins before the one in front of it ends.
-/
namespace GoGlue

/-! ## Positions -/

namespace Position

/-- The first position stands before the second. -/
def Before (p q : Position) : Prop := p.line < q.line ∨ p.line = q.line ∧ p.column < q.column

instance (p q : Position) : Decidable (p.Before q) := inferInstanceAs (Decidable (_ ∨ _))

theorem Before.trans {p q r : Position} (h : p.Before q) (h' : q.Before r) : p.Before r := by
  unfold Before at *
  omega

theorem Before.irrefl (p : Position) : ¬ p.Before p := by
  unfold Before
  omega

theorem Before.line_le {p q : Position} (h : p.Before q) : p.line ≤ q.line := by
  unfold Before at h
  omega

/-- A text moves to a later line exactly if it holds a line break; else it moves along the line. -/
theorem line_after (p : Position) (s : List Char) :
    p.line ≤ (p.after s).line ∧ (p.line < (p.after s).line ↔ ∃ c ∈ s, Lexeme.endsLine c = true) ∧
      (p.line = (p.after s).line → p.column + s.length = (p.after s).column) := by
  fun_induction after p s with
  | case1 => simp
  | case2 p rest ih =>
    obtain ⟨le, -, -⟩ := ih
    refine ⟨by simp at le; omega, iff_of_true (by simp at le; omega) ⟨'\r', by simp, by decide⟩, ?_⟩
    simp at le
    omega
  | case3 p c rest _ hc ih =>
    obtain ⟨le, -, -⟩ := ih
    refine ⟨by simp at le; omega, iff_of_true (by simp at le; omega) ⟨c, by simp, ?_⟩, ?_⟩
    · simpa [Lexeme.endsLine] using hc
    · simp at le
      omega
  | case4 p c rest _ hc ih =>
    obtain ⟨le, lt, eq⟩ := ih
    have plain : Lexeme.endsLine c = false := by simpa [Lexeme.endsLine] using hc
    refine ⟨le, by simpa [plain] using lt, fun h => ?_⟩
    have := eq h
    simp at this ⊢
    omega

/-- What holds a character moves on. -/
theorem before_after {s : List Char} (h : s ≠ []) (p : Position) : p.Before (p.after s) := by
  obtain ⟨le, -, eq⟩ := line_after p s
  have := List.length_pos_iff.2 h
  unfold Before
  omega

end Position

namespace Lexeme

/-! ## Line breaks and comments -/

/-- A line break or comment is spelled as Go has it; nothing is said of tokens. -/
def Spelled (l : Lexeme) : Prop :=
  match l.cls with
  | .newline => l.text = ['\n'] ∨ l.text = ['\r'] ∨ l.text = ['\r', '\n']
  | .lineComment => ['/', '/'] <+: l.text ∧ ∀ c ∈ l.text, endsLine c = false
  | .blockComment => ∃ body, l.text = '/' :: '*' :: body ++ ['*', '/'] ∧ ¬ ['*', '/'] <:+: body
  | _ => True

/-- A block comment ends with its first closing mark. -/
theorem take_commentLength {r : List Char} {n : Nat} (h : commentLength r = some n) :
    ∃ body, r.take n = body ++ ['*', '/'] ∧ ¬ ['*', '/'] <:+: body := by
  fun_induction commentLength r generalizing n with
  | case1 rest =>
    cases h
    exact ⟨[], rfl, by simp⟩
  | case2 c r hc ih =>
    obtain ⟨m, hm, rfl⟩ := Option.map_eq_some_iff.1 h
    obtain ⟨body, taken, first⟩ := ih hm
    refine ⟨c :: body, by rw [List.take_succ_cons, taken, List.cons_append], fun inside => ?_⟩
    rcases List.infix_cons_iff.1 inside with ⟨t, ht⟩ | inside
    · obtain ⟨rfl, rfl⟩ := List.cons.inj ht
      have next : r = '/' :: (t ++ ['*', '/'] ++ r.drop m) := by
        conv_lhs => rw [← List.take_append_drop m r, taken]
        simp
      exact hc _ rfl next
    · exact first inside
  | case3 => cases h

theorem scanSymbol_spelled (c : Char) (r : List Char) (pos : Position) :
    Spelled ⟨(scanSymbol c r).1, c :: r.take (scanSymbol c r).2, pos⟩ := by
  fun_cases scanSymbol c r <;> trivial

/-- The classes of literals, and of a quote alone. -/
def IsLiteral (cls : LexemeClass) : Prop := cls = .string ∨ cls = .rune ∨ cls = .other

theorem unclosedLiteral_literal {quote : Char} {body : List Char} {cls : LexemeClass} {n : Nat}
    (h : unclosedLiteral quote body = .ok (cls, n)) : IsLiteral cls := by
  unfold unclosedLiteral at h
  split at h <;> cases h
  exact .inr (.inr rfl)

theorem scanString_literal {r : List Char} {cls : LexemeClass} {n : Nat}
    (h : scanString r = .ok (cls, n)) : IsLiteral cls := by
  unfold scanString at h
  split at h
  · cases h
    exact .inl rfl
  · exact unclosedLiteral_literal h

theorem scanRawString_literal {r : List Char} {cls : LexemeClass} {n : Nat}
    (h : scanRawString r = .ok (cls, n)) : IsLiteral cls := by
  unfold scanRawString at h
  dsimp only at h
  split at h
  · exact unclosedLiteral_literal h
  · cases h
    exact .inl rfl

theorem scanRune_literal {r : List Char} {cls : LexemeClass} {n : Nat}
    (h : scanRune r = .ok (cls, n)) : IsLiteral cls := by
  unfold scanRune at h
  split at h
  · cases h
    exact .inr (.inr rfl)
  · cases h
    exact .inr (.inl rfl)
  · exact unclosedLiteral_literal h

theorem IsLiteral.spelled {cls : LexemeClass} (h : IsLiteral cls) (text : List Char) (pos : Position) :
    Spelled ⟨cls, text, pos⟩ := by
  rcases h with rfl | rfl | rfl <;> trivial

/-- **Line breaks and comments are spelled as Go has them.** -/
theorem scan_spelled {c : Char} {r : List Char} {cls : LexemeClass} {n : Nat}
    (h : scan c r = .ok (cls, n)) (pos : Position) : Spelled ⟨cls, c :: r.take n, pos⟩ := by
  unfold scan at h
  split at h
  · next hc =>
    cases h
    exact .inl (by rw [hc]; rfl)
  split at h
  · next hc =>
    cases h
    split
    · next lf =>
      obtain ⟨r, rfl⟩ := List.head?_eq_some_iff.1 lf
      exact .inr (.inr (by rw [hc]; rfl))
    · exact .inr (.inl (by rw [hc]; rfl))
  split at h
  · cases h
    trivial
  split at h
  · cases h
    trivial
  split at h
  · cases h
  split at h
  · exact (scanString_literal h).spelled _ _
  split at h
  · exact (scanRawString_literal h).spelled _ _
  split at h
  · exact (scanRune_literal h).spelled _ _
  clear *- h
  split at h
  · next body =>
    cases h
    have taken : (body.take (body.takeWhile (!endsLine ·)).length) = body.takeWhile (!endsLine ·) :=
      (List.prefix_iff_eq_take.1 (List.takeWhile_prefix _)).symm
    rw [Nat.add_comm, List.take_succ_cons, taken]
    refine ⟨List.prefix_append ['/', '/'] _, List.forall_mem_cons.2 ⟨by decide,
      List.forall_mem_cons.2 ⟨by decide, fun c hc => ?_⟩⟩⟩
    simpa using List.mem_takeWhile_imp hc
  · split at h
    · next body n hn =>
      cases h
      obtain ⟨inner, taken, first⟩ := take_commentLength hn
      exact ⟨inner, by rw [Nat.add_comm, List.take_succ_cons, taken]; rfl, first⟩
    · cases h
  · have found : scanSymbol c r = (cls, n) := Except.ok.inj h
    have spelled := scanSymbol_spelled c r pos
    rwa [found] at spelled

/-! ## Tiling -/

/-- The lexemes stand one behind the other in a text that begins and ends at the given positions, with nothing
but blanks between them. -/
inductive Tiles : Position → List Char → List Lexeme → Position → Prop
  | done (pos : Position) : Tiles pos [] [] pos
  | blank {pos stop : Position} {c : Char} {s : List Char} {ls : List Lexeme} (hc : isSkipped c = true)
      (rest : Tiles ⟨pos.line, pos.column + 1⟩ s ls stop) : Tiles pos (c :: s) ls stop
  | lexeme {stop : Position} {l : Lexeme} {s : List Char} {ls : List Lexeme} (hne : l.text ≠ [])
      (hl : l.Spelled) (rest : Tiles (l.pos.after l.text) s ls stop) : Tiles l.pos (l.text ++ s) (l :: ls) stop

/-- **What is cut from a source tiles it.** -/
theorem lexemesFrom_tiles {pos stop : Position} {s : List Char} {ls : List Lexeme}
    (h : lexemesFrom pos s = .ok (ls, stop)) : Tiles pos s ls stop := by
  fun_induction lexemesFrom pos s generalizing ls stop with
  | case1 pos =>
    cases h
    exact .done pos
  | case2 pos c r skipped ih => exact .blank skipped (ih h)
  | case3 => cases h
  | case4 => cases h
  | case5 pos c r hs cls n first found stop rest ih =>
    cases h
    rw [← take_drop c r n]
    exact .lexeme (l := ⟨cls, c :: r.take n, pos⟩) (by simp) (scan_spelled first pos) (ih rest)

namespace Tiles

variable {pos stop : Position} {s : List Char} {ls : List Lexeme}

/-- What stands in a text begins no earlier than the text, and ends no later. -/
theorem within (h : Tiles pos s ls stop) :
    pos.line ≤ stop.line ∧ ∀ l ∈ ls, (l.pos = pos ∨ pos.Before l.pos) ∧ l.endLine ≤ stop.line := by
  induction h with
  | done => simp
  | @blank pos stop c s ls hc rest ih =>
    have moved : pos.Before ⟨pos.line, pos.column + 1⟩ := .inr ⟨rfl, Nat.lt_succ_self _⟩
    refine ⟨ih.1, fun l hl => ⟨.inr ?_, (ih.2 l hl).2⟩⟩
    rcases (ih.2 l hl).1 with h | h
    · exact h ▸ moved
    · exact moved.trans h
  | @lexeme stop l s ls hne hl rest ih =>
    have moved := Position.before_after hne l.pos
    refine ⟨Nat.le_trans moved.line_le ih.1, List.forall_mem_cons.2 ⟨⟨.inl rfl, ih.1⟩, fun m hm => ?_⟩⟩
    refine ⟨.inr ?_, (ih.2 m hm).2⟩
    rcases (ih.2 m hm).1 with h | h
    · exact h ▸ moved
    · exact moved.trans h

/-- **No lexeme begins before the one in front of it ends.** -/
theorem ordered (h : Tiles pos s ls stop) :
    ls.Pairwise fun a b => a.pos.Before b.pos ∧ a.endLine ≤ b.pos.line := by
  induction h with
  | done => exact .nil
  | blank hc rest ih => exact ih
  | @lexeme stop l s ls hne hl rest ih =>
    refine List.pairwise_cons.2 ⟨fun m hm => ?_, ih⟩
    have moved := Position.before_after hne l.pos
    rcases (rest.within.2 m hm).1 with h | h
    · exact ⟨h ▸ moved, (congrArg Position.line h).ge⟩
    · exact ⟨moved.trans h, h.line_le⟩

theorem spelled (h : Tiles pos s ls stop) : ∀ l ∈ ls, l.Spelled := by
  induction h with
  | done => simp
  | blank hc rest ih => exact ih
  | lexeme hne hl rest ih => exact List.forall_mem_cons.2 ⟨hl, ih⟩

end Tiles

end Lexeme

end GoGlue
