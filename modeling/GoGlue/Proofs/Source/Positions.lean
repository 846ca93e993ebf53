import GoGlue.Proofs.Related
import GoGlue.Proofs.Source.Leads

/-!
# Where tokens stand

A lexeme is given the position that the text in front of it leads to. That is the place where it stands in the
lines of its source, unless a CRLF is cut in two in front of it, and no lexeme cuts one.

* `lexemesFrom_placed`: each lexeme stands where its position says, and the source ends where it should.
* `positions_exact`: the positions of the tokens and comments of a source.
-/
namespace GoGlue

open Position

namespace Lexeme

/-! ## Where lexemes stand -/

/-- A lexeme stands where its position says, and its token is spelled as it is. -/
structure Placed (source : List Char) (l : Lexeme) : Prop where
  stands : StandsAt source l.text l.pos
  spelled : ∀ t, l.token? = some t → t.text = String.ofList l.text

/-- **Each lexeme stands where its position says,** and the source ends where it should. -/
theorem lexemesFrom_placed {front s : List Char} (uncut : Uncut front s) {pos stop : Position}
    (hpos : pos = start.after front) {ls : List Lexeme} (h : lexemesFrom pos s = .ok (ls, stop)) :
    (∀ l ∈ ls, Placed (front ++ s) l) ∧ stop = start.after (front ++ s) := by
  fun_induction lexemesFrom pos s generalizing front ls stop with
  | case1 =>
    cases h
    exact ⟨by simp, by rw [List.append_nil, hpos]⟩
  | case2 pos c r skipped ih =>
    rw [List.append_cons]
    exact ih (uncut_blank skipped) (by rw [after_blank skipped, hpos]) h
  | case3 => cases h
  | case4 => cases h
  | case5 pos c r hs cls n first found stop rest ih =>
    cases h
    have cut := scan_wellCut first
    have whole : front ++ c :: r = front ++ (c :: r.take n ++ r.drop n) := by rw [take_drop]
    obtain ⟨later, ends⟩ := ih (uncut_scan first) (by rw [after_scan uncut, hpos]) rest
    rw [List.append_assoc, ← whole] at later ends
    refine ⟨List.forall_mem_cons.2 ⟨⟨?_, cut.spelled pos⟩, later⟩, ends⟩
    rw [whole, hpos]
    exact standsAt_after (by rw [take_drop]; exact uncut) (List.cons_ne_nil _ _)

/-- What stands in a text begins in front of its end. -/
theorem Tiles.upto {pos stop : Position} {s : List Char} {ls : List Lexeme} (h : Tiles pos s ls stop) :
    (pos = stop ∨ pos.Before stop) ∧ ∀ l ∈ ls, l.pos.Before stop := by
  induction h with
  | done => exact ⟨.inl rfl, by simp⟩
  | @blank pos stop c s ls hc rest ih =>
    have moved : pos.Before ⟨pos.line, pos.column + 1⟩ := .inr ⟨rfl, Nat.lt_succ_self _⟩
    exact ⟨.inr (ih.1.elim (fun h => h ▸ moved) moved.trans), ih.2⟩
  | @lexeme stop l s ls hne hl rest ih =>
    have moved := before_after hne l.pos
    have before : l.pos.Before stop := ih.1.elim (fun h => h ▸ moved) moved.trans
    exact ⟨.inr before, List.forall_mem_cons.2 ⟨before, ih.2⟩⟩

end Lexeme

namespace Source

open Lexeme

/-- No token stands behind the end of its source. -/
theorem tokensFrom_upto {stop : Position} {ls : List Lexeme} (h : ∀ l ∈ ls, l.pos.Before stop) {due : Bool}
    {σ : Located} (hσ : σ ∈ tokensFrom stop due ls) : σ.pos = stop ∨ σ.pos.Before stop := by
  induction ls generalizing due with
  | nil => exact .inl (mem_dueSemi hσ).2
  | cons l ls ih =>
    obtain ⟨first, later⟩ := List.forall_mem_cons.1 h
    rcases mem_tokensFrom_cons hσ with at_ | ⟨due', hσ⟩
    · exact .inr (at_ ▸ first)
    · exact ih later hσ

/-- The number of line breaks in a text: each of its lines has one, but for the last. -/
def lineBreaks (s : List Char) : Nat := (Text.sourceLines s).dropLast.length

/-- A comment stands on its first line, and its line breaks lead to its last one. -/
structure CommentPlaced (source : List Char) (c : Comment) : Prop where
  stands : ∃ column, StandsAt source c.text.toList ⟨c.line, column⟩
  le : c.line ≤ c.endLine
  breaks : c.endLine - c.line = lineBreaks c.text.toList

theorem SetAside.commentPlaced {source : List Char} {ls : List Lexeme} {l : Lexeme} {c : Comment}
    (h : SetAside ls l c) (placed : Placed source l) : CommentPlaced source c := by
  have text : c.text.toList = l.text := by rw [h.text, String.toList_ofList]
  have lines := after_line l.pos l.text
  refine ⟨⟨l.pos.column, ?_⟩, ?_, ?_⟩
  · rw [text, h.line]
    exact placed.stands
  · rw [h.line, h.endLine]
    exact line_le_endLine l
  · rw [text, h.line, h.endLine, lineBreaks, List.length_dropLast]
    unfold Lexeme.endLine
    omega

/-- **Positions are exact.** The tokens of a source are the written ones and the semicolons inserted behind them.
A written one stands where its position says: on that line, split at LF, CRLF and lone CR, at that character. The
positions of all tokens increase, so an inserted semicolon is between its neighbours; the last one may be where the
source ends. A comment begins on its first line, and has as many line breaks as lines behind it. -/
theorem positions_exact {text : String} {s : Source} (h : read text = .ok s) :
    ∃ ls lead stretches, lexemesFrom .start text.toList = .ok (ls, s.stop) ∧ Stretches ls lead stretches ∧
      s.tokens = stretches.flatMap Stretch.tokens ∧ s.stop = Position.start.after text.toList ∧
      (∀ r ∈ stretches, StandsAt text.toList r.token.text.toList r.lexeme.pos ∧ r.lexeme.pos.Before s.stop) ∧
      s.tokens.Pairwise (fun a b => a.pos.Before b.pos) ∧
      (∀ σ ∈ s.tokens, σ.pos = s.stop ∨ σ.pos.Before s.stop) ∧
      ∀ c ∈ s.comments, CommentPlaced text.toList c := by
  obtain ⟨ls, cut, tokens, comments⟩ := read_eq h
  have tiles := lexemesFrom_tiles cut
  have start : Uncut [] text.toList := nofun
  obtain ⟨placed, ends⟩ := lexemesFrom_placed start rfl cut
  obtain ⟨lead, semi, stretches, hs, spread, semiless⟩ := tokensFrom_stretches tiles false
  obtain rfl : semi = none := by simpa using semiless
  refine ⟨ls, lead, stretches, cut, hs, tokens.trans spread, ends, fun r hr => ?_, ?_, fun σ hσ => ?_,
    fun c hc => ?_⟩
  · have hl : r.lexeme ∈ ls := by
      rw [hs.whole]
      exact List.mem_append_right _ (List.mem_flatMap.2 ⟨r, hr, List.mem_cons_self⟩)
    refine ⟨?_, tiles.upto.2 _ hl⟩
    rw [(placed _ hl).spelled _ (hs.token r hr), String.toList_ofList]
    exact (placed _ hl).stands
  · rw [tokens]
    exact tokensFrom_ordered tiles false
  · exact tokensFrom_upto tiles.upto.2 (tokens ▸ hσ)
  · rw [comments] at hc
    obtain ⟨l, hl, aside⟩ := exists_related (commentsFrom_setAside tiles) hc
    exact aside.commentPlaced (placed l (List.mem_filter.1 hl).1)

/-- Lines ended in each of the three ways, one of them inside of a raw string, wide characters, and comments within a
line and over several. -/
def mixedLines : String := "é\r\n\tß /* α\rβ\r\nγ\n*/ \x60\r\n\x60 x // δ\r\x7d y"

theorem positions_exact_mixedLines :
    ∃ s, read mixedLines = .ok s ∧
      s.tokens = [⟨.ident "é", ⟨1, 1⟩⟩, ⟨.symbol .semi, ⟨1, 2⟩⟩, ⟨.ident "ß", ⟨2, 2⟩⟩, ⟨.symbol .semi, ⟨2, 4⟩⟩,
        ⟨.string "\x60\r\n\x60", ⟨5, 4⟩⟩, ⟨.ident "x", ⟨6, 3⟩⟩, ⟨.symbol .semi, ⟨6, 9⟩⟩,
        ⟨.symbol .rbrace, ⟨7, 1⟩⟩, ⟨.ident "y", ⟨7, 3⟩⟩, ⟨.symbol .semi, ⟨7, 4⟩⟩] ∧
      ∃ ls lead stretches, lexemesFrom .start mixedLines.toList = .ok (ls, s.stop) ∧ Stretches ls lead stretches ∧
        s.tokens = stretches.flatMap Stretch.tokens ∧ s.stop = Position.start.after mixedLines.toList ∧
        (∀ r ∈ stretches, StandsAt mixedLines.toList r.token.text.toList r.lexeme.pos ∧
          r.lexeme.pos.Before s.stop) ∧
        s.tokens.Pairwise (fun a b => a.pos.Before b.pos) ∧
        (∀ σ ∈ s.tokens, σ.pos = s.stop ∨ σ.pos.Before s.stop) ∧
        ∀ c ∈ s.comments, CommentPlaced mixedLines.toList c := by
  have tokens : (read mixedLines).toOption.map (·.tokens) = some [⟨.ident "é", ⟨1, 1⟩⟩, ⟨.symbol .semi, ⟨1, 2⟩⟩,
      ⟨.ident "ß", ⟨2, 2⟩⟩, ⟨.symbol .semi, ⟨2, 4⟩⟩, ⟨.string "\x60\r\n\x60", ⟨5, 4⟩⟩, ⟨.ident "x", ⟨6, 3⟩⟩,
      ⟨.symbol .semi, ⟨6, 9⟩⟩, ⟨.symbol .rbrace, ⟨7, 1⟩⟩, ⟨.ident "y", ⟨7, 3⟩⟩, ⟨.symbol .semi, ⟨7, 4⟩⟩] := by
    decide +kernel
  match h : read mixedLines with
  | .error e =>
    rw [h] at tokens
    cases tokens
  | .ok s =>
    rw [h] at tokens
    exact ⟨s, rfl, Option.some.inj tokens, positions_exact h⟩

end Source

end GoGlue
