import GoGlue.Proofs.Lexeme.Ends
import GoGlue.Source

/-!
# Where semicolons are inserted

The tokens of a source are its lexemes without line breaks and comments, and semicolons that are inserted by Go's
rule: after a token that can end a statement, if its line ends behind it or the source does. The lexemes between
two tokens are of any number and kind, but at most one semicolon comes of them: `tokensFrom` passes on whether one
is due, and the first line break uses it up.

* `Token.endsStatement_iff`: the tokens that can end a statement.
* `breaks_iff`: a lexeme ends the line if it is a line break, or a block comment that holds one.
* `tokensFrom_stretches`: the tokens of a stream, with a semicolon that is still due in front.
* `semicolons_inserted`: the tokens of a source.
-/
namespace GoGlue

/-- The tokens that can end a statement: names, literals, four keywords, the increments and the closing
brackets. -/
inductive Token.Final : Token → Prop
  | ident (name : String) : Final (.ident name)
  | number (text : String) : Final (.number text)
  | string (text : String) : Final (.string text)
  | rune (text : String) : Final (.rune text)
  | breakStmt : Final (.keyword .breakStmt)
  | continueStmt : Final (.keyword .continueStmt)
  | fallthrough : Final (.keyword .fallthrough)
  | returnStmt : Final (.keyword .returnStmt)
  | inc : Final (.symbol .inc)
  | dec : Final (.symbol .dec)
  | rparen : Final (.symbol .rparen)
  | rbrack : Final (.symbol .rbrack)
  | rbrace : Final (.symbol .rbrace)

theorem Token.endsStatement_iff (t : Token) : t.endsStatement = true ↔ t.Final := by
  constructor
  · intro h
    match t with
    | ident name => exact .ident name
    | number text => exact .number text
    | string text => exact .string text
    | rune text => exact .rune text
    | keyword k =>
      cases k with
      | breakStmt => exact .breakStmt
      | continueStmt => exact .continueStmt
      | fallthrough => exact .fallthrough
      | returnStmt => exact .returnStmt
      | _ => cases h
    | symbol s =>
      cases s with
      | inc => exact .inc
      | dec => exact .dec
      | rparen => exact .rparen
      | rbrack => exact .rbrack
      | rbrace => exact .rbrace
      | _ => cases h
    | other c => cases h
  · rintro (_ | _) <;> rfl

namespace Lexeme

/-- What stands between tokens. -/
def IsGap (l : Lexeme) : Prop := l.cls = .newline ∨ l.cls = .lineComment ∨ l.cls = .blockComment

theorem token?_eq_none {l : Lexeme} (h : l.text ≠ []) : l.token? = none ↔ l.IsGap := by
  obtain ⟨c, r, hc⟩ := List.exists_cons_of_ne_nil h
  unfold token? IsGap
  cases l.cls <;> simp [hc]
  split <;> simp

/-- The line ends here: a line break, or a block comment over several lines. -/
def BreaksLine (l : Lexeme) : Prop :=
  l.cls = .newline ∨ l.cls = .blockComment ∧ ∃ c ∈ l.text, endsLine c = true

/-- A block comment holds a line break exactly if it ends on a later line. -/
theorem breaks_iff (l : Lexeme) :
    (l.cls = .newline ∨ l.cls = .blockComment ∧ l.pos.line < l.endLine) ↔ l.BreaksLine :=
  or_congr_right (and_congr_right fun _ => (Position.line_after l.pos l.text).2.1)

end Lexeme

namespace Source

open Lexeme

/-- A token, what stands between it and the next one, and where a semicolon is inserted behind it. -/
structure Stretch where
  lexeme : Lexeme
  token : Token
  gap : List Lexeme
  semi : Option Position

namespace Stretch

def lexemes (r : Stretch) : List Lexeme := r.lexeme :: r.gap

/-- A semicolon that is inserted. -/
def inserted (semi : Option Position) : List Located := semi.toList.map (⟨.symbol .semi, ·⟩)

def tokens (r : Stretch) : List Located := ⟨r.token, r.lexeme.pos⟩ :: inserted r.semi

end Stretch

/-- The lexemes are those in front of the first token and the stretches, and semicolons are inserted by Go's
rule. -/
structure Stretches (ls lead : List Lexeme) (stretches : List Stretch) : Prop where
  whole : ls = lead ++ stretches.flatMap Stretch.lexemes
  lead : ∀ l ∈ lead, l.IsGap
  token : ∀ r ∈ stretches, r.lexeme.token? = some r.token
  gap : ∀ r ∈ stretches, ∀ l ∈ r.gap, l.IsGap
  semi : ∀ front r back, stretches = front ++ r :: back →
    (r.semi.isSome ↔ r.token.Final ∧ ((∃ l ∈ r.gap, l.BreaksLine) ∨ back = []))

/-- The tokens of a stream in front of which a semicolon may be due. -/
theorem tokensFrom_stretches {pos stop : Position} {text : List Char} {ls : List Lexeme}
    (h : Tiles pos text ls stop) (due : Bool) :
    ∃ lead semi stretches, Stretches ls lead stretches ∧
      tokensFrom stop due ls = Stretch.inserted semi ++ stretches.flatMap Stretch.tokens ∧
      (semi.isSome ↔ due = true ∧ ((∃ l ∈ lead, l.BreaksLine) ∨ stretches = [])) := by
  induction h generalizing due with
  | done stop =>
    refine ⟨[], if due then some stop else none, [], ⟨rfl, by simp, by simp, by simp, by simp⟩, ?_, ?_⟩
    · cases due <;> rfl
    · cases due <;> simp
  | blank hc rest ih => exact ih due
  | @lexeme stop l text ls hne hl rest ih =>
    cases ht : l.token? with
    | some t =>
      obtain ⟨gap, semi, stretches, cut, tokens, placed⟩ := ih t.endsStatement
      refine ⟨[], none, ⟨l, t, gap, semi⟩ :: stretches, ⟨?_, by simp, ?_, ?_, ?_⟩, ?_, by simp⟩
      · simp [Stretch.lexemes, cut.whole]
      · exact List.forall_mem_cons.2 ⟨ht, cut.token⟩
      · exact List.forall_mem_cons.2 ⟨cut.lead, cut.gap⟩
      · rintro (_ | ⟨_, front⟩) r back he
        · obtain ⟨rfl, rfl⟩ := List.cons.inj he
          rw [← Token.endsStatement_iff]
          exact placed
        · exact cut.semi front r back (List.cons.inj he).2
      · simp [tokensFrom, ht, tokens, Stretch.tokens, Stretch.inserted]
    | none =>
      have isGap := (token?_eq_none hne).1 ht
      by_cases hb : l.BreaksLine
      · obtain ⟨gap, semi, stretches, cut, tokens, placed⟩ := ih false
        obtain rfl : semi = none := by simpa using placed
        refine ⟨l :: gap, if due then some l.pos else none, stretches,
          { cut with whole := by simp [cut.whole], lead := List.forall_mem_cons.2 ⟨isGap, cut.lead⟩ }, ?_, ?_⟩
        · rw [tokensFrom, ht]
          dsimp only
          rw [if_pos ((breaks_iff l).2 hb), tokens]
          cases due <;> rfl
        · cases due <;> simp [hb]
      · obtain ⟨gap, semi, stretches, cut, tokens, placed⟩ := ih due
        refine ⟨l :: gap, semi, stretches,
          { cut with whole := by simp [cut.whole], lead := List.forall_mem_cons.2 ⟨isGap, cut.lead⟩ }, ?_, ?_⟩
        · rw [tokensFrom, ht]
          dsimp only
          rw [if_neg (mt (breaks_iff l).1 hb), tokens]
        · rw [placed]
          simp [hb]

/-- What is read from a text comes from its lexemes. -/
theorem read_eq {text : String} {s : Source} (h : read text = .ok s) :
    ∃ ls, lexemesFrom .start text.toList = .ok (ls, s.stop) ∧ s.tokens = tokensFrom s.stop false ls ∧
      s.comments = commentsFrom 0 ls := by
  unfold read at h
  rw [lexemesAt_new] at h
  split at h
  · cases h
  · next ls stop hl =>
    cases h
    exact ⟨ls, hl, rfl, rfl⟩

/-- **Semicolons are inserted by Go's rule.** A source that can be cut into lexemes is a sequence of stretches,
each a token and the line breaks and comments behind it. Its tokens are those of the stretches in their order, and
behind a token one semicolon, exactly if the token can end a statement and the line ends behind it, by a line
break outside of comments or one inside of a block comment, or no token follows. -/
theorem semicolons_inserted {text : String} {s : Source} (h : read text = .ok s) :
    ∃ ls lead stretches, lexemesFrom .start text.toList = .ok (ls, s.stop) ∧
      Tiles .start text.toList ls s.stop ∧ Stretches ls lead stretches ∧
      s.tokens = stretches.flatMap Stretch.tokens := by
  obtain ⟨ls, cut, tokens, -⟩ := read_eq h
  have tiles := lexemesFrom_tiles cut
  obtain ⟨lead, semi, stretches, hs, spread, placed⟩ := tokensFrom_stretches tiles false
  obtain rfl : semi = none := by simpa using placed
  exact ⟨ls, lead, stretches, cut, tiles, hs, tokens.trans spread⟩

/-- Line breaks of all kinds, line comments, and block comments within a line and over several. -/
def mixedBreaks : String := "x /* a */ // b\r\n\r\n+ y /* c\rd */ ( // e\n/* f */ return /* g */"

theorem semicolons_inserted_mixed :
    ∃ s, read mixedBreaks = .ok s ∧
      s.tokens.map (·.token) = [.ident "x", .symbol .semi, .other '+', .ident "y", .symbol .semi,
        .symbol .lparen, .keyword .returnStmt, .symbol .semi] ∧
      ∃ ls lead stretches, lexemesFrom .start mixedBreaks.toList = .ok (ls, s.stop) ∧
        Tiles .start mixedBreaks.toList ls s.stop ∧ Stretches ls lead stretches ∧
        s.tokens = stretches.flatMap Stretch.tokens := by
  have tokens : (read mixedBreaks).toOption.map (·.tokens.map (·.token)) = some [.ident "x",
      .symbol .semi, .other '+', .ident "y", .symbol .semi, .symbol .lparen, .keyword .returnStmt,
      .symbol .semi] := by decide +kernel
  match h : read mixedBreaks with
  | .error e =>
    rw [h] at tokens
    cases tokens
  | .ok s =>
    rw [h] at tokens
    exact ⟨s, rfl, Option.some.inj tokens, semicolons_inserted h⟩

end Source

end GoGlue
