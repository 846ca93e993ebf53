import GoGlue.Proofs.Lexeme.Tiling
import GoGlue.Proofs.Position.Index

/-!
# Ends of lexemes

No lexeme ends with a CR that has its LF behind it, since the scanner takes both as one line break. So what is in front
of a lexeme cuts no CRLF in two, and its offset in the source has the position to which the text in front of it leads:
a source is read with an index as it is without one.

* `scan_wellCut`: a lexeme cuts no CRLF in two, and its token is spelled as it is.
* `lexemesAt_eq`: the lexemes with their positions from the index, and with those counted along the text.
* `endLine_indexed`: the last line of a comment, from the index.
-/
namespace GoGlue

open Position

namespace Position

theorem uncut_of_notMem {s : List Char} (h : '\r' ∉ s) (t : List Char) : Uncut s t :=
  fun last => absurd (List.mem_of_getLast? last) h

theorem uncut_of_getLast? {s : List Char} {c : Char} (h : s.getLast? = some c) (hc : c ≠ '\r') (t : List Char) :
    Uncut s t := fun last => absurd (Option.some.inj (h.symm.trans last)) hc

end Position

theorem Keyword.text_of_ofText? {s : String} {k : Keyword} (h : ofText? s = some k) : k.text = s := by
  simpa using List.find?_some h

namespace Lexeme

/-! ## Ends of lexemes -/

/-- A lexeme of the given class ends where it should: it cuts no CRLF in two, and its token is spelled as it is. -/
structure WellCut (cls : LexemeClass) (text rest : List Char) : Prop where
  uncut : Uncut text rest
  spelled : ∀ pos t, token? ⟨cls, text, pos⟩ = some t → t.text = String.ofList text

section

variable {c : Char} {r text rest : List Char} {cls : LexemeClass} {n : Nat}

theorem spelled_word (pos : Position) {t : Token} (h : token? ⟨.word, text, pos⟩ = some t) :
    t.text = String.ofList text := by
  simp only [token?] at h
  split at h
  · next k hk =>
    cases h
    exact Keyword.text_of_ofText? hk
  · cases h
    rfl

/-- The classes whose tokens are kept as they are written. -/
theorem WellCut.verbatim (hc : cls = .newline ∨ cls = .lineComment ∨ cls = .blockComment ∨ cls = .word ∨
    cls = .number ∨ cls = .string ∨ cls = .rune) (h : Uncut text rest) : WellCut cls text rest := by
  refine ⟨h, fun pos t ht => ?_⟩
  rcases hc with rfl | rfl | rfl | rfl | rfl | rfl | rfl
  · cases ht
  · cases ht
  · cases ht
  · exact spelled_word pos ht
  all_goals
    cases ht
    rfl

theorem WellCut.other (hc : c ≠ '\r') (rest : List Char) : WellCut .other [c] rest := by
  refine ⟨uncut_of_getLast? rfl hc rest, fun pos t ht => ?_⟩
  cases ht
  rfl

theorem cr_notMem_symbol (s : Symbol) : '\r' ∉ s.text.toList := by
  cases s <;> decide

theorem WellCut.symbol {s : Symbol} (h : text = s.text.toList) (rest : List Char) :
    WellCut (.symbol s) text rest := by
  subst h
  refine ⟨uncut_of_notMem (cr_notMem_symbol s) rest, fun pos t ht => ?_⟩
  cases ht
  exact String.ofList_toList.symm

/-- A literal is closed by its quote. -/
theorem literalBody_closed {quote : Char} (h : literalBody quote r = (n, true)) : r[n]? = some quote := by
  fun_induction literalBody quote r generalizing n with
  | case1 => cases h
  | case2 c r _ ih =>
    obtain ⟨rfl, closed⟩ := Prod.mk.inj h
    exact ih (Prod.ext rfl closed)
  | case3 =>
    cases h
    rfl
  | case4 => cases h
  | case5 c r _ _ _ ih =>
    obtain ⟨rfl, closed⟩ := Prod.mk.inj h
    exact ih (Prod.ext rfl closed)
  | case6 => cases h

theorem WellCut.closed {q : Char} (hq : q ≠ '\r') (hc : cls = .string ∨ cls = .rune)
    (h : r[n]? = some q) (c : Char) : WellCut cls (c :: r.take (n + 1)) (r.drop (n + 1)) := by
  refine .verbatim (by tauto) (uncut_of_getLast? ?_ hq _)
  rw [List.take_add_one, h]
  simp [List.getLast?_cons]

theorem unclosedLiteral_wellCut {quote : Char} (hq : quote ≠ '\r') {body : List Char}
    (h : unclosedLiteral quote body = .ok (cls, n)) : WellCut cls (quote :: r.take n) (r.drop n) := by
  unfold unclosedLiteral at h
  split at h <;> cases h
  exact .other hq r

theorem scanString_wellCut (h : scanString r = .ok (cls, n)) : WellCut cls ('"' :: r.take n) (r.drop n) := by
  unfold scanString at h
  split at h
  · next closed =>
    cases h
    exact .closed (by decide) (.inl rfl) (literalBody_closed closed) _
  · exact unclosedLiteral_wellCut (by decide) h

theorem scanRawString_wellCut (h : scanRawString r = .ok (cls, n)) :
    WellCut cls ('\x60' :: r.take n) (r.drop n) := by
  unfold scanRawString at h
  dsimp only at h
  split at h
  · exact unclosedLiteral_wellCut (by decide) h
  · cases hd : r.drop (r.takeWhile (· != '\x60')).length with
    | nil => contradiction
    | cons d t =>
      cases h
      obtain rfl : d = '\x60' := by simpa using Text.stops_takeWhile hd
      refine .closed (q := '\x60') (by decide) (.inl rfl) ?_ _
      rw [← List.head?_drop, hd]
      rfl

theorem scanRune_wellCut (h : scanRune r = .ok (cls, n)) : WellCut cls ('\'' :: r.take n) (r.drop n) := by
  unfold scanRune at h
  split at h
  · cases h
    exact .other (by decide) r
  · next closed =>
    cases h
    exact .closed (by decide) (.inr rfl) (literalBody_closed closed) _
  · exact unclosedLiteral_wellCut (by decide) h

theorem scanSymbol_wellCut (hc : c ≠ '\r') (r : List Char) :
    WellCut (scanSymbol c r).1 (c :: r.take (scanSymbol c r).2) (r.drop (scanSymbol c r).2) := by
  fun_cases scanSymbol c r with
  | case17 => exact .other hc r
  | _ => exact .symbol (by simp [Symbol.text]) _

/-- **A lexeme ends where it should.** -/
theorem scan_wellCut (h : scan c r = .ok (cls, n)) : WellCut cls (c :: r.take n) (r.drop n) := by
  have onLine : cls = .lineComment → '\r' ∉ c :: r.take n := by
    rintro rfl hm
    exact absurd ((scan_spelled h .start).2 _ hm) (by decide)
  have closed : cls = .blockComment → (c :: r.take n).getLast? = some '/' := by
    rintro rfl
    obtain ⟨inner, text, -⟩ := scan_spelled h .start
    rw [show c :: r.take n = _ from text, List.getLast?_append]
    rfl
  unfold scan at h
  split at h
  · next hc =>
    cases h
    exact .verbatim (by simp) (uncut_of_getLast? (c := c) rfl (by rw [hc]; decide) _)
  split at h
  · next hc =>
    cases h
    refine .verbatim (by simp) ?_
    split
    · next lf =>
      obtain ⟨r, rfl⟩ := List.head?_eq_some_iff.1 lf
      exact uncut_of_getLast? (c := '\n') rfl (by decide) _
    · next lf => exact fun _ => lf
  next cr =>
  split at h
  · cases h
    rw [Text.take_takeWhile]
    refine .verbatim (by simp) (uncut_of_notMem (fun hm => ?_) _)
    rcases List.mem_cons.1 hm with rfl | hm
    · exact cr rfl
    · exact absurd (List.mem_takeWhile_imp hm) (by decide)
  split at h
  · cases h
    refine .verbatim (by simp) (uncut_of_notMem (fun hm => ?_) _)
    rcases List.mem_cons.1 hm with rfl | hm
    · exact cr rfl
    · exact absurd (continuesNumber_take r _ hm) (by decide)
  split at h
  · cases h
  split at h
  · next hc =>
    rw [hc]
    exact scanString_wellCut h
  split at h
  · next hc =>
    rw [hc]
    exact scanRawString_wellCut h
  split at h
  · next hc =>
    rw [hc]
    exact scanRune_wellCut h
  split at h
  · cases h
    exact .verbatim (by simp) (uncut_of_notMem (onLine rfl) _)
  · split at h
    · cases h
      exact .verbatim (by simp) (uncut_of_getLast? (closed rfl) (by decide) _)
    · cases h
  · have found : scanSymbol c r = (cls, n) := Except.ok.inj h
    have cut := scanSymbol_wellCut cr r
    rwa [found] at cut

end

theorem not_endsLine_of_isSkipped {c : Char} (h : isSkipped c = true) : c ≠ '\r' ∧ c ≠ '\n' := by
  constructor <;>
  · rintro rfl
    cases h

/-! ## Texts in front of lexemes -/

section

variable {front : List Char} {c : Char} {r : List Char}

theorem uncut_blank (skipped : isSkipped c = true) : Uncut (front ++ [c]) r :=
  uncut_of_getLast? (List.getLast?_concat ..) (not_endsLine_of_isSkipped skipped).1 r

theorem after_blank (skipped : isSkipped c = true) (p : Position) :
    p.after (front ++ [c]) = ⟨(p.after front).line, (p.after front).column + 1⟩ := by
  obtain ⟨cr, lf⟩ := not_endsLine_of_isSkipped skipped
  rw [after_append _ _ _ (by simpa using fun _ => lf)]
  simp [after, cr, lf]

theorem uncut_scan {cls : LexemeClass} {n : Nat} (found : scan c r = .ok (cls, n)) :
    Uncut (front ++ c :: r.take n) (r.drop n) :=
  fun last => (scan_wellCut found).uncut (by simpa using last)

theorem after_scan (uncut : Uncut front (c :: r)) (p : Position) (n : Nat) :
    p.after (front ++ c :: r.take n) = (p.after front).after (c :: r.take n) :=
  after_append p front _ (by exact uncut)

end

/-! ## Positions from the index -/

/-- **The index gives each lexeme the position that is counted along the text.** -/
theorem lexemesAt_eq {front s : List Char} (uncut : Uncut front s) :
    lexemesAt (.new (front ++ s)) (LineIndex.bytes front) s = lexemesFrom (start.after front) s := by
  have here := LineIndex.position_eq uncut
  match s with
  | [] => rw [lexemesAt, lexemesFrom, here]
  | c :: r =>
    rw [lexemesAt, lexemesFrom, here]
    by_cases skipped : isSkipped c = true
    · rw [if_pos skipped, if_pos skipped, ← after_blank skipped, ← lexemesAt_eq (uncut_blank skipped),
        List.append_assoc, LineIndex.bytes_append]
      rfl
    · rw [if_neg skipped, if_neg skipped]
      cases found : scan c r with
      | error fault => rfl
      | ok first =>
        obtain ⟨cls, n⟩ := first
        have later : lexemesAt (.new (front ++ c :: r)) (LineIndex.bytes front + LineIndex.bytes (c :: r.take n))
            (r.drop n) = lexemesFrom ((start.after front).after (c :: r.take n)) (r.drop n) := by
          rw [← after_scan uncut, ← lexemesAt_eq (uncut_scan found), List.append_assoc, take_drop,
            LineIndex.bytes_append]
        cases counted : lexemesFrom ((start.after front).after (c :: r.take n)) (r.drop n) with
        | error e => simp only [later, counted]
        | ok rest => simp only [later, counted]
termination_by s.length
decreasing_by all_goals simp only [List.length_cons, List.length_drop]; omega

/-- **The last byte of a comment is on the line where it ends.** The index is asked for that byte, which need not begin a
character; it never is in a line break. -/
theorem endLine_indexed {front rest : List Char} {l : Lexeme} (comment : l.cls = .lineComment ∨ l.cls = .blockComment)
    (spelled : l.Spelled) (uncut : Uncut front l.text) (at_ : l.pos = start.after front) :
    ((LineIndex.new (front ++ l.text ++ rest)).position (LineIndex.bytes (front ++ l.text) - 1)).line = l.endLine := by
  have goesOn : l.text ≠ [] ∧ ∀ c, l.text.getLast? = some c → endsLine c = false := by
    rcases comment with cls | cls
    · rw [Spelled, cls] at spelled
      refine ⟨fun none => ?_, fun c hc => spelled.2 c (List.mem_of_getLast? hc)⟩
      exact absurd spelled.1 (by rw [none]; decide)
    · rw [Spelled, cls] at spelled
      obtain ⟨body, text, -⟩ := spelled
      rw [text, List.getLast?_append]
      exact ⟨nofun, fun c hc => by cases hc; rfl⟩
  have last (c : Char) (hc : (front ++ l.text).getLast? = some c) : endsLine c = false := by
    rw [List.getLast?_append_of_ne_nil front goesOn.1] at hc
    exact goesOn.2 c hc
  rw [LineIndex.line_eq (by simp [goesOn.1]) last, after_append start front _ uncut, ← at_]
  rfl

/-- A whole source is read with its index as it is without one. -/
theorem lexemesAt_new (s : List Char) : lexemesAt (.new s) 0 s = lexemesFrom .start s :=
  @lexemesAt_eq [] s nofun

end Lexeme

end GoGlue
