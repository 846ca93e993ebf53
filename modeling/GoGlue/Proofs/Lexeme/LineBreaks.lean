import GoGlue.Proofs.Lexeme.Counted
import Mathlib.Data.List.Infix
import Mathlib.Data.List.TakeWhile

/-!
# Line breaks of either kind

A source with LF line breaks, and the same source with CRLF in place of each. The two are cut at the same
places, into lexemes of the same classes that begin at the same positions, and whatever is wrong is wrong at
the same position. A backslash before a line break is the one exception: inside a literal it takes the CR with
it, but not an LF.

* `Text.Cut`: a cut of a text and the cut of its CRLF form at the same place.
* `Position.after_crlf`: positions do not depend on the kind of line breaks.
* `Lexeme.scan_crlf`: one lexeme is taken alike.
* `Lexeme.lexemesFrom_crlf`: a source is cut into the same lexemes.
* `Lexeme.lexemesFrom_break`: only line breaks, block comments and raw strings hold a line break.
-/
namespace GoGlue

/-! ## Texts -/

namespace Text

/-- The text with CRLF for every LF. -/
def crlf (s : List Char) : List Char := s.flatMap fun c => if c = '\n' then ['\r', '\n'] else [c]

@[simp] theorem crlf_nil : crlf [] = [] := rfl

@[simp] theorem crlf_lf (s : List Char) : crlf ('\n' :: s) = '\r' :: '\n' :: crlf s := by
  simp [crlf]

theorem crlf_cons {c : Char} (h : c ≠ '\n') (s : List Char) : crlf (c :: s) = c :: crlf s := by
  simp [crlf, h]

@[simp] theorem crlf_append (s t : List Char) : crlf (s ++ t) = crlf s ++ crlf t := by
  simp [crlf]

theorem crlf_eq_self {s : List Char} (h : '\n' ∉ s) : crlf s = s := by
  induction s with
  | nil => rfl
  | cons c s ih =>
    obtain ⟨hc, hs⟩ := not_or.1 (mt List.mem_cons.2 h)
    rw [crlf_cons (Ne.symm hc), ih hs]

@[simp] theorem crlf_eq_nil {s : List Char} : crlf s = [] ↔ s = [] := by
  cases s with
  | nil => simp
  | cons c s => by_cases h : c = '\n' <;> simp [h, crlf_cons]

theorem crlf_eq_cons {c : Char} {s t : List Char} (hn : c ≠ '\n') (hr : c ≠ '\r')
    (h : crlf s = c :: t) : ∃ u, s = c :: u ∧ t = crlf u := by
  cases s with
  | nil => cases h
  | cons d s =>
    by_cases hd : d = '\n'
    · subst hd
      rw [crlf_lf] at h
      exact absurd (List.cons.inj h).1.symm hr
    · rw [crlf_cons hd] at h
      obtain ⟨rfl, rfl⟩ := List.cons.inj h
      exact ⟨s, rfl, rfl⟩

section

variable {p : Char → Bool} {s : List Char}

/-- What is taken up to the end of the line at most is taken alike. -/
theorem takeWhile_crlf (hn : p '\n' = false) (hr : p '\r' = false) (s : List Char) :
    (crlf s).takeWhile p = s.takeWhile p := by
  induction s with
  | nil => rfl
  | cons c s ih =>
    by_cases h : c = '\n'
    · subst h
      simp [hn, hr]
    · simp [crlf_cons h, List.takeWhile_cons, ih]

theorem takeWhile_crlf_across (hn : p '\n' = true) (hr : p '\r' = true) (s : List Char) :
    (crlf s).takeWhile p = crlf (s.takeWhile p) := by
  induction s with
  | nil => rfl
  | cons c s ih =>
    by_cases h : c = '\n'
    · subst h
      simp [hn, hr, ih]
    · rw [crlf_cons h, List.takeWhile_cons, List.takeWhile_cons, ih]
      split
      · rw [crlf_cons h]
      · rfl

theorem take_takeWhile (p : Char → Bool) (s : List Char) :
    s.take (s.takeWhile p).length = s.takeWhile p :=
  (List.prefix_iff_eq_take.1 (List.takeWhile_prefix p)).symm

theorem lf_notMem_takeWhile (hn : p '\n' = false) (s : List Char) : '\n' ∉ s.takeWhile p := by
  intro h
  have := List.mem_takeWhile_imp h
  rw [hn] at this
  cases this

/-- The first character that is not taken stops the taking. -/
theorem stops_takeWhile {c : Char} {t : List Char} (h : s.drop (s.takeWhile p).length = c :: t) :
    p c = false := by
  induction s with
  | nil => cases h
  | cons d s ih =>
    by_cases hd : p d = true
    · rw [List.takeWhile_cons, if_pos hd] at h
      exact ih h
    · rw [List.takeWhile_cons, if_neg hd] at h
      obtain ⟨rfl, -⟩ := List.cons.inj h
      simpa using hd

end

/-- Every line ends with an LF alone, and none with a backslash before it. -/
structure LfOnly (s : List Char) : Prop where
  cr : '\r' ∉ s
  backslash : ¬ ['\\', '\n'] <:+: s

theorem LfOnly.suffix {s t : List Char} (h : LfOnly s) (ht : t <:+ s) : LfOnly t :=
  ⟨fun hm => h.cr (ht.mem hm), fun hi => h.backslash (hi.trans ht.isInfix)⟩

theorem LfOnly.tail {c : Char} {s : List Char} (h : LfOnly (c :: s)) : LfOnly s :=
  h.suffix (List.suffix_cons c s)

theorem LfOnly.head_ne {c : Char} {s : List Char} (h : LfOnly (c :: s)) : c ≠ '\r' := by
  rintro rfl
  exact h.cr (List.mem_cons_self ..)

/-! ## Cuts -/

/-- A text is cut after `n` characters where its CRLF form is cut after `m`. -/
structure Cut (s : List Char) (n m : Nat) : Prop where
  take : (crlf s).take m = crlf (s.take n)
  drop : (crlf s).drop m = crlf (s.drop n)

theorem cut_crlf (s : List Char) (n : Nat) : Cut s n (crlf (s.take n)).length := by
  have parts : crlf s = crlf (s.take n) ++ crlf (s.drop n) := by
    rw [← crlf_append, List.take_append_drop]
  exact ⟨by rw [parts, List.take_left], by rw [parts, List.drop_left]⟩

/-- A cut on the first line is at the same place. -/
theorem cut_line {s : List Char} {n : Nat} (h : '\n' ∉ s.take n) : Cut s n n := by
  have cut := cut_crlf s n
  rw [crlf_eq_self h, List.length_take] at cut
  by_cases hn : n ≤ s.length
  · rwa [Nat.min_eq_left hn] at cut
  · have whole : s.take n = s := List.take_of_length_le (by omega)
    rw [whole] at h
    have same : crlf s = s := crlf_eq_self h
    refine ⟨?_, ?_⟩
    · rw [same, whole, same]
    · rw [same, List.drop_eq_nil_of_le (by omega), crlf_nil]

end Text

open Text

/-! ## Positions -/

/-- Positions do not depend on the kind of line breaks. -/
theorem Position.after_crlf {s : List Char} (h : '\r' ∉ s) (p : Position) :
    p.after (crlf s) = p.after s := by
  induction s generalizing p with
  | nil => rfl
  | cons c s ih =>
    obtain ⟨hc, hs⟩ := not_or.1 (mt List.mem_cons.2 h)
    by_cases hn : c = '\n'
    · subst hn
      rw [crlf_lf]
      simp [after, ih hs]
    · rw [crlf_cons hn]
      simp [after, hn, Ne.symm hc, ih hs]

/-- The fault as it is reported about the CRLF form of a source: what is quoted has other line breaks. -/
def SyntaxFault.crlf : SyntaxFault → SyntaxFault
  | .invalidToken text => .invalidToken (.ofList (Text.crlf text.toList))
  | fault => fault

def SyntaxError.crlf (e : SyntaxError) : SyntaxError := ⟨e.pos, e.fault.crlf⟩

namespace Lexeme

/-- The lexeme of the CRLF form of a source. -/
def crlf (l : Lexeme) : Lexeme := { l with text := Text.crlf l.text }

/-! ## Lengths -/

theorem numberLength_crlf (r : List Char) : numberLength (Text.crlf r) = numberLength r := by
  have line : ∀ s, (Text.crlf s).takeWhile continuesNumber = s.takeWhile continuesNumber :=
    takeWhile_crlf (by decide) (by decide)
  have cut := cut_line (s := r) (n := (r.takeWhile continuesNumber).length)
    (by rw [take_takeWhile]; exact lf_notMem_takeWhile (by decide) r)
  unfold numberLength
  simp only [line, cut.drop]
  generalize r.drop (r.takeWhile continuesNumber).length = rest
  split
  · next fraction h =>
    obtain ⟨u, rfl, rfl⟩ := crlf_eq_cons (by decide) (by decide) h
    simp [line]
  · next h =>
    split
    · next fraction => exact absurd (crlf_cons (by decide) fraction) (h _)
    · rfl

/-- The characters of a number go on with it, but for the point. -/
theorem continuesNumber_take (r : List Char) :
    ∀ x ∈ r.take (numberLength r), continuesNumber x = true ∨ x = '.' := by
  have part : ∀ s : List Char, ∀ x ∈ s.takeWhile continuesNumber, continuesNumber x = true ∨ x = '.' :=
    fun s x hx => .inl (List.mem_takeWhile_imp hx)
  unfold numberLength
  dsimp only
  split
  · next fraction h =>
    rw [List.take_add, List.take_add, Text.take_takeWhile, ← List.drop_drop, h]
    simp only [List.take_succ_cons, List.take_zero, List.drop_succ_cons, List.drop_zero, Text.take_takeWhile,
      List.forall_mem_append]
    exact ⟨⟨part r, by simp⟩, part fraction⟩
  · rw [Text.take_takeWhile]
    exact part r

theorem lf_notMem_number (r : List Char) : '\n' ∉ r.take (numberLength r) := fun h =>
  absurd (continuesNumber_take r _ h) (by decide)

/-- A block comment ends at the same mark. -/
theorem commentLength_crlf (r : List Char) :
    commentLength (Text.crlf r) = (commentLength r).map fun n => (Text.crlf (r.take n)).length := by
  fun_induction commentLength r with
  | case1 r => simp [crlf_cons, commentLength]
  | case2 c r h ih =>
    by_cases hc : c = '\n'
    · subst hc
      rw [crlf_lf]
      simp [commentLength, ih, Option.map_map, Function.comp_def]
    · have open? : ∀ t, c = '*' → Text.crlf r = '/' :: t → False := by
        rintro t rfl ht
        obtain ⟨u, rfl, -⟩ := crlf_eq_cons (by decide) (by decide) ht
        exact h u rfl rfl
      rw [crlf_cons hc, commentLength.eq_2 _ _ open?, ih]
      simp [Option.map_map, Function.comp_def, crlf_cons hc]
  | case3 => rfl

/-- A literal ends on its line, and so it ends at the same place; `b` says that a quote closes it. -/
theorem lf_notMem_literal {quote : Char} (hq : quote ≠ '\n') {r : List Char} {n : Nat} {b : Bool}
    (h : literalBody quote r = (n, b)) : '\n' ∉ r.take (n + b.toNat) := by
  fun_induction literalBody quote r generalizing n b with
  | case1 r =>
    cases h
    simp
  | case2 c r hc ih =>
    cases h
    have rest := ih rfl
    rw [Nat.add_right_comm, List.take_succ_cons, List.take_succ_cons]
    simp [Ne.symm hc, rest]
  | case3 r _ =>
    cases h
    simpa using Ne.symm hq
  | case4 =>
    cases h
    simp
  | case5 c r _ hc he ih =>
    cases h
    have rest := ih rfl
    rw [Nat.add_right_comm, List.take_succ_cons]
    have : c ≠ '\n' := by
      rintro rfl
      exact he (.inr rfl)
    simp [Ne.symm this, rest]
  | case6 =>
    cases h
    simp

theorem literalBody_crlf {quote : Char} (hn : quote ≠ '\n') (hr : quote ≠ '\r') {r : List Char}
    (h : LfOnly r) : literalBody quote (Text.crlf r) = literalBody quote r := by
  -- a backslash at the end of the text takes nothing with it, in either form
  have last : ∀ {c : Char} {r : List Char}, (∀ d t, c = '\\' → r = d :: t → False) →
      ∀ d t, c = '\\' → Text.crlf r = d :: t → False := by
    intro c r hl d t hc ht
    cases r with
    | nil => cases ht
    | cons e r => exact hl e r hc rfl
  fun_induction literalBody quote r with
  | case1 r => exact absurd (List.prefix_append ['\\', '\n'] r).isInfix h.backslash
  | case2 c r hc ih =>
    rw [crlf_cons (by decide), crlf_cons hc, literalBody, if_neg hc, ih h.tail.tail]
  | case3 r hl => rw [crlf_cons hn, literalBody.eq_2 _ _ _ (last hl), if_pos rfl]
  | case4 c r hl hc he =>
    by_cases hb : c = '\n'
    · subst hb
      rw [crlf_lf, literalBody.eq_2 _ _ _ (by simp), if_neg (Ne.symm hr), if_pos (by decide)]
    · rw [crlf_cons hb, literalBody.eq_2 _ _ _ (last hl), if_neg hc, if_pos he]
  | case5 c r hl hc he ih =>
    have hb : c ≠ '\n' := by
      rintro rfl
      exact he (.inr rfl)
    rw [crlf_cons hb, literalBody.eq_2 _ _ _ (last hl), if_neg hc, if_neg he, ih h.tail]
  | case6 => rfl

/-! ## One lexeme -/

/-- What the scanner answers on a text that begins with `c`, and on its CRLF form: lexemes of the same class
and the same text, or the same fault. Only block comments and raw strings go on behind the line. -/
inductive ScannedAlike (c : Char) (r : List Char) :
    Except SyntaxFault (LexemeClass × Nat) → Except SyntaxFault (LexemeClass × Nat) → Prop
  | ok {cls : LexemeClass} {n m : Nat} (cut : Cut r n m)
      (across : '\n' ∈ r.take n → cls = .blockComment ∧ c = '/' ∧ r.head? = some '*' ∨ c = '\x60') :
      ScannedAlike c r (.ok (cls, n)) (.ok (cls, m))
  | fault (f : SyntaxFault) : ScannedAlike c r (.error f) (.error f.crlf)

variable {c : Char} {r : List Char}

theorem ScannedAlike.line (cls : LexemeClass) {n : Nat} (h : '\n' ∉ r.take n) :
    ScannedAlike c r (.ok (cls, n)) (.ok (cls, n)) :=
  .ok (cut_line h) fun hm => absurd hm h

theorem unclosedLiteral_alike {quote : Char} (hq : quote ≠ '\n') (body : List Char) :
    ScannedAlike c r (unclosedLiteral quote body) (unclosedLiteral quote (Text.crlf body)) := by
  cases body with
  | nil => exact .line _ (by simp)
  | cons d body =>
    have fault : SyntaxFault.crlf (.invalidToken (String.ofList (quote :: d :: body)))
        = .invalidToken (String.ofList (quote :: Text.crlf (d :: body))) := by
      simp [SyntaxFault.crlf, crlf_cons hq]
    have filled : Text.crlf (d :: body) ≠ [] := by simp
    rw [unclosedLiteral.eq_2 _ _ filled, ← fault]
    exact .fault _

theorem scanString_alike (h : LfOnly r) :
    ScannedAlike '"' r (scanString r) (scanString (Text.crlf r)) := by
  unfold scanString
  rw [literalBody_crlf (by decide) (by decide) h]
  split
  · next n hl => exact .line _ (lf_notMem_literal (by decide) hl)
  · next n hl =>
    have line : '\n' ∉ r.take n := lf_notMem_literal (by decide) hl
    rw [(cut_line line).take]
    exact unclosedLiteral_alike (by decide) _

theorem scanRune_alike (h : LfOnly r) :
    ScannedAlike '\'' r (scanRune r) (scanRune (Text.crlf r)) := by
  unfold scanRune
  rw [literalBody_crlf (by decide) (by decide) h]
  split
  · exact .line _ (by simp)
  · next n _ hl => exact .line _ (lf_notMem_literal (by decide) hl)
  · next n _ hl =>
    have line : '\n' ∉ r.take n := lf_notMem_literal (by decide) hl
    rw [(cut_line line).take]
    exact unclosedLiteral_alike (by decide) _

theorem scanRawString_alike :
    ScannedAlike '\x60' r (scanRawString r) (scanRawString (Text.crlf r)) := by
  have across : ∀ s, (Text.crlf s).takeWhile (· != '\x60') = Text.crlf (s.takeWhile (· != '\x60')) :=
    takeWhile_crlf_across (by decide) (by decide)
  have cut := cut_crlf r (r.takeWhile (· != '\x60')).length
  rw [take_takeWhile] at cut
  unfold scanRawString
  dsimp only
  rw [across, cut.drop]
  cases hd : r.drop (r.takeWhile (· != '\x60')).length with
  | nil => exact unclosedLiteral_alike (by decide) r
  | cons d rest =>
    obtain rfl : d = '\x60' := by simpa using stops_takeWhile hd
    have closed := cut_crlf r ((r.takeWhile (· != '\x60')).length + 1)
    rw [List.take_add, take_takeWhile, hd] at closed
    rw [crlf_cons (by decide)]
    refine .ok ?_ fun _ => .inr rfl
    simpa [crlf_cons] using closed

/-- Symbols are told by characters that are no line breaks. -/
theorem scanSymbol_crlf (c : Char) (r : List Char) : scanSymbol c (Text.crlf r) = scanSymbol c r := by
  have next : ∀ {d : Char} {t : List Char}, d ≠ '\n' → d ≠ '\r' → Text.crlf r = d :: t →
      ∃ u, r = d :: u ∧ t = Text.crlf u := crlf_eq_cons
  fun_cases scanSymbol c r with
  | case16 _ hd =>
    refine scanSymbol.eq_16 _ fun t ht => ?_
    obtain ⟨u, rfl, hu⟩ := next (by decide) (by decide) ht
    obtain ⟨v, rfl, -⟩ := crlf_eq_cons (by decide) (by decide) hu.symm
    exact hd v rfl
  | case17 =>
    apply scanSymbol.eq_17 <;> try assumption
    all_goals
      intro t hc ht
      obtain ⟨u, rfl, -⟩ := next (by decide) (by decide) ht
      simp_all
  | _ => simp [scanSymbol, crlf_cons]

theorem lf_notMem_symbol (c : Char) (r : List Char) : '\n' ∉ r.take (scanSymbol c r).2 := by
  unfold scanSymbol
  split <;> simp

theorem word_alike (p : Char → Bool) (hn : p '\n' = false) (hr : p '\r' = false) (cls : LexemeClass) :
    ScannedAlike c r (.ok (cls, (r.takeWhile p).length))
      (.ok (cls, ((Text.crlf r).takeWhile p).length)) := by
  rw [takeWhile_crlf hn hr]
  refine .line _ ?_
  rw [take_takeWhile]
  exact lf_notMem_takeWhile hn r

theorem lineComment_alike (body : List Char) :
    ScannedAlike '/' ('/' :: body)
      (.ok (.lineComment, 1 + (body.takeWhile (!endsLine ·)).length))
      (.ok (.lineComment, 1 + ((Text.crlf body).takeWhile (!endsLine ·)).length)) := by
  rw [takeWhile_crlf (by decide) (by decide)]
  refine .line _ ?_
  rw [Nat.add_comm, List.take_succ_cons, take_takeWhile]
  simpa using lf_notMem_takeWhile (p := (!endsLine ·)) (by decide) body

theorem blockComment_alike (body : List Char) :
    ScannedAlike '/' ('*' :: body)
      (match commentLength body with
      | some n => .ok (.blockComment, 1 + n)
      | none => .error .unterminatedComment)
      (match commentLength (Text.crlf body) with
      | some n => .ok (.blockComment, 1 + n)
      | none => .error .unterminatedComment) := by
  rw [commentLength_crlf]
  cases commentLength body with
  | none => exact .fault .unterminatedComment
  | some n =>
    have cut := cut_crlf ('*' :: body) (1 + n)
    rw [Nat.add_comm, List.take_succ_cons, crlf_cons (by decide), List.length_cons] at cut
    refine .ok ?_ fun _ => .inl ⟨rfl, rfl, rfl⟩
    simpa [Nat.add_comm] using cut

/-- **One lexeme** that is no line break is taken alike. -/
theorem scan_crlf (hn : c ≠ '\n') (h : LfOnly (c :: r)) :
    ScannedAlike c r (scan c r) (scan c (Text.crlf r)) := by
  have hr := h.head_ne
  unfold scan
  rw [if_neg hn, if_neg hn, if_neg hr, if_neg hr]
  split
  · exact word_alike continuesWord (by decide) (by decide) _
  split
  · rw [numberLength_crlf]
    exact .line _ (lf_notMem_number r)
  split
  · have same : SyntaxFault.crlf (.invalidToken c.toString) = .invalidToken c.toString := by
      simp [SyntaxFault.crlf, crlf_cons hn]
    nth_rewrite 2 [← same]
    exact .fault _
  split
  · next hq =>
    subst hq
    exact scanString_alike h.tail
  split
  · next hq =>
    subst hq
    exact scanRawString_alike
  split
  · next hq =>
    subst hq
    exact scanRune_alike h.tail
  split
  · rw [crlf_cons (by decide)]
    exact lineComment_alike _
  · rw [crlf_cons (by decide)]
    exact blockComment_alike _
  · next hline hblock =>
    split
    · have ht := ‹Text.crlf r = '/' :: _›
      obtain ⟨u, rfl, -⟩ := crlf_eq_cons (by decide) (by decide) ht
      exact (hline u rfl rfl).elim
    · have ht := ‹Text.crlf r = '*' :: _›
      obtain ⟨u, rfl, -⟩ := crlf_eq_cons (by decide) (by decide) ht
      exact (hblock u rfl rfl).elim
    · rw [scanSymbol_crlf]
      exact .line _ (lf_notMem_symbol _ r)

/-! ## All lexemes -/

theorem scan_lf (r : List Char) : scan '\n' r = .ok (.newline, 0) := rfl

theorem lexemesFrom_fault (pos : Position) {f : SyntaxFault} (hs : isSkipped c = false)
    (h : scan c r = .error f) : lexemesFrom pos (c :: r) = .error ⟨pos, f⟩ := by
  rw [lexemesFrom, hs, h]
  rfl

theorem lexemesFrom_cons (pos : Position) {cls : LexemeClass} {n : Nat} (hs : isSkipped c = false)
    (h : scan c r = .ok (cls, n)) :
    lexemesFrom pos (c :: r) = (lexemesFrom (pos.after (c :: r.take n)) (r.drop n)).map
      fun found => (⟨cls, c :: r.take n, pos⟩ :: found.1, found.2) := by
  rw [lexemesFrom, hs, h]
  dsimp only
  cases lexemesFrom (pos.after (c :: r.take n)) (r.drop n) <;> rfl

/-- The first lexeme of the CRLF form. -/
theorem lexemesFrom_cons_crlf (pos : Position) {cls : LexemeClass} {n : Nat} (hr : LfOnly (c :: r))
    (hs : isSkipped c = false) (h : scan c r = .ok (cls, n)) :
    lexemesFrom pos (Text.crlf (c :: r))
      = (lexemesFrom (pos.after (c :: r.take n)) (Text.crlf (r.drop n))).map
        fun found => (⟨cls, Text.crlf (c :: r.take n), pos⟩ :: found.1, found.2) := by
  have text : '\r' ∉ c :: r.take n := fun hm =>
    hr.cr (List.mem_cons.2 ((List.mem_cons.1 hm).imp_right List.mem_of_mem_take))
  have sameEnd := Position.after_crlf text pos
  by_cases hn : c = '\n'
  · subst hn
    rw [scan_lf] at h
    cases h
    rw [crlf_lf, lexemesFrom_cons pos (by decide) (show scan '\r' ('\n' :: Text.crlf r) = _ from rfl)]
    rfl
  · have scanned := scan_crlf hn hr
    rw [h] at scanned
    generalize hcr : scan c (Text.crlf r) = answer at scanned
    cases scanned with
    | ok cut across =>
      simp only [crlf_cons hn] at sameEnd ⊢
      rw [lexemesFrom_cons pos hs hcr, cut.take, cut.drop, sameEnd]

/-- What follows the first lexeme. -/
theorem suffix_drop (c : Char) (r : List Char) (n : Nat) : r.drop n <:+ c :: r :=
  (List.drop_suffix n r).trans (List.suffix_cons c r)

/-- **A source is cut into the same lexemes** whichever way its lines end. -/
theorem lexemesFrom_crlf (pos : Position) {s : List Char} (h : LfOnly s) :
    lexemesFrom pos (Text.crlf s) = ((lexemesFrom pos s).map
      fun found => (found.1.map crlf, found.2)).mapError SyntaxError.crlf := by
  fun_induction lexemesFrom pos s with
  | case1 pos =>
    rw [crlf_nil, lexemesFrom]
    rfl
  | case2 pos c r skipped ih =>
    have hn : c ≠ '\n' := by
      rintro rfl
      exact absurd skipped (by decide)
    rw [crlf_cons hn, lexemesFrom_skipped pos c _ skipped, ih h.tail]
  | case3 pos c r hs fault failed =>
    have hn : c ≠ '\n' := by
      rintro rfl
      rw [scan_lf] at failed
      cases failed
    have scanned := scan_crlf hn h
    rw [failed] at scanned
    generalize hcr : scan c (Text.crlf r) = answer at scanned
    cases scanned
    rw [crlf_cons hn, lexemesFrom_fault pos (by simpa using hs) hcr]
    rfl
  | case4 pos c r hs cls n first e rest ih =>
    rw [lexemesFrom_cons_crlf pos h (by simpa using hs) first, ih (h.suffix (suffix_drop c r n)), rest]
    rfl
  | case5 pos c r hs cls n first found stop rest ih =>
    rw [lexemesFrom_cons_crlf pos h (by simpa using hs) first, ih (h.suffix (suffix_drop c r n)), rest]
    rfl

/-- The text of a lexeme stands in the source. -/
theorem lexemesFrom_text {pos stop : Position} {s : List Char} {ls : List Lexeme}
    (h : lexemesFrom pos s = .ok (ls, stop)) : ∀ l ∈ ls, l.text ⊆ s := by
  fun_induction lexemesFrom pos s generalizing ls stop with
  | case1 =>
    cases h
    simp
  | case2 pos c r skipped ih =>
    exact fun l hl => List.Subset.trans (ih h l hl) (List.subset_cons_self c r)
  | case3 => cases h
  | case4 => cases h
  | case5 pos c r hs cls n first found stop rest ih =>
    cases h
    refine List.forall_mem_cons.2 ⟨List.cons_subset_cons c (List.take_subset n r), fun l hl => ?_⟩
    exact List.Subset.trans (ih rest l hl) (suffix_drop c r n).subset

/-- **Line breaks are in few lexemes**: line breaks themselves, block comments and raw strings. -/
theorem lexemesFrom_break {pos stop : Position} {s : List Char} {ls : List Lexeme} (h : LfOnly s)
    (hl : lexemesFrom pos s = .ok (ls, stop)) :
    ∀ l ∈ ls, '\n' ∈ l.text → l.cls = .newline ∨ l.cls = .blockComment ∧ ['/', '*'] <+: l.text ∨
      l.text.head? = some '\x60' := by
  fun_induction lexemesFrom pos s generalizing ls stop with
  | case1 =>
    cases hl
    simp
  | case2 pos c r skipped ih => exact ih h.tail hl
  | case3 => cases hl
  | case4 => cases hl
  | case5 pos c r hs cls n first found stop rest ih =>
    cases hl
    refine List.forall_mem_cons.2 ⟨fun hm => ?_, ih (h.suffix (suffix_drop c r n)) rest⟩
    by_cases hn : c = '\n'
    · subst hn
      rw [scan_lf] at first
      cases first
      exact .inl rfl
    · have scanned := scan_crlf hn h
      rw [first] at scanned
      have inside : '\n' ∈ r.take n := (List.mem_cons.1 hm).resolve_left (Ne.symm hn)
      generalize scan c (Text.crlf r) = answer at scanned
      cases scanned with
      | ok cut across =>
        rcases across inside with ⟨rfl, rfl, head⟩ | rfl
        · obtain ⟨r, rfl⟩ := List.head?_eq_some_iff.1 head
          cases n with
          | zero => cases inside
          | succ n => exact .inr (.inl ⟨rfl, List.prefix_append ['/', '*'] (r.take n)⟩)
        · exact .inr (.inr rfl)

end Lexeme

end GoGlue
