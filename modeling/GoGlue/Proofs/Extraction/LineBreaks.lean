import GoGlue.Extraction
import GoGlue.Proofs.Decl.Productions
import GoGlue.Proofs.Source.Semicolons

/-!
# Extraction does not depend on the kind of line breaks

A package is extracted from sources with CRLF line breaks as it is from the same sources with LF. Lexemes are
the same up to the line breaks inside block comments, and these are gone once a doc text is cut into lines.
Only the text that an invalid token quotes may differ, not the place of the error.

* `Comment.docText_crlf`: doc texts are the same.
* `Source.read_crlf`: the tokens are the same, and the comments up to their line breaks.
* `SourceFile.parse_crlf`: the declarations are the same.
* `Extraction.line_breaks_irrelevant`: so are the package, the report, the log and the place of an error.
-/
namespace GoGlue

open Text

/-! ## Lines of a text -/

namespace Text

theorem linesFrom_crlf {acc s : List Char} (ha : '\r' ∉ acc) (hs : '\r' ∉ s) :
    linesFrom acc (crlf s) = linesFrom acc s := by
  induction s generalizing acc with
  | nil => rfl
  | cons c s ih =>
    obtain ⟨hc, rest⟩ := not_or.1 (mt List.mem_cons.2 hs)
    by_cases hn : c = '\n'
    · subst hn
      have kept : dropCr acc = acc := if_neg fun h => ha (List.mem_of_getLast? h)
      have cut : dropCr (acc ++ ['\r']) = acc := by simp [dropCr]
      rw [crlf_lf, linesFrom.eq_3 _ _ _ (by decide), linesFrom, linesFrom, ih List.not_mem_nil rest, kept, cut]
    · have step : ∀ t, linesFrom acc (c :: t) = linesFrom (acc ++ [c]) t := fun t =>
        linesFrom.eq_3 acc c t hn
      have grown : '\r' ∉ acc ++ [c] := by simp [ha, hc]
      rw [crlf_cons hn, step, step, ih grown rest]

theorem lines_crlf {s : List Char} (h : '\r' ∉ s) : lines (crlf s) = lines s :=
  linesFrom_crlf (by simp) h

theorem reverse_crlf (s : List Char) :
    (crlf s).reverse = s.reverse.flatMap fun c => if c = '\n' then ['\n', '\r'] else [c] := by
  rw [crlf, List.reverse_flatMap]
  congr 1
  funext c
  by_cases h : c = '\n' <;> simp [h]

end Text

/-! ## Comments -/

namespace Comment

/-- The comment of the CRLF form of a source. -/
def crlf (c : Comment) : Comment := { c with text := .ofList (Text.crlf c.text.toList) }

/-- What is known of a comment of a source with LF line breaks. -/
structure LfOnly (c : Comment) : Prop where
  cr : '\r' ∉ c.text.toList
  block : '\n' ∈ c.text.toList → ['/', '*'] <+: c.text.toList

/-- A closing mark at the end is found in either form. -/
theorem closing_crlf {s t : List Char}
    (h : (s.flatMap fun c => if c = '\n' then ['\n', '\r'] else [c]) = '/' :: '*' :: t) :
    ∃ u, s = '/' :: '*' :: u := by
  match s with
  | [] => cases h
  | [c] => by_cases hc : c = '\n' <;> simp [hc] at h
  | c :: d :: s => by_cases hc : c = '\n' <;> by_cases hd : d = '\n' <;> simp_all

theorem blockBody_crlf (r : List Char) :
    blockBody (Text.crlf ('/' :: '*' :: r)) = Text.crlf (blockBody ('/' :: '*' :: r)) := by
  rw [crlf_cons (by decide), crlf_cons (by decide), blockBody, blockBody, reverse_crlf]
  by_cases closed : ∃ u, r.reverse = '/' :: '*' :: u
  · obtain ⟨u, hu⟩ := closed
    have back := congrArg List.reverse (reverse_crlf u.reverse)
    rw [List.reverse_reverse, List.reverse_reverse] at back
    rw [hu]
    simpa using back.symm
  · split
    · next t ht => exact absurd (closing_crlf ht) closed
    · split
      · next u hu => exact absurd ⟨u, hu⟩ closed
      · rw [crlf_cons (by decide), crlf_cons (by decide)]

theorem cr_notMem_blockBody {text : List Char} (h : '\r' ∉ text) : '\r' ∉ blockBody text := by
  unfold blockBody
  split
  · next r =>
    split
    · next body hr =>
      have : r = body.reverse ++ ['*', '/'] := by simpa using congrArg List.reverse hr
      simp_all
    · exact h
  · exact h

theorem crlf_eq_self {c : Comment} (h : '\n' ∉ c.text.toList) : c.crlf = c := by
  simp [crlf, Text.crlf_eq_self h]

/-- The lines of a comment are the same. -/
theorem docLines_crlf {c : Comment} (h : c.LfOnly) : docLines c.crlf = docLines c := by
  by_cases hn : '\n' ∈ c.text.toList
  · obtain ⟨r, hr⟩ := h.block hn
    have cr : '\r' ∉ '/' :: '*' :: r := fun hm => h.cr (hr ▸ hm)
    unfold docLines
    rw [crlf, String.toList_ofList, ← hr]
    show Text.lines (blockBody (Text.crlf ('/' :: '*' :: r))) = Text.lines (blockBody ('/' :: '*' :: r))
    rw [blockBody_crlf, lines_crlf (cr_notMem_blockBody cr)]
  · rw [crlf_eq_self hn]

theorem groupBack_crlf (c : Comment) (cs : List Comment) :
    groupBack c.crlf (cs.map crlf) = (groupBack c cs).map crlf := by
  induction cs generalizing c with
  | nil => rfl
  | cons d cs ih =>
    rw [List.map_cons, groupBack, groupBack, ih]
    show (if d.trailing || decide (d.endLine + 1 < c.line) then _ else _) = _
    split <;> rfl

theorem mem_groupBack {c d : Comment} {cs : List Comment} (h : d ∈ groupBack c cs) : d ∈ c :: cs := by
  induction cs generalizing c with
  | nil => exact h
  | cons e cs ih =>
    rw [groupBack] at h
    split at h
    · simp_all
    · rcases List.mem_cons.1 h with rfl | h
      · simp
      · exact List.mem_cons_of_mem _ (ih h)

theorem docGroup_crlf (cs : List Comment) (line : Nat) :
    docGroup (cs.map crlf) line = (docGroup cs line).map crlf := by
  have ended : (cs.map crlf).reverse.dropWhile (fun c => c.trailing || c.endLine + 1 != line)
      = (cs.reverse.dropWhile fun c => c.trailing || c.endLine + 1 != line).map crlf := by
    rw [← List.map_reverse, List.dropWhile_map]
    rfl
  unfold docGroup
  rw [ended]
  cases cs.reverse.dropWhile fun c => c.trailing || c.endLine + 1 != line with
  | nil => rfl
  | cons c earlier => simp [groupBack_crlf]

theorem mem_docGroup {c : Comment} {cs : List Comment} {line : Nat} (h : c ∈ docGroup cs line) :
    c ∈ cs := by
  unfold docGroup at h
  split at h
  · cases h
  · next d earlier hd =>
    have found := mem_groupBack (List.mem_reverse.1 h)
    rw [← hd] at found
    exact List.mem_reverse.1 ((List.dropWhile_sublist _).mem found)

/-- **Doc texts are the same.** -/
theorem docText_crlf {cs : List Comment} (h : ∀ c ∈ cs, c.LfOnly) (line : Nat) :
    docText (cs.map crlf) line = docText cs line := by
  have lines : (docGroup cs line).flatMap (fun c => docLines c.crlf)
      = (docGroup cs line).flatMap docLines :=
    List.flatMap_congr fun c hc => docLines_crlf (h c (mem_docGroup hc))
  rw [docText, docText, docGroup_crlf, List.flatMap_map, lines]

end Comment

/-! ## Tokens and comments -/

namespace Lexeme

/-- A lexeme of a source with LF line breaks, whose raw strings stay on their line. -/
structure LfOnly (l : Lexeme) : Prop where
  cr : '\r' ∉ l.text
  lf : '\n' ∈ l.text → l.cls = .newline ∨ l.cls = .blockComment ∧ ['/', '*'] <+: l.text

theorem crlf_eq_self {l : Lexeme} (h : '\n' ∉ l.text) : l.crlf = l := by
  simp [crlf, Text.crlf_eq_self h]

theorem token?_crlf {l : Lexeme} (h : l.LfOnly) : l.crlf.token? = l.token? := by
  by_cases hn : '\n' ∈ l.text
  · have none : l.cls = .newline ∨ l.cls = .blockComment := (h.lf hn).imp_right And.left
    rcases none with hc | hc <;> simp [token?, crlf, hc]
  · rw [crlf_eq_self hn]

theorem endLine_crlf {l : Lexeme} (h : l.LfOnly) : l.crlf.endLine = l.endLine := by
  rw [endLine, crlf, Position.after_crlf h.cr]
  rfl

end Lexeme

namespace Source

open Lexeme

theorem tokensFrom_crlf {ls : List Lexeme} (h : ∀ l ∈ ls, l.LfOnly) (stop : Position) (due : Bool) :
    tokensFrom stop due (ls.map crlf) = tokensFrom stop due ls := by
  induction ls generalizing due with
  | nil => rfl
  | cons l ls ih =>
    obtain ⟨hl, hls⟩ := List.forall_mem_cons.1 h
    rw [List.map_cons, tokensFrom, tokensFrom, token?_crlf hl, endLine_crlf hl]
    simp only [ih hls]
    rfl

theorem commentsFrom_crlf {ls : List Lexeme} (h : ∀ l ∈ ls, l.LfOnly) (line : Nat) :
    commentsFrom line (ls.map crlf) = (commentsFrom line ls).map Comment.crlf := by
  induction ls generalizing line with
  | nil => rfl
  | cons l ls ih =>
    obtain ⟨hl, hls⟩ := List.forall_mem_cons.1 h
    rw [List.map_cons, commentsFrom, commentsFrom, token?_crlf hl, endLine_crlf hl]
    simp only [ih hls]
    cases l.token? with
    | some t => rfl
    | none =>
      show (if l.cls = .newline then _ else _) = List.map _ (if l.cls = .newline then _ else _)
      split <;> simp [Comment.crlf, Lexeme.crlf]

theorem commentsFrom_lfOnly {ls : List Lexeme} (h : ∀ l ∈ ls, l.LfOnly) (line : Nat) :
    ∀ c ∈ commentsFrom line ls, c.LfOnly := by
  induction ls generalizing line with
  | nil => simp [commentsFrom]
  | cons l ls ih =>
    obtain ⟨hl, hls⟩ := List.forall_mem_cons.1 h
    rw [commentsFrom]
    split
    · exact ih hls _
    · split
      · exact ih hls _
      · next hc =>
        refine List.forall_mem_cons.2 ⟨⟨by simpa using hl.cr, ?_⟩, ih hls _⟩
        intro hn
        rw [String.toList_ofList] at hn ⊢
        exact ((hl.lf hn).resolve_left hc).2

/-- A text that is as good with CRLF: no raw string goes on behind its line, where it would keep the CR. -/
structure Portable (text : String) : Prop where
  lf : LfOnly text.toList
  raw : ∀ ls stop, lexemesFrom .start text.toList = .ok (ls, stop) →
    ∀ l ∈ ls, l.text.head? = some '\x60' → '\n' ∉ l.text

theorem Portable.lexemes {text : String} (h : Portable text) {ls : List Lexeme} {stop : Position}
    (hl : lexemesFrom .start text.toList = .ok (ls, stop)) : ∀ l ∈ ls, l.LfOnly := by
  intro l hm
  refine ⟨fun hr => h.lf.cr (lexemesFrom_text hl l hm hr), fun hn => ?_⟩
  rcases lexemesFrom_break h.lf hl l hm hn with hc | hc | hc
  · exact .inl hc
  · exact .inr hc
  · exact absurd hn (h.raw ls stop hl l hm hc)

end Source

/-- The text with CRLF line breaks. -/
def crlfText (text : String) : String := .ofList (Text.crlf text.toList)

namespace Source

/-- **The source is read alike**: the same tokens at the same places, and the same comments up to the line
breaks in them. -/
theorem read_crlf {text : String} (h : Portable text) :
    read (crlfText text) = ((read text).map
      fun s => { s with comments := s.comments.map Comment.crlf }).mapError SyntaxError.crlf := by
  unfold read
  rw [crlfText, String.toList_ofList, Lexeme.lexemesAt_new, Lexeme.lexemesAt_new, Lexeme.lexemesFrom_crlf .start h.lf]
  cases hl : Lexeme.lexemesFrom .start text.toList with
  | error e => rfl
  | ok found =>
    obtain ⟨ls, stop⟩ := found
    have plain := h.lexemes hl
    show Except.ok (Source.mk (tokensFrom stop false (ls.map Lexeme.crlf))
      (commentsFrom 0 (ls.map Lexeme.crlf)) stop) = _
    rw [tokensFrom_crlf plain, commentsFrom_crlf plain]
    rfl

theorem read_lfOnly {text : String} (h : Portable text) {s : Source} (hs : read text = .ok s) :
    ∀ c ∈ s.comments, c.LfOnly := by
  obtain ⟨ls, cut, -, comments⟩ := read_eq hs
  rw [comments]
  exact commentsFrom_lfOnly (h.lexemes cut) 0

end Source

/-! ## Source files -/

/-- The fault without the text that it quotes. -/
def SyntaxFault.unquoted : SyntaxFault → SyntaxFault
  | .invalidToken _ => .invalidToken ""
  | fault => fault

/-- The error at its place, without the text that it quotes. -/
def SyntaxError.unquoted (e : SyntaxError) : SyntaxError := ⟨e.pos, e.fault.unquoted⟩

theorem SyntaxError.unquoted_crlf (e : SyntaxError) : e.crlf.unquoted = e.unquoted := by
  obtain ⟨pos, fault⟩ := e
  cases fault <;> rfl

/-- Comments matter for the doc texts only. -/
theorem SourceFile.ofSource_docs {ts : List Located} {cs cs' : List Comment} {stop : Position}
    (h : Comment.docText cs = Comment.docText cs') : ofSource ⟨ts, cs, stop⟩ = ofSource ⟨ts, cs', stop⟩ := by
  rw [ofSource_eq, ofSource_eq, h]

/-- **The declarations are the same.** -/
theorem SourceFile.parse_crlf {text : String} (h : Source.Portable text) :
    (parse (crlfText text)).mapError SyntaxError.unquoted
      = (parse text).mapError SyntaxError.unquoted := by
  unfold parse
  rw [Source.read_crlf h]
  cases hs : Source.read text with
  | error e =>
    show Except.error e.crlf.unquoted = Except.error e.unquoted
    rw [SyntaxError.unquoted_crlf]
  | ok s =>
    have docs : Comment.docText (s.comments.map Comment.crlf) = Comment.docText s.comments :=
      funext (Comment.docText_crlf (Source.read_lfOnly h hs))
    exact congrArg _ (ofSource_docs docs)

namespace ExtractError

/-- The error without the text that it quotes: its kind, the file and the place in it are left. -/
def unquoted : ExtractError → ExtractError
  | source file cause => source file cause.unquoted
  | e => e

end ExtractError

namespace Extraction

/-- Two answers that are the same up to the text of an error are both errors, or equal. -/
theorem mapError_eq {ε α : Type} {u : ε → ε} {x y : Except ε α} (h : x.mapError u = y.mapError u) :
    (∃ a, x = .ok a ∧ y = .ok a) ∨ ∃ e f, x = .error e ∧ y = .error f ∧ u e = u f := by
  cases x <;> cases y <;> simp_all [Except.mapError]

theorem readSources_crlf {sources : List (String × String)}
    (h : ∀ s ∈ sources, Source.Portable s.2) :
    (readSources (sources.map fun s => (s.1, crlfText s.2))).mapError ExtractError.unquoted
      = (readSources sources).mapError ExtractError.unquoted := by
  induction sources with
  | nil => rfl
  | cons source rest ih =>
    obtain ⟨name, text⟩ := source
    obtain ⟨first, more⟩ := List.forall_mem_cons.1 h
    rw [List.map_cons, readSources, readSources]
    split
    · rcases mapError_eq (SourceFile.parse_crlf first) with ⟨file, hw, hf⟩ | ⟨e, f, hw, hf, same⟩
      · dsimp only
        rw [hw, hf]
        rcases mapError_eq (ih more) with ⟨files, hw, hf⟩ | ⟨e, f, hw, hf, same⟩
        · rw [hw, hf]
        · rw [hw, hf]
          exact congrArg Except.error same
      · dsimp only
        rw [hw, hf]
        exact congrArg (fun c => Except.error (ExtractError.source name c)) same
    · exact ih more

/-- **The kind of line breaks is irrelevant.** Sources with CRLF line breaks give what the same sources give
with LF: the same package and report, or the same error at the same place, and the same log. -/
theorem line_breaks_irrelevant (opts : ExtractOptions) (dir : String)
    {sources : List (String × String)} (h : ∀ s ∈ sources, Source.Portable s.2) :
    (extract opts dir (sources.map fun s => (s.1, crlfText s.2))).1.mapError ExtractError.unquoted
        = (extract opts dir sources).1.mapError ExtractError.unquoted ∧
      (extract opts dir (sources.map fun s => (s.1, crlfText s.2))).2
        = (extract opts dir sources).2 := by
  unfold extract
  rcases mapError_eq (readSources_crlf h) with ⟨files, hw, hf⟩ | ⟨e, f, hw, hf, same⟩
  · rw [hw, hf]
    exact ⟨rfl, rfl⟩
  · rw [hw, hf]
    exact ⟨congrArg Except.error same, rfl⟩

/-- A block comment over four lines, and a field tag. -/
def places : List (String × String) :=
  [("place.go", "package p\n\n/*\nPlace is\na point.\n*/\ntype Place struct \x7b\n\tX int \x60x\x60\n\x7d\n")]

theorem places_portable : ∀ s ∈ places, Source.Portable s.2 := by
  have plain : ∀ s ∈ places, '\r' ∉ s.2.toList ∧ ¬ ['\\', '\n'] <:+: s.2.toList := by decide +kernel
  have raw : ∀ s ∈ places, ∀ found ∈ (Lexeme.lexemesFrom .start s.2.toList).toOption,
      ∀ l ∈ found.1, l.text.head? = some '\x60' → '\n' ∉ l.text := by decide +kernel
  intro s hs
  obtain ⟨cr, backslash⟩ := plain s hs
  refine ⟨⟨cr, backslash⟩, fun ls stop hl => raw s hs (ls, stop) ?_⟩
  rw [hl]
  rfl

/-- With CRLF the doc of `Place` has the same two lines. -/
theorem line_breaks_irrelevant_places :
    (∀ s ∈ places, Source.Portable s.2) ∧
      (extract ⟨false, false⟩ "" (places.map fun s => (s.1, crlfText s.2))).1.toOption.map
        (·.package.structs.map (·.doc)) = some ["Place is\na point.\n"] := by
  refine ⟨places_portable, ?_⟩
  have found : (extract ⟨false, false⟩ "" places).1.toOption.map
      (·.package.structs.map (·.doc)) = some ["Place is\na point.\n"] := by decide +kernel
  obtain ⟨same, -⟩ := line_breaks_irrelevant ⟨false, false⟩ "" places_portable
  rcases mapError_eq same with ⟨x, hw, hf⟩ | ⟨e, f, hw, hf, -⟩
  · rw [hw, ← hf]
    exact found
  · rw [hf] at found
    cases found

end Extraction

end GoGlue
