import GoGlue.Proofs.Text.Lines
import GoGlue.PyModule.Docstring

/-!
# A doc text stays inside its docstring

What is written for a doc text is one literal in triple quotes. `readTripleQuoted` reads such a literal as Python
does, up to the first three quotes in a row of which none is escaped. The escapes are local: they do not reach
over the end of a line and leave blanks alone, so the text between the quotes is the escaped form of a text that
is laid out first (`shown`).

* `escapeDoc_append`, `lines_escapeDoc`, `trimEnd_escapeDoc`: what the escapes leave alone.
* `readTripleQuoted_escapeDoc`: an escaped text that does not end with a quote is read back, and no more.
* `writeAll_docstring`: what is written is the escaped form of the laid out text between triple quotes.
* `docstring_closed`: the doc text cannot end its docstring.
-/
namespace GoGlue

/-! ## Written lines -/

/-- A line behind its indentation; an empty one takes none. -/
def Text.indentLine (indent line : List Char) : List Char := if line = [] then [] else indent ++ line

theorem Text.indentLine_of_ne_nil {line : List Char} (h : line ≠ []) (indent : List Char) :
    indentLine indent line = indent ++ line := if_neg h

open Text

theorem Layout.writeAll_lines (w : Writer) (ls : List (List Char)) :
    (writeAll w (ls.map fun l => .line (String.ofList l))).text.toList
      = w.text.toList ++ ls.flatMap fun l => indentLine w.indent.toList l ++ ['\n'] := by
  induction ls generalizing w with
  | nil => simp [writeAll]
  | cons l ls ih =>
    have same : (w.line (String.ofList l)).indent = w.indent := by
      unfold Writer.line
      split <;> rfl
    have first : (w.line (String.ofList l)).text.toList
        = w.text.toList ++ (indentLine w.indent.toList l ++ ['\n']) := by
      unfold Writer.line indentLine
      by_cases h : l = [] <;> simp [h, Writer.raw]
    rw [List.map_cons, writeAll, write, ih, same, first, List.flatMap_cons, List.append_assoc]

theorem toList_pushn (s : String) (c : Char) (n : Nat) :
    (s.pushn c n).toList = s.toList ++ List.replicate n c := by
  induction n with
  | zero => simp [String.pushn, Nat.repeat]
  | succ n ih =>
    rw [String.pushn, Nat.repeat, ← String.pushn, String.toList_push, ih, List.replicate_succ']
    simp

/-- A line is indented by blanks. -/
theorem Writer.indent_blank (w : Writer) : ∀ c ∈ w.indent.toList, isBlank c = true := by
  intro c hc
  unfold Writer.indent at hc
  split at hc <;> rw [toList_pushn] at hc <;> obtain ⟨-, rfl⟩ : _ ∧ _ := by simpa using hc
  · decide
  · decide

namespace Py

/-! ## The escapes -/

theorem escapeDoc_cons {c : Char} {s : List Char} (hb : c ≠ '\\') (hq : c = '"' → ¬ ['"', '"'] <+: s) :
    escapeDoc (c :: s) = c :: escapeDoc s := by
  refine escapeDoc.eq_3 c s hb fun rest hc hs => hq hc ?_
  exact hs ▸ List.prefix_append ['"', '"'] rest

/-- Text is escaped piece by piece where no quote begins a piece. -/
theorem escapeDoc_append (a : List Char) {b : List Char} (h : b.head? ≠ some '"') :
    escapeDoc (a ++ b) = escapeDoc a ++ escapeDoc b := by
  fun_induction escapeDoc a with
  | case1 rest ih => simp [escapeDoc, ih]
  | case2 rest ih => simp [escapeDoc, ih]
  | case3 c rest hb hq ih =>
    rw [List.cons_append, escapeDoc_cons hb, ih, List.cons_append]
    rintro rfl
    match rest with
    | [] => exact fun hp => h (by obtain ⟨t, rfl⟩ := hp; rfl)
    | [d] =>
      rintro ⟨t, ht⟩
      simp only [List.cons_append, List.nil_append, List.cons.injEq] at ht
      exact h (by rw [← ht.2]; rfl)
    | d :: e :: rest =>
      rintro ⟨t, ht⟩
      simp only [List.cons_append, List.nil_append, List.cons.injEq] at ht
      obtain ⟨rfl, rfl, -⟩ := ht
      exact hq _ rfl rfl
  | case4 => rfl

/-- Text without backslashes and quotes is left alone. -/
theorem escapeDoc_plain {u : List Char} (h : ∀ c ∈ u, c ≠ '\\' ∧ c ≠ '"') (s : List Char) :
    escapeDoc (u ++ s) = u ++ escapeDoc s := by
  induction u with
  | nil => rfl
  | cons c u ih =>
    obtain ⟨⟨hb, hq⟩, hu⟩ := List.forall_mem_cons.1 h
    rw [List.cons_append, escapeDoc_cons hb fun hc => absurd hc hq, ih hu, List.cons_append]

theorem escapeDoc_eq_nil {s : List Char} : escapeDoc s = [] ↔ s = [] := by
  fun_cases escapeDoc s <;> simp

/-- Blanks are left alone. -/
theorem escapeDoc_blanks {u : List Char} (h : ∀ c ∈ u, isBlank c = true) (s : List Char) :
    escapeDoc (u ++ s) = u ++ escapeDoc s := by
  refine escapeDoc_plain (fun c hc => ⟨?_, ?_⟩) s <;> rintro rfl <;> exact absurd (h _ hc) (by decide)

theorem escapeDoc_indentLine {indent : List Char} (hi : ∀ c ∈ indent, isBlank c = true) (l : List Char) :
    escapeDoc (indentLine indent l) = indentLine indent (escapeDoc l) := by
  unfold indentLine
  rw [if_congr escapeDoc_eq_nil rfl rfl]
  split
  · rfl
  · exact escapeDoc_blanks hi l

theorem escapeDoc_flatMap_lf (ls : List (List Char)) (b : List Char) :
    escapeDoc (ls.flatMap (· ++ ['\n']) ++ b) = (ls.map escapeDoc).flatMap (· ++ ['\n']) ++ escapeDoc b := by
  induction ls with
  | nil => rfl
  | cons l ls ih =>
    rw [List.flatMap_cons, List.append_assoc, List.append_assoc, List.singleton_append,
      escapeDoc_append l (by simp), escapeDoc_cons (by decide) (by simp), ih]
    simp

theorem getLast?_escapeDoc (s : List Char) : (escapeDoc s).getLast? = s.getLast? := by
  fun_induction escapeDoc s with
  | case1 rest ih => simp [List.getLast?_cons, ih]
  | case2 rest ih => simp [List.getLast?_cons, ih]
  | case3 c rest hb hq ih => simp [List.getLast?_cons, ih]
  | case4 => rfl

theorem escapeDoc_blank {c : Char} (h : isBlank c = true) (l : List Char) :
    escapeDoc (l ++ [c]) = escapeDoc l ++ [c] := by
  have hb : c ≠ '\\' := by rintro rfl; exact absurd h (by decide)
  have hq : c ≠ '"' := by rintro rfl; exact absurd h (by decide)
  rw [escapeDoc_append l (by simpa using hq), escapeDoc_cons hb fun hc => absurd hc hq, escapeDoc]

theorem mem_escapeDoc {c : Char} (hb : c ≠ '\\') {s : List Char} (h : c ∈ escapeDoc s) : c ∈ s := by
  fun_induction escapeDoc s with
  | case1 rest ih => simp_all
  | case2 rest ih =>
    simp only [List.mem_cons, hb, false_or] at h ⊢
    rcases h with h | h | h | h
    · exact .inl h
    · exact .inl h
    · exact .inl h
    · exact .inr (.inr (.inr (ih h)))
  | case3 d rest _ _ ih => exact List.mem_cons.2 ((List.mem_cons.1 h).imp_right ih)
  | case4 => exact h

/-- Escapes do not reach over the end of a line. -/
theorem lines_escapeDoc (s : List Char) : lines (escapeDoc s) = (lines s).map escapeDoc := by
  have noLf : ∀ {l : List Char}, '\n' ∉ l → '\n' ∉ escapeDoc l := fun hl hm =>
    hl (mem_escapeDoc (by decide) hm)
  induction s using lines_induction with
  | nil => rfl
  | line l hl hne => rw [lines_line hl hne, lines_line (noLf hl) (mt escapeDoc_eq_nil.1 hne)]; rfl
  | more l s hl ih =>
    have cr : dropCr (escapeDoc l) = escapeDoc (dropCr l) := by
      unfold dropCr
      rw [getLast?_escapeDoc]
      split
      · next h =>
        obtain ⟨init, rfl⟩ := List.getLast?_eq_some_iff.1 h
        rw [escapeDoc_blank (by decide), List.dropLast_concat, List.dropLast_concat]
      · rfl
    rw [escapeDoc_append l (by simp), escapeDoc_cons (by decide) (by simp), lines_append_lf (noLf hl),
      lines_append_lf hl, cr, ih, List.map_cons]

/-- Escapes leave the blanks at the end alone. -/
theorem trimEnd_escapeDoc (l : List Char) : trimEnd (escapeDoc l) = escapeDoc (trimEnd l) := by
  induction l using List.reverseRecOn with
  | nil => rfl
  | append_singleton l c ih =>
    by_cases h : isBlank c = true
    · rw [escapeDoc_blank h, trimEnd_append_blank h, trimEnd_append_blank h, ih]
    · rw [trimEnd_eq_self.2 (by simpa [getLast?_escapeDoc] using h), trimEnd_eq_self.2 (by simpa using h)]

theorem padQuote_escapeDoc (s : List Char) : padQuote (escapeDoc s) = escapeDoc (padQuote s) := by
  unfold padQuote
  rw [getLast?_escapeDoc]
  split
  · rw [escapeDoc_blank (by decide)]
  · rfl

/-! ## Reading a literal -/

/-- What a literal in triple quotes says, read from behind its opening quotes, and what follows its closing
quotes: the first three quotes in a row of which none is escaped. A backslash is there to escape a backslash or
a quote. -/
def readTripleQuoted : List Char → Option (List Char × List Char)
  | '"' :: '"' :: '"' :: rest => some ([], rest)
  | '\\' :: c :: rest =>
    if c = '\\' ∨ c = '"' then (readTripleQuoted rest).map fun p => (c :: p.1, p.2) else none
  | ['\\'] => none
  | c :: rest => (readTripleQuoted rest).map fun p => (c :: p.1, p.2)
  | [] => none

theorem readTripleQuoted_cons {c : Char} {s : List Char} (hb : c ≠ '\\')
    (hq : c = '"' → ¬ ['"', '"'] <+: s) :
    readTripleQuoted (c :: s) = (readTripleQuoted s).map fun p => (c :: p.1, p.2) := by
  refine readTripleQuoted.eq_4 c s (fun rest hc hs => hq hc ?_) (fun d rest hc => absurd hc hb)
    fun hc => absurd hc hb
  exact hs ▸ List.prefix_append ['"', '"'] rest

/-- A quote that is left alone begins no row of three. -/
theorem escapeDoc_eq_quote {s t : List Char} (h : escapeDoc s = '"' :: t) :
    ∃ u, s = '"' :: u ∧ t = escapeDoc u ∧ ¬ ['"', '"'] <+: u := by
  revert h
  fun_cases escapeDoc s with
  | case1 => simp
  | case2 => simp
  | case3 c rest hb hq =>
    intro h
    obtain ⟨rfl, rfl⟩ := List.cons.inj h
    exact ⟨rest, rfl, rfl, fun ⟨t, ht⟩ => hq t rfl ht.symm⟩
  | case4 => simp

/-- An escaped text that does not end with a quote is read back up to the quotes that close it. -/
theorem readTripleQuoted_escapeDoc {s : List Char} (h : s.getLast? ≠ some '"') (after : List Char) :
    readTripleQuoted (escapeDoc s ++ '"' :: '"' :: '"' :: after) = some (s, after) := by
  have tail : ∀ {c : Char} {r : List Char}, (c :: r).getLast? ≠ some '"' → r.getLast? ≠ some '"' := by
    intro c r hc hr
    obtain ⟨init, rfl⟩ := List.getLast?_eq_some_iff.1 hr
    exact hc (by simp [List.getLast?_cons])
  fun_induction escapeDoc s with
  | case1 rest ih => simp [readTripleQuoted, ih (tail h)]
  | case2 rest ih => simp [readTripleQuoted, ih (tail (tail (tail h)))]
  | case3 c rest hb hq ih =>
    rw [List.cons_append, readTripleQuoted_cons hb, ih (tail h), Option.map_some]
    -- neither the text nor the text with the closing quotes makes three quotes of this one
    rintro rfl ⟨t, ht⟩
    match he : escapeDoc rest with
    | [] => exact h (by rw [escapeDoc_eq_nil.1 he]; rfl)
    | [d] =>
      rw [he] at ht
      obtain rfl : d = '"' := by simpa using (List.cons.inj ht).1.symm
      obtain ⟨u, rfl, hu, -⟩ := escapeDoc_eq_quote he
      exact h (by rw [escapeDoc_eq_nil.1 hu.symm]; rfl)
    | d :: e :: z =>
      rw [he] at ht
      simp only [List.cons_append, List.nil_append, List.cons.injEq] at ht
      obtain ⟨rfl, rfl, -⟩ := ht
      obtain ⟨u, rfl, hu, -⟩ := escapeDoc_eq_quote he
      obtain ⟨v, rfl, -, -⟩ := escapeDoc_eq_quote hu.symm
      exact hq v rfl rfl
  | case4 => simp [readTripleQuoted]

/-! ## What is written -/

/-- The text that is laid out between the quotes for the lines of a doc text. One line stands alone, and a blank
keeps a quote at its end apart from the closing quotes. Of several, the first stands behind the opening quotes
and the others are indented, without the blanks at their ends; the closing quotes take a line of their own. -/
def shown (indent : List Char) : List (List Char) → List Char
  | [] => []
  | [only] => padQuote only
  | first :: rest =>
    (first :: rest.map fun l => indentLine indent (trimEnd l)).flatMap (· ++ ['\n']) ++ indent

theorem padQuote_getLast? (s : List Char) : (padQuote s).getLast? ≠ some '"' := by
  unfold padQuote
  split <;> simp_all

theorem trimEnd_padQuote (s : List Char) : trimEnd (padQuote s) = trimEnd s := by
  unfold padQuote
  split
  · rw [trimEnd_append_blank (by decide)]
  · rfl

theorem shown_getLast? {indent : List Char} (hi : ∀ c ∈ indent, isBlank c = true)
    (ls : List (List Char)) : (shown indent ls).getLast? ≠ some '"' := by
  have blank : indent.getLast? ≠ some '"' := fun h =>
    absurd (hi _ (List.mem_of_getLast? h)) (by decide)
  match ls with
  | [] => simp [shown]
  | [only] => exact padQuote_getLast? only
  | first :: second :: rest =>
    rw [shown, List.getLast?_append, getLast?_flatMap_lf (by simp)]
    · cases h : indent.getLast? with
      | some c => simpa [h] using blank
      | none => simp
    · simp

/-- The blank that keeps a quote apart stands on the last line. -/
theorem lines_padQuote {s : List Char} (hne : s ≠ []) (h : s.getLast? ≠ some '\n') :
    ∃ init last, lines s = init ++ [last] ∧ lines (padQuote s) = init ++ [padQuote last] := by
  induction s using lines_induction with
  | nil => exact absurd rfl hne
  | line l hl hne =>
    refine ⟨[], l, lines_line hl hne, lines_line ?_ ?_⟩
    · unfold padQuote
      split <;> simp [hl]
    · unfold padQuote
      split <;> simp [hne]
  | more l s hl ih =>
    have inner : s ≠ [] := by
      rintro rfl
      exact h (by simp)
    have last : (l ++ '\n' :: s).getLast? = s.getLast? := by
      rw [List.getLast?_append, List.getLast?_cons]
      cases hs : s.getLast? with
      | none => exact absurd (List.getLast?_eq_none_iff.1 hs) inner
      | some c => rfl
    have pad : padQuote (l ++ '\n' :: s) = l ++ '\n' :: padQuote s := by
      unfold padQuote
      rw [last]
      split <;> simp
    obtain ⟨init, end_, hs, hp⟩ := ih inner (last ▸ h)
    refine ⟨dropCr l :: init, end_, ?_, ?_⟩
    · rw [lines_append_lf hl, hs, List.cons_append]
    · rw [pad, lines_append_lf hl, hp, List.cons_append]

/-- The quotes on either side of a docstring. -/
def quotes : List Char := ['"', '"', '"']

theorem ofList_quotes : String.ofList quotes = "\"\"\"" := rfl

/-- A layout of lines. -/
def layLines (ls : List (List Char)) : List Layout := ls.map fun l => .line (String.ofList l)

theorem docstring_line {doc : String} {only : List Char}
    (h : lines (padQuote (trim doc.toList)) = [only]) :
    docstring doc = layLines [quotes ++ escapeDoc only ++ quotes] := by
  unfold docstring
  rw [padQuote_escapeDoc, lines_escapeDoc, h]
  simp [layLines, ofList_quotes, String.append_assoc]

theorem docstring_lines {doc : String} {first : List Char} {rest : List (List Char)} (hne : rest ≠ [])
    (h : lines (padQuote (trim doc.toList)) = first :: rest) :
    docstring doc = layLines ((quotes ++ escapeDoc first)
      :: rest.map (fun l => escapeDoc (trimEnd l)) ++ [quotes]) := by
  unfold docstring
  rw [padQuote_escapeDoc, lines_escapeDoc, h]
  obtain ⟨second, more, rfl⟩ := List.exists_cons_of_ne_nil hne
  simp [layLines, ofList_quotes, trimEnd_escapeDoc]

/-- The text between the quotes is the escaped form of what is laid out. -/
theorem writeAll_docstring (w : Writer) {doc : String} (h : trim doc.toList ≠ []) :
    (Layout.writeAll w (docstring doc)).text.toList
      = w.text.toList ++ (w.indent.toList ++ quotes
        ++ escapeDoc (shown w.indent.toList (lines (trim doc.toList))) ++ quotes ++ ['\n']) := by
  have noLf : (trim doc.toList).getLast? ≠ some '\n' := fun hc =>
    absurd (isBlank_getLast?_trimEnd _ _ hc) (by decide)
  obtain ⟨init, last, plain, padded⟩ := lines_padQuote h noLf
  have blanks := w.indent_blank
  cases init with
  | nil =>
    rw [docstring_line padded, layLines, Layout.writeAll_lines, plain]
    rw [List.flatMap_singleton, indentLine_of_ne_nil (by simp [quotes]), List.nil_append, shown]
    simp
  | cons first more =>
    have tail : escapeDoc w.indent.toList = w.indent.toList := by
      simpa [escapeDoc] using escapeDoc_blanks blanks []
    rw [List.cons_append] at plain padded
    rw [docstring_lines (by simp) padded, layLines, Layout.writeAll_lines, plain,
      shown.eq_3 _ _ _ (by simp), escapeDoc_flatMap_lf, tail]
    have opened := indentLine_of_ne_nil (by simp [quotes] : quotes ++ escapeDoc first ≠ []) w.indent.toList
    have closed := indentLine_of_ne_nil (by simp [quotes] : quotes ≠ []) w.indent.toList
    simp [opened, closed, Function.comp_def, List.flatMap_map, escapeDoc_indentLine blanks, trimEnd_padQuote]

/-- **The doc text cannot end its docstring.** What is written for a doc text that is not blank is one literal:
behind three quotes stands a body that is read up to the three quotes behind it, whatever follows them, and what
is read are the lines of the doc text as they were laid out. -/
theorem docstring_closed (w : Writer) (doc : String) (h : ∃ c ∈ doc.toList, isBlank c = false) :
    ∃ body, (Layout.writeAll w (docstring doc)).text.toList
        = w.text.toList ++ (w.indent.toList ++ quotes ++ body ++ quotes ++ ['\n']) ∧
      ∀ after, readTripleQuoted (body ++ quotes ++ after)
        = some (shown w.indent.toList (lines (trim doc.toList)), after) := by
  refine ⟨_, writeAll_docstring w (trim_ne_nil h), fun after => ?_⟩
  rw [List.append_assoc]
  exact readTripleQuoted_escapeDoc (shown_getLast? w.indent_blank _) after

/-- Quotes in a row, a backslash at the end of a line and a quote at the end of the text. -/
def quotedDoc : String := "Quote writes \"\"\"\"s\"\"\" \\\n\n\tor \"s\"\n"

theorem docstring_closed_quoted :
    (∃ c ∈ quotedDoc.toList, isBlank c = false) ∧
      ∃ body, (Layout.writeAll ⟨.spaces 4, 1, [], ""⟩ (docstring quotedDoc)).text.toList
          = "    ".toList ++ quotes ++ body ++ quotes ++ ['\n'] ∧
        readTripleQuoted (body ++ quotes ++ ['\n'])
          = some ("Quote writes \"\"\"\"s\"\"\" \\\n\n    \tor \"s\"\n    ".toList, ['\n']) := by
  have text : ∃ c ∈ quotedDoc.toList, isBlank c = false := ⟨'Q', by decide, by decide⟩
  obtain ⟨body, written, reads⟩ := docstring_closed ⟨.spaces 4, 1, [], ""⟩ quotedDoc text
  have laidOut : shown "    ".toList (lines (trim quotedDoc.toList))
      = "Quote writes \"\"\"\"s\"\"\" \\\n\n    \tor \"s\"\n    ".toList := by decide +kernel
  exact ⟨text, body, written, laidOut ▸ reads ['\n']⟩

end Py

end GoGlue
