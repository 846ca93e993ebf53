import GoGlue.Proofs.Source.Leads
import GoGlue.Proofs.Text.Lines
import Mathlib.Data.List.TakeDrop

/-!
# The normal form of doc texts

A doc text is in normal form: no line ends with a blank, no blank line stands at either end, and no two stand in
a row. Lines in normal form are left alone, so a doc text that is written down again as line comments documents
the same.

* `isDirective_iff`: the forms of directives.
* `normalize_normal`, `normalize_eq_self`: what is normalized is in normal form, which is left alone.
* `normalize_filter`: only blank lines are left out.
* `map_docLines`: comments that are addressed to tools contribute nothing.
* `docText_lineComments`: lines in normal form are the doc text of their comments.
* `docText_settled`: a doc text is in normal form, holds no line of a directive, and can be written down again.
* `read_oneLine`: what this asks of comments holds in every source.
-/
namespace GoGlue

namespace Comment

open Text

/-! ## Normal form -/

/-- There is nothing but blanks on the line. -/
def BlankLine (l : List Char) : Prop := ∀ c ∈ l, isBlank c = true

/-- Lines in normal form. -/
structure Normal (ls : List (List Char)) : Prop where
  ends : ∀ l ∈ ls, ∀ c ∈ l.getLast?, isBlank c = false
  first : ∀ l ∈ ls.head?, ¬ BlankLine l
  last : ∀ l ∈ ls.getLast?, ¬ BlankLine l
  apart : ls.IsChain fun a b => ¬ (BlankLine a ∧ BlankLine b)

/-- A blank line without a blank at its end is empty. -/
theorem blankLine_iff {l : List Char} (h : ∀ c ∈ l.getLast?, isBlank c = false) : BlankLine l ↔ l = [] := by
  constructor
  · intro hb
    cases hl : l.getLast? with
    | none => exact List.getLast?_eq_none_iff.1 hl
    | some c =>
      have := hb c (List.mem_of_getLast? hl)
      rw [h c hl] at this
      cases this
  · rintro rfl
    simp [BlankLine]

theorem collapse_sublist (blank : Bool) (ls : List (List Char)) : (collapse blank ls).Sublist ls := by
  fun_induction collapse blank ls with
  | case1 => exact .slnil
  | case2 rest ih => exact ih.cons []
  | case3 blank rest _ ih => exact ih.cons_cons []
  | case4 blank line rest _ ih => exact ih.cons_cons line

/-- No two empty lines are left in a row. -/
theorem collapse_isChain (blank : Bool) (ls : List (List Char)) :
    (collapse blank ls).IsChain fun a b => ¬ (a = [] ∧ b = []) := by
  fun_induction collapse blank ls with
  | case1 => exact .nil
  | case2 rest ih => exact ih
  | case3 blank rest _ ih =>
    refine List.isChain_cons.2 ⟨fun b hb => ?_, ih⟩
    rintro ⟨-, rfl⟩
    exact collapse_head rest hb
  | case4 blank line rest hne ih =>
    exact List.isChain_cons.2 ⟨fun b _ h => hne h.1, ih⟩

theorem collapse_eq_self {blank : Bool} {ls : List (List Char)}
    (h : ls.IsChain fun a b => ¬ (a = [] ∧ b = [])) (hb : blank = true → ls.head? ≠ some []) :
    collapse blank ls = ls := by
  fun_induction collapse blank ls with
  | case1 => rfl
  | case2 rest ih => exact absurd rfl (hb rfl)
  | case3 blank rest _ ih =>
    obtain ⟨head, rest_⟩ := List.isChain_cons.1 h
    rw [ih rest_ fun _ hr => head [] hr ⟨rfl, rfl⟩]
  | case4 blank line rest _ ih => rw [ih (List.isChain_cons.1 h).2 (by simp)]

theorem normalize_eq (ls : List (List Char)) :
    normalize ls = (collapse true (ls.map trimEnd)).rdropWhile List.isEmpty := rfl

theorem normalize_sublist (ls : List (List Char)) : (normalize ls).Sublist (ls.map trimEnd) :=
  (List.rdropWhile_prefix _ _).sublist.trans (collapse_sublist true _)

/-- Only blank lines are left out. -/
theorem collapse_filter (blank : Bool) (ls : List (List Char)) :
    (collapse blank ls).filter (· ≠ []) = ls.filter (· ≠ []) := by
  fun_induction collapse blank ls with
  | case1 => rfl
  | case2 rest ih => simpa using ih
  | case3 blank rest _ ih => simpa using ih
  | case4 blank line rest hne ih =>
    have keep : line ≠ [] := hne
    rw [List.filter_cons_of_pos (by simpa using keep), List.filter_cons_of_pos (by simpa using keep), ih]

theorem normalize_filter (ls : List (List Char)) :
    (normalize ls).filter (· ≠ []) = (ls.map trimEnd).filter (· ≠ []) := by
  rw [← collapse_filter true (ls.map trimEnd), normalize_eq]
  induction collapse true (ls.map trimEnd) using List.reverseRecOn with
  | nil => rfl
  | append_singleton init l ih =>
    by_cases hl : l = []
    · rw [List.rdropWhile_concat_pos _ _ _ (by simp [hl]), ih]
      simp [hl]
    · rw [List.rdropWhile_concat_neg _ _ _ (by simp [hl])]

/-- **What is normalized is in normal form.** -/
theorem normalize_normal (ls : List (List Char)) : Normal (normalize ls) := by
  have ends : ∀ l ∈ normalize ls, ∀ c ∈ l.getLast?, isBlank c = false := by
    intro l hl
    obtain ⟨m, -, rfl⟩ := List.mem_map.1 ((normalize_sublist ls).mem hl)
    exact isBlank_getLast?_trimEnd m
  have front : normalize ls <+: collapse true (ls.map trimEnd) := List.rdropWhile_prefix _ _
  refine ⟨ends, fun l hl => ?_, fun l hl => ?_, ?_⟩
  · rw [blankLine_iff (ends l (List.mem_of_head? hl))]
    rintro rfl
    obtain ⟨rest, hr⟩ := List.head?_eq_some_iff.1 hl
    obtain ⟨t, ht⟩ := front
    exact collapse_head (ls.map trimEnd) (by rw [← ht, hr]; rfl)
  · rw [blankLine_iff (ends l (List.mem_of_getLast? hl))]
    rintro rfl
    obtain ⟨init, hi⟩ := List.getLast?_eq_some_iff.1 hl
    have := List.rdropWhile_last_not List.isEmpty (collapse true (ls.map trimEnd))
      (by rw [← normalize_eq, hi]; simp)
    simp [← normalize_eq, hi] at this
  · have apart := List.IsChain.prefix (collapse_isChain true (ls.map trimEnd)) front
    refine apart.imp_of_mem_imp fun a b ha hb h => ?_
    rwa [blankLine_iff (ends a ha), blankLine_iff (ends b hb)]

/-- **Lines in normal form are left alone.** -/
theorem normalize_eq_self {ls : List (List Char)} (h : Normal ls) : normalize ls = ls := by
  have trimmed : ls.map trimEnd = ls := by
    conv_rhs => rw [← List.map_id ls]
    exact List.map_congr_left fun l hl => trimEnd_eq_self.2 (h.ends l hl)
  have apart : ls.IsChain fun a b => ¬ (a = [] ∧ b = []) :=
    h.apart.imp_of_mem_imp fun a b ha hb hab => by
      rwa [← blankLine_iff (h.ends a ha), ← blankLine_iff (h.ends b hb)]
  rw [normalize_eq, trimmed, collapse_eq_self apart fun _ hl => h.first [] hl (by simp [BlankLine])]
  refine List.rdropWhile_eq_self_iff.2 fun hne he => h.last _ (List.getLast?_eq_some_getLast hne) ?_
  rw [List.isEmpty_iff.1 he]
  simp [BlankLine]

/-! ## Directives -/

/-- What stands behind the mark of a line comment that is addressed to a tool. -/
inductive Directive : List Char → Prop
  | line (rest : List Char) : Directive ("line ".toList ++ rest)
  | foreign (rest : List Char) : Directive ("extern ".toList ++ rest)
  | exported (rest : List Char) : Directive ("export ".toList ++ rest)
  | tool {tool : List Char} {first : Char} (rest : List Char) (hne : tool ≠ [])
      (htool : ∀ c ∈ tool, isDirectiveChar c = true) (hfirst : isDirectiveChar first = true) :
      Directive (tool ++ ':' :: first :: rest)

theorem isDirectiveChar_colon : isDirectiveChar ':' = false := rfl

/-- A tool and a directive, with a colon between them. -/
theorem toolDirective_iff (body : List Char) :
    (match body.span (· != ':') with
      | (tool, ':' :: first :: _) => !tool.isEmpty && tool.all isDirectiveChar && isDirectiveChar first
      | _ => false) = true ↔
    ∃ tool first rest, body = tool ++ ':' :: first :: rest ∧ tool ≠ [] ∧
      (∀ c ∈ tool, isDirectiveChar c = true) ∧ isDirectiveChar first = true := by
  rw [List.span_eq_takeWhile_dropWhile]
  constructor
  · intro h
    split at h
    · next tool first rest hs =>
      obtain ⟨ht, hr⟩ := Prod.mk.inj hs
      have whole := List.takeWhile_append_dropWhile (p := (· != ':')) (l := body)
      rw [ht, hr] at whole
      simp only [Bool.and_eq_true, Bool.not_eq_true', List.isEmpty_eq_false_iff, List.all_eq_true] at h
      exact ⟨tool, first, rest, whole.symm, h.1.1, h.1.2, h.2⟩
    · cases h
  · rintro ⟨tool, first, rest, rfl, hne, htool, hfirst⟩
    have inside : ∀ c ∈ tool, (c != ':') = true := by
      intro c hc
      simp only [bne_iff_ne]
      rintro rfl
      exact absurd (htool _ hc) (by simp [isDirectiveChar_colon])
    rw [List.takeWhile_append_of_pos inside, List.dropWhile_append_of_pos inside]
    simpa [hne, hfirst] using htool

/-- **The forms of directives.** -/
theorem isDirective_iff (body : List Char) : isDirective body = true ↔ Directive body := by
  unfold isDirective
  rw [Bool.or_eq_true, Bool.or_eq_true, Bool.or_eq_true]
  refine (or_congr_right (toolDirective_iff body)).trans ⟨?_, ?_⟩
  · rintro (((h | h) | h) | ⟨tool, first, rest, rfl, hne, htool, hfirst⟩)
    · obtain ⟨rest, rfl⟩ := List.isPrefixOf_iff_prefix.1 h
      exact .line rest
    · obtain ⟨rest, rfl⟩ := List.isPrefixOf_iff_prefix.1 h
      exact .foreign rest
    · obtain ⟨rest, rfl⟩ := List.isPrefixOf_iff_prefix.1 h
      exact .exported rest
    · exact .tool rest hne htool hfirst
  · rintro (rest | rest | rest | ⟨rest, hne, htool, hfirst⟩)
    · exact .inl (.inl (.inl (List.isPrefixOf_iff_prefix.2 (List.prefix_append ..))))
    · exact .inl (.inl (.inr (List.isPrefixOf_iff_prefix.2 (List.prefix_append ..))))
    · exact .inl (.inr (List.isPrefixOf_iff_prefix.2 (List.prefix_append ..)))
    · exact .inr ⟨_, _, rest, rfl, hne, htool, hfirst⟩

/-- A blank behind the mark makes a comment no directive. -/
theorem not_directive_blank (l : List Char) : ¬ Directive (' ' :: l) := by
  rw [← isDirective_iff]
  refine fun h => absurd h ?_
  rw [isDirective, Bool.or_eq_true, Bool.or_eq_true, Bool.or_eq_true]
  rintro (((h | h) | h) | h)
  · cases h
  · cases h
  · cases h
  · obtain ⟨tool, first, rest, htext, hne, htool, -⟩ := (toolDirective_iff _).1 h
    obtain ⟨d, tool, rfl⟩ := List.exists_cons_of_ne_nil hne
    obtain ⟨rfl, -⟩ := List.cons.inj htext
    exact absurd (htool ' ' (by simp)) (by decide)

/-- A comment that is addressed to a tool. -/
def Addressed (c : Comment) : Prop := ∃ body, c.text.toList = '/' :: '/' :: body ∧ Directive body

theorem addressed_iff (c : Comment) :
    c.Addressed ↔ c.text.toList.take 2 = ['/', '/'] ∧ isDirective (c.text.toList.drop 2) = true := by
  constructor
  · rintro ⟨body, h, hd⟩
    rw [h]
    exact ⟨rfl, (isDirective_iff body).2 hd⟩
  · rintro ⟨marks, hd⟩
    refine ⟨c.text.toList.drop 2, ?_, (isDirective_iff _).1 hd⟩
    conv_lhs => rw [← List.take_append_drop 2 c.text.toList, marks]
    rfl

instance : DecidablePred Addressed := fun c => decidable_of_iff _ (addressed_iff c).symm

/-- The lines of a comment without its marks. -/
def written (c : Comment) : List (List Char) :=
  match c.text.toList with
  | '/' :: '/' :: ' ' :: rest => [rest]
  | '/' :: '/' :: body => [body]
  | text => lines (blockBody text)

/-- The lines a comment contributes: none if it is addressed to a tool. -/
theorem docLines_cases (c : Comment) :
    c.Addressed ∧ docLines c = [] ∨ ¬ c.Addressed ∧ docLines c = c.written := by
  unfold docLines
  split
  · next body h =>
    by_cases hd : isDirective body = true
    · exact .inl ⟨⟨body, h, (isDirective_iff body).1 hd⟩, if_pos hd⟩
    · refine .inr ⟨?_, ?_⟩
      · rintro ⟨b, hb, hdb⟩
        obtain rfl : body = b := by simpa using h.symm.trans hb
        exact hd ((isDirective_iff body).2 hdb)
      · rw [if_neg hd, written, h]
        split <;> simp_all
  · next text h =>
    refine .inr ⟨?_, ?_⟩
    · rintro ⟨b, hb, -⟩
      exact h b hb
    · unfold written
      split <;> simp_all

/-- The lines that comments contribute, without blanks at their ends. -/
def toldLines (cs : List Comment) : List (List Char) :=
  ((cs.filter (¬ Addressed ·)).flatMap written).map trimEnd

/-- Comments that are addressed to tools are left out. -/
theorem map_docLines (cs : List Comment) : (cs.flatMap docLines).map trimEnd = toldLines cs := by
  unfold toldLines
  congr 1
  induction cs with
  | nil => rfl
  | cons c cs ih =>
    rcases docLines_cases c with ⟨hc, hd⟩ | ⟨hc, hd⟩
    · rw [List.flatMap_cons, hd, ih, List.filter_cons_of_neg (by simpa using hc), List.nil_append]
    · rw [List.flatMap_cons, hd, ih, List.filter_cons_of_pos (by simpa using hc), List.flatMap_cons]

/-- A line comment goes no further than its line. -/
def OneLine (c : Comment) : Prop := ['/', '/'] <+: c.text.toList → '\n' ∉ c.text.toList

theorem lf_notMem_docLines {c : Comment} (h : c.OneLine) : ∀ l ∈ docLines c, '\n' ∉ l := by
  rcases docLines_cases c with ⟨-, hd⟩ | ⟨-, hd⟩
  · simp [hd]
  · rw [hd, written]
    split
    · next rest hc =>
      have := h (by rw [hc]; exact List.prefix_append ['/', '/'] _)
      rw [hc] at this
      simp_all
    · next body _ hc =>
      have := h (by rw [hc]; exact List.prefix_append ['/', '/'] _)
      rw [hc] at this
      simp_all
    · exact lf_notMem_lines _

/-! ## Doc texts as comments -/

/-- Lines as line comments, one below the other from the given line on. -/
def lineComments (start : Nat) : List (List Char) → List Comment
  | [] => []
  | l :: rest => ⟨String.ofList ('/' :: '/' :: if l = [] then [] else ' ' :: l), start, start, false⟩
      :: lineComments (start + 1) rest

theorem lineComments_grouped (start : Nat) (ls : List (List Char)) :
    Grouped (start + ls.length) (lineComments start ls) := by
  induction ls generalizing start with
  | nil => exact ⟨by simp [lineComments], .nil, by simp [lineComments]⟩
  | cons l ls ih =>
    obtain ⟨plain, close, above⟩ := ih (start + 1)
    refine ⟨List.forall_mem_cons.2 ⟨rfl, plain⟩, List.isChain_cons.2 ⟨fun c hc => ?_, close⟩, ?_⟩
    · cases ls with
      | nil => cases hc
      | cons m ls =>
        obtain rfl := Option.some.inj hc
        exact Nat.le_refl _
    · cases ls with
      | nil => simp [lineComments]
      | cons m ls =>
        rw [lineComments, lineComments, List.getLast?_cons_cons, List.length_cons]
        rw [lineComments] at above
        intro c hc
        have := above c hc
        omega

theorem docLines_lineComments (start : Nat) (ls : List (List Char)) :
    (lineComments start ls).flatMap docLines = ls := by
  induction ls generalizing start with
  | nil => rfl
  | cons l ls ih =>
    rw [lineComments, List.flatMap_cons, ih]
    unfold docLines
    by_cases hl : l = []
    · simp [hl, isDirective]
    · have told : isDirective (' ' :: l) = false := by
        simpa using mt (isDirective_iff _).1 (not_directive_blank l)
      simp [hl, told]

/-- Lines in normal form are the doc text of their comments. -/
theorem docText_lineComments {ls : List (List Char)} (h : Normal ls) (start : Nat) :
    docText (lineComments start ls) (start + ls.length) = joinLines ls := by
  rw [docText, docGroup_eq_self (lineComments_grouped start ls), docLines_lineComments, normalize_eq_self h]

/-! ## The doc text -/

theorem joinLines_toList (ls : List (List Char)) : (joinLines ls).toList = ls.flatMap (· ++ ['\n']) := by
  simp [joinLines]

/-- A text of lines in normal form ends with one LF. -/
theorem Normal.ends_once {ls : List (List Char)} (h : Normal ls) :
    joinLines ls = "" ∨ ∃ text c, (joinLines ls).toList = text ++ [c, '\n'] ∧ c ≠ '\n' := by
  rcases List.eq_nil_or_concat' ls with rfl | ⟨init, l, rfl⟩
  · exact .inl rfl
  · have hl : l ≠ [] := by
      rintro rfl
      exact h.last [] (by simp) (by simp [BlankLine])
    obtain ⟨text, c, rfl⟩ := (List.eq_nil_or_concat' l).resolve_left hl
    refine .inr ⟨init.flatMap (· ++ ['\n']) ++ text, c, by simp [joinLines_toList], ?_⟩
    rintro rfl
    exact absurd (h.ends (text ++ ['\n']) (by simp) '\n' (by simp)) (by decide)

/-- **A doc text is in normal form and stays as it is.** It is empty, or ends with one LF. It is written in lines in
normal form, which are the lines of those comments of the group that are not addressed to a tool, without the blanks
at their ends; only blank lines are left out. Written down again as line comments above some line, the doc text is
the doc text there. Those lines are what the text splits into, for comments of any source: there no line comment
goes beyond its line. -/
theorem docText_settled (comments : List Comment) (line : Nat) :
    ∃ ls, docText comments line = joinLines ls ∧ Normal ls ∧
      (docText comments line = "" ∨
        ∃ text c, (docText comments line).toList = text ++ [c, '\n'] ∧ c ≠ '\n') ∧
      ls.Sublist (toldLines (docGroup comments line)) ∧
      ls.filter (· ≠ []) = (toldLines (docGroup comments line)).filter (· ≠ []) ∧
      (∀ start, docText (lineComments start ls) (start + ls.length) = docText comments line) ∧
      ((∀ c ∈ docGroup comments line, c.OneLine) → lines (docText comments line).toList = ls) := by
  have normal := normalize_normal ((docGroup comments line).flatMap docLines)
  have within := normalize_sublist ((docGroup comments line).flatMap docLines)
  have kept := normalize_filter ((docGroup comments line).flatMap docLines)
  have text : docText comments line = joinLines (normalize ((docGroup comments line).flatMap docLines)) := rfl
  generalize normalize ((docGroup comments line).flatMap docLines) = ls at normal within kept text
  refine ⟨ls, text, normal, text ▸ normal.ends_once, ?_, ?_, fun start => ?_, fun oneLine => ?_⟩
  · exact map_docLines (docGroup comments line) ▸ within
  · exact map_docLines (docGroup comments line) ▸ kept
  · rw [text, docText_lineComments normal]
  · rw [text, joinLines_toList]
    refine lines_flatMap fun l hl => ⟨?_, fun hr => absurd (normal.ends l hl _ hr) (by decide)⟩
    obtain ⟨m, hm, rfl⟩ := List.mem_map.1 (within.mem hl)
    obtain ⟨c, hc, hmc⟩ := List.mem_flatMap.1 hm
    exact fun hn => lf_notMem_docLines (oneLine c hc) m hmc ((trimEnd_isPrefix m).subset hn)

example : docText [⟨"// Area  ", 1, 1, false⟩, ⟨"//go:noinline", 2, 2, false⟩, ⟨"/*\n\n\n of it. */", 3, 6, false⟩] 7 =
    "Area\n\n of it.\n" := by decide

end Comment

namespace Source

open Lexeme Comment

/-- A comment in the source goes no further than its line, unless it is a block comment. -/
theorem SetAside.oneLine {ls : List Lexeme} {l : Lexeme} {c : Comment} (h : SetAside ls l c) (hs : l.Spelled)
    (hl : l.IsComment) : c.OneLine := by
  rw [OneLine, h.text, String.toList_ofList]
  intro marks lf
  rcases hl with hl | hl
  · rw [Spelled, hl] at hs
    exact absurd (hs.2 _ lf) (by decide)
  · rw [Spelled, hl] at hs
    obtain ⟨body, text, -⟩ := hs
    obtain ⟨rest, hr⟩ := marks
    rw [text] at hr
    simp at hr

/-- **In a source no line comment goes beyond its line**, so its doc texts split into lines in normal form. -/
theorem read_oneLine {text : String} {s : Source} (h : read text = .ok s) : ∀ c ∈ s.comments, c.OneLine := by
  obtain ⟨ls, cut, -, comments⟩ := read_eq h
  have tiles := lexemesFrom_tiles cut
  intro c hc
  obtain ⟨front, back, split⟩ := List.append_of_mem hc
  obtain ⟨group, inside, aside⟩ := exists_stretch (comments ▸ commentsFrom_setAside tiles)
    (⟨front, back, by simp [split]⟩ : [c] <:+: s.comments)
  obtain ⟨l, rest, hl, -, rfl⟩ := List.forall₂_cons_right_iff.1 aside
  have mem : l ∈ ls ∧ l.IsComment := by simpa using inside.subset (List.mem_cons_self ..)
  exact hl.oneLine (tiles.spelled l mem.1) mem.2

end Source

end GoGlue
