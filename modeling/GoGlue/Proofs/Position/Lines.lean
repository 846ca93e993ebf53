import GoGlue.Lexeme
import Mathlib.Data.List.Basic

/-!
# Positions and the lines of a source

A position is counted along the text, character by character. Here the text is cut into its lines first, at LF, CR
and CRLF, and a position is looked up in them: the line by its number, and in it the character by its column. The two
agree as long as the text up to the position does not end between a CR and its LF.

* `sourceLines_flatten`, `sourceLines_ended`: the lines of a source are its text, and each has one line break at its
  end, but for the last one.
* `after_line`: going along a text adds one line for each of its line breaks.
* `standsAt_after`: where a text ends, what follows it stands.
-/
namespace GoGlue

namespace Text

open Lexeme

/-- The lines of a source, each with the line break at its end; the last one ends with the source. -/
def sourceLines : List Char → List (List Char)
  | [] => [[]]
  | '\r' :: '\n' :: rest => ['\r', '\n'] :: sourceLines rest
  | c :: rest =>
    if endsLine c then [c] :: sourceLines rest
    else
      match sourceLines rest with
      | line :: lines => (c :: line) :: lines
      | [] => [[c]]

theorem sourceLines_ne_nil (s : List Char) : sourceLines s ≠ [] := by
  fun_cases sourceLines s <;> simp_all

/-- Only the empty source begins with an empty line. -/
theorem eq_nil_of_sourceLines {s : List Char} {lines : List (List Char)} (h : sourceLines s = [] :: lines) :
    s = [] := by
  revert h
  fun_cases sourceLines s <;> simp_all

/-- What does not end the line makes the first line longer. -/
theorem sourceLines_cons {c : Char} (h : endsLine c = false) (s : List Char) :
    ∃ line lines, sourceLines s = line :: lines ∧ sourceLines (c :: s) = (c :: line) :: lines := by
  obtain ⟨line, lines, hs⟩ := List.exists_cons_of_ne_nil (sourceLines_ne_nil s)
  refine ⟨line, lines, hs, ?_⟩
  rw [sourceLines.eq_3 c s (by rintro rest rfl -; simp [endsLine] at h), h, hs]
  rfl

/-- The lines of a source are its text. -/
theorem sourceLines_flatten (s : List Char) : (sourceLines s).flatten = s := by
  fun_induction sourceLines s <;> simp_all

/-- A line is what is written on it, and one of the three line breaks. -/
def Ended (line : List Char) : Prop :=
  ∃ written, (∀ c ∈ written, endsLine c = false) ∧
    (line = written ++ ['\n'] ∨ line = written ++ ['\r'] ∨ line = written ++ ['\r', '\n'])

/-- **Each line has one line break, at its end, but for the last one.** -/
theorem sourceLines_ended (s : List Char) :
    ∃ lines last, sourceLines s = lines ++ [last] ∧ (∀ line ∈ lines, Ended line) ∧
      ∀ c ∈ last, endsLine c = false := by
  fun_induction sourceLines s with
  | case1 => exact ⟨[], [], rfl, by simp, by simp⟩
  | case2 rest ih =>
    obtain ⟨lines, last, hs, ended, plain⟩ := ih
    exact ⟨['\r', '\n'] :: lines, last, by rw [hs]; rfl,
      List.forall_mem_cons.2 ⟨⟨[], by simp, by simp⟩, ended⟩, plain⟩
  | case3 c rest _ hc ih =>
    obtain ⟨lines, last, hs, ended, plain⟩ := ih
    refine ⟨[c] :: lines, last, by rw [hs]; rfl, List.forall_mem_cons.2 ⟨⟨[], by simp, ?_⟩, ended⟩, plain⟩
    simpa [endsLine] using hc
  | case4 c rest _ hc line lines hs ih =>
    obtain ⟨front, last, split, ended, plain⟩ := ih
    have hc : endsLine c = false := by simpa using hc
    cases front with
    | nil =>
      obtain ⟨rfl, rfl⟩ := List.cons.inj (hs.symm.trans split)
      exact ⟨[], c :: line, rfl, by simp, List.forall_mem_cons.2 ⟨hc, plain⟩⟩
    | cons first front =>
      obtain ⟨rfl, rfl⟩ := List.cons.inj (hs.symm.trans split)
      obtain ⟨⟨written, hw, breaks⟩, ended⟩ := List.forall_mem_cons.1 ended
      refine ⟨(c :: line) :: front, last, rfl, List.forall_mem_cons.2 ⟨⟨c :: written, ?_, ?_⟩, ended⟩, plain⟩
      · exact List.forall_mem_cons.2 ⟨hc, hw⟩
      · exact breaks.imp (congrArg (c :: ·)) (Or.imp (congrArg (c :: ·)) (congrArg (c :: ·)))
  | case5 c rest _ _ hs => exact absurd hs (sourceLines_ne_nil rest)

end Text

namespace Position

open Text

/-- In the source, a text begins at the given line and column: it is the text of the line from that column on,
and of the lines behind it. -/
def StandsAt (source text : List Char) (p : Position) : Prop :=
  ∃ lines front back behind, sourceLines source = lines ++ (front ++ back) :: behind ∧
    p = ⟨lines.length + 1, front.length + 1⟩ ∧ back ≠ [] ∧ text <+: back ++ behind.flatten

/-- Two texts one behind the other, with no CRLF cut in two. -/
def Uncut (s t : List Char) : Prop := s.getLast? = some '\r' → t.head? ≠ some '\n'

/-- Going along a text adds one line for each of its line breaks. -/
theorem after_line (p : Position) (s : List Char) :
    (p.after s).line + 1 = p.line + (sourceLines s).length := by
  fun_induction after p s with
  | case1 p => rfl
  | case2 p rest ih =>
    rw [sourceLines, List.length_cons]
    simp at ih
    omega
  | case3 p c rest hc hb ih =>
    rw [sourceLines.eq_3 c rest hc, if_pos (by simpa [Lexeme.endsLine] using hb), List.length_cons]
    simp at ih
    omega
  | case4 p c rest _ hb ih =>
    obtain ⟨line, lines, hs, hcs⟩ := sourceLines_cons (c := c) (by simpa [Lexeme.endsLine] using hb) rest
    rw [hcs, ih, hs]
    rfl

/-- Behind a text there are its lines, and the part of the line on which it ends. -/
theorem after_lines (p : Position) {s t : List Char} (uncut : Uncut s t) :
    ∃ lines front back behind, sourceLines (s ++ t) = lines ++ (front ++ back) :: behind ∧
      back ++ behind.flatten = t ∧ (back = [] → t = []) ∧
      p.after s = ⟨p.line + lines.length, (if lines = [] then p.column else 1) + front.length⟩ := by
  fun_induction after p s with
  | case1 p =>
    obtain ⟨line, lines, hs⟩ := List.exists_cons_of_ne_nil (sourceLines_ne_nil t)
    have whole := sourceLines_flatten t
    rw [hs] at whole
    exact ⟨[], [], line, lines, hs, whole, fun h => eq_nil_of_sourceLines (h ▸ hs), rfl⟩
  | case2 p rest ih =>
    obtain ⟨lines, front, back, behind, hs, ht, hb, hp⟩ := ih fun h => uncut (by cases rest <;> simp_all)
    refine ⟨['\r', '\n'] :: lines, front, back, behind, ?_, ht, hb, ?_⟩
    · rw [List.cons_append, List.cons_append, sourceLines, hs]
      rfl
    · rw [hp]
      simp
      omega
  | case3 p c rest hc hb ih =>
    obtain ⟨lines, front, back, behind, hs, ht, hb', hp⟩ := ih fun h => uncut (by cases rest <;> simp_all)
    -- A CR at the end of the text has no LF behind it.
    have alone : ∀ u, c = '\r' → rest ++ t = '\n' :: u → False := by
      rintro u rfl hu
      cases rest with
      | nil => exact uncut rfl (by rw [List.nil_append] at hu; rw [hu]; rfl)
      | cons d rest => exact hc rest rfl (by rw [(List.cons.inj hu).1])
    refine ⟨[c] :: lines, front, back, behind, ?_, ht, hb', ?_⟩
    · rw [List.cons_append, sourceLines.eq_3 _ _ alone, if_pos (by simpa [Lexeme.endsLine] using hb), hs]
      rfl
    · rw [hp]
      simp
      omega
  | case4 p c rest _ hb ih =>
    obtain ⟨lines, front, back, behind, hs, ht, hb', hp⟩ := ih fun h => uncut (by cases rest <;> simp_all)
    have plain : Lexeme.endsLine c = false := by simpa [Lexeme.endsLine] using hb
    obtain ⟨line, more, hr, hcr⟩ := sourceLines_cons plain (rest ++ t)
    rw [hr] at hs
    cases lines with
    | nil =>
      obtain ⟨rfl, rfl⟩ := List.cons.inj hs
      refine ⟨[], c :: front, back, more, hcr, ht, hb', ?_⟩
      rw [hp]
      simp
      omega
    | cons first lines =>
      obtain ⟨rfl, rfl⟩ := List.cons.inj hs
      refine ⟨(c :: line) :: lines, front, back, behind, hcr, ht, hb', ?_⟩
      rw [hp]
      simp

/-- **Where a text ends, what follows it stands.** -/
theorem standsAt_after {s t rest : List Char} (uncut : Uncut s (t ++ rest)) (ht : t ≠ []) :
    StandsAt (s ++ (t ++ rest)) t (start.after s) := by
  obtain ⟨lines, front, back, behind, hs, follows, hb, hp⟩ := after_lines start uncut
  refine ⟨lines, front, back, behind, hs, ?_, fun h => ht (List.append_eq_nil_iff.1 (hb h)).1, ?_⟩
  · rw [hp]
    simp [start, Nat.add_comm]
  · rw [follows]
    exact List.prefix_append t rest

end Position

end GoGlue
