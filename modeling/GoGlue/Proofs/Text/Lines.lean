import GoGlue.Text.Blank
import GoGlue.Text.Lines
import Mathlib.Data.List.DropRight

/-!
# Lines of a text and blanks at their ends

A text is empty, or one line without a break, or a line, its LF and a text. So what holds of lines is proved by
`lines_induction`, with one equation for each of the three forms.

* `lines_nil`, `lines_line`, `lines_append_lf`: the lines of the three forms.
* `lf_notMem_lines`: no line holds an LF.
* `lines_flatMap`: lines that are written down with an LF after each are read back.
* `trimEnd_eq_self`: a text without a blank at its end is left as it is.
-/
namespace GoGlue.Text

/-! ## Lines -/

theorem linesFrom_append {l : List Char} (h : '\n' ∉ l) (acc s : List Char) :
    linesFrom acc (l ++ s) = linesFrom (acc ++ l) s := by
  induction l generalizing acc with
  | nil => simp
  | cons c l ih =>
    obtain ⟨hc, hl⟩ := not_or.1 (mt List.mem_cons.2 h)
    rw [List.cons_append, linesFrom.eq_3 acc c (l ++ s) (Ne.symm hc), ih hl]
    simp

/-- A text without a line break is one line. -/
theorem lines_line {l : List Char} (h : '\n' ∉ l) (hne : l ≠ []) : lines l = [l] := by
  have whole := linesFrom_append h [] []
  rw [List.append_nil, List.nil_append] at whole
  rw [lines, whole, linesFrom, if_neg (by simpa using hne)]

theorem lines_append_lf {l : List Char} (h : '\n' ∉ l) (s : List Char) :
    lines (l ++ '\n' :: s) = dropCr l :: lines s := by
  rw [lines, linesFrom_append h, List.nil_append, linesFrom]
  rfl

/-- A text has one of three forms. -/
theorem lines_induction {P : List Char → Prop} (nil : P [])
    (line : ∀ l, '\n' ∉ l → l ≠ [] → P l)
    (more : ∀ l s, '\n' ∉ l → P s → P (l ++ '\n' :: s)) (s : List Char) : P s := by
  induction h : s.length using Nat.strongRecOn generalizing s with
  | ind n ih =>
    by_cases hs : '\n' ∈ s
    · obtain ⟨l, r, rfl, hl⟩ := List.eq_append_cons_of_mem hs
      exact more l r hl (ih r.length (by simp at h; omega) r rfl)
    · by_cases hne : s = []
      · exact hne ▸ nil
      · exact line s hs hne

theorem dropCr_subset (l : List Char) : dropCr l ⊆ l := by
  unfold dropCr
  split
  · exact List.dropLast_subset l
  · exact List.Subset.refl l

/-- No line holds an LF. -/
theorem lf_notMem_lines (s : List Char) : ∀ l ∈ lines s, '\n' ∉ l := by
  induction s using lines_induction with
  | nil => simp [lines_nil]
  | line l hl hne => simpa [lines_line hl hne] using hl
  | more l s hl ih =>
    rw [lines_append_lf hl]
    exact List.forall_mem_cons.2 ⟨fun hm => hl (dropCr_subset l hm), ih⟩

/-- Lines that are written down with an LF after each are read back. -/
theorem lines_flatMap {ls : List (List Char)}
    (h : ∀ l ∈ ls, '\n' ∉ l ∧ l.getLast? ≠ some '\r') : lines (ls.flatMap (· ++ ['\n'])) = ls := by
  induction ls with
  | nil => rfl
  | cons l ls ih =>
    obtain ⟨⟨hl, hr⟩, hls⟩ := List.forall_mem_cons.1 h
    rw [List.flatMap_cons, List.append_assoc, List.singleton_append, lines_append_lf hl, ih hls, dropCr,
      if_neg hr]

theorem getLast?_flatMap_lf {ls : List (List Char)} (h : ls ≠ []) :
    (ls.flatMap (· ++ ['\n'])).getLast? = some '\n' := by
  obtain ⟨init, l, rfl⟩ := (List.eq_nil_or_concat ls).resolve_left h
  simp [List.getLast?_append]

/-! ## Blanks at the ends -/

theorem trimEnd_eq (l : List Char) : trimEnd l = l.rdropWhile isBlank := rfl

@[simp] theorem trimEnd_nil : trimEnd [] = [] := rfl

theorem trimEnd_isPrefix (l : List Char) : trimEnd l <+: l := List.rdropWhile_prefix _ _

@[simp] theorem trimEnd_trimEnd (l : List Char) : trimEnd (trimEnd l) = trimEnd l :=
  List.rdropWhile_idempotent _ _

/-- What has no blank at its end is left as it is. -/
theorem trimEnd_eq_self {l : List Char} : trimEnd l = l ↔ ∀ c ∈ l.getLast?, isBlank c = false := by
  rw [trimEnd_eq, List.rdropWhile_eq_self_iff]
  constructor
  · intro h c hc
    obtain ⟨init, rfl⟩ := List.getLast?_eq_some_iff.1 hc
    simpa using h (by simp)
  · intro h hne
    simpa using h _ (List.getLast?_eq_some_getLast hne)

/-- No blank is left at the end. -/
theorem isBlank_getLast?_trimEnd (l : List Char) : ∀ c ∈ (trimEnd l).getLast?, isBlank c = false :=
  trimEnd_eq_self.1 (trimEnd_trimEnd l)

theorem trimEnd_append_blank {c : Char} (h : isBlank c = true) (l : List Char) :
    trimEnd (l ++ [c]) = trimEnd l := List.rdropWhile_concat_pos _ _ _ h

/-- What is not blank is not trimmed away. -/
theorem trim_ne_nil {s : List Char} (h : ∃ c ∈ s, isBlank c = false) : trim s ≠ [] := by
  obtain ⟨c, hc, hb⟩ := h
  intro hn
  have rest : ∀ x ∈ s.dropWhile isBlank, isBlank x = true := List.rdropWhile_eq_nil_iff.1 hn
  have all : s.takeWhile isBlank ++ s.dropWhile isBlank = s := List.takeWhile_append_dropWhile
  rw [← all] at hc
  rcases List.mem_append.1 hc with hc | hc
  · simp [List.mem_takeWhile_imp hc] at hb
  · simp [rest c hc] at hb

end GoGlue.Text
