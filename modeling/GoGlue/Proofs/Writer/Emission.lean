import GoGlue.Emission
import Mathlib.Data.List.Chain

/-!
# Emission in steps

A layout is written by the steps that its suites prescribe. They never leave a level that they did not enter, so
the outermost level is never left, and in the end the level is the one they began at. An emitter takes other steps
in between, asking for imports and logging, which do not matter for the text.

What is written is a list of lines, each at its level. In a suite these are the header, the lines of the body from
one level deeper on, and the footer.

* `writeAll_eq_run`: writing a layout is running its steps.
* `stepsAll_balanced`: the steps of a layout are balanced.
* `run_written`, `Balanced.of_written`, `linesOf_written`: what an emitter does besides writing does not matter.
* `writeAll_text`: the text of a layout is that of its printed lines.
* `printedAll_opened`: a line is deeper than the one in front only behind the header of a suite.
-/
namespace GoGlue

/-- Where an element stands in a list of two parts. -/
theorem mem_part {α : Type} {a b front back : List α} {x : α} (h : a ++ b = front ++ x :: back) :
    (∃ rest, a = front ++ x :: rest ∧ back = rest ++ b) ∨
      ∃ start, front = a ++ start ∧ b = start ++ x :: back := by
  rcases List.append_eq_append_iff.1 h with ⟨start, hf, hb⟩ | ⟨rest, ha, hb⟩
  · exact .inr ⟨start, hf, hb⟩
  · cases rest with
    | nil => exact .inr ⟨[], by rw [ha, List.append_nil, List.append_nil], hb.symm⟩
    | cons y rest =>
      obtain ⟨rfl, behind⟩ := List.cons.inj hb
      exact .inl ⟨rest, ha, behind⟩

namespace Writer

/-! ## Steps -/

theorem run_append (w : Writer) (a b : List Step) : w.run (a ++ b) = (w.run a).run b := List.foldl_append ..

theorem run_cons (w : Writer) (s : Step) (rest : List Step) : w.run (s :: rest) = (s.apply w).run rest := rfl

/-- Wherever the writer stands at first, only levels are left that were entered on the way, and at the end it stands
at the same level again. -/
structure Balanced (steps : List Step) : Prop where
  entered : ∀ (w : Writer) front back, steps = front ++ .leave :: back → w.level < (w.run front).level
  settled : ∀ w : Writer, (w.run steps).level = w.level

theorem balanced_nil : Balanced [] := ⟨fun _ _ _ h => by simp at h, fun _ => rfl⟩

theorem balanced_line (text : String) : Balanced [.line text] where
  entered w front back h := by
    have among : .leave ∈ [Step.line text] := h ▸ List.mem_append_right _ List.mem_cons_self
    simp at among
  settled w := line_level w text

theorem balanced_blank : Balanced [.blank] where
  entered w front back h := by
    have among : .leave ∈ [Step.blank] := h ▸ List.mem_append_right _ List.mem_cons_self
    simp at among
  settled w := rfl

theorem balanced_raw (text : String) : Balanced [.raw text] where
  entered w front back h := by
    have among : .leave ∈ [Step.raw text] := h ▸ List.mem_append_right _ List.mem_cons_self
    simp at among
  settled w := rfl

/-- Steps one behind the other. -/
theorem Balanced.append {a b : List Step} (ha : Balanced a) (hb : Balanced b) : Balanced (a ++ b) where
  entered w front back split := by
    rcases mem_part split with ⟨rest, inA, -⟩ | ⟨start, rfl, inB⟩
    · exact ha.entered w front rest inA
    · rw [run_append, ← ha.settled w]
      exact hb.entered _ start back inB
  settled w := by rw [run_append, hb.settled, ha.settled]

/-- Steps between entering a level and leaving it. -/
theorem Balanced.within {steps : List Step} (h : Balanced steps) : Balanced (.enter :: (steps ++ [.leave])) where
  entered w front back split := by
    rcases List.cons_eq_append_iff.1 split with ⟨-, first⟩ | ⟨front, rfl, inner⟩
    · cases first
    -- The writer is one level deeper already.
    have below : w.level < w.pushIndent.level := Nat.lt_succ_self _
    rcases mem_part inner with ⟨rest, among, -⟩ | ⟨start, rfl, last⟩
    · exact Nat.lt_trans below (h.entered w.pushIndent front rest among)
    · obtain rfl : start = [] := by
        rcases List.append_eq_cons_iff.1 last.symm with ⟨none, -⟩ | ⟨rest, -, none⟩
        · exact none
        · simp at none
      rw [List.append_nil, run_cons]
      exact Nat.lt_of_lt_of_eq below (h.settled w.pushIndent).symm
  settled w := by
    rw [run_cons, run_append]
    show (w.pushIndent.run steps).level - 1 = w.level
    rw [h.settled]
    rfl

/-! ## What is written -/

/-- The step does something to the text or to the level. -/
@[simp] def Step.isWritten : Step → Bool
  | need _ | remark _ => false
  | _ => true

/-- The steps that do something to the text or to the level. -/
def written (steps : List Step) : List Step := steps.filter Step.isWritten

@[simp] theorem written_nil : written [] = [] := rfl

@[simp] theorem written_append (a b : List Step) : written (a ++ b) = written a ++ written b := List.filter_append ..

theorem written_flatMap {α : Type} (xs : List α) (f : α → List Step) :
    written (xs.flatMap f) = xs.flatMap fun x => written (f x) := List.filter_flatMap ..

/-- The writer as it is without what was asked for. -/
def withoutImports (w : Writer) : Writer := { w with imports := [] }

/-- **Imports and records do not matter** for the text and the level. -/
theorem run_written (w : Writer) (steps : List Step) :
    (w.run steps).withoutImports = w.withoutImports.run (written steps) := by
  induction steps generalizing w with
  | nil => rfl
  | cons s rest ih =>
    rw [run_cons, ih]
    cases s with
    | line text =>
      have same : (w.line text).withoutImports = w.withoutImports.line text := by
        unfold line
        split <;> rfl
      exact congrArg (fun v => v.run (written rest)) same
    | need i =>
      have same : (w.addImport i).withoutImports = w.withoutImports := by
        unfold addImport
        split <;> rfl
      exact congrArg (fun v => v.run (written rest)) same
    | _ => rfl

theorem run_level (w : Writer) (steps : List Step) :
    (w.run steps).level = (w.withoutImports.run (written steps)).level := by
  rw [← run_written]
  rfl

theorem run_text (w : Writer) (steps : List Step) :
    (w.run steps).text = (w.withoutImports.run (written steps)).text := by
  rw [← run_written]
  rfl

/-- Steps are balanced if those are that are written. -/
theorem Balanced.of_written {steps : List Step} (h : Balanced (written steps)) : Balanced steps where
  entered w front back split := by
    have parts : written steps = written front ++ .leave :: written back := by
      rw [split, written_append]
      rfl
    have below := h.entered w.withoutImports (written front) (written back) parts
    rwa [run_level]
  settled w := by
    rw [run_level, h.settled]
    rfl

/-- What was asked for, now or before, is among the imports. -/
theorem mem_imports_run (w : Writer) (steps : List Step) {i : Import} :
    i ∈ (w.run steps).imports ↔ i ∈ w.imports ∨ .need i ∈ steps := by
  induction steps generalizing w with
  | nil => simp [run]
  | cons s rest ih =>
    rw [run_cons, ih, List.mem_cons]
    cases s with
    | need j =>
      have added : i ∈ (w.addImport j).imports ↔ i ∈ w.imports ∨ i = j := by
        unfold addImport
        split
        · next there =>
          have there : j ∈ w.imports := List.contains_iff_mem.1 there
          constructor
          · exact .inl
          · rintro (h | rfl) <;> assumption
        · simp
      rw [Step.apply, added, Step.need.injEq, or_assoc]
    | line text =>
      have same : (w.line text).imports = w.imports := by
        unfold line
        split <;> rfl
      simp [Step.apply, same]
    | _ => simp [Step.apply, blank, raw, pushIndent, popIndent]

theorem imports_run_nodup {w : Writer} (h : w.imports.Nodup) (steps : List Step) : (w.run steps).imports.Nodup := by
  induction steps generalizing w with
  | nil => exact h
  | cons s rest ih =>
    refine ih ?_
    cases s with
    | need j =>
      show (w.addImport j).imports.Nodup
      unfold addImport
      split
      · exact h
      · next fresh =>
        have fresh : j ∉ w.imports := fun there => fresh (List.contains_iff_mem.2 there)
        exact List.nodup_append.2 ⟨h, .cons (by simp) .nil, by
          intro a ha b hb
          rw [List.mem_singleton.1 hb]
          rintro rfl
          exact fresh ha⟩
    | line text =>
      show (w.line text).imports.Nodup
      unfold line
      split <;> exact h
    | _ => exact h

/-! ## Lines -/

/-- A line that is written at some level. -/
structure Line where
  level : Nat
  text : String
  deriving DecidableEq, Repr

/-- The text of a line: behind its indentation, unless it is blank. -/
def Line.written (style : IndentStyle) (l : Line) : String := (line ⟨style, l.level, [], ""⟩ l.text).text

theorem line_text (w : Writer) (text : String) :
    (w.line text).text = w.text ++ Line.written w.style ⟨w.level, text⟩ := by
  unfold Line.written line
  by_cases h : text = ""
  · simp [h, raw]
  · simp [h, raw, indent]

theorem line_style (w : Writer) (text : String) : (w.line text).style = w.style := by
  unfold line
  split <;> rfl

/-- The lines that some steps write, at their levels. Text that is written as it stands does not count. -/
def linesOf (n : Nat) : List Step → List Line
  | [] => []
  | .line text :: rest => ⟨n, text⟩ :: linesOf n rest
  | .blank :: rest => ⟨n, ""⟩ :: linesOf n rest
  | .enter :: rest => linesOf (n + 1) rest
  | .leave :: rest => linesOf (n - 1) rest
  | .raw _ :: rest | .need _ :: rest | .remark _ :: rest => linesOf n rest

theorem linesOf_written (n : Nat) (steps : List Step) : linesOf n (written steps) = linesOf n steps := by
  induction steps generalizing n with
  | nil => rfl
  | cons s rest ih =>
    cases s with
    | line text => exact congrArg (List.cons ⟨n, text⟩) (ih n)
    | blank => exact congrArg (List.cons ⟨n, ""⟩) (ih n)
    | enter => exact ih (n + 1)
    | leave => exact ih (n - 1)
    | raw text | need i | remark r => exact ih n

end Writer

namespace Layout

open Writer

/-! ## The steps of a layout -/

/-- What is written under a header, which may be closed by a footer. -/
def footerSteps (footer : String) : List Step := if footer = "" then [] else [.line footer]

mutual
def steps : Layout → List Step
  | blank => [.blank]
  | line text => [.line text]
  | suite header body footer => .line header :: .enter :: (stepsAll body ++ [.leave]) ++ footerSteps footer
def stepsAll : List Layout → List Step
  | [] => []
  | l :: rest => l.steps ++ stepsAll rest
end

theorem run_footerSteps (w : Writer) (footer : String) :
    w.run (footerSteps footer) = if footer = "" then w else w.line footer := by
  unfold footerSteps
  split <;> rfl

mutual
theorem write_eq_run (w : Writer) (l : Layout) : l.write w = w.run l.steps := by
  cases l with
  | blank => rfl
  | line text => rfl
  | suite header body footer =>
    rw [steps, run_append, run_cons, run_cons, run_append, run_footerSteps, write, Writer.block]
    simp only [Step.apply, run_cons, writeAll_eq_run]
    rfl
/-- **Writing a layout is running its steps.** -/
theorem writeAll_eq_run (w : Writer) (ls : List Layout) : writeAll w ls = w.run (stepsAll ls) := by
  cases ls with
  | nil => rfl
  | cons l rest => rw [writeAll, stepsAll, run_append, write_eq_run w l, writeAll_eq_run _ rest]
end

theorem stepsAll_append (ls ms : List Layout) : stepsAll (ls ++ ms) = stepsAll ls ++ stepsAll ms := by
  induction ls with
  | nil => rfl
  | cons l rest ih => rw [List.cons_append, stepsAll, ih, stepsAll, List.append_assoc]

theorem stepsAll_flatMap {α : Type} (xs : List α) (f : α → List Layout) :
    stepsAll (xs.flatMap f) = xs.flatMap fun x => stepsAll (f x) := by
  induction xs with
  | nil => rfl
  | cons x rest ih => rw [List.flatMap_cons, stepsAll_append, ih, List.flatMap_cons]

mutual
theorem written_steps (l : Layout) : written l.steps = l.steps := by
  cases l with
  | blank => rfl
  | line text => rfl
  | suite header body footer =>
    have foot : written (footerSteps footer) = footerSteps footer := by
      unfold footerSteps
      split <;> rfl
    have inner : written (.line header :: .enter :: (stepsAll body ++ [.leave]))
        = .line header :: .enter :: (stepsAll body ++ [.leave]) := by
      show .line header :: .enter :: written (stepsAll body ++ [.leave]) = _
      rw [written_append, written_stepsAll body]
      rfl
    rw [steps, written_append, inner, foot]
/-- A layout is written with nothing in between. -/
theorem written_stepsAll (ls : List Layout) : written (stepsAll ls) = stepsAll ls := by
  cases ls with
  | nil => rfl
  | cons l rest => rw [stepsAll, written_append, written_steps l, written_stepsAll rest]
end

theorem footerSteps_balanced (footer : String) : Balanced (footerSteps footer) := by
  unfold footerSteps
  split
  · exact balanced_nil
  · exact balanced_line footer

mutual
theorem steps_balanced (l : Layout) : Balanced l.steps := by
  cases l with
  | blank => exact balanced_blank
  | line text => exact balanced_line text
  | suite header body footer =>
    have inner := (stepsAll_balanced body).within
    exact ((balanced_line header).append inner).append (footerSteps_balanced footer)
/-- **The steps of a layout are balanced.** -/
theorem stepsAll_balanced (ls : List Layout) : Balanced (stepsAll ls) := by
  cases ls with
  | nil => exact balanced_nil
  | cons l rest => exact (steps_balanced l).append (stepsAll_balanced rest)
end

/-! ## The lines of a layout -/

mutual
/-- The lines that are written for a layout, at their levels. -/
def printed (n : Nat) : Layout → List Line
  | blank => [⟨n, ""⟩]
  | line text => [⟨n, text⟩]
  | suite header body footer =>
    ⟨n, header⟩ :: printedAll (n + 1) body ++ if footer = "" then [] else [⟨n, footer⟩]
def printedAll (n : Nat) : List Layout → List Line
  | [] => []
  | l :: rest => l.printed n ++ printedAll n rest
end

theorem printedAll_append (n : Nat) (ls ms : List Layout) :
    printedAll n (ls ++ ms) = printedAll n ls ++ printedAll n ms := by
  induction ls with
  | nil => rfl
  | cons l rest ih => rw [List.cons_append, printedAll, ih, printedAll, List.append_assoc]

mutual
theorem linesOf_steps (n : Nat) (l : Layout) (rest : List Step) :
    linesOf n (l.steps ++ rest) = l.printed n ++ linesOf n rest := by
  cases l with
  | blank => rfl
  | line text => rfl
  | suite header body footer =>
    have inner := linesOf_stepsAll (n + 1) body (.leave :: (footerSteps footer ++ rest))
    have foot : linesOf n (footerSteps footer ++ rest)
        = (if footer = "" then [] else [⟨n, footer⟩]) ++ linesOf n rest := by
      unfold footerSteps
      split <;> rfl
    have shape : (suite header body footer).steps ++ rest
        = .line header :: .enter :: (stepsAll body ++ .leave :: (footerSteps footer ++ rest)) := by simp [steps]
    rw [shape, printed, linesOf, linesOf, inner, linesOf, Nat.add_sub_cancel, foot]
    simp
/-- The steps of a layout write its printed lines. -/
theorem linesOf_stepsAll (n : Nat) (ls : List Layout) (rest : List Step) :
    linesOf n (stepsAll ls ++ rest) = printedAll n ls ++ linesOf n rest := by
  cases ls with
  | nil => rfl
  | cons l more =>
    rw [stepsAll, printedAll, List.append_assoc, linesOf_steps n l, linesOf_stepsAll n more, List.append_assoc]
end

theorem printedAll_singleton (n : Nat) (l : Layout) : printedAll n [l] = l.printed n := by simp [printedAll]

mutual
theorem write_text (w : Writer) (l : Layout) :
    (l.write w).style = w.style ∧
      (l.write w).text = w.text ++ String.join ((l.printed w.level).map (Line.written w.style)) := by
  cases l with
  | blank =>
    refine ⟨rfl, ?_⟩
    show w.text ++ "\n" = _
    simp [printed, Line.written, Writer.line, raw]
  | line text => exact ⟨line_style w text, (line_text w text).trans (by simp [printed])⟩
  | suite header body footer =>
    obtain ⟨style, text⟩ := writeAll_text (w.line header).pushIndent body
    have level : (w.line header).pushIndent.level = w.level + 1 := by rw [pushIndent, line_level]
    have under : (writeAll (w.line header).pushIndent body).popIndent.level = w.level := by
      rw [popIndent, writeAll_level, level, Nat.add_sub_cancel]
    have kept : (writeAll (w.line header).pushIndent body).popIndent.style = w.style :=
      style.trans (line_style w header)
    have inner : (writeAll (w.line header).pushIndent body).popIndent.text = w.text ++ String.join
        ((⟨w.level, header⟩ :: printedAll (w.level + 1) body).map (Line.written w.style)) := by
      rw [level] at text
      refine text.trans ?_
      simp [pushIndent, line_text, line_style, String.append_assoc]
    rw [write, Writer.block, printed, List.map_append, String.join_append, ← String.append_assoc, ← inner]
    split
    · exact ⟨kept, by simp⟩
    · exact ⟨(line_style ..).trans kept, by simp [line_text, under, kept]⟩
/-- **The text of a layout is that of its printed lines.** -/
theorem writeAll_text (w : Writer) (ls : List Layout) :
    (writeAll w ls).style = w.style ∧
      (writeAll w ls).text = w.text ++ String.join ((printedAll w.level ls).map (Line.written w.style)) := by
  cases ls with
  | nil => exact ⟨rfl, by simp [writeAll, printedAll]⟩
  | cons l rest =>
    obtain ⟨style, text⟩ := write_text w l
    obtain ⟨style', text'⟩ := writeAll_text (l.write w) rest
    refine ⟨style'.trans style, ?_⟩
    rw [writeAll, text', style, write_level, text, printedAll, List.map_append, String.join_append,
      String.append_assoc]
end

theorem text_eq_join (style : IndentStyle) (ls : List Layout) :
    text style ls = String.join ((printedAll 0 ls).map (Line.written style)) := by
  rw [text, (writeAll_text _ _).2]
  simp [Writer.new]

theorem text_append (style : IndentStyle) (ls ms : List Layout) :
    text style (ls ++ ms) = text style ls ++ text style ms := by
  simp only [text_eq_join, printedAll_append, List.map_append, String.join_append]

/-! ## Suites -/

/-- The first line of a layout. -/
def first : Layout → String
  | blank => ""
  | line text => text
  | suite header _ _ => header

theorem printed_first (n : Nat) (l : Layout) : ∃ rest, l.printed n = ⟨n, l.first⟩ :: rest := by
  cases l with
  | blank => exact ⟨[], rfl⟩
  | line text => exact ⟨[], rfl⟩
  | suite header body footer => exact ⟨_, by rw [printed, List.cons_append]; rfl⟩

/-- A suite: its header, its body and its footer. -/
structure Suite where
  header : String
  body : List Layout
  footer : String

mutual
/-- All suites inside of a layout. -/
def suites : Layout → List Suite
  | blank | line _ => []
  | suite header body footer => ⟨header, body, footer⟩ :: suitesAll body
def suitesAll : List Layout → List Suite
  | [] => []
  | l :: rest => l.suites ++ suitesAll rest
end

mutual
/-- The lines inside of a layout that are neither headers nor footers. -/
def plain : Layout → List String
  | blank => [""]
  | line text => [text]
  | suite _ body _ => plainAll body
def plainAll : List Layout → List String
  | [] => []
  | l :: rest => l.plain ++ plainAll rest
end

theorem suitesAll_append (ls ms : List Layout) : suitesAll (ls ++ ms) = suitesAll ls ++ suitesAll ms := by
  induction ls with
  | nil => rfl
  | cons l rest ih => rw [List.cons_append, suitesAll, ih, suitesAll, List.append_assoc]

theorem plainAll_append (ls ms : List Layout) : plainAll (ls ++ ms) = plainAll ls ++ plainAll ms := by
  induction ls with
  | nil => rfl
  | cons l rest ih => rw [List.cons_append, plainAll, ih, plainAll, List.append_assoc]

/-! ## Levels -/

mutual
theorem le_printed (n : Nat) (l : Layout) : ∀ x ∈ l.printed n, n ≤ x.level := by
  cases l with
  | blank => simp [printed]
  | line text => simp [printed]
  | suite header body footer =>
    have inner := le_printedAll (n + 1) body
    have foot : ∀ x ∈ (if footer = "" then [] else [⟨n, footer⟩] : List Line), n ≤ x.level := by
      split <;> simp
    rw [printed, List.cons_append]
    exact List.forall_mem_cons.2 ⟨Nat.le_refl n, List.forall_mem_append.2
      ⟨fun x hx => Nat.le_of_succ_le (inner x hx), foot⟩⟩
/-- No line is written above the level at which its layout is. -/
theorem le_printedAll (n : Nat) (ls : List Layout) : ∀ x ∈ printedAll n ls, n ≤ x.level := by
  cases ls with
  | nil => simp [printedAll]
  | cons l rest => exact List.forall_mem_append.2 ⟨le_printed n l, le_printedAll n rest⟩
end

/-- Behind the first line there is a deeper one only if it opens a suite, and that one is one level deeper. -/
def Opened (P : String → Prop) (a b : Line) : Prop := a.level < b.level → b.level = a.level + 1 ∧ P a.text

theorem opened_of_le {P : String → Prop} {a b : Line} (h : b.level ≤ a.level) : Opened P a b :=
  fun deeper => absurd deeper (Nat.not_lt.2 h)

theorem level_of_head? {n : Nat} {ls : List Layout} {x : Line} (h : x ∈ (printedAll n ls).head?) : x.level = n := by
  cases ls with
  | nil => cases h
  | cons l rest =>
    obtain ⟨more, hl⟩ := printed_first n l
    rw [printedAll, hl] at h
    cases h
    rfl

mutual
theorem printed_opened {P : String → Prop} (n : Nat) (l : Layout) (h : ∀ s ∈ l.suites, P s.header) :
    (l.printed n).IsChain (Opened P) := by
  cases l with
  | blank => exact .singleton _
  | line text => exact .singleton _
  | suite header body footer =>
    obtain ⟨own, inner⟩ := List.forall_mem_cons.1 h
    have foot : ∀ x ∈ (if footer = "" then [] else [⟨n, footer⟩] : List Line).head?, x.level = n := by
      split <;> simp
    rw [printed]
    refine List.IsChain.append (List.isChain_cons.2 ⟨fun y hy _ => ?_, ?_⟩) ?_
      fun x hx y hy => opened_of_le ?_
    · exact ⟨level_of_head? hy, own⟩
    · exact printedAll_opened (n + 1) body inner
    · split
      · exact .nil
      · exact .singleton _
    · rw [foot y hy]
      have among := List.mem_of_mem_getLast? hx
      rcases List.mem_cons.1 among with rfl | among
      · exact Nat.le_refl n
      · exact Nat.le_of_succ_le (le_printedAll (n + 1) body x among)
/-- **A line is deeper than the one in front only behind the header of a suite,** and then by one level. -/
theorem printedAll_opened {P : String → Prop} (n : Nat) (ls : List Layout) (h : ∀ s ∈ suitesAll ls, P s.header) :
    (printedAll n ls).IsChain (Opened P) := by
  cases ls with
  | nil => exact .nil
  | cons l rest =>
    obtain ⟨own, others⟩ := List.forall_mem_append.1 h
    refine List.IsChain.append (printed_opened n l own) (printedAll_opened n rest others)
      fun x hx y hy => opened_of_le ?_
    rw [level_of_head? hy]
    exact le_printed n l x (List.mem_of_mem_getLast? hx)
end

end Layout

end GoGlue
