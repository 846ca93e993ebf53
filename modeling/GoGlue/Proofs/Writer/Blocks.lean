import GoGlue.Proofs.Glue.Braces
import GoGlue.Proofs.Glue.Imports
import GoGlue.Proofs.PyModule.Suites

/-!
# Block structure of the generated files

The emitters of both files of a package take steps that are balanced, as a whole and in the part of each entry point,
class and definition, so no level is left that was not entered. In the glue file every block is closed by its brace;
in the module every header has a suite that is not empty.

* `Glue.structured`, `PyModule.structured`: the two files of a package.
* `emission_structured`: the structure of what is emitted.
-/
namespace GoGlue

open Writer Layout

/-! ## The glue file -/

/-- The lines of the glue file: those in front of the entry points, and those that the emitter writes. -/
def GlueHead.lines (h : GlueHead) (steps : List Step) : List Line :=
  printedAll 0 (h.header ++ Go.preludeLayout) ++ linesOf 0 steps

/-- The structure of the glue file, where the emitter takes the given steps. -/
structure Glue.Structured (p : Package) (g : Glue) (steps : List Step) : Prop where
  /-- No level is left that was not entered. -/
  balanced : Balanced steps
  outermost : ((Writer.new .tabs).run steps).level = 0
  /-- The part of each entry point ends at the level at which it begins. -/
  entries : ∃ inner, steps = .raw Go.runtime :: .blank :: (inner ++ [.line "func main() \x7b\x7d"]) ∧
    InParts (fun part e => Balanced part ∧ written part = stepsAll e.layout) inner g.entries
  text : Go.fileOf p steps = String.join ((g.lines steps).map (Line.written .tabs))
  braced : Go.Braced (g.lines steps)
  opened : (g.lines steps).IsChain (Opened fun t => Go.OpensBlock t ∨ t ∈ ["import (", "var ("])

theorem linesOf_layout (n : Nat) (ls : List Layout) : linesOf n (stepsAll ls) = printedAll n ls := by
  simpa [linesOf] using linesOf_stepsAll n ls []

theorem Glue.structured {p : Package} {g : Glue} (h : Glue.ofPackage p = some g) {e : Emission Step Unit}
    (he : Go.emission p = some e) : g.Structured p e.steps := by
  have emits := Go.emits_of he (ofPackage_entries h).1
  have balanced : Balanced e.steps := by
    refine .of_written ?_
    rw [Go.emits_written emits]
    exact (balanced_raw Go.runtime).append (stepsAll_balanced (Go.entriesLayout g.entries))
  have lines : g.lines e.steps = printedAll 0 g.layout := by
    have written : linesOf 0 e.steps = printedAll 0 (Go.entriesLayout g.entries) := by
      rw [← linesOf_written, Go.emits_written emits]
      exact linesOf_layout 0 _
    rw [GlueHead.lines, written, ← printedAll_append, Go.layout_eq, List.append_assoc]
  refine ⟨balanced, balanced.settled _, ?_, ?_, ?_, ?_⟩
  · obtain ⟨inner, steps, parts⟩ := emits.parts
    refine ⟨inner, steps, parts.imp fun part e writes => ⟨.of_written ?_, writes.written⟩⟩
    exact writes.written ▸ stepsAll_balanced e.layout
  · rw [lines, Go.fileOf_eq h he, Glue.text, text_eq_join]
  · rw [lines]
    exact Go.printedAll_braced 0 g.layout (layout_bracing h)
  · rw [lines]
    exact printedAll_opened 0 g.layout fun s hs => ((layout_bracing h).2 s hs).imp And.left And.left

/-! ## The module -/

namespace Py

/-- The steps write a definition behind some blank lines, and end at the level at which they begin. -/
def DefinedBy (lead : List Layout) (part : List Py.Step) (d : Def) : Prop :=
  Balanced (bodyOf part) ∧ bodyOf part = stepsAll (lead ++ d.layout)

/-- The steps write a class in the same way, and inside of it each of its members. -/
structure ClassBy (part : List Py.Step) (c : Class) : Prop where
  balanced : Balanced (bodyOf part)
  body : bodyOf part = stepsAll c.layout
  members : ∃ front inner back, part = front ++ (inner ++ back) ∧ InParts (DefinedBy [.blank]) inner c.members

theorem Writes.definedBy {lead : List Layout} {part : List Py.Step} {d : Def} (h : Writes lead part d) :
    DefinedBy lead part d := ⟨h.body ▸ stepsAll_balanced _, h.body⟩

theorem WritesClass.classBy {s : StructSurface} {part : List Py.Step} {c : Class} (h : WritesClass s part c) :
    ClassBy part c := by
  have body := class_body h
  obtain ⟨declares, members, split, -, defined⟩ := h.parts
  refine ⟨body ▸ stepsAll_balanced _, body, declares ++ (classOpening s).map .body, members, [.body .leave], ?_, ?_⟩
  · rw [split, List.append_assoc]
  · exact defined.imp fun _ _ => Writes.definedBy

end Py

namespace PyModule

open Py (bodyOf protoOf)

/-- The lines of the module: those in front of the bindings, those of the declarations behind a blank one if there are
any, and those of the classes and functions. -/
def lines (h : PyHead) (steps : List Py.Step) : List Line :=
  let declared := linesOf 0 (protoOf steps)
  printedAll 0 (h.header ++ Py.preludeLayout) ++ ((if declared = [] then [] else ⟨0, ""⟩ :: declared)
    ++ linesOf 0 (bodyOf steps))

/-- The structure of the module, where the emitter takes the given steps. -/
structure Structured (library : String) (p : Package) (m : PyModule) (steps : List Py.Step) : Prop where
  /-- In neither of the texts a level is left that was not entered. -/
  balanced : Balanced (bodyOf steps) ∧ Balanced (protoOf steps)
  outermost : (Py.Emitter.new.run steps).body.level = 0 ∧ (Py.Emitter.new.run steps).protos.level = 0
  /-- The part of each class and function, and of each member, ends at the level at which it begins. -/
  parts : ∃ outer inner, steps = outer ++ inner ∧ InParts Py.ClassBy outer m.classes ∧
    InParts (Py.DefinedBy [.blank, .blank]) inner m.functions
  text : Py.fileOf library p steps = String.join ((lines m.toPyHead steps).map (Line.written (.spaces 4)))
  headed : Py.Headed m.docs (lines m.toPyHead steps)
  filled : ∀ s ∈ suitesAll m.layout, Py.Filled s
  opened : (lines m.toPyHead steps).IsChain (Opened fun t => Py.IsHeader t ∨ t = "from ctypes import (")

theorem printedAll_eq_nil {n : Nat} {ls : List Layout} : printedAll n ls = [] ↔ ls = [] := by
  cases ls with
  | nil => exact iff_of_true rfl rfl
  | cons l rest =>
    obtain ⟨more, first⟩ := printed_first n l
    simp [printedAll, first]

theorem structured {library : String} {p : Package} {m : PyModule} (h : ofPackage library p = some m)
    {e : Emission Py.Step Unit} (he : Py.emission p = some e) : m.Structured library p e.steps := by
  obtain ⟨e', emitted, emits, declared, -⟩ := Py.ofPackage_emits h
  cases he.symm.trans emitted
  have body := Py.emits_body emits
  have proto := Py.emits_proto emits
  rw [← declared] at proto
  have balanced : Balanced (bodyOf e.steps) ∧ Balanced (protoOf e.steps) :=
    ⟨body ▸ stepsAll_balanced _, proto ▸ stepsAll_balanced _⟩
  have lines : lines m.toPyHead e.steps = printedAll 0 m.layout := by
    have front : (if linesOf 0 (protoOf e.steps) = [] then [] else ⟨0, ""⟩ :: linesOf 0 (protoOf e.steps))
        = printedAll 0 (if m.declarations.flatMap Py.Declaration.layout = [] then []
          else .blank :: m.declarations.flatMap Py.Declaration.layout) := by
      rw [proto, linesOf_layout, apply_ite (printedAll 0)]
      exact if_congr printedAll_eq_nil rfl rfl
    unfold PyModule.lines layout
    dsimp only
    rw [front, body, linesOf_layout, ← printedAll_append, ← printedAll_append]
    simp only [List.append_assoc]
  refine ⟨balanced, ⟨?_, ?_⟩, ?_, ?_, ?_, (layout_suiting h).filled, ?_⟩
  · rw [Py.run_body]
    exact balanced.1.settled _
  · rw [Py.run_protos]
    exact balanced.2.settled _
  · obtain ⟨outer, inner, split, first, second⟩ := emits.parts
    have classes := first.map (f := Prod.snd) fun _ _ => Py.WritesClass.classBy
    have functions := second.map (f := Prod.snd) (S := Py.DefinedBy [.blank, .blank]) fun part x writes => by
      have own := Py.function_body writes
      exact ⟨own ▸ stepsAll_balanced _, own⟩
    rw [List.map_snd_zip (Nat.le_of_eq emits.eachStruct)] at classes
    rw [List.map_snd_zip (Nat.le_of_eq emits.eachFunction)] at functions
    exact ⟨outer, inner, split, classes, functions⟩
  · rw [lines, Py.fileOf_eq h he, text, text_eq_join]
  · rw [lines]
    exact (layout_suiting h).headed 0
  · rw [lines]
    exact printedAll_opened 0 m.layout fun s hs => ((layout_suiting h).filled s hs).1.imp And.left And.left

end PyModule

/-- **Emission is structured in blocks.** The emitters of a package take steps of which none leaves a level that was
not entered; entry points, classes, members and functions end at the level they begin at, and the files at the
outermost one. In the glue file, a line that opens a block has only deeper lines behind it up to a brace on its own
level. In the module, a header outside of docstrings has a line directly behind it that is not blank and one level
deeper. Only these lines, and those that begin a list in parentheses, have deeper ones behind them. -/
theorem emission_structured (p : Package) :
    (∀ e, Go.emission p = some e → ∃ g, Glue.ofPackage p = some g ∧ g.Structured p e.steps) ∧
      ∀ library e, Py.emission p = some e →
        ∃ m, PyModule.ofPackage library p = some m ∧ m.Structured library p e.steps := by
  refine ⟨fun e he => ?_, fun library e he => ?_⟩
  · obtain ⟨g, made, -⟩ := Go.ofPackage_of_emission he
    exact ⟨g, made, Glue.structured made he⟩
  · obtain ⟨m, made, -⟩ := Py.ofPackage_of_emission library he
    exact ⟨m, made, PyModule.structured made he⟩

/-- A package with a struct without a doc text and a field that cannot be set, and a function whose doc text has two
lines that look like headers. -/
def kiln : Package where
  name := "kiln"
  importPath := "example.com/kiln"
  dir := ""
  functions :=
    [⟨⟨[⟨"temps", .slice (.primitive "float64")⟩], [.unnamed .error], false⟩, "Fire",
      "Fire heats the kiln:\nif hot:\ndef cool():"⟩]
  structs :=
    [⟨"Shelf", "", [⟨"Slots", .slice (.primitive "int32"), "", true⟩, ⟨"Name", .string, "", true⟩],
      [⟨⟨[], [], false⟩, "Clear", "", "s", "Shelf", true⟩]⟩]

theorem emission_structured_kiln :
    ∃ e e' g m, Go.emission kiln = some e ∧ Py.emission kiln = some e' ∧ Glue.ofPackage kiln = some g ∧
      PyModule.ofPackage "libkiln" kiln = some m ∧ (suitesAll g.layout).length = 44 ∧
      (suitesAll m.layout).length = 48 ∧ g.Structured kiln e.steps ∧ m.Structured "libkiln" kiln e'.steps := by
  have blocks : (Glue.ofPackage kiln).map (fun g => (suitesAll g.layout).length) = some 44 := by decide +kernel
  have headers : (PyModule.ofPackage "libkiln" kiln).map (fun m => (suitesAll m.layout).length) = some 48 := by
    decide +kernel
  obtain ⟨g, hg, opened⟩ := Option.map_eq_some_iff.1 blocks
  obtain ⟨m, hm, headed⟩ := Option.map_eq_some_iff.1 headers
  obtain ⟨-, e, -, glue, -⟩ := Glue.ofPackage_eq_some_iff.1 hg
  obtain ⟨e', module, -⟩ := Py.ofPackage_emits hm
  obtain ⟨g', hg', ofGlue⟩ := (emission_structured kiln).1 e glue
  obtain ⟨m', hm', ofModule⟩ := (emission_structured kiln).2 "libkiln" e' module
  cases hg.symm.trans hg'
  cases hm.symm.trans hm'
  exact ⟨e, e', g, m, glue, module, hg, hm, opened, headed, ofGlue, ofModule⟩

end GoGlue
