import GoGlue.Plugin
import GoGlue.Proofs.Glue.Imports
import GoGlue.Proofs.Surface.Symbols

/-!
# Declarations of the glue file

The file declares what its imports bind, the names of the prelude and the symbols of the package. The prelude
exports three releases, as if they were members of a struct `Free`; a struct of that name with a method
`String` has the symbol of one of them. The rules for collisions look at one struct at a time, so such a
package gets a file that declares a name twice.

* `importedNames_nodup`: the imports bind every name once.
* `declared_once`: the file declares every name once, if its declarations are separate.
* `released_twice`: a package for which they are not.
-/
namespace GoGlue.Glue

/-- The names that the imports bind. A plain import binds the name that the package declares for itself:
`clause` tells it, by the import as it is written. -/
def importedNames (clause : String → String) (g : Glue) : List String :=
  "C" :: g.plainImports.map clause ++ (g.imports.filter (·.names ≠ "")).map (·.names)

/-- Every name that the file declares at its top level. -/
def declaredNames (clause : String → String) (g : Glue) : List String :=
  g.importedNames clause ++ Go.preludeNames ++ g.entries.map (·.symbol) ++ ["main"]

/-- No two declarations in the glue of a package can take each other's names. -/
structure Separate (clause : String → String) (p : Package) (g : Glue) : Prop where
  /-- Packages that are imported from different paths have different names. -/
  clauses : ∀ a ∈ g.plainImports, ∀ b ∈ g.plainImports, clause a = clause b → a = b
  wrapped : p.name ≠ "C" ∧ ∀ a ∈ g.plainImports, clause a ≠ "C" ∧ clause a ≠ p.name
  imported : ∀ n ∈ g.importedNames clause,
    n ∉ Go.preludeNames ∧ n ≠ "main" ∧ ∀ owner ∈ p.owners, ¬ Under owner n
  /-- The prelude has the owner `Free`. -/
  owners : ("Free" :: p.owners).Pairwise Apart

theorem importedNames_nodup {clause : String → String} {p : Package} {g : Glue}
    (h : ofPackage p = some g) (apart : Separate clause p g) : (g.importedNames clause).Nodup := by
  have named : ∀ n ∈ (g.imports.filter (·.names ≠ "")).map (·.names), n = p.name := by
    simp only [List.mem_map, List.mem_filter, decide_eq_true_eq]
    rintro _ ⟨i, ⟨hi, hn⟩, rfl⟩
    rw [named_import h i hi hn]
  refine List.nodup_append'.2 ⟨List.nodup_cons.2 ⟨?_, ?_⟩, ?_, ?_⟩
  · intro hC
    obtain ⟨a, ha, e⟩ := List.mem_map.1 hC
    exact (apart.wrapped.2 a ha).1 e
  · exact g.plainImports_nodup.map_on fun a ha b hb => apart.clauses a ha b hb
  · refine ((imports_nodup h).filter _).map_on ?_
    simp only [List.mem_filter, decide_eq_true_eq]
    rintro i ⟨hi, ni⟩ j ⟨hj, nj⟩ -
    rw [named_import h i hi ni, named_import h j hj nj]
  · intro n hn hm
    rw [named n hm] at hn
    rcases List.mem_cons.1 hn with e | hn
    · exact apart.wrapped.1 e
    · obtain ⟨a, ha, e⟩ := List.mem_map.1 hn
      exact (apart.wrapped.2 a ha).2 e

theorem preludeNames_owner : ∀ n ∈ Go.preludeNames, Under "Free" n ∨ '_' ∉ n.toList := by decide

/-- **Every name is declared once** in the glue of a package, if nothing that stands beside its symbols can
be taken for one and no owner's symbols for another's. -/
theorem declared_once {clause : String → String} {p : Package} {g : Glue}
    (h : ofPackage p = some g) (distinct : p.Distinct) (apart : Separate clause p g) :
    (g.declaredNames clause).Nodup := by
  obtain ⟨free, owners⟩ := List.pairwise_cons.1 apart.owners
  have symbols : g.entries.map (·.symbol) = (Surface.callables p).map (·.symbol) := by
    obtain ⟨es, emission, he, emitted, rfl⟩ := Glue.ofPackage_eq_some_iff.1 h
    exact Go.entries_symbols he
  have under : ∀ n ∈ g.entries.map (·.symbol), ∃ owner ∈ p.owners, Under owner n := by
    rw [symbols]
    exact fun n => Surface.callables_under
  refine List.nodup_append'.2 ⟨List.nodup_append'.2 ⟨List.nodup_append'.2
    ⟨importedNames_nodup h apart, Go.prelude_names, ?_⟩, ?_, ?_⟩, by simp, ?_⟩
  · intro n hi hp
    exact (apart.imported n hi).1 hp
  · rw [symbols]
    exact Surface.callables_nodup distinct owners
  · intro n hn hs
    obtain ⟨owner, ho, hu⟩ := under n hs
    rcases List.mem_append.1 hn with hi | hp
    · exact (apart.imported n hi).2.2 owner ho hu
    · rcases preludeNames_owner n hp with hf | hf
      · exact (free owner ho).not_under hf hu
      · exact hf hu.underscore
  · intro n hn hm
    rw [List.mem_singleton.1 hm] at hn
    rcases List.mem_append.1 hn with hn | hs
    · rcases List.mem_append.1 hn with hi | hp
      · exact (apart.imported _ hi).2.1 rfl
      · exact absurd hp (by decide)
    · obtain ⟨owner, -, hu⟩ := under _ hs
      exact absurd hu.underscore (by decide)

/-- A timetable, with a method that takes a value of another package. -/
def timetable : Package where
  name := "timetable"
  importPath := "example.com/timetable"
  dir := ""
  functions := [⟨⟨[], [.unnamed .string], false⟩, "Version", ""⟩]
  structs :=
    [⟨"Stop", "", [⟨"Name", .string, "", true⟩],
      [⟨⟨[⟨"until", .qualified "time" "Time"⟩], [], false⟩, "Wait", "", "s", "Stop", true⟩]⟩]

/-- The last part of an import without its quotes. -/
def lastPart (written : String) : String :=
  .ofList ((written.toList.filter (· ≠ '"')).reverse.takeWhile (· ≠ '/')).reverse

theorem declared_once_timetable :
    ∃ g, Glue.ofPackage timetable = some g ∧ timetable.Distinct ∧ Separate lastPart timetable g ∧
      g.importedNames lastPart = ["C", "sync", "time", "unsafe", "timetable"] ∧
      (g.declaredNames lastPart).Nodup := by
  have seen : (ofPackage timetable).map
        (fun g => (g.plainImports, (g.imports.filter (·.names ≠ "")).map (·.names)))
      = some (["\"sync\"", "\"time\"", "\"unsafe\""], ["timetable"]) := by decide +kernel
  obtain ⟨g, hg, e⟩ := Option.map_eq_some_iff.1 seen
  obtain ⟨plain, named⟩ := Prod.mk.inj e
  have imported : g.importedNames lastPart = ["C", "sync", "time", "unsafe", "timetable"] := by
    rw [importedNames, plain, named]
    decide +kernel
  have distinct : timetable.Distinct := ⟨by decide, by decide⟩
  have apart : Separate lastPart timetable g :=
    { clauses := by rw [plain]; decide +kernel
      wrapped := by rw [plain]; decide +kernel
      imported := by rw [imported]; decide +kernel
      owners := by decide +kernel }
  exact ⟨g, hg, distinct, apart, imported, declared_once hg distinct apart⟩

/-- A struct `Free` whose method has the symbol of the release of strings. -/
def freeString : Package where
  name := "geo"
  importPath := ""
  dir := ""
  functions := []
  structs := [⟨"Free", "", [], [⟨⟨[], [.unnamed .string], false⟩, "String", "", "f", "Free", true⟩]⟩]

/-- **Not every package has separate declarations**, however the imported packages are called. -/
theorem released_twice :
    freeString.check = .ok () ∧ freeString.Distinct ∧
      ∃ g, Glue.ofPackage freeString = some g ∧ ∀ clause, ¬ (g.declaredNames clause).Nodup := by
  obtain ⟨g, hg⟩ : ∃ g, Glue.ofPackage freeString = some g :=
    Option.isSome_iff_exists.1 (by decide +kernel)
  refine ⟨by decide +kernel, ⟨by decide, by decide⟩, g, hg, fun clause h => ?_⟩
  have exported : "Free_String" ∈ g.entries.map (·.symbol) := by
    obtain ⟨es, emission, he, emitted, rfl⟩ := Glue.ofPackage_eq_some_iff.1 hg
    rw [Go.entries_symbols he]
    decide +kernel
  have front := (List.nodup_append'.1 (List.nodup_append'.1 h).1).2.2
  exact front (List.mem_append_right _ (by decide)) exported

end GoGlue.Glue
