import GoGlue.Glue.Emission

/-!
# The glue file

The Go file that exports the entry points of a package, read as code: a head with the imports that were asked
for while it was emitted, the prelude, and the entry points.
-/
namespace GoGlue

/-- A Go file with the entry points of a package. -/
structure Glue extends GlueHead where
  package : String
  entries : List Go.Entry
  deriving Repr

namespace Glue

open Go

/-- The glue of a package; there is none if a parameter cannot be named. -/
def ofPackage (p : Package) : Option Glue := do
  let entries ← Go.entries p.name (Surface.ofPackage p)
  let emission ← Go.emission p
  return {
    importPath := p.effectiveImportPath
    imports := ((Writer.new .tabs).run emission.steps).imports
    package := p.name
    entries }

/-- There is glue if there are entry points and they can be emitted. -/
theorem ofPackage_eq_some_iff {p : Package} {g : Glue} :
    ofPackage p = some g ↔ ∃ es emission, Go.entries p.name (Surface.ofPackage p) = some es ∧
      Go.emission p = some emission ∧
        ⟨⟨p.effectiveImportPath, ((Writer.new .tabs).run emission.steps).imports⟩, p.name, es⟩ = g := by
  constructor
  · intro h
    obtain ⟨es, he, h⟩ := Option.bind_eq_some_iff.1 h
    obtain ⟨emission, hm, h⟩ := Option.bind_eq_some_iff.1 h
    exact ⟨es, emission, he, hm, Option.some.inj h⟩
  · rintro ⟨es, emission, he, hm, rfl⟩
    exact Option.bind_eq_some_iff.2 ⟨es, he, Option.bind_eq_some_iff.2 ⟨emission, hm, rfl⟩⟩

def layout (g : Glue) : List Layout :=
  g.header ++ preludeLayout ++ [.blank] ++ g.entries.flatMap Entry.layout
    ++ [.line "func main() \x7b\x7d"]

/-- The text of the file. -/
def text (g : Glue) : String := Layout.text .tabs g.layout

end Glue

end GoGlue
