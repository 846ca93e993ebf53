import GoGlue.PyModule.Emission

/-!
# The Python module

The module that binds the entry points of a package, read as code: a head with what was noted while it was
emitted, the prelude, the declarations of the entry points, the classes and the functions.
-/
namespace GoGlue

/-- A module that binds a package. -/
structure PyModule extends PyHead where
  declarations : List Py.Declaration
  classes : List Py.Class
  functions : List Py.Def
  deriving Repr

namespace PyModule

open Py

/-- The module of a package; there is none if a function or parameter cannot be named. -/
def ofPackage (library : String) (p : Package) : Option PyModule := do
  let surface := Surface.ofPackage p
  let classes ← surface.structs.mapM (classOf p.structNames)
  let functions ← functionsOf p.structNames p.name surface.functions
  let emission ← Py.emission p
  return {
    package := p.name
    importPath := p.effectiveImportPath
    library
    ctypesNames := (Emitter.new.run emission.steps).ctypes
    declarations := surface.structs.flatMap structDeclarations
      ++ surface.functions.map fun f => declare (p.name ++ "_" ++ f.func.name) false f.plan
    classes
    functions }

/-- There is a module if there are classes and functions and they can be emitted. -/
theorem ofPackage_eq_some_iff {library : String} {p : Package} {m : PyModule} :
    ofPackage library p = some m ↔ ∃ classes functions emission,
      (Surface.ofPackage p).structs.mapM (classOf p.structNames) = some classes ∧
      functionsOf p.structNames p.name (Surface.ofPackage p).functions = some functions ∧
      Py.emission p = some emission ∧
        ⟨⟨p.name, p.effectiveImportPath, library, (Emitter.new.run emission.steps).ctypes⟩,
          (Surface.ofPackage p).structs.flatMap structDeclarations
            ++ (Surface.ofPackage p).functions.map fun f => declare (p.name ++ "_" ++ f.func.name) false f.plan,
          classes, functions⟩ = m := by
  constructor
  · intro h
    obtain ⟨classes, hc, h⟩ := Option.bind_eq_some_iff.1 h
    obtain ⟨functions, hf, h⟩ := Option.bind_eq_some_iff.1 h
    obtain ⟨emission, he, h⟩ := Option.bind_eq_some_iff.1 h
    exact ⟨classes, functions, emission, hc, hf, he, Option.some.inj h⟩
  · rintro ⟨classes, functions, emission, hc, hf, he, rfl⟩
    exact Option.bind_eq_some_iff.2
      ⟨classes, hc, Option.bind_eq_some_iff.2 ⟨functions, hf, Option.bind_eq_some_iff.2 ⟨emission, he, rfl⟩⟩⟩

def layout (m : PyModule) : List Layout :=
  let declarations := m.declarations.flatMap Declaration.layout
  m.header ++ preludeLayout
    ++ (if declarations = [] then [] else .blank :: declarations)
    ++ m.classes.flatMap Class.layout
    ++ m.functions.flatMap fun f => .blank :: .blank :: f.layout

/-- The text of the file. -/
def text (m : PyModule) : String := Layout.text (.spaces 4) m.layout

end PyModule

end GoGlue
