import GoGlue.BuildSystem

/-!
# The project file of a Python package

The metadata of the package that ships the module with its shared library: tables of keys and values, one
set of tables for each build system. Texts are written between quotes as they are.
-/
namespace GoGlue

/-- A value in a project file. -/
inductive TomlValue where
  | text (s : String)
  | flag (b : Bool)
  | list (items : List TomlValue)
  /-- A list with one item on each line. -/
  | rows (items : List TomlValue)
  | table (entries : List (String × TomlValue))
  deriving Repr

namespace TomlValue

mutual
def spelling : TomlValue → String
  | text s => "\"" ++ s ++ "\""
  | flag b => if b then "true" else "false"
  | list items => "[" ++ ", ".intercalate (spellings items) ++ "]"
  | rows items => "[\n" ++ String.join ((spellings items).map fun s => "    " ++ s ++ ",\n") ++ "]"
  | table entries => "\x7b " ++ ", ".intercalate (assignments entries) ++ " \x7d"
def spellings : List TomlValue → List String
  | [] => []
  | v :: rest => v.spelling :: spellings rest
def assignments : List (String × TomlValue) → List String
  | [] => []
  | (key, v) :: rest => (key ++ " = " ++ v.spelling) :: assignments rest
end

def texts (ss : List String) : TomlValue := list (ss.map text)

end TomlValue

/-- A named table of a project file. -/
structure TomlTable where
  name : String
  entries : List (String × TomlValue)
  deriving Repr

def TomlTable.spelling (t : TomlTable) : String :=
  "[" ++ t.name ++ "]\n" ++ String.join ((TomlValue.assignments t.entries).map (· ++ "\n"))

/-- What a project file is about: the package and the name of its library, without an ending. -/
structure Pyproject where
  package : String
  library : String
  deriving DecidableEq, Repr

namespace Pyproject

open TomlValue

def description (p : Pyproject) : TomlValue :=
  text ("Python bindings for the " ++ p.package ++ " Go package")

/-- The library for every platform. -/
def libraries (p : Pyproject) : List String := [".so", ".dylib", ".dll"].map (p.library ++ ·)

/-- The paths of the libraries in the project. -/
def artifacts (p : Pyproject) : List String := p.libraries.map ((p.package ++ "/") ++ ·)

def projectTable (p : Pyproject) : TomlTable :=
  ⟨"project", [("name", text p.package), ("version", text "0.1.0"), ("description", p.description),
    ("requires-python", text ">=3.8")]⟩

def buildTable (requires : List String) (backend : String) : TomlTable :=
  ⟨"build-system", [("requires", texts requires), ("build-backend", text backend)]⟩

def hatchTables (p : Pyproject) : List TomlTable :=
  [buildTable ["hatchling"] "hatchling.build", p.projectTable,
    ⟨"tool.hatch.build.targets.wheel",
      [("packages", texts [p.package]), ("artifacts", texts p.artifacts)]⟩]

/-- The tables of the project file for a build system. -/
def tables (p : Pyproject) : BuildSystem → List TomlTable
  | .setuptools =>
    [buildTable ["setuptools>=61.0", "wheel"] "setuptools.build_meta", p.projectTable,
      ⟨"tool.setuptools", [("packages", texts [p.package])]⟩,
      ⟨"tool.setuptools.package-data", [(p.package, texts p.libraries)]⟩]
  | .hatch => p.hatchTables
  | .poetry =>
    [⟨"tool.poetry",
      [("name", text p.package), ("version", text "0.1.0"), ("description", p.description),
        ("authors", list []), ("packages", list [table [("include", text p.package)]]),
        ("include",
          rows (p.artifacts.map fun a => table [("path", text a), ("format", text "wheel")]))]⟩,
      ⟨"tool.poetry.dependencies", [("python", text "^3.8")]⟩,
      buildTable ["poetry-core>=1.0.0"] "poetry.core.masonry.api"]
  | .uv => p.hatchTables ++ [⟨"tool.uv", [("package", flag true)]⟩]

/-- The text of the project file; a blank line stands between two tables; mirrors `pyproject_toml`. -/
def render (p : Pyproject) (b : BuildSystem) : String :=
  "\n".intercalate ((p.tables b).map TomlTable.spelling)

end Pyproject

end GoGlue
