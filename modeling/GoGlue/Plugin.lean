import GoGlue.Glue.Emission
import GoGlue.PyModule.Emission
import GoGlue.Pyproject
import GoGlue.Text.Quoted

/-!
# Plugins

A plugin makes files from a package: a main file, and companions when the files are to be packaged. The
built-in plugins make the two sides of the glue.
-/
namespace GoGlue

/-! ## Packages that can be wrapped -/

/-- Why a package cannot be imported by the glue. -/
inductive PackageFault where
  | unnamed
  | notAnIdentifier (name : String)
  | program
  deriving DecidableEq, Repr

def PackageFault.message : PackageFault → String
  | unnamed => "package name is empty"
  | notAnIdentifier name => Text.quoted name ++ " is not a valid package name"
  | program => "package main cannot be imported"

/-- Why code cannot be generated; mirrors `CodegenError`. -/
inductive CodegenError where
  | unknownPlugin (name : String) (available : List String)
  | invalidPackage (fault : PackageFault)
  deriving DecidableEq, Repr

def CodegenError.message : CodegenError → String
  | unknownPlugin name available =>
    "unknown plugin: " ++ name ++ " (available: " ++ ", ".intercalate available ++ ")"
  | invalidPackage fault => "invalid package: " ++ fault.message

/-- Refuse a package that the glue could not import; mirrors `validate_package`. -/
def Package.check (p : Package) : Except CodegenError Unit :=
  if p.name = "" then .error (.invalidPackage .unnamed)
  else if !isGoIdentifier p.name then .error (.invalidPackage (.notAnIdentifier p.name))
  else if p.name = "main" then .error (.invalidPackage .program)
  else .ok ()

/-! ## Plugins -/

/-- mirrors `PluginOptions` -/
structure PluginOptions where
  /-- Symbols that are left out are worth a warning. -/
  verbose : Bool
  /-- The name of the shared library, without an ending. -/
  libraryName : Option String
  buildSystem : BuildSystem
  deriving DecidableEq, Repr

namespace PluginOptions

def default : PluginOptions := ⟨false, none, .setuptools⟩

/-- The name of the library for a package: the chosen one unless that is empty; mirrors `library_name_for`. -/
def libraryNameFor (opts : PluginOptions) (package : String) : String :=
  match opts.libraryName with
  | some name => if name = "" then "lib" ++ package else name
  | none => "lib" ++ package

end PluginOptions

/-- A maker of files; mirrors `Plugin`. -/
structure Plugin where
  name : String
  /-- The text of the main file, with what there is to say about it. A plugin that never comes to an end with a
  package has no answer. -/
  generate : Package → Option (Except CodegenError String) × List LogRecord
  /-- The path of the main file. -/
  defaultOutput : Package → String
  /-- The path of the main file among its companions. -/
  packagedOutput : Package → String
  /-- The other files of the packaged form, with their paths. -/
  companions : Package → List (String × String)

namespace Plugin

/-- A plugin with a main file only. -/
def simple (name : String) (generate : Package → Option (Except CodegenError String) × List LogRecord)
    (output : Package → String) : Plugin :=
  ⟨name, generate, output, output, fun _ => []⟩

/-- Make the main file of a valid package from its surface. What is left out is logged before anything is
emitted. -/
def fromSurface (target : String) (verbose : Bool)
    (render : Package → Option (String × List LogRecord)) (p : Package) :
    Option (Except CodegenError String) × List LogRecord :=
  match p.check with
  | .error e => (some (.error e), [])
  | .ok () =>
    match render p with
    | none => (none, Surface.log p target verbose)
    | some (text, log) => (some (.ok text), Surface.log p target verbose ++ log)

/-- The plugin for the Go side; mirrors `CgoPlugin`. -/
def cgo (opts : PluginOptions) : Plugin :=
  simple "cgo" (fromSurface "cgo" opts.verbose Go.generate) fun _ => "main.go"

/-- The plugin for the Python side; mirrors `PythonPlugin`. -/
def python (opts : PluginOptions) : Plugin where
  name := "python"
  generate := fromSurface "python" opts.verbose fun p =>
    (Py.generate (opts.libraryNameFor p.name) p).map (·, [])
  defaultOutput p := p.name ++ ".py"
  packagedOutput p := p.name ++ "/" ++ p.name ++ ".py"
  companions p :=
    [("pyproject.toml", Pyproject.render ⟨p.name, opts.libraryNameFor p.name⟩ opts.buildSystem),
      (p.name ++ "/__init__.py", "from ." ++ p.name ++ " import *  # noqa: F401,F403\n")]

end Plugin

end GoGlue
