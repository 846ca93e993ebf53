import GoGlue.Attempt
import GoGlue.FileTree.Change
import GoGlue.ImportPath
import GoGlue.Outline
import GoGlue.Project
import GoGlue.Registry
import GoGlue.Settings

/-!
# Generating glue

A run that generates code has two halves. It prepares by reading only: configuration, sources, import
path, plugin, and the files to be. Then it delivers: it writes the files and reports them. A run that fails
while it prepares has touched nothing.

* `generate_unprepared`: a run that cannot prepare leaves the tree as it is.
-/
namespace GoGlue

/-! ## Reading a package -/

/-- Extract the package of a directory; mirrors `parse_package`. -/
def extractAt (t : FileTree) (path : String) (opts : ExtractOptions) :
    Except ExtractError Extraction × List LogRecord :=
  if !t.isDirectory path then (.error (.directoryNotFound path), [])
  else
    match t.locate path with
    | .error e => (.error (.io path e), [])
    | .ok dir =>
      let sources := (t.filesIn dir).filter fun f => Extraction.isPackageSource f.1
      let read (f : String × ByteArray) : Except ExtractError (String × String) :=
        match FileTree.decode f.2 with
        | .ok text => .ok (f.1, text)
        | .error e => .error (.io (Place.path (dir ++ [f.1])) e)
      match sources.mapM read with
      | .error e => (.error e, [])
      | .ok texts => Extraction.extract opts dir.path texts

def Extraction.withImportPath (x : Extraction) (path : String) : Extraction :=
  { x with package := { x.package with importPath := path } }

/-- Give a package its import path: the one that was asked for, or the one that its directory has;
mirrors `set_import_path`. -/
def addImportPath (t : FileTree) (x : Extraction) (explicit : Option String) : Attempt Extraction :=
  match explicit.filter (· ≠ "") with
  | some path => .succeed (x.withImportPath path)
  | none =>
    match importPath? t x.package.dir with
    | some path =>
      ⟨some (.ok (x.withImportPath path)), [], [.info ("import path " ++ path ++ " (from go.mod)")]⟩
    | none =>
      ⟨some (.ok x), [],
        [.warn ("could not determine the import path of " ++ x.package.name
          ++ "; pass --import-path")]⟩

/-- Extract the package of a directory and give it its import path; mirrors `load_package`. -/
def readPackage (t : FileTree) (path : String) (opts : ExtractOptions) (importPath : Option String) :
    Attempt Extraction := do
  let x ← .logged (.extract path) (extractAt t path opts)
  addImportPath t x importPath

/-! ## Preparing -/

/-- Files that are ready to be written. -/
structure Prepared where
  settings : Settings
  package : Package
  plugin : Plugin
  project : Project

/-- A path as an absolute one, if it leads anywhere. -/
def absolute (t : FileTree) (path : String) : String :=
  match t.locate path with
  | .ok place => place.path
  | .error _ => path

def prepare (t : FileTree) (registry : Registry) (args : GenerateArgs) : Attempt Prepared := do
  let config ← .logged .config (Config.discover t args.path args.config)
  let settings := Settings.resolve args config
  .print ["Extracting " ++ absolute t args.path]
  let x ← readPackage t args.path settings.extract settings.importPath
  if settings.extract.verbose then .print x.droppedLines
  let plugin ← .silent .plugin (registry.get settings.plugin settings.options)
  let project ← .awaited (.generate plugin.name)
    (Project.generate plugin x.package settings.packaging)
  return ⟨settings, x.package, plugin, project⟩

/-! ## Delivering -/

/-- The directory that files go to if no output is chosen. -/
def defaultDirectory (args : GenerateArgs) (plugin : Plugin) : String :=
  Path.join args.path (plugin.name ++ "_plugin")

/-- Write the files of a project to a directory. -/
def writeProject (t : FileTree) (project : Project) (dir : String) :
    Except Failure (List String) × FileTree :=
  match t.writeAll dir project.files with
  | (.error e, t) => (.error (.writeProject dir e), t)
  | (.ok (), t) => (.ok (project.files.map fun f => Path.join dir f.1), t)

/-- Write a single file with its directories. -/
def writeSingle (t : FileTree) (target content : String) :
    Except Failure (List String) × FileTree :=
  match t.makeParents target with
  | (.error e, t) => (.error (.makeDirectory ((Path.parent? target).getD "") e), t)
  | (.ok (), t) =>
    match t.write target content with
    | .error e => (.error (.write target e), t)
    | .ok t => (.ok [target], t)

/-- Write the files; mirrors `write_output`. With packaging, the output is a directory, otherwise it is the file. -/
def write (t : FileTree) (args : GenerateArgs) (p : Prepared) :
    Except Failure (List String) × FileTree :=
  let dir := defaultDirectory args p.plugin
  if p.settings.packaging then writeProject t p.project (p.settings.output.getD dir)
  else
    match p.project.files with
    | [] => (.error .noOutput, t)
    | (path, content) :: _ => writeSingle t (p.settings.output.getD (Path.join dir path)) content

/-- How the library is built from the Go side. -/
def buildLines (p : Prepared) (written : List String) : List String :=
  match p.plugin.name, written with
  | "cgo", main :: _ =>
    ["", "To build as shared library:",
      "  CGO_ENABLED=1 go build -buildmode=c-shared -o "
        ++ p.settings.options.libraryNameFor p.package.name ++ ".so " ++ main]
  | _, _ => []

/-- The lines after the files are written. -/
def summary (p : Prepared) (written : List String) : List String :=
  ["✓ Generated " ++ p.plugin.name ++ " glue for package " ++ p.package.name ++ " ("
      ++ toString p.package.functions.length ++ " function(s), "
      ++ toString p.package.structs.length ++ " struct(s))"]
    ++ written.map ("  → " ++ ·) ++ buildLines p written

def deliver (t : FileTree) (args : GenerateArgs) (p : Prepared) : Attempt Unit × FileTree :=
  match write t args p with
  | (.error e, t) => (.fail e, t)
  | (.ok written, t) => (.print (summary p written), t)

/-! ## The whole run -/

/-- mirrors `cmd_generate` -/
def generate (t : FileTree) (registry : Registry) (args : GenerateArgs) : Attempt Unit × FileTree :=
  let prepared := prepare t registry args
  match prepared.result with
  | none => (⟨none, prepared.lines, prepared.log⟩, t)
  | some (.error e) => (⟨some (.error e), prepared.lines, prepared.log⟩, t)
  | some (.ok p) =>
    let (delivered, u) := deliver t args p
    (prepared.andThen fun _ => delivered, u)

end GoGlue
