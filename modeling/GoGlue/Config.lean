import GoGlue.FileTree
import GoGlue.Json.Member
import GoGlue.Json.Reader
import GoGlue.Log

/-!
# Configuration files

The settings that a package directory brings with it: a JSON object in which every key is optional and
none is unknown or given twice, or an array of the first values in the order of the keys.

* `discover_missing`: a directory without the file has no settings.
-/
namespace GoGlue

/-- mirrors `FileConfig` -/
structure Config where
  plugin : Option String
  importPath : Option String
  output : Option String
  libraryName : Option String
  buildSystem : Option String
  verbose : Option Bool
  strict : Option Bool
  packaging : Option Bool
  deriving DecidableEq, Repr

/-- Why there is no configuration although there is a file. -/
inductive ConfigError where
  | unreadable (path : String)
  | invalid (path : String)
  deriving DecidableEq, Repr

def ConfigError.message : ConfigError → String
  | unreadable path => "Failed to read config '" ++ path ++ "'"
  | invalid path => "Invalid config '" ++ path ++ "'"

namespace Config

open Json

def empty : Config := ⟨none, none, none, none, none, none, none, none⟩

/-- The keys of a configuration in the order of its values. -/
def keys : List String :=
  ["plugin", "importPath", "output", "libraryName", "buildSystem", "verbose", "strict", "packaging"]

def ofJson? (j : Json) : Option Config := do
  let members ← record? keys j
  guard (distinctKeys members && members.all fun m => keys.contains m.1)
  return {
    plugin := ← nullable asString? members "plugin"
    importPath := ← nullable asString? members "importPath"
    output := ← nullable asString? members "output"
    libraryName := ← nullable asString? members "libraryName"
    buildSystem := ← nullable asString? members "buildSystem"
    verbose := ← nullable asBool? members "verbose"
    strict := ← nullable asBool? members "strict"
    packaging := ← nullable asBool? members "packaging" }

/-- Read the file at a path; mirrors `load`. -/
def load (t : FileTree) (path : String) : Except ConfigError Config :=
  match t.read path with
  | .error _ => .error (.unreadable path)
  | .ok text =>
    match (Json.read? text).bind ofJson? with
    | some config => .ok config
    | none => .error (.invalid path)

/-- Where the file of a directory is; mirrors `CONFIG_FILE`. -/
def pathIn (dir : String) : String := Path.join dir "gobridge.json"

/-- Read the file that was asked for, or else the one of the directory if there is one; mirrors `discover`. -/
def discover (t : FileTree) (dir : String) (explicit : Option String) :
    Except ConfigError Config × List LogRecord :=
  match explicit with
  | some path => (load t path, [])
  | none =>
    if t.isFile (pathIn dir) then (load t (pathIn dir), [.info ("using config " ++ pathIn dir)])
    else (.ok empty, [])

theorem discover_missing (t : FileTree) (dir : String) (h : t.isFile (pathIn dir) = false) :
    discover t dir none = (.ok empty, []) := by
  simp [discover, h]

end Config

end GoGlue
