import GoGlue.Plugin
import Std.Data.TreeMap

/-!
# Generated projects

The files that a plugin makes for a package, by path. A later file of the same path replaces an earlier
one.

* `get?_add`: a file that was added is found, and the others stay as they were.
-/
namespace GoGlue

/-- mirrors `GeneratedProject` -/
structure Project where
  contents : Std.TreeMap String String

namespace Project

def empty : Project := ⟨∅⟩

/-- mirrors `add_file` -/
def add (p : Project) (path content : String) : Project := ⟨p.contents.insert path content⟩

/-- mirrors `get` -/
def get? (p : Project) (path : String) : Option String := p.contents[path]?

/-- The files with their paths, in ascending order of the paths; mirrors `files`. -/
def files (p : Project) : List (String × String) := p.contents.toList

/-- mirrors `file_count` -/
def size (p : Project) : Nat := p.contents.size

theorem get?_add (p : Project) (path content other : String) :
    (p.add path content).get? other = if path = other then some content else p.get? other := by
  simp [get?, add, Std.TreeMap.getElem?_insert]

def ofList (files : List (String × String)) : Project :=
  files.foldl (fun p f => p.add f.1 f.2) empty

/-- The files of a plugin for a package whose main file has the given text. -/
def assemble (plugin : Plugin) (p : Package) (packaging : Bool) (text : String) : Project :=
  if packaging then ofList ((plugin.packagedOutput p, text) :: plugin.companions p)
  else ofList [(plugin.defaultOutput p, text)]

def record (plugin : Plugin) (p : Package) (project : Project) : LogRecord :=
  .debug (plugin.name ++ " produced " ++ toString project.size ++ " file(s) for package " ++ p.name)

/-- Run a plugin on a package; mirrors `generate_project`. -/
def generate (plugin : Plugin) (p : Package) (packaging : Bool) :
    Option (Except CodegenError Project) × List LogRecord :=
  match plugin.generate p with
  | (none, log) => (none, log)
  | (some (.error e), log) => (some (.error e), log)
  | (some (.ok text), log) =>
    let project := assemble plugin p packaging text
    (some (.ok project), log ++ [record plugin p project])

end Project

end GoGlue
