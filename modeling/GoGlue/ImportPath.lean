import GoGlue.FileTree
import GoGlue.Text.Blank
import GoGlue.Text.Lines

/-!
# Import paths

The import path of a package directory: the path of the module it is in, followed by the names that lead
from the module's root to the directory. A module's root is a directory with a go.mod file.
-/
namespace GoGlue

/-! ## The module line -/

/-- The text up to the first two slashes. -/
def beforeComment : List Char → List Char
  | '/' :: '/' :: _ => []
  | c :: rest => c :: beforeComment rest
  | [] => []

/-- Drop quotes at both ends. -/
def trimQuotes (cs : List Char) : List Char :=
  ((cs.dropWhile (· = '"')).reverse.dropWhile (· = '"')).reverse

/-- The path on a module line; other lines have none. -/
def moduleOnLine? (line : List Char) : Option String :=
  match Text.trim line with
  | 'm' :: 'o' :: 'd' :: 'u' :: 'l' :: 'e' :: c :: rest =>
    let path := trimQuotes (Text.trim (beforeComment (c :: rest)))
    if Text.isBlank c ∧ path ≠ [] then some (String.ofList path) else none
  | _ => none

/-- The path of the module that a go.mod file is for; mirrors `module_path`. -/
def modulePath? (goMod : String) : Option String :=
  (Text.lines goMod.toList).findSome? moduleOnLine?

/-! ## Directories -/

/-- The go.mod file of a directory. -/
def goModPlace (dir : Place) : Place := dir ++ ["go.mod"]

def isModuleRoot (t : FileTree) (dir : Place) : Bool := t.isFileAt (t.resolve (goModPlace dir))

/-- The path of the module whose root is a directory. -/
def moduleAt? (t : FileTree) (dir : Place) : Option String :=
  match t.resolve (goModPlace dir) >>= t.readAt with
  | .ok text => modulePath? text
  | .error _ => none

/-- The import path of a directory that is given from its own name upwards. -/
def importPathUp? (t : FileTree) : List String → Option String
  | [] => if isModuleRoot t [] then moduleAt? t [] else none
  | name :: above =>
    let dir := (name :: above).reverse
    if isModuleRoot t dir then moduleAt? t dir
    else (importPathUp? t above).map fun path => path ++ "/" ++ name

/-- The import path of the directory that a path leads to; mirrors `infer_import_path`. -/
def importPath? (t : FileTree) (path : String) : Option String :=
  match t.locate path with
  | .ok dir => importPathUp? t dir.reverse
  | .error _ => none

end GoGlue
