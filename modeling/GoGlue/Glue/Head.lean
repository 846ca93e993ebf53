import GoGlue.Text.Sorted
import GoGlue.Writer

/-!
# Head of the glue file

What stands before the prelude: where the file comes from, what it includes, and the imports that were asked
for on the way, together with those of the prelude.
-/
namespace GoGlue

/-- The head of a glue file is known from the package and from the imports that were asked for. -/
structure GlueHead where
  importPath : String
  imports : List Import
  deriving Repr

namespace GlueHead

/-- The imports without a local name, with those of the prelude, sorted. -/
def plainImports (h : GlueHead) : List String :=
  let paths := (h.imports.filter (·.names = "")).map (·.source)
  Text.sortedSet ((paths ++ ["sync", "unsafe"]).map fun p => "\"" ++ p ++ "\"")

/-- The imports with a local name. -/
def namedImports (h : GlueHead) : List String :=
  (h.imports.filter (·.names ≠ "")).map fun i => i.names ++ " \"" ++ i.source ++ "\""

def importLayout (h : GlueHead) : List Layout :=
  let named := h.namedImports
  [.suite "import ("
    (h.plainImports.map .line ++ (if named = [] then [] else .blank :: named.map .line)) ")"]

/-- The lines of the head; mirrors `header`. -/
def header (h : GlueHead) : List Layout :=
  [.line ("// Code generated by gobridge from " ++ h.importPath ++ ". DO NOT EDIT."), .blank,
    .line "package main", .blank,
    .line "/*", .line "#include <stdbool.h>", .line "#include <stdint.h>",
    .line "#include <stdlib.h>", .line "*/", .line "import \"C\"", .blank]
    ++ h.importLayout ++ [.blank]

end GlueHead

end GoGlue
