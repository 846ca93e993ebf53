import GoGlue.Writer

/-!
# Head of the module

What stands before the prelude: where the module comes from, what it imports, and the library that it loads.
-/
namespace GoGlue

/-- The head of a module is known from the package, the library and the names that are imported from `ctypes`. -/
structure PyHead where
  package : String
  importPath : String
  /-- The name of the shared library, without an ending. -/
  library : String
  /-- The names that are imported from `ctypes`, sorted. -/
  ctypesNames : List String
  deriving Repr

/-- The lines of the head. -/
def PyHead.header (h : PyHead) : List Layout :=
  [.line ("# Code generated by gobridge from " ++ h.importPath ++ ". DO NOT EDIT."),
    .line ("\"\"\"Python bindings for the " ++ h.package ++ " Go package.\"\"\""), .blank,
    .line "import os",
    .suite "from ctypes import (" (h.ctypesNames.map fun n => .line (n ++ ",")) ")",
    .line "from typing import Any, List, Optional, Tuple", .blank,
    .line ("_LIB_NAME = \"" ++ h.library ++ "\"")]

end GoGlue
