import GoGlue.Name.Claim

/-!
# Names in the Python module
-/
namespace GoGlue

/-- mirrors `PY_KEYWORDS` -/
def pythonKeywords : List String :=
  ["False", "None", "True", "and", "as", "assert", "async", "await", "break", "class", "continue", "def",
    "del", "elif", "else", "except", "finally", "for", "from", "global", "if", "import", "in", "is",
    "lambda", "nonlocal", "not", "or", "pass", "raise", "return", "try", "while", "with", "yield"]

/-- What the module imports or defines for itself, without the names of `ctypes` that begin with `c_`;
mirrors `PY_MODULE_NAMES`. -/
def pythonModuleNames : List String :=
  ["os", "load_library", "free_handle", "byref", "string_at", "CDLL", "POINTER", "Any", "List",
    "Optional", "Tuple", "GoError"]

/-- The builtins that the module calls; mirrors `PY_BUILTINS`. -/
def pythonBuiltins : List String :=
  ["bytes", "len", "list", "range", "getattr", "str", "int", "float", "bool", "property", "classmethod",
    "object", "super", "type", "Exception", "OSError", "ValueError"]

/-- Names that would hide something the module refers to; mirrors `is_py_reserved`. -/
def pythonReserved : Reserved where
  names := pythonModuleNames ++ pythonBuiltins
  beginnings := ["c_", "_"]

/-- A keyword gets an underscore; mirrors `py_ident`. -/
def pythonIdent (name : String) : String := if name ∈ pythonKeywords then name ++ "_" else name

/-- The class of a struct: its name, with underscores where that is a keyword or taken; mirrors `py_class_name`. -/
def className (name : String) : String :=
  if pythonReserved.contains (pythonIdent name) then pythonIdent name ++ "_" else pythonIdent name

end GoGlue
