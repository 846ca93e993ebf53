import GoGlue.PyModule.Binding

/-!
# Prelude of the module

What every module defines besides its bindings: loading the library, the error class, and the functions
that the bodies call to convert values and to release what the glue allocated.
-/
namespace GoGlue.Py

/-- A function of the prelude. -/
structure Routine where
  name : String
  /-- The parameters and the result. -/
  signature : String
  body : List Layout

def Routine.layout (r : Routine) : Layout := .indented ("def " ++ r.name ++ r.signature ++ ":") r.body

/-- The endings of shared libraries, in the order they are tried. -/
def eachEnding : String := "for ext in (\".so\", \".dylib\", \".dll\"):"

def loadLibrary : Routine :=
  ⟨"load_library", "() -> CDLL",
    [.line "\"\"\"Load the shared library, trying .so, .dylib and .dll in turn.\"\"\"",
      .line "here = os.path.dirname(os.path.abspath(__file__))",
      .indented eachEnding
        [.line "path = os.path.join(here, _LIB_NAME + ext)",
          .indented "if os.path.exists(path):" [.line "return CDLL(path)"]],
      .indented eachEnding
        [.indented "try:" [.line "return CDLL(_LIB_NAME + ext)"],
          .indented "except OSError:" [.line "continue"]],
      .line "raise OSError(f\"cannot load \x7b_LIB_NAME\x7d: no .so, .dylib or .dll found\")"]⟩

/-- The entry points of the prelude of the glue, all of which release something. -/
def releases : List Declaration :=
  [⟨"Free_String", [.voidP], none⟩, ⟨"Free_Bytes", [.voidP], none⟩, ⟨"Free_Handle", [.sizeT], none⟩]

def conversions : List Routine := [
  ⟨"_encode_string", "(value: Optional[str]) -> Optional[bytes]",
    [.indented "if value is None:" [.line "return None"], .line "return value.encode(\"utf-8\")"]⟩,
  ⟨"_decode_string", "(ptr: Optional[int]) -> str",
    [.line "\"\"\"Copy a C string allocated by Go and release it.\"\"\"",
      .indented "if not ptr:" [.line "return \"\""],
      .indented "try:" [.line "return string_at(ptr).decode(\"utf-8\")"],
      .indented "finally:" [.line "_lib.Free_String(ptr)"]]⟩,
  ⟨"_check_error", "(err: c_void_p) -> None",
    [.indented "if err.value:" [.line "raise GoError(_decode_string(err.value))"]]⟩,
  ⟨"_make_array", "(ctype: Any, values: Any) -> Tuple[Any, int]",
    [.line "items = list(values or [])",
      .line "return (ctype * len(items))(*items), len(items)"]⟩,
  ⟨"_fixed_array", "(ctype: Any, size: int, values: Any) -> Any",
    [.line "items = list(values or [])",
      .indented "if len(items) != size:"
        [.line
          "raise ValueError(f\"expected \x7bsize\x7d elements, got \x7blen(items)\x7d\")"],
      .line "return (ctype * size)(*items)"]⟩,
  ⟨"_take_buffer", "(ptr: Any, length: int, convert: Any = None) -> List[Any]",
    [.line "\"\"\"Copy an array allocated by Go and release it.\"\"\"",
      .indented "if not ptr:" [.line "return []"],
      .indented "try:" [.line "items = [ptr[i] for i in range(length)]"],
      .indented "finally:" [.line "_lib.Free_Bytes(ptr)"],
      .indented "if convert is None:" [.line "return items"],
      .line "return [convert(item) for item in items]"]⟩,
  ⟨"_take_bytes", "(ptr: Optional[int], length: int) -> bytes",
    [.indented "if not ptr:" [.line "return b\"\""],
      .indented "try:" [.line "return string_at(ptr, length)"],
      .indented "finally:" [.line "_lib.Free_Bytes(ptr)"]]⟩,
  ⟨"_handle_of", "(obj: Any) -> int",
    [.indented "if obj is None:" [.line "return 0"], .line "return obj._handle"]⟩,
  ⟨"free_handle", "(handle: int) -> None",
    [.line "\"\"\"Release a raw handle returned for a map, interface or foreign type.\"\"\"",
      .indented "if handle:" [.line "_lib.Free_Handle(handle)"]]⟩]

/-- The parts of the prelude in their order. -/
def preludeParts : List (List Layout) :=
  [[loadLibrary.layout],
    .line "_lib = load_library()" :: releases.flatMap Declaration.layout,
    [.indented "class GoError(Exception):"
      [.line "\"\"\"An error returned by the Go side.\"\"\""]]]
    ++ conversions.map fun r => [r.layout]

/-- The prelude; two blank lines come before each part; mirrors `RUNTIME`. -/
def preludeLayout : List Layout := preludeParts.flatMap fun part => .blank :: .blank :: part

end GoGlue.Py
