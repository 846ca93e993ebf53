import GoGlue.Writer

/-!
# Prelude of the glue

What every glue file declares besides its entry points: the table of handles, the conversions that the
bodies call, and the exported routines that release strings, memory and handles.

* `prelude_names`: every name is declared once.
-/
namespace GoGlue.Go

/-- A function of the prelude. -/
structure Routine where
  comment : List String
  name : String
  /-- What follows the name: type parameters, parameters and results. -/
  signature : String
  body : List Layout

/-- The variables of the table of handles, with what follows their names. -/
def handleTable : List (String × String) :=
  [("handleMu", "   sync.RWMutex"),
    ("handleMap", "  = make(map[C.uintptr_t]any)"),
    ("nextHandle", " C.uintptr_t = 1")]

def routines : List Routine := [
  ⟨[], "registerHandle", "(v any) C.uintptr_t",
    [.line "handleMu.Lock()", .line "defer handleMu.Unlock()", .line "h := nextHandle",
      .line "nextHandle++", .line "handleMap[h] = v", .line "return h"]⟩,
  ⟨[], "getHandle", "(h C.uintptr_t) (any, bool)",
    [.line "handleMu.RLock()", .line "defer handleMu.RUnlock()", .line "v, ok := handleMap[h]",
      .line "return v, ok"]⟩,
  ⟨[], "freeHandle", "(h C.uintptr_t)",
    [.line "handleMu.Lock()", .line "defer handleMu.Unlock()", .line "delete(handleMap, h)"]⟩,
  ⟨["// fromHandle returns the registered *T, or nil for 0, stale handles and",
      "// handles of another type."],
    "fromHandle", "[T any](h C.uintptr_t) *T",
    [.line "v, ok := getHandle(h)", .braced "if !ok" [.line "return nil"],
      .line "p, _ := v.(*T)", .line "return p"]⟩,
  ⟨["// valueOf returns a registered map or interface value."],
    "valueOf", "[T any](h C.uintptr_t) T",
    [.line "var zero T", .line "v, ok := getHandle(h)", .braced "if !ok" [.line "return zero"],
      .line "t, ok := v.(T)", .braced "if !ok" [.line "return zero"], .line "return t"]⟩,
  ⟨[], "derefOrZero", "[T any](p *T) T",
    [.braced "if p == nil" [.line "var zero T", .line "return zero"], .line "return *p"]⟩,
  ⟨[], "handleOf", "[T any](p *T) C.uintptr_t",
    [.braced "if p == nil" [.line "return 0"], .line "return registerHandle(p)"]⟩,
  ⟨[], "handleOfValue", "[T any](v T) C.uintptr_t", [.line "return registerHandle(&v)"]⟩,
  ⟨[], "anyHandle", "(v any) C.uintptr_t",
    [.braced "if v == nil" [.line "return 0"], .line "return registerHandle(v)"]⟩,
  ⟨["// allocSlice returns n elements of C memory, released with Free_Bytes."],
    "allocSlice", "[T any](n int) []T",
    [.braced "if n == 0" [.line "return nil"], .line "var zero T",
      .line "p := C.malloc(C.size_t(n) * C.size_t(unsafe.Sizeof(zero)))",
      .line "return unsafe.Slice((*T)(p), n)"]⟩,
  ⟨["//export Free_String"], "Free_String", "(s *C.char)", [.line "C.free(unsafe.Pointer(s))"]⟩,
  ⟨["//export Free_Bytes"], "Free_Bytes", "(p unsafe.Pointer)", [.line "C.free(p)"]⟩,
  ⟨["//export Free_Handle"], "Free_Handle", "(h C.uintptr_t)", [.line "freeHandle(h)"]⟩]

/-- The names that the prelude declares. -/
def preludeNames : List String := handleTable.map (·.1) ++ routines.map (·.name)

theorem prelude_names : preludeNames.Nodup := by decide

def Routine.layout (r : Routine) : List Layout :=
  .blank :: r.comment.map .line ++ [.braced ("func " ++ r.name ++ r.signature) r.body]

/-- mirrors `RUNTIME` -/
def preludeLayout : List Layout :=
  [.line "// Handle table shared by every entry point. Handle 0 is never issued and",
    .line "// stands for nil.",
    .suite "var (" (handleTable.map fun v => .line (v.1 ++ v.2)) ")"]
    ++ routines.flatMap Routine.layout

end GoGlue.Go
