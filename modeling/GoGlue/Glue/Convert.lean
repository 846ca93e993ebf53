import GoGlue.CallPlan
import GoGlue.Glue.Code

/-!
# Conversions of the glue

How the glue turns a C value into a Go value and back, for a type and its strategy. Only results are
converted into memory that the other side has to release.
-/
namespace GoGlue.Go

/-! ## From C -/

/-- The Go value of a C value. -/
inductive FromC where
  | convert (type : String)
  | goString
  /-- The object of a handle. -/
  | object (t : Ty)
  /-- A copy of the object of a handle. -/
  | objectValue (t : Ty)
  /-- The map or interface of a handle. -/
  | held (t : Ty)
  | same
  deriving DecidableEq, Repr

def FromC.apply (e : Expr) : FromC → Expr
  | convert type => .calls type [e]
  | goString => .ccall "GoString" [e]
  | object t => .call (.applied "fromHandle" t) [e]
  | objectValue t => .calls "derefOrZero" [.call (.applied "fromHandle" t) [e]]
  | held t => .call (.applied "valueOf" t) [e]
  | same => e

/-- mirrors `scalar_from_c` -/
def fromC (own : String) (t : GoType) : Transfer → FromC
  | .value _ => .convert t.name
  | .ownedString => .goString
  | .handle (.struct _ _ _) true => .object (Ty.ofGoType own (t.elem.getD t))
  | .handle (.struct _ _ _) false => .objectValue (Ty.ofGoType own t)
  | .handle _ _ => .held (Ty.ofGoType own t)
  | .composite _ _ _ | .errorOut => .same

/-! ## To C -/

/-- The C value of a Go value. -/
inductive IntoC where
  | convert (p : Primitive)
  /-- A new C string. -/
  | cString
  /-- A handle to what a pointer points to. -/
  | handle
  /-- A handle to a copy of a struct. -/
  | valueHandle
  /-- A handle to a map or interface. -/
  | anyHandle
  | same
  deriving DecidableEq, Repr

def IntoC.apply (e : Expr) : IntoC → Expr
  | convert p => .ccall p.c [e]
  | cString => .ccall "CString" [e]
  | handle => .calls "handleOf" [e]
  | valueHandle => .calls "handleOfValue" [e]
  | anyHandle => .calls "anyHandle" [e]
  | same => e

/-- mirrors `scalar_to_c` -/
def intoC : Transfer → IntoC
  | .value p => .convert p
  | .ownedString => .cString
  | .handle (.struct _ _ _) true => .handle
  | .handle (.struct _ _ _) false => .valueHandle
  | .handle _ _ => .anyHandle
  | .composite _ _ _ | .errorOut => .same

/-! ## Slots -/

/-- mirrors `c_type` -/
def slotToken (s : Slot) : CToken := (CType.describe s.type s.transfer).token

/-- The C type of what a pointer slot points to; mirrors `elem_c_type`. -/
def elemToken (s : Slot) : CToken :=
  match (CType.describe s.type s.transfer).elem with
  | some e => e.token
  | none => .primitive .int

/-- The local that holds the Go value of a parameter. -/
def localOf (name : String) : String := "_" ++ name

/-- The name of the element count of a buffer. -/
def lengthName (name : String) : String := name ++ "Len"

/-- Make the Go argument of a parameter: the statements that prepare it, and the argument; mirrors `param_to_go`. -/
def argument (own : String) (s : Slot) : List Stmt × Expr :=
  let x := Expr.name s.name
  let loc := localOf s.name
  /- Elements are copied from C memory unless the pointer is null. -/
  let copyIn (decl : Stmt) (count : Expr) (conv : Expr → Expr) : List Stmt × Expr :=
    ([decl,
      .ifs (.notNil x)
        [.range "_i" "_v" (.call (.library "unsafe" "Slice") [x, count])
          [.assign (.index (.name loc) (.name "_i")) (conv (.name "_v"))]]],
      .name loc)
  let length := Expr.calls "int" [.name (lengthName s.name)]
  match s.shape with
  | .scalar => ([], (fromC own s.type s.transfer).apply x)
  | .buffer =>
    if s.isBytes then ([], .ccall "GoBytes" [x, .name (lengthName s.name)])
    else
      match s.elem with
      | none => ([], .nil)
      | some (t, tr) =>
        copyIn (.define [loc] (.calls "make" [.type (.slice (Ty.ofGoType own t)), length])) length
          fun v => (fromC own t tr).apply v
  | .fixed n =>
    match s.elem with
    | none => ([], .nil)
    | some (t, tr) =>
      copyIn (.declare loc (.array n (Ty.ofGoType own t))) (.number n.toNat)
        fun v => (fromC own t tr).apply v
  | .pointer =>
    let t := match s.type.elem with
      | some e => Ty.ofGoType own e
      | none => .name "int"
    ([.declare loc (.pointer t),
      .ifs (.notNil x)
        [.define [loc ++ "v"] (.call (.type t) [.deref x]),
          .assign (.name loc) (.address (.name (loc ++ "v")))]],
      .name loc)

/-- Copy a Go slice or array into C memory: the statements that do it, and the pointer. `k` numbers the
buffer; mirrors `buffer_to_c`. -/
def bufferIntoC (s : Slot) (var : String) (k : Nat) : List Stmt × Expr :=
  if s.isBytes then ([], .ccall "CBytes" [.name var])
  else
    match s.elem with
    | none => ([], .nil)
    | some (t, tr) =>
      let buffer := "_c" ++ toString k
      ([.define [buffer]
          (.call (.applied "allocSlice" (.c (CType.describe t tr).token)) [.calls "len" [.name var]]),
        .range "_i" "_v" (.name var)
          [.assign (.index (.name buffer) (.name "_i")) ((intoC tr).apply (.name "_v"))]],
        .call (.library "unsafe" "SliceData") [.name buffer])

end GoGlue.Go
