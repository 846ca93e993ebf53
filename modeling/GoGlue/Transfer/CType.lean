import GoGlue.Transfer

/-!
# C representation

The C type that stands for a Go type in the prototype of an entry point, and who owns what it refers to.
-/
namespace GoGlue

/-- A C type as the Go side spells it. -/
inductive CToken where
  | primitive (p : Primitive)
  | uintptr
  | int
  | char
  /-- A pointer to memory of no stated type. -/
  | memory
  | pointer (target : CToken)
  deriving DecidableEq, Repr

def CToken.text : CToken → String
  | primitive p => "C." ++ p.c
  | uintptr => "C.uintptr_t"
  | int => "C.int"
  | char => "C.char"
  | memory => "unsafe.Pointer"
  | pointer target => "*" ++ target.text

/-- mirrors `CType` -/
structure CType where
  token : CToken
  /-- The display name of the Go type. -/
  goName : String
  needsAlloc : Bool
  /-- The caller has to release the value. -/
  needsFree : Bool
  isHandle : Bool
  nullable : Bool
  /-- The value is stored through a pointer; only errors are. -/
  isOutParam : Bool
  elem : Option CType
  /-- The length of an array. -/
  len : UInt64
  deriving Repr

namespace CType

def plain (token : CToken) (goName : String) : CType :=
  ⟨token, goName, false, false, false, false, false, none, 0⟩

/-- The representation of a type whose strategy is given; mirrors `describe`. -/
def describe (t : GoType) : Transfer → CType
  | .value p => plain (.primitive p) t.name
  | .ownedString =>
    { plain (.pointer .char) t.name with needsAlloc := true, needsFree := true }
  | .errorOut =>
    { plain (.pointer (.pointer .char)) t.name with
      needsAlloc := true, needsFree := true, isOutParam := true }
  | .handle _ nullable => { plain .uintptr t.name with isHandle := true, nullable := nullable }
  | .composite .bytes _ _ => { plain .memory t.name with needsAlloc := true, needsFree := true }
  | .composite kind elem len =>
    let part := match t.elem with
      | some e => describe e elem
      | none => plain .memory ""
    let owned := kind != .pointer
    { plain (.pointer part.token) t.name with
      needsAlloc := owned, needsFree := owned, nullable := !owned, elem := some part, len := len }

end CType

end GoGlue
