import GoGlue.Name.Python
import GoGlue.Transfer

/-!
# Python representation

The `ctypes` class that binds a C type, as an argument and as a result, and the type hint of the Python
value. A result that the glue allocated is bound as a bare pointer, so that it can be released.
-/
namespace GoGlue

/-- A class of `ctypes`, or a pointer to one. -/
inductive CtypesToken where
  | primitive (p : Primitive)
  | sizeT
  | int
  | charP
  | voidP
  | pointer (target : CtypesToken)
  deriving DecidableEq, Repr

namespace CtypesToken

def text : CtypesToken → String
  | primitive p => p.ctypes
  | sizeT => "c_size_t"
  | int => "c_int"
  | charP => "c_char_p"
  | voidP => "c_void_p"
  | pointer target => "POINTER(" ++ target.text ++ ")"

/-- The names of `ctypes` that the spelling uses. -/
def names : CtypesToken → List String
  | pointer target => "POINTER" :: target.names
  | token => [token.text]

end CtypesToken

/-- A Python type hint. -/
inductive PyHint where
  | scalar (s : PyScalar)
  | str
  | bytes
  | any
  /-- The class of a struct of the package. -/
  | cls (struct : String)
  | optional (h : PyHint)
  | list (h : PyHint)
  deriving DecidableEq, Repr

def PyHint.text : PyHint → String
  | scalar s => s.text
  | str => "str"
  | bytes => "bytes"
  | any => "Any"
  | cls struct => "\"" ++ className struct ++ "\""
  | optional h => "Optional[" ++ h.text ++ "]"
  | list h => "List[" ++ h.text ++ "]"

/-- mirrors `PyType` -/
structure PyType where
  /-- The class of an argument. -/
  token : CtypesToken
  /-- The class of a result. -/
  returned : CtypesToken
  hint : PyHint
  needsFree : Bool
  isHandle : Bool
  nullable : Bool
  isError : Bool
  isString : Bool
  elem : Option PyType
  /-- The length of an array. -/
  len : UInt64
  deriving Repr

namespace PyType

def plain (token : CtypesToken) (hint : PyHint) : PyType :=
  ⟨token, token, hint, false, false, false, false, false, none, 0⟩

/-- The hint of a handle: the class of a known struct, and a bare number for everything else. -/
def handleHint (kind : HandleKind) (nullable : Bool) : PyHint :=
  match kind with
  | .struct name _ true => if nullable then .optional (.cls name) else .cls name
  | _ => .scalar .int

/-- The representation of a type whose strategy is given; mirrors `describe`. -/
def describe (t : GoType) : Transfer → PyType
  | .value p => plain (.primitive p) (.scalar p.py)
  | .ownedString =>
    { plain .charP .str with returned := .voidP, needsFree := true, isString := true }
  | .errorOut => { plain (.pointer .voidP) .str with needsFree := true, isError := true }
  | .handle kind nullable =>
    { plain .sizeT (handleHint kind nullable) with isHandle := true, nullable := nullable }
  | .composite .bytes _ _ => { plain .voidP .bytes with needsFree := true }
  | .composite kind elem len =>
    let part := match t.elem with
      | some e => describe e elem
      | none => plain .voidP .any
    let owned := kind != .pointer
    { plain (.pointer part.token) (if owned then .list part.hint else .optional part.hint) with
      returned := .pointer part.returned, needsFree := owned, nullable := !owned,
      elem := some part, len := len }

end PyType

end GoGlue
