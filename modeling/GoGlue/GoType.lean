/-!
# Go types as the glue sees them

A resolved type: its kind, its display name and, depending on the kind, a package qualifier, an element,
a key and a length. Named types are referred to by name only, so a type never contains the definition of
a struct. A type that was read from JSON may lack parts that its kind should have.
-/
namespace GoGlue

/-- mirrors `TypeKind` -/
inductive TypeKind where
  | primitive | string | struct | slice | array | map | pointer | interface | func | chan | error
  deriving DecidableEq, Repr

/-- A resolved type; mirrors `ParsedType`. -/
structure GoType where
  kind : TypeKind
  /-- The display name, such as `*Point` or `map[string]int`. -/
  name : String
  /-- The qualifier of a type from another package. -/
  package : Option String
  /-- What a pointer points to, the element of a slice or array, the value of a map. -/
  elem : Option GoType
  key : Option GoType
  /-- The length of an array, if it is known. -/
  size : Option UInt64
  deriving Repr

namespace GoType

/-! ## Constructors -/

/-- mirrors `leaf` -/
def leaf (kind : TypeKind) (name : String) : GoType := ⟨kind, name, none, none, none, none⟩

/-- mirrors `primitive` -/
def primitive (name : String) : GoType := leaf .primitive name

/-- mirrors `string` -/
def string : GoType := leaf .string "string"

/-- mirrors `error` -/
def error : GoType := leaf .error "error"

/-- mirrors `structure` -/
def struct (name : String) : GoType := leaf .struct name

/-- A type of another package, which is taken for a struct; mirrors `qualified`. -/
def qualified (package name : String) : GoType := { leaf .struct name with package := some package }

/-- mirrors `interface` -/
def interface : GoType := leaf .interface "interface\x7b\x7d"

/-- mirrors `pointer` -/
def pointer (elem : GoType) : GoType := { leaf .pointer ("*" ++ elem.name) with elem := some elem }

/-- mirrors `slice` -/
def slice (elem : GoType) : GoType := { leaf .slice ("[]" ++ elem.name) with elem := some elem }

/-- A variadic parameter is a slice that is displayed with an ellipsis; mirrors `variadic`. -/
def variadic (elem : GoType) : GoType := { leaf .slice ("..." ++ elem.name) with elem := some elem }

/-- mirrors `array` and `array_of_unknown_len` -/
def array (len : Option UInt64) (elem : GoType) : GoType :=
  let shown := match len with
    | some n => toString n.toNat
    | none => "?"
  { leaf .array ("[" ++ shown ++ "]" ++ elem.name) with elem := some elem, size := len }

/-- mirrors `map` -/
def map (key value : GoType) : GoType :=
  { leaf .map ("map[" ++ key.name ++ "]" ++ value.name) with elem := some value, key := some key }

/-! ## Properties -/

/-- mirrors `is_error` -/
def isError (t : GoType) : Bool := t.kind = .error

mutual
/-- The type, or a type inside it, is an array of unknown length; mirrors `has_unknown_len`. -/
def hasUnknownLen : GoType → Bool
  | ⟨kind, _, _, elem, key, size⟩ =>
    kind = .array && size.isNone || unknownLenInside elem || unknownLenInside key
def unknownLenInside : Option GoType → Bool
  | none => false
  | some t => t.hasUnknownLen
end

/-- A slice of bytes, which crosses the boundary as a raw buffer; mirrors `is_byte_slice`. -/
def isByteSlice (t : GoType) : Bool :=
  match t.kind, t.elem with
  | .slice, some e => e.kind = .primitive && (e.name = "byte" || e.name = "uint8")
  | _, _ => false

end GoType

/-- Why a type cannot cross the boundary; mirrors `UnsupportedType`. -/
inductive Unsupported where
  | channel | function | interface | anonymousStruct | generic
  deriving DecidableEq, Repr

namespace Unsupported

def shape : Unsupported → String
  | channel => "chan"
  | function => "func"
  | interface => "interface"
  | anonymousStruct => "struct"
  | generic => "generic"

def reason : Unsupported → String
  | channel => "channels cannot be exposed via cgo"
  | function => "function types cannot be exposed via cgo"
  | interface => "non-empty interfaces cannot be exposed via cgo"
  | anonymousStruct => "anonymous struct types cannot be exposed via cgo"
  | generic => "type parameters cannot be exposed via cgo"

def message (u : Unsupported) : String := "unsupported type " ++ u.shape ++ ": " ++ u.reason

end Unsupported

end GoGlue
