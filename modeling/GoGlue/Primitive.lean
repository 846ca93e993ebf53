/-!
# Primitives

The primitive Go types of fixed width, with the type that stands for each in C, in `ctypes` and in Python
type hints.
-/
namespace GoGlue

/-- mirrors `PRIMITIVES` -/
inductive Primitive where
  | int | int8 | int16 | int32 | int64
  | uint | uint8 | byte | uint16 | uint32 | uint64 | uintptr
  | rune | float32 | float64 | bool
  deriving DecidableEq, Repr

/-- The Python type that the value of a primitive has. -/
inductive PyScalar where
  | int | float | bool
  deriving DecidableEq, Repr

def PyScalar.text : PyScalar → String
  | int => "int"
  | float => "float"
  | bool => "bool"

namespace Primitive

def all : List Primitive :=
  [int, int8, int16, int32, int64, uint, uint8, byte, uint16, uint32, uint64, uintptr, rune, float32,
    float64, bool]

/-- The name of the type in Go, which is also its conversion. -/
def go : Primitive → String
  | int => "int"
  | int8 => "int8"
  | int16 => "int16"
  | int32 => "int32"
  | int64 => "int64"
  | uint => "uint"
  | uint8 => "uint8"
  | byte => "byte"
  | uint16 => "uint16"
  | uint32 => "uint32"
  | uint64 => "uint64"
  | uintptr => "uintptr"
  | rune => "rune"
  | float32 => "float32"
  | float64 => "float64"
  | bool => "bool"

/-- The name of the C type, as it follows the qualifier `C` in Go. -/
def c : Primitive → String
  | int => "longlong"
  | int8 => "int8_t"
  | int16 => "int16_t"
  | int32 | rune => "int32_t"
  | int64 => "int64_t"
  | uint => "ulonglong"
  | uint8 | byte => "uint8_t"
  | uint16 => "uint16_t"
  | uint32 => "uint32_t"
  | uint64 => "uint64_t"
  | uintptr => "uintptr_t"
  | float32 => "float"
  | float64 => "double"
  | bool => "bool"

/-- The class of the C type in `ctypes`. -/
def ctypes : Primitive → String
  | int => "c_longlong"
  | int8 => "c_int8"
  | int16 => "c_int16"
  | int32 | rune => "c_int32"
  | int64 => "c_int64"
  | uint => "c_ulonglong"
  | uint8 | byte => "c_uint8"
  | uint16 => "c_uint16"
  | uint32 => "c_uint32"
  | uint64 => "c_uint64"
  | uintptr => "c_size_t"
  | float32 => "c_float"
  | float64 => "c_double"
  | bool => "c_bool"

def py : Primitive → PyScalar
  | float32 | float64 => .float
  | bool => .bool
  | _ => .int

/-- The primitive of a Go name; every other name, such as that of a complex type, is treated as `int`;
mirrors `primitive`. -/
def ofName (name : String) : Primitive := (all.find? (·.go = name)).getD .int

end Primitive

end GoGlue
