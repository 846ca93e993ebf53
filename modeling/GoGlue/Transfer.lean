import GoGlue.Package
import GoGlue.Primitive

/-!
# Transfer strategies

How a value of a type crosses the boundary: by value, as an owned string, as a handle to an object that
stays on the Go side, as memory that holds elements, or through the error channel. Both sides of the glue
are made from the same strategy, so they agree on representation and ownership.

* `classify_struct`: a named type is always a handle.
-/
namespace GoGlue

/-- A part that the kind of a type asks for and that is missing. -/
inductive Malformed where
  | pointerElement | sliceElement | arrayElement | arrayLength
  deriving DecidableEq, Repr

def Malformed.text : Malformed → String
  | pointerElement => "pointer without element"
  | sliceElement => "slice without element"
  | arrayElement => "array without element"
  | arrayLength => "array length is not a literal"

/-- Why a type has no transfer strategy; mirrors `MappingError`. -/
inductive MappingError where
  | unsupported (cause : Unsupported)
  | malformed (cause : Malformed)
  deriving DecidableEq, Repr

def MappingError.message : MappingError → String
  | unsupported cause => cause.message
  | malformed cause => "malformed type: " ++ cause.text

/-- The names of the structs that the package declares; mirrors `StructRegistry`. -/
abbrev StructNames := List String

/-- mirrors `from_package` -/
def Package.structNames (p : Package) : StructNames := p.structs.map (·.name)

/-- What a handle refers to. A struct is known when the package declares it; mirrors `HandleKind`. -/
inductive HandleKind where
  | struct (name : String) (package : Option String) (known : Bool)
  | map
  | interface
  deriving DecidableEq, Repr

/-- mirrors `CompositeKind` -/
inductive CompositeKind where
  | bytes | slice | array
  /-- A pointer to something other than a known struct. -/
  | pointer
  deriving DecidableEq, Repr

/-- mirrors `Transfer` -/
inductive Transfer where
  | value (p : Primitive)
  | ownedString
  /-- A handle; zero stands for nil where that is allowed. -/
  | handle (kind : HandleKind) (nullable : Bool)
  /-- Memory that holds elements; the length is that of an array, and zero otherwise. -/
  | composite (kind : CompositeKind) (elem : Transfer) (len : UInt64)
  | errorOut
  deriving DecidableEq, Repr

namespace Transfer

/-- mirrors `is_handle` -/
def isHandle : Transfer → Bool
  | handle _ _ => true
  | _ => false

/-- The struct of the package that a handle refers to; mirrors `known_struct`. -/
def knownStruct : Transfer → Option String
  | handle (.struct name _ true) _ => some name
  | _ => none

/-- The receiver of the value has to release memory that the glue allocated; mirrors `needs_free`. -/
def needsFree : Transfer → Bool
  | ownedString | errorOut => true
  | composite kind _ _ => kind != .pointer
  | _ => false

end Transfer

/-- The type is a struct of the package itself; mirrors `is_known`. -/
def GoType.isKnown (structs : StructNames) (t : GoType) : Bool :=
  t.package.isNone && structs.contains t.name

/-- mirrors `struct_handle` -/
def GoType.structHandle (structs : StructNames) (t : GoType) : HandleKind :=
  .struct t.name t.package (t.isKnown structs)

/-- The strategy for the values of a type; mirrors `classify`. -/
def classify (structs : StructNames) : GoType → Except MappingError Transfer
  | ⟨.primitive, name, _, _, _, _⟩ => .ok (.value (.ofName name))
  | ⟨.string, _, _, _, _, _⟩ => .ok .ownedString
  | ⟨.error, _, _, _, _, _⟩ => .ok .errorOut
  | ⟨.struct, name, package, elem, key, size⟩ =>
    .ok (.handle (GoType.structHandle structs ⟨.struct, name, package, elem, key, size⟩) false)
  | ⟨.map, _, _, _, _, _⟩ => .ok (.handle .map false)
  | ⟨.interface, _, _, _, _, _⟩ => .ok (.handle .interface false)
  | ⟨.pointer, _, _, none, _, _⟩ => .error (.malformed .pointerElement)
  | ⟨.pointer, _, _, some e, _, _⟩ =>
    if e.kind = .struct && e.isKnown structs then .ok (.handle (e.structHandle structs) true)
    else (classify structs e).map (.composite .pointer · 0)
  | ⟨.slice, _, _, none, _, _⟩ => .error (.malformed .sliceElement)
  | ⟨.slice, name, package, some e, key, size⟩ =>
    let kind :=
      if GoType.isByteSlice ⟨.slice, name, package, some e, key, size⟩ then .bytes else .slice
    (classify structs e).map (.composite kind · 0)
  | ⟨.array, _, _, none, _, _⟩ => .error (.malformed .arrayElement)
  | ⟨.array, _, _, some _, _, none⟩ => .error (.malformed .arrayLength)
  | ⟨.array, _, _, some e, _, some len⟩ => (classify structs e).map (.composite .array · len)
  | ⟨.chan, _, _, _, _, _⟩ => .error (.unsupported .channel)
  | ⟨.func, _, _, _, _, _⟩ => .error (.unsupported .function)

theorem classify_struct (structs : StructNames) (name : String) :
    classify structs (.struct name) = .ok (.handle (.struct name none (structs.contains name)) false) := by
  simp [GoType.struct, GoType.leaf, classify, GoType.structHandle, GoType.isKnown]

end GoGlue
