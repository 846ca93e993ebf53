import GoGlue.GoType
import GoGlue.Decl

/-!
# Resolving type expressions

A written type becomes a resolved one, or is refused because its shape cannot cross the boundary. A name
outside the table of predeclared types is taken for a struct of the package itself, a qualified name for
one of another package.
-/
namespace GoGlue

/-- The predeclared types that cross the boundary by value. -/
def predeclaredValues : List String :=
  ["int", "int8", "int16", "int32", "int64", "uint", "uint8", "uint16", "uint32", "uint64", "float32",
    "float64", "bool", "byte", "rune", "uintptr"]

/-- The type that a bare name stands for; mirrors `ident_type`. -/
def GoType.ofName (name : String) : GoType :=
  if name ∈ predeclaredValues then .primitive name
  else if name = "string" then .string
  else if name = "error" then .error
  else if name = "any" then .interface
  else .struct name

/-- mirrors `resolve_type` -/
def TypeExpr.resolve : TypeExpr → Except Unsupported GoType
  | ident name => .ok (.ofName name)
  | selector package name => .ok (.qualified package name)
  | pointer elem => elem.resolve.map .pointer
  | slice elem => elem.resolve.map .slice
  | array len elem => elem.resolve.map (.array len)
  | map key value => do return .map (← key.resolve) (← value.resolve)
  | ellipsis elem => elem.resolve.map .variadic
  | interface true => .ok .interface
  | interface false => .error .interface
  | chan _ _ => .error .channel
  | func _ _ => .error .function
  | struct _ => .error .anonymousStruct
  | generic _ _ => .error .generic

end GoGlue
