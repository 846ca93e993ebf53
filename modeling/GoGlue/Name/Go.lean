import GoGlue.Name.Claim
import GoGlue.Text.Alphabetic
import GoGlue.Text.Number

/-!
# Names in the Go glue

Parameter names must fit the C header that is made from the glue, and must not hide what the body of an
entry point refers to.
-/
namespace GoGlue

/-- Words that cannot name a parameter in the C header; mirrors `C_KEYWORDS`. -/
def cKeywords : List String :=
  ["auto", "char", "double", "enum", "extern", "float", "inline", "int", "long", "register", "restrict",
    "short", "signed", "sizeof", "static", "typedef", "union", "unsigned", "void", "volatile", "while",
    "do", "bool"]

/-- Names that every entry point may declare for itself; mirrors `GLUE_RESERVED`. -/
def glueNames : List String := ["handle", "outError", "outLen", "value"]

/-- The name of a parameter in the C header: a nameless one is called after its place, and a word that is
taken there gets an underscore; mirrors `c_param_name`. -/
def parameterName (name : String) (index : Nat) : String :=
  if name = "" ∨ name = "_" then "arg" ++ toString index
  else if name ∈ cKeywords ∨ name ∈ glueNames then name ++ "_"
  else name

/-- What the body of an entry point refers to besides its parameters. A local of the body is its name
here with an underscore before it; mirrors `GO_RESERVED`. -/
def goReserved : List String :=
  ["C", "unsafe", "sync", "any", "nil", "true", "false", "len", "make", "bool", "byte", "rune", "string",
    "error", "int", "int8", "int16", "int32", "int64", "uint", "uint8", "uint16", "uint32", "uint64",
    "uintptr", "float32", "float64", "complex64", "complex128", "registerHandle", "getHandle",
    "freeHandle", "fromHandle", "valueOf", "derefOrZero", "handleOf", "handleOfValue", "anyHandle",
    "allocSlice", "obj", "recv", "err", "i", "v"]

/-- The name of a package that can be imported: an identifier; mirrors `is_go_identifier`. -/
def isGoIdentifier (name : String) : Bool :=
  match name.toList with
  | [] => false
  | c :: rest =>
    (c == '_' || Text.isAlphabetic c)
      && rest.all fun c => c == '_' || Text.isAlphabetic c || Text.isNumber c

end GoGlue
