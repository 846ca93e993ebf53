import GoGlue.GoType
import GoGlue.Text.Uppercase

/-!
# The exported surface of a package

The functions, structs, fields and methods of one Go package, with resolved types.
-/
namespace GoGlue

/-- Go's export rule: the first character is upper case; mirrors `is_exported`. -/
def isExported (name : String) : Bool :=
  match name.toList with
  | [] => false
  | c :: _ => Text.isUppercase c

/-- A parameter or result; the name of an unnamed one is empty; mirrors `ParsedParam`. -/
structure Param where
  name : String
  type : GoType
  deriving Repr

/-- mirrors `unnamed` -/
def Param.unnamed (type : GoType) : Param := ⟨"", type⟩

/-- mirrors `Signature` -/
structure Signature where
  params : List Param
  results : List Param
  isVariadic : Bool
  deriving Repr

/-- mirrors `has_error_result` -/
def Signature.hasErrorResult (s : Signature) : Bool := s.results.any (·.type.isError)

/-- mirrors `ParsedFunc` -/
structure Func extends Signature where
  name : String
  doc : String
  deriving Repr

/-- mirrors `ParsedMethod` -/
structure Method extends Signature where
  name : String
  doc : String
  receiverName : String
  receiverType : String
  receiverIsPtr : Bool
  deriving Repr

/-- A field of a struct, with its tag as it is written, quotes included; mirrors `ParsedField`. -/
structure StructField where
  name : String
  type : GoType
  tag : String
  exported : Bool
  deriving Repr

/-- mirrors `ParsedStruct` -/
structure Struct where
  name : String
  doc : String
  fields : List StructField
  methods : List Method
  deriving Repr

namespace Struct

/-- mirrors `exported_fields` -/
def exportedFields (s : Struct) : List StructField := s.fields.filter (·.exported)

/-- mirrors `has_method` -/
def hasMethod (s : Struct) (name : String) : Bool := s.methods.any (·.name = name)

end Struct

/-- mirrors `ParsedPackage` -/
structure Package where
  name : String
  importPath : String
  /-- The directory it was read from; empty when it was read from memory. -/
  dir : String
  functions : List Func
  structs : List Struct
  deriving Repr

namespace Package

/-- mirrors `ParsedPackage.new` -/
def empty (name importPath : String) : Package := ⟨name, importPath, "", [], []⟩

/-- mirrors `find_function` -/
def findFunction (p : Package) (name : String) : Option Func := p.functions.find? (·.name = name)

/-- mirrors `find_struct` -/
def findStruct (p : Package) (name : String) : Option Struct := p.structs.find? (·.name = name)

/-- The import path that the glue is written for; the package's name when none is known;
mirrors `effective_import_path`. -/
def effectiveImportPath (p : Package) : String := if p.importPath = "" then p.name else p.importPath

end Package

end GoGlue
