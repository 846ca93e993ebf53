import GoGlue.Package
import GoGlue.Json.Member

/-!
# The JSON form of a package

Every record is an object. An empty doc, tag or parameter name and an absent part of a type are left
out; lists and flags are always written, and may be left out where a package is read. Members with other
names are ignored, and a record is also read from an array of its values.
-/
namespace GoGlue

namespace Json

/-- A member that is left out when it is empty. -/
def unlessEmpty (key value : String) : List (String × Json) :=
  if value = "" then [] else [(key, .string value)]

/-- A member that is left out when it is absent. -/
def ifSome {α : Type} (key : String) (f : α → Json) : Option α → List (String × Json)
  | none => []
  | some a => [(key, f a)]

end Json

open Json

/-! ## Types -/

def TypeKind.text : TypeKind → String
  | primitive => "primitive"
  | string => "string"
  | struct => "struct"
  | slice => "slice"
  | array => "array"
  | map => "map"
  | pointer => "pointer"
  | interface => "interface"
  | func => "func"
  | chan => "chan"
  | error => "error"

def TypeKind.all : List TypeKind :=
  [primitive, string, struct, slice, array, map, pointer, interface, func, chan, error]

def TypeKind.ofText? (s : String) : Option TypeKind := all.find? (·.text = s)

theorem TypeKind.ofText?_text (k : TypeKind) : ofText? k.text = some k := by cases k <;> decide

mutual
def GoType.toJson : GoType → Json
  | ⟨kind, name, package, elem, key, size⟩ =>
    .object ([("kind", .string kind.text), ("name", .string name)]
      ++ ifSome "packagePath" .string package
      ++ partJson "elem" elem ++ partJson "key" key
      ++ ifSome "size" (fun n => .nat n.toNat) size)
def GoType.partJson (label : String) : Option GoType → List (String × Json)
  | none => []
  | some t => [(label, t.toJson)]
end

/-- The keys of a type in the order of its values. -/
def GoType.keys : List String := ["kind", "name", "packagePath", "elem", "key", "size"]

def GoType.ofJson? (j : Json) : Option GoType :=
  match h : record? keys j with
  | none => none
  | some members => do
    let kind ← required (fun k => k.asName?.bind TypeKind.ofText?) members "kind"
    let name ← required asString? members "name"
    let package ← nullable asString? members "packagePath"
    let elem ← inside members "elem" fun part hp =>
      have := sizeOf_record? h hp
      ofJson? part
    let key ← inside members "key" fun part hp =>
      have := sizeOf_record? h hp
      ofJson? part
    let size ← nullable asWord? members "size"
    return ⟨kind, name, package, elem, key, size⟩
termination_by sizeOf j

/-! ## Callables -/

def Param.toJson (p : Param) : Json :=
  .object (unlessEmpty "name" p.name ++ [("type", p.type.toJson)])

def Param.ofJson? (j : Json) : Option Param := do
  let m ← record? ["name", "type"] j
  return ⟨← optional asString? "" m "name", ← required GoType.ofJson? m "type"⟩

def Signature.members (s : Signature) : List (String × Json) :=
  [("params", .array (s.params.map Param.toJson)), ("results", .array (s.results.map Param.toJson)),
    ("isVariadic", .bool s.isVariadic)]

def Signature.ofMembers? (m : List (String × Json)) : Option Signature := do
  return ⟨← listOf Param.ofJson? m "params", ← listOf Param.ofJson? m "results",
    ← optional asBool? false m "isVariadic"⟩

def Func.toJson (f : Func) : Json :=
  .object ([("name", .string f.name)] ++ unlessEmpty "doc" f.doc ++ f.toSignature.members)

def Func.ofJson? (j : Json) : Option Func := do
  let m ← record? ["name", "doc", "params", "results", "isVariadic"] j
  return ⟨← Signature.ofMembers? m, ← required asString? m "name", ← optional asString? "" m "doc"⟩

def Method.toJson (f : Method) : Json :=
  .object ([("name", .string f.name)] ++ unlessEmpty "doc" f.doc
    ++ [("receiverName", .string f.receiverName), ("receiverType", .string f.receiverType),
      ("receiverIsPtr", .bool f.receiverIsPtr)] ++ f.toSignature.members)

def Method.ofJson? (j : Json) : Option Method := do
  let m ← record? ["name", "doc", "receiverName", "receiverType", "receiverIsPtr", "params", "results",
    "isVariadic"] j
  return ⟨← Signature.ofMembers? m, ← required asString? m "name",
    ← optional asString? "" m "doc", ← optional asString? "" m "receiverName",
    ← required asString? m "receiverType", ← optional asBool? false m "receiverIsPtr"⟩

/-! ## Structs and packages -/

def StructField.toJson (f : StructField) : Json :=
  .object ([("name", .string f.name), ("type", f.type.toJson)] ++ unlessEmpty "tag" f.tag
    ++ [("exported", .bool f.exported)])

def StructField.ofJson? (j : Json) : Option StructField := do
  let m ← record? ["name", "type", "tag", "exported"] j
  return ⟨← required asString? m "name", ← required GoType.ofJson? m "type",
    ← optional asString? "" m "tag", ← required asBool? m "exported"⟩

def Struct.toJson (s : Struct) : Json :=
  .object ([("name", .string s.name)] ++ unlessEmpty "doc" s.doc
    ++ [("fields", .array (s.fields.map StructField.toJson)),
      ("methods", .array (s.methods.map Method.toJson))])

def Struct.ofJson? (j : Json) : Option Struct := do
  let m ← record? ["name", "doc", "fields", "methods"] j
  return ⟨← required asString? m "name", ← optional asString? "" m "doc",
    ← listOf StructField.ofJson? m "fields", ← listOf Method.ofJson? m "methods"⟩

def Package.toJson (p : Package) : Json :=
  .object [("name", .string p.name), ("importPath", .string p.importPath), ("dir", .string p.dir),
    ("functions", .array (p.functions.map Func.toJson)),
    ("structs", .array (p.structs.map Struct.toJson))]

def Package.ofJson? (j : Json) : Option Package := do
  let m ← record? ["name", "importPath", "dir", "functions", "structs"] j
  return ⟨← required asString? m "name", ← optional asString? "" m "importPath",
    ← optional asString? "" m "dir", ← listOf Func.ofJson? m "functions",
    ← listOf Struct.ofJson? m "structs"⟩

end GoGlue
