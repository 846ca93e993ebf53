import GoGlue.Package.Json
import Mathlib.Data.List.Basic

/-!
# Packages survive their JSON form

Every part of a package is read back from its JSON form as it was written. What is left out when it is written
is what its reader takes for granted: an empty text, an absent part of a type. So a package that was read
from any JSON value at all, with members missing, `null` or unknown, is read again from its own JSON form.

* `Json.required_eq`, `Json.optional_text`, `Json.nullable_eq`, `Json.listOf_eq`: a member of a record is read
  back.
* `GoType.ofJson?_toJson`: a type is read back, however deep it is.
* `Package.ofJson?_toJson`: a package is read back.
* `Package.json_preserved`: neither writing nor reading loses anything.
-/
namespace GoGlue

namespace Json

/-! ## Members -/

section

variable {α : Type} {f : Json → Option α} {members : List (String × Json)} {key : String}

@[simp] theorem values_nil (key : String) : values [] key = [] := rfl

@[simp] theorem values_cons (m : String × Json) (members : List (String × Json)) (key : String) :
    values (m :: members) key = if m.1 = key then m.2 :: values members key else values members key := by
  by_cases h : m.1 = key <;> simp [values, h]

@[simp] theorem values_append (a b : List (String × Json)) (key : String) :
    values (a ++ b) key = values a key ++ values b key := by
  simp [values]

@[simp] theorem values_unlessEmpty (label text key : String) :
    values (unlessEmpty label text) key = if label = key ∧ text ≠ "" then [.string text] else [] := by
  unfold unlessEmpty
  split <;> simp_all

@[simp] theorem values_ifSome (label : String) (g : α → Json) (a : Option α) (key : String) :
    values (ifSome label g a) key = if label = key then (a.map g).toList else [] := by
  cases a <;> simp [ifSome]

/-- A member that is written always. -/
theorem required_eq {j : Json} (h : values members key = [j]) : required f members key = f j := by
  simp [required, get?, h]

theorem optional_eq {j : Json} (h : values members key = [j]) (default : α) :
    optional f default members key = f j := by
  simp [optional, get?, h]

/-- A text that is left out when it is empty. -/
theorem optional_text {s : String}
    (h : values members key = if s ≠ "" then [.string s] else []) :
    optional asString? "" members key = some s := by
  by_cases empty : s = "" <;> simp [optional, get?, h, empty, asString?]

/-- A part that is left out when it is absent. -/
theorem present?_eq {a : Option Json} (h : values members key = a.toList) (hn : a ≠ some .null) :
    present? members key = a := by
  cases a with
  | none => simp [present?, get?, h]
  | some j =>
    unfold present? get?
    rw [h]
    split
    · simp_all
    · simp

theorem nullable_eq {g : α → Json} {a : Option α} (h : values members key = (a.map g).toList)
    (hf : ∀ x, f (g x) = some x) (hn : ∀ x, g x ≠ .null) : nullable f members key = some a := by
  rw [nullable, present?_eq h (by cases a <;> simp [hn])]
  cases a <;> simp [hf]

theorem mapM_map {g : α → Json} (hf : ∀ x, f (g x) = some x) (l : List α) :
    (l.map g).mapM f = some l := by
  induction l with
  | nil => rfl
  | cons x l ih => simp [hf, ih]

theorem listOf_eq {g : α → Json} {l : List α} (h : values members key = [.array (l.map g)])
    (hf : ∀ x, f (g x) = some x) : listOf f members key = some l := by
  rw [listOf, optional_eq h]
  exact mapM_map hf l

theorem asWord?_toNat (n : UInt64) : (Json.nat n.toNat).asWord? = some n := by
  show (if h : n.toNat < UInt64.size then some (UInt64.ofNatLT n.toNat h) else none) = some n
  rw [dif_pos n.toNat_lt_size, UInt64.ofNatLT_toNat]

end

end Json

open Json

/-! ## Types -/

namespace GoType

theorem toJson_ne_null (t : GoType) : t.toJson ≠ .null := by
  obtain ⟨kind, name, package, elem, key, size⟩ := t
  simp [toJson]

theorem partJson_eq (label : String) (t : Option GoType) : partJson label t = ifSome label toJson t := by
  cases t <;> rfl

/-- A part of a type is read back if every type in it is. -/
theorem inside_part {t : Option GoType} {members : List (String × Json)} {label : String}
    (h : values members label = (t.map toJson).toList) (hp : ∀ u ∈ t, ofJson? u.toJson = some u) :
    inside members label (fun part _ => ofJson? part) = some t := by
  have present : present? members label = t.map toJson :=
    present?_eq h (by cases t <;> simp [toJson_ne_null])
  cases t with
  | none => exact inside_none _ _ _ present
  | some u =>
    rw [inside_some _ _ _ _ present, hp u rfl]
    rfl

mutual
/-- **A type is read back** from its JSON form, whatever its parts are. -/
theorem ofJson?_toJson (t : GoType) : ofJson? t.toJson = some t := by
  match t with
  | ⟨kind, name, package, elem, key, size⟩ =>
    have he := ofJson?_part elem
    have hk := ofJson?_part key
    rw [toJson, ofJson?, partJson_eq, partJson_eq]
    simp only [record?_object]
    rw [required_eq (j := .string kind.text) (by simp), required_eq (j := .string name) (by simp),
      nullable_eq (g := .string) (a := package) (by simp) (fun _ => rfl) (by simp),
      inside_part (t := elem) (by simp) he, inside_part (t := key) (by simp) hk,
      nullable_eq (g := fun n : UInt64 => .nat n.toNat) (a := size) (by simp) asWord?_toNat
        (by simp [Json.nat])]
    simp [asName?, asString?, TypeKind.ofText?_text]
theorem ofJson?_part (t : Option GoType) : ∀ u ∈ t, ofJson? u.toJson = some u := by
  match t with
  | none => simp
  | some t =>
    rintro u ⟨⟩
    exact ofJson?_toJson t
end

end GoType

/-! ## Callables -/

theorem Param.ofJson?_toJson (p : Param) : ofJson? p.toJson = some p := by
  simp only [toJson, ofJson?, record?_object, Option.bind_eq_bind, Option.bind_some]
  rw [optional_text (s := p.name) (by simp), required_eq (j := p.type.toJson) (by simp)]
  simp [GoType.ofJson?_toJson]

/-- The members of a signature are read back from any record that has them once. -/
theorem Signature.ofMembers?_eq {s : Signature} {m : List (String × Json)}
    (params : values m "params" = [.array (s.params.map Param.toJson)])
    (results : values m "results" = [.array (s.results.map Param.toJson)])
    (variadic : values m "isVariadic" = [.bool s.isVariadic]) : ofMembers? m = some s := by
  rw [ofMembers?, listOf_eq params Param.ofJson?_toJson, listOf_eq results Param.ofJson?_toJson,
    optional_eq variadic]
  rfl

theorem Func.ofJson?_toJson (f : Func) : ofJson? f.toJson = some f := by
  simp only [toJson, ofJson?, record?_object, Option.bind_eq_bind, Option.bind_some]
  rw [Signature.ofMembers?_eq (s := f.toSignature) (by simp [Signature.members])
      (by simp [Signature.members]) (by simp [Signature.members]),
    required_eq (j := .string f.name) (by simp [Signature.members]),
    optional_text (s := f.doc) (by simp [Signature.members])]
  rfl

theorem Method.ofJson?_toJson (f : Method) : ofJson? f.toJson = some f := by
  simp only [toJson, ofJson?, record?_object, Option.bind_eq_bind, Option.bind_some]
  rw [Signature.ofMembers?_eq (s := f.toSignature) (by simp [Signature.members])
      (by simp [Signature.members]) (by simp [Signature.members]),
    required_eq (j := .string f.name) (by simp [Signature.members]),
    optional_text (s := f.doc) (by simp [Signature.members]),
    optional_eq (j := .string f.receiverName) (by simp [Signature.members]),
    required_eq (j := .string f.receiverType) (by simp [Signature.members]),
    optional_eq (j := .bool f.receiverIsPtr) (by simp [Signature.members])]
  rfl

/-! ## Structs and packages -/

theorem StructField.ofJson?_toJson (f : StructField) : ofJson? f.toJson = some f := by
  simp only [toJson, ofJson?, record?_object, Option.bind_eq_bind, Option.bind_some]
  rw [required_eq (j := .string f.name) (by simp), required_eq (j := f.type.toJson) (by simp),
    optional_text (s := f.tag) (by simp), required_eq (j := .bool f.exported) (by simp)]
  simp [GoType.ofJson?_toJson, asString?, asBool?]

theorem Struct.ofJson?_toJson (s : Struct) : ofJson? s.toJson = some s := by
  simp only [toJson, ofJson?, record?_object, Option.bind_eq_bind, Option.bind_some]
  rw [required_eq (j := .string s.name) (by simp), optional_text (s := s.doc) (by simp),
    listOf_eq (l := s.fields) (by simp) StructField.ofJson?_toJson,
    listOf_eq (l := s.methods) (by simp) Method.ofJson?_toJson]
  rfl

namespace Package

/-- **A package is read back** from its JSON form. -/
theorem ofJson?_toJson (p : Package) : ofJson? p.toJson = some p := by
  simp only [toJson, ofJson?, record?_object, Option.bind_eq_bind, Option.bind_some]
  rw [required_eq (j := .string p.name) (by simp), optional_eq (j := .string p.importPath) (by simp),
    optional_eq (j := .string p.dir) (by simp), listOf_eq (l := p.functions) (by simp) Func.ofJson?_toJson,
    listOf_eq (l := p.structs) (by simp) Struct.ofJson?_toJson]
  rfl

/-- **Neither writing nor reading loses anything.** A package is read back as it was; and whatever value a
package was read from, its own form is read as that package again. -/
theorem json_preserved :
    (∀ p : Package, ofJson? p.toJson = some p) ∧
      ∀ (j : Json) (p : Package), ofJson? j = some p → ofJson? p.toJson = ofJson? j :=
  ⟨ofJson?_toJson, fun _ p read => (ofJson?_toJson p).trans read.symm⟩

/-- A type whose size is `null`. -/
def sparseElem : Json :=
  .object [("kind", .string "primitive"), ("name", .string "int"), ("size", .null)]

/-- A type given as an array, with its last values missing. -/
def sparseType : Json := .array [.string "slice", .string "[]int", .null, sparseElem]

/-- A package with members that are missing, empty and unknown. -/
def sparse : Json :=
  .object [("structs", .array [.object [("doc", .string ""), ("name", .string "Point"),
      ("fields", .array [.object [("exported", .bool true), ("name", .string "At"),
        ("type", sparseType)]])]]),
    ("version", .integer 2), ("name", .string "geo")]

def sparsePackage : Package where
  name := "geo"
  importPath := ""
  dir := ""
  functions := []
  structs := [⟨"Point", "", [⟨"At", .slice (.primitive "int"), "", true⟩], []⟩]

theorem ofJson?_sparseType : GoType.ofJson? sparseType = some (.slice (.primitive "int")) := by
  have elem : GoType.ofJson? sparseElem = some (.primitive "int") := by
    rw [GoType.ofJson?]
    rfl
  rw [sparseType, GoType.ofJson?]
  split
  case h_1 h => cases h
  case h_2 members h =>
    cases h
    rw [inside_some _ "elem" _ sparseElem rfl, elem]
    rfl

theorem json_preserved_sparse :
    ofJson? sparse = some sparsePackage ∧ sparsePackage.toJson ≠ sparse ∧
      ofJson? sparsePackage.toJson = ofJson? sparse := by
  have read : ofJson? sparse = some sparsePackage := by
    simp [sparse, sparsePackage, ofJson?, Struct.ofJson?, StructField.ofJson?, ofJson?_sparseType,
      record?, required, Json.optional, listOf, get?, values, asString?, asBool?, asArray?]
  exact ⟨read, by simp [toJson, sparse], json_preserved.2 sparse sparsePackage read⟩

end Package

end GoGlue
