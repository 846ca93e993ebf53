import GoGlue.PyModule.Binding
import GoGlue.PyModule.Docstring

/-!
# Functions and classes

A function of the package becomes a function of the module, and a struct becomes a class that holds a
handle: its fields are properties and its methods are methods. The members of a class and the functions
of the module get names that nothing else there has.
-/
namespace GoGlue.Py

namespace Def

/-- A definition with its decorators; the docstring comes first. -/
def layout (d : Def) : List Layout :=
  d.decorators.map (fun decorator => .line ("@" ++ decorator))
    ++ [.indented
      ("def " ++ d.name ++ "(" ++ ", ".intercalate (d.params.map Parameter.text) ++ ") -> "
        ++ d.returns.text ++ ":")
      (docstring d.doc ++ Stmt.layouts d.body)]

def ctypesNames (d : Def) : List String := Stmt.ctypesNamesAll d.body

end Def

/-- A class that holds a handle to a Go struct. -/
structure Class where
  struct : String
  doc : String
  members : List Def
  deriving Repr

namespace Class

/-- Each member comes after a blank line. -/
def layout (c : Class) : List Layout :=
  [.blank, .blank,
    .indented ("class " ++ className c.struct ++ ":")
      (docstring c.doc ++ c.members.flatMap fun d => .blank :: d.layout)]

end Class

/-! ## Fixed members -/

/-- Names in a class that are not given to fields and methods. -/
def classMembers : List String := ["free", "_handle", "_from_handle", "property", "classmethod"]

def selfName : Expr := .name "self"

def handleOfSelf : Expr := .member selfName "_handle"

def initMember (struct : String) : Def :=
  ⟨[], "__init__", [.plain "self", ⟨"_handle", some (.optional (.scalar .int)), some .none, false⟩],
    .none, "",
    [.assign [handleOfSelf]
      (.conditional (.call (.entry (struct ++ "_New")) []) (.isNone (.name "_handle"))
        (.name "_handle"))]⟩

def fromHandleMember (struct : String) : Def :=
  ⟨["classmethod"], "_from_handle",
    [.plain "cls", .typed "handle" (.optional (.scalar .int))], .one (.optional (.cls struct)), "",
    [.ifs (.negation (.name "handle")) [.ret [.none]],
      .ret [.calls "cls" [.keyword "_handle" (.name "handle")]]]⟩

def freeMember (struct : String) : Def :=
  ⟨[], "free", [.plain "self"], .none, "Release the Go object. Safe to call more than once.",
    [.assign [.name "handle"] (.calls "getattr" [selfName, .text "_handle", .number 0]),
      .ifs (.name "handle")
        [.assign [handleOfSelf] (.number 0),
          .expr (.call (.entry (struct ++ "_Free")) [.name "handle"])]]⟩

def delMember : Def :=
  ⟨[], "__del__", [.plain "self"], .none, "",
    [.attempt [.expr (.call (.member selfName "free") [])] "Exception" [.pass]]⟩

def enterMember (struct : String) : Def :=
  ⟨[], "__enter__", [.plain "self"], .one (.cls struct), "", [.ret [selfName]]⟩

def exitMember : Def :=
  ⟨[], "__exit__", [.plain "self", ⟨"exc", some .any, none, true⟩], .none, "",
    [.expr (.call (.member selfName "free") [])]⟩

/-- The members that every class has; one with methods is also a context manager. -/
def fixedMembers (struct : String) (hasMethods : Bool) : List Def :=
  [initMember struct, fromHandleMember struct, freeMember struct, delMember]
    ++ if hasMethods then [enterMember struct, exitMember] else []

/-! ## Fields and methods -/

/-- The Python name of a field, method or function before it is claimed. -/
def memberName (name : String) : String := pythonIdent (snakeCase name)

/-- A property for a field that has a getter. Only a field that is passed as one value can be set:
anything else would hand Go a buffer that Python still owns. -/
def property (struct : String) (f : FieldSurface) (name : String) : List Def :=
  match f.getter with
  | none => []
  | some getter =>
    let get : Def :=
      ⟨["property"], name, [.plain "self"], returnHint getter, "",
        callBody (struct ++ "_Get" ++ f.field.name) true getter []⟩
    let set : List Def :=
      match f.setter with
      | none => []
      | some setter =>
        match setter.params with
        | [value] =>
          if value.shape = .scalar then
            [⟨[name ++ ".setter"], name, [.plain "self", .typed "value" (slotType value).hint], .none,
              "", callBody (struct ++ "_Set" ++ f.field.name) true setter ["value"]⟩]
          else []
        | _ => []
    get :: set

def methodMember (structs : StructNames) (struct : String) (m : MethodSurface) (name : String) :
    Option Def := do
  let names ← parameterNames structs m.plan
  return ⟨[], name, .plain "self" :: typedParams m.plan names, returnHint m.plan, m.method.doc,
    callBody (struct ++ "_" ++ m.method.name) true m.plan names⟩

/-- The fields that become properties. -/
def gettable (s : StructSurface) : List FieldSurface := s.fields.filter (·.getter.isSome)

/-- The class of a struct; there is none if a parameter cannot be named; mirrors `emit_class`. -/
def classOf (structs : StructNames) (s : StructSurface) : Option Class := do
  let fields := gettable s
  let names ← claimAll {} classMembers
    (fields.map (memberName ·.field.name) ++ s.methods.map (memberName ·.method.name))
  let properties := List.zipWith (property s.struct.name) fields names
  let methods ← (s.methods.zip (names.drop fields.length)).mapM fun (m, name) =>
    methodMember structs s.struct.name m name
  let doc :=
    if Text.trim s.struct.doc.toList = [] then "Handle to a Go " ++ s.struct.name ++ "."
    else s.struct.doc
  return ⟨s.struct.name, doc,
    fixedMembers s.struct.name (!s.methods.isEmpty) ++ properties.flatten ++ methods⟩

/-- The declarations of the entry points of a struct. -/
def structDeclarations (s : StructSurface) : List Declaration :=
  let struct := s.struct.name
  [⟨struct ++ "_New", [], some .sizeT⟩, ⟨struct ++ "_Free", [.sizeT], none⟩]
    ++ (s.fields.flatMap fun f =>
      f.getter.toList.map (declare (struct ++ "_Get" ++ f.field.name) true)
        ++ f.setter.toList.map (declare (struct ++ "_Set" ++ f.field.name) true))
    ++ s.methods.map fun m => declare (struct ++ "_" ++ m.method.name) true m.plan

/-! ## Functions -/

/-- mirrors `emit_function` -/
def functionOf (structs : StructNames) (package : String) (f : FuncSurface) (name : String) :
    Option Def := do
  let names ← parameterNames structs f.plan
  return ⟨[], name, typedParams f.plan names, returnHint f.plan, f.func.doc,
    callBody (package ++ "_" ++ f.func.name) false f.plan names⟩

/-- The functions of the module; there are none if a name cannot be claimed. -/
def functionsOf (structs : StructNames) (package : String) (fs : List FuncSurface) :
    Option (List Def) := do
  let names ← claimAll pythonReserved [] (fs.map (memberName ·.func.name))
  (fs.zip names).mapM fun (f, name) => functionOf structs package f name

end GoGlue.Py
