import GoGlue.Emission
import GoGlue.PyModule.Class
import GoGlue.PyModule.Head
import GoGlue.PyModule.Prelude
import GoGlue.Text.Sorted
import GoGlue.Text.Words

/-!
# Emitting the module

How the module is written, step by step. Two texts grow beside each other, the declarations of the entry points
and the body with the classes and functions, and whenever a class of `ctypes` is spelled it is noted, so that it
can be imported. Only the claims of names may never return.
-/
namespace GoGlue.Py

open Emission

/-- A step of the emitter. -/
inductive Step where
  | proto (s : Writer.Step)
  | body (s : Writer.Step)
  | note (token : String)
  deriving Repr

/-! ## Names of `ctypes` -/

/-- A word that is imported from `ctypes` when it is noted. -/
def isNoted (word : String) : Bool := word = "POINTER" || word = "byref" || beginsWith "c_" word

/-- The names of `ctypes` in a token. -/
def noted (token : String) : List String := (Text.words token).filter isNoted

/-- What is imported in any case. -/
def initialCtypes : List String := ["CDLL", "c_size_t", "c_void_p", "string_at"]

/-- The texts so far, and what is to be imported from `ctypes`, sorted. -/
structure Emitter where
  protos : Writer
  body : Writer
  ctypes : List String
  deriving Repr

namespace Emitter

def new : Emitter := ⟨.new (.spaces 4), .new (.spaces 4), initialCtypes⟩

def apply (e : Emitter) : Step → Emitter
  | .proto s => { e with protos := s.apply e.protos }
  | .body s => { e with body := s.apply e.body }
  | .note token => { e with ctypes := (noted token).foldr Text.insertSorted e.ctypes }

def run (e : Emitter) (steps : List Step) : Emitter := steps.foldl apply e

end Emitter

/-- Note the names of `ctypes` in a token; mirrors `note`. -/
def note (token : String) : Emission Step Unit := step (.note token)

/-- Write to the body. -/
def inBody {α : Type} (x : Emission Writer.Step α) : Emission Step α := x.mapSteps .body

/-- Write to the declarations. -/
def inProtos {α : Type} (x : Emission Writer.Step α) : Emission Step α := x.mapSteps .proto

/-! ## Declarations -/

/-- Declare the classes of an entry point; mirrors `prototype`. -/
def emitPrototype (symbol : String) (args : List String) (result : String) : Emission Step Unit := do
  let args := ", ".intercalate args
  note args
  note result
  inProtos do
    line ("_lib." ++ symbol ++ ".argtypes = [" ++ args ++ "]")
    line ("_lib." ++ symbol ++ ".restype = " ++ result)

/-- The classes of the arguments of an entry point. -/
def classTexts (bound : Bool) (plan : CallPlan) : List String :=
  (if bound then ["c_size_t"] else [])
    ++ (plan.params.flatMap fun s =>
      (slotType s).token.text :: if s.shape = .buffer then ["c_int"] else [])
    ++ (match plan.returned with
      | some s => if s.shape = .buffer then ["POINTER(c_int)"] else []
      | none => plan.results.flatMap fun s =>
        ("POINTER(" ++ (slotType s).returned.text ++ ")")
          :: if s.shape = .buffer then ["POINTER(c_int)"] else [])
    ++ if plan.hasError then ["POINTER(c_void_p)"] else []

/-- Declare the entry point of a plan; mirrors `declare`. -/
def emitDeclare (symbol : String) (bound : Bool) (plan : CallPlan) : Emission Step Unit :=
  let result := match plan.returned with
    | some s => (slotType s).returned.text
    | none => "None"
  emitPrototype symbol (classTexts bound plan) result

/-! ## Conversions -/

/-- The raw value of a Python value; mirrors `scalar_to_c`. -/
def rawText (tr : Transfer) (expr : String) : String :=
  match tr with
  | .ownedString => "_encode_string(" ++ expr ++ ")"
  | tr => if tr.knownStruct.isSome then "_handle_of(" ++ expr ++ ")" else expr

/-- The function that turns a raw value into a Python value, if there is anything to do; mirrors
`elem_converter`. -/
def converterText (tr : Transfer) : Option String :=
  match tr with
  | .ownedString => some "_decode_string"
  | tr => tr.knownStruct.map fun struct => className struct ++ "._from_handle"

/-- The Python value of a raw value; mirrors `scalar_from_c`. -/
def valueText (tr : Transfer) (expr : String) : String :=
  match converterText tr with
  | some conv => conv ++ "(" ++ expr ++ ")"
  | none => expr

/-- The raw values of the items of a list. -/
def itemsText (tr : Transfer) (name : String) : String :=
  let conv := rawText tr "v"
  if conv = "v" then name else "[" ++ conv ++ " for v in (" ++ name ++ " or [])]"

/-- The arguments of a parameter, with the lines that prepare them; mirrors `param_to_c`. -/
def paramToC (s : Slot) (name : String) : Emission Step (List String) :=
  let loc := "_" ++ name
  match s.shape with
  | .scalar => return [rawText s.transfer name]
  | .buffer =>
    if s.isBytes then do
      inBody (line (loc ++ " = bytes(" ++ name ++ " or b\"\")"))
      return [loc, "len(" ++ loc ++ ")"]
    else
      match s.elem with
      | none => return ["None"]
      | some (t, tr) => do
        let ctype := (PyType.describe t tr).token.text
        note ctype
        inBody (line (loc ++ ", " ++ loc ++ "_len = _make_array(" ++ ctype ++ ", " ++ itemsText tr name ++ ")"))
        return [loc, loc ++ "_len"]
  | .fixed n =>
    match s.elem with
    | none => return ["None"]
    | some (t, tr) => do
      let ctype := (PyType.describe t tr).token.text
      note ctype
      inBody (line (loc ++ " = _fixed_array(" ++ ctype ++ ", " ++ toString n.toNat ++ ", " ++ itemsText tr name ++ ")"))
      return [loc]
  | .pointer => do
    let ctype := match (slotType s).elem with
      | some e => e.token.text
      | none => "c_longlong"
    note ctype
    note "byref"
    inBody (line (loc ++ " = None if " ++ name ++ " is None else byref(" ++ ctype ++ "(" ++ name ++ "))"))
    return [loc]

/-- The items of a buffer with the given raw value and element count. -/
def takeText (s : Slot) (expr count : String) : String :=
  match s.elem.bind fun e => converterText e.2 with
  | some conv => "_take_buffer(" ++ expr ++ ", " ++ count ++ ", " ++ conv ++ ")"
  | none => "_take_buffer(" ++ expr ++ ", " ++ count ++ ")"

/-- The Python value of a result with the given raw value and element count; mirrors `result_from_c`. -/
def resultText (s : Slot) (expr len : String) : String :=
  match s.shape with
  | .scalar | .pointer => valueText s.transfer expr
  | .buffer => if s.isBytes then "_take_bytes(" ++ expr ++ ", " ++ len ++ ")" else takeText s expr len
  | .fixed n => takeText s expr (toString n.toNat)

/-! ## Bodies -/

/-- Make room for a result that is stored through a pointer, and hand its arguments on. -/
def emitRoom (s : Slot) : Emission Step (List String) := do
  let loc := "_" ++ s.name
  let ctype := (slotType s).returned.text
  note ctype
  note "byref"
  inBody (line (loc ++ " = " ++ ctype ++ "()"))
  if s.shape = .buffer then
    note "c_int"
    inBody (line (loc ++ "_len = c_int()"))
    return ["byref(" ++ loc ++ ")", "byref(" ++ loc ++ "_len)"]
  return ["byref(" ++ loc ++ ")"]

/-- Make room for the results that are stored through pointers. -/
def emitResultRooms (plan : CallPlan) : Emission Step (List String) :=
  match plan.returned with
  | some s =>
    if s.shape = .buffer then do
      note "c_int byref"
      inBody (line "_len = c_int()")
      return ["byref(_len)"]
    else return []
  | none => do
    let rooms ← each plan.results emitRoom
    return rooms.flatten

/-- Make room for everything that is stored through a pointer. -/
def emitRooms (plan : CallPlan) : Emission Step (List String) := do
  let rooms ← emitResultRooms plan
  if plan.hasError then
    note "byref"
    inBody (line "_err = c_void_p()")
    return rooms ++ ["byref(_err)"]
  return rooms

/-- The Python value of a result that was stored through a pointer. -/
def storedText (s : Slot) : String :=
  let loc := "_" ++ s.name
  match s.shape with
  | .scalar | .pointer => resultText s (loc ++ ".value") ""
  | .buffer =>
    if s.isBytes then resultText s (loc ++ ".value") (loc ++ "_len.value")
    else resultText s loc (loc ++ "_len.value")
  | .fixed _ => resultText s loc (loc ++ "_len.value")

/-- Make the call and return the results. -/
def emitOutcome (plan : CallPlan) (call : String) : Emission Step Unit :=
  match plan.returned with
  | some s =>
    let value := resultText s "_res" "_len.value"
    if value = "_res" then inBody (line ("return " ++ call))
    else inBody do
      line ("_res = " ++ call)
      line ("return " ++ value)
  | none => inBody do
    line call
    if plan.hasError then line "_check_error(_err)"
    let values := plan.results.map storedText
    if values ≠ [] then line ("return " ++ ", ".intercalate values)

/-- The body of a function; mirrors `emit_call`. -/
def emitCall (symbol : String) (bound : Bool) (plan : CallPlan) (names : List String) :
    Emission Step Unit := do
  let converted ← each (plan.params.zip names) fun (s, name) => paramToC s name
  let rooms ← emitRooms plan
  let args := (if bound then ["self._handle"] else []) ++ converted.flatten ++ rooms
  emitOutcome plan ("_lib." ++ symbol ++ "(" ++ ", ".intercalate args ++ ")")

/-! ## Definitions -/

/-- The lines of a docstring; mirrors `docstring`. -/
def emitDocstring (doc : String) : Emission Writer.Step Unit :=
  match Text.lines (padQuote (escapeDoc (Text.trim doc.toList))) with
  | [] => pure ()
  | [only] => line ("\"\"\"" ++ String.ofList only ++ "\"\"\"")
  | first :: rest => do
    line ("\"\"\"" ++ String.ofList first)
    forEach rest fun l => line (String.ofList (Text.trimEnd l))
    line "\"\"\""

/-- The header of a definition, which begins a level. -/
def emitDef (name : String) (params : List String) (returns : String) : Emission Writer.Step Unit := do
  line ("def " ++ name ++ "(" ++ ", ".intercalate params ++ ") -> " ++ returns ++ ":")
  enter

/-- A function, and the names that are taken after it; mirrors `emit_function`. -/
def emitFunction (p : Package) (taken : List String) (f : FuncSurface) : Emit Step (List String) := do
  let symbol := p.name ++ "_" ++ f.func.name
  emitDeclare symbol false f.plan
  let name ← Emit.claimed (claim pythonReserved taken (memberName f.func.name))
  let names ← Emit.claimed (parameterNames p.structNames f.plan)
  inBody do
    blank
    blank
    emitDef name ((typedParams f.plan names).map Parameter.text) (returnHint f.plan).text
    emitDocstring f.func.doc
  emitCall symbol false f.plan names
  inBody leave
  return name :: taken

/-- Functions one after the other. -/
def emitFunctions (p : Package) (taken : List String) : List FuncSurface → Emit Step Unit
  | [] => pure ()
  | f :: rest => do
    let taken ← emitFunction p taken f
    emitFunctions p taken rest

/-! ## Classes -/

/-- Declare the entry points of a struct. -/
def emitDeclarations (s : StructSurface) : Emission Step Unit := do
  let struct := s.struct.name
  emitPrototype (struct ++ "_New") [] "c_size_t"
  emitPrototype (struct ++ "_Free") ["c_size_t"] "None"
  forEach s.fields fun f => do
    forEach f.getter.toList (emitDeclare (struct ++ "_Get" ++ f.field.name) true)
    forEach f.setter.toList (emitDeclare (struct ++ "_Set" ++ f.field.name) true)
  forEach s.methods fun m => emitDeclare (struct ++ "_" ++ m.method.name) true m.plan

/-- The header of a class, which begins a level, and the members that every class has. -/
def emitFixed (s : StructSurface) : Emission Writer.Step Unit := do
  let struct := s.struct.name
  let cls := className struct
  blank
  blank
  line ("class " ++ cls ++ ":")
  enter
  if Text.trim s.struct.doc.toList = [] then emitDocstring ("Handle to a Go " ++ struct ++ ".")
  else emitDocstring s.struct.doc
  blank
  block "def __init__(self, _handle: Optional[int] = None) -> None:" ""
    (line ("self._handle = _lib." ++ struct ++ "_New() if _handle is None else _handle"))
  blank
  line "@classmethod"
  block ("def _from_handle(cls, handle: Optional[int]) -> Optional[\"" ++ cls ++ "\"]:") "" do
    block "if not handle:" "" (line "return None")
    line "return cls(_handle=handle)"
  blank
  block "def free(self) -> None:" "" do
    emitDocstring "Release the Go object. Safe to call more than once."
    line "handle = getattr(self, \"_handle\", 0)"
    block "if handle:" "" do
      line "self._handle = 0"
      line ("_lib." ++ struct ++ "_Free(handle)")
  blank
  block "def __del__(self) -> None:" "" do
    block "try:" "" (line "self.free()")
    block "except Exception:" "" (line "pass")
  if s.methods ≠ [] then
    blank
    block ("def __enter__(self) -> \"" ++ cls ++ "\":") "" (line "return self")
    blank
    block "def __exit__(self, *exc: Any) -> None:" "" (line "self.free()")

/-- The setter of a property. Composite fields are read-only, since assigning would hand Go a buffer that Python
still owns. -/
def emitSetter (struct field name : String) (setter : CallPlan) : Emission Step Unit :=
  match setter.params with
  | [] => pure ()
  | value :: _ =>
    if value.shape = .scalar then do
      inBody do
        blank
        line ("@" ++ name ++ ".setter")
        emitDef name ["self", "value: " ++ (slotType value).hint.text] "None"
      emitCall (struct ++ "_Set" ++ field) true setter ["value"]
      inBody leave
    else pure ()

/-- The property of a field that has a getter. -/
def emitProperty (struct : String) (f : FieldSurface) (name : String) : Emission Step Unit :=
  forEach f.getter.toList fun getter => do
    inBody do
      blank
      line "@property"
      emitDef name ["self"] (returnHint getter).text
    emitCall (struct ++ "_Get" ++ f.field.name) true getter []
    inBody leave
    forEach f.setter.toList (emitSetter struct f.field.name name)

/-- A method, which is never finished if a parameter cannot be named. -/
def emitMethod (p : Package) (struct : String) (m : MethodSurface) (name : String) : Emit Step Unit := do
  let names ← Emit.claimed (parameterNames p.structNames m.plan)
  inBody do
    blank
    emitDef name ("self" :: (typedParams m.plan names).map Parameter.text) (returnHint m.plan).text
    emitDocstring m.method.doc
  emitCall (struct ++ "_" ++ m.method.name) true m.plan names
  inBody leave

/-- The class of a struct; mirrors `emit_class`. -/
def emitClass (p : Package) (s : StructSurface) : Emit Step Unit := do
  let fields := gettable s
  let names ← Emit.claimed <| claimAll {} classMembers
    (fields.map (memberName ·.field.name) ++ s.methods.map (memberName ·.method.name))
  emitDeclarations s
  inBody (emitFixed s)
  forEach (fields.zip names) fun (f, name) => emitProperty s.struct.name f name
  Emit.forEach (fun (m, name) => emitMethod p s.struct.name m name) (s.methods.zip (names.drop fields.length))
  inBody leave

/-! ## The file -/

/-- All classes and functions of a package; mirrors `emit`. -/
def emission (p : Package) : Emit Step Unit := do
  let surface := Surface.ofPackage p
  Emit.forEach (emitClass p) surface.structs
  emitFunctions p [] surface.functions

/-- The file that is written by some steps: the head with what was noted, the prelude, and the texts. -/
def fileOf (library : String) (p : Package) (steps : List Step) : String :=
  let e := Emitter.new.run steps
  let head : PyHead := ⟨p.name, p.effectiveImportPath, library, e.ctypes⟩
  Layout.text (.spaces 4) (head.header ++ preludeLayout)
    ++ (if e.protos.text = "" then "" else "\n" ++ e.protos.text) ++ e.body.text

/-- Make the module of a package. -/
def generate (library : String) (p : Package) : Option String :=
  Option.map (fun e => fileOf library p e.steps) (emission p)

end GoGlue.Py
