import GoGlue.Emission
import GoGlue.Glue.Entry
import GoGlue.Glue.Head
import GoGlue.Glue.Prelude

/-!
# Emitting the glue file

How the glue file is written, step by step: lines, levels of indentation that are entered and left, and the
imports that are asked for whenever a package is spelled. Only the claims of parameter names may never return.
-/
namespace GoGlue.Go

open Emission
open Writer (Step)

/-! ## Types -/

/-- The local name of the wrapped package, which is imported on the way; mirrors `package_alias`. -/
def packageAlias (p : Package) : Emission Step String := do
  need ⟨p.name, p.effectiveImportPath⟩
  return p.name

mutual
/-- The spelling of a type in the main package; mirrors `go_type`. -/
def goType (p : Package) : GoType → Emission Step String
  | ⟨kind, n, package, elem, key, size⟩ =>
    match kind with
    | .interface => return "any"
    | .struct =>
      match package with
      | some path => do
        need ⟨"", path⟩
        return path ++ "." ++ n
      | none => return (← packageAlias p) ++ "." ++ n
    | .pointer => return "*" ++ (← goPart p elem)
    | .slice => return "[]" ++ (← goPart p elem)
    | .array => return "[" ++ toString (size.getD 0).toNat ++ "]" ++ (← goPart p elem)
    | .map => do
      let key ← goPart p key
      return "map[" ++ key ++ "]" ++ (← goPart p elem)
    | _ => return n
/-- The spelling of an element or key; mirrors `go_elem`. -/
def goPart (p : Package) : Option GoType → Emission Step String
  | some t => goType p t
  | none => return "any"
end

/-! ## Conversions -/

/-- The Go value of a C value; mirrors `scalar_from_c`. -/
def scalarFromC (p : Package) (t : GoType) (tr : Transfer) (expr : String) : Emission Step String :=
  match tr with
  | .value _ => return t.name ++ "(" ++ expr ++ ")"
  | .ownedString => return "C.GoString(" ++ expr ++ ")"
  | .handle (.struct _ _ _) true => return "fromHandle[" ++ (← goType p (t.elem.getD t)) ++ "](" ++ expr ++ ")"
  | .handle (.struct _ _ _) false =>
    return "derefOrZero(fromHandle[" ++ (← goType p t) ++ "](" ++ expr ++ "))"
  | .handle _ _ => return "valueOf[" ++ (← goType p t) ++ "](" ++ expr ++ ")"
  | .composite _ _ _ | .errorOut => return expr

/-- The C value of a Go value; mirrors `scalar_to_c`. A value that is no scalar is passed on as it is, with a
record about it. -/
def scalarToC (t : GoType) (tr : Transfer) (expr : String) : Emission Step String :=
  match tr with
  | .value prim => return "C." ++ prim.c ++ "(" ++ expr ++ ")"
  | .ownedString => return "C.CString(" ++ expr ++ ")"
  | .handle (.struct _ _ _) true => return "handleOf(" ++ expr ++ ")"
  | .handle (.struct _ _ _) false => return "handleOfValue(" ++ expr ++ ")"
  | .handle _ _ => return "anyHandle(" ++ expr ++ ")"
  | .composite _ _ _ | .errorOut => do
    remark (.debug ("no scalar conversion for " ++ t.name))
    return expr

/-- Declare the local of an array parameter and copy the elements into it. -/
def copyIn (name decl count conv : String) : Emission Step String := do
  line decl
  block ("if " ++ name ++ " != nil \x7b") "\x7d" do
    block ("for _i, _v := range unsafe.Slice(" ++ name ++ ", " ++ count ++ ") \x7b") "\x7d"
      (line ("_" ++ name ++ "[_i] = " ++ conv))
  return "_" ++ name

/-- The Go argument of a parameter, with the lines that prepare it; mirrors `param_to_go`. -/
def paramToGo (p : Package) (s : Slot) : Emission Step String :=
  match s.shape with
  | .scalar => scalarFromC p s.type s.transfer s.name
  | .buffer =>
    if s.isBytes then return "C.GoBytes(" ++ s.name ++ ", " ++ s.name ++ "Len)"
    else
      match s.elem with
      | none => return "nil"
      | some (t, tr) => do
        let elem ← goType p t
        let conv ← scalarFromC p t tr "_v"
        copyIn s.name ("_" ++ s.name ++ " := make([]" ++ elem ++ ", int(" ++ s.name ++ "Len))")
          ("int(" ++ s.name ++ "Len)") conv
  | .fixed n =>
    match s.elem with
    | none => return "nil"
    | some (t, tr) => do
      let elem ← goType p t
      let conv ← scalarFromC p t tr "_v"
      copyIn s.name ("var _" ++ s.name ++ " [" ++ toString n.toNat ++ "]" ++ elem) (toString n.toNat) conv
  | .pointer => do
    let elem ← match s.type.elem with
      | some t => goType p t
      | none => pure "int"
    line ("var _" ++ s.name ++ " *" ++ elem)
    block ("if " ++ s.name ++ " != nil \x7b") "\x7d" do
      line ("_" ++ s.name ++ "v := " ++ elem ++ "(*" ++ s.name ++ ")")
      line ("_" ++ s.name ++ " = &_" ++ s.name ++ "v")
    return "_" ++ s.name

/-- Copy a Go slice or array into C memory and hand the pointer on; mirrors `buffer_to_c`. -/
def bufferToC (s : Slot) (var : String) (k : Nat) : Emission Step String :=
  if s.isBytes then return "C.CBytes(" ++ var ++ ")"
  else
    match s.elem with
    | none => return "nil"
    | some (t, tr) => do
      let conv ← scalarToC t tr "_v"
      let buffer := "_c" ++ toString k
      line (buffer ++ " := allocSlice[" ++ (CType.describe t tr).token.text ++ "](len(" ++ var ++ "))")
      block ("for _i, _v := range " ++ var ++ " \x7b") "\x7d" (line (buffer ++ "[_i] = " ++ conv))
      return "unsafe.SliceData(" ++ buffer ++ ")"

/-! ## Bodies -/

/-- What is returned when the receiver is invalid; mirrors `zero_value`. -/
def zeroText (s : Slot) : String :=
  match s.shape, s.transfer with
  | .scalar, .value .bool => "false"
  | .scalar, .ownedString => "nil"
  | .scalar, _ => "0"
  | _, _ => "nil"

/-- Store into the error parameter, if the caller gave one. -/
def storeError (value : String) : Emission Step Unit :=
  block "if outError != nil \x7b" "\x7d" (line ("*outError = " ++ value))

/-- How an entry point is left without results. -/
def bailText (plan : CallPlan) : String :=
  match plan.returned with
  | some s => "return " ++ zeroText s
  | none => "return"

def emitClear (plan : CallPlan) : Emission Step Unit := if plan.hasError then storeError "nil" else pure ()

/-- Look the receiver up, and leave if its handle is invalid. -/
def emitReceiver (plan : CallPlan) (r : Receiver) : Emission Step Unit := do
  line ("_obj := fromHandle[" ++ r.type.text ++ "](handle)")
  block "if _obj == nil \x7b" "\x7d" do
    if plan.hasError then storeError ("C.CString(" ++ Text.quoted ("invalid " ++ r.struct ++ " handle") ++ ")")
    line (bailText plan)

/-- The variables that results are assigned to, of which the first has the given place among all of them and
number among those that are no error. -/
def assignees (error : Option Nat) : Nat → Nat → Nat → List String
  | 0, _, _ => []
  | n + 1, place, number =>
    if error = some place then "_err" :: assignees error n (place + 1) number
    else ("_r" ++ toString number) :: assignees error n (place + 1) (number + 1)

/-- Make a call and keep what it returns. -/
def emitInvocation (plan : CallPlan) (call : String) : Emission Step Unit :=
  if plan.arity = 0 then line call
  else line (", ".intercalate (assignees plan.errorPosition plan.arity 0 0) ++ " := " ++ call)

/-- Use the converted arguments. A method with a value receiver works on a copy of the object. -/
def emitInvoke (receiver : Option Receiver) (plan : CallPlan) (args : List String) :
    Invoke → Emission Step Unit
  | .func callee => emitInvocation plan (callee.text ++ "(" ++ ", ".intercalate args ++ ")")
  | .method name => do
    let target ← match receiver with
      | some ⟨_, _, false⟩ => do
        line "_recv := *_obj"
        pure "_recv"
      | _ => pure "_obj"
    emitInvocation plan (target ++ "." ++ name ++ "(" ++ ", ".intercalate args ++ ")")
  | .read field => line ("_r0 := _obj." ++ field)
  | .write field => line ("_obj." ++ field ++ " = " ++ ", ".intercalate args)

/-- Write back what the callee left behind a pointer parameter. -/
def emitWriteBack (s : Slot) : Emission Step Unit :=
  block ("if " ++ s.name ++ " != nil && _" ++ s.name ++ " != nil \x7b") "\x7d"
    (line ("*" ++ s.name ++ " = " ++ (elemToken s).text ++ "(*_" ++ s.name ++ ")"))

/-- Convert the directly returned result; mirrors `return_result`. -/
def emitReturn (s : Slot) : Emission Step Unit :=
  match s.shape with
  | .scalar | .pointer => do line ("return " ++ (← scalarToC s.type s.transfer "_r0"))
  | .buffer => do
    let pointer ← bufferToC s "_r0" 0
    block "if outLen != nil \x7b" "\x7d" (line "*outLen = C.int(len(_r0))")
    line ("return " ++ pointer)
  | .fixed _ => do line ("return " ++ (← bufferToC s "_r0" 0))

/-- Convert result number `k` and store it, if the caller wants it; mirrors `store_result`. -/
def emitStore (s : Slot) (k : Nat) : Emission Step Unit := do
  let var := "_r" ++ toString k
  line ("if " ++ s.name ++ " != nil \x7b")
  enter
  match s.shape with
  | .scalar | .pointer => do line ("*" ++ s.name ++ " = " ++ (← scalarToC s.type s.transfer var))
  | .buffer => do
    line ("*" ++ s.name ++ " = " ++ (← bufferToC s var k))
    block ("if " ++ s.name ++ "Len != nil \x7b") "\x7d"
      (line ("*" ++ s.name ++ "Len = C.int(len(" ++ var ++ "))"))
  | .fixed _ => do line ("*" ++ s.name ++ " = " ++ (← bufferToC s var k))
  leave
  line "\x7d"

/-- Report the error of the callee and leave. -/
def emitFailure (plan : CallPlan) : Emission Step Unit :=
  if plan.hasError then
    block "if _err != nil \x7b" "\x7d" do
      storeError "C.CString(_err.Error())"
      line "return"
  else pure ()

def emitResults (plan : CallPlan) : Emission Step Unit :=
  match plan.returned with
  | some s => emitReturn s
  | none => forEach plan.results.zipIdx fun (s, k) => emitStore s k

/-- The body of an entry point; mirrors `emit_body`. -/
def emitBody (p : Package) (receiver : Option Receiver) (invoke : Invoke) (plan : CallPlan) :
    Emission Step Unit := do
  emitClear plan
  forEach receiver.toList (emitReceiver plan)
  let args ← each plan.params (paramToGo p)
  emitInvoke receiver plan args invoke
  forEach (plan.params.filter (·.shape = .pointer)) emitWriteBack
  emitFailure plan
  emitResults plan

/-! ## Entry points -/

def slotTexts (s : Slot) : List String :=
  (s.name ++ " " ++ (slotToken s).text) :: if s.shape = .buffer then [s.name ++ "Len C.int"] else []

/-- The parameters through which a result is stored, as they are written. -/
def outTexts (s : Slot) : List String :=
  (s.name ++ " *" ++ (slotToken s).text) :: if s.shape = .buffer then [s.name ++ "Len *C.int"] else []

def resultTexts (plan : CallPlan) : List String :=
  match plan.returned with
  | some s => if s.shape = .buffer then ["outLen *C.int"] else []
  | none => plan.results.flatMap outTexts

/-- The parameters of a prototype as they are written. -/
def parameterTexts (bound : Bool) (plan : CallPlan) : List String :=
  (if bound then ["handle C.uintptr_t"] else []) ++ plan.params.flatMap slotTexts ++ resultTexts plan
    ++ if plan.hasError then ["outError **C.char"] else []

/-- An entry point, once its parameters are named; mirrors `emit_entry`. -/
def emitNamed (p : Package) (symbol : String) (receiver : Option Receiver) (invoke : Invoke)
    (plan : CallPlan) : Emission Step Unit := do
  let result := match plan.returned with
    | some s => " " ++ (slotToken s).text
    | none => ""
  line ("//export " ++ symbol)
  line ("func " ++ symbol ++ "(" ++ ", ".intercalate (parameterTexts receiver.isSome plan) ++ ")" ++ result
    ++ " \x7b")
  enter
  emitBody p receiver invoke plan
  leave
  line "\x7d"
  blank

/-- An entry point, which is never finished if a parameter cannot be named. -/
def emitEntry (p : Package) (symbol : String) (receiver : Option Receiver) (invoke : Invoke)
    (plan : CallPlan) : Emit Step Unit := do
  let plan ← Emit.claimed (unshadowed p.name plan)
  emitNamed p symbol receiver invoke plan

def emitConstructor (struct type : String) : Emission Step Unit := do
  line ("//export " ++ struct ++ "_New")
  block ("func " ++ struct ++ "_New() C.uintptr_t \x7b") "\x7d"
    (line ("return registerHandle(&" ++ type ++ "\x7b\x7d)"))
  blank

def emitDestructor (struct : String) : Emission Step Unit := do
  line ("//export " ++ struct ++ "_Free")
  block ("func " ++ struct ++ "_Free(handle C.uintptr_t) \x7b") "\x7d" (line "freeHandle(handle)")
  blank

/-- The entry points of a field. -/
def emitAccessors (p : Package) (struct : String) (receiver : Receiver) (f : FieldSurface) :
    Emit Step Unit := do
  Emit.forEach (emitEntry p (struct ++ "_Get" ++ f.field.name) (some receiver) (.read f.field.name))
    f.getter.toList
  Emit.forEach (emitEntry p (struct ++ "_Set" ++ f.field.name) (some receiver) (.write f.field.name))
    f.setter.toList

/-- The entry points of a struct; mirrors `emit_struct`. -/
def emitStruct (p : Package) (s : StructSurface) : Emit Step Unit := do
  let type := Ty.qualified (.own (← packageAlias p)) s.struct.name
  emitConstructor s.struct.name type.text
  emitDestructor s.struct.name
  Emit.forEach (emitAccessors p s.struct.name ⟨s.struct.name, type, true⟩) s.fields
  Emit.forEach (fun m => emitEntry p (s.struct.name ++ "_" ++ m.method.name)
    (some ⟨s.struct.name, type, m.method.receiverIsPtr⟩) (.method m.method.name) m.plan) s.methods

/-- The entry point of a function. -/
def emitFunction (p : Package) (f : FuncSurface) : Emit Step Unit := do
  let callee := Expr.qualified (.own (← packageAlias p)) f.func.name
  emitEntry p (p.name ++ "_" ++ f.func.name) none (.func callee) f.plan

/-! ## The file -/

/-- The text of the prelude. -/
def runtime : String := Layout.text .tabs preludeLayout

/-- All entry points of a package behind the prelude; mirrors `emit`. -/
def emission (p : Package) : Emit Step Unit := do
  let surface := Surface.ofPackage p
  raw runtime
  blank
  Emit.forEach (emitStruct p) surface.structs
  Emit.forEach (emitFunction p) surface.functions
  line "func main() \x7b\x7d"

/-- The file that is written by some steps: the head with the imports that were asked for, and the text. -/
def fileOf (p : Package) (steps : List Step) : String :=
  let w := (Writer.new .tabs).run steps
  Layout.text .tabs (GlueHead.header ⟨p.effectiveImportPath, w.takeImports.1⟩) ++ w.takeImports.2.text

/-- Make the glue file of a package, with what there is to say about it. -/
def generate (p : Package) : Option (String × List LogRecord) :=
  Option.map (fun e => (fileOf p e.steps, Writer.remarks e.steps)) (emission p)

end GoGlue.Go
