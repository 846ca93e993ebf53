import GoGlue.Glue.Convert
import GoGlue.Surface

/-!
# Entry points

The C functions that the glue exports: for every function, for every method and accessor of a struct, and
a constructor and destructor for each struct. The body of an entry point goes through fixed steps: the
error is cleared, the receiver is looked up, the arguments are converted, the call is made, pointers are
written back, the error is reported, and only then are the results converted.
-/
namespace GoGlue.Go

structure CParam where
  name : String
  token : CToken
  deriving DecidableEq, Repr

/-- An exported C function. -/
structure Entry where
  symbol : String
  params : List CParam
  result : Option CToken
  body : List Stmt
  deriving Repr

namespace Entry

/-- The qualifiers that the body spells. -/
def qualifiers (e : Entry) : List Qualifier := Stmt.qualifiersAll e.body

def layout (e : Entry) : List Layout :=
  let params := ", ".intercalate (e.params.map fun p => p.name ++ " " ++ p.token.text)
  let result := match e.result with
    | some t => " " ++ t.text
    | none => ""
  [.line ("//export " ++ e.symbol),
    .braced ("func " ++ e.symbol ++ "(" ++ params ++ ")" ++ result) (Stmt.layouts e.body),
    .blank]

end Entry

/-- The object that an entry point works on; it is looked up by the parameter `handle`; mirrors `Receiver`. -/
structure Receiver where
  struct : String
  type : Ty
  byPointer : Bool
  deriving Repr

/-- What is done with the converted arguments; mirrors `Invoke`. -/
inductive Invoke where
  | func (callee : Expr)
  | method (name : String)
  /-- Read a field as the only result. -/
  | read (field : String)
  /-- Assign the only argument to a field. -/
  | write (field : String)
  deriving Repr

/-! ## Names -/

mutual
/-- The package qualifiers inside a type; mirrors `collect_qualifiers`. -/
def typeQualifiers : GoType → List String
  | ⟨_, _, package, elem, key, _⟩ => package.toList ++ partQualifiers elem ++ partQualifiers key
def partQualifiers : Option GoType → List String
  | none => []
  | some t => typeQualifiers t
end

/-- What no parameter of the entry point may be called: whatever its body may refer to. -/
def entryReserved (own : String) (plan : CallPlan) : Reserved where
  names := goReserved ++ own :: (plan.params ++ plan.results).flatMap (typeQualifiers ·.type)
  beginnings := ["_"]
  temporaries := true

/-- Rename parameters one after the other; `taken` holds the names that are in use. -/
def renameParams (r : Reserved) (taken : List String) : List Slot → Option (List Slot)
  | [] => some []
  | s :: rest => do
    let free ← claim r taken s.name
    let companion := if s.shape = .buffer then [lengthName free] else []
    return { s with name := free } :: (← renameParams r (companion ++ free :: taken) rest)

/-- Rename the parameters that would hide something the body refers to. There is no plan if no name is
free; mirrors `unshadowed`. -/
def unshadowed (own : String) (plan : CallPlan) : Option CallPlan := do
  let taken := plan.results.flatMap fun s => [s.name, lengthName s.name]
  return { plan with params := ← renameParams (entryReserved own plan) taken plan.params }

/-! ## Prototype -/

def slotParams (s : Slot) : List CParam :=
  ⟨s.name, slotToken s⟩ :: if s.shape = .buffer then [⟨lengthName s.name, .int⟩] else []

/-- The parameters through which a result is stored. -/
def outParams (s : Slot) : List CParam :=
  ⟨s.name, .pointer (slotToken s)⟩
    :: if s.shape = .buffer then [⟨lengthName s.name, .pointer .int⟩] else []

def resultParams (plan : CallPlan) : List CParam :=
  match plan.returned with
  | some s => if s.shape = .buffer then [⟨"outLen", .pointer .int⟩] else []
  | none => plan.results.flatMap outParams

def entryParams (hasReceiver : Bool) (plan : CallPlan) : List CParam :=
  (if hasReceiver then [⟨"handle", .uintptr⟩] else [])
    ++ plan.params.flatMap slotParams ++ resultParams plan
    ++ if plan.hasError then [⟨"outError", .pointer (.pointer .char)⟩] else []

/-! ## Body -/

/-- What is returned when the receiver is invalid; mirrors `zero_value`. -/
def zeroValue (s : Slot) : Expr :=
  match s.shape, s.transfer with
  | .scalar, .value .bool => .name "false"
  | .scalar, .ownedString => .nil
  | .scalar, _ => .number 0
  | _, _ => .nil

/-- Store into the error parameter, if the caller gave one. -/
def setError (e : Expr) : Stmt :=
  .ifs (.notNil (.name "outError")) [.assign (.deref (.name "outError")) e]

def clearStep (plan : CallPlan) : List Stmt := if plan.hasError then [setError .nil] else []

/-- Leave without results. -/
def bail (plan : CallPlan) : Stmt := .ret (plan.returned.map zeroValue)

/-- Look the receiver up, and leave if its handle is invalid. -/
def receiveStep (plan : CallPlan) : Option Receiver → List Stmt
  | none => []
  | some r =>
    let message := "invalid " ++ r.struct ++ " handle"
    [.define ["_obj"] (.call (.applied "fromHandle" r.type) [.name "handle"]),
      .ifs (.isNil (.name "_obj"))
        ((if plan.hasError then [setError (.ccall "CString" [.quote message])] else [])
          ++ [bail plan])]

def convertStep (own : String) (plan : CallPlan) : List Stmt :=
  plan.params.flatMap fun s => (argument own s).1

def arguments (own : String) (plan : CallPlan) : List Expr :=
  plan.params.map fun s => (argument own s).2

def resultName (k : Nat) : String := "_r" ++ toString k

/-- The variables that the results are assigned to, the error at its place. -/
def resultNames (plan : CallPlan) : List String :=
  let names := (List.range plan.results.length).map resultName
  match plan.errorPosition with
  | none => names
  | some i => names.insertIdx i "_err"

def assignResults (plan : CallPlan) (call : Expr) : Stmt :=
  match resultNames plan with
  | [] => .expr call
  | names => .define names call

/-- Make the call. A method with a value receiver works on a copy of the object. -/
def callStep (own : String) (receiver : Option Receiver) (plan : CallPlan) : Invoke → List Stmt
  | .func callee => [assignResults plan (.call callee (arguments own plan))]
  | .method name =>
    match receiver with
    | some ⟨_, _, false⟩ =>
      [.define ["_recv"] (.deref (.name "_obj")),
        assignResults plan (.call (.member (.name "_recv") name) (arguments own plan))]
    | _ => [assignResults plan (.call (.member (.name "_obj") name) (arguments own plan))]
  | .read field => [.define ["_r0"] (.member (.name "_obj") field)]
  | .write field =>
    (arguments own plan).map fun arg => .assign (.member (.name "_obj") field) arg

/-- Write back what the callee left behind a pointer parameter. -/
def writeBackStep (plan : CallPlan) : List Stmt :=
  (plan.params.filter (·.shape = .pointer)).map fun s =>
    let loc := Expr.name (localOf s.name)
    .ifs (.both (.notNil (.name s.name)) (.notNil loc))
      [.assign (.deref (.name s.name)) (.call (.type (.c (elemToken s))) [.deref loc])]

/-- Report the error of the callee and leave. -/
def errorStep (plan : CallPlan) : List Stmt :=
  if plan.hasError then
    [.ifs (.notNil (.name "_err"))
      [setError (.ccall "CString" [.call (.member (.name "_err") "Error") []]), .ret none]]
  else []

/-- Convert the directly returned result, `_r0`; mirrors `return_result`. -/
def returnResult (s : Slot) : List Stmt :=
  let count := Stmt.ifs (.notNil (.name "outLen"))
    [.assign (.deref (.name "outLen")) (.ccall "int" [.calls "len" [.name "_r0"]])]
  match s.shape with
  | .scalar | .pointer => [.ret (some ((intoC s.transfer).apply (.name "_r0")))]
  | .buffer => (bufferIntoC s "_r0" 0).1 ++ [count, .ret (some (bufferIntoC s "_r0" 0).2)]
  | .fixed _ => (bufferIntoC s "_r0" 0).1 ++ [.ret (some (bufferIntoC s "_r0" 0).2)]

/-- Convert result number `k` and store it, if the caller wants it; mirrors `store_result`. -/
def storeResult (s : Slot) (k : Nat) : Stmt :=
  let var := resultName k
  let out := Expr.deref (.name s.name)
  let len := lengthName s.name
  let count := Stmt.ifs (.notNil (.name len))
    [.assign (.deref (.name len)) (.ccall "int" [.calls "len" [.name var]])]
  .ifs (.notNil (.name s.name))
    (match s.shape with
    | .scalar | .pointer => [.assign out ((intoC s.transfer).apply (.name var))]
    | .buffer => (bufferIntoC s var k).1 ++ [.assign out (bufferIntoC s var k).2, count]
    | .fixed _ => (bufferIntoC s var k).1 ++ [.assign out (bufferIntoC s var k).2])

def resultStep (plan : CallPlan) : List Stmt :=
  match plan.returned with
  | some s => returnResult s
  | none => plan.results.mapIdx fun k s => storeResult s k

/-- mirrors `emit_body` -/
def body (own : String) (receiver : Option Receiver) (invoke : Invoke) (plan : CallPlan) :
    List Stmt :=
  clearStep plan ++ receiveStep plan receiver ++ convertStep own plan
    ++ callStep own receiver plan invoke ++ writeBackStep plan ++ errorStep plan ++ resultStep plan

/-! ## Entry points of a package -/

/-- The entry point of a plan; there is none if a parameter cannot be named; mirrors `emit_entry`. -/
def entryOf (own symbol : String) (receiver : Option Receiver) (invoke : Invoke) (plan : CallPlan) :
    Option Entry := do
  let plan ← unshadowed own plan
  return ⟨symbol, entryParams receiver.isSome plan, plan.returned.map slotToken,
    body own receiver invoke plan⟩

def ownType (own struct : String) : Ty := .qualified (.own own) struct

def constructor (own struct : String) : Entry :=
  ⟨struct ++ "_New", [], some .uintptr,
    [.ret (some (.calls "registerHandle" [.address (.empty (ownType own struct))]))]⟩

def destructor (struct : String) : Entry :=
  ⟨struct ++ "_Free", [⟨"handle", .uintptr⟩], none, [.expr (.calls "freeHandle" [.name "handle"])]⟩

/-- The entry points of the accessors of a field. -/
def fieldEntries (own struct : String) (f : FieldSurface) : Option (List Entry) := do
  let receiver := some ⟨struct, ownType own struct, true⟩
  let getter ← f.getter.toList.mapM
    (entryOf own (struct ++ "_Get" ++ f.field.name) receiver (.read f.field.name))
  let setter ← f.setter.toList.mapM
    (entryOf own (struct ++ "_Set" ++ f.field.name) receiver (.write f.field.name))
  return getter ++ setter

def methodEntry (own struct : String) (m : MethodSurface) : Option Entry :=
  entryOf own (struct ++ "_" ++ m.method.name)
    (some ⟨struct, ownType own struct, m.method.receiverIsPtr⟩) (.method m.method.name) m.plan

/-- mirrors `emit_struct` -/
def structEntries (own : String) (s : StructSurface) : Option (List Entry) := do
  let fields ← s.fields.mapM (fieldEntries own s.struct.name)
  let methods ← s.methods.mapM (methodEntry own s.struct.name)
  return constructor own s.struct.name :: destructor s.struct.name :: fields.flatten ++ methods

def funcEntry (own : String) (f : FuncSurface) : Option Entry :=
  entryOf own (own ++ "_" ++ f.func.name) none (.func (.qualified (.own own) f.func.name)) f.plan

/-- All entry points of a package, those of the structs first; mirrors `emit`. -/
def entries (own : String) (surface : Surface) : Option (List Entry) := do
  let structs ← surface.structs.mapM (structEntries own)
  let functions ← surface.functions.mapM (funcEntry own)
  return structs.flatten ++ functions

end GoGlue.Go
