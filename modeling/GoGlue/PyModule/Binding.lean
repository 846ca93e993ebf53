import GoGlue.Name.Case
import GoGlue.PyModule.Code
import GoGlue.Surface

/-!
# Binding entry points

For every entry point the module declares the classes of its arguments and of its result, and the body of
a function converts the arguments, makes the call, checks the error, and converts the results, releasing
what the glue allocated.
-/
namespace GoGlue.Py

/-! ## Declarations -/

/-- The classes that an entry point is called with and the class of its result. -/
structure Declaration where
  symbol : String
  arguments : List CtypesToken
  result : Option CtypesToken
  deriving Repr

namespace Declaration

def layout (d : Declaration) : List Layout :=
  let result := match d.result with
    | some t => t.text
    | none => "None"
  [.line ("_lib." ++ d.symbol ++ ".argtypes = ["
      ++ ", ".intercalate (d.arguments.map CtypesToken.text) ++ "]"),
    .line ("_lib." ++ d.symbol ++ ".restype = " ++ result)]

def ctypesNames (d : Declaration) : List String :=
  (d.arguments ++ d.result.toList).flatMap CtypesToken.names

end Declaration

/-- mirrors `py_type` -/
def slotType (s : Slot) : PyType := PyType.describe s.type s.transfer

def slotClasses (s : Slot) : List CtypesToken :=
  (slotType s).token :: if s.shape = .buffer then [.int] else []

def outClasses (s : Slot) : List CtypesToken :=
  .pointer (slotType s).returned :: if s.shape = .buffer then [.pointer .int] else []

def resultClasses (plan : CallPlan) : List CtypesToken :=
  match plan.returned with
  | some s => if s.shape = .buffer then [.pointer .int] else []
  | none => plan.results.flatMap outClasses

/-- The declaration of the entry point of a plan; `bound` says that it takes a handle first; mirrors `declare`. -/
def declare (symbol : String) (bound : Bool) (plan : CallPlan) : Declaration :=
  ⟨symbol,
    (if bound then [.sizeT] else []) ++ plan.params.flatMap slotClasses ++ resultClasses plan
      ++ (if plan.hasError then [.pointer .voidP] else []),
    plan.returned.map fun s => (slotType s).returned⟩

/-! ## Conversions -/

/-- The raw value that is passed for a Python value. -/
inductive IntoRaw where
  | encode
  | handle
  | same
  deriving DecidableEq, Repr

def IntoRaw.apply (e : Expr) : IntoRaw → Expr
  | encode => .calls "_encode_string" [e]
  | handle => .calls "_handle_of" [e]
  | same => e

/-- mirrors `scalar_to_c` -/
def intoRaw (tr : Transfer) : IntoRaw :=
  match tr with
  | .ownedString => .encode
  | tr => if tr.knownStruct.isSome then .handle else .same

/-- The Python value of a raw value. Decoding a string releases it. -/
inductive FromRaw where
  | decode
  | object (struct : String)
  | same
  deriving DecidableEq, Repr

/-- The function that converts, unless nothing is to be done; mirrors `elem_converter`. -/
def FromRaw.function : FromRaw → Option Expr
  | decode => some (.name "_decode_string")
  | object struct => some (.member (.cls struct) "_from_handle")
  | same => none

def FromRaw.apply (e : Expr) (f : FromRaw) : Expr :=
  match f.function with
  | some g => .call g [e]
  | none => e

/-- mirrors `scalar_from_c` -/
def fromRaw (tr : Transfer) : FromRaw :=
  match tr with
  | .ownedString => .decode
  | tr =>
    match tr.knownStruct with
    | some struct => .object struct
    | none => .same

/-! ## Arguments -/

def localOf (name : String) : String := "_" ++ name

def lengthOf (var : String) : String := var ++ "_len"

/-- Make the arguments of a parameter: the statements that prepare them, and the arguments; mirrors `param_to_c`. -/
def arguments (s : Slot) (name : String) : List Stmt × List Expr :=
  let x := Expr.name name
  let loc := Expr.name (localOf name)
  let len := Expr.name (lengthOf (localOf name))
  let items (tr : Transfer) : Expr :=
    match intoRaw tr with
    | .same => x
    | conv => .comprehension (conv.apply (.name "v")) "v" (.either x .emptyList)
  match s.shape with
  | .scalar => ([], [(intoRaw s.transfer).apply x])
  | .buffer =>
    if s.isBytes then
      ([.assign [loc] (.calls "bytes" [.either x .emptyBytes])], [loc, .calls "len" [loc]])
    else
      match s.elem with
      | none => ([], [.none])
      | some (t, tr) =>
        ([.assign [loc, len] (.calls "_make_array" [.ctypes (PyType.describe t tr).token, items tr])],
          [loc, len])
  | .fixed n =>
    match s.elem with
    | none => ([], [.none])
    | some (t, tr) =>
      ([.assign [loc]
          (.calls "_fixed_array" [.ctypes (PyType.describe t tr).token, .number n.toNat, items tr])],
        [loc])
  | .pointer =>
    let token := match (slotType s).elem with
      | some e => e.token
      | none => .primitive .int
    ([.assign [loc] (.conditional .none (.isNone x) (.byref (.call (.ctypes token) [x])))], [loc])

/-! ## Results -/

/-- Make room for a result that is stored through a pointer, and the arguments for it. -/
def outArguments (s : Slot) : List Stmt × List Expr :=
  let loc := Expr.name (localOf s.name)
  let len := Expr.name (lengthOf (localOf s.name))
  let room := Stmt.assign [loc] (.call (.ctypes (slotType s).returned) [])
  if s.shape = .buffer then
    ([room, .assign [len] (.call (.ctypes .int) [])], [.byref loc, .byref len])
  else ([room], [.byref loc])

/-- Make room for all that is stored through pointers, and the arguments for it. -/
def resultArguments (plan : CallPlan) : List Stmt × List Expr :=
  let results := match plan.returned with
    | some s =>
      if s.shape = .buffer then
        ([Stmt.assign [.name "_len"] (.call (.ctypes .int) [])], [Expr.byref (.name "_len")])
      else ([], [])
    | none =>
      let parts := plan.results.map outArguments
      (parts.flatMap (·.1), parts.flatMap (·.2))
  if plan.hasError then
    (results.1 ++ [.assign [.name "_err"] (.call (.ctypes .voidP) [])],
      results.2 ++ [.byref (.name "_err")])
  else results

/-- The Python value of a result with the given raw value and element count; mirrors `result_from_c`. -/
def resultValue (s : Slot) (raw count : Expr) : Expr :=
  let take (count : Expr) : Expr :=
    let conv := match s.elem with
      | some (_, tr) => (fromRaw tr).function.toList
      | none => []
    .calls "_take_buffer" ([raw, count] ++ conv)
  match s.shape with
  | .scalar | .pointer => (fromRaw s.transfer).apply raw
  | .buffer => if s.isBytes then .calls "_take_bytes" [raw, count] else take count
  | .fixed n => take (.number n.toNat)

/-- The Python value of a result that was stored through a pointer. -/
def outValue (s : Slot) : Expr :=
  let loc := Expr.name (localOf s.name)
  let count := Expr.member (.name (lengthOf (localOf s.name))) "value"
  match s.shape with
  | .scalar | .pointer => resultValue s (.member loc "value") count
  | .buffer => if s.isBytes then resultValue s (.member loc "value") count else resultValue s loc count
  | .fixed _ => resultValue s loc count

/-- The result is passed on as it comes. -/
def isPlain (s : Slot) : Bool := (s.shape = .scalar || s.shape = .pointer) && fromRaw s.transfer = .same

/-- Make the call and return the results. An error is raised before any result is touched. -/
def callStep (symbol : String) (plan : CallPlan) (args : List Expr) : List Stmt :=
  let call := Expr.call (.entry symbol) args
  match plan.returned with
  | some s =>
    if isPlain s then [.ret [call]]
    else
      [.assign [.name "_res"] call,
        .ret [resultValue s (.name "_res") (.member (.name "_len") "value")]]
  | none =>
    [.expr call]
      ++ (if plan.hasError then [.expr (.calls "_check_error" [.name "_err"])] else [])
      ++ if plan.results = [] then [] else [.ret (plan.results.map outValue)]

/-- The body of a function with the given parameter names; `bound` says that it is a member of a
class; mirrors `emit_call`. -/
def callBody (symbol : String) (bound : Bool) (plan : CallPlan) (names : List String) : List Stmt :=
  let converted := List.zipWith arguments plan.params names
  let out := resultArguments plan
  let self := if bound then [Expr.member (.name "self") "_handle"] else []
  converted.flatMap (·.1) ++ out.1
    ++ callStep symbol plan (self ++ converted.flatMap (·.2) ++ out.2)

/-! ## Signatures -/

/-- What no parameter may be called: what the body refers to. A local is its name here with an underscore
before it. -/
def parameterReserved (structs : StructNames) : Reserved where
  names := pythonReserved.names ++ ["self", "res", "err"] ++ structs
  beginnings := pythonReserved.beginnings

/-- The names of the parameters in Python; mirrors `param_names`. -/
def parameterNames (structs : StructNames) (plan : CallPlan) : Option (List String) :=
  claimAll (parameterReserved structs) (plan.results.map (·.name))
    (plan.params.map fun s => pythonIdent s.name)

/-- mirrors `typed_params` -/
def typedParams (plan : CallPlan) (names : List String) : List Parameter :=
  List.zipWith (fun s name => .typed name (slotType s).hint) plan.params names

/-- mirrors `return_hint` -/
def returnHint (plan : CallPlan) : ReturnHint :=
  match plan.results with
  | [] => .none
  | [s] => .one (slotType s).hint
  | ss => .tuple (ss.map fun s => (slotType s).hint)

end GoGlue.Py
