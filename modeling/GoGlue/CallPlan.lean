import GoGlue.Name.Case
import GoGlue.Name.Go
import GoGlue.Transfer

/-!
# Call plans

How a call crosses the boundary: which parameters and results the entry point has, in which shape each is
passed, and where the error stands. A single result of a function without an error is returned directly;
all other results are stored through pointers. Both sides of the glue are laid out from the same plan.

* `CallPlan.ofGetter_params`: a getter has no parameters.
-/
namespace GoGlue

/-- How a parameter or result is spelled in C; mirrors `Shape`. -/
inductive Shape where
  /-- One value. -/
  | scalar
  /-- A pointer and the number of elements. -/
  | buffer
  /-- A pointer to a fixed number of elements. -/
  | fixed (len : UInt64)
  /-- A pointer to one primitive, which may be null and is written back after the call. -/
  | pointer
  deriving DecidableEq, Repr

/-- A parameter, or a result with the name of the parameter it is stored through; mirrors `Slot`. -/
structure Slot where
  name : String
  type : GoType
  transfer : Transfer
  shape : Shape
  deriving Repr

namespace Slot

/-- The element type and its strategy; mirrors `elem`. -/
def elem (s : Slot) : Option (GoType × Transfer) :=
  match s.transfer with
  | .composite _ e _ => s.type.elem.map (·, e)
  | _ => none

/-- mirrors `is_bytes` -/
def isBytes (s : Slot) : Bool :=
  match s.transfer with
  | .composite .bytes _ _ => true
  | _ => false

end Slot

/-- mirrors `CallPlan` -/
structure CallPlan where
  params : List Slot
  /-- The results other than the error, in order. -/
  results : List Slot
  /-- The place of the error among the declared results. -/
  errorPosition : Option Nat
  deriving Repr

namespace CallPlan

/-- mirrors `has_error` -/
def hasError (p : CallPlan) : Bool := p.errorPosition.isSome

/-- The result that the entry point returns; all others are stored through pointers; mirrors `returned`. -/
def returned (p : CallPlan) : Option Slot :=
  match p.errorPosition, p.results with
  | none, [s] => some s
  | _, _ => none

def direct (p : CallPlan) : Bool := p.returned.isSome

/-- The number of results that the callee declares; mirrors `arity`. -/
def arity (p : CallPlan) : Nat := p.results.length + if p.hasError then 1 else 0

end CallPlan

/-- Why a callable has no entry point; mirrors `PlanError`. -/
inductive PlanError where
  | variadic
  | errorParam (name : String)
  | nested (type : String)
  | pointerResult (type : String)
  | multipleErrors
  | unknownLength (type : String)
  | mapping (cause : MappingError)
  deriving DecidableEq, Repr

def PlanError.message : PlanError → String
  | variadic => "variadic functions are not supported"
  | errorParam name => "error-typed parameter " ++ name ++ " is not supported"
  | nested type => "nested composite " ++ type ++ " is not supported"
  | pointerResult type => "pointer result " ++ type ++ " is not supported"
  | multipleErrors => "more than one error result"
  | unknownLength type => "array length of " ++ type ++ " is not a literal"
  | mapping cause => cause.message

namespace CallPlan

/-- The element of a composite cannot be passed: a pointer leads to a primitive, everything else holds
values, strings or handles. -/
def isNested (kind : CompositeKind) : Transfer → Bool
  | .value _ => false
  | .ownedString | .handle _ _ => kind = .pointer
  | .composite _ _ _ | .errorOut => true

/-- mirrors `shape_of` -/
def shapeOf (t : GoType) : Transfer → Except PlanError Shape
  | .composite kind elem len =>
    if isNested kind elem then .error (.nested t.name)
    else
      match kind with
      | .bytes | .slice => .ok .buffer
      | .array => .ok (.fixed len)
      | .pointer => .ok .pointer
  | _ => .ok .scalar

/-- The strategy of a type, as part of a plan. -/
def transferOf (structs : StructNames) (t : GoType) : Except PlanError Transfer :=
  (classify structs t).mapError .mapping

/-- The slots of the parameters, of which the first one has the given place. -/
def paramSlots (structs : StructNames) (index : Nat) : List Param → Except PlanError (List Slot)
  | [] => .ok []
  | p :: rest => do
    let transfer ← transferOf structs p.type
    if transfer = .errorOut then .error (.errorParam (parameterName p.name index))
    else
      let shape ← shapeOf p.type transfer
      let slots ← paramSlots structs (index + 1) rest
      return ⟨parameterName p.name index, p.type, transfer, shape⟩ :: slots

/-- The name of the parameter through which a result is stored; mirrors `out_name`. -/
def outName (p : Param) (index : Nat) : String :=
  if p.name = "" ∨ p.name = "_" then "out" ++ toString index else "out" ++ capitalize p.name

/-- The slots of the results, of which the first one has the given place, and the place of the error.
`count` is the number of slots so far and `error` the place of the error so far. -/
def resultSlots (structs : StructNames) (index count : Nat) (error : Option Nat) :
    List Param → Except PlanError (List Slot × Option Nat)
  | [] => .ok ([], error)
  | p :: rest => do
    let transfer ← transferOf structs p.type
    if transfer = .errorOut then
      if error.isSome then .error .multipleErrors
      else resultSlots structs (index + 1) count (some index) rest
    else
      let shape ← shapeOf p.type transfer
      if shape = .pointer then .error (.pointerResult p.type.name)
      else
        let (slots, position) ← resultSlots structs (index + 1) (count + 1) error rest
        return (⟨outName p count, p.type, transfer, shape⟩ :: slots, position)

/-- Lay out a signature; mirrors `plan`. -/
def ofSignature (structs : StructNames) (sig : Signature) : Except PlanError CallPlan :=
  if sig.isVariadic then .error .variadic
  else
    match (sig.params ++ sig.results).find? (·.type.hasUnknownLen) with
    | some p => .error (.unknownLength p.type.name)
    | none => do
      let params ← paramSlots structs 0 sig.params
      let (results, errorPosition) ← resultSlots structs 0 0 none sig.results
      return ⟨params, results, errorPosition⟩

/-- The plan of a getter: the field is the only result; mirrors `plan_getter`. -/
def ofGetter (structs : StructNames) (t : GoType) : Except PlanError CallPlan :=
  ofSignature structs ⟨[], [.unnamed t], false⟩

/-- The plan of a setter: the new value is the only parameter, and is called so; mirrors `plan_setter`. -/
def ofSetter (structs : StructNames) (t : GoType) : Except PlanError CallPlan :=
  (ofSignature structs ⟨[⟨"value", t⟩], [], false⟩).map fun plan =>
    { plan with params := plan.params.map ({ · with name := "value" }) }

theorem ofGetter_params (structs : StructNames) (t : GoType) (plan : CallPlan)
    (h : ofGetter structs t = .ok plan) : plan.params = [] := by
  unfold ofGetter ofSignature at h
  simp only [Bool.false_eq_true, if_false, List.nil_append] at h
  split at h
  · cases h
  · cases hr : resultSlots structs 0 0 none [.unnamed t] with
    | error e => simp [hr, paramSlots, bind, Except.bind] at h
    | ok r =>
      simp only [hr, paramSlots, bind, Except.bind, pure, Except.pure, Except.ok.injEq] at h
      rw [← h]

end CallPlan

end GoGlue
