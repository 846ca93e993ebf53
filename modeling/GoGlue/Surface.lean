import GoGlue.CallPlan
import GoGlue.Log

/-!
# The surface of a package

Everything of a package that crosses the boundary, each callable with its plan, and what has to be left
out. A field has a getter and a setter, unless a method of the accessor's name takes its place. The two
sides of the glue are made from the same surface.

* `ofPackage_structs`: there is one struct surface for each struct, in order.
-/
namespace GoGlue

/-- mirrors `FuncSurface` -/
structure FuncSurface where
  func : Func
  plan : CallPlan
  deriving Repr

/-- mirrors `FieldSurface` -/
structure FieldSurface where
  field : StructField
  getter : Option CallPlan
  setter : Option CallPlan
  deriving Repr

/-- mirrors `MethodSurface` -/
structure MethodSurface where
  method : Method
  plan : CallPlan
  deriving Repr

/-- mirrors `StructSurface` -/
structure StructSurface where
  struct : Struct
  fields : List FieldSurface
  methods : List MethodSurface
  deriving Repr

/-- mirrors `Surface` -/
structure Surface where
  functions : List FuncSurface
  structs : List StructSurface
  deriving Repr

/-- Why a symbol is left out. -/
inductive OmissionCause where
  | plan (e : PlanError)
  | reservedMethod
  deriving DecidableEq, Repr

def OmissionCause.message : OmissionCause → String
  | plan e => e.message
  | reservedMethod => "name collides with the generated constructor or destructor"

/-- A symbol that is left out of the surface. -/
structure Omission where
  symbol : String
  cause : OmissionCause
  deriving DecidableEq, Repr

/-- mirrors `log_drop` -/
def Omission.record (target : String) (verbose : Bool) (o : Omission) : LogRecord :=
  .skipping verbose (target ++ ": skipping " ++ o.symbol ++ ": " ++ o.cause.message)

namespace Surface

/-! ## One symbol -/

/-- What becomes of one symbol: it is kept or left out. -/
abbrev Verdict (α : Type) := Except Omission α

def kept {α : Type} (verdicts : List (Verdict α)) : List α :=
  verdicts.filterMap fun
    | .ok a => some a
    | .error _ => none

def omitted {α : Type} (verdicts : List (Verdict α)) : List Omission :=
  verdicts.filterMap fun
    | .ok _ => none
    | .error o => some o

def func (structs : StructNames) (f : Func) : Verdict FuncSurface :=
  match CallPlan.ofSignature structs f.toSignature with
  | .ok plan => .ok ⟨f, plan⟩
  | .error e => .error ⟨f.name, .plan e⟩

def accessors (structs : StructNames) (t : GoType) : Except PlanError (CallPlan × CallPlan) := do
  return (← CallPlan.ofGetter structs t, ← CallPlan.ofSetter structs t)

def field (structs : StructNames) (s : Struct) (f : StructField) : Verdict FieldSurface :=
  match accessors structs f.type with
  | .ok (getter, setter) =>
    .ok ⟨f, if s.hasMethod ("Get" ++ f.name) then none else some getter,
      if s.hasMethod ("Set" ++ f.name) then none else some setter⟩
  | .error e => .error ⟨s.name ++ "." ++ f.name, .plan e⟩

def method (structs : StructNames) (s : Struct) (m : Method) : Verdict MethodSurface :=
  if m.name = "New" ∨ m.name = "Free" then .error ⟨s.name ++ "." ++ m.name, .reservedMethod⟩
  else
    match CallPlan.ofSignature structs m.toSignature with
    | .ok plan => .ok ⟨m, plan⟩
    | .error e => .error ⟨s.name ++ "." ++ m.name, .plan e⟩

/-! ## The whole package -/

/-- mirrors `StructSurface.build` -/
def struct (structs : StructNames) (s : Struct) : StructSurface :=
  ⟨s, kept (s.exportedFields.map (field structs s)), kept (s.methods.map (method structs s))⟩

def structOmissions (structs : StructNames) (s : Struct) : List Omission :=
  omitted (s.exportedFields.map (field structs s)) ++ omitted (s.methods.map (method structs s))

/-- mirrors `Surface.build` -/
def ofPackage (p : Package) : Surface :=
  ⟨kept (p.functions.map (func p.structNames)), p.structs.map (struct p.structNames)⟩

/-- Everything that is left out, in the order of the package. -/
def omissions (p : Package) : List Omission :=
  omitted (p.functions.map (func p.structNames)) ++ p.structs.flatMap (structOmissions p.structNames)

/-- The records about what is left out of the glue for a target. -/
def log (p : Package) (target : String) (verbose : Bool) : List LogRecord :=
  (omissions p).map (Omission.record target verbose)

theorem ofPackage_structs (p : Package) :
    (ofPackage p).structs.map (·.struct) = p.structs := by
  simp [ofPackage, struct, Function.comp_def]

end Surface

end GoGlue
