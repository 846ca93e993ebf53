import GoGlue.Log
import GoGlue.Writer

/-!
# Emission

An emitter drives a writer in steps: it writes a line, enters or leaves a level of indentation, or asks for an
import. A part of an emitter takes steps and hands a value on, such as the spelling of an expression that it has
prepared. Parts are put together in sequence. A part that has to claim names may never return, and then
whatever it is a part of never returns either.

* `steps_bind`, `value_bind`: a sequence takes the steps of its parts.
-/
namespace GoGlue

/-! ## Steps -/

namespace Writer

/-- A step on a writer. -/
inductive Step where
  | line (text : String)
  | blank
  | raw (text : String)
  | enter
  | leave
  | need (i : Import)
  /-- Something is logged; the writer stays as it is. -/
  | remark (r : LogRecord)
  deriving DecidableEq, Repr

def Step.apply (w : Writer) : Step → Writer
  | line text => w.line text
  | blank => w.blank
  | raw text => w.raw text
  | enter => w.pushIndent
  | leave => w.popIndent
  | need i => w.addImport i
  | remark _ => w

/-- The writer after some steps. -/
def run (w : Writer) (steps : List Step) : Writer := steps.foldl Step.apply w

/-- What is logged in some steps. -/
def remarks (steps : List Step) : List LogRecord :=
  steps.filterMap fun
    | .remark r => some r
    | _ => none

end Writer

/-! ## Parts that return -/

/-- What a part of an emitter does: its steps in order, and the value that it hands on. -/
structure Emission (σ α : Type) where
  steps : List σ
  value : α
  deriving Repr

namespace Emission

variable {σ τ α β : Type}

instance : Monad (Emission σ) where
  pure a := ⟨[], a⟩
  bind x f := ⟨x.steps ++ (f x.value).steps, (f x.value).value⟩

@[simp] theorem steps_pure (a : α) : (pure a : Emission σ α).steps = [] := rfl

@[simp] theorem value_pure (a : α) : (pure a : Emission σ α).value = a := rfl

@[simp] theorem steps_bind (x : Emission σ α) (f : α → Emission σ β) :
    (x >>= f).steps = x.steps ++ (f x.value).steps := rfl

@[simp] theorem value_bind (x : Emission σ α) (f : α → Emission σ β) :
    (x >>= f).value = (f x.value).value := rfl

/-- One part for each element, with the values that they hand on. -/
def each (xs : List α) (f : α → Emission σ β) : Emission σ (List β) :=
  ⟨xs.flatMap fun x => (f x).steps, xs.map fun x => (f x).value⟩

/-- One part for each element. -/
def forEach (xs : List α) (f : α → Emission σ Unit) : Emission σ Unit := ⟨xs.flatMap fun x => (f x).steps, ()⟩

def step (s : σ) : Emission σ Unit := ⟨[s], ()⟩

/-- Take every step as a step of another kind. -/
def mapSteps (f : σ → τ) (x : Emission σ α) : Emission τ α := ⟨x.steps.map f, x.value⟩

/-! ### Writing -/

open Writer

def line (text : String) : Emission Step Unit := step (.line text)

def blank : Emission Step Unit := step .blank

def raw (text : String) : Emission Step Unit := step (.raw text)

def enter : Emission Step Unit := step .enter

def leave : Emission Step Unit := step .leave

def need (i : Import) : Emission Step Unit := step (.need i)

def remark (r : LogRecord) : Emission Step Unit := step (.remark r)

/-- Write a header, a body one level deeper, and a footer unless it is empty; mirrors `block`. -/
def block (header footer : String) (body : Emission Step Unit) : Emission Step Unit := do
  line header
  enter
  body
  leave
  if footer ≠ "" then line footer

end Emission

/-! ## Parts that may not return -/

/-- A part of an emitter, which is nothing if it never returns. -/
def Emit (σ α : Type) : Type := Option (Emission σ α)

namespace Emit

variable {σ α β : Type}

instance : Monad (Emit σ) where
  pure a := some (pure a)
  bind x f := Option.bind x fun e => Option.map (fun e' => ⟨e.steps ++ e'.steps, e'.value⟩) (f e.value)

instance : MonadLift (Emission σ) (Emit σ) := ⟨some⟩

/-- A claim takes no step, but it may never return. -/
def claimed (a : Option α) : Emit σ α := Option.map pure a

/-- One part for each element, one after the other. -/
def forEach (f : α → Emit σ Unit) : List α → Emit σ Unit
  | [] => pure ()
  | x :: rest => do
    f x
    forEach f rest

end Emit

end GoGlue
