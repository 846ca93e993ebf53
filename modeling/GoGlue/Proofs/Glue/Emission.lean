import GoGlue.Glue
import GoGlue.Proofs.CallPlan.Definite
import GoGlue.Proofs.Emission.Parts

/-!
# Entry points as they are emitted

The emitter writes lines and asks for imports as it goes along; an entry point is a tree of statements. Both are the
same: what is written is the layout of the statements, and a package is asked for wherever the type of a parameter
is spelled. Results are converted without asking for anything. Something is logged only for a value that is no
scalar, and no result is one.

* `goType_eq`, `scalarFromC_eq`, `scalarToC_eq`: what is spelled, asked for and logged for types and values.
* `paramToGo_written`, `paramToGo_asked`: the argument of a parameter.
* `body_written`, `body_asked`, `body_silent`: the body of an entry point.
* `named_written`: an entry point whose parameters are named.
-/
namespace GoGlue

/-- The import that a qualifier needs. -/
def Glue.importOf (path : String) : Go.Qualifier → Import
  | .own package => ⟨package, path⟩
  | .foreign package => ⟨"", package⟩

namespace Go

open Emission Writer
open Layout (stepsAll)

variable {p : Package}

/-- Ask for what qualifiers need. -/
def needs (p : Package) (qs : List Qualifier) : List Step :=
  qs.map fun q => .need (Glue.importOf p.effectiveImportPath q)

@[simp] theorem needs_nil : needs p [] = [] := rfl

theorem needs_append (qs rs : List Qualifier) : needs p (qs ++ rs) = needs p qs ++ needs p rs := List.map_append

/-! ## Types and conversions -/

mutual
/-- A type is spelled, and asks for what it spells. -/
theorem goType_eq (t : GoType) :
    goType p t = ⟨needs p (Ty.ofGoType p.name t).qualifiers, (Ty.ofGoType p.name t).text⟩ := by
  match t with
  | ⟨kind, name, package, elem, key, size⟩ =>
    have inner := goPart_eq elem
    have keyed := goPart_eq key
    cases kind with
    | struct => cases package <;> rfl
    | pointer | slice | array => 
      rw [goType, inner]
      simp [Ty.ofGoType, Ty.text, Ty.qualifiers]
    | map =>
      rw [goType, inner, keyed]
      simp [Ty.ofGoType, Ty.text, Ty.qualifiers, needs_append]
    | _ => rfl
theorem goPart_eq (part : Option GoType) :
    goPart p part = ⟨needs p (Ty.ofPart p.name part).qualifiers, (Ty.ofPart p.name part).text⟩ := by
  match part with
  | none => rfl
  | some t => exact goType_eq t
end

section

-- code is spelled out in full here, down to its texts
attribute [local simp] Expr.qualifiers Expr.qualifiersAll Expr.text Expr.texts Expr.calls Expr.ccall
  Emission.pure_eq

theorem scalarFromC_eq (t : GoType) (tr : Transfer) (expr : String) :
    scalarFromC p t tr expr = ⟨needs p ((fromC p.name t tr).apply (.name expr)).qualifiers,
      ((fromC p.name t tr).apply (.name expr)).text⟩ := by
  unfold scalarFromC fromC
  split <;> simp [goType_eq, FromC.apply, ← String.toList_inj]

/-- What is logged about a conversion. -/
def scalarRemarks (t : GoType) (tr : Transfer) : List Step :=
  if intoC tr = .same then [.remark (.debug ("no scalar conversion for " ++ t.name))] else []

theorem scalarToC_eq (t : GoType) (tr : Transfer) (expr : String) :
    scalarToC t tr expr = ⟨scalarRemarks t tr, ((intoC tr).apply (.name expr)).text⟩ := by
  unfold scalarToC scalarRemarks intoC
  split <;> simp [IntoC.apply, remark, step]

attribute [local simp] Stmt.layout Stmt.layouts Stmt.qualifiersAll Layout.braced Layout.steps Layout.stepsAll

theorem written_needs (qs : List Qualifier) : written (needs p qs) = [] := by
  induction qs with
  | nil => rfl
  | cons q rest ih => exact ih

theorem asked_needs (qs : List Qualifier) :
    asked (needs p qs) = qs.map (Glue.importOf p.effectiveImportPath) := by
  induction qs with
  | nil => rfl
  | cons q rest ih => exact congrArg (List.cons _) ih

attribute [local simp] written_needs asked_needs goType_eq scalarFromC_eq

/-- The Go argument of a parameter. -/
theorem paramToGo_value (s : Slot) : (paramToGo p s).value = (argument p.name s).2.text := by
  unfold paramToGo argument
  cases s.shape with
  | scalar => simp
  | buffer => cases s.isBytes <;> cases s.elem <;> simp [copyIn, localOf, lengthName, ← String.toList_inj, Expr.nil]
  | fixed n => cases s.elem <;> simp [copyIn, localOf, Expr.nil]
  | pointer => cases s.type.elem <;> simp [localOf]

theorem paramToGo_written (s : Slot) :
    written (paramToGo p s).steps = stepsAll (Stmt.layouts (argument p.name s).1) := by
  unfold paramToGo argument
  cases s.shape with
  | scalar => simp
  | buffer => cases s.isBytes <;> cases s.elem <;> simp [copyIn, localOf, lengthName, ← String.toList_inj, Ty.text]
  | fixed n => cases s.elem <;> simp [copyIn, localOf, ← String.toList_inj, Ty.text]
  | pointer => cases s.type.elem <;> simp [localOf, ← String.toList_inj, Ty.text]

/-- The types that an argument spells are asked for, and no others. -/
theorem paramToGo_asked (s : Slot) (i : Import) :
    i ∈ asked (paramToGo p s).steps ↔
      ∃ q ∈ Stmt.qualifiersAll (argument p.name s).1 ++ (argument p.name s).2.qualifiers,
        Glue.importOf p.effectiveImportPath q = i := by
  have spelled {qs : List Qualifier} : i ∈ qs.map (Glue.importOf p.effectiveImportPath)
      ↔ ∃ q ∈ qs, Glue.importOf p.effectiveImportPath q = i := List.mem_map
  rw [← spelled]
  unfold paramToGo argument
  cases s.shape with
  | scalar => simp
  | buffer => cases s.isBytes <;> cases s.elem <;> simp [copyIn, Expr.nil, Stmt.qualifiers, Ty.qualifiers]
  | fixed n => cases s.elem <;> simp [copyIn, Expr.nil, Stmt.qualifiers, Ty.qualifiers]
  | pointer => cases s.type.elem <;> simp [Stmt.qualifiers, Ty.qualifiers]

theorem scalarRemarks_written (t : GoType) (tr : Transfer) : written (scalarRemarks t tr) = [] := by
  unfold scalarRemarks
  split <;> rfl

theorem scalarRemarks_asked (t : GoType) (tr : Transfer) : asked (scalarRemarks t tr) = [] := by
  unfold scalarRemarks
  split <;> rfl

attribute [local simp] scalarToC_eq scalarRemarks_written scalarRemarks_asked

theorem bufferToC_value (s : Slot) (var : String) (k : Nat) :
    (bufferToC s var k).value = (bufferIntoC s var k).2.text := by
  unfold bufferToC bufferIntoC
  cases s.isBytes <;> cases s.elem <;> simp [Expr.nil]

theorem bufferToC_written (s : Slot) (var : String) (k : Nat) :
    written (bufferToC s var k).steps = stepsAll (Stmt.layouts (bufferIntoC s var k).1) := by
  unfold bufferToC bufferIntoC
  cases s.isBytes <;> cases s.elem <;> simp [← String.toList_inj, Ty.text]

theorem bufferToC_asked (s : Slot) (var : String) (k : Nat) : asked (bufferToC s var k).steps = [] := by
  unfold bufferToC
  cases s.isBytes <;> cases s.elem <;> simp

/-! ## Bodies -/

theorem zeroText_eq (s : Slot) : zeroText s = (zeroValue s).text := by
  unfold zeroText zeroValue
  split <;> simp_all [Expr.nil]
  rfl

theorem stepsAll_layouts_append (ss ts : List Stmt) :
    stepsAll (Stmt.layouts (ss ++ ts)) = stepsAll (Stmt.layouts ss) ++ stepsAll (Stmt.layouts ts) := by
  induction ss with
  | nil => rfl
  | cons s rest ih => simp [ih]

theorem stepsAll_layouts_flatMap {α : Type} (xs : List α) (f : α → List Stmt) :
    stepsAll (Stmt.layouts (xs.flatMap f)) = xs.flatMap fun x => stepsAll (Stmt.layouts (f x)) := by
  induction xs with
  | nil => rfl
  | cons x rest ih => rw [List.flatMap_cons, stepsAll_layouts_append, ih, List.flatMap_cons]

theorem stepsAll_layouts_map {α : Type} (xs : List α) (f : α → Stmt) :
    stepsAll (Stmt.layouts (xs.map f)) = xs.flatMap fun x => (f x).layout.steps := by
  induction xs with
  | nil => rfl
  | cons x rest ih => simp [ih]

theorem clear_steps (plan : CallPlan) : (emitClear plan).steps = stepsAll (Stmt.layouts (clearStep plan)) := by
  cases he : plan.hasError <;> simp [emitClear, clearStep, he, storeError, setError, Expr.nil]

theorem receive_steps (plan : CallPlan) (receiver : Option Receiver) :
    (forEach receiver.toList (emitReceiver plan)).steps = stepsAll (Stmt.layouts (receiveStep plan receiver)) := by
  cases receiver with
  | none => rfl
  | some r =>
    cases hr : plan.returned <;> cases he : plan.hasError <;>
      simp [emitReceiver, receiveStep, bail, bailText, hr, he, storeError, setError, zeroText_eq,
        ← String.toList_inj]

theorem convert_written (plan : CallPlan) :
    written (each plan.params (paramToGo p)).steps = stepsAll (Stmt.layouts (convertStep p.name plan)) := by
  rw [steps_each, written_flatMap, convertStep, stepsAll_layouts_flatMap]
  simp only [paramToGo_written]

theorem texts_eq_map (es : List Expr) : Expr.texts es = es.map Expr.text := by
  induction es with
  | nil => rfl
  | cons e rest ih => rw [Expr.texts, ih, List.map_cons]

theorem convert_value (plan : CallPlan) :
    (each plan.params (paramToGo p)).value = Expr.texts (arguments p.name plan) := by
  rw [value_each, arguments, texts_eq_map, List.map_map]
  exact List.map_congr_left fun s _ => paramToGo_value s

/-! ### The call -/

theorem assignees_plain {error : Option Nat} (n place number : Nat) (h : ∀ i, error = some i → i < place) :
    assignees error n place number = (List.range' number n).map resultName := by
  induction n generalizing place number with
  | zero => rfl
  | succ n ih =>
    have other : error ≠ some place := fun e => Nat.lt_irrefl _ (h place e)
    rw [assignees, if_neg other, ih _ _ fun i e => Nat.lt_succ_of_lt (h i e)]
    rfl

theorem assignees_error (n place number k : Nat) (h : k ≤ n) :
    assignees (some (place + k)) (n + 1) place number
      = ((List.range' number n).map resultName).insertIdx k "_err" := by
  induction k generalizing n place number with
  | zero =>
    rw [assignees, Nat.add_zero, if_pos rfl, assignees_plain _ _ _ (by simp)]
    rfl
  | succ k ih =>
    obtain ⟨n, rfl⟩ := Nat.exists_eq_add_one_of_ne_zero (by omega : n ≠ 0)
    have other : some (place + (k + 1)) ≠ some place := by simp
    have next : place + (k + 1) = place + 1 + k := by omega
    rw [assignees, if_neg other, next, ih _ _ _ (by omega)]
    rfl

/-- The error has a place among all results. -/
def Placed (plan : CallPlan) : Prop := ∀ i, plan.errorPosition = some i → i ≤ plan.results.length

/-- **Every result is assigned to its variable,** and the error to its own. -/
theorem assignees_eq {plan : CallPlan} (h : Placed plan) :
    assignees plan.errorPosition plan.arity 0 0 = resultNames plan := by
  unfold resultNames CallPlan.arity CallPlan.hasError
  cases he : plan.errorPosition with
  | none => simpa [List.range_eq_range'] using assignees_plain plan.results.length 0 0 (by simp)
  | some i => simpa [List.range_eq_range'] using assignees_error plan.results.length 0 0 i (h i he)

theorem emitInvocation_steps {plan : CallPlan} (h : Placed plan) (call : Expr) :
    (emitInvocation plan call.text).steps = (assignResults plan call).layout.steps := by
  have length : (resultNames plan).length = plan.arity := by
    unfold resultNames CallPlan.arity CallPlan.hasError
    cases he : plan.errorPosition with
    | none => simp
    | some i => simpa [List.length_insertIdx] using h i he
  unfold emitInvocation assignResults
  rw [assignees_eq h]
  cases names : resultNames plan with
  | nil =>
    rw [names] at length
    simp [← length]
  | cons first rest =>
    rw [names] at length
    simp [← length]

theorem called_steps {plan : CallPlan} (h : Placed plan) (callee : Expr) :
    (emitInvocation plan (callee.text ++ "(" ++ ", ".intercalate (Expr.texts (arguments p.name plan)) ++ ")")).steps
      = (assignResults plan (.call callee (arguments p.name plan))).layout.steps :=
  emitInvocation_steps h (.call callee (arguments p.name plan))

theorem invoke_steps {plan : CallPlan} (h : Placed plan) (receiver : Option Receiver) {invoke : Invoke}
    (single : ∀ field, invoke = .write field → plan.params.length = 1) :
    (emitInvoke receiver plan (Expr.texts (arguments p.name plan)) invoke).steps
      = stepsAll (Stmt.layouts (callStep p.name receiver plan invoke)) := by
  cases invoke with
  | func callee => simp [emitInvoke, callStep, called_steps h]
  | method name =>
    have member (x : String) := called_steps (p := p) h (.member (.name x) name)
    rcases receiver with - | ⟨struct, type, byPointer⟩
    · simpa [emitInvoke, callStep] using member "_obj"
    · cases byPointer
      · simpa [emitInvoke, callStep] using member "_recv"
      · simpa [emitInvoke, callStep] using member "_obj"
  | read field => simp [emitInvoke, callStep, ← String.toList_inj]
  | write field =>
    obtain ⟨s, only⟩ := List.length_eq_one_iff.1 (single field rfl)
    simp [emitInvoke, callStep, arguments, only]

/-! ### What comes back -/

theorem writeBack_steps (plan : CallPlan) :
    (forEach (plan.params.filter (·.shape = .pointer)) emitWriteBack).steps
      = stepsAll (Stmt.layouts (writeBackStep plan)) := by
  rw [steps_forEach, writeBackStep, stepsAll_layouts_map]
  refine congrArg (List.flatMap · _) (funext fun s => ?_)
  simp [emitWriteBack, localOf, Ty.text, ← String.toList_inj]

theorem failure_steps (plan : CallPlan) :
    (emitFailure plan).steps = stepsAll (Stmt.layouts (errorStep plan)) := by
  cases he : plan.hasError <;> simp [emitFailure, errorStep, he, storeError, setError]

theorem return_written (s : Slot) : written (emitReturn s).steps = stepsAll (Stmt.layouts (returnResult s)) := by
  have pointer := bufferToC_value s "_r0" 0
  have copied := bufferToC_written s "_r0" 0
  unfold emitReturn returnResult
  cases s.shape <;> simp [stepsAll_layouts_append, pointer, copied]

theorem store_written (s : Slot) (k : Nat) : written (emitStore s k).steps = (storeResult s k).layout.steps := by
  have pointer := bufferToC_value s (resultName k) k
  have copied := bufferToC_written s (resultName k) k
  have var : "_r" ++ toString k = resultName k := rfl
  unfold emitStore storeResult
  dsimp only
  rw [var]
  cases s.shape <;> simp [stepsAll_layouts_append, pointer, copied, lengthName, ← String.toList_inj]

theorem results_written (plan : CallPlan) :
    written (emitResults plan).steps = stepsAll (Stmt.layouts (resultStep plan)) := by
  unfold emitResults resultStep
  cases plan.returned with
  | some s => exact return_written s
  | none =>
    have stored : plan.results.mapIdx (fun k s => storeResult s k)
        = plan.results.zipIdx.map fun x => storeResult x.1 x.2 := List.mapIdx_eq_zipIdx_map
    rw [stored, stepsAll_layouts_map, steps_forEach, written_flatMap]
    exact congrArg (List.flatMap · _) (funext fun x => store_written x.1 x.2)

theorem body_steps (receiver : Option Receiver) (invoke : Invoke) (plan : CallPlan) :
    (emitBody p receiver invoke plan).steps =
      (emitClear plan).steps ++ ((forEach receiver.toList (emitReceiver plan)).steps
        ++ ((each plan.params (paramToGo p)).steps
        ++ ((emitInvoke receiver plan (each plan.params (paramToGo p)).value invoke).steps
        ++ ((forEach (plan.params.filter (·.shape = .pointer)) emitWriteBack).steps
        ++ ((emitFailure plan).steps ++ (emitResults plan).steps))))) := rfl

/-- **The body of an entry point is written as its code says.** -/
theorem body_written {plan : CallPlan} (h : Placed plan) (receiver : Option Receiver) {invoke : Invoke}
    (single : ∀ field, invoke = .write field → plan.params.length = 1) :
    written (emitBody p receiver invoke plan).steps
      = stepsAll (Stmt.layouts (body p.name receiver invoke plan)) := by
  rw [body_steps, clear_steps, receive_steps, convert_value, invoke_steps h receiver single, writeBack_steps,
    failure_steps]
  simp only [written_append, Layout.written_stepsAll, convert_written, results_written, body,
    stepsAll_layouts_append, List.append_assoc]

theorem return_asked (s : Slot) : asked (emitReturn s).steps = [] := by
  unfold emitReturn
  cases s.shape <;> simp [bufferToC_asked]

theorem store_asked (s : Slot) (k : Nat) : asked (emitStore s k).steps = [] := by
  unfold emitStore
  cases s.shape <;> simp [bufferToC_asked]

theorem results_asked (plan : CallPlan) : asked (emitResults plan).steps = [] := by
  unfold emitResults
  cases plan.returned with
  | some s => exact return_asked s
  | none =>
    rw [steps_forEach, asked_flatMap]
    exact List.flatMap_eq_nil_iff.2 fun x _ => store_asked x.1 x.2

theorem body_asked {plan : CallPlan} (h : Placed plan) (receiver : Option Receiver) {invoke : Invoke}
    (single : ∀ field, invoke = .write field → plan.params.length = 1) :
    asked (emitBody p receiver invoke plan).steps = plan.params.flatMap fun s => asked (paramToGo p s).steps := by
  rw [body_steps, clear_steps, receive_steps, convert_value, invoke_steps h receiver single, writeBack_steps,
    failure_steps]
  simp only [asked_append, Layout.asked_stepsAll, results_asked, steps_each, asked_flatMap, List.nil_append,
    List.append_nil]

/-! ### What is logged -/

theorem remarks_needs (qs : List Qualifier) : remarks (needs p qs) = [] := by
  induction qs with
  | nil => rfl
  | cons q rest ih => exact ih

theorem paramToGo_silent (s : Slot) : remarks (paramToGo p s).steps = [] := by
  unfold paramToGo
  cases s.shape with
  | scalar => simp [remarks_needs]
  | buffer => cases s.isBytes <;> cases s.elem <;> simp [copyIn, remarks_needs]
  | fixed n => cases s.elem <;> simp [copyIn, remarks_needs]
  | pointer => cases s.type.elem <;> simp [remarks_needs]

/-- The value of the slot can be converted to a C value, and so can its elements. -/
structure Returnable (s : Slot) : Prop where
  scalar : s.shape = .scalar → intoC s.transfer ≠ .same
  element : ∀ t tr, s.elem = some (t, tr) → intoC tr ≠ .same
  shape : s.shape ≠ .pointer

theorem bufferToC_silent {s : Slot} (h : Returnable s) (var : String) (k : Nat) :
    remarks (bufferToC s var k).steps = [] := by
  unfold bufferToC
  cases s.isBytes <;> cases he : s.elem
  · rfl
  · simp [scalarRemarks, h.element _ _ he]
  · rfl
  · rfl

theorem return_silent {s : Slot} (h : Returnable s) : remarks (emitReturn s).steps = [] := by
  unfold emitReturn
  cases hs : s.shape with
  | scalar => simp [scalarRemarks, h.scalar hs]
  | buffer => simp [bufferToC_silent h]
  | fixed n => simp [bufferToC_silent h]
  | pointer => exact absurd hs h.shape

theorem store_silent {s : Slot} (h : Returnable s) (k : Nat) : remarks (emitStore s k).steps = [] := by
  unfold emitStore
  cases hs : s.shape with
  | scalar => simp [scalarRemarks, h.scalar hs]
  | buffer => simp [bufferToC_silent h]
  | fixed n => simp [bufferToC_silent h]
  | pointer => exact absurd hs h.shape

theorem results_silent {plan : CallPlan} (h : ∀ s ∈ plan.results, Returnable s) :
    remarks (emitResults plan).steps = [] := by
  unfold emitResults
  cases hr : plan.returned with
  | some s =>
    refine return_silent (h s ?_)
    unfold CallPlan.returned at hr
    split at hr
    · next only =>
      cases hr
      rw [only]
      exact List.mem_singleton_self s
    · cases hr
  | none =>
    rw [steps_forEach, remarks_flatMap]
    exact List.flatMap_eq_nil_iff.2 fun x hx => store_silent (h _ (List.fst_mem_of_mem_zipIdx hx)) _

theorem body_silent {plan : CallPlan} (h : Placed plan) (receiver : Option Receiver) {invoke : Invoke}
    (single : ∀ field, invoke = .write field → plan.params.length = 1)
    (returnable : ∀ s ∈ plan.results, Returnable s) : remarks (emitBody p receiver invoke plan).steps = [] := by
  have converted : remarks (each plan.params (paramToGo p)).steps = [] := by
    rw [steps_each, remarks_flatMap]
    exact List.flatMap_eq_nil_iff.2 fun s _ => paramToGo_silent s
  rw [body_steps, clear_steps, receive_steps, convert_value, invoke_steps h receiver single, writeBack_steps,
    failure_steps]
  simp only [remarks_append, Layout.remarks_stepsAll, converted, results_silent returnable, List.append_nil]

/-! ## Entry points -/

/-- A parameter as it is written. -/
def CParam.text (x : CParam) : String := x.name ++ " " ++ x.token.text

theorem slotTexts_eq (s : Slot) : slotTexts s = (slotParams s).map CParam.text := by
  unfold slotTexts slotParams
  split <;> simp [CParam.text, CToken.text, lengthName, ← String.toList_inj]

theorem outTexts_eq (s : Slot) : outTexts s = (outParams s).map CParam.text := by
  unfold outTexts outParams
  split <;> simp [CParam.text, CToken.text, lengthName, ← String.toList_inj]

theorem resultTexts_eq (plan : CallPlan) : resultTexts plan = (resultParams plan).map CParam.text := by
  unfold resultTexts resultParams
  cases plan.returned with
  | some s =>
    dsimp only
    split <;> rfl
  | none =>
    rw [List.map_flatMap]
    exact congrArg (List.flatMap · _) (funext outTexts_eq)

theorem parameterTexts_eq (bound : Bool) (plan : CallPlan) :
    parameterTexts bound plan = (entryParams bound plan).map CParam.text := by
  have slots : plan.params.flatMap slotTexts = (plan.params.flatMap slotParams).map CParam.text := by
    rw [List.map_flatMap]
    exact congrArg (List.flatMap · _) (funext slotTexts_eq)
  unfold parameterTexts entryParams
  rw [slots, resultTexts_eq]
  cases bound <;> cases plan.hasError <;> simp [CParam.text, CToken.text]

theorem named_written {plan : CallPlan} (h : Placed plan) (symbol : String) (receiver : Option Receiver)
    {invoke : Invoke} (single : ∀ field, invoke = .write field → plan.params.length = 1) :
    written (emitNamed p symbol receiver invoke plan).steps = stepsAll (Entry.layout
      ⟨symbol, entryParams receiver.isSome plan, plan.returned.map slotToken, body p.name receiver invoke plan⟩) := by
  have inner := body_written (p := p) h receiver single
  have texts : CParam.text = fun x => x.name ++ " " ++ x.token.text := rfl
  unfold emitNamed Entry.layout
  rw [parameterTexts_eq, texts]
  cases plan.returned <;> simp [inner]

theorem named_asked {plan : CallPlan} (h : Placed plan) (symbol : String) (receiver : Option Receiver)
    {invoke : Invoke} (single : ∀ field, invoke = .write field → plan.params.length = 1) :
    asked (emitNamed p symbol receiver invoke plan).steps
      = plan.params.flatMap fun s => asked (paramToGo p s).steps := by
  have inner := body_asked (p := p) h receiver single
  unfold emitNamed
  simp [inner]

theorem named_silent {plan : CallPlan} (h : Placed plan) (symbol : String) (receiver : Option Receiver)
    {invoke : Invoke} (single : ∀ field, invoke = .write field → plan.params.length = 1)
    (returnable : ∀ s ∈ plan.results, Returnable s) :
    remarks (emitNamed p symbol receiver invoke plan).steps = [] := by
  have inner := body_silent (p := p) h receiver single returnable
  unfold emitNamed
  simp [inner]

end

end Go

end GoGlue
