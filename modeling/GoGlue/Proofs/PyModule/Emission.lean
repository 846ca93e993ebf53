import GoGlue.Proofs.Emission.Parts
import GoGlue.Proofs.PyModule.Lookups
import GoGlue.PyModule.Emission

/-!
# Definitions as they are emitted

The emitter of the module writes two texts at once and notes the names of `ctypes` on the way; a definition is a
tree of statements. What is written to the body is the layout of the statements, and a name is noted wherever the
statements use one.

* `bodyOf`, `protoOf`, `notedIn`: what some steps do to each of the two texts and to the imports.
* `paramToC_value`, `paramToC_body`, `paramToC_noted`: the arguments of a parameter.
* `rooms_value`, `rooms_body`, `rooms_noted`: the room for results.
* `call_body`, `call_noted`: the body of a definition.
-/
namespace GoGlue.Py

open Emission
open Layout (stepsAll)
open Text (words)

/-! ## Steps -/

/-- The steps on the body. -/
def bodyOf (steps : List Step) : List Writer.Step :=
  steps.filterMap fun
    | .body s => some s
    | _ => none

/-- The steps on the declarations. -/
def protoOf (steps : List Step) : List Writer.Step :=
  steps.filterMap fun
    | .proto s => some s
    | _ => none

/-- The names of `ctypes` that are noted. -/
def notedIn (steps : List Step) : List String :=
  steps.flatMap fun
    | .note token => noted token
    | _ => []

/-- What is noted are the names of `ctypes` that are used; one of them is imported in any case. -/
def Notes (steps : List Step) (Uses : String → Prop) : Prop :=
  ∀ n, (n ∈ notedIn steps → Uses n) ∧ (Uses n → n = "c_void_p" ∨ n ∈ notedIn steps)

@[simp] theorem bodyOf_nil : bodyOf [] = [] := rfl

@[simp] theorem bodyOf_append (a b : List Step) : bodyOf (a ++ b) = bodyOf a ++ bodyOf b := List.filterMap_append ..

@[simp] theorem bodyOf_cons (s : Step) (rest : List Step) :
    bodyOf (s :: rest) = (match s with | .body s => [s] | _ => []) ++ bodyOf rest := by cases s <;> rfl

theorem bodyOf_flatMap {α : Type} (xs : List α) (f : α → List Step) :
    bodyOf (xs.flatMap f) = xs.flatMap fun x => bodyOf (f x) := List.filterMap_flatMap ..

@[simp] theorem protoOf_nil : protoOf [] = [] := rfl

@[simp] theorem protoOf_append (a b : List Step) : protoOf (a ++ b) = protoOf a ++ protoOf b :=
  List.filterMap_append ..

@[simp] theorem protoOf_cons (s : Step) (rest : List Step) :
    protoOf (s :: rest) = (match s with | .proto s => [s] | _ => []) ++ protoOf rest := by cases s <;> rfl

theorem protoOf_flatMap {α : Type} (xs : List α) (f : α → List Step) :
    protoOf (xs.flatMap f) = xs.flatMap fun x => protoOf (f x) := List.filterMap_flatMap ..

@[simp] theorem notedIn_nil : notedIn [] = [] := rfl

@[simp] theorem notedIn_append (a b : List Step) : notedIn (a ++ b) = notedIn a ++ notedIn b := List.flatMap_append

@[simp] theorem notedIn_cons (s : Step) (rest : List Step) :
    notedIn (s :: rest) = (match s with | .note token => noted token | _ => []) ++ notedIn rest := by
  cases s <;> rfl

theorem notedIn_flatMap {α : Type} (xs : List α) (f : α → List Step) :
    notedIn (xs.flatMap f) = xs.flatMap fun x => notedIn (f x) := List.flatMap_assoc

@[simp] theorem steps_note (token : String) : (note token).steps = [.note token] := rfl

@[simp] theorem steps_inBody {α : Type} (x : Emission Writer.Step α) : (inBody x).steps = x.steps.map .body := rfl

@[simp] theorem steps_inProtos {α : Type} (x : Emission Writer.Step α) : (inProtos x).steps = x.steps.map .proto := rfl

@[simp] theorem bodyOf_body (steps : List Writer.Step) : bodyOf (steps.map .body) = steps := by
  induction steps with
  | nil => rfl
  | cons s rest ih => exact congrArg (List.cons s) ih

@[simp] theorem bodyOf_proto (steps : List Writer.Step) : bodyOf (steps.map .proto) = [] := by
  induction steps with
  | nil => rfl
  | cons s rest ih => exact ih

@[simp] theorem protoOf_proto (steps : List Writer.Step) : protoOf (steps.map .proto) = steps := by
  induction steps with
  | nil => rfl
  | cons s rest ih => exact congrArg (List.cons s) ih

@[simp] theorem protoOf_body (steps : List Writer.Step) : protoOf (steps.map .body) = [] := by
  induction steps with
  | nil => rfl
  | cons s rest ih => exact ih

@[simp] theorem notedIn_body (steps : List Writer.Step) : notedIn (steps.map .body) = [] := by
  induction steps with
  | nil => rfl
  | cons s rest ih => exact ih

@[simp] theorem notedIn_proto (steps : List Writer.Step) : notedIn (steps.map .proto) = [] := by
  induction steps with
  | nil => rfl
  | cons s rest ih => exact ih

/-! ## Names of `ctypes` -/

theorem names_noted (t : CtypesToken) : ∀ n ∈ t.names, isNoted n = true := by
  induction t with
  | primitive p => cases p <;> decide
  | pointer t ih => exact List.forall_mem_cons.2 ⟨by decide, ih⟩
  | _ => decide

/-- What is noted for a class are the names in it. -/
theorem noted_token (t : CtypesToken) : noted t.text = t.names := by
  rw [noted, t.token_words, List.filter_eq_self]
  exact names_noted t

theorem noted_byref : noted "byref" = ["byref"] := by decide +kernel

theorem noted_int : noted "c_int" = ["c_int"] := by decide +kernel

/-! ## Conversions -/

-- code is spelled out in full here, down to its texts
attribute [local simp] Expr.spelling Expr.spellings Expr.calls Stmt.layout Stmt.layouts Layout.steps Layout.stepsAll
  Layout.indented Emission.pure_eq

theorem spellings_eq_map (es : List Expr) : Expr.spellings es = es.map Expr.spelling := by
  induction es with
  | nil => rfl
  | cons e rest ih => rw [Expr.spellings, ih, List.map_cons]

theorem rawText_eq (tr : Transfer) (name : String) :
    rawText tr name = ((intoRaw tr).apply (.name name)).spelling := by
  unfold rawText intoRaw
  split
  · simp [IntoRaw.apply]
  · cases known : tr.knownStruct <;> simp [known, IntoRaw.apply]

theorem converterText_eq (tr : Transfer) : converterText tr = (fromRaw tr).function.map Expr.spelling := by
  unfold converterText fromRaw
  split
  · simp [FromRaw.function]
  · cases known : tr.knownStruct <;> simp [known, FromRaw.function, ← String.toList_inj]

theorem valueText_eq (tr : Transfer) (e : Expr) : valueText tr e.spelling = ((fromRaw tr).apply e).spelling := by
  unfold valueText FromRaw.apply
  rw [converterText_eq]
  cases (fromRaw tr).function <;> simp

/-! ## Arguments -/

/-- The items of a list that are handed over, converted one by one unless there is nothing to do. -/
theorem items_eq (tr : Transfer) (name : String) :
    itemsText tr name
      = (match intoRaw tr with
        | .same => Expr.name name
        | conv => .comprehension (conv.apply (.name "v")) "v" (.either (.name name) .emptyList)).spelling := by
  unfold itemsText
  rw [rawText_eq]
  cases intoRaw tr <;> simp [IntoRaw.apply, ← String.toList_inj]

theorem paramToC_value (s : Slot) (name : String) :
    (paramToC s name).value = Expr.spellings (arguments s name).2 := by
  unfold paramToC arguments
  cases s.shape with
  | scalar => simp [rawText_eq]
  | buffer => cases s.isBytes <;> cases s.elem <;> simp [localOf, lengthOf]
  | fixed n => cases s.elem <;> simp [localOf]
  | pointer => simp [localOf]

theorem paramToC_body (s : Slot) (name : String) :
    bodyOf (paramToC s name).steps = stepsAll (Stmt.layouts (arguments s name).1) := by
  unfold paramToC arguments
  cases s.shape with
  | scalar => simp
  | buffer =>
    cases s.isBytes <;> cases s.elem <;> simp [localOf, lengthOf, items_eq, ← String.toList_inj]
    all_goals rfl
  | fixed n =>
    cases s.elem <;> simp [localOf, items_eq, ← String.toList_inj]
    all_goals rfl
  | pointer =>
    have long : (CtypesToken.primitive .int).text = "c_longlong" := rfl
    cases (slotType s).elem <;> simp [localOf, long, ← String.toList_inj]

theorem paramToC_proto (s : Slot) (name : String) : protoOf (paramToC s name).steps = [] := by
  unfold paramToC
  cases s.shape with
  | scalar => simp
  | buffer => cases s.isBytes <;> cases s.elem <;> simp
  | fixed n => cases s.elem <;> simp
  | pointer => simp

-- the names of `ctypes` in code are collected in full
attribute [local simp] Expr.ctypesNames Expr.ctypesNamesAll Stmt.ctypesNames Stmt.ctypesNamesAll noted_token noted_byref
  noted_int

theorem intoRaw_ctypes (e : Expr) (conv : IntoRaw) : (conv.apply e).ctypesNames = e.ctypesNames := by
  cases conv <;> simp [IntoRaw.apply]

/-- What is noted for a parameter are the names that its statements and arguments use. -/
theorem paramToC_noted (s : Slot) (name : String) (n : String) :
    n ∈ notedIn (paramToC s name).steps ↔
      n ∈ Stmt.ctypesNamesAll (arguments s name).1 ++ Expr.ctypesNamesAll (arguments s name).2 := by
  unfold paramToC arguments
  cases s.shape with
  | scalar => simp [intoRaw_ctypes]
  | buffer =>
    cases s.isBytes
    · cases s.elem with
      | none => simp
      | some e => cases hi : intoRaw e.2 <;> simp [hi, IntoRaw.apply]
    · simp
  | fixed k =>
    cases s.elem with
    | none => simp
    | some e => cases hi : intoRaw e.2 <;> simp [hi, IntoRaw.apply]
  | pointer =>
    have long : noted "c_longlong" = (CtypesToken.primitive .int).names := noted_token (.primitive .int)
    cases (slotType s).elem <;> simp [long, or_comm]

/-! ## Results -/

theorem room_value (s : Slot) : (emitRoom s).value = Expr.spellings (outArguments s).2 := by
  unfold emitRoom outArguments
  split <;> simp_all [localOf, lengthOf, ← String.toList_inj]

theorem room_body (s : Slot) : bodyOf (emitRoom s).steps = stepsAll (Stmt.layouts (outArguments s).1) := by
  unfold emitRoom outArguments
  split <;> simp_all [localOf, lengthOf, CtypesToken.text, ← String.toList_inj]

theorem room_proto (s : Slot) : protoOf (emitRoom s).steps = [] := by
  unfold emitRoom
  split <;> simp

theorem room_noted (s : Slot) (n : String) :
    n ∈ notedIn (emitRoom s).steps ↔
      n ∈ Stmt.ctypesNamesAll (outArguments s).1 ++ Expr.ctypesNamesAll (outArguments s).2 := by
  unfold emitRoom outArguments
  split
  · simp [CtypesToken.names, CtypesToken.text]
    grind
  · simp

theorem layouts_append (ss ts : List Stmt) : Stmt.layouts (ss ++ ts) = Stmt.layouts ss ++ Stmt.layouts ts := by
  induction ss with
  | nil => rfl
  | cons s rest ih => rw [List.cons_append, Stmt.layouts, ih, Stmt.layouts, List.append_assoc]

theorem stepsAll_layouts_append (ss ts : List Stmt) :
    stepsAll (Stmt.layouts (ss ++ ts)) = stepsAll (Stmt.layouts ss) ++ stepsAll (Stmt.layouts ts) := by
  rw [layouts_append, Layout.stepsAll_append]

theorem stepsAll_layouts_flatMap {α : Type} (xs : List α) (f : α → List Stmt) :
    stepsAll (Stmt.layouts (xs.flatMap f)) = xs.flatMap fun x => stepsAll (Stmt.layouts (f x)) := by
  induction xs with
  | nil => rfl
  | cons x rest ih => rw [List.flatMap_cons, stepsAll_layouts_append, ih, List.flatMap_cons]

theorem spellings_append (es fs : List Expr) :
    Expr.spellings (es ++ fs) = Expr.spellings es ++ Expr.spellings fs := by
  simp only [spellings_eq_map, List.map_append]

theorem spellings_flatMap {α : Type} (xs : List α) (f : α → List Expr) :
    Expr.spellings (xs.flatMap f) = xs.flatMap fun x => Expr.spellings (f x) := by
  simp only [spellings_eq_map, List.map_flatMap]

theorem ctypesNamesAll_append (ss ts : List Stmt) :
    Stmt.ctypesNamesAll (ss ++ ts) = Stmt.ctypesNamesAll ss ++ Stmt.ctypesNamesAll ts := by
  induction ss with
  | nil => rfl
  | cons s rest ih => rw [List.cons_append, Stmt.ctypesNamesAll, ih, Stmt.ctypesNamesAll, List.append_assoc]

theorem Expr.ctypesNamesAll_append (es fs : List Expr) :
    Expr.ctypesNamesAll (es ++ fs) = Expr.ctypesNamesAll es ++ Expr.ctypesNamesAll fs := by
  induction es with
  | nil => rfl
  | cons e rest ih => rw [List.cons_append, ctypesNamesAll, ih, ctypesNamesAll, List.append_assoc]

theorem mem_ctypesNamesAll_flatMap {α : Type} {xs : List α} {f : α → List Stmt} {n : String} :
    n ∈ Stmt.ctypesNamesAll (xs.flatMap f) ↔ ∃ x ∈ xs, n ∈ Stmt.ctypesNamesAll (f x) := by
  induction xs with
  | nil => simp
  | cons x rest ih => simp [ctypesNamesAll_append, ih]

theorem mem_exprCtypesNamesAll_flatMap {α : Type} {xs : List α} {f : α → List Expr} {n : String} :
    n ∈ Expr.ctypesNamesAll (xs.flatMap f) ↔ ∃ x ∈ xs, n ∈ Expr.ctypesNamesAll (f x) := by
  induction xs with
  | nil => simp
  | cons x rest ih => simp [Expr.ctypesNamesAll_append, ih]

theorem rooms_value (plan : CallPlan) : (emitRooms plan).value = Expr.spellings (resultArguments plan).2 := by
  have stored : (plan.results.map fun s => (emitRoom s).value).flatten
      = Expr.spellings ((plan.results.map outArguments).flatMap (·.2)) := by
    rw [← List.flatMap_def, List.flatMap_map, spellings_flatMap]
    exact congrArg (List.flatMap · _) (funext room_value)
  unfold emitRooms emitResultRooms resultArguments
  cases plan.returned with
  | none => cases plan.hasError <;> simp [stored, spellings_append]
  | some s => cases plan.hasError <;> by_cases shape : s.shape = .buffer <;> simp [shape]

theorem rooms_body (plan : CallPlan) :
    bodyOf (emitRooms plan).steps = stepsAll (Stmt.layouts (resultArguments plan).1) := by
  have stored : bodyOf (plan.results.flatMap fun s => (emitRoom s).steps)
      = stepsAll (Stmt.layouts ((plan.results.map outArguments).flatMap (·.1))) := by
    rw [bodyOf_flatMap, List.flatMap_map, stepsAll_layouts_flatMap]
    exact congrArg (List.flatMap · _) (funext room_body)
  unfold emitRooms emitResultRooms resultArguments
  cases plan.returned with
  | none => cases plan.hasError <;> simp [stored, stepsAll_layouts_append, CtypesToken.text]
  | some s =>
    cases plan.hasError <;> by_cases shape : s.shape = .buffer <;>
      simp [shape, CtypesToken.text]

theorem rooms_proto (plan : CallPlan) : protoOf (emitRooms plan).steps = [] := by
  have stored : protoOf (plan.results.flatMap fun s => (emitRoom s).steps) = [] := by
    rw [protoOf_flatMap]
    exact List.flatMap_eq_nil_iff.2 fun s _ => room_proto s
  unfold emitRooms emitResultRooms
  cases plan.returned with
  | none => cases plan.hasError <;> simp [stored]
  | some s => cases plan.hasError <;> by_cases shape : s.shape = .buffer <;> simp [shape]

/-- What is noted is what the room is made with. -/
theorem rooms_noted (plan : CallPlan) :
    Notes (emitRooms plan).steps fun n =>
      n ∈ Stmt.ctypesNamesAll (resultArguments plan).1 ++ Expr.ctypesNamesAll (resultArguments plan).2 := by
  intro n
  have stored : n ∈ notedIn (plan.results.flatMap fun s => (emitRoom s).steps) ↔
      n ∈ Stmt.ctypesNamesAll ((plan.results.map outArguments).flatMap (·.1)) ∨
        n ∈ Expr.ctypesNamesAll ((plan.results.map outArguments).flatMap (·.2)) := by
    simp only [notedIn_flatMap, List.mem_flatMap, room_noted, mem_ctypesNamesAll_flatMap,
      mem_exprCtypesNamesAll_flatMap, List.flatMap_map, List.mem_append, ← exists_or, ← and_or_left]
  have both : noted "c_int byref" = ["c_int", "byref"] := by decide +kernel
  unfold emitRooms emitResultRooms resultArguments
  cases plan.returned with
  | none =>
    cases plan.hasError <;> simp [stored, ctypesNamesAll_append, Expr.ctypesNamesAll_append, CtypesToken.names,
      CtypesToken.text] <;> grind
  | some s =>
    cases plan.hasError <;> by_cases shape : s.shape = .buffer <;>
      simp [shape, both, CtypesToken.names, CtypesToken.text] <;> grind

/-! ## The call -/

theorem takeText_eq (s : Slot) (raw count : Expr) :
    takeText s raw.spelling count.spelling = (Expr.calls "_take_buffer" ([raw, count]
      ++ match s.elem with
        | some (_, tr) => (fromRaw tr).function.toList
        | none => [])).spelling := by
  unfold takeText
  cases s.elem with
  | none => simp [← String.toList_inj]
  | some e => cases hf : (fromRaw e.2).function <;> simp [converterText_eq, hf, ← String.toList_inj]

theorem resultText_eq (s : Slot) (raw count : Expr) :
    resultText s raw.spelling count.spelling = (resultValue s raw count).spelling := by
  unfold resultText resultValue
  cases s.shape with
  | scalar | pointer => exact valueText_eq ..
  | buffer =>
    cases s.isBytes
    · exact takeText_eq s raw count
    · simp [← String.toList_inj]
  | fixed k => exact takeText_eq s raw (.number k.toNat)

theorem storedText_eq (s : Slot) : storedText s = (outValue s).spelling := by
  have loc : ("_" ++ s.name) = (Expr.name (localOf s.name)).spelling := by simp [localOf]
  have value : ("_" ++ s.name ++ ".value") = (Expr.member (.name (localOf s.name)) "value").spelling := by
    simp [localOf, ← String.toList_inj]
  have count : ("_" ++ s.name ++ "_len.value")
      = (Expr.member (.name (lengthOf (localOf s.name))) "value").spelling := by
    simp [localOf, lengthOf, ← String.toList_inj]
  unfold storedText outValue
  dsimp only
  cases hs : s.shape with
  | scalar | pointer =>
    -- a single value is taken without a count
    rw [value, ← resultText_eq]
    simp [resultText, hs]
  | buffer =>
    cases s.isBytes
    · exact (congrArg₂ (resultText s) loc count).trans (resultText_eq ..)
    · exact (congrArg₂ (resultText s) value count).trans (resultText_eq ..)
  | fixed k => exact (congrArg₂ (resultText s) loc count).trans (resultText_eq ..)

/-- A call is more than a name. -/
theorem ne_result {text : String} (h : '(' ∈ text.toList) : text ≠ "_res" := by
  rintro rfl
  exact absurd h (by decide)

theorem takeText_ne_result (s : Slot) (expr count : String) : takeText s expr count ≠ "_res" := by
  unfold takeText
  split <;> exact ne_result (by simp)

/-- Only a result that is passed on as it comes is not converted. -/
theorem plain_iff (s : Slot) : resultText s "_res" "_len.value" = "_res" ↔ isPlain s = true := by
  unfold resultText isPlain
  cases hs : s.shape with
  | scalar | pointer =>
    have value : valueText s.transfer "_res" = "_res" ↔ fromRaw s.transfer = .same := by
      unfold valueText
      rw [converterText_eq]
      cases fromRaw s.transfer with
      | same => simp [FromRaw.function]
      | decode | object => refine iff_of_false (ne_result ?_) ?_ <;> simp [FromRaw.function]
    simpa using value
  | buffer =>
    cases s.isBytes
    · simpa using takeText_ne_result s "_res" "_len.value"
    · simp
  | fixed n => simpa using takeText_ne_result s "_res" (toString n.toNat)

theorem outcome_body (symbol : String) (plan : CallPlan) (args : List Expr) :
    bodyOf (emitOutcome plan ("_lib." ++ symbol ++ "(" ++ ", ".intercalate (Expr.spellings args) ++ ")")).steps
      = stepsAll (Stmt.layouts (callStep symbol plan args)) := by
  unfold emitOutcome callStep
  cases plan.returned with
  | some s =>
    have value : resultText s "_res" "_len.value"
        = (resultValue s (.name "_res") (.member (.name "_len") "value")).spelling := by
      rw [← resultText_eq]
      simp
    dsimp only
    by_cases plain : isPlain s = true
    · simp [(plain_iff s).2 plain, plain]
    · rw [if_neg (mt (plain_iff s).1 plain), if_neg plain, value]
      simp
  | none =>
    have values : plan.results.map storedText = (plan.results.map outValue).map Expr.spelling := by
      rw [List.map_map]
      exact congrArg (List.map · _) (funext storedText_eq)
    dsimp only
    rw [values]
    cases plan.results <;> cases plan.hasError <;> simp

theorem outcome_proto (plan : CallPlan) (call : String) : protoOf (emitOutcome plan call).steps = [] := by
  unfold emitOutcome
  cases plan.returned with
  | some s => by_cases plain : resultText s "_res" "_len.value" = "_res" <;> simp [plain]
  | none => cases plan.results <;> cases plan.hasError <;> simp

theorem outcome_noted (plan : CallPlan) (call : String) : notedIn (emitOutcome plan call).steps = [] := by
  unfold emitOutcome
  cases plan.returned with
  | some s => by_cases plain : resultText s "_res" "_len.value" = "_res" <;> simp [plain]
  | none => cases plan.results <;> cases plan.hasError <;> simp

/-! ## Bodies -/

variable (plan : CallPlan) (names : List String)

/-- The parameters of a definition, converted. -/
def emitConverted : Emission Step (List (List String)) :=
  each (plan.params.zip names) fun (s, name) => paramToC s name

theorem converted_value :
    (emitConverted plan names).value.flatten
      = Expr.spellings ((List.zipWith arguments plan.params names).flatMap (·.2)) := by
  rw [emitConverted, value_each, ← List.flatMap_def, ← List.map_uncurry_zip_eq_zipWith, List.flatMap_map,
    spellings_flatMap]
  exact congrArg (List.flatMap · _) (funext fun x => paramToC_value x.1 x.2)

theorem converted_body :
    bodyOf (emitConverted plan names).steps
      = stepsAll (Stmt.layouts ((List.zipWith arguments plan.params names).flatMap (·.1))) := by
  rw [emitConverted, steps_each, bodyOf_flatMap, ← List.map_uncurry_zip_eq_zipWith, List.flatMap_map,
    stepsAll_layouts_flatMap]
  exact congrArg (List.flatMap · _) (funext fun x => paramToC_body x.1 x.2)

theorem converted_proto : protoOf (emitConverted plan names).steps = [] := by
  rw [emitConverted, steps_each, protoOf_flatMap]
  exact List.flatMap_eq_nil_iff.2 fun x _ => paramToC_proto x.1 x.2

theorem converted_noted (n : String) :
    n ∈ notedIn (emitConverted plan names).steps ↔
      n ∈ Stmt.ctypesNamesAll ((List.zipWith arguments plan.params names).flatMap (·.1)) ∨
        n ∈ Expr.ctypesNamesAll ((List.zipWith arguments plan.params names).flatMap (·.2)) := by
  simp only [emitConverted, steps_each, notedIn_flatMap, List.mem_flatMap, paramToC_noted,
    ← List.map_uncurry_zip_eq_zipWith, List.flatMap_map, mem_ctypesNamesAll_flatMap, mem_exprCtypesNamesAll_flatMap,
    List.mem_append, ← exists_or, ← and_or_left]
  rfl

theorem call_steps (symbol : String) (bound : Bool) :
    (emitCall symbol bound plan names).steps = (emitConverted plan names).steps ++ ((emitRooms plan).steps
      ++ (emitOutcome plan ("_lib." ++ symbol ++ "(" ++ ", ".intercalate
        ((if bound then ["self._handle"] else []) ++ (emitConverted plan names).value.flatten
          ++ (emitRooms plan).value) ++ ")")).steps) := rfl

/-- **The body of a definition is written as its code says.** -/
theorem call_body (symbol : String) (bound : Bool) :
    bodyOf (emitCall symbol bound plan names).steps
      = stepsAll (Stmt.layouts (callBody symbol bound plan names)) := by
  have self : (if bound then ["self._handle"] else [])
      = Expr.spellings (if bound then [Expr.member (.name "self") "_handle"] else []) := by cases bound <;> rfl
  rw [call_steps, converted_value, rooms_value, self, ← spellings_append, ← spellings_append]
  simp only [bodyOf_append, converted_body, rooms_body, outcome_body, callBody, stepsAll_layouts_append,
    List.append_assoc]

theorem call_proto (symbol : String) (bound : Bool) : protoOf (emitCall symbol bound plan names).steps = [] := by
  rw [call_steps]
  simp only [protoOf_append, converted_proto, rooms_proto, outcome_proto, List.append_nil]

theorem fromRaw_ctypes {conv : FromRaw} : ∀ f ∈ conv.function, f.ctypesNames = [] := by
  cases conv <;> simp [FromRaw.function]

/-- Converting a result uses no class. -/
theorem resultValue_ctypes (s : Slot) {raw count : Expr} (hr : raw.ctypesNames = []) (hc : count.ctypesNames = []) :
    (resultValue s raw count).ctypesNames = [] := by
  have value (conv : FromRaw) : (conv.apply raw).ctypesNames = [] := by
    unfold FromRaw.apply
    split
    · next f hf => simp [fromRaw_ctypes f hf, hr]
    · exact hr
  have converters : ∀ f ∈ (match s.elem with
      | some (_, tr) => (fromRaw tr).function.toList
      | none => []), f.ctypesNames = [] := by
    split
    · exact fun f hf => fromRaw_ctypes f (Option.mem_toList.1 hf)
    · simp
  have take (n : Expr) (hn : n.ctypesNames = []) : (Expr.calls "_take_buffer" ([raw, n] ++ match s.elem with
      | some (_, tr) => (fromRaw tr).function.toList
      | none => [])).ctypesNames = [] := by
    simpa [Expr.ctypesNamesAll_append, hr, hn, List.eq_nil_iff_forall_not_mem, Expr.mem_ctypesNamesAll]
      using fun n f hf => by simp [converters f hf]
  unfold resultValue
  cases s.shape with
  | scalar | pointer => exact value _
  | buffer =>
    cases s.isBytes
    · exact take count hc
    · simp [hr, hc]
  | fixed n => exact take _ (by simp)

theorem outValue_ctypes (s : Slot) : (outValue s).ctypesNames = [] := by
  unfold outValue
  dsimp only
  split
  · exact resultValue_ctypes s (by simp) (by simp)
  · exact resultValue_ctypes s (by simp) (by simp)
  · split <;> exact resultValue_ctypes s (by simp) (by simp)
  · exact resultValue_ctypes s (by simp) (by simp)

/-- The call uses the names that its arguments use. -/
theorem callStep_ctypes (symbol : String) (args : List Expr) (n : String) :
    n ∈ Stmt.ctypesNamesAll (callStep symbol plan args) ↔ n ∈ Expr.ctypesNamesAll args := by
  unfold callStep
  cases plan.returned with
  | some s =>
    have value : (resultValue s (.name "_res") (.member (.name "_len") "value")).ctypesNames = [] :=
      resultValue_ctypes s (by simp) (by simp)
    by_cases plain : isPlain s = true <;> simp [plain, value]
  | none =>
    have values : Expr.ctypesNamesAll (plan.results.map outValue) = [] := by
      simp [List.eq_nil_iff_forall_not_mem, Expr.mem_ctypesNamesAll, outValue_ctypes]
    by_cases nothing : plan.results = [] <;> cases plan.hasError <;> simp [nothing, values]

/-- **What is noted for a definition is what its body uses.** -/
theorem call_noted (symbol : String) (bound : Bool) :
    Notes (emitCall symbol bound plan names).steps
      (· ∈ Stmt.ctypesNamesAll (callBody symbol bound plan names)) := by
  intro n
  have self : Expr.ctypesNamesAll (if bound then [Expr.member (.name "self") "_handle"] else []) = [] := by
    cases bound <;> simp
  obtain ⟨used, covered⟩ := rooms_noted plan n
  have conv := converted_noted plan names n
  simp only [call_steps, notedIn_append, outcome_noted, callBody, ctypesNamesAll_append, callStep_ctypes,
    Expr.ctypesNamesAll_append, self, List.mem_append, List.not_mem_nil, conv, false_or, or_false] at used covered ⊢
  grind

end GoGlue.Py
