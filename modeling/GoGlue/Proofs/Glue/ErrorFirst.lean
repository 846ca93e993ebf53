import GoGlue.Proofs.Abi.Passing
import GoGlue.Proofs.Glue.Aside

/-!
# Errors come before results

A callable that can fail reports through a channel of its own, and nothing is made of its results until that
channel is decided. On the Go side this is said of every run of a body: the error is cleared first, an invalid
receiver and a failed call report and leave without a value, and until the error has been tested nothing reads
a result, allocates memory or stores through the pointer of a result. On the Python side the check stands
directly behind the call, and what stands before the call is owned by Python.

* `body_errorFirst`: the runs of a body.
* `Py.callBody_errorFirst`: the body of a Python function.
* `Glue.errors_first`: both, for everything in a package that can fail.
-/
namespace GoGlue.Go

variable {own : String} {plan renamed : CallPlan} {receiver : Option Receiver} {invoke : Invoke}

/-! ## Bodies -/

/-- The caller is told, if there is a place for it. -/
inductive Reports (e : Expr) : List Act → Prop
  | told : Reports e [.test (.notNil (.name "outError")) true,
      .step (.assign (.deref (.name "outError")) e)]
  | unheard : Reports e [.test (.notNil (.name "outError")) false]

theorem run_setError {e : Expr} {rest : List Stmt} {acts : List Act} {left : Bool}
    (h : Run (setError e :: rest) acts left) :
    ∃ report more, acts = report ++ more ∧ Reports e report ∧ Run rest more left := by
  rcases run_ifs.1 h with ⟨more, rfl, later⟩ | ⟨more, rfl, inside⟩
  · exact ⟨_, more, rfl, .unheard, later⟩
  · obtain ⟨more, rfl, later⟩ := (run_step rfl).1 inside
    exact ⟨[_, _], more, rfl, .told, later⟩

/-- The object is looked up, and is invalid or not. -/
def lookUp (r : Receiver) (invalid : Bool) : List Act :=
  [.step (.define ["_obj"] (.call (.applied "fromHandle" r.type) [.name "handle"])),
    .test (.isNil (.name "_obj")) invalid]

/-- What is done with a valid receiver: **the error is tested before any result is touched**. -/
inductive Decided (receiver : Option Receiver) (invoke : Invoke) (plan : CallPlan) : List Act → Prop
  /-- The call fails: that is reported, and nothing else happens. -/
  | failed {before f args written report} (calls : Calls receiver invoke f)
    (aside : ∀ a ∈ before ++ .step (.define (resultNames plan) (.call f args)) :: written, a.Aside plan)
    (reports : Reports (.ccall "CString" [.call (.member (.name "_err") "Error") []]) report) :
    Decided receiver invoke plan (before ++ .step (.define (resultNames plan) (.call f args)) ::
      (written ++ .test (.notNil (.name "_err")) true :: (report ++ [.leave none])))
  /-- The call succeeds, and only then the results are handed over. -/
  | succeeded {before f args written results} (calls : Calls receiver invoke f)
    (aside : ∀ a ∈ before ++ .step (.define (resultNames plan) (.call f args)) :: written, a.Aside plan)
    (hands : Run (resultStep plan) results false) :
    Decided receiver invoke plan (before ++ .step (.define (resultNames plan) (.call f args)) ::
      (written ++ .test (.notNil (.name "_err")) false :: results))

/-- The runs of a body that can fail: **the error channel is decided before any result**. -/
inductive ErrorFirst (receiver : Option Receiver) (invoke : Invoke) (plan : CallPlan) :
    List Act → Prop
  /-- The receiver is invalid: that is reported, and nothing else happens. -/
  | invalid {r cleared report} (hr : receiver = some r) (clear : Reports .nil cleared)
    (reports : Reports (.ccall "CString" [.quote ("invalid " ++ r.struct ++ " handle")]) report) :
    ErrorFirst receiver invoke plan (cleared ++ (lookUp r true ++ (report ++ [.leave none])))
  | valid {cleared acts} (clear : Reports .nil cleared) (decided : Decided receiver invoke plan acts) :
    ErrorFirst receiver invoke plan (cleared ++ (receiver.toList.flatMap (lookUp · false) ++ acts))

/-- A plan with an error returns nothing directly. -/
theorem returned_of_hasError (h : plan.hasError = true) : plan.returned = none := by
  obtain ⟨i, hi⟩ := Option.isSome_iff_exists.1 h
  simp [CallPlan.returned, hi]

/-- Handing over results that are stored ends without a return. -/
theorem storeResults_stay {xs : List Stmt} {acts : List Act} {left : Bool} (h : Run xs acts left)
    (stored : ∀ s ∈ xs, ∃ t k, s = storeResult t k) : left = false := by
  rw [← Bool.not_eq_true, h.leaves]
  rintro ⟨e, he⟩
  obtain ⟨s, hs, ha⟩ := Stmt.mem_actsAll.1 (h.spelled _ he)
  obtain ⟨t, k, rfl⟩ := stored s hs
  unfold storeResult bufferIntoC at ha
  cases hs : t.shape <;> cases hb : t.isBytes <;> cases he : t.elem <;>
    simp [hs, hb, he, Stmt.acts, Stmt.actsAll] at ha

/-- Nothing of the plan but its parameters is changed by renaming. -/
theorem unshadowed_results (hr : unshadowed own plan = some renamed) :
    resultNames renamed = resultNames plan ∧ resultStep renamed = resultStep plan ∧
      renamed.hasError = plan.hasError := by
  rw [(unshadowed_renamed hr).2]
  exact ⟨rfl, rfl, rfl⟩

/-- Behind the receiver, a body keeps aside up to the test of the error. -/
theorem call_decided {f : Expr} (hasError : renamed.hasError = true) (calls : Calls receiver invoke f)
    (free : ∀ s ∈ renamed.params, FreeName plan s.name) {copy : List Stmt} (copied : Aside plan copy)
    {acts : List Act} {left : Bool}
    (h : Run (convertStep own renamed ++ copy ++
      .define (resultNames plan) (.call f (arguments own renamed)) ::
        (writeBackStep renamed ++ (errorStep renamed ++ resultStep plan))) acts left)
    (results : plan.returned = none) : Decided receiver invoke plan acts := by
  obtain ⟨before, _, rfl, asideBefore, calling⟩ :=
    ((convertStep_aside free).append copied).run_append h
  obtain ⟨_, rfl, behind⟩ := (run_step rfl).1 calling
  obtain ⟨written, _, rfl, asideWritten, testing⟩ := (writeBackStep_aside free).run_append behind
  have aside := List.forall_mem_append.2 ⟨asideBefore, List.forall_mem_cons.2
    ⟨calls.aside own (resultNames plan) free, asideWritten⟩⟩
  rw [errorStep, if_pos hasError, List.singleton_append] at testing
  rcases run_ifs.1 testing with ⟨handed, rfl, hands⟩ | ⟨_, rfl, failing⟩
  · have stays : left = false := by
      refine storeResults_stay hands ?_
      rw [resultStep, results]
      intro s hs
      obtain ⟨k, hk, rfl⟩ := List.mem_mapIdx.1 hs
      exact ⟨_, _, rfl⟩
    exact .succeeded calls aside (stays ▸ hands)
  · obtain ⟨report, _, rfl, reports, leaving⟩ := run_setError failing
    obtain ⟨rfl, -⟩ := run_ret.1 leaving
    exact .failed calls aside reports

/-- **The runs of a body that can fail.** -/
theorem body_errorFirst {f : Expr} (hasError : plan.hasError = true) (calls : Calls receiver invoke f)
    (names : resultNames plan ≠ []) (hr : unshadowed own plan = some renamed) {acts : List Act}
    {left : Bool} (h : Run (body own receiver invoke renamed) acts left) :
    ErrorFirst receiver invoke plan acts := by
  have free := unshadowed_free hr
  obtain ⟨vars, results, same⟩ := unshadowed_results hr
  have fails : renamed.hasError = true := same.trans hasError
  have none := returned_of_hasError hasError
  have leaves : bail renamed = .ret Option.none := by
    rw [bail, returned_of_hasError fails]
    rfl
  obtain ⟨copy, copied, step⟩ := calls.callStep own plan renamed
  have assigns : assignResults renamed (.call f (arguments own renamed))
      = .define (resultNames plan) (.call f (arguments own renamed)) :=
    vars ▸ assignResults_eq (vars ▸ names) _
  have code : body own receiver invoke renamed = setError .nil :: (receiveStep renamed receiver ++
      (convertStep own renamed ++ copy ++ .define (resultNames plan) (.call f (arguments own renamed)) ::
        (writeBackStep renamed ++ (errorStep renamed ++ resultStep plan)))) := by
    simp [body, clearStep, fails, step, assigns, results]
  rw [code] at h
  obtain ⟨cleared, _, rfl, clear, receiving⟩ := run_setError h
  cases hrec : receiver with
  | none =>
    rw [hrec] at receiving calls
    exact .valid clear (call_decided fails calls free copied receiving none)
  | some r =>
    rw [hrec] at receiving calls
    simp only [receiveStep, fails, if_true, leaves, List.cons_append, List.nil_append] at receiving
    obtain ⟨_, rfl, testing⟩ := (run_step rfl).1 receiving
    rcases run_ifs.1 testing with ⟨_, rfl, calling⟩ | ⟨_, rfl, failing⟩
    · exact .valid clear (call_decided fails calls free copied calling none)
    · obtain ⟨report, _, rfl, reports, leaving⟩ := run_setError failing
      obtain ⟨rfl, -⟩ := run_ret.1 leaving
      exact .invalid rfl clear reports

end GoGlue.Go

namespace GoGlue.Py

/-! ## The Python side -/

/-- The body of a function that can fail: **the error is checked directly behind the call**. What stands
before is owned by Python, so it calls no entry point and releases nothing; what stands behind returns the
results. -/
inductive ErrorFirst (symbol : String) (plan : CallPlan) : List Stmt → Prop
  | checked {before : List Stmt} {args : List Expr} {after : List Stmt}
    (owned : Owned (Stmt.madeAll before ++ Expr.madeAll args))
    (returns : after = if plan.results = [] then [] else [.ret (plan.results.map outValue)]) :
    ErrorFirst symbol plan (before ++ .expr (.call (.entry symbol) args)
      :: .expr (.calls "_check_error" [.name "_err"]) :: after)

theorem Owned.append {cs ds : List Call} (h : Owned cs) (h' : Owned ds) : Owned (cs ++ ds) :=
  List.forall_mem_append.2 ⟨h, h'⟩

theorem inputs_owned (slots : List Slot) (names : List String) :
    Owned (Stmt.madeAll ((List.zipWith arguments slots names).flatMap (·.1))) ∧
      Owned (Expr.madeAll ((List.zipWith arguments slots names).flatMap (·.2))) := by
  induction slots generalizing names with
  | nil => exact ⟨.nil, .nil⟩
  | cons s rest ih =>
    cases names with
    | nil => exact ⟨.nil, .nil⟩
    | cons name names =>
      obtain ⟨prepared, passed⟩ := List.forall_mem_append.1 (arguments_owned s name)
      obtain ⟨preparedRest, passedRest⟩ := ih names
      rw [List.zipWith_cons_cons, List.flatMap_cons, List.flatMap_cons, Stmt.madeAll_append,
        Expr.madeAll_append]
      exact ⟨.append prepared preparedRest, .append passed passedRest⟩

theorem outArguments_owned (s : Slot) :
    Owned (Stmt.madeAll (outArguments s).1) ∧ Owned (Expr.madeAll (outArguments s).2) := by
  by_cases hb : s.shape = .buffer <;>
    simp [outArguments, hb, Owned, Stmt.madeAll, Stmt.made, Expr.madeAll, Expr.made, Expr.ownedByPython]

/-- The room for results is made by Python, and what is passed for it are references. -/
theorem resultArguments_owned {plan : CallPlan} (stored : plan.returned = none) :
    Owned (Stmt.madeAll (resultArguments plan).1) ∧ Owned (Expr.madeAll (resultArguments plan).2) := by
  have outs : ∀ slots : List Slot, Owned (Stmt.madeAll ((slots.map outArguments).flatMap (·.1))) ∧
      Owned (Expr.madeAll ((slots.map outArguments).flatMap (·.2))) := by
    intro slots
    induction slots with
    | nil => exact ⟨.nil, .nil⟩
    | cons s rest ih =>
      obtain ⟨room, passed⟩ := outArguments_owned s
      rw [List.map_cons, List.flatMap_cons, List.flatMap_cons, Stmt.madeAll_append, Expr.madeAll_append]
      exact ⟨.append room ih.1, .append passed ih.2⟩
  have error : Owned (Stmt.madeAll [.assign [.name "_err"] (.call (.ctypes .voidP) [])]) ∧
      Owned (Expr.madeAll [.byref (.name "_err")]) := by
    simp [Owned, Stmt.madeAll, Stmt.made, Expr.madeAll, Expr.made, Expr.ownedByPython]
  obtain ⟨room, passed⟩ := outs plan.results
  unfold resultArguments
  rw [stored]
  cases plan.hasError with
  | false => exact ⟨room, passed⟩
  | true =>
    simp only [if_true, Stmt.madeAll_append, Expr.madeAll_append]
    exact ⟨.append room error.1, .append passed error.2⟩

/-- **The body of a function that can fail.** -/
theorem callBody_errorFirst {plan : CallPlan} (hasError : plan.hasError = true) (symbol : String)
    (bound : Bool) (names : List String) :
    ErrorFirst symbol plan (callBody symbol bound plan names) := by
  have stored := Go.returned_of_hasError hasError
  obtain ⟨prepared, passed⟩ := inputs_owned plan.params names
  obtain ⟨room, references⟩ := resultArguments_owned stored
  have self : Owned (Expr.madeAll (if bound then [Expr.member (.name "self") "_handle"] else [])) := by
    cases bound <;> exact .nil
  have body : callBody symbol bound plan names
      = ((List.zipWith arguments plan.params names).flatMap (·.1) ++ (resultArguments plan).1)
        ++ Stmt.expr (.call (.entry symbol) (callArguments bound plan names))
          :: Stmt.expr (.calls "_check_error" [.name "_err"])
          :: if plan.results = [] then [] else [Stmt.ret (plan.results.map outValue)] := by
    simp [callBody, callStep, stored, hasError, callArguments]
  rw [body]
  refine .checked ?_ rfl
  rw [Stmt.madeAll_append, callArguments, Expr.madeAll_append, Expr.madeAll_append]
  exact (prepared.append room).append ((self.append passed).append references)

end GoGlue.Py

/-! ## Packages -/

namespace GoGlue

theorem GoType.Crosses.ne_error {structs : StructNames} {t : GoType} {shape : Shape}
    (h : t.Crosses structs shape) : t.kind ≠ .error := by
  obtain ⟨tr, hc, hne, -⟩ := crosses_iff.1 h
  intro error
  exact hne (Except.ok.inj (hc.symm.trans (classify_errorOut_iff.2 error)))

namespace Surface

/-- A field that has accessors is no error, since the setter takes it. -/
theorem field_ne_error {structs : StructNames} {s : Struct} {f : FieldSurface}
    (h : f ∈ (struct structs s).fields) : f.field.type.kind ≠ .error := by
  obtain ⟨source, hs, he⟩ := List.mem_map.1 (mem_kept.1 h)
  simp only [field, accessors, bind, Except.bind, pure, Except.pure] at he
  cases hg : CallPlan.ofGetter structs source.type with
  | error e => simp [hg] at he
  | ok getter =>
    cases hset : CallPlan.ofSetter structs source.type with
    | error e => simp [hg, hset] at he
    | ok setter =>
      simp only [hg, hset, Except.ok.injEq] at he
      subst he
      obtain ⟨laid, hl, -⟩ := ok_of_map hset
      obtain ⟨-, -, params, -, -⟩ := CallPlan.ofSignature_ok_iff.1 hl
      obtain ⟨slot, -, made⟩ := exists_related_right params (List.mem_singleton_self _)
      exact made.carries.shape.ne_error

/-- Accessors do not fail. -/
theorem accessors_hasError {structs : StructNames} {t : GoType} {plan : CallPlan}
    (value : t.kind ≠ .error)
    (h : CallPlan.ofGetter structs t = .ok plan ∨ CallPlan.ofSetter structs t = .ok plan) :
    plan.hasError = false := by
  rcases h with h | h
  · obtain ⟨-, -, -, -, places⟩ := CallPlan.ofSignature_ok_iff.1 h
    have none : plan.errorPosition.toList = [] := by
      rw [← places]
      simp [CallPlan.errorPlaces, Param.unnamed, GoType.isError, value]
    simpa [CallPlan.hasError] using none
  · obtain ⟨laid, hl, rfl⟩ := ok_of_map h
    obtain ⟨-, -, -, -, places⟩ := CallPlan.ofSignature_ok_iff.1 hl
    have none : laid.errorPosition.toList = [] := places.symm
    simpa [CallPlan.hasError] using none

/-- What can fail is a function or a method: it is called, and its results are assigned. -/
theorem serves_calls {p : Package} {own : String} {receiver : Option Go.Receiver} {invoke : Go.Invoke}
    {plan : CallPlan} (h : Go.Serves own (ofPackage p) receiver invoke plan)
    (hasError : plan.hasError = true) :
    (∃ f, Go.Calls receiver invoke f) ∧ ∃ sig, CallPlan.ofSignature p.structNames sig = .ok plan := by
  cases h with
  | func hf => exact ⟨⟨_, .func⟩, _, (function_source hf).2⟩
  | getter hs hf hp =>
    rw [(struct_source hs).2] at hf
    have faultless := accessors_hasError (field_ne_error hf) (.inl ((field_source hf).2.1 plan hp))
    simp [faultless] at hasError
  | setter hs hf hp =>
    rw [(struct_source hs).2] at hf
    have faultless := accessors_hasError (field_ne_error hf) (.inr ((field_source hf).2.2 plan hp))
    simp [faultless] at hasError
  | @method s m hs hm =>
    rw [(struct_source hs).2] at hm
    refine ⟨?_, _, (method_source hm).2⟩
    cases m.method.receiverIsPtr
    · exact ⟨_, .byValue⟩
    · exact ⟨_, .byPointer⟩

end Surface

namespace Glue

open Go

/-- **Errors come first**, for everything in a package that can fail. The entry point returns no value, each
run of its body decides the error channel before any result, and the body of the Python function checks the
error directly behind the call. -/
theorem errors_first {p : Package} {receiver : Option Receiver} {invoke : Invoke} {plan : CallPlan}
    (serves : Serves p.name (Surface.ofPackage p) receiver invoke plan)
    (hasError : plan.hasError = true) :
    (∀ symbol e, entryOf p.name symbol receiver invoke plan = some e → e.result = none ∧
      ∀ acts left, Run e.body acts left → ErrorFirst receiver invoke plan acts) ∧
    ∀ symbol bound names, Py.ErrorFirst symbol plan (Py.callBody symbol bound plan names) := by
  refine ⟨?_, fun symbol bound names => Py.callBody_errorFirst hasError symbol bound names⟩
  intro symbol e made
  obtain ⟨renamed, hr, rfl⟩ := entryOf_eq_some_iff.1 made
  obtain ⟨⟨f, calls⟩, sig, laid⟩ := Surface.serves_calls serves hasError
  have fails : renamed.hasError = true := (unshadowed_results hr).2.2.trans hasError
  have names : resultNames plan ≠ [] := by
    obtain ⟨i, position⟩ := Option.isSome_iff_exists.1 hasError
    obtain ⟨error, declared, -⟩ := ((CallPlan.ofSignature_laidOut laid).error i).1 position
    refine resultNames_ne_nil laid fun none => ?_
    simp [none] at declared
  refine ⟨?_, fun acts left run => body_errorFirst hasError calls names hr run⟩
  simp [returned_of_hasError fails]

/-- A package with the method `Read(rows []string) (data []byte, err error)` of `*Table`. -/
def tables : Package where
  name := "table"
  importPath := "example.com/table"
  dir := ""
  functions := []
  structs :=
    [⟨"Table", "", [],
      [⟨⟨[⟨"rows", .slice .string⟩], [⟨"data", .slice (.primitive "byte")⟩, ⟨"err", .error⟩], false⟩,
        "Read", "", "t", "Table", true⟩]⟩]

theorem errors_first_tables :
    ∃ s ∈ (Surface.ofPackage tables).structs, ∃ m ∈ s.methods, m.plan.hasError = true ∧
      m.plan.results.length = 1 ∧
      (∃ e acts left, methodEntry "table" s.struct.name m = some e ∧ e.result = none ∧
        Run e.body acts left ∧
        ErrorFirst (some ⟨s.struct.name, ownType "table" s.struct.name, m.method.receiverIsPtr⟩)
          (.method m.method.name) m.plan acts) ∧
      Py.ErrorFirst "Table_Read" m.plan (Py.callBody "Table_Read" true m.plan ["rows"]) := by
  have seen : (Surface.ofPackage tables).structs.map (fun s => s.methods.map fun m =>
      (m.plan.hasError, m.plan.results.length, (methodEntry "table" s.struct.name m).isSome))
      = [[(true, 1, true)]] := by decide +kernel
  obtain ⟨s, hs, methods⟩ := List.mem_map.1 (seen ▸ List.mem_singleton_self [(true, 1, true)])
  obtain ⟨m, hm, shown⟩ := List.mem_map.1 (methods ▸ List.mem_singleton_self (true, 1, true))
  obtain ⟨fails, results, isSome⟩ : m.plan.hasError = true ∧ m.plan.results.length = 1 ∧
      (methodEntry "table" s.struct.name m).isSome = true := by simpa using shown
  obtain ⟨e, he⟩ := Option.isSome_iff_exists.1 isSome
  obtain ⟨acts, left, run⟩ := exists_run e.body
  have main := @errors_first tables _ _ _ (Serves.method hs hm) fails
  obtain ⟨none, runs⟩ := main.1 _ e he
  exact ⟨s, hs, m, hm, fails, results, ⟨e, acts, left, he, none, run, runs acts left run⟩, main.2 _ _ _⟩

end Glue

end GoGlue
