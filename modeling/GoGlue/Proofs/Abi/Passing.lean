import GoGlue.Proofs.Abi.Role
import GoGlue.Proofs.Code.Calls

/-!
# What the module passes

The body of a Python function makes exactly one call of an entry point, and passes one expression for
each role of the entry point's parameters, in their order: the receiver's handle, what was made of each
parameter, and references to the places for results and error.

* `callArguments_passes`: the arguments of the call render the roles of the plan.
* `callBody_entryCalls`: the body makes that call and no other.
-/
namespace GoGlue.Py

/-- What is passed for the value of a parameter of the given name. -/
def passedValue (s : Slot) (name : String) : Expr :=
  if s.shape = .scalar then (intoRaw s.transfer).apply (.name name) else .name (localOf name)

/-- What is passed for the element count of a buffer of the given name. -/
def passedCount (s : Slot) (name : String) : Expr :=
  if s.isBytes then .calls "len" [.name (localOf name)] else .name (lengthOf (localOf name))

/-- The expression belongs to the role, for parameters of the given names. -/
inductive Passes (names : List String) : Role → Expr → Prop
  | handle : Passes names .receiver (.member (.name "self") "_handle")
  /-- The handle was read into a local before. -/
  | held : Passes names .receiver (.name "handle")
  | value {i s name} (h : names[i]? = some name) : Passes names (.input i s) (passedValue s name)
  | count {i s name} (h : names[i]? = some name) :
    Passes names (.inputCount i s) (passedCount s name)
  | returnedCount : Passes names .returnedCount (.byref (.name "_len"))
  | out {s} : Passes names (.output s) (.byref (.name (localOf s.name)))
  | outCount {s} : Passes names (.outputCount s) (.byref (.name (lengthOf (localOf s.name))))
  | error : Passes names .error (.byref (.name "_err"))

/-- The arguments that a body passes, which come from parameters of the given names. -/
def callArguments (bound : Bool) (plan : CallPlan) (names : List String) : List Expr :=
  (if bound then [Expr.member (.name "self") "_handle"] else [])
    ++ (List.zipWith arguments plan.params names).flatMap (·.2) ++ (resultArguments plan).2

/-! ## One argument for each role -/

theorem arguments_passed {structs : StructNames} {s : Slot} (h : s.Form structs) (name : String) :
    (arguments s name).2
      = passedValue s name :: if s.shape = .buffer then [passedCount s name] else [] := by
  cases h with
  | scalar ht hs => simp [arguments, passedValue]
  | bytes ht => simp [arguments, passedValue, passedCount, Slot.isBytes]
  | slice ht he hc hs => simp [arguments, passedValue, passedCount, Slot.isBytes, Slot.elem, he]
  | array ht he hc hs => simp [arguments, passedValue, Slot.elem, he]
  | pointer ht he hc => simp [arguments, passedValue]

theorem inputs_passes {structs : StructNames} {names : List String} {slots : List Slot}
    (hf : ∀ s ∈ slots, s.Form structs) (index : Nat) (own : List String)
    (hlen : own.length = slots.length) (hown : ∀ i, own[i]? = names[index + i]?) :
    List.Forall₂ (Passes names) (CallPlan.inputRoles index slots)
      ((List.zipWith arguments slots own).flatMap (·.2)) := by
  induction slots generalizing index own with
  | nil => exact .nil
  | cons s rest ih =>
    cases own with
    | nil => simp at hlen
    | cons name own =>
      have hname : names[index]? = some name := by simpa using (hown 0).symm
      have hrest : ∀ i, own[i]? = names[index + 1 + i]? := by
        intro i
        have := hown (i + 1)
        rwa [List.getElem?_cons_succ, show index + (i + 1) = index + 1 + i by omega] at this
      have tail := ih (fun s' hs' => hf s' (List.mem_cons_of_mem _ hs')) (index + 1) own
        (by simpa using hlen) hrest
      rw [List.zipWith_cons_cons, List.flatMap_cons, arguments_passed (hf s List.mem_cons_self)]
      unfold CallPlan.inputRoles
      by_cases hb : s.shape = .buffer
      · simp only [hb, if_true, List.cons_append, List.nil_append]
        exact .cons (.value hname) (.cons (.count hname) tail)
      · simp only [hb, if_false, List.cons_append, List.nil_append]
        exact .cons (.value hname) tail

theorem outArguments_passes (names : List String) (s : Slot) :
    List.Forall₂ (Passes names) (.output s :: if s.shape = .buffer then [.outputCount s] else [])
      (outArguments s).2 := by
  unfold outArguments
  by_cases hb : s.shape = .buffer
  · simp only [hb, if_true]
    exact .cons .out (.cons .outCount .nil)
  · simp only [hb, if_false]
    exact .cons .out .nil

theorem results_passes (names : List String) (plan : CallPlan) :
    List.Forall₂ (Passes names) (plan.outputRoles ++ if plan.hasError then [.error] else [])
      (resultArguments plan).2 := by
  unfold resultArguments CallPlan.outputRoles
  cases plan.returned with
  | some s =>
    by_cases hb : s.shape = .buffer <;> cases plan.hasError <;>
      simp [hb, Passes.returnedCount, Passes.error]
  | none =>
    have outputs : List.Forall₂ (Passes names)
        (plan.results.flatMap fun s =>
          Role.output s :: if s.shape = .buffer then [Role.outputCount s] else [])
        ((plan.results.map outArguments).flatMap (·.2)) := by
      induction plan.results with
      | nil => exact .nil
      | cons s rest ih => exact List.rel_append (outArguments_passes names s) ih
    cases plan.hasError with
    | false => simpa using outputs
    | true => exact List.rel_append outputs (.cons .error .nil)

/-- **The arguments of a body** render the roles of its plan. -/
theorem callArguments_passes {structs : StructNames} {plan : CallPlan} (hf : plan.Formed structs)
    (bound : Bool) {names : List String} (hlen : names.length = plan.params.length) :
    List.Forall₂ (Passes names) (plan.roles bound) (callArguments bound plan names) := by
  unfold CallPlan.roles callArguments
  rw [List.append_assoc]
  refine List.rel_append (List.rel_append ?_ ?_) (results_passes names plan)
  · cases bound with
    | true => exact .cons .handle .nil
    | false => exact .nil
  · exact inputs_passes hf.params 0 names hlen (fun i => by rw [Nat.zero_add])

/-! ## One call in each body -/

/-- Preparing a parameter calls no entry point. -/
theorem arguments_noEntry (s : Slot) (name : String) :
    Stmt.entryCalls (arguments s name).1 = [] ∧
      (Expr.madeAll (arguments s name).2).filterMap Call.entry? = [] := by
  have conv : ∀ (i : IntoRaw) (n : String), (i.apply (.name n)).made.filterMap Call.entry? = [] := by
    intro i n
    cases i <;> simp [IntoRaw.apply, Expr.calls, Expr.made, Expr.madeAll]
  unfold arguments
  cases s.shape with
  | scalar => simp [Expr.madeAll, conv]
  | buffer =>
    by_cases hb : s.isBytes
    · simp [hb, Stmt.made, Expr.calls, Expr.made, Expr.madeAll]
    · cases s.elem with
      | none => simp [hb, Expr.madeAll, Expr.made]
      | some part =>
        cases hi : intoRaw part.2 <;>
          simp [hb, hi, IntoRaw.apply, Stmt.made, Expr.calls, Expr.made, Expr.madeAll]
  | fixed n =>
    cases s.elem with
    | none => simp [Expr.madeAll, Expr.made]
    | some part =>
      cases hi : intoRaw part.2 <;>
        simp [hi, IntoRaw.apply, Stmt.made, Expr.calls, Expr.made, Expr.madeAll]
  | pointer => simp [Stmt.made, Expr.made, Expr.madeAll]

theorem inputs_noEntry (slots : List Slot) (names : List String) :
    Stmt.entryCalls ((List.zipWith arguments slots names).flatMap (·.1)) = [] ∧
      (Expr.madeAll ((List.zipWith arguments slots names).flatMap (·.2))).filterMap Call.entry?
        = [] := by
  induction slots generalizing names with
  | nil => exact ⟨rfl, rfl⟩
  | cons s rest ih =>
    cases names with
    | nil => exact ⟨rfl, rfl⟩
    | cons name names =>
      obtain ⟨h1, h2⟩ := arguments_noEntry s name
      obtain ⟨t1, t2⟩ := ih names
      simp [h1, h2, t1, t2]

/-- Making room for results calls no entry point. -/
theorem resultArguments_noEntry (plan : CallPlan) :
    Stmt.entryCalls (resultArguments plan).1 = [] ∧
      (Expr.madeAll (resultArguments plan).2).filterMap Call.entry? = [] := by
  have parts : Stmt.entryCalls ((plan.results.map outArguments).flatMap (·.1)) = [] ∧
      (Expr.madeAll ((plan.results.map outArguments).flatMap (·.2))).filterMap Call.entry? = [] := by
    induction plan.results with
    | nil => exact ⟨rfl, rfl⟩
    | cons s rest ih =>
      obtain ⟨t1, t2⟩ := ih
      by_cases hb : s.shape = .buffer <;>
        simp [t1, t2, hb, outArguments, Stmt.made, Expr.made, Expr.madeAll]
  unfold resultArguments
  cases hr : plan.returned with
  | some s =>
    by_cases hb : s.shape = .buffer <;> by_cases he : plan.hasError <;>
      simp [hb, he, Stmt.made, Expr.made, Expr.madeAll]
  | none =>
    by_cases he : plan.hasError <;>
      simp [he, parts.1, parts.2, Stmt.made, Expr.made, Expr.madeAll]

/-- Converting a result calls no entry point. -/
theorem resultValue_noEntry (s : Slot) (raw count : Expr)
    (hr : raw.made.filterMap Call.entry? = []) (hc : count.made.filterMap Call.entry? = []) :
    (resultValue s raw count).made.filterMap Call.entry? = [] := by
  have conv : ∀ f : FromRaw,
      (Expr.madeAll f.function.toList).filterMap Call.entry? = [] := by
    intro f
    cases f <;> simp [FromRaw.function, Expr.made, Expr.madeAll]
  have take : ∀ (n : Expr) (fs : List Expr), n.made.filterMap Call.entry? = [] →
      (Expr.madeAll fs).filterMap Call.entry? = [] →
      (Expr.calls "_take_buffer" ([raw, n] ++ fs)).made.filterMap Call.entry? = [] := by
    intro n fs hn hf
    simp [-List.filterMap_eq_nil_iff, List.filterMap_cons, Expr.calls, Expr.made, Expr.madeAll,
      hr, hn, hf]
  have plain : ((fromRaw s.transfer).apply raw).made.filterMap Call.entry? = [] := by
    cases fromRaw s.transfer <;>
      simp [-List.filterMap_eq_nil_iff, List.filterMap_cons, FromRaw.apply, FromRaw.function,
        Expr.made, Expr.madeAll, hr]
  unfold resultValue
  cases s.shape with
  | scalar => exact plain
  | pointer => exact plain
  | fixed n =>
    refine take _ _ rfl ?_
    split
    · exact conv _
    · rfl
  | buffer =>
    by_cases hb : s.isBytes
    · simp [-List.filterMap_eq_nil_iff, List.filterMap_cons, hb, Expr.calls, Expr.made,
        Expr.madeAll, hr, hc]
    · simp only [hb, Bool.false_eq_true, if_false]
      refine take count _ hc ?_
      split
      · exact conv _
      · rfl

theorem outValue_noEntry (s : Slot) : (outValue s).made.filterMap Call.entry? = [] := by
  unfold outValue
  cases s.shape with
  | buffer =>
    by_cases hb : s.isBytes
    · simp only [hb, if_true]
      exact resultValue_noEntry s _ _ rfl rfl
    · simp only [hb, Bool.false_eq_true, if_false]
      exact resultValue_noEntry s _ _ rfl rfl
  | _ => exact resultValue_noEntry s _ _ rfl rfl

/-- **One call.** A body calls its entry point once, with its arguments, and no other. -/
theorem callBody_entryCalls (symbol : String) (bound : Bool) (plan : CallPlan)
    (names : List String) :
    Stmt.entryCalls (callBody symbol bound plan names)
      = [(symbol, callArguments bound plan names)] := by
  obtain ⟨i1, i2⟩ := inputs_noEntry plan.params names
  obtain ⟨r1, r2⟩ := resultArguments_noEntry plan
  have args : (Expr.madeAll (callArguments bound plan names)).filterMap Call.entry? = [] := by
    cases bound <;> simp [callArguments, i2, r2, Expr.madeAll, Expr.made]
  have step : Stmt.entryCalls (callStep symbol plan (callArguments bound plan names))
      = [(symbol, callArguments bound plan names)] := by
    unfold callStep
    cases plan.returned with
    | some s =>
      by_cases hp : isPlain s
      · simp [-List.filterMap_eq_nil_iff, hp, Stmt.made, Expr.made, Expr.madeAll, args]
      · have value := resultValue_noEntry s (.name "_res") (.member (.name "_len") "value") rfl rfl
        simp [-List.filterMap_eq_nil_iff, hp, Stmt.made, Expr.made, Expr.madeAll, args, value]
    | none =>
      have values : (Expr.madeAll (plan.results.map outValue)).filterMap Call.entry? = [] := by
        induction plan.results with
        | nil => rfl
        | cons s rest ih => simp [-List.filterMap_eq_nil_iff, Expr.madeAll, outValue_noEntry s, ih]
      by_cases he : plan.hasError <;> by_cases hn : plan.results = [] <;>
        simp [-List.filterMap_eq_nil_iff, List.filterMap_cons, he, hn, Stmt.made, Expr.calls,
          Expr.made, Expr.madeAll, args, values]
  unfold callBody
  simp only [Stmt.entryCalls_append, i1, r1, List.nil_append]
  exact step

end GoGlue.Py
