import GoGlue.Plugin
import GoGlue.Proofs.Abi.Provenance
import GoGlue.Proofs.PyModule.Locals

/-!
# What the arguments of a call are made of

A body first makes the arguments of its call, one parameter after the other, and then the places for what comes
out. It does so by assignments alone, so the sources of each variable at the call can be computed. Where no
local has two owners, every argument is made of its own parameter and of nothing else.

* `arguments_made`: the locals of a parameter are made of it.
* `arguments_sources`: so are its arguments, at the time of the call.
* `locals_decided`: how the definitions of functions and methods name their parameters and locals.
* `locals_mixed`: a function for which the count of one parameter is made of another one.
-/
namespace GoGlue.Py

open Go (Flow)
open Surface (methodCallable funcCallable)

variable {structs : StructNames} {plan : CallPlan} {names : List String} {σ : Flow}

/-! ## Sources -/

mutual
/-- The sources of the value of an expression. A function that is called by its name adds none, and the
variable of a comprehension stands for the items. -/
def Expr.sources : Expr → Flow → Set String
  | name n, σ => σ n
  | call f args, σ => (if f.isName then ∅ else f.sources σ) ∪ sourcesAll args σ
  | byref e, σ | member e _, σ | keyword _ e, σ | isNone e, σ | negation e, σ => e.sources σ
  | either a b, σ => a.sources σ ∪ b.sources σ
  | conditional value cond alternative, σ =>
    value.sources σ ∪ cond.sources σ ∪ alternative.sources σ
  | comprehension value var items, σ => value.sources (σ.set [var] (items.sources σ)) ∪ items.sources σ
  | none, _ | number _, _ | text _, _ | emptyBytes, _ | emptyList, _ | ctypes _, _ | entry _, _
  | cls _, _ => ∅
def Expr.sourcesAll : List Expr → Flow → Set String
  | [], _ => ∅
  | e :: rest, σ => e.sources σ ∪ sourcesAll rest σ
end

/-- The sources of the variables after code that assigns. -/
def flowAfter : List Stmt → Flow → Flow
  | [], σ => σ
  | .assign targets e :: rest, σ => flowAfter rest (σ.set (targets.filterMap Expr.variableName) (e.sources σ))
  | .expr _ :: rest, σ | .ret _ :: rest, σ | .pass :: rest, σ | .ifs _ _ :: rest, σ
  | .attempt _ _ _ :: rest, σ => flowAfter rest σ

-- bodies are spelled out in full here, down to the variables in their parts
attribute [local simp] flowAfter Flow.set Expr.variableName Expr.calls Expr.sources Expr.sourcesAll Expr.isName

theorem flowAfter_append (ss ts : List Stmt) (σ : Flow) :
    flowAfter (ss ++ ts) σ = flowAfter ts (flowAfter ss σ) := by
  induction ss generalizing σ with
  | nil => rfl
  | cons s rest ih => cases s <;> exact ih _

/-- What is not assigned keeps its sources. -/
theorem flowAfter_kept {code : List Stmt} {l : String} (h : l ∉ Stmt.assignedAll code) (σ : Flow) :
    flowAfter code σ l = σ l := by
  induction code generalizing σ with
  | nil => rfl
  | cons s rest ih =>
    rw [Stmt.assignedAll, List.mem_append, not_or] at h
    cases s with
    | assign targets e => exact (ih h.2 _).trans (Flow.set_of_notMem h.1)
    | _ => exact ih h.2 _

/-! ## One parameter -/

theorem intoRaw_sources (i : IntoRaw) (n : String) (σ : Flow) : (i.apply (.name n)).sources σ = σ n := by
  cases i <;> simp [IntoRaw.apply]

/-- **The locals of a parameter are made of it.** -/
theorem arguments_made {s : Slot} (h : s.Form structs) (n : String) (σ : Flow) :
    ∀ l ∈ locals (s, n), flowAfter (arguments s n).1 σ l = σ n := by
  intro l hl
  rw [mem_locals] at hl
  cases h with
  | scalar ht hs => simp [counted] at hl
  | bytes ht =>
    have only : l = localOf n := by simpa [counted, Slot.isBytes] using hl
    simp [only, arguments, Slot.isBytes]
  | slice ht he hc hs =>
    have both : l = localOf n ∨ l = lengthOf (localOf n) := by simpa [counted, Slot.isBytes] using hl
    rename_i te e len
    cases hi : intoRaw e <;>
      simp [both, arguments, Slot.isBytes, Slot.elem, he, hi, intoRaw_sources]
  | array ht he hc hs =>
    have only : l = localOf n := by simpa [counted] using hl
    rename_i te e len
    cases hi : intoRaw e <;>
      simp [only, arguments, Slot.elem, he, hi, intoRaw_sources]
  | pointer ht he hc =>
    have only : l = localOf n := by simpa [counted] using hl
    simp [only, arguments]

/-- The arguments of a parameter are made of it, if its locals are. -/
theorem passed_sources {s : Slot} (h : s.Form structs) {n : String} {vs : Set String} (own : σ n = vs)
    (made : ∀ l ∈ locals (s, n), σ l = vs) : ∀ a ∈ (arguments s n).2, a.sources σ = vs := by
  have value : (passedValue s n).sources σ = vs := by
    unfold passedValue
    split
    · rw [intoRaw_sources, own]
    · next hs => exact made _ (mem_locals.2 (.inl ⟨hs, rfl⟩))
  rw [arguments_passed h]
  refine List.forall_mem_cons.2 ⟨value, fun a ha => ?_⟩
  split at ha
  · next hb =>
    rw [List.mem_singleton.1 ha]
    unfold passedCount
    split
    · have held := made (localOf n) (mem_locals.2 (.inl ⟨by simp [hb], rfl⟩))
      simp [held]
    · next hc => exact made _ (mem_locals.2 (.inr ⟨by simp [counted, hb, hc], rfl⟩))
  · cases ha

/-! ## All parameters -/

/-- The parameters are converted one after the other, and none of them touches what was made of another. -/
theorem inputs_made {xs : List (Slot × String)} (hf : ∀ x ∈ xs, x.1.Form structs)
    (distinct : (xs.flatMap locals).Nodup) (kept : ∀ x ∈ xs, x.2 ∉ xs.flatMap locals) (σ : Flow) :
    ∀ x ∈ xs, ∀ l ∈ locals x, flowAfter (xs.flatMap fun x => (arguments x.1 x.2).1) σ l = σ x.2 := by
  induction xs generalizing σ with
  | nil => simp
  | cons x rest ih =>
    rw [List.flatMap_cons, List.nodup_append'] at distinct
    obtain ⟨-, distinct, apart⟩ := distinct
    obtain ⟨form, forms⟩ := List.forall_mem_cons.1 hf
    have assigned : Stmt.assignedAll (rest.flatMap fun x => (arguments x.1 x.2).1) = rest.flatMap locals := by
      rw [Stmt.assignedAll_flatMap, List.flatMap_def, List.flatMap_def]
      exact congrArg List.flatten (List.map_congr_left fun y hy => arguments_assigned (forms y hy) y.2)
    intro y hy l hl
    rw [List.flatMap_cons, flowAfter_append]
    rcases List.mem_cons.1 hy with rfl | hy
    · rw [flowAfter_kept (by rw [assigned]; exact apart hl)]
      exact arguments_made form y.2 σ l hl
    · have later : ∀ z ∈ rest, z.2 ∉ rest.flatMap locals := fun z hz hm =>
        kept z (List.mem_cons_of_mem _ hz) (List.mem_append_right _ hm)
      have untouched : y.2 ∉ Stmt.assignedAll (arguments x.1 x.2).1 := by
        rw [arguments_assigned form]
        exact fun hm => kept y (List.mem_cons_of_mem _ hy) (List.mem_append_left _ hm)
      rw [ih forms distinct later _ y hy l hl, flowAfter_kept untouched]

/-- What a body assigns before the call begins with an underscore. -/
theorem preparation_underscore (hf : plan.Formed structs) :
    ∀ l ∈ Stmt.assignedAll (preparation plan names), beginsWith "_" l = true := by
  have local_ : ∀ n, beginsWith "_" (localOf n) = true := fun n => by simp [beginsWith, localOf]
  have fixed : ∀ l ∈ ["_len", "_err"], beginsWith "_" l = true := by decide
  intro l hl
  rw [preparation_assigned hf] at hl
  rcases List.mem_append.1 hl with hl | hl
  · obtain ⟨x, -, hl⟩ := List.mem_flatMap.1 hl
    rcases mem_locals.1 hl with ⟨-, rfl⟩ | ⟨-, rfl⟩
    · exact local_ x.2
    · exact lengthOf_localOf x.2 ▸ local_ _
  · rcases outPlaces_cases hl with hl | ⟨-, t, -, hl⟩
    · exact fixed l hl
    · rcases Slot.mem_places.1 hl with rfl | ⟨-, rfl⟩
      · exact local_ t.name
      · exact lengthOf_localOf t.name ▸ local_ _

/-- **The arguments of a call are made of their own parameters** if no local has two owners. -/
theorem arguments_sources (h : ProperNames structs plan names) (hf : plan.Formed structs)
    (distinct : (Stmt.assignedAll (preparation plan names)).Nodup) :
    ∀ x ∈ plan.params.zip names, ∀ a ∈ (arguments x.1 x.2).2,
      a.sources (flowAfter (preparation plan names) Flow.start) = {x.2} := by
  have forms : ∀ x ∈ plan.params.zip names, x.1.Form structs := fun x hx =>
    hf.params x.1 (List.of_mem_zip hx).1
  have unassigned : ∀ n ∈ names, n ∉ Stmt.assignedAll (preparation plan names) := by
    intro n hn hm
    have plain := (h.unreserved n hn).1
    simp only [Reserved.contains, Reserved.blocks, pythonReserved, Bool.or_eq_false_iff, List.any_cons] at plain
    rw [preparation_underscore hf n hm] at plain
    exact absurd plain.2.2.1 (by decide)
  intro x hx
  have named : x.2 ∈ names := (List.of_mem_zip hx).2
  refine passed_sources (forms x hx) (flowAfter_kept (unassigned x.2 named) _) fun l hl => ?_
  have assigned := preparation_assigned hf names
  rw [assigned, List.nodup_append'] at distinct
  obtain ⟨inputs, -, apart⟩ := distinct
  have kept : ∀ y ∈ plan.params.zip names, y.2 ∉ (plan.params.zip names).flatMap locals := fun y hy hm =>
    unassigned y.2 (List.of_mem_zip hy).2 (assigned ▸ List.mem_append_left _ hm)
  have hidden : l ∉ Stmt.assignedAll (resultArguments plan).1 := by
    rw [resultArguments_assigned]
    exact apart (List.mem_flatMap.2 ⟨x, hx, hl⟩)
  have prepared : (List.zipWith arguments plan.params names).flatMap (·.1)
      = (plan.params.zip names).flatMap fun x => (arguments x.1 x.2).1 := by
    rw [← List.map_uncurry_zip_eq_zipWith, List.flatMap_map]
    rfl
  rw [preparation, flowAfter_append, flowAfter_kept hidden, prepared]
  exact inputs_made forms inputs kept Flow.start x hx l hl

/-! ## Definitions -/

/-- **How a definition names its parameters and locals.** -/
structure BodyScope (structs : StructNames) (c : Callable) (names : List String) (d : Def) : Prop where
  /-- The names are those of the parameters. -/
  params : d.params.map (·.name) = (if c.bound then ["self"] else []) ++ names
  body : d.body = preparation c.plan names ++ callStep c.symbol c.plan (callArguments c.bound c.plan names)
  proper : ProperNames structs c.plan names
  /-- When every local has one owner. -/
  assigned : (Stmt.assignedAll d.body).Nodup ↔ ClearLocals c.plan names
  /-- Then every argument is made of its own parameter. -/
  passed : ClearLocals c.plan names → ∀ x ∈ c.plan.params.zip names, ∀ a ∈ (arguments x.1 x.2).2,
    a.sources (flowAfter (preparation c.plan names) Flow.start) = {x.2}

theorem bodyScope {c : Callable} {d : Def} {sig : Signature}
    (h : CallPlan.ofSignature structs sig = .ok c.plan) (claimed : Claimed structs c d) :
    ∃ names, BodyScope structs c names d := by
  obtain ⟨names, hn, laid⟩ := claimed
  have hf := CallPlan.ofSignature_form h
  have proper := parameterNames_proper h hn
  have outputs := Go.resultSlots_names (CallPlan.ofSignature_slots h).2
  have assigned : (Stmt.assignedAll d.body).Nodup ↔ ClearLocals c.plan names := by
    rw [laid.body]
    exact assigned_nodup_iff proper hf laid.length outputs c.symbol c.bound
  refine ⟨names, ?_, laid.body, proper, assigned, fun clear => arguments_sources proper hf ?_⟩
  · rw [laid.params, List.map_append, typedParams_names laid.length]
    cases c.bound <;> rfl
  · have distinct := assigned.2 clear
    rw [laid.body, callBody_prepares, Stmt.assignedAll_append] at distinct
    exact distinct.of_append_left

/-- **How the functions and methods of a module name their parameters and locals**: parameters are distinct and
hide nothing that the body refers to, but for a class that is not called like its struct. Every local has one
owner exactly if nothing is called like the count of something else, and then every argument is made of its own
parameter. -/
theorem locals_decided {library : String} {p : Package} {m : PyModule}
    (h : PyModule.ofPackage library p = some m) :
    (∀ f ∈ (Surface.ofPackage p).functions, ∃ d ∈ m.functions, ∃ names,
        BodyScope p.structNames (funcCallable p.name f) names d) ∧
      ∀ s ∈ (Surface.ofPackage p).structs, ∀ x ∈ s.methods, ∃ c ∈ m.classes, c.struct = s.struct.name ∧
        ∃ d ∈ c.members, ∃ names, BodyScope p.structNames (methodCallable s.struct.name x) names d := by
  constructor
  · intro f hf
    obtain ⟨d, hd, claimed⟩ := function_defined h hf
    exact ⟨d, hd, bodyScope (Surface.function_source hf).2 claimed⟩
  · intro s hs x hx
    obtain ⟨c, hc, struct, d, hd, claimed⟩ := method_defined h hs hx
    have plan : CallPlan.ofSignature p.structNames x.method.toSignature = .ok x.plan := by
      rw [(Surface.struct_source hs).2] at hx
      exact (Surface.method_source hx).2
    exact ⟨c, hc, struct, d, hd, bodyScope plan claimed⟩

/-- A package with `Trace(path []int, len int, start *int) (steps []int, err error)`. -/
def walk : Package where
  name := "walk"
  importPath := "example.com/walk"
  dir := ""
  functions :=
    [⟨⟨[⟨"path", .slice (.primitive "int")⟩, ⟨"len", .primitive "int"⟩,
        ⟨"start", .pointer (.primitive "int")⟩],
      [⟨"steps", .slice (.primitive "int")⟩, ⟨"err", .error⟩], false⟩, "Trace", ""⟩]
  structs := []

theorem locals_decided_walk :
    ∃ m, PyModule.ofPackage "walk" walk = some m ∧
      m.functions.map (fun d => (d.params.map (·.name), Stmt.assignedAll d.body))
        = [(["path", "len_", "start"],
          ["_path", "_path_len", "_start", "_outSteps", "_outSteps_len", "_err"])] ∧
      (∀ f ∈ (Surface.ofPackage walk).functions, ∃ d ∈ m.functions, ∃ names,
          BodyScope walk.structNames (funcCallable walk.name f) names d) ∧
        ∀ s ∈ (Surface.ofPackage walk).structs, ∀ x ∈ s.methods, ∃ c ∈ m.classes,
          c.struct = s.struct.name ∧ ∃ d ∈ c.members, ∃ names,
            BodyScope walk.structNames (methodCallable s.struct.name x) names d := by
  have seen : (PyModule.ofPackage "walk" walk).map (·.functions.map fun d =>
      (d.params.map (·.name), Stmt.assignedAll d.body))
      = some [(["path", "len_", "start"],
        ["_path", "_path_len", "_start", "_outSteps", "_outSteps_len", "_err"])] := by decide +kernel
  obtain ⟨m, hm, shown⟩ := Option.map_eq_some_iff.1 seen
  exact ⟨m, hm, shown, locals_decided hm⟩

/-! ## A clash -/

/-- A function with a parameter that is called like the count of another one: `Zip(x, x_len []int)`. -/
def zip : Func :=
  ⟨⟨[⟨"x", .slice (.primitive "int")⟩, ⟨"x_len", .slice (.primitive "int")⟩], [], false⟩, "Zip", ""⟩

/-- A package with no other function. -/
def zipper : Package where
  name := "geo"
  importPath := "example.com/geo"
  dir := ""
  functions := [zip]
  structs := []

/-- How `zip` is called. -/
def zipPlan : CallPlan :=
  ⟨[⟨"x", .slice (.primitive "int"), .composite .slice (.value .int) 0, .buffer⟩,
    ⟨"x_len", .slice (.primitive "int"), .composite .slice (.value .int) 0, .buffer⟩], [], none⟩

/-- **A local may have two owners** although the declared names are distinct: in the body for `zip`, the
second parameter takes the local that holds the count of the first one, so its elements are passed for that
count. -/
theorem locals_mixed :
    zipper.check = .ok () ∧ CallPlan.ofSignature [] zip.toSignature = .ok zipPlan ∧
      ((zip.params ++ zip.results).map (·.name)).Nodup ∧
      ∃ m d, PyModule.ofPackage "geo" zipper = some m ∧ d ∈ m.functions ∧
        d.params.map (·.name) = ["x", "x_len"] ∧
        Stmt.assignedAll d.body = ["_x", "_x_len", "_x_len", "_x_len_len"] ∧
        ¬ (Stmt.assignedAll d.body).Nodup ∧
        (arguments zipPlan.params[0] "x").2 = [.name "_x", .name "_x_len"] ∧
        (Expr.name "_x_len").sources (flowAfter d.body Flow.start) = {"x_len"} := by
  have planned : (Surface.ofPackage zipper).functions = [⟨zip, zipPlan⟩] := rfl
  have named : parameterNames [] zipPlan = some ["x", "x_len"] := by decide +kernel
  have finishes : (PyModule.ofPackage "geo" zipper).isSome = true := by decide +kernel
  obtain ⟨m, hm⟩ := Option.isSome_iff_exists.1 finishes
  obtain ⟨d, hd, names, hn, laid⟩ := function_defined hm (f := ⟨zip, zipPlan⟩) (by simp [planned])
  obtain rfl : names = ["x", "x_len"] := Option.some.inj (hn.symm.trans named)
  have params : d.params.map (·.name) = ["x", "x_len"] := by
    rw [laid.params]
    rfl
  have assigned : Stmt.assignedAll d.body = ["_x", "_x_len", "_x_len", "_x_len_len"] := by
    rw [laid.body]
    rfl
  have repeated : ¬ (Stmt.assignedAll d.body).Nodup := by
    rw [assigned]
    decide
  refine ⟨by decide +kernel, rfl, by decide, m, d, hm, hd, params, assigned, repeated, rfl, ?_⟩
  have body : d.body = [.assign [.name "_x", .name "_x_len"] (.calls "_make_array"
        [.ctypes (.primitive .int), .name "x"]),
      .assign [.name "_x_len", .name "_x_len_len"] (.calls "_make_array"
        [.ctypes (.primitive .int), .name "x_len"]),
      .expr (.call (.entry "geo_Zip") [.name "_x", .name "_x_len", .name "_x_len", .name "_x_len_len"])] :=
    laid.body
  rw [body]
  simp [Flow.start]

end GoGlue.Py
