import GoGlue.Proofs.Abi.Passing
import GoGlue.Proofs.Surface.Callables

/-!
# Calls of the module

The calls of entry points that the bodies of a module make, each with the definition that makes it. Read
from the first class to the last function, they go through the callables of the package in order: some are
left out, such as the setter of a field that is no single value, but none is called twice.

* `callBody_invokes`: a body that is laid out from a plan makes one call, that of the plan.
* `calls_inOrder`: the calls of the module are those of callables, in their order.
-/
namespace GoGlue

/-! ## Calls and their callers -/

/-- A call of an entry point that a definition makes. -/
structure Invocation where
  caller : Py.Def
  symbol : String
  args : List Py.Expr

/-- The calls of entry points in the body of a definition. -/
def Py.Def.invocations (d : Py.Def) : List Invocation :=
  (Py.Stmt.entryCalls d.body).map fun call => ⟨d, call.1, call.2⟩

/-- The calls of entry points in the bodies of the module's classes and functions. -/
def PyModule.invocations (m : PyModule) : List Invocation :=
  (m.classes.flatMap (·.members) ++ m.functions).flatMap Py.Def.invocations

/-- The call passes one argument for each parameter of the callable's entry point; what it passes for the
callable's own parameters comes from parameters of the caller, in the same order. -/
structure Invokes (c : Callable) (i : Invocation) : Prop where
  symbol : i.symbol = c.symbol
  args : ∃ names : List String, names.length = c.plan.params.length ∧
    names.Sublist (i.caller.params.map (·.name)) ∧ List.Forall₂ (Py.Passes names) c.roles i.args

/-- Some of the callables are called, each once and in their order, and nothing else is. -/
def InOrder (cs : List Callable) (is : List Invocation) : Prop :=
  ∃ called : List Callable, called.Sublist cs ∧ List.Forall₂ Invokes called is

namespace InOrder

theorem nil (cs : List Callable) : InOrder cs [] := ⟨[], List.nil_sublist cs, .nil⟩

theorem single {c : Callable} {i : Invocation} (h : Invokes c i) : InOrder [c] [i] :=
  ⟨[c], List.Sublist.refl [c], .cons h .nil⟩

theorem append {cs ds : List Callable} {is js : List Invocation} (h : InOrder cs is)
    (h' : InOrder ds js) : InOrder (cs ++ ds) (is ++ js) := by
  obtain ⟨called, hs, hc⟩ := h
  obtain ⟨called', hs', hc'⟩ := h'
  exact ⟨called ++ called', hs.append hs', List.rel_append hc hc'⟩

/-- Callables and calls that are collected from the parts of two lists. -/
theorem flatMap {α β : Type} {xs : List α} {ys : List β} {f : α → List Callable}
    {g : β → List Invocation} (h : List.Forall₂ (fun x y => InOrder (f x) (g y)) xs ys) :
    InOrder (xs.flatMap f) (ys.flatMap g) := by
  induction h with
  | nil => exact nil []
  | cons hxy _ ih =>
    rw [List.flatMap_cons, List.flatMap_cons]
    exact hxy.append ih

/-- Only some of the parts are called: the rest of the longer list plays no role. -/
theorem zip {α β γ : Type} {xs : List α} {ns : List γ} {ys : List β} {f : α → List Callable}
    {g : β → List Invocation}
    (h : List.Forall₂ (fun (x : α × γ) y => InOrder (f x.1) (g y)) (xs.zip ns) ys) :
    InOrder (xs.flatMap f) (ys.flatMap g) := by
  induction xs generalizing ns ys with
  | nil =>
    cases h
    exact nil []
  | cons x rest ih =>
    cases ns with
    | nil =>
      cases h
      exact nil _
    | cons n ns =>
      rw [List.zip_cons_cons] at h
      cases h with
      | cons hx hrest =>
        rw [List.flatMap_cons, List.flatMap_cons]
        exact hx.append (ih hrest)

/-- Every call is that of a callable. -/
theorem exists_callable {cs : List Callable} {is : List Invocation} (h : InOrder cs is)
    {i : Invocation} (hi : i ∈ is) : ∃ c ∈ cs, Invokes c i := by
  obtain ⟨called, hs, hc⟩ := h
  induction hc generalizing cs with
  | nil => cases hi
  | @cons c j called is hcj _ ih =>
    rcases List.mem_cons.1 hi with rfl | hi
    · exact ⟨c, hs.subset List.mem_cons_self, hcj⟩
    · exact ih hi ((List.sublist_cons_self c called).trans hs)

end InOrder

theorem claimAll_length {r : Reserved} {taken names free : List String}
    (h : claimAll r taken names = some free) : free.length = names.length := by
  induction names generalizing taken free with
  | nil => cases h; rfl
  | cons n rest ih =>
    simp only [claimAll, bind, Option.bind_eq_some_iff, pure, Option.some.injEq] at h
    obtain ⟨f, -, more, hm, rfl⟩ := h
    rw [List.length_cons, List.length_cons, ih hm]

namespace Py

theorem typedParams_names {plan : CallPlan} {names : List String}
    (h : names.length = plan.params.length) : (typedParams plan names).map (·.name) = names := by
  unfold typedParams
  rw [List.map_zipWith]
  show List.zipWith (fun _ name => name) plan.params names = names
  have zipped : (plan.params.zip names).map Prod.snd = names := List.map_snd_zip (by omega)
  rwa [List.zip, List.map_zipWith] at zipped

/-- A definition whose body is that of a plan makes one call, that of the plan's callable. -/
theorem callBody_invokes (c : Callable) (names : List String) {structs : StructNames}
    (hf : c.plan.Formed structs) {d : Def} (hb : d.body = callBody c.symbol c.bound c.plan names)
    (hlen : names.length = c.plan.params.length)
    (hs : names.Sublist (d.params.map (·.name))) : InOrder [c] d.invocations := by
  unfold Def.invocations
  rw [hb, callBody_entryCalls]
  exact .single ⟨rfl, names, hlen, hs, callArguments_passes hf c.bound hlen⟩

/-- The members that every class has call the constructor and the destructor. -/
theorem fixedMembers_inOrder (structs : StructNames) (struct : String) (hasMethods : Bool) :
    InOrder [⟨struct ++ "_New", false, Surface.constructorPlan structs struct⟩,
        ⟨struct ++ "_Free", true, ⟨[], [], none⟩⟩]
      ((fixedMembers struct hasMethods).flatMap Def.invocations) := by
  have calls : (fixedMembers struct hasMethods).flatMap Def.invocations
      = [⟨initMember struct, struct ++ "_New", []⟩,
          ⟨freeMember struct, struct ++ "_Free", [.name "handle"]⟩] := by
    cases hasMethods <;> rfl
  rw [calls]
  refine (InOrder.single ⟨rfl, [], rfl, List.nil_sublist _, .nil⟩).append
    (.single ⟨rfl, [], rfl, List.nil_sublist _, .cons .held .nil⟩)

/-- A property calls the accessors of its field. -/
theorem property_inOrder {structs : StructNames} {struct name : String} {f : FieldSurface}
    (hg : ∀ g ∈ f.getter, g.Formed structs ∧ g.params = [])
    (hs : ∀ g ∈ f.setter, g.Formed structs) :
    InOrder (Surface.accessorCallables struct f)
      ((property struct f name).flatMap Def.invocations) := by
  unfold property Surface.accessorCallables
  cases hgetter : f.getter with
  | none => exact .nil _
  | some getter =>
    rw [List.flatMap_cons]
    obtain ⟨formed, noParams⟩ := hg getter hgetter
    refine .append (callBody_invokes ⟨_, true, getter⟩ [] formed rfl
      (by rw [noParams]; rfl) (List.nil_sublist _)) ?_
    cases hsetter : f.setter with
    | none => exact .nil _
    | some setter =>
      -- only a setter with one scalar parameter becomes a setter of the property
      simp only
      split
      · rename_i value hparams
        split
        · rw [List.flatMap_singleton]
          exact callBody_invokes ⟨_, true, setter⟩ ["value"] (hs setter hsetter)
            rfl (by rw [hparams]; rfl) (by simp [Parameter.typed, Parameter.plain])
        · exact .nil _
      · exact .nil _

theorem properties_inOrder {structs : StructNames} {struct : String} {fields : List FieldSurface}
    (hg : ∀ f ∈ fields, ∀ g ∈ f.getter, g.Formed structs ∧ g.params = [])
    (hs : ∀ f ∈ fields, ∀ g ∈ f.setter, g.Formed structs) (names : List String) :
    InOrder (fields.flatMap (Surface.accessorCallables struct))
      ((List.zipWith (property struct) (fields.filter (·.getter.isSome)) names).flatten.flatMap
        Def.invocations) := by
  induction fields generalizing names with
  | nil => exact .nil _
  | cons f rest ih =>
    have tail := ih (fun f' hf' => hg f' (List.mem_cons_of_mem _ hf'))
      (fun f' hf' => hs f' (List.mem_cons_of_mem _ hf'))
    rw [List.flatMap_cons]
    by_cases hget : f.getter.isSome
    · rw [List.filter_cons_of_pos (by exact hget)]
      cases names with
      | nil => exact .nil _
      | cons name names =>
        rw [List.zipWith_cons_cons, List.flatten_cons, List.flatMap_append]
        exact (property_inOrder (hg f List.mem_cons_self) (hs f List.mem_cons_self)).append
          (tail names)
    · rw [List.filter_cons_of_neg (by exact hget)]
      have none := (InOrder.nil (Surface.accessorCallables struct f)).append (tail names)
      rwa [List.nil_append] at none

theorem parameterNames_length {structs : StructNames} {plan : CallPlan} {names : List String}
    (h : parameterNames structs plan = some names) : names.length = plan.params.length := by
  rw [claimAll_length h, List.length_map]

theorem methodMember_inOrder {structs : StructNames} {struct name : String} {m : MethodSurface}
    (hf : m.plan.Formed structs) {d : Def} (h : methodMember structs struct m name = some d) :
    InOrder [Surface.methodCallable struct m] d.invocations := by
  simp only [methodMember, bind, Option.bind_eq_some_iff, pure, Option.some.injEq] at h
  obtain ⟨names, hn, rfl⟩ := h
  have hlen := parameterNames_length hn
  refine callBody_invokes (Surface.methodCallable struct m) names hf rfl hlen ?_
  rw [List.map_cons, typedParams_names hlen]
  exact List.sublist_cons_self _ _

theorem functionOf_inOrder {structs : StructNames} {package name : String} {f : FuncSurface}
    (hf : f.plan.Formed structs) {d : Def} (h : functionOf structs package f name = some d) :
    InOrder [Surface.funcCallable package f] d.invocations := by
  simp only [functionOf, bind, Option.bind_eq_some_iff, pure, Option.some.injEq] at h
  obtain ⟨names, hn, rfl⟩ := h
  have hlen := parameterNames_length hn
  refine callBody_invokes (Surface.funcCallable package f) names hf rfl hlen ?_
  rw [typedParams_names hlen]

theorem classOf_inOrder {structs : StructNames} {s : StructSurface}
    (hp : Surface.Planned structs s) {c : Class} (h : classOf structs s = some c) :
    InOrder (Surface.structCallables structs s) (c.members.flatMap Def.invocations) := by
  simp only [classOf, bind, Option.bind_eq_some_iff, pure, Option.some.injEq] at h
  obtain ⟨names, -, methods, hm, rfl⟩ := h
  rw [List.flatMap_append, List.flatMap_append]
  refine .append (.append ?_ ?_) ?_
  · exact fixedMembers_inOrder structs s.struct.name _
  · exact properties_inOrder hp.getters hp.setters names
  · have planned : ∀ x ∈ s.methods.zip (names.drop (gettable s).length),
        x.1.plan.Formed structs :=
      fun x hx => hp.methods x.1 (List.of_mem_zip hx).1
    rw [List.map_eq_flatMap]
    refine .zip (((List.forall₂_and_left _ _).2 ⟨planned, forall₂_of_mapM hm⟩).imp ?_)
    rintro ⟨m, name⟩ d ⟨hf, he⟩
    exact methodMember_inOrder hf he

theorem functionsOf_inOrder {structs : StructNames} {package : String} {fs : List FuncSurface}
    (hf : ∀ f ∈ fs, f.plan.Formed structs) {ds : List Def}
    (h : functionsOf structs package fs = some ds) :
    InOrder (fs.map (Surface.funcCallable package)) (ds.flatMap Def.invocations) := by
  simp only [functionsOf, bind, Option.bind_eq_some_iff] at h
  obtain ⟨names, -, hm⟩ := h
  have planned : ∀ x ∈ fs.zip names, x.1.plan.Formed structs :=
    fun x hx => hf x.1 (List.of_mem_zip hx).1
  rw [List.map_eq_flatMap]
  refine .zip (((List.forall₂_and_left _ _).2 ⟨planned, forall₂_of_mapM hm⟩).imp ?_)
  rintro ⟨f, name⟩ d ⟨hf, he⟩
  exact functionOf_inOrder hf he

/-- **The module calls the callables**, each at most once, in their order. -/
theorem calls_inOrder {library : String} {p : Package} {m : PyModule}
    (h : PyModule.ofPackage library p = some m) : InOrder (Surface.callables p) m.invocations := by
  obtain ⟨classes, functions, emission, hc, hf, -, rfl⟩ := PyModule.ofPackage_eq_some_iff.1 h
  unfold PyModule.invocations
  rw [List.flatMap_append, List.flatMap_assoc]
  refine .append (.flatMap ?_) (functionsOf_inOrder (fun f hm => Surface.functions_planned hm) hf)
  have planned : ∀ s ∈ (Surface.ofPackage p).structs, Surface.Planned p.structNames s :=
    fun s hs => Surface.structs_planned hs
  refine ((List.forall₂_and_left _ _).2 ⟨planned, forall₂_of_mapM hc⟩).imp ?_
  rintro s c ⟨hp, he⟩
  exact classOf_inOrder hp he

end Py

end GoGlue
