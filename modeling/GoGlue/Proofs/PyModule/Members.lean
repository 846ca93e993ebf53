import GoGlue.Proofs.Abi.Invocation
import GoGlue.Proofs.GoType.WellFormed

/-!
# What the definitions of a module are made for

Besides the members that every class has, each definition of a module is laid out from a callable of the
package: a function or method under the names that were claimed for its parameters, and the accessors of a
property under the name `value` or none. Every function and method of the surface has such a definition.

* `LaidOut`: a definition that is laid out from a callable.
* `function_defined`, `method_defined`: every function and method is defined.
* `definitions_cases`: there are no other definitions.
-/
namespace GoGlue

/-- The members of all classes, and the functions. -/
def PyModule.definitions (m : PyModule) : List Py.Def := m.classes.flatMap (·.members) ++ m.functions

/-- What stands on the left of a pointwise relation is paired with something that plays no role. -/
theorem forall₂_of_zip {α β γ : Type} {R : α → β → Prop} {xs : List α} {ns : List γ} {ys : List β}
    (length : xs.length ≤ ns.length) (h : List.Forall₂ (fun x y => R x.1 y) (xs.zip ns) ys) :
    List.Forall₂ R xs ys := by
  rw [← List.forall₂_map_left_iff (f := Prod.fst) (R := R), List.map_fst_zip length] at h
  exact h

namespace Py

open Surface (accessorCallables methodCallable funcCallable callables structCallables)

variable {structs : StructNames} {package library : String} {p : Package} {m : PyModule}

/-- The definition is laid out from a callable. The receiver comes first; the parameters of the plan have
the given names. -/
structure LaidOut (c : Callable) (names : List String) (d : Def) : Prop where
  length : names.length = c.plan.params.length
  params : d.params = (if c.bound then [.plain "self"] else []) ++ typedParams c.plan names
  returns : d.returns = returnHint c.plan
  body : d.body = callBody c.symbol c.bound c.plan names

/-- The definition of a function or method, whose parameters have claimed names. -/
def Claimed (structs : StructNames) (c : Callable) (d : Def) : Prop :=
  ∃ names, parameterNames structs c.plan = some names ∧ LaidOut c names d

/-- A definition for a property. -/
def Accesses (c : Callable) (d : Def) : Prop :=
  ∃ names, (names = [] ∨ names = ["value"]) ∧ LaidOut c names d

/-! ## Functions and methods -/

theorem functionOf_claimed {f : FuncSurface} {name : String} {d : Def}
    (h : functionOf structs package f name = some d) : Claimed structs (funcCallable package f) d := by
  simp only [functionOf, bind, Option.bind_eq_some_iff, pure, Option.some.injEq] at h
  obtain ⟨names, hn, rfl⟩ := h
  exact ⟨names, hn, parameterNames_length hn, rfl, rfl, rfl⟩

theorem methodMember_claimed {struct name : String} {x : MethodSurface} {d : Def}
    (h : methodMember structs struct x name = some d) : Claimed structs (methodCallable struct x) d := by
  simp only [methodMember, bind, Option.bind_eq_some_iff, pure, Option.some.injEq] at h
  obtain ⟨names, hn, rfl⟩ := h
  exact ⟨names, hn, parameterNames_length hn, rfl, rfl, rfl⟩

theorem functionsOf_claimed {fs : List FuncSurface} {ds : List Def}
    (h : functionsOf structs package fs = some ds) :
    List.Forall₂ (fun f d => Claimed structs (funcCallable package f) d) fs ds := by
  simp only [functionsOf, bind, Option.bind_eq_some_iff] at h
  obtain ⟨names, hn, hm⟩ := h
  have length : names.length = fs.length := by rw [claimAll_length hn, List.length_map]
  exact forall₂_of_zip (Nat.le_of_eq length.symm) ((forall₂_of_mapM hm).imp fun _ _ he => functionOf_claimed he)

/-! ## Classes -/

/-- A property is laid out from the accessors of its field. -/
theorem property_accesses {struct name : String} {f : FieldSurface} {d : Def}
    (hg : ∀ g ∈ f.getter, g.params = []) (hs : ∀ g ∈ f.setter, g.results = [])
    (h : d ∈ property struct f name) : ∃ c ∈ accessorCallables struct f, Accesses c d := by
  unfold property at h
  unfold accessorCallables
  cases hgetter : f.getter with
  | none => simp [hgetter] at h
  | some getter =>
    have noParams := hg getter hgetter
    rw [hgetter] at h
    rcases List.mem_cons.1 h with rfl | h
    · refine ⟨_, List.mem_append_left _ (List.mem_singleton_self _), [], .inl rfl, ?_⟩
      exact ⟨by rw [noParams]; rfl, by simp [typedParams], rfl, rfl⟩
    · cases hsetter : f.setter with
      | none => simp [hsetter] at h
      | some setter =>
        have noResults := hs setter hsetter
        simp only [hsetter] at h
        -- only a setter with one scalar parameter becomes a setter of the property
        split at h
        · rename_i value hparams
          split at h
          · rw [List.mem_singleton.1 h]
            refine ⟨_, List.mem_append_right _ (List.mem_singleton_self _), ["value"], .inr rfl, ?_⟩
            exact ⟨by rw [hparams]; rfl, by simp [typedParams, hparams], by simp [returnHint, noResults],
              rfl⟩
          · cases h
        · cases h

theorem mem_fixedMembers {struct : String} {hasMethods : Bool} {d : Def} (h : d ∈ fixedMembers struct hasMethods) :
    d ∈ fixedMembers struct true := by
  cases hasMethods
  · exact List.mem_append_left _ (by simpa [fixedMembers] using h)
  · exact h

/-- What a class consists of. -/
structure Members (structs : StructNames) (s : StructSurface) (c : Class) (fixed properties methods : List Def) :
    Prop where
  struct : c.struct = s.struct.name
  members : c.members = fixed ++ properties ++ methods
  fixed : ∃ hasMethods, fixed = fixedMembers s.struct.name hasMethods
  properties : ∀ d ∈ properties, ∃ f ∈ s.fields, ∃ c ∈ accessorCallables s.struct.name f, Accesses c d
  methods : List.Forall₂ (fun x d => Claimed structs (methodCallable s.struct.name x) d) s.methods methods

theorem classOf_members {s : StructSurface} {c : Class} (hg : ∀ f ∈ s.fields, ∀ g ∈ f.getter, g.params = [])
    (hs : ∀ f ∈ s.fields, ∀ g ∈ f.setter, g.results = []) (h : classOf structs s = some c) :
    ∃ fixed properties methods, Members structs s c fixed properties methods := by
  simp only [classOf, bind, Option.bind_eq_some_iff, pure, Option.some.injEq] at h
  obtain ⟨names, hn, methods, hm, rfl⟩ := h
  have length : names.length = (gettable s).length + s.methods.length := by
    rw [claimAll_length hn, List.length_append, List.length_map, List.length_map]
  refine ⟨_, _, methods, rfl, rfl, ⟨_, rfl⟩, fun d hd => ?_, ?_⟩
  · obtain ⟨group, hgroup, hd⟩ := List.mem_flatten.1 hd
    rw [← List.map_uncurry_zip_eq_zipWith] at hgroup
    obtain ⟨⟨f, name⟩, hf, rfl⟩ := List.mem_map.1 hgroup
    have hf : f ∈ s.fields := (List.mem_filter.1 (List.of_mem_zip hf).1).1
    exact ⟨f, hf, property_accesses (hg f hf) (hs f hf) hd⟩
  · have enough : s.methods.length ≤ (names.drop (gettable s).length).length := by
      rw [List.length_drop, length]
      omega
    exact forall₂_of_zip enough ((forall₂_of_mapM hm).imp fun _ _ he => methodMember_claimed he)

/-! ## The module -/

theorem setter_results {t : GoType} {plan : CallPlan} (h : CallPlan.ofSetter structs t = .ok plan) :
    plan.results = [] := by
  obtain ⟨laid, hl, rfl⟩ := ok_of_map h
  have slots := (CallPlan.ofSignature_slots hl).2
  simp only [CallPlan.resultSlots, Except.ok.injEq, Prod.mk.injEq] at slots
  exact slots.1.symm

/-- **The classes of a module** are those of the structs of the surface, in order. -/
theorem classes_members (h : PyModule.ofPackage library p = some m) :
    List.Forall₂ (fun s c => ∃ fixed properties methods,
      Members p.structNames s c fixed properties methods) (Surface.ofPackage p).structs m.classes := by
  obtain ⟨classes, functions, emission, hc, hf, -, rfl⟩ := PyModule.ofPackage_eq_some_iff.1 h
  have planned : ∀ s ∈ (Surface.ofPackage p).structs,
      (∀ f ∈ s.fields, ∀ g ∈ f.getter, g.params = []) ∧ ∀ f ∈ s.fields, ∀ g ∈ f.setter, g.results = [] := by
    intro s hs
    refine ⟨fun f hf g hg => ((Surface.structs_planned hs).getters f hf g hg).2, fun f hf g hg => ?_⟩
    rw [(Surface.struct_source hs).2] at hf
    exact setter_results ((Surface.field_source hf).2.2 g hg)
  refine ((List.forall₂_and_left _ _).2 ⟨planned, forall₂_of_mapM hc⟩).imp ?_
  rintro s c ⟨⟨getters, setters⟩, made⟩
  exact classOf_members getters setters made

/-- **The functions of a module** are those of the surface, in order. -/
theorem functions_claimed (h : PyModule.ofPackage library p = some m) :
    List.Forall₂ (fun f d => Claimed p.structNames (funcCallable p.name f) d)
      (Surface.ofPackage p).functions m.functions := by
  obtain ⟨classes, functions, emission, hc, hf, -, rfl⟩ := PyModule.ofPackage_eq_some_iff.1 h
  exact functionsOf_claimed hf

theorem function_defined (h : PyModule.ofPackage library p = some m) {f : FuncSurface}
    (hf : f ∈ (Surface.ofPackage p).functions) :
    ∃ d ∈ m.functions, Claimed p.structNames (funcCallable p.name f) d :=
  exists_related_right (functions_claimed h) hf

theorem method_defined (h : PyModule.ofPackage library p = some m) {s : StructSurface}
    (hs : s ∈ (Surface.ofPackage p).structs) {x : MethodSurface} (hx : x ∈ s.methods) :
    ∃ c ∈ m.classes, c.struct = s.struct.name ∧
      ∃ d ∈ c.members, Claimed p.structNames (methodCallable s.struct.name x) d := by
  obtain ⟨c, hc, _, _, methods, made⟩ := exists_related_right (classes_members h) hs
  obtain ⟨d, hd, claimed⟩ := exists_related_right made.methods hx
  exact ⟨c, hc, made.struct, d, made.members ▸ List.mem_append_right _ hd, claimed⟩

/-- **There are no other definitions**: one is a member that every class has, or it is laid out from a
callable of the package. -/
theorem definitions_cases (h : PyModule.ofPackage library p = some m) {d : Def} (hd : d ∈ m.definitions) :
    (∃ s ∈ (Surface.ofPackage p).structs, ∃ hasMethods, d ∈ fixedMembers s.struct.name hasMethods) ∨
      ∃ c ∈ callables p, Claimed p.structNames c d ∨ Accesses c d := by
  rcases List.mem_append.1 hd with hd | hd
  · obtain ⟨c, hc, hd⟩ := List.mem_flatMap.1 hd
    obtain ⟨s, hs, fixed, properties, methods, made⟩ := exists_related (classes_members h) hc
    have ofStruct : ∀ c ∈ structCallables p.structNames s, c ∈ callables p := fun c hc =>
      List.mem_append_left _ (List.mem_flatMap.2 ⟨s, hs, hc⟩)
    rw [made.members] at hd
    rcases List.mem_append.1 hd with hd | hd
    · rcases List.mem_append.1 hd with hd | hd
      · obtain ⟨hasMethods, rfl⟩ := made.fixed
        exact .inl ⟨s, hs, hasMethods, hd⟩
      · obtain ⟨f, hf, c, hc, accesses⟩ := made.properties d hd
        refine .inr ⟨c, ofStruct c (List.mem_append_left _ (List.mem_append_right _ ?_)), .inr accesses⟩
        exact List.mem_flatMap.2 ⟨f, hf, hc⟩
    · obtain ⟨x, hx, claimed⟩ := exists_related made.methods hd
      refine .inr ⟨_, ofStruct _ (List.mem_append_right _ ?_), .inl claimed⟩
      exact List.mem_map_of_mem hx
  · obtain ⟨f, hf, claimed⟩ := exists_related (functions_claimed h) hd
    exact .inr ⟨_, List.mem_append_right _ (List.mem_map_of_mem hf), .inl claimed⟩

/-- There is a class for each struct of the package, in order. -/
theorem classes_structs (h : PyModule.ofPackage library p = some m) :
    m.classes.map (·.struct) = p.structNames := by
  have named := (classes_members h).imp fun s c ⟨_, _, _, made⟩ => made.struct
  have same : (Surface.ofPackage p).structs.map (·.struct.name) = m.classes.map (·.struct) := by
    rw [← List.forall₂_eq_eq_eq, List.forall₂_map_left_iff, List.forall₂_map_right_iff]
    exact named.imp fun _ _ e => e.symm
  rw [← same, Package.structNames, ← Surface.ofPackage_structs p, List.map_map]
  rfl

end Py

end GoGlue
