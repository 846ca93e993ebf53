import GoGlue.Glue
import GoGlue.Proofs.Abi.Role
import GoGlue.Proofs.Related
import GoGlue.PyModule

/-!
# The callables of a package

Everything that the glue exports for a package, as one list: the constructor and destructor of each
struct, the accessors of its fields, its methods, and then the functions. Each has a symbol and a plan.
The entry points of the glue and the declarations of the module are two renderings of this list.

* `callables_formed`: every slot of every plan has one of the forms.
* `entries_exported`: the glue has one entry point for each callable, in order.
* `declarations_eq`: the module declares each callable, in order.
-/
namespace GoGlue

/-- Something that can be called from outside; `bound` says that it takes a handle first. -/
structure Callable where
  symbol : String
  bound : Bool
  plan : CallPlan

/-- The parameters of the callable's entry point. -/
def Callable.roles (c : Callable) : List Role := c.plan.roles c.bound

namespace Surface

/-- A constructor has a new object as its only result. -/
def constructorPlan (structs : StructNames) (struct : String) : CallPlan :=
  ⟨[], [⟨"", .struct struct, .handle (.struct struct none (structs.contains struct)) false, .scalar⟩],
    none⟩

def accessorCallables (struct : String) (f : FieldSurface) : List Callable :=
  f.getter.toList.map (⟨struct ++ "_Get" ++ f.field.name, true, ·⟩)
    ++ f.setter.toList.map (⟨struct ++ "_Set" ++ f.field.name, true, ·⟩)

def methodCallable (struct : String) (m : MethodSurface) : Callable :=
  ⟨struct ++ "_" ++ m.method.name, true, m.plan⟩

def structCallables (structs : StructNames) (s : StructSurface) : List Callable :=
  [⟨s.struct.name ++ "_New", false, constructorPlan structs s.struct.name⟩,
      ⟨s.struct.name ++ "_Free", true, ⟨[], [], none⟩⟩]
    ++ s.fields.flatMap (accessorCallables s.struct.name)
    ++ s.methods.map (methodCallable s.struct.name)

def funcCallable (package : String) (f : FuncSurface) : Callable :=
  ⟨package ++ "_" ++ f.func.name, false, f.plan⟩

/-- The callables of a package, those of the structs first. -/
def callables (p : Package) : List Callable :=
  (ofPackage p).structs.flatMap (structCallables p.structNames)
    ++ (ofPackage p).functions.map (funcCallable p.name)

/-! ## Plans of the surface -/

theorem mem_kept {α : Type} {vs : List (Verdict α)} {a : α} : a ∈ kept vs ↔ .ok a ∈ vs := by
  simp only [kept, List.mem_filterMap]
  constructor
  · rintro ⟨v, hv, he⟩
    cases v with
    | ok b => cases he; exact hv
    | error o => cases he
  · intro h
    exact ⟨.ok a, h, rfl⟩

/-! ### Members -/

/-- A function of the surface is one of the package, with the plan of its signature. -/
theorem function_source {p : Package} {f : FuncSurface} (h : f ∈ (ofPackage p).functions) :
    f.func ∈ p.functions ∧ CallPlan.ofSignature p.structNames f.func.toSignature = .ok f.plan := by
  obtain ⟨source, hs, he⟩ := List.mem_map.1 (mem_kept.1 h)
  unfold func at he
  split at he
  · rename_i hp
    cases he
    exact ⟨hs, hp⟩
  · cases he

theorem struct_source {p : Package} {s : StructSurface} (h : s ∈ (ofPackage p).structs) :
    s.struct ∈ p.structs ∧ s = struct p.structNames s.struct := by
  obtain ⟨source, hs, rfl⟩ := List.mem_map.1 h
  exact ⟨hs, rfl⟩

/-- A method of the surface is one of its struct, with the plan of its signature. -/
theorem method_source {structs : StructNames} {s : Struct} {m : MethodSurface}
    (h : m ∈ (struct structs s).methods) :
    m.method ∈ s.methods ∧ CallPlan.ofSignature structs m.method.toSignature = .ok m.plan := by
  obtain ⟨source, hs, he⟩ := List.mem_map.1 (mem_kept.1 h)
  unfold method at he
  split at he
  · cases he
  · split at he
    · rename_i hp
      cases he
      exact ⟨hs, hp⟩
    · cases he

/-- A field of the surface is one of its struct, and its accessors have the plans of its type. -/
theorem field_source {structs : StructNames} {s : Struct} {f : FieldSurface}
    (h : f ∈ (struct structs s).fields) :
    f.field ∈ s.fields ∧ (∀ g ∈ f.getter, CallPlan.ofGetter structs f.field.type = .ok g) ∧
      ∀ g ∈ f.setter, CallPlan.ofSetter structs f.field.type = .ok g := by
  obtain ⟨source, hs, he⟩ := List.mem_map.1 (mem_kept.1 h)
  simp only [field, accessors, bind, Except.bind, pure, Except.pure] at he
  cases hg : CallPlan.ofGetter structs source.type with
  | error e => simp [hg] at he
  | ok getter =>
    cases hset : CallPlan.ofSetter structs source.type with
    | error e => simp [hg, hset] at he
    | ok setter =>
      simp only [hg, hset, Except.ok.injEq] at he
      subst he
      refine ⟨(List.mem_filter.1 hs).1, ?_, ?_⟩ <;>
      · intro g hm
        simp only [Option.mem_def, Option.ite_none_left_eq_some, Option.some.injEq] at hm
        obtain ⟨-, rfl⟩ := hm
        assumption

/-! ### Forms -/

/-- The plans of a struct's members are well formed, and a getter takes nothing but the handle. -/
structure Planned (structs : StructNames) (s : StructSurface) : Prop where
  getters : ∀ f ∈ s.fields, ∀ g ∈ f.getter, g.Formed structs ∧ g.params = []
  setters : ∀ f ∈ s.fields, ∀ g ∈ f.setter, g.Formed structs
  methods : ∀ m ∈ s.methods, m.plan.Formed structs

theorem struct_planned (structs : StructNames) (s : Struct) : Planned structs (struct structs s) := by
  refine ⟨fun f hf g hg => ?_, fun f hf g hg => ?_, fun m hm => ?_⟩
  · have getter := (field_source hf).2.1 g hg
    exact ⟨CallPlan.ofGetter_form getter, CallPlan.ofGetter_params structs _ g getter⟩
  · exact CallPlan.ofSetter_form ((field_source hf).2.2 g hg)
  · exact CallPlan.ofSignature_form (method_source hm).2

theorem structs_planned {p : Package} {s : StructSurface} (h : s ∈ (ofPackage p).structs) :
    Planned p.structNames s := by
  rw [(struct_source h).2]
  exact struct_planned p.structNames s.struct

theorem functions_planned {p : Package} {f : FuncSurface} (h : f ∈ (ofPackage p).functions) :
    f.plan.Formed p.structNames := CallPlan.ofSignature_form (function_source h).2

theorem constructorPlan_formed (structs : StructNames) (struct : String) :
    (constructorPlan structs struct).Formed structs := by
  refine ⟨by simp [constructorPlan], ?_⟩
  intro s hs
  rw [List.mem_singleton.1 hs]
  exact ⟨.scalar (classify_struct structs struct) rfl, by simp⟩

theorem structCallables_formed {structs : StructNames} {s : StructSurface} (h : Planned structs s) :
    ∀ c ∈ structCallables structs s, c.plan.Formed structs := by
  intro c hc
  simp only [structCallables, List.mem_append] at hc
  rcases hc with (hc | hc) | hc
  · simp only [List.mem_cons, List.not_mem_nil, or_false] at hc
    rcases hc with rfl | rfl
    · exact constructorPlan_formed structs s.struct.name
    · exact ⟨by simp, by simp⟩
  · obtain ⟨f, hf, hc⟩ := List.mem_flatMap.1 hc
    rcases List.mem_append.1 hc with hc | hc
    · obtain ⟨g, hg, rfl⟩ := List.mem_map.1 hc
      exact (h.getters f hf g (Option.mem_toList.1 hg)).1
    · obtain ⟨g, hg, rfl⟩ := List.mem_map.1 hc
      exact h.setters f hf g (Option.mem_toList.1 hg)
  · obtain ⟨m, hm, rfl⟩ := List.mem_map.1 hc
    exact h.methods m hm

/-- Every plan of a package is well formed. -/
theorem callables_formed (p : Package) : ∀ c ∈ callables p, c.plan.Formed p.structNames := by
  intro c hc
  rcases List.mem_append.1 hc with hc | hc
  · obtain ⟨s, hs, hc⟩ := List.mem_flatMap.1 hc
    exact structCallables_formed (structs_planned hs) c hc
  · obtain ⟨f, hf, rfl⟩ := List.mem_map.1 hc
    exact functions_planned hf

end Surface

/-! ## Entry points -/

namespace Go

/-- The entry point exports the callable. -/
structure Exports (c : Callable) (e : Entry) : Prop where
  symbol : e.symbol = c.symbol
  params : e.params.map (·.token) = c.roles.map Role.token
  result : e.result = c.plan.returned.map slotToken

/-- An entry point is made of the plan with its parameters renamed. -/
theorem entryOf_eq_some_iff {own symbol : String} {receiver : Option Receiver} {invoke : Invoke}
    {plan : CallPlan} {e : Entry} : entryOf own symbol receiver invoke plan = some e ↔
      ∃ renamed, unshadowed own plan = some renamed ∧ e = ⟨symbol, entryParams receiver.isSome renamed,
        renamed.returned.map slotToken, body own receiver invoke renamed⟩ := by
  simp only [entryOf, bind, Option.bind_eq_some_iff, pure, Option.some.injEq, @eq_comm _ e]

theorem entryOf_exports {own symbol : String} {receiver : Option Receiver} {invoke : Invoke}
    {plan : CallPlan} {e : Entry} (h : entryOf own symbol receiver invoke plan = some e) :
    Exports ⟨symbol, receiver.isSome, plan⟩ e := by
  obtain ⟨renamed, hr, rfl⟩ := entryOf_eq_some_iff.1 h
  refine ⟨rfl, entryParams_tokens_unshadowed receiver.isSome hr, ?_⟩
  rw [(unshadowed_renamed hr).2]
  rfl

theorem optionalEntry_exports {own symbol : String} {receiver : Option Receiver} {invoke : Invoke}
    {plan : Option CallPlan} {es : List Entry}
    (h : plan.toList.mapM (entryOf own symbol receiver invoke) = some es) :
    List.Forall₂ Exports (plan.toList.map (⟨symbol, receiver.isSome, ·⟩)) es := by
  rw [List.forall₂_map_left_iff]
  exact (forall₂_of_mapM h).imp fun _ _ he => entryOf_exports he

theorem fieldEntries_exports {own struct : String} {f : FieldSurface} {es : List Entry}
    (h : fieldEntries own struct f = some es) :
    List.Forall₂ Exports (Surface.accessorCallables struct f) es := by
  simp only [fieldEntries, bind, Option.bind_eq_some_iff, pure, Option.some.injEq] at h
  obtain ⟨getter, hg, setter, hs, rfl⟩ := h
  exact List.rel_append (optionalEntry_exports hg) (optionalEntry_exports hs)

theorem structEntries_exports (structs : StructNames) {own : String} {s : StructSurface}
    {es : List Entry} (h : structEntries own s = some es) :
    List.Forall₂ Exports (Surface.structCallables structs s) es := by
  simp only [structEntries, bind, Option.bind_eq_some_iff, pure, Option.some.injEq] at h
  obtain ⟨fields, hf, methods, hm, rfl⟩ := h
  have constructor : Exports ⟨s.struct.name ++ "_New", false,
      Surface.constructorPlan structs s.struct.name⟩ (constructor own s.struct.name) :=
    ⟨rfl, rfl, rfl⟩
  have destructor : Exports ⟨s.struct.name ++ "_Free", true, ⟨[], [], none⟩⟩
      (destructor s.struct.name) := ⟨rfl, rfl, rfl⟩
  have accessors : List.Forall₂ Exports
      (s.fields.flatMap (Surface.accessorCallables s.struct.name)) fields.flatten := by
    rw [List.flatMap_def]
    refine List.rel_flatten ?_
    rw [List.forall₂_map_left_iff]
    exact (forall₂_of_mapM hf).imp fun _ _ he => fieldEntries_exports he
  have members : List.Forall₂ Exports
      (s.methods.map (Surface.methodCallable s.struct.name)) methods := by
    rw [List.forall₂_map_left_iff]
    exact (forall₂_of_mapM hm).imp fun _ _ he => entryOf_exports he
  exact List.rel_append (.cons constructor (.cons destructor accessors)) members

/-- **The glue exports the callables**, each by one entry point, in their order. -/
theorem entries_exported {p : Package} {es : List Entry}
    (h : entries p.name (Surface.ofPackage p) = some es) :
    List.Forall₂ Exports (Surface.callables p) es := by
  simp only [entries, bind, Option.bind_eq_some_iff, pure, Option.some.injEq] at h
  obtain ⟨structs, hs, functions, hf, rfl⟩ := h
  refine List.rel_append ?_ ?_
  · rw [List.flatMap_def]
    refine List.rel_flatten ?_
    rw [List.forall₂_map_left_iff]
    exact (forall₂_of_mapM hs).imp fun _ _ he => structEntries_exports p.structNames he
  · rw [List.forall₂_map_left_iff]
    exact (forall₂_of_mapM hf).imp fun _ _ he => entryOf_exports he

theorem entries_symbols {p : Package} {es : List Entry}
    (h : entries p.name (Surface.ofPackage p) = some es) :
    es.map (·.symbol) = (Surface.callables p).map (·.symbol) := by
  refine List.forall₂_eq_eq_eq ▸ ?_
  rw [List.forall₂_map_left_iff, List.forall₂_map_right_iff]
  exact (entries_exported h).flip.imp fun _ _ he => he.symbol

end Go

/-! ## Declarations -/

namespace Py

/-- The declaration of a callable. -/
def declareCallable (c : Callable) : Declaration := declare c.symbol c.bound c.plan

theorem structDeclarations_eq (structs : StructNames) (s : StructSurface) :
    structDeclarations s = (Surface.structCallables structs s).map declareCallable := by
  simp only [structDeclarations, Surface.structCallables, List.map_append, List.map_flatMap,
    List.map_map]
  have field : ∀ f : FieldSurface,
      f.getter.toList.map (declare (s.struct.name ++ "_Get" ++ f.field.name) true)
          ++ f.setter.toList.map (declare (s.struct.name ++ "_Set" ++ f.field.name) true)
        = (Surface.accessorCallables s.struct.name f).map declareCallable := by
    intro f
    simp only [Surface.accessorCallables, List.map_append, List.map_map]
    rfl
  simp only [field]
  rfl

/-- **The module declares the callables**, in their order. -/
theorem declarations_eq {library : String} {p : Package} {m : PyModule}
    (h : PyModule.ofPackage library p = some m) :
    m.declarations = (Surface.callables p).map declareCallable := by
  obtain ⟨_, _, _, -, -, -, rfl⟩ := PyModule.ofPackage_eq_some_iff.1 h
  have structs : structDeclarations
      = fun s => (Surface.structCallables p.structNames s).map declareCallable :=
    funext (structDeclarations_eq p.structNames)
  simp only [Surface.callables, List.map_append, List.map_flatMap, List.map_map, structs]
  rfl

end Py

end GoGlue
