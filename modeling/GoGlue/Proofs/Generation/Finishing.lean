import GoGlue.Proofs.Glue.Emitted
import GoGlue.Proofs.Glue.Renaming
import GoGlue.Proofs.Name.Fewest
import GoGlue.Proofs.PyModule.Emitted
import GoGlue.Proofs.PyModule.MemberNames

/-!
# When generation finishes

The emitters claim names without a limit, so one that can never be claimed keeps them at it for ever. For the Go
glue only parameters are claimed, and only an underscore at the beginning of a name is never left behind. For the
Python module `c` is in danger as well, because an underscore after it makes the beginning of a class of `ctypes`,
and so is a function without a name, because an underscore after nothing is one at the beginning.

* `glue_isSome`: the parameters with which the glue is finished.
* `claimAll_isSome`: how often the empty name can be claimed.
* `module_isSome`: the functions that can all be named.
* `generation_finishes`: when claims come to an end, and with them the emitters.
* `finishing_misjudged`: a package without obstructed names whose module is never finished.
-/
namespace GoGlue

/-- The names that the parameters of all callables have in the C header. -/
def Surface.headerNames (p : Package) : List String :=
  (callables p).flatMap fun c => c.plan.params.map (·.name)

/-- The names of the functions that cross the boundary, in snake case. -/
def Surface.functionNames (p : Package) : List String :=
  (ofPackage p).functions.map fun f => snakeCase f.func.name

/-- Whatever underscores are written after the name, it gets no beginning that is reserved in Python. -/
def Unobstructed (name : String) : Prop :=
  name ≠ "c" ∧ beginsWith "_" name = false ∧ beginsWith "c_" name = false

theorem isSome_both {α β γ : Type} {x : Option α} {y : Option β} {f : α → β → γ} :
    (do let a ← x; let b ← y; return f a b).isSome = true ↔ x.isSome = true ∧ y.isSome = true := by
  cases x <;> cases y <;> simp

/-! ## The Go glue -/

namespace Go

/-- Parameters are renamed one after the other: each takes its name from those after it, and the name of its
count if it has one. -/
inductive Renames (r : Reserved) : List String → List Slot → List Slot → Prop
  | nil {taken : List String} : Renames r taken [] []
  | cons {taken : List String} {s : Slot} {rest more : List Slot} {free : String}
      (first : Claims r.contains taken s.name free)
      (others : Renames r ((if s.shape = .buffer then [lengthName free] else []) ++ free :: taken) rest more) :
      Renames r taken (s :: rest) ({ s with name := free } :: more)

theorem renameParams_eq_some_iff {r : Reserved} {taken : List String} {slots renamed : List Slot} :
    renameParams r taken slots = some renamed ↔ Renames r taken slots renamed := by
  induction slots generalizing taken renamed with
  | nil =>
    constructor
    · rintro ⟨⟩
      exact .nil
    · rintro ⟨⟩
      rfl
  | cons s rest ih =>
    simp only [renameParams, bind, Option.bind_eq_some_iff, pure, Option.some.injEq]
    constructor
    · rintro ⟨free, first, more, others, rfl⟩
      exact .cons (claim_eq_some_iff.1 first) (ih.1 others)
    · rintro (_ | ⟨first, others⟩)
      exact ⟨_, claim_eq_some_iff.2 first, _, ih.2 others, rfl⟩

/-- Named parameters can be renamed exactly if none of them begins with an underscore. -/
theorem renameParams_isSome {r : Reserved} (beginnings : r.beginnings = ["_"]) {taken : List String}
    {slots : List Slot} (named : ∀ s ∈ slots, s.name ≠ "") :
    (renameParams r taken slots).isSome = true ↔ ∀ s ∈ slots, beginsWith "_" s.name = false := by
  rw [Option.isSome_iff_exists]
  constructor
  · rintro ⟨renamed, h⟩ s hs
    obtain ⟨s', -, taken, claimed⟩ := exists_related_right (renameParams_claimed h).2.2 hs
    refine Bool.of_not_eq_true fun blocked => ?_
    rw [claim_blocked r taken s.name (by simp [Reserved.blocks, beginnings, blocked])] at claimed
    cases claimed
  · exact fun h => exists_renameParams beginnings (fun s hs => ⟨named s hs, h s hs⟩) taken

theorem unshadowed_isSome {own : String} {plan : CallPlan} (named : ∀ s ∈ plan.params, s.name ≠ "") :
    (unshadowed own plan).isSome = true ↔ ∀ s ∈ plan.params, beginsWith "_" s.name = false := by
  have slots (taken : List String) :
      (renameParams (entryReserved own plan) taken plan.params).isSome = true ↔ _ := renameParams_isSome rfl named
  rw [← slots (plan.results.flatMap fun s => [s.name, lengthName s.name])]
  simp [unshadowed, bind, Option.isSome_bind]

/-- The plan of the callable can be given names. -/
def Nameable (own : String) (c : Callable) : Prop := (unshadowed own c.plan).isSome = true

theorem entryOf_isSome {own symbol : String} {receiver : Option Receiver} {invoke : Invoke}
    {plan : CallPlan} : (entryOf own symbol receiver invoke plan).isSome = (unshadowed own plan).isSome := by
  simp [entryOf, bind, Option.isSome_bind]

theorem fieldEntries_isSome {own struct : String} {f : FieldSurface} :
    (fieldEntries own struct f).isSome = true ↔ ∀ c ∈ Surface.accessorCallables struct f, Nameable own c := by
  simp only [fieldEntries, isSome_both, isSome_mapM, entryOf_isSome, Surface.accessorCallables,
    List.forall_mem_append, List.forall_mem_map, Nameable]

theorem nameable_of_params_nil {own : String} {c : Callable} (h : c.plan.params = []) : Nameable own c := by
  simp [Nameable, unshadowed, renameParams, h]

theorem structEntries_isSome {own : String} (structs : StructNames) {s : StructSurface} :
    (structEntries own s).isSome = true ↔ ∀ c ∈ Surface.structCallables structs s, Nameable own c := by
  have fixed : ∀ c ∈ [⟨s.struct.name ++ "_New", false, Surface.constructorPlan structs s.struct.name⟩,
      ⟨s.struct.name ++ "_Free", true, ⟨[], [], none⟩⟩], Nameable own c := by
    simp [Surface.constructorPlan, nameable_of_params_nil]
  rw [Surface.structCallables, List.forall_mem_append, List.forall_mem_append, and_iff_right fixed]
  simp only [structEntries, isSome_both, isSome_mapM, fieldEntries_isSome, methodEntry, entryOf_isSome,
    Surface.methodCallable, List.forall_mem_flatMap, List.forall_mem_map, Nameable]

/-- **The entry points of a package** can be made exactly if the plan of every callable can be given names. -/
theorem entries_isSome {p : Package} : (entries p.name (Surface.ofPackage p)).isSome = true ↔
    ∀ c ∈ Surface.callables p, Nameable p.name c := by
  simp only [entries, isSome_both, isSome_mapM, structEntries_isSome p.structNames, funcEntry, entryOf_isSome,
    Surface.callables, Surface.funcCallable, List.forall_mem_append, List.forall_mem_flatMap,
    List.forall_mem_map, Nameable]

theorem structCallables_accepted {structs : StructNames} {s : Struct} {c : Callable}
    (h : c ∈ Surface.structCallables structs (Surface.struct structs s)) :
    c.plan.params = [] ∨ Accepted structs c.plan := by
  simp only [Surface.structCallables, List.mem_append] at h
  rcases h with (h | h) | h
  · simp only [List.mem_cons, List.not_mem_nil, or_false] at h
    rcases h with rfl | rfl
    · exact .inl rfl
    · exact .inl rfl
  · obtain ⟨f, hf, h⟩ := List.mem_flatMap.1 h
    obtain ⟨-, getters, setters⟩ := Surface.field_source hf
    rcases List.mem_append.1 h with h | h
    · obtain ⟨plan, hp, rfl⟩ := List.mem_map.1 h
      exact .inr (.inr (.inl ⟨_, getters plan (Option.mem_toList.1 hp)⟩))
    · obtain ⟨plan, hp, rfl⟩ := List.mem_map.1 h
      exact .inr (.inr (.inr ⟨_, setters plan (Option.mem_toList.1 hp)⟩))
  · obtain ⟨m, hm, rfl⟩ := List.mem_map.1 h
    exact .inr (.inl ⟨_, (Surface.method_source hm).2⟩)

/-- Every parameter of a callable has a name. -/
theorem callables_named {p : Package} {c : Callable} (h : c ∈ Surface.callables p) :
    ∀ s ∈ c.plan.params, s.name ≠ "" := by
  have accepted : c.plan.params = [] ∨ Accepted p.structNames c.plan := by
    rcases List.mem_append.1 h with h | h
    · obtain ⟨s, hs, h⟩ := List.mem_flatMap.1 h
      rw [(Surface.struct_source hs).2] at h
      exact structCallables_accepted h
    · obtain ⟨f, hf, rfl⟩ := List.mem_map.1 h
      exact .inr (.inl ⟨_, (Surface.function_source hf).2⟩)
  rcases accepted with none | accepted
  · simp [none]
  · exact accepted.named

/-- **The glue of a package** is finished exactly if no parameter begins with an underscore in the C header. -/
theorem glue_isSome {p : Package} : (generate p).isSome = true ↔
    ∀ n ∈ Surface.headerNames p, beginsWith "_" n = false := by
  have emitted : (generate p).isSome = (entries p.name (Surface.ofPackage p)).isSome :=
    Option.isSome_map.trans (emission_emits p).isSome
  rw [emitted, entries_isSome, Surface.headerNames, List.forall_mem_flatMap]
  refine forall₂_congr fun c hc => ?_
  rw [Nameable, unshadowed_isSome (callables_named hc), List.forall_mem_map]

end Go

/-! ## Unobstructed names -/

theorem claimAll_cons_isSome {r : Reserved} {taken names : List String} {name : String} :
    (claimAll r taken (name :: names)).isSome = true ↔
      ∃ free, claim r taken name = some free ∧ (claimAll r (free :: taken) names).isSome = true := by
  cases h : claim r taken name <;> simp [claimAll, h, Option.isSome_bind]

/-- The reserved beginnings are not reached by writing more after an unobstructed name. -/
theorem Unobstructed.unblocked {r : Reserved} (beginnings : r.beginnings = ["c_", "_"])
    {name : String} (named : name ≠ "") (h : Unobstructed name) :
    ∀ n : String, name.toList <+: n.toList → r.blocks n = false := by
  obtain ⟨notC, notUnderscore, notClass⟩ := h
  have one : "_".toList = ['_'] := by decide
  have two : "c_".toList = ['c', '_'] := by decide
  rintro n ⟨more, longer⟩
  rw [beginsWith] at notUnderscore notClass
  simp only [Reserved.blocks, beginnings, beginsWith, ← longer, one, two, List.any_cons, List.any_nil,
    Bool.or_false] at notUnderscore notClass ⊢
  rcases hcs : name.toList with _ | ⟨c, _ | ⟨d, rest⟩⟩
  · exact absurd (String.toList_injective hcs) named
  · have other : 'c' ≠ c := by
      rintro rfl
      exact notC (String.toList_injective hcs)
    rw [hcs] at notUnderscore
    simpa [List.isPrefixOf, other] using notUnderscore
  · rw [hcs] at notUnderscore notClass
    simpa [List.isPrefixOf] using And.intro notClass notUnderscore

theorem Unobstructed.pythonIdent {name : String} (h : Unobstructed name) : Unobstructed (pythonIdent name) := by
  have keywords : ∀ k ∈ pythonKeywords, Unobstructed (k ++ "_") := by
    unfold Unobstructed
    decide
  unfold GoGlue.pythonIdent
  split
  · exact keywords name ‹_›
  · exact h

theorem pythonIdent_eq_empty {name : String} : pythonIdent name = "" ↔ name = "" := by
  unfold pythonIdent
  split
  · next keyword => simp [String.append_eq_empty_iff]; rintro rfl; exact absurd keyword (by decide)
  · rfl

/-- A name that was claimed is empty only if the empty name was asked for. -/
theorem claim_ne_empty {r : Reserved} {taken : List String} {name free : String} (named : name ≠ "")
    (h : claim r taken name = some free) : free ≠ "" := by
  obtain ⟨k, spelled⟩ := claim_eq_append h
  rintro rfl
  simp [named] at spelled

/-- Names none of which is empty can be claimed if they are unobstructed. -/
theorem exists_claimAll_unobstructed {r : Reserved} (beginnings : r.beginnings = ["c_", "_"])
    (taken : List String) {names : List String} (h : ∀ n ∈ names, n ≠ "" ∧ Unobstructed n) :
    (claimAll r taken names).isSome = true := by
  induction names generalizing taken with
  | nil => rfl
  | cons name rest ih =>
    obtain ⟨⟨named, clear⟩, others⟩ := List.forall_mem_cons.1 h
    obtain ⟨free, claimed⟩ := exists_claim_unblocked taken (clear.unblocked beginnings named)
    exact claimAll_cons_isSome.2 ⟨free, claimed, ih (free :: taken) others⟩

/-- The empty name can be claimed once. -/
theorem claim_empty {r : Reserved} (beginnings : r.beginnings = ["c_", "_"]) (held : r.holds "" = false)
    (taken : List String) : claim r taken "" = if "" ∈ taken then none else some "" := by
  have first : r.blocks "" = false := by simp [Reserved.blocks, beginnings, beginsWith]
  have second : r.blocks "_" = true := by simp [Reserved.blocks, beginnings, beginsWith]
  rw [claim, first, held]
  simp [claim_blocked r taken _ second]

/-- **Unobstructed names** can be claimed exactly if the empty name is not asked for twice. -/
theorem claimAll_isSome {r : Reserved} (beginnings : r.beginnings = ["c_", "_"]) (held : r.holds "" = false)
    {taken names : List String} (h : ∀ n ∈ names, Unobstructed n) :
    (claimAll r taken names).isSome = true ↔ names.count "" + (if "" ∈ taken then 1 else 0) ≤ 1 := by
  induction names generalizing taken with
  | nil =>
    have room : (if "" ∈ taken then 1 else 0) ≤ 1 := by split <;> omega
    simpa [claimAll] using room
  | cons name rest ih =>
    obtain ⟨clear, others⟩ := List.forall_mem_cons.1 h
    rw [claimAll_cons_isSome]
    by_cases named : name = ""
    · subst named
      rw [claim_empty beginnings held]
      by_cases used : "" ∈ taken
      · simp [used]
      · simp [used, ih others]
    · obtain ⟨free, claimed⟩ := exists_claim_unblocked taken (clear.unblocked beginnings named)
      simp [claimed, ih others, named, claim_ne_empty named claimed, eq_comm]

/-! ## The Python module -/

namespace Py

theorem parameterNames_isSome (structs : StructNames) {plan : CallPlan}
    (named : ∀ s ∈ plan.params, s.name ≠ "") (h : ∀ s ∈ plan.params, Unobstructed s.name) :
    (parameterNames structs plan).isSome = true := by
  refine exists_claimAll_unobstructed rfl _ (List.forall_mem_map.2 fun s hs => ⟨fun e => ?_, ?_⟩)
  · exact named s hs (pythonIdent_eq_empty.1 e)
  · exact (h s hs).pythonIdent

/-- The functions of a module are missing only where one of them or one of their parameters cannot be named. -/
theorem functionsOf_isSome (structs : StructNames) (package : String) (fs : List FuncSurface) :
    (functionsOf structs package fs).isSome = true ↔
      (claimAll pythonReserved [] (fs.map (memberName ·.func.name))).isSome = true ∧
        ∀ f ∈ fs, (parameterNames structs f.plan).isSome = true := by
  cases claimed : claimAll pythonReserved [] (fs.map (memberName ·.func.name)) with
  | none => simp [functionsOf, claimed]
  | some names =>
    have fits : fs.length ≤ names.length := by simp [claimAll_length claimed]
    have each : ∀ x : FuncSurface × String, (functionOf structs package x.1 x.2).isSome
        = (parameterNames structs x.1.plan).isSome := fun x => by
      simp [functionOf, bind, pure, Option.isSome_bind]
    have made : (functionsOf structs package fs).isSome
        = ((fs.zip names).mapM fun x => functionOf structs package x.1 x.2).isSome := by
      simp [functionsOf, claimed, bind]
    rw [made, isSome_mapM, Option.isSome_some, and_iff_right rfl]
    simp only [each]
    conv_rhs => rw [← List.map_fst_zip fits, List.forall_mem_map]

theorem definitionsOf_isSome {p : Package} : (definitionsOf p).isSome = true ↔
    (∀ s ∈ (Surface.ofPackage p).structs, ∀ m ∈ s.methods, (parameterNames p.structNames m.plan).isSome = true) ∧
      (claimAll pythonReserved [] ((Surface.functionNames p).map pythonIdent)).isSome = true ∧
        ∀ f ∈ (Surface.ofPackage p).functions, (parameterNames p.structNames f.plan).isSome = true := by
  have asked : (Surface.functionNames p).map pythonIdent
      = (Surface.ofPackage p).functions.map (memberName ·.func.name) := by
    simp [Surface.functionNames, memberName]
  simp only [definitionsOf, isSome_both, isSome_mapM, classOf_isSome, functionsOf_isSome, asked]

/-- **The module of a package** whose names are unobstructed is finished exactly if at most one of its functions is
unnamed. -/
theorem module_isSome {library : String} {p : Package}
    (h : ∀ n ∈ Surface.headerNames p ++ Surface.functionNames p, Unobstructed n) :
    (generate library p).isSome = true ↔ (Surface.functionNames p).count "" ≤ 1 := by
  obtain ⟨header, functions⟩ := List.forall_mem_append.1 h
  have params : ∀ c ∈ Surface.callables p, (parameterNames p.structNames c.plan).isSome = true := fun c hc =>
    parameterNames_isSome p.structNames (Go.callables_named hc) fun s hs =>
      header s.name (List.mem_flatMap.2 ⟨c, hc, List.mem_map_of_mem hs⟩)
  have methods : ∀ s ∈ (Surface.ofPackage p).structs, ∀ m ∈ s.methods,
      (parameterNames p.structNames m.plan).isSome = true := fun s hs m hm =>
    params (Surface.methodCallable s.struct.name m) (List.mem_append_left _ (List.mem_flatMap.2
      ⟨s, hs, List.mem_append_right _ (List.mem_map_of_mem hm)⟩))
  have bodies : ∀ f ∈ (Surface.ofPackage p).functions, (parameterNames p.structNames f.plan).isSome = true :=
    fun f hf => params (Surface.funcCallable p.name f) (List.mem_append_right _ (List.mem_map_of_mem hf))
  have unnamed : ((Surface.functionNames p).map pythonIdent).count "" = (Surface.functionNames p).count "" := by
    simp only [List.count_eq_countP, List.countP_map]
    refine List.countP_congr fun n _ => ?_
    simp [pythonIdent_eq_empty]
  have emitted : (generate library p).isSome = (definitionsOf p).isSome :=
    Option.isSome_map.trans (emission_emits p).isSome
  rw [emitted, definitionsOf_isSome, and_iff_right methods, and_iff_left bodies,
    claimAll_isSome rfl (by decide) (List.forall_mem_map.2 fun n hn => (functions n hn).pythonIdent), unnamed]
  simp

end Py

/-! ## Emitters -/

/-- **When generation finishes.** A claim comes to an end if some number of underscores helps, and then with the
fewest of them, so that names which are claimed in turn take exactly each other away. A package therefore gets its
Go glue exactly if no parameter begins with an underscore in the C header. It gets its Python module, if nothing
obstructs its names, exactly if at most one of its functions is unnamed. -/
theorem generation_finishes (p : Package) (library : String) :
    (∀ reserved taken name,
      ((∃ free, Claims reserved taken name free) ↔ ∃ k, IsFree reserved taken (underscored name k)) ∧
        ∀ free, Claims reserved taken name free ↔ Fewest reserved taken name free) ∧
    (∀ (r : Reserved) taken,
      (∀ name free, claim r taken name = some free ↔ Claims r.contains taken name free) ∧
        (∀ names more, claimAll r taken names = some more ↔ InTurn r.contains taken names more) ∧
          ∀ slots renamed, Go.renameParams r taken slots = some renamed ↔ Go.Renames r taken slots renamed) ∧
    ((Go.generate p).isSome = true ↔ ∀ n ∈ Surface.headerNames p, beginsWith "_" n = false) ∧
    ((∀ n ∈ Surface.headerNames p ++ Surface.functionNames p, Unobstructed n) →
      ((Py.generate library p).isSome = true ↔ (Surface.functionNames p).count "" ≤ 1)) :=
  ⟨fun _ _ _ => ⟨exists_claims_iff, fun _ => claims_iff_fewest⟩,
    fun _ _ => ⟨fun _ _ => claim_eq_some_iff, fun _ _ => claimAll_eq_some_iff,
      fun _ _ => Go.renameParams_eq_some_iff⟩,
    Go.glue_isSome, Py.module_isSome⟩

/-- The package `geo` with two functions, of which the second has no name. -/
def lookups : Package where
  name := "geo"
  importPath := "example.com/geo"
  dir := ""
  functions :=
    [{ name := "Find", doc := "", params := [⟨"len", .slice (.primitive "int")⟩, ⟨"class", .primitive "int"⟩],
       results := [], isVariadic := false },
      { name := "", doc := "", params := [], results := [], isVariadic := false }]
  structs := []

theorem generation_finishes_lookups :
    (∀ n ∈ Surface.headerNames lookups ++ Surface.functionNames lookups, Unobstructed n) ∧
      (Go.generate lookups).isSome = true ∧ (Py.generate "libgeo" lookups).isSome = true := by
  have names : Surface.headerNames lookups ++ Surface.functionNames lookups = ["len", "class", "find", ""] := by
    decide +kernel
  obtain ⟨-, -, glue, module⟩ := generation_finishes lookups "libgeo"
  have clear : ∀ n ∈ Surface.headerNames lookups ++ Surface.functionNames lookups, Unobstructed n := by
    rw [names]
    unfold Unobstructed
    decide
  exact ⟨clear, glue.2 fun n hn => (clear n (List.mem_append_left _ hn)).2.1, (module clear).2 (by decide +kernel)⟩

/-- The same function without a name, twice. -/
def unnamedTwice : Package :=
  { lookups with functions := lookups.functions ++ lookups.functions.drop 1 }

/-- **Beginnings are not all that matters**: no name of the package is obstructed, but its module is never finished,
since its second unnamed function cannot be told from the first. -/
theorem finishing_misjudged :
    (∀ n ∈ Surface.headerNames unnamedTwice ++ Surface.functionNames unnamedTwice, Unobstructed n) ∧
      Py.generate "libgeo" unnamedTwice = none := by
  have names : Surface.headerNames unnamedTwice ++ Surface.functionNames unnamedTwice
      = ["len", "class", "find", "", ""] := by
    decide +kernel
  have clear : ∀ n ∈ Surface.headerNames unnamedTwice ++ Surface.functionNames unnamedTwice, Unobstructed n := by
    rw [names]
    unfold Unobstructed
    decide
  refine ⟨clear, Option.not_isSome_iff_eq_none.1 fun made => ?_⟩
  rw [Py.module_isSome clear] at made
  exact absurd made (by decide +kernel)

end GoGlue
