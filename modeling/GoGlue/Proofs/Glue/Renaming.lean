import GoGlue.Proofs.Glue.Aside
import GoGlue.Proofs.Glue.Scope

/-!
# Renaming is sound

An entry point works on a plan whose parameters were renamed one after the other, each against what is reserved
and what is taken by then. Writing underscores after a name has to lead out of all of it at once: the names
that the body refers to, the packages of all types, the places of the results and their counts, the parameters
before it and their counts, the numbered variables, and whatever begins with an underscore. The last is where
the locals of a body live, so it is also what keeps them apart: the local of a parameter is its name with an
underscore before it.

* `SoundRenaming`: what a plan and its renamed form have to do with one another.
* `renaming_sound`: a plan without leading underscores is renamed, and soundly so.
-/
namespace GoGlue.Go

variable {own : String} {structs : StructNames} {plan renamed : CallPlan}

/-! ## Parameters -/

/-- The plan of a member of a package: of a function or method, of a getter, or of a setter. -/
def Accepted (structs : StructNames) (plan : CallPlan) : Prop :=
  (∃ sig, CallPlan.ofSignature structs sig = .ok plan) ∨ (∃ t, CallPlan.ofGetter structs t = .ok plan)
    ∨ ∃ t, CallPlan.ofSetter structs t = .ok plan

/-- The same slot, with underscores after its name. -/
def Lengthened (s s' : Slot) : Prop :=
  s' = { s with name := s'.name } ∧ ∃ k, s'.name.toList = s.name.toList ++ List.replicate k '_'

theorem unshadowed_lengthened (h : unshadowed own plan = some renamed) :
    List.Forall₂ Lengthened plan.params renamed.params := by
  have same := (unshadowed_renamed h).1
  simp only [unshadowed, bind, Option.bind_eq_some_iff, pure, Option.some.injEq] at h
  obtain ⟨params, hp, rfl⟩ := h
  refine List.Forall₂.mp ?_ same (renameParams_claimed hp).2.2
  rintro s s' same ⟨taken, claimed⟩
  exact ⟨same, claim_eq_append claimed⟩

/-- No parameter of a plan is without a name. -/
theorem Accepted.named (h : Accepted structs plan) : ∀ s ∈ plan.params, s.name ≠ "" := by
  have laid : ∀ {sig : Signature}, CallPlan.ofSignature structs sig = .ok plan →
      ∀ s ∈ plan.params, s.name ≠ "" := by
    intro sig hs s hm
    obtain ⟨p, -, i, e⟩ := paramSlots_names (CallPlan.ofSignature_slots hs).1 s hm
    exact e ▸ parameterName_ne_empty p.name i
  rcases h with ⟨sig, hs⟩ | ⟨t, hs⟩ | ⟨t, hs⟩
  · exact laid hs
  · exact laid hs
  · obtain ⟨setter, -, rfl⟩ := ok_of_map hs
    intro s hm
    obtain ⟨_, -, rfl⟩ := List.mem_map.1 hm
    exact (by decide : "value" ≠ "")

/-- A parameter that does not begin with an underscore can be renamed, so the plan can. -/
theorem Accepted.exists_unshadowed (own : String) (h : Accepted structs plan)
    (names : ∀ s ∈ plan.params, beginsWith "_" s.name = false) :
    ∃ renamed, unshadowed own plan = some renamed := by
  obtain ⟨params, hp⟩ := exists_renameParams (r := entryReserved own plan) rfl
    (fun s hs => ⟨h.named s hs, names s hs⟩) (plan.results.flatMap fun s => [s.name, lengthName s.name])
  exact ⟨{ plan with params }, by simp [unshadowed, hp]⟩

/-- What is stored through a renamed plan has a name that no parameter has. -/
theorem unshadowed_outputs (h : Accepted structs plan) (hr : unshadowed own plan = some renamed) :
    ∀ s ∈ renamed.params, s.name ∉ outputNames renamed := by
  have laid : ∀ {sig : Signature}, CallPlan.ofSignature structs sig = .ok plan →
      ∀ s ∈ renamed.params, s.name ∉ outputNames renamed := by
    intro sig hs s hm
    have settled := ofSignature_settled hs hr
    rw [outputNames, List.mem_append, not_or]
    refine ⟨fun ho => ?_, fun he => settled.unglued s hm ?_⟩
    · obtain ⟨o, ho, e⟩ := List.mem_map.1 ho
      exact settled.param_ne_output hm ho e.symm
    · split at he
      · rw [List.mem_singleton.1 he]
        decide
      · cases he
  rcases h with ⟨sig, hs⟩ | ⟨t, hs⟩ | ⟨t, hs⟩
  · exact laid hs
  · exact laid hs
  · -- a setter has neither results nor an error
    obtain ⟨setter, made, rfl⟩ := ok_of_map hs
    have none : setter.results = [] ∧ setter.errorPosition = none := by
      have slots := (CallPlan.ofSignature_slots made).2
      simpa [CallPlan.resultSlots, eq_comm] using slots
    have same := (unshadowed_renamed hr).2
    intro s _
    rw [same]
    simp [outputNames, resultParams, CallPlan.returned, CallPlan.hasError, none]

/-- Everything that is reserved, said of a parameter. -/
theorem unshadowed_reserved (hr : unshadowed own plan = some renamed) :
    ∀ s ∈ renamed.params, s.name ∉ goReserved ∧ s.name ≠ own ∧
      ∀ t ∈ plan.params ++ plan.results, ∀ n ∈ t.type.nodes, n.package ≠ some s.name := by
  intro s hs
  have claimed := ((unshadowed_claimed hr).1 s hs).1
  simp only [Reserved.contains, Reserved.holds, Bool.or_eq_false_iff] at claimed
  have free : s.name ∉ (entryReserved own plan).names := by simpa using claimed.1.1
  rw [entryReserved, List.mem_append, List.mem_cons, not_or, not_or] at free
  refine ⟨free.1, free.2.1, fun t ht n hn package => free.2.2 ?_⟩
  exact List.mem_flatMap.2 ⟨t, ht, nodes_qualified t.type n hn s.name package⟩

/-! ## Locals -/

theorem localOf_inj {a b : String} : localOf a = localOf b ↔ a = b := by
  simp [localOf, ← String.toList_inj]

theorem bufferName_toList (k : Nat) : (bufferName k).toList = '_' :: 'c' :: Nat.toDigits 10 k := by
  simp [bufferName, Nat.toString_eq_repr, Nat.toList_repr]

/-- The locals that have the same name in every body. -/
def bodyLocals : List String := ["_obj", "_recv", "_err", "_i", "_v"]

/-- The local of the parameter is none that a body declares for itself. -/
def LocalApart (n : String) : Prop :=
  localOf n ∉ bodyLocals ∧ ∀ k, localOf n ≠ resultName k ∧ localOf n ≠ bufferName k

theorem FreeName.local_apart {n : String} (h : FreeName plan n) (free : n ∉ goReserved) : LocalApart n := by
  have made : ∀ l ∈ bodyLocals, ∃ m ∈ goReserved, l = localOf m := by decide
  refine ⟨fun hm => ?_, fun k => ⟨(h.local_noResult k).symm, fun e => ?_⟩⟩
  · obtain ⟨m, hm, e⟩ := made _ hm
    exact free (localOf_inj.1 e ▸ hm)
  · exact h.local_unnumbered (.inr rfl) k (e ▸ bufferName_toList k)

/-- The locals that code declares at its top, in order. -/
def Stmt.opened : List Stmt → List String
  | [] => []
  | .define names _ :: rest => names ++ opened rest
  | .declare name _ :: rest => name :: opened rest
  | .expr _ :: rest | .assign _ _ :: rest | .ret _ :: rest | .ifs _ _ :: rest
  | .range _ _ _ _ :: rest => opened rest

-- generated code is spelled out in full here, down to the declarations in its parts
attribute [local simp] Stmt.opened

theorem Stmt.opened_append (ss ts : List Stmt) : opened (ss ++ ts) = opened ss ++ opened ts := by
  induction ss with
  | nil => rfl
  | cons s rest ih => cases s <;> simp [ih]

theorem Stmt.opened_eq_nil {code : List Stmt} (h : ∀ s ∈ code, opened [s] = []) : opened code = [] := by
  induction code with
  | nil => rfl
  | cons s rest ih =>
    obtain ⟨here, there⟩ := List.forall_mem_cons.1 h
    rw [← List.singleton_append, opened_append, here, ih there, List.nil_append]

theorem receiveStep_opened (plan : CallPlan) (receiver : Option Receiver) :
    (Stmt.opened (receiveStep plan receiver)).Sublist ["_obj"] := by
  cases receiver <;> simp [receiveStep]

/-- A parameter is converted into its local, or where it is used. -/
theorem argument_opened (own : String) (s : Slot) :
    (Stmt.opened (argument own s).1).Sublist [localOf s.name] := by
  unfold argument
  cases s.shape with
  | scalar => simp
  | buffer => cases s.isBytes <;> cases s.elem <;> simp
  | fixed n => cases s.elem <;> simp
  | pointer => simp

theorem convertStep_opened (own : String) (plan : CallPlan) :
    (Stmt.opened (convertStep own plan)).Sublist (plan.params.map (localOf ·.name)) := by
  unfold convertStep
  induction plan.params with
  | nil => simp
  | cons s rest ih =>
    rw [List.flatMap_cons, Stmt.opened_append]
    exact (argument_opened own s).append ih

/-- The names are those of variables that the results of a call are assigned to. -/
def Assigned (names : List String) : Prop :=
  names.Nodup ∧ ∀ n ∈ names, n = "_err" ∨ ∃ k, n = resultName k

theorem resultNames_assigned (plan : CallPlan) : Assigned (resultNames plan) := by
  refine ⟨resultNames_nodup plan, fun n hn => ?_⟩
  have counted : n ∈ (List.range plan.results.length).map resultName → ∃ k, n = resultName k := by
    intro hn
    obtain ⟨k, -, rfl⟩ := List.mem_map.1 hn
    exact ⟨k, rfl⟩
  unfold resultNames at hn
  split at hn
  · exact .inr (counted hn)
  · exact (List.eq_or_mem_of_mem_insertIdx hn).imp_right counted

theorem assignResults_opened (plan : CallPlan) (call : Expr) :
    Stmt.opened [assignResults plan call] = resultNames plan := by
  unfold assignResults
  split
  · next e => simp [e]
  · simp

theorem callStep_opened (own : String) (receiver : Option Receiver) (plan : CallPlan) (invoke : Invoke) :
    ∃ names, Assigned names ∧
      (Stmt.opened (callStep own receiver plan invoke)).Sublist ("_recv" :: names) := by
  have results := resultNames_assigned plan
  cases invoke with
  | func callee => exact ⟨_, results, by simp [callStep, assignResults_opened]⟩
  | method name =>
    refine ⟨_, results, ?_⟩
    unfold callStep
    dsimp only
    split <;> simp [assignResults_opened]
  | read field =>
    exact ⟨["_r0"], ⟨List.nodup_singleton _, by simpa using ⟨0, rfl⟩⟩, by simp [callStep]⟩
  | write field =>
    have none : Stmt.opened (callStep own receiver plan (.write field)) = [] :=
      Stmt.opened_eq_nil (by simp [callStep])
    exact ⟨[], ⟨List.nodup_nil, by simp⟩, by simp [none]⟩

theorem bufferIntoC_opened (s : Slot) (var : String) (k : Nat) :
    (Stmt.opened (bufferIntoC s var k).1).Sublist [bufferName k] := by
  unfold bufferIntoC
  cases s.isBytes <;> cases s.elem <;> simp [bufferName]

theorem resultStep_opened (plan : CallPlan) :
    (Stmt.opened (resultStep plan)).Sublist [bufferName 0] := by
  unfold resultStep
  cases plan.returned with
  | none =>
    have none : Stmt.opened (plan.results.mapIdx fun k s => storeResult s k) = [] := by
      refine Stmt.opened_eq_nil fun s hs => ?_
      obtain ⟨k, hk, rfl⟩ := List.mem_mapIdx.1 hs
      simp [storeResult]
    simp [none]
  | some s =>
    have copied := bufferIntoC_opened s "_r0" 0
    unfold returnResult
    cases hs : s.shape <;> simp [hs, Stmt.opened_append, copied]

/-- **The locals that a body declares at its top**, in the order of its steps. -/
theorem body_opened (own : String) (receiver : Option Receiver) (invoke : Invoke) (plan : CallPlan) :
    ∃ names, Assigned names ∧ (Stmt.opened (body own receiver invoke plan)).Sublist
      ("_obj" :: plan.params.map (localOf ·.name) ++ "_recv" :: names ++ [bufferName 0]) := by
  obtain ⟨names, assigned, call⟩ := callStep_opened own receiver plan invoke
  have clear : Stmt.opened (clearStep plan) = [] := by
    cases h : plan.hasError <;> simp [clearStep, h, setError]
  have back : Stmt.opened (writeBackStep plan) = [] := by
    refine Stmt.opened_eq_nil fun s hs => ?_
    obtain ⟨x, -, rfl⟩ := List.mem_map.1 hs
    simp
  have error : Stmt.opened (errorStep plan) = [] := by
    cases h : plan.hasError <;> simp [errorStep, h]
  refine ⟨names, assigned, ?_⟩
  simp only [body, Stmt.opened_append, clear, back, error, List.nil_append, List.append_nil]
  exact (((receiveStep_opened plan receiver).append (convertStep_opened own plan)).append call).append
    (resultStep_opened plan)

theorem bodyLocals_unnumbered {n : String} (h : n ∈ bodyLocals) (k : Nat) :
    n ≠ resultName k ∧ n ≠ bufferName k := by
  have last : ∀ n ∈ bodyLocals, n.toList.getLast?.any Char.isDigit = false := by decide
  have letter : ∀ n ∈ bodyLocals, n.toList[1]? ≠ some 'c' := by decide
  refine ⟨(noResult_of_last (last n h) k).symm, fun e => letter n h ?_⟩
  rw [e, bufferName_toList]
  rfl

/-- A body declares no local twice if the locals of its parameters are distinct, and apart from its own. -/
theorem body_opened_nodup (locals : (plan.params.map (localOf ·.name)).Nodup)
    (apart : ∀ s ∈ plan.params, LocalApart s.name) (receiver : Option Receiver) (invoke : Invoke) :
    (Stmt.opened (body own receiver invoke plan)).Nodup := by
  obtain ⟨names, ⟨distinct, assigned⟩, opened⟩ := body_opened own receiver invoke plan
  refine opened.nodup ?_
  have call : ∀ n ∈ "_recv" :: names, n ∈ bodyLocals ∧ n ≠ "_obj" ∨ ∃ k, n = resultName k := by
    rintro n (- | ⟨-, hn⟩)
    · exact .inl (by decide)
    · rcases assigned n hn with rfl | numbered
      · exact .inl (by decide)
      · exact .inr numbered
  have recv : "_recv" ∉ names := by
    intro hm
    rcases assigned _ hm with e | ⟨k, e⟩
    · exact absurd e (by decide)
    · exact (bodyLocals_unnumbered (by decide) k).1 e
  have obj : "_obj" ∉ plan.params.map (localOf ·.name) := by
    intro hm
    obtain ⟨s, hs, e⟩ := List.mem_map.1 hm
    exact (apart s hs).1 (e ▸ by decide)
  refine List.nodup_append'.2 ⟨List.nodup_append'.2 ⟨List.nodup_cons.2 ⟨obj, locals⟩,
    List.nodup_cons.2 ⟨recv, distinct⟩, fun n hn hc => ?_⟩, List.nodup_singleton _, fun n hn hc => ?_⟩
  · rcases List.mem_cons.1 hn with rfl | hn
    · rcases call _ hc with ⟨-, other⟩ | ⟨k, e⟩
      · exact other rfl
      · exact (bodyLocals_unnumbered (by decide) k).1 e
    · obtain ⟨s, hs, rfl⟩ := List.mem_map.1 hn
      rcases call _ hc with ⟨fixed, -⟩ | ⟨k, e⟩
      · exact (apart s hs).1 fixed
      · exact ((apart s hs).2 k).1 e
  · obtain rfl := List.mem_singleton.1 hc
    rcases List.mem_append.1 hn with hn | hn
    · rcases List.mem_cons.1 hn with e | hn
      · exact (bodyLocals_unnumbered (by decide) 0).2 e.symm
      · obtain ⟨s, hs, e⟩ := List.mem_map.1 hn
        exact ((apart s hs).2 0).2 e
    · rcases call _ hn with ⟨fixed, -⟩ | ⟨k, e⟩
      · exact (bodyLocals_unnumbered fixed 0).2 rfl
      · exact resultName_ne_of_second (bufferName_second 0) k e.symm

/-! ## Plans -/

/-- **What a plan and its renamed form have to do with one another.** -/
structure SoundRenaming (own : String) (plan renamed : CallPlan) : Prop where
  /-- Parameters keep their order, types, strategies and shapes. -/
  params : List.Forall₂ Lengthened plan.params renamed.params
  /-- Nothing else changes, so what is returned directly still is. -/
  others : renamed.results = plan.results ∧ renamed.errorPosition = plan.errorPosition ∧
    renamed.direct = plan.direct
  distinct : (renamed.params.map (·.name)).Nodup
  /-- No parameter is called like a place where something is stored, or like the count of a result. -/
  outputs : ∀ s ∈ renamed.params, s.name ∉ outputNames renamed ∧
    ∀ r ∈ plan.results, s.name ≠ r.name ∧ s.name ≠ lengthName r.name
  /-- No parameter hides what the body may refer to: no package occurs in a type under its name. -/
  visible : ∀ s ∈ renamed.params, s.name ∉ goReserved ∧ s.name ≠ own ∧
    ∀ t ∈ plan.params ++ plan.results, ∀ n ∈ t.type.nodes, n.package ≠ some s.name
  /-- The locals of the parameters are distinct. -/
  locals : (renamed.params.map (localOf ·.name)).Nodup
  apart : ∀ s ∈ renamed.params, LocalApart s.name
  /-- Whatever the plan is for, its body declares no local twice. -/
  opened : ∀ receiver invoke, (Stmt.opened (body own receiver invoke renamed)).Nodup

/-- **Renaming is sound.** Every plan of a member of a package can be renamed if none of its parameters begins
with an underscore, and what comes of it is as it should be. -/
theorem renaming_sound (own : String) (h : Accepted structs plan)
    (names : ∀ s ∈ plan.params, beginsWith "_" s.name = false) :
    ∃ renamed, unshadowed own plan = some renamed ∧ SoundRenaming own plan renamed := by
  obtain ⟨renamed, hr⟩ := h.exists_unshadowed own names
  have same := (unshadowed_renamed hr).2
  obtain ⟨claimed, precedes, -⟩ := unshadowed_claimed hr
  have reserved := unshadowed_reserved hr
  have distinct : renamed.params.Pairwise fun s t => s.name ≠ t.name :=
    precedes.imp fun before => before.1.symm
  have apart : ∀ s ∈ renamed.params, LocalApart s.name := fun s hs =>
    (unshadowed_free hr s hs).local_apart (reserved s hs).1
  have locals : (renamed.params.map (localOf ·.name)).Nodup :=
    List.pairwise_map.2 (distinct.imp fun other e => other (localOf_inj.1 e))
  exact ⟨renamed, hr, {
    params := unshadowed_lengthened hr
    others := by rw [same]; exact ⟨rfl, rfl, rfl⟩
    distinct := List.pairwise_map.2 distinct
    outputs := fun s hs => ⟨unshadowed_outputs h hr s hs, (claimed s hs).2⟩
    visible := reserved
    locals
    apart
    opened := body_opened_nodup locals apart }⟩

/-- A function that needs every kind of renaming:
`Trip(r0 map[string]time.Time, time, time_ []int, obj *Leg) (rows []int, err error)` of the package
`trip`. -/
def trip : Signature :=
  ⟨[⟨"r0", .map .string (.qualified "time" "Time")⟩, ⟨"time", .slice (.primitive "int")⟩,
      ⟨"time_", .slice (.primitive "int")⟩, ⟨"obj", .pointer (.struct "Leg")⟩],
    [⟨"rows", .slice (.primitive "int")⟩, ⟨"err", .error⟩], false⟩

theorem renaming_sound_trip :
    ∃ plan renamed, Accepted ["Leg"] plan ∧ (∀ s ∈ plan.params, beginsWith "_" s.name = false) ∧
      unshadowed "trip" plan = some renamed ∧
      renamed.params.map (·.name) = ["r0_", "time_", "time__", "obj_"] ∧
      SoundRenaming "trip" plan renamed := by
  have seen : ((CallPlan.ofSignature ["Leg"] trip).toOption.bind fun plan =>
      (unshadowed "trip" plan).map fun renamed =>
        (plan.params.map (beginsWith "_" ·.name), renamed.params.map (·.name)))
      = some ([false, false, false, false], ["r0_", "time_", "time__", "obj_"]) := by
    decide +kernel
  cases hp : CallPlan.ofSignature ["Leg"] trip with
  | error e => simp [hp, Except.toOption] at seen
  | ok plan =>
    simp only [hp, Except.toOption, Option.bind_some] at seen
    obtain ⟨shown, hs, named⟩ := Option.map_eq_some_iff.1 seen
    obtain ⟨plain, called⟩ := Prod.mk.inj named
    have names : ∀ s ∈ plan.params, beginsWith "_" s.name = false := by
      intro s hm
      have listed : beginsWith "_" s.name ∈ [false, false, false, false] :=
        plain ▸ List.mem_map_of_mem hm
      simpa using listed
    obtain ⟨renamed, hr, sound⟩ := renaming_sound "trip" (.inl ⟨trip, hp⟩) names
    obtain rfl := Option.some.inj (hs.symm.trans hr)
    exact ⟨plan, shown, .inl ⟨trip, hp⟩, names, hr, called, sound⟩

end GoGlue.Go
