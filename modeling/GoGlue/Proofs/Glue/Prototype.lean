import GoGlue.Proofs.Abi.Role
import GoGlue.Proofs.Name.Claim
import GoGlue.Proofs.Related
import Mathlib.Data.List.Nodup

/-!
# The identifiers of a prototype

A prototype takes its identifiers from five places: the handle, the parameters, the places where results are
stored, the counts of buffers, and the error. Renaming works on the parameters alone and claims them from the
first to the last, each against the results, their counts, and the parameters and counts before it. A count
is claimed against nothing, and results are not renamed at all. So what can still clash is a count with
something that was there before it, and results with one another or with the error.

* `renameParams_claimed`, `unshadowed_claimed`: what renaming makes sure of.
* `ofSignature_settled`: what holds of every plan with renamed parameters.
* `Settled.nodup_iff`: the identifiers are distinct exactly if nothing of the above clashes.
* `prototype_distinct`: every signature with proper names has an entry point, and this is when its
  identifiers are distinct.
* `prototype_repeated`: a function for which they are not.
-/
namespace GoGlue.Go

/-! ## Identifiers of slots -/

/-- The identifiers that a slot takes in a prototype: its own, and that of its count. -/
def slotNames (s : Slot) : List String :=
  s.name :: if s.shape = .buffer then [lengthName s.name] else []

theorem slotParams_names (s : Slot) : (slotParams s).map (·.name) = slotNames s := by
  by_cases hb : s.shape = .buffer <;> simp [slotParams, slotNames, hb]

theorem outParams_names (s : Slot) : (outParams s).map (·.name) = slotNames s := by
  by_cases hb : s.shape = .buffer <;> simp [outParams, slotNames, hb]

theorem mem_slotNames {s : Slot} {n : String} :
    n ∈ slotNames s ↔ n = s.name ∨ s.shape = .buffer ∧ n = lengthName s.name := by
  by_cases hb : s.shape = .buffer <;> simp [slotNames, hb]

theorem lengthName_toList (name : String) :
    (lengthName name).toList = name.toList ++ ['L', 'e', 'n'] := by
  simp [lengthName]

theorem lengthName_inj {a b : String} : lengthName a = lengthName b ↔ a = b := by
  simp only [← String.toList_inj, lengthName_toList, List.append_cancel_right_eq]

/-- A count is called after what it counts, and its last letter tells it from most other names. -/
theorem lengthName_ne (name : String) {other : String} (h : other.toList.getLast? ≠ some 'n') :
    lengthName name ≠ other := by
  rintro rfl
  simp [lengthName_toList] at h

theorem lengthName_ne_self (name : String) : lengthName name ≠ name := by
  intro e
  simpa [lengthName_toList] using congrArg (·.toList.length) e

/-- Neither slot takes an identifier of the other. -/
def NamedApart (s t : Slot) : Prop :=
  s.name ≠ t.name ∧ (s.shape = .buffer → lengthName s.name ≠ t.name)
    ∧ (t.shape = .buffer → lengthName t.name ≠ s.name)

theorem namedApart_iff (s t : Slot) : NamedApart s t ↔ List.Disjoint (slotNames s) (slotNames t) := by
  constructor
  · rintro ⟨names, left, right⟩ n hs ht
    rcases mem_slotNames.1 hs with rfl | ⟨bs, rfl⟩ <;> rcases mem_slotNames.1 ht with e | ⟨bt, e⟩
    · exact names e
    · exact right bt e.symm
    · exact left bs e
    · exact names (lengthName_inj.1 e)
  · intro h
    refine ⟨fun e => ?_, fun b e => ?_, fun b e => ?_⟩
    · exact h (mem_slotNames.2 (.inl rfl)) (mem_slotNames.2 (.inl e))
    · exact h (mem_slotNames.2 (.inr ⟨b, rfl⟩)) (mem_slotNames.2 (.inl e))
    · exact h (mem_slotNames.2 (.inl rfl)) (mem_slotNames.2 (.inr ⟨b, e.symm⟩))

theorem slotNames_nodup_iff (slots : List Slot) :
    (slots.flatMap slotNames).Nodup ↔ slots.Pairwise NamedApart := by
  have each : ∀ s, (slotNames s).Nodup := by
    intro s
    unfold slotNames
    split <;> simp [(lengthName_ne_self s.name).symm]
  rw [List.nodup_flatMap, List.Pairwise.iff namedApart_iff]
  exact and_iff_right fun s _ => each s

/-! ## Renaming -/

/-- Where a parameter stands to those after it, once they are claimed. -/
def Precedes (s t : Slot) : Prop := t.name ≠ s.name ∧ (s.shape = .buffer → t.name ≠ lengthName s.name)

/-- **What renaming makes sure of**: every parameter is called by a name that was claimed for it, is not
reserved and not taken, and is no identifier of a parameter before it. -/
theorem renameParams_claimed {r : Reserved} {taken : List String} {slots renamed : List Slot}
    (h : renameParams r taken slots = some renamed) :
    (∀ s ∈ renamed, r.contains s.name = false ∧ s.name ∉ taken) ∧ renamed.Pairwise Precedes ∧
      List.Forall₂ (fun s s' => ∃ taken, claim r taken s.name = some s'.name) slots renamed := by
  induction slots generalizing taken renamed with
  | nil => cases h; exact ⟨by simp, .nil, .nil⟩
  | cons s rest ih =>
    simp only [renameParams, bind, Option.bind_eq_some_iff, pure, Option.some.injEq] at h
    obtain ⟨free, hfree, more, hm, rfl⟩ := h
    obtain ⟨unused, later, claims⟩ := ih hm
    refine ⟨?_, List.pairwise_cons.2 ⟨?_, later⟩, .cons ⟨taken, hfree⟩ claims⟩
    · rintro t (- | ⟨-, ht⟩)
      · exact claim_free r taken s.name free hfree
      · exact ⟨(unused t ht).1, fun e => (unused t ht).2 (by simp [e])⟩
    · intro t ht
      refine ⟨fun e => (unused t ht).2 (by simp [e]), fun hb e => (unused t ht).2 ?_⟩
      have buffer : s.shape = .buffer := hb
      simp [e, buffer]

/-- The parameters of a plan can be renamed if none of them begins with an underscore. -/
theorem exists_renameParams {r : Reserved} (beginnings : r.beginnings = ["_"]) {slots : List Slot}
    (h : ∀ s ∈ slots, s.name ≠ "" ∧ beginsWith "_" s.name = false) (taken : List String) :
    ∃ renamed, renameParams r taken slots = some renamed := by
  induction slots generalizing taken with
  | nil => exact ⟨[], rfl⟩
  | cons s rest ih =>
    obtain ⟨⟨hn, hu⟩, others⟩ := List.forall_mem_cons.1 h
    obtain ⟨free, hfree⟩ := exists_claim taken beginnings hn hu
    obtain ⟨more, hm⟩ := ih others ((if s.shape = .buffer then [lengthName free] else []) ++ free :: taken)
    exact ⟨{ s with name := free } :: more, by simp [renameParams, hfree, hm]⟩

/-! ## Plans with renamed parameters -/

/-- The parameters are claimed, and the results are stored through parameters that begin like it. -/
structure Settled (plan : CallPlan) : Prop where
  precedes : plan.params.Pairwise Precedes
  /-- No parameter takes an identifier that stands for a result. -/
  stored : ∀ s ∈ plan.params, ∀ t ∈ plan.results, s.name ≠ t.name ∧ s.name ≠ lengthName t.name
  /-- No parameter is called like what the entry point declares for itself. -/
  unglued : ∀ s ∈ plan.params, s.name ∉ glueNames
  outputs : ∀ s ∈ plan.results, beginsWith "out" s.name = true

theorem paramSlots_names {structs : StructNames} {ps : List Param} {index : Nat} {slots : List Slot}
    (h : CallPlan.paramSlots structs index ps = .ok slots) :
    ∀ s ∈ slots, ∃ p ∈ ps, ∃ i, s.name = parameterName p.name i := by
  induction ps generalizing index slots with
  | nil => cases h; simp
  | cons p rest ih =>
    obtain ⟨tr, shape, more, -, -, -, hr, rfl⟩ := CallPlan.paramSlots_cons h
    rintro s (- | ⟨-, hs⟩)
    · exact ⟨p, by simp, index, rfl⟩
    · obtain ⟨q, hq, i, e⟩ := ih hr s hs
      exact ⟨q, by simp [hq], i, e⟩

theorem outName_beginning (p : Param) (count : Nat) :
    beginsWith "out" (CallPlan.outName p count) = true := by
  unfold CallPlan.outName
  split <;> simp [beginsWith]

theorem resultSlots_names {structs : StructNames} {ps : List Param} {index count : Nat}
    {error position : Option Nat} {slots : List Slot}
    (h : CallPlan.resultSlots structs index count error ps = .ok (slots, position)) :
    ∀ s ∈ slots, beginsWith "out" s.name = true := by
  induction ps generalizing index count error slots with
  | nil => cases h; simp
  | cons p rest ih =>
    rcases CallPlan.resultSlots_cons h with h | ⟨tr, shape, more, -, -, -, -, hr, rfl⟩
    · exact ih h
    · exact List.forall_mem_cons.2 ⟨outName_beginning p count, ih hr⟩

/-- A claimed name that an entry point declares for itself was asked for as such. -/
theorem claim_unglued {r : Reserved} {taken : List String} {name free : String}
    (h : claim r taken name = some free) (hn : name ∉ glueNames) : free ∉ glueNames := by
  have last : ∀ n ∈ glueNames, n.toList.getLast? ≠ some '_' := by decide
  intro hf
  exact hn (claim_eq_self h (last free hf) ▸ hf)

theorem unshadowed_claimed {own : String} {plan renamed : CallPlan}
    (h : unshadowed own plan = some renamed) :
    (∀ s ∈ renamed.params, (entryReserved own plan).contains s.name = false ∧
        ∀ t ∈ plan.results, s.name ≠ t.name ∧ s.name ≠ lengthName t.name) ∧
      renamed.params.Pairwise Precedes ∧
      (∀ s' ∈ renamed.params, ∃ s ∈ plan.params, ∃ r taken, claim r taken s.name = some s'.name) := by
  simp only [unshadowed, bind, Option.bind_eq_some_iff, pure, Option.some.injEq] at h
  obtain ⟨params, hp, rfl⟩ := h
  obtain ⟨unused, precedes, claims⟩ := renameParams_claimed hp
  refine ⟨fun s hs => ⟨(unused s hs).1, fun t ht => ?_⟩, precedes, fun s' hs' => ?_⟩
  · have free := (unused s hs).2
    simp only [List.mem_flatMap, List.mem_cons, List.not_mem_nil, or_false, not_exists, not_and,
      not_or] at free
    exact free t ht
  · obtain ⟨s, hs, taken, hc⟩ := exists_related claims hs'
    exact ⟨s, hs, _, taken, hc⟩

/-- **What holds of every plan with renamed parameters.** -/
theorem ofSignature_settled {structs : StructNames} {own : String} {sig : Signature}
    {plan renamed : CallPlan} (h : CallPlan.ofSignature structs sig = .ok plan)
    (hr : unshadowed own plan = some renamed) : Settled renamed := by
  obtain ⟨params, results⟩ := CallPlan.ofSignature_slots h
  obtain ⟨free, precedes, claims⟩ := unshadowed_claimed hr
  have same : renamed.results = plan.results := by rw [(unshadowed_renamed hr).2]
  refine ⟨precedes, ?_, ?_, ?_⟩
  · rw [same]
    exact fun s hs => (free s hs).2
  · intro s' hs'
    obtain ⟨s, hs, r, taken, hc⟩ := claims s' hs'
    obtain ⟨p, -, i, e⟩ := paramSlots_names params s hs
    exact claim_unglued hc (e ▸ parameterName_unglued p.name i)
  · rw [same]
    exact resultSlots_names results

/-! ## Clashes -/

/-- What renaming leaves to chance. -/
structure Clear (plan : CallPlan) : Prop where
  /-- Results, which are called after declared results with a capital, do not meet. -/
  results : plan.results.Pairwise NamedApart
  /-- The error has a name that no result has. -/
  error : plan.hasError = true → ∀ s ∈ plan.results, s.name ≠ "outError"
  /-- No count is called like a parameter before it. -/
  counts : plan.params.Pairwise fun s t => t.shape = .buffer → lengthName t.name ≠ s.name
  /-- No count of a parameter is called like a place where something is stored. -/
  outputs : ∀ s ∈ plan.params, s.shape = .buffer →
    ∀ o ∈ resultParams plan, lengthName s.name ≠ o.name

/-- The identifiers behind the parameters. -/
def outputNames (plan : CallPlan) : List String :=
  (resultParams plan).map (·.name) ++ if plan.hasError then ["outError"] else []

theorem entryParams_names (bound : Bool) (plan : CallPlan) :
    (entryParams bound plan).map (·.name)
      = (if bound then ["handle"] else []) ++ plan.params.flatMap slotNames ++ outputNames plan := by
  have params : (plan.params.flatMap slotParams).map (·.name) = plan.params.flatMap slotNames := by
    simp only [List.map_flatMap, slotParams_names]
  cases bound <;> cases he : plan.hasError <;> simp [entryParams, outputNames, params, he]

/-- What stands behind the parameters is called like a result, like the count of one, or `outLen`. -/
theorem resultParams_name {plan : CallPlan} {o : CParam} (h : o ∈ resultParams plan) :
    o.name = "outLen" ∨ ∃ t ∈ plan.results, o.name = t.name ∨ o.name = lengthName t.name := by
  unfold resultParams at h
  split at h
  · split at h
    · exact .inl (by rw [List.mem_singleton.1 h])
    · cases h
  · obtain ⟨t, ht, ho⟩ := List.mem_flatMap.1 h
    have name : o.name ∈ slotNames t := outParams_names t ▸ List.mem_map_of_mem ho
    rcases mem_slotNames.1 name with e | ⟨-, e⟩
    · exact .inr ⟨t, ht, .inl e⟩
    · exact .inr ⟨t, ht, .inr e⟩

theorem beginsWith_longer {start name : String} (more : String) (h : beginsWith start name = true) :
    beginsWith start (name ++ more) = true := by
  simp only [beginsWith, List.isPrefixOf_iff_prefix, String.toList_append] at h ⊢
  exact h.trans (List.prefix_append _ _)

theorem Settled.output_beginning {plan : CallPlan} (h : Settled plan) {o : CParam}
    (ho : o ∈ resultParams plan) : beginsWith "out" o.name = true := by
  rcases resultParams_name ho with e | ⟨t, ht, e | e⟩
  · rw [e]; decide
  · exact e ▸ h.outputs t ht
  · exact e ▸ beginsWith_longer "Len" (h.outputs t ht)

/-- A parameter takes no identifier behind the parameters. -/
theorem Settled.param_ne_output {plan : CallPlan} (h : Settled plan) {s : Slot} (hs : s ∈ plan.params)
    {o : CParam} (ho : o ∈ resultParams plan) : s.name ≠ o.name := by
  rcases resultParams_name ho with e | ⟨t, ht, e | e⟩
  · rw [e]
    exact fun e => h.unglued s hs (e ▸ by decide)
  · exact e ▸ (h.stored s hs t ht).1
  · exact e ▸ (h.stored s hs t ht).2

/-- Parameters meet only if one is called like the count of a later one. -/
theorem Settled.params_nodup_iff {plan : CallPlan} (h : Settled plan) :
    (plan.params.flatMap slotNames).Nodup ↔
      plan.params.Pairwise fun s t => t.shape = .buffer → lengthName t.name ≠ s.name := by
  rw [slotNames_nodup_iff]
  constructor
  · exact List.Pairwise.imp fun apart => apart.2.2
  · intro counts
    refine (h.precedes.and counts).imp ?_
    rintro s t ⟨⟨name, count⟩, later⟩
    exact ⟨name.symm, fun hb => (count hb).symm, later⟩

/-- Behind the parameters, results meet one another or the error. -/
theorem outputNames_nodup_iff {plan : CallPlan} :
    (outputNames plan).Nodup ↔
      plan.results.Pairwise NamedApart ∧ (plan.hasError = true → ∀ s ∈ plan.results, s.name ≠ "outError") := by
  cases hr : plan.returned with
  | some s =>
    -- the only result is returned, and there is no error
    have only := CallPlan.returned_results hr
    have noError : plan.hasError = false := by
      unfold CallPlan.returned at hr
      split at hr
      · next e _ => simp [CallPlan.hasError, e]
      · cases hr
    by_cases hb : s.shape = .buffer <;> simp [outputNames, resultParams, hr, hb, only, noError]
  | none =>
    have names : (resultParams plan).map (·.name) = plan.results.flatMap slotNames := by
      simp only [resultParams, hr, List.map_flatMap, outParams_names]
    have error : "outError" ∈ plan.results.flatMap slotNames ↔ ∃ s ∈ plan.results, s.name = "outError" := by
      simp only [List.mem_flatMap, mem_slotNames]
      refine exists_congr fun s => and_congr_right fun _ => ⟨?_, fun e => .inl e.symm⟩
      rintro (e | ⟨-, e⟩)
      · exact e.symm
      · exact absurd e.symm (lengthName_ne s.name (by decide))
    rw [outputNames, names, List.nodup_append', slotNames_nodup_iff]
    cases he : plan.hasError with
    | false => simp
    | true => simp [error]

/-- The handle and the error are no parameters and no counts of parameters. -/
theorem Settled.glue_notMem {plan : CallPlan} (h : Settled plan) {n : String} (hn : n ∈ glueNames)
    (last : n.toList.getLast? ≠ some 'n') : n ∉ plan.params.flatMap slotNames := by
  intro hm
  obtain ⟨s, hs, hm⟩ := List.mem_flatMap.1 hm
  rcases mem_slotNames.1 hm with e | ⟨-, e⟩
  · exact h.unglued s hs (e ▸ hn)
  · exact lengthName_ne s.name last e.symm

theorem Settled.handle_notMem {plan : CallPlan} (h : Settled plan) : "handle" ∉ outputNames plan := by
  rw [outputNames, List.mem_append, not_or]
  refine ⟨fun hm => ?_, by split <;> simp⟩
  obtain ⟨o, ho, e⟩ := List.mem_map.1 hm
  have begins := h.output_beginning ho
  rw [e] at begins
  exact absurd begins (by decide)

/-- What the parameters share with what is behind them are counts that are called like an output. -/
theorem Settled.disjoint_iff {plan : CallPlan} (h : Settled plan) :
    (plan.params.flatMap slotNames).Disjoint (outputNames plan) ↔
      ∀ s ∈ plan.params, s.shape = .buffer → ∀ o ∈ resultParams plan, lengthName s.name ≠ o.name := by
  constructor
  · intro apart s hs hb o ho e
    refine apart (List.mem_flatMap.2 ⟨s, hs, mem_slotNames.2 (.inr ⟨hb, rfl⟩)⟩) ?_
    exact e ▸ List.mem_append_left _ (List.mem_map_of_mem ho)
  · intro outputs n hp ho
    rcases List.mem_append.1 ho with ho | ho
    · obtain ⟨o, hm, rfl⟩ := List.mem_map.1 ho
      obtain ⟨s, hs, hn⟩ := List.mem_flatMap.1 hp
      rcases mem_slotNames.1 hn with e | ⟨hb, e⟩
      · exact h.param_ne_output hs hm e.symm
      · exact outputs s hs hb o hm e.symm
    · split at ho
      · rw [List.mem_singleton.1 ho] at hp
        exact h.glue_notMem (by decide) (by decide) hp
      · cases ho

/-- **The identifiers of a prototype are distinct exactly if nothing clashes** that renaming leaves to
chance. -/
theorem Settled.nodup_iff {plan : CallPlan} (h : Settled plan) (bound : Bool) :
    ((entryParams bound plan).map (·.name)).Nodup ↔ Clear plan := by
  have receiver : ((if bound then ["handle"] else []) : List String).Nodup := by cases bound <;> simp
  have apart : ((if bound then ["handle"] else []) : List String).Disjoint
      (plan.params.flatMap slotNames ++ outputNames plan) := by
    have free : "handle" ∉ plan.params.flatMap slotNames ++ outputNames plan := by
      rw [List.mem_append, not_or]
      exact ⟨h.glue_notMem (by decide) (by decide), h.handle_notMem⟩
    cases bound
    · simp
    · simpa using free
  rw [entryParams_names, List.append_assoc, List.nodup_append', List.nodup_append',
    h.params_nodup_iff, h.disjoint_iff, outputNames_nodup_iff]
  constructor
  · rintro ⟨-, ⟨counts, ⟨results, error⟩, outputs⟩, -⟩
    exact ⟨results, error, counts, outputs⟩
  · rintro ⟨results, error, counts, outputs⟩
    exact ⟨receiver, ⟨counts, ⟨results, error⟩, outputs⟩, apart⟩

/-! ## Signatures -/

/-- The parameters of a signature can be renamed if no declared name begins with an underscore. -/
theorem exists_unshadowed {structs : StructNames} {sig : Signature} {plan : CallPlan} (own : String)
    (h : CallPlan.ofSignature structs sig = .ok plan)
    (names : ∀ p ∈ sig.params, p.name ≠ "_" → beginsWith "_" p.name = false) :
    ∃ renamed, unshadowed own plan = some renamed := by
  have proper : ∀ s ∈ plan.params, s.name ≠ "" ∧ beginsWith "_" s.name = false := by
    intro s hs
    obtain ⟨p, hp, i, e⟩ := paramSlots_names (CallPlan.ofSignature_slots h).1 s hs
    rw [e]
    exact ⟨parameterName_ne_empty p.name i, parameterName_beginning i (names p hp)⟩
  obtain ⟨params, hp⟩ := exists_renameParams (r := entryReserved own plan) rfl proper
    (plan.results.flatMap fun s => [s.name, lengthName s.name])
  exact ⟨{ plan with params }, by simp [unshadowed, hp]⟩

/-- **Every signature whose names do not begin with an underscore has an entry point, and the identifiers
of its prototype are distinct exactly if nothing clashes that renaming leaves to chance.** -/
theorem prototype_distinct {structs : StructNames} {sig : Signature} {plan : CallPlan}
    {own symbol : String} {receiver : Option Receiver} {invoke : Invoke}
    (h : CallPlan.ofSignature structs sig = .ok plan)
    (names : ∀ p ∈ sig.params, p.name ≠ "_" → beginsWith "_" p.name = false) :
    ∃ renamed e, unshadowed own plan = some renamed ∧ entryOf own symbol receiver invoke plan = some e ∧
      e.params = entryParams receiver.isSome renamed ∧
      ((e.params.map (·.name)).Nodup ↔ Clear renamed) := by
  obtain ⟨renamed, hr⟩ := exists_unshadowed own h names
  have made : entryOf own symbol receiver invoke plan
      = some ⟨symbol, entryParams receiver.isSome renamed, renamed.returned.map slotToken,
        body own receiver invoke renamed⟩ := by
    simp [entryOf, hr]
  exact ⟨renamed, _, hr, made, rfl, (ofSignature_settled h hr).nodup_iff receiver.isSome⟩

/-- A method that reads rows of a table: `Scan(len int, data []byte) (rows []string, err error)`. -/
def scan : Signature :=
  ⟨[⟨"len", .primitive "int"⟩, ⟨"data", .slice (.primitive "byte")⟩],
    [⟨"rows", .slice .string⟩, ⟨"err", .error⟩], false⟩

theorem prototype_distinct_scan :
    ∃ plan renamed e, CallPlan.ofSignature [] scan = .ok plan ∧
      (∀ p ∈ scan.params, p.name ≠ "_" → beginsWith "_" p.name = false) ∧
      entryOf "table" "Table_Scan" (some ⟨"Table", ownType "table" "Table", true⟩) (.method "Scan") plan
        = some e ∧
      e.params.map (·.name)
        = ["handle", "len_", "data", "dataLen", "outRows", "outRowsLen", "outError"] ∧
      Clear renamed := by
  have seen : ((CallPlan.ofSignature [] scan).toOption.bind fun plan =>
      (entryOf "table" "Table_Scan" (some ⟨"Table", ownType "table" "Table", true⟩) (.method "Scan")
        plan).map fun e => e.params.map (·.name))
      = some ["handle", "len_", "data", "dataLen", "outRows", "outRowsLen", "outError"] := by
    decide +kernel
  have names : ∀ p ∈ scan.params, p.name ≠ "_" → beginsWith "_" p.name = false := by decide
  cases hp : CallPlan.ofSignature [] scan with
  | error e => simp [hp, Except.toOption] at seen
  | ok plan =>
    obtain ⟨renamed, e, -, he, -, distinct⟩ := @prototype_distinct [] scan plan "table" "Table_Scan"
      (some ⟨"Table", ownType "table" "Table", true⟩) (.method "Scan") hp names
    have shown : e.params.map (·.name)
        = ["handle", "len_", "data", "dataLen", "outRows", "outRowsLen", "outError"] := by
      simpa [hp, Except.toOption, he] using seen
    exact ⟨plan, renamed, e, rfl, names, he, shown, distinct.1 (shown ▸ by decide)⟩

/-- A function whose only parameter is called like the place of its result:
`Merge(out []int) []int`. -/
def merge : Signature :=
  ⟨[⟨"out", .slice (.primitive "int")⟩], [.unnamed (.slice (.primitive "int"))], false⟩

/-- **A prototype may repeat an identifier** although the declared names are distinct. -/
theorem prototype_repeated :
    (((merge.params ++ merge.results).map (·.name)).filter (· ∉ ["", "_"])).Nodup ∧
      (∀ p ∈ merge.params ++ merge.results, p.name ≠ "_" → beginsWith "_" p.name = false) ∧
      ∃ plan e, CallPlan.ofSignature [] merge = .ok plan ∧
        entryOf "geo" "geo_Merge" none (.func (.qualified (.own "geo") "Merge")) plan = some e ∧
        e.params.map (·.name) = ["out", "outLen", "outLen"] ∧ ¬ (e.params.map (·.name)).Nodup := by
  have seen : ((CallPlan.ofSignature [] merge).toOption.bind fun plan =>
      (entryOf "geo" "geo_Merge" none (.func (.qualified (.own "geo") "Merge")) plan).map fun e =>
        e.params.map (·.name)) = some ["out", "outLen", "outLen"] := by decide +kernel
  refine ⟨by decide, by decide, ?_⟩
  obtain ⟨plan, hp, he⟩ := Option.bind_eq_some_iff.1 seen
  obtain ⟨e, he, names⟩ := Option.map_eq_some_iff.1 he
  cases h : CallPlan.ofSignature [] merge with
  | error e => simp [h, Except.toOption] at hp
  | ok made =>
    simp only [h, Except.toOption, Option.some.injEq] at hp
    exact ⟨plan, e, congrArg Except.ok hp, he, names, names ▸ by decide⟩

end GoGlue.Go
