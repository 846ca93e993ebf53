import GoGlue.Proofs.Abi.Places
import GoGlue.Proofs.PyModule.Members
import Mathlib.Data.List.Pairwise

/-!
# The locals of a body

The body of a definition keeps what it makes of a parameter in a local that is called like the parameter, with
an underscore before it, and the number of elements in one that is called like that local, with `_len` after
it. The places for results are called in the same way after the results. Of all these names only those of the
parameters are claimed: against the names of the results, and against each other, but not against counts. So a
local may have two owners, if a name ends in `_len`.

* `parameterNames_proper`: what claiming makes sure of.
* `callBody_assigned`: the locals that a body assigns, in order.
* `assigned_nodup_iff`: no local has two owners exactly if nothing clashes that claiming leaves to chance.
-/
namespace GoGlue.Py

variable {structs : StructNames} {sig : Signature} {plan : CallPlan} {names : List String}

/-! ## Names of parameters -/

/-- What the names of the parameters of a definition keep clear of. -/
structure ProperNames (structs : StructNames) (plan : CallPlan) (names : List String) : Prop where
  distinct : names.Nodup
  /-- No name of the module, no builtin that a body calls, no class of `ctypes` and no local of a body. -/
  unreserved : ∀ n ∈ names, pythonReserved.contains n = false ∧ n ∉ ["self", "res", "err"]
  nonKeyword : ∀ n ∈ names, n ∉ pythonKeywords
  /-- No class, unless it is called otherwise than its struct. -/
  classes : ∀ n ∈ names, n ∉ structs ∧ ∀ struct ∈ structs, className struct = struct → n ≠ className struct
  nonempty : ∀ n ∈ names, n ≠ ""
  apart : ∀ n ∈ names, ∀ t ∈ plan.results, n ≠ t.name

theorem pythonIdent_cases (name : String) :
    pythonIdent name = name ∧ name ∉ pythonKeywords ∨ pythonIdent name = name ++ "_" := by
  unfold pythonIdent
  split
  · exact .inr rfl
  · exact .inl ⟨rfl, ‹_›⟩

theorem claim_nonKeyword {r : Reserved} {taken : List String} {name n : String}
    (h : claim r taken (pythonIdent name) = some n) : n ∉ pythonKeywords := by
  have last : ∀ k ∈ pythonKeywords, k.toList.getLast? ≠ some '_' := by decide
  intro hk
  have same := claim_eq_self h (last n hk)
  rcases pythonIdent_cases name with ⟨e, free⟩ | e
  · exact free (e ▸ same ▸ hk)
  · exact last n hk (by simp [same, e])

/-- What is reserved names no parameter. -/
theorem parameterNames_unreserved (hn : parameterNames structs plan = some names) : ∀ n ∈ names,
    pythonReserved.contains n = false ∧ n ∉ ["self", "res", "err"] ∧ n ∉ structs := by
  intro n hm
  have unused := ((claimAll_claimed hn).2.1 n hm).1
  simp only [Reserved.contains, Reserved.holds, Bool.or_eq_false_iff] at unused
  have apart : n ∉ pythonReserved.names ++ ["self", "res", "err"] ++ structs := by
    simpa [parameterReserved] using unused.1.1
  rw [List.mem_append, List.mem_append, not_or, not_or] at apart
  refine ⟨?_, apart.1.2, apart.2⟩
  have blocked : pythonReserved.blocks n = false := unused.2
  rw [Reserved.contains, blocked, Bool.or_false, Reserved.holds]
  simpa [pythonReserved] using apart.1.1

/-- **What claiming makes sure of.** -/
theorem parameterNames_proper (h : CallPlan.ofSignature structs sig = .ok plan)
    (hn : parameterNames structs plan = some names) : ProperNames structs plan names := by
  obtain ⟨distinct, free, claims⟩ := claimAll_claimed hn
  have asked : ∀ n ∈ names, ∃ s ∈ plan.params, ∃ taken,
      claim (parameterReserved structs) taken (pythonIdent s.name) = some n := by
    intro n hm
    obtain ⟨name, hname, taken, claimed⟩ := exists_related claims hm
    obtain ⟨s, hs, rfl⟩ := List.mem_map.1 hname
    exact ⟨s, hs, taken, claimed⟩
  have unreserved := parameterNames_unreserved hn
  refine ⟨distinct, fun n hm => ⟨(unreserved n hm).1, (unreserved n hm).2.1⟩, fun n hm => ?_,
    fun n hm => ?_, fun n hm => ?_, fun n hm t ht e => ?_⟩
  · obtain ⟨s, -, taken, claimed⟩ := asked n hm
    exact claim_nonKeyword claimed
  · have apart := (unreserved n hm).2.2
    exact ⟨apart, fun struct hs same e => apart (e.trans same ▸ hs)⟩
  · obtain ⟨s, hs, taken, claimed⟩ := asked n hm
    obtain ⟨p, -, i, named⟩ := Go.paramSlots_names (CallPlan.ofSignature_slots h).1 s hs
    have given : s.name ≠ "" := named ▸ parameterName_ne_empty p.name i
    obtain ⟨k, spelled⟩ := claim_eq_append claimed
    rintro rfl
    rcases pythonIdent_cases s.name with ⟨e, -⟩ | e <;> simp [e, given] at spelled
  · exact (free n hm).2 (List.mem_map.2 ⟨t, ht, e.symm⟩)

/-! ## Locals of a parameter -/

def Expr.variableName : Expr → Option String
  | name n => some n
  | _ => Option.none

mutual
/-- The variables that a statement assigns. -/
def Stmt.assigned : Stmt → List String
  | assign targets _ => targets.filterMap Expr.variableName
  | ifs _ body => assignedAll body
  | attempt body _ handler => assignedAll body ++ assignedAll handler
  | expr _ | ret _ | pass => []
def Stmt.assignedAll : List Stmt → List String
  | [] => []
  | s :: rest => s.assigned ++ assignedAll rest
end

-- bodies are spelled out in full here, down to the variables in their parts
attribute [local simp] Stmt.assigned Stmt.assignedAll Expr.variableName

theorem Stmt.assignedAll_append (ss ts : List Stmt) :
    assignedAll (ss ++ ts) = assignedAll ss ++ assignedAll ts := by
  induction ss with
  | nil => rfl
  | cons s rest ih => simp [ih]

theorem Stmt.assignedAll_flatMap {α : Type} (xs : List α) (f : α → List Stmt) :
    assignedAll (xs.flatMap f) = xs.flatMap fun x => assignedAll (f x) := by
  induction xs with
  | nil => rfl
  | cons x rest ih => simp [Stmt.assignedAll_append, ih]

/-- The number of elements is kept in a local of its own; that of raw bytes is asked for in the call. -/
def counted (s : Slot) : Bool := s.shape = .buffer && !s.isBytes

/-- The locals of a parameter of the given name. -/
def locals (x : Slot × String) : List String :=
  (if x.1.shape = .scalar then [] else [localOf x.2])
    ++ if counted x.1 then [lengthOf (localOf x.2)] else []

theorem mem_locals {x : Slot × String} {l : String} : l ∈ locals x ↔
    x.1.shape ≠ .scalar ∧ l = localOf x.2 ∨ counted x.1 = true ∧ l = lengthOf (localOf x.2) := by
  by_cases hs : x.1.shape = .scalar <;> by_cases hc : counted x.1 = true <;> simp [locals, hs, hc]

theorem arguments_assigned {s : Slot} (h : s.Form structs) (n : String) :
    Stmt.assignedAll (arguments s n).1 = locals (s, n) := by
  cases h with
  | scalar ht hs => simp [arguments, locals, counted]
  | bytes ht =>
    simp [arguments, locals, counted, Slot.isBytes]
  | slice ht he hc hs =>
    simp [arguments, locals, counted, Slot.isBytes, Slot.elem, he]
  | array ht he hc hs =>
    simp [arguments, locals, counted, Slot.elem, he]
  | pointer ht he hc =>
    simp [arguments, locals, counted]

/-! ## Locals of a body -/

/-- The statements that make the arguments of the call. -/
def preparation (plan : CallPlan) (names : List String) : List Stmt :=
  (List.zipWith arguments plan.params names).flatMap (·.1) ++ (resultArguments plan).1

theorem callBody_prepares (symbol : String) (bound : Bool) (plan : CallPlan) (names : List String) :
    callBody symbol bound plan names
      = preparation plan names ++ callStep symbol plan (callArguments bound plan names) := rfl

theorem outArguments_assigned (s : Slot) : Stmt.assignedAll (outArguments s).1 = s.places := by
  by_cases hb : s.shape = .buffer <;>
    simp [outArguments, Slot.places, Slot.channels, hb]

/-- The places for everything that comes out of the entry point. -/
def outPlaces (plan : CallPlan) : List String :=
  (match plan.returned with
    | some s => if s.shape = .buffer then ["_len"] else []
    | none => plan.results.flatMap Slot.places)
  ++ if plan.hasError then ["_err"] else []

theorem resultArguments_assigned (plan : CallPlan) :
    Stmt.assignedAll (resultArguments plan).1 = outPlaces plan := by
  unfold resultArguments outPlaces
  cases hr : plan.returned with
  | some s =>
    by_cases hb : s.shape = .buffer <;> cases plan.hasError <;>
      simp [hb]
  | none =>
    have stored : Stmt.assignedAll ((plan.results.map outArguments).flatMap (·.1))
        = plan.results.flatMap Slot.places := by
      simp only [List.flatMap_map, Stmt.assignedAll_flatMap, outArguments_assigned]
    cases plan.hasError <;>
      simp [stored, Stmt.assignedAll_append]

/-- The local that keeps what is returned, if it has to be converted. -/
def keptResult (plan : CallPlan) : List String :=
  match plan.returned with
  | some s => if isPlain s then [] else ["_res"]
  | none => []

theorem mem_keptResult {l : String} (h : l ∈ keptResult plan) : l = "_res" := by
  unfold keptResult at h
  split at h
  · split at h
    · cases h
    · exact List.mem_singleton.1 h
  · cases h

theorem callStep_assigned (symbol : String) (plan : CallPlan) (args : List Expr) :
    Stmt.assignedAll (callStep symbol plan args) = keptResult plan := by
  unfold callStep keptResult
  cases plan.returned with
  | some s => cases hp : isPlain s <;> simp [hp]
  | none =>
    cases plan.hasError <;> by_cases hn : plan.results = [] <;>
      simp [hn]

theorem preparation_assigned (hf : plan.Formed structs) (names : List String) :
    Stmt.assignedAll (preparation plan names)
      = (plan.params.zip names).flatMap locals ++ outPlaces plan := by
  have inputs : Stmt.assignedAll ((List.zipWith arguments plan.params names).flatMap (·.1))
      = (plan.params.zip names).flatMap locals := by
    rw [← List.map_uncurry_zip_eq_zipWith, List.flatMap_map, Stmt.assignedAll_flatMap, List.flatMap_def,
      List.flatMap_def]
    refine congrArg List.flatten (List.map_congr_left fun x hx => ?_)
    exact arguments_assigned (hf.params x.1 (List.of_mem_zip hx).1) x.2
  rw [preparation, Stmt.assignedAll_append, inputs, resultArguments_assigned]

/-- **The locals that a body assigns**, in order: those of the parameters, those for what comes out, and the
one for what is returned. -/
theorem callBody_assigned (hf : plan.Formed structs) (symbol : String) (bound : Bool)
    (names : List String) : Stmt.assignedAll (callBody symbol bound plan names)
      = (plan.params.zip names).flatMap locals ++ outPlaces plan ++ keptResult plan := by
  rw [callBody_prepares, Stmt.assignedAll_append, preparation_assigned hf, callStep_assigned]

/-! ## Clashes -/

/-- If the one parameter has a local, and the elements of the other are counted, then the one is not called
like the count of the other. -/
def Uncounted (x y : Slot × String) : Prop :=
  x.1.shape ≠ .scalar → counted y.1 = true → x.2 ≠ lengthOf y.2

/-- What claiming leaves to chance: whether something is called like the count of something else. -/
structure ClearLocals (plan : CallPlan) (names : List String) : Prop where
  params : ∀ x ∈ plan.params.zip names, ∀ y ∈ plan.params.zip names, Uncounted x y
  /-- The places of two stored results have nothing in common. -/
  results : plan.returned = none → plan.results.Pairwise fun s t => s.places.Disjoint t.places
  /-- No parameter is called like the count of a stored result, and no such result like its count. -/
  outputs : plan.returned = none → ∀ x ∈ plan.params.zip names, ∀ t ∈ plan.results,
    (x.1.shape ≠ .scalar → t.shape = .buffer → x.2 ≠ lengthOf t.name) ∧
      (counted x.1 = true → lengthOf x.2 ≠ t.name)

theorem localOf_inj {a b : String} : localOf a = localOf b ↔ a = b := by
  simp [localOf, ← String.toList_inj]

theorem lengthOf_toList (var : String) : (lengthOf var).toList = var.toList ++ ['_', 'l', 'e', 'n'] := by
  simp [lengthOf]

theorem lengthOf_inj {a b : String} : lengthOf a = lengthOf b ↔ a = b := by
  simp only [← String.toList_inj, lengthOf_toList, List.append_cancel_right_eq]

theorem lengthOf_ne_self (var : String) : lengthOf var ≠ var := by
  intro e
  simpa [lengthOf_toList] using congrArg (·.toList.length) e

theorem lengthOf_localOf (name : String) : lengthOf (localOf name) = localOf (lengthOf name) := by
  simp [lengthOf, localOf, String.append_assoc]

/-- The locals of parameters with different names meet only where a name is that of a count. -/
theorem locals_disjoint_iff {x y : Slot × String} (names : x.2 ≠ y.2) :
    (locals x).Disjoint (locals y) ↔ Uncounted x y ∧ Uncounted y x := by
  constructor
  · intro apart
    refine ⟨fun hx hy e => ?_, fun hy hx e => ?_⟩
    · exact apart (mem_locals.2 (.inl ⟨hx, rfl⟩)) (mem_locals.2 (.inr ⟨hy, by rw [lengthOf_localOf, e]⟩))
    · exact apart (mem_locals.2 (.inr ⟨hx, by rw [lengthOf_localOf, e]⟩)) (mem_locals.2 (.inl ⟨hy, rfl⟩))
  · rintro ⟨left, right⟩ l hx hy
    simp only [mem_locals, lengthOf_localOf] at hx hy
    rcases hx with ⟨hx, rfl⟩ | ⟨hx, rfl⟩ <;> rcases hy with ⟨hy, e⟩ | ⟨hy, e⟩
    · exact names (localOf_inj.1 e)
    · exact left hx hy (localOf_inj.1 e)
    · exact right hy hx (localOf_inj.1 e).symm
    · exact names (lengthOf_inj.1 (localOf_inj.1 e))

theorem locals_nodup (x : Slot × String) : (locals x).Nodup := by
  unfold locals
  split <;> split <;> simp [(lengthOf_ne_self (localOf x.2)).symm]

theorem places_nodup (s : Slot) : s.places.Nodup := by
  by_cases hb : s.shape = .buffer <;>
    simp [Slot.places, Slot.channels, hb, (lengthOf_ne_self (localOf s.name)).symm]

/-- No parameter has one of the locals that are called alike in every body. -/
theorem ProperNames.fixed_notMem (h : ProperNames structs plan names) {x : Slot × String}
    (hx : x.2 ∈ names) {l : String} (hl : l ∈ ["_len", "_err", "_res"]) : l ∉ locals x := by
  have made : ∀ l ∈ ["_len", "_err", "_res"], ∃ n ∈ "len" :: ["self", "res", "err"], l = localOf n := by
    decide
  have count : ∀ l ∈ ["_len", "_err", "_res"], l.toList.length ≤ 4 := by decide
  obtain ⟨unreserved, other⟩ := h.unreserved x.2 hx
  rw [mem_locals]
  rintro (⟨-, e⟩ | ⟨-, rfl⟩)
  · obtain ⟨n, hn, rfl⟩ := made l hl
    obtain rfl := localOf_inj.1 e
    rcases List.mem_cons.1 hn with e | hn
    · exact absurd (e ▸ unreserved) (by decide)
    · exact other hn
  · have short := count _ hl
    simp only [lengthOf_toList, localOf, String.toList_append, List.length_append] at short
    have empty : x.2.toList.length = 0 := by
      have one : "_".toList.length = 1 := by decide
      simp only [List.length_cons, List.length_nil] at short
      omega
    exact h.nonempty x.2 hx (String.toList_injective (by simpa using empty))

/-- A place is that of a stored result, or it has a fixed name. -/
theorem outPlaces_cases {l : String} (h : l ∈ outPlaces plan) :
    l ∈ ["_len", "_err"] ∨ plan.returned = none ∧ ∃ t ∈ plan.results, l ∈ t.places := by
  unfold outPlaces at h
  rcases List.mem_append.1 h with h | h
  · split at h
    · split at h
      · exact .inl (by simp [List.mem_singleton.1 h])
      · cases h
    · exact .inr ⟨‹_›, List.mem_flatMap.1 h⟩
  · split at h
    · exact .inl (by simp [List.mem_singleton.1 h])
    · cases h

/-- Every local is called like something, with an underscore before it. -/
theorem assigned_localOf (hf : plan.Formed structs) {symbol : String} {bound : Bool} {l : String}
    (h : l ∈ Stmt.assignedAll (callBody symbol bound plan names)) : ∃ name, l = localOf name := by
  rw [callBody_assigned hf, List.append_assoc] at h
  rcases List.mem_append.1 h with h | h
  · obtain ⟨x, -, h⟩ := List.mem_flatMap.1 h
    rcases mem_locals.1 h with ⟨-, rfl⟩ | ⟨-, rfl⟩
    · exact ⟨x.2, rfl⟩
    · exact ⟨lengthOf x.2, lengthOf_localOf x.2⟩
  · rcases List.mem_append.1 h with h | h
    · rcases outPlaces_cases h with h | ⟨-, t, -, h⟩
      · rcases List.mem_pair.1 h with rfl | rfl
        · exact ⟨"len", by decide⟩
        · exact ⟨"err", by decide⟩
      · rcases Slot.mem_places.1 h with rfl | ⟨-, rfl⟩
        · exact ⟨t.name, rfl⟩
        · exact ⟨lengthOf t.name, lengthOf_localOf t.name⟩
    · exact ⟨"res", mem_keptResult h⟩

/-- What is stored does not share a place, if no two results do. -/
theorem outPlaces_nodup_iff (outputs : ∀ t ∈ plan.results, beginsWith "out" t.name = true) :
    (outPlaces plan).Nodup ↔
      (plan.returned = none → plan.results.Pairwise fun s t => s.places.Disjoint t.places) := by
  have error : ((if plan.hasError then ["_err"] else []) : List String).Nodup := by
    cases plan.hasError <;> simp
  unfold outPlaces
  cases hr : plan.returned with
  | some s =>
    -- the only result is returned, and there is no error
    have noError : plan.hasError = false := by
      unfold CallPlan.returned at hr
      split at hr
      · next e _ => simp [CallPlan.hasError, e]
      · cases hr
    by_cases hb : s.shape = .buffer <;> simp [hb, noError]
  | none =>
    have apart : (plan.results.flatMap Slot.places).Disjoint (if plan.hasError then ["_err"] else []) := by
      intro l hl he
      obtain ⟨t, ht, hl⟩ := List.mem_flatMap.1 hl
      have begins := places_beginning (outputs t ht) l hl
      split at he
      · exact absurd (List.mem_singleton.1 he ▸ begins) (by decide)
      · cases he
    simp only [List.nodup_append', List.nodup_flatMap, places_nodup, error, apart, true_and, and_true,
      implies_true, forall_const]

theorem locals_results_disjoint_iff (h : ProperNames structs plan names) {x : Slot × String}
    (hx : x.2 ∈ names) {t : Slot} (ht : t ∈ plan.results) :
    (locals x).Disjoint t.places ↔
      (x.1.shape ≠ .scalar → t.shape = .buffer → x.2 ≠ lengthOf t.name) ∧
        (counted x.1 = true → lengthOf x.2 ≠ t.name) := by
  constructor
  · intro apart
    refine ⟨fun hs hb e => ?_, fun hc e => ?_⟩
    · exact apart (mem_locals.2 (.inl ⟨hs, rfl⟩))
        (Slot.mem_places.2 (.inr ⟨hb, by rw [lengthOf_localOf, e]⟩))
    · exact apart (mem_locals.2 (.inr ⟨hc, rfl⟩))
        (Slot.mem_places.2 (.inl (by rw [lengthOf_localOf, e])))
  · rintro ⟨left, right⟩ l hl hp
    simp only [mem_locals, Slot.mem_places, lengthOf_localOf] at hl hp
    rcases hl with ⟨hs, rfl⟩ | ⟨hc, rfl⟩ <;> rcases hp with e | ⟨hb, e⟩
    · exact h.apart x.2 hx t ht (localOf_inj.1 e)
    · exact left hs hb (localOf_inj.1 e)
    · exact right hc (localOf_inj.1 e)
    · exact h.apart x.2 hx t ht (lengthOf_inj.1 (localOf_inj.1 e))

/-- The locals of the parameters are distinct if no name is that of a count. -/
theorem inputs_nodup_iff (h : ProperNames structs plan names)
    (hlen : names.length = plan.params.length) :
    ((plan.params.zip names).flatMap locals).Nodup ↔
      ∀ x ∈ plan.params.zip names, ∀ y ∈ plan.params.zip names, Uncounted x y := by
  have differ : (plan.params.zip names).Pairwise fun x y => x.2 ≠ y.2 := by
    have zipped : (plan.params.zip names).map Prod.snd = names := List.map_snd_zip (by omega)
    exact List.pairwise_map.1 (zipped.symm ▸ h.distinct)
  rw [List.nodup_flatMap, and_iff_right fun x _ => locals_nodup x]
  constructor
  · intro disjoint x hx y hy
    have pairs : (plan.params.zip names).Pairwise fun x y => Uncounted x y ∧ Uncounted y x :=
      (disjoint.and differ).imp fun both => (locals_disjoint_iff both.2).1 both.1
    have itself : ∀ x ∈ plan.params.zip names, Uncounted x x ∧ Uncounted x x := fun x _ =>
      ⟨fun _ _ e => lengthOf_ne_self x.2 e.symm, fun _ _ e => lengthOf_ne_self x.2 e.symm⟩
    have symmetric : Std.Symm fun x y => Uncounted x y ∧ Uncounted y x := ⟨fun _ _ both => both.symm⟩
    exact (pairs.forall_of_forall itself hx hy).1
  · intro clear
    have pairs : (plan.params.zip names).Pairwise fun x y => Uncounted x y ∧ Uncounted y x :=
      List.pairwise_of_forall_mem_list fun x hx y hy => ⟨clear x hx y hy, clear y hy x hx⟩
    exact (pairs.and differ).imp fun both => (locals_disjoint_iff both.2).2 both.1

/-- **No local has two owners exactly if nothing clashes** that claiming leaves to chance. -/
theorem assigned_nodup_iff (h : ProperNames structs plan names) (hf : plan.Formed structs)
    (hlen : names.length = plan.params.length)
    (outputs : ∀ t ∈ plan.results, beginsWith "out" t.name = true) (symbol : String) (bound : Bool) :
    (Stmt.assignedAll (callBody symbol bound plan names)).Nodup ↔ ClearLocals plan names := by
  have named : ∀ x ∈ plan.params.zip names, x.2 ∈ names := fun x hx => (List.of_mem_zip hx).2
  have fixed : ∀ l ∈ ["_len", "_err", "_res"], l ∉ (plan.params.zip names).flatMap locals := by
    intro l hl hm
    obtain ⟨x, hx, hm⟩ := List.mem_flatMap.1 hm
    exact h.fixed_notMem (named x hx) hl hm
  have kept : (keptResult plan).Nodup := by
    unfold keptResult
    split
    · split <;> simp
    · exact List.nodup_nil
  have last : ((plan.params.zip names).flatMap locals ++ outPlaces plan).Disjoint (keptResult plan) := by
    intro l hl hk
    obtain rfl := mem_keptResult hk
    rcases List.mem_append.1 hl with hl | hl
    · exact fixed "_res" (by decide) hl
    · rcases outPlaces_cases hl with special | ⟨-, t, ht, hl⟩
      · exact absurd special (by decide)
      · exact absurd (places_beginning (outputs t ht) "_res" hl) (by decide)
  have stored : ((plan.params.zip names).flatMap locals).Disjoint (outPlaces plan) ↔
      (plan.returned = none → ∀ x ∈ plan.params.zip names, ∀ t ∈ plan.results,
        (locals x).Disjoint t.places) := by
    constructor
    · intro apart hr x hx t ht l hl hp
      refine apart (List.mem_flatMap.2 ⟨x, hx, hl⟩) (List.mem_append_left _ ?_)
      rw [hr]
      exact List.mem_flatMap.2 ⟨t, ht, hp⟩
    · intro apart l hl hp
      rcases outPlaces_cases hp with special | ⟨hr, t, ht, hp⟩
      · exact fixed l (List.dropLast_subset ["_len", "_err", "_res"] special) hl
      · obtain ⟨x, hx, hl⟩ := List.mem_flatMap.1 hl
        exact apart hr x hx t ht hl hp
  rw [callBody_assigned hf, List.nodup_append', List.nodup_append', and_iff_left last, inputs_nodup_iff h hlen,
    outPlaces_nodup_iff outputs, stored]
  constructor
  · rintro ⟨⟨params, results, outputs⟩, -⟩
    exact ⟨params, results, fun hr x hx t ht =>
      (locals_results_disjoint_iff h (named x hx) ht).1 (outputs hr x hx t ht)⟩
  · rintro ⟨params, results, outputs⟩
    exact ⟨⟨params, results, fun hr x hx t ht =>
      (locals_results_disjoint_iff h (named x hx) ht).2 (outputs hr x hx t ht)⟩, kept⟩

end GoGlue.Py
