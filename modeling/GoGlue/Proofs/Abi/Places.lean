import GoGlue.Proofs.Abi.Passing
import GoGlue.Proofs.CallPlan.Slots
import GoGlue.Proofs.Glue.Prototype

/-!
# Places for what comes out

The module makes a place for each result that is stored, for the count of a buffer, and for the error, and
passes a reference to it where the prototype of the entry point has the pointer. Which place goes with which
pointer is laid down in a list of channels, and arguments and parameters agree with it by their positions.

* `Slot.channels`, `CallPlan.channels`: a place for each pointer.
* `Py.zip_outs`: which place is passed for which pointer.
-/
namespace GoGlue

/-! ## Channels -/

/-- The local and the pointer for each part of a result: its value, and the count of a buffer. -/
def Slot.channels (s : Slot) : List (String × String) :=
  (Py.localOf s.name, s.name)
    :: if s.shape = .buffer then [(Py.lengthOf (Py.localOf s.name), Go.lengthName s.name)] else []

/-- The locals for a result. -/
def Slot.places (s : Slot) : List String := s.channels.map (·.1)

theorem Slot.mem_places {s : Slot} {x : String} : x ∈ s.places ↔
    x = Py.localOf s.name ∨ s.shape = .buffer ∧ x = Py.lengthOf (Py.localOf s.name) := by
  by_cases hb : s.shape = .buffer <;> simp [places, channels, hb]

theorem Slot.channels_pointers (s : Slot) : s.channels.map (·.2) = Go.slotNames s := by
  by_cases hb : s.shape = .buffer <;> simp [channels, Go.slotNames, hb]

/-- The place and the pointer for everything that comes out of the entry point of a plan. -/
def CallPlan.channels (plan : CallPlan) : List (String × String) :=
  (match plan.returned with
    | some s => if s.shape = .buffer then [("_len", "outLen")] else []
    | none => plan.results.flatMap Slot.channels)
  ++ if plan.hasError then [("_err", "outError")] else []

namespace Py

/-- The places for a result are called after it. -/
theorem places_beginning {s : Slot} (h : beginsWith "out" s.name = true) :
    ∀ x ∈ s.places, beginsWith "_out" x = true := by
  have first : beginsWith "_out" (localOf s.name) = true := by
    simpa [beginsWith, localOf] using h
  have second : beginsWith "_out" (lengthOf (localOf s.name)) = true :=
    Go.beginsWith_longer "_len" first
  intro x hx
  rcases Slot.mem_places.1 hx with rfl | ⟨-, rfl⟩
  · exact first
  · exact second

/-! ## Positions -/

theorem inputs_length {structs : StructNames} {slots slots' : List Slot} {names : List String}
    (hf : ∀ s ∈ slots, s.Form structs) (hlen : names.length = slots.length)
    (hr : List.Forall₂ Go.Renamed slots slots') :
    ((List.zipWith arguments slots names).flatMap (·.2)).length
      = (slots'.flatMap Go.slotParams).length := by
  induction hr generalizing names with
  | nil => cases names <;> rfl
  | @cons s s' rest rest' same _ ih =>
    cases names with
    | nil => cases hlen
    | cons name names =>
      have shape : s'.shape = s.shape := by rw [same]
      have tail := ih (fun t ht => hf t (List.mem_cons_of_mem _ ht)) (Nat.succ.inj hlen)
      rw [List.zipWith_cons_cons, List.flatMap_cons, List.flatMap_cons, List.length_append,
        List.length_append, tail, arguments_passed (hf s List.mem_cons_self), Go.slotParams, shape]
      by_cases hb : s.shape = .buffer <;> simp [hb]

/-- What is passed for a parameter is no reference. -/
theorem inputs_byref {structs : StructNames} {slots : List Slot} (hf : ∀ s ∈ slots, s.Form structs)
    (names : List String) (e : Expr) :
    .byref e ∉ (List.zipWith arguments slots names).flatMap (·.2) := by
  have value : ∀ (s : Slot) (name : String), .byref e ≠ passedValue s name := by
    intro s name
    unfold passedValue
    split
    · cases intoRaw s.transfer <;> simp [IntoRaw.apply, Expr.calls]
    · simp
  have count : ∀ (s : Slot) (name : String), .byref e ≠ passedCount s name := by
    intro s name
    unfold passedCount
    split <;> simp [Expr.calls]
  induction slots generalizing names with
  | nil => simp
  | cons s rest ih =>
    cases names with
    | nil => simp
    | cons name names =>
      have others := ih (fun t ht => hf t (List.mem_cons_of_mem _ ht)) names
      rw [List.zipWith_cons_cons, List.flatMap_cons, arguments_passed (hf s List.mem_cons_self),
        List.mem_append, not_or]
      refine ⟨?_, others⟩
      by_cases hb : s.shape = .buffer <;> simp [hb, value, count]

/-- A place is passed for each pointer of a result. -/
theorem zip_outArguments (s : Slot) :
    (outArguments s).2.length = (Go.outParams s).length ∧
      ((outArguments s).2.zip (Go.outParams s)).map (fun c => (c.1, c.2.name))
        = s.channels.map fun c => (.byref (.name c.1), c.2) := by
  by_cases hb : s.shape = .buffer <;> simp [outArguments, Go.outParams, Slot.channels, hb]

theorem zip_resultArguments (plan : CallPlan) :
    ((resultArguments plan).2.zip (Go.resultParams plan
        ++ if plan.hasError then [⟨"outError", .pointer (.pointer .char)⟩] else [])).map
          (fun c => (c.1, c.2.name))
      = plan.channels.map fun c => (.byref (.name c.1), c.2) := by
  have outs : ∀ slots : List Slot,
      ((slots.map outArguments).flatMap (·.2)).length = (slots.flatMap Go.outParams).length ∧
        (((slots.map outArguments).flatMap (·.2)).zip (slots.flatMap Go.outParams)).map
            (fun c => (c.1, c.2.name))
          = (slots.flatMap Slot.channels).map fun c => (.byref (.name c.1), c.2) := by
    intro slots
    induction slots with
    | nil => exact ⟨rfl, rfl⟩
    | cons s rest ih =>
      obtain ⟨length, pairs⟩ := zip_outArguments s
      refine ⟨by simp only [List.map_cons, List.flatMap_cons, List.length_append, length, ih.1], ?_⟩
      rw [List.map_cons, List.flatMap_cons, List.flatMap_cons, List.zip_append length, List.map_append,
        pairs, ih.2, List.flatMap_cons, List.map_append]
  unfold resultArguments Go.resultParams CallPlan.channels
  cases hr : plan.returned with
  | some s => by_cases hb : s.shape = .buffer <;> cases he : plan.hasError <;> simp [hb]
  | none =>
    obtain ⟨length, pairs⟩ := outs plan.results
    cases he : plan.hasError with
    | false => simpa using pairs
    | true =>
      simp only [if_true]
      rw [List.zip_append length, List.map_append, pairs, List.map_append]
      rfl

/-- **Which place is passed for which pointer.** -/
theorem zip_outs {structs : StructNames} {own : String} {plan renamed : CallPlan}
    (hf : plan.Formed structs) (hr : Go.unshadowed own plan = some renamed) (bound : Bool)
    {names : List String} (hlen : names.length = plan.params.length) {x p : String} :
    (∃ param, (.byref (.name x), param) ∈
        (callArguments bound plan names).zip (Go.entryParams bound renamed) ∧ param.name = p) ↔
      (x, p) ∈ plan.channels := by
  obtain ⟨params, same⟩ := Go.unshadowed_renamed hr
  have inputs := inputs_length hf.params hlen params
  have length : ((if bound then [Expr.member (.name "self") "_handle"] else [])
        ++ (List.zipWith arguments plan.params names).flatMap (·.2)).length
      = ((if bound then [(⟨"handle", .uintptr⟩ : Go.CParam)] else [])
        ++ renamed.params.flatMap Go.slotParams).length := by
    cases bound <;> simp [inputs]
  have results : Go.resultParams renamed = Go.resultParams plan ∧ renamed.hasError = plan.hasError := by
    rw [same]
    exact ⟨rfl, rfl⟩
  have prefixes : ∀ param, ((.byref (.name x), param) : Expr × Go.CParam) ∉
      ((if bound then [Expr.member (.name "self") "_handle"] else [])
        ++ (List.zipWith arguments plan.params names).flatMap (·.2)).zip
      ((if bound then [(⟨"handle", .uintptr⟩ : Go.CParam)] else [])
        ++ renamed.params.flatMap Go.slotParams) := by
    intro param hm
    rcases List.mem_append.1 (List.of_mem_zip hm).1 with self | input
    · cases bound <;> simp at self
    · exact inputs_byref hf.params names _ input
  have outs := zip_resultArguments plan
  unfold callArguments Go.entryParams
  rw [List.append_assoc (_ ++ _) (Go.resultParams renamed), results.1, results.2,
    List.zip_append length]
  constructor
  · rintro ⟨param, hm, rfl⟩
    rcases List.mem_append.1 hm with before | after
    · exact absurd before (prefixes param)
    · have pair := List.mem_map_of_mem (f := fun c : Expr × Go.CParam => (c.1, c.2.name)) after
      rw [outs] at pair
      obtain ⟨c, hc, e⟩ := List.mem_map.1 pair
      obtain ⟨place, pointer⟩ : c.1 = x ∧ c.2 = param.name := by simpa using e
      rw [← place, ← pointer]
      exact hc
  · intro hc
    have pair := List.mem_map_of_mem
      (f := fun c : String × String => ((.byref (.name c.1), c.2) : Expr × String)) hc
    rw [← outs] at pair
    obtain ⟨c, hm, e⟩ := List.mem_map.1 pair
    obtain ⟨first, second⟩ := Prod.mk.inj e
    refine ⟨c.2, List.mem_append_right _ ?_, second⟩
    rw [← first]
    exact hm

end Py

end GoGlue
