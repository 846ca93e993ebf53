import GoGlue.Proofs.Glue.Emitted

/-!
# Array lengths in the glue

An entry point spells array types where it makes room for a parameter, and inside the types that objects are
looked up with. An array of unknown length would be spelled with the length zero. No such array comes through:
each length that is spelled is one that the package declares.

* `ofGoType_lengths`: the lengths in a type are those of its arrays, if these have lengths.
* `body_lengths`: a body spells the lengths of the types of its parameters.
* `Glue.conversions_decided`: for no package does either side of the glue fall back on a guess, and nothing is logged
  while it is written.
-/
namespace GoGlue.Go

/-! ## Lengths that are spelled -/

/-- The lengths of the arrays in a type. -/
def Ty.lengths : Ty → List UInt64
  | array n e => n :: e.lengths
  | pointer e | slice e => e.lengths
  | map k v => k.lengths ++ v.lengths
  | any | name _ | qualified _ _ | c _ => []

namespace Expr

mutual
/-- The lengths of the array types that an expression spells. -/
def lengths : Expr → List UInt64
  | type t | applied _ t | empty t => t.lengths
  | call f args => f.lengths ++ lengthsAll args
  | member e _ | deref e | address e | isNil e | notNil e => e.lengths
  | index e i => e.lengths ++ i.lengths
  | both a b => a.lengths ++ b.lengths
  | name _ | number _ | quote _ | library _ _ | qualified _ _ => []
def lengthsAll : List Expr → List UInt64
  | [] => []
  | e :: rest => e.lengths ++ lengthsAll rest
end

end Expr

namespace Stmt

mutual
/-- The lengths of the array types that a statement spells. -/
def lengths : Stmt → List UInt64
  | expr e | define _ e | ret (some e) => e.lengths
  | assign target e => target.lengths ++ e.lengths
  | declare _ t => t.lengths
  | ret none => []
  | ifs cond body => cond.lengths ++ lengthsAll body
  | range _ _ items body => items.lengths ++ lengthsAll body
def lengthsAll : List Stmt → List UInt64
  | [] => []
  | s :: rest => s.lengths ++ lengthsAll rest
end

end Stmt

/-- The lengths of the array types in the body of an entry point. -/
def Entry.lengths (e : Entry) : List UInt64 := Stmt.lengthsAll e.body

variable {own : String} {P : UInt64 → Prop}

-- generated code is spelled out in full here, down to the types in its parts
attribute [local simp] Ty.lengths Expr.lengths Expr.lengthsAll Expr.calls Expr.ccall Expr.nil
  Stmt.lengths Stmt.lengthsAll setError

theorem Stmt.mem_lengthsAll {ss : List Stmt} :
    (∀ n ∈ Stmt.lengthsAll ss, P n) ↔ ∀ s ∈ ss, ∀ n ∈ s.lengths, P n := by
  induction ss with
  | nil => simp
  | cons s rest ih => simp only [lengthsAll, List.forall_mem_append, List.forall_mem_cons, ih]

theorem Stmt.lengthsAll_append (ss ts : List Stmt) :
    Stmt.lengthsAll (ss ++ ts) = Stmt.lengthsAll ss ++ Stmt.lengthsAll ts := by
  induction ss with
  | nil => rfl
  | cons s rest ih => simp [ih]

theorem Expr.mem_lengthsAll {es : List Expr} :
    (∀ n ∈ Expr.lengthsAll es, P n) ↔ ∀ e ∈ es, ∀ n ∈ e.lengths, P n := by
  induction es with
  | nil => simp
  | cons e rest ih => simp only [lengthsAll, List.forall_mem_append, List.forall_mem_cons, ih]

/-! ## Types -/

/-- Every array inside the type has a length, and it has `P`. -/
def Measured (P : UInt64 → Prop) (t : GoType) : Prop :=
  ∀ m ∈ t.nodes, m.kind = .array → ∃ n, m.size = some n ∧ P n

theorem Measured.elem {t e : GoType} (h : Measured P t) (he : t.elem = some e) : Measured P e := by
  intro m hm
  refine h m ?_
  rw [GoType.nodes_eq, he]
  exact List.mem_cons_of_mem _ (List.mem_append_left _ hm)

mutual
/-- **The lengths in a type are those of its arrays.** -/
theorem ofGoType_lengths (t : GoType) (h : Measured P t) : ∀ n ∈ (Ty.ofGoType own t).lengths, P n := by
  match t with
  | ⟨kind, name, package, elem, key, size⟩ =>
    rw [Measured, GoType.nodes, List.forall_mem_cons, List.forall_mem_append] at h
    obtain ⟨here, ofElem, ofKey⟩ := h
    have e := ofPart_lengths elem ofElem
    have k := ofPart_lengths key ofKey
    unfold Ty.ofGoType
    split
    · simp
    · cases package <;> simp
    · simpa using e
    · simpa using e
    · obtain ⟨len, hs, declared⟩ := here rfl
      have first : P (size.getD 0) := by
        obtain rfl : size = some len := hs
        exact declared
      exact List.forall_mem_cons.2 ⟨first, e⟩
    · simpa only [Ty.lengths, List.forall_mem_append] using ⟨k, e⟩
    · simp
theorem ofPart_lengths (t : Option GoType)
    (h : ∀ m ∈ GoType.partNodes t, m.kind = .array → ∃ n, m.size = some n ∧ P n) :
    ∀ n ∈ (Ty.ofPart own t).lengths, P n := by
  match t with
  | none => simp [Ty.ofPart]
  | some t =>
    rw [Ty.ofPart]
    exact ofGoType_lengths t h
end

/-! ## Conversions -/

theorem fromC_lengths {t : GoType} {tr : Transfer} {x : String} (h : Measured P t) :
    ∀ n ∈ ((fromC own t tr).apply (.name x)).lengths, P n := by
  have type : ∀ n ∈ (Ty.ofGoType own t).lengths, P n := ofGoType_lengths t h
  have inner : ∀ n ∈ (Ty.ofGoType own (t.elem.getD t)).lengths, P n := by
    cases he : t.elem with
    | none => exact type
    | some e => exact ofGoType_lengths e (h.elem he)
  unfold fromC
  split
  · simp [FromC.apply]
  · simp [FromC.apply]
  · simpa [FromC.apply] using inner
  · simpa [FromC.apply] using type
  · simpa [FromC.apply] using type
  · simp [FromC.apply]
  · simp [FromC.apply]

/-- An argument spells the lengths of the type of its parameter. -/
theorem argument_lengths {s : Slot} (definite : s.Definite) (h : Measured P s.type) :
    (∀ n ∈ Stmt.lengthsAll (argument own s).1, P n) ∧ ∀ n ∈ (argument own s).2.lengths, P n := by
  have element : ∀ t tr, s.elem = some (t, tr) → Measured P t :=
    fun t tr he => h.elem (Slot.elem_eq_some_iff.1 he).1
  unfold argument
  cases hs : s.shape with
  | scalar => exact ⟨by simp, fromC_lengths h⟩
  | buffer =>
    cases hb : s.isBytes
    · cases he : s.elem with
      | none => simp
      | some p =>
        obtain ⟨t, tr⟩ := p
        have ht := element t tr he
        simpa [or_imp, forall_and] using ⟨ofGoType_lengths t ht, fromC_lengths ht⟩
    · simp
  | fixed n =>
    cases he : s.elem with
    | none => simp
    | some p =>
      obtain ⟨t, tr⟩ := p
      have ht := element t tr he
      -- the room that is made is as long as the declared array
      have declared : P n := by
        obtain ⟨array, size⟩ := definite.length n hs
        have here : s.type ∈ s.type.nodes := by
          rw [GoType.nodes_eq]
          exact List.mem_cons_self
        obtain ⟨len, hlen, hp⟩ := h s.type here array
        cases hlen.symm.trans size
        exact hp
      simpa [or_imp, forall_and] using
        ⟨declared, ofGoType_lengths t ht, fromC_lengths ht⟩
  | pointer =>
    cases he : s.type.elem with
    | none => simp
    | some t => simpa [or_imp, forall_and] using ofGoType_lengths t (h.elem he)

theorem intoC_lengths (i : IntoC) (e : Expr) : (i.apply e).lengths = e.lengths := by
  cases i <;> simp [IntoC.apply]

theorem bufferIntoC_lengths (s : Slot) (var : String) (k : Nat) :
    Stmt.lengthsAll (bufferIntoC s var k).1 = [] ∧ (bufferIntoC s var k).2.lengths = [] := by
  unfold bufferIntoC
  cases s.isBytes <;> cases s.elem <;> simp [intoC_lengths]

/-! ## Bodies -/

theorem zeroValue_lengths (s : Slot) : (zeroValue s).lengths = [] := by
  unfold zeroValue
  split <;> simp

theorem receiveStep_lengths (plan : CallPlan) {receiver : Option Receiver}
    (h : ∀ r ∈ receiver, r.type.lengths = []) :
    Stmt.lengthsAll (receiveStep plan receiver) = [] := by
  cases receiver with
  | none => rfl
  | some r =>
    have leave : (bail plan).lengths = [] := by
      cases hr : plan.returned <;> simp [bail, hr, zeroValue_lengths]
    have type := h r rfl
    cases he : plan.hasError <;> simp [receiveStep, he, leave, type]

theorem assignResults_lengths (plan : CallPlan) (e : Expr) :
    (assignResults plan e).lengths = e.lengths := by
  unfold assignResults
  split <;> simp

/-- The types of the parameters have lengths with `P`. -/
def TakesMeasured (P : UInt64 → Prop) (plan : CallPlan) : Prop :=
  ∀ s ∈ plan.params, s.Definite ∧ Measured P s.type

theorem convertStep_lengths {plan : CallPlan} (h : TakesMeasured P plan) :
    ∀ n ∈ Stmt.lengthsAll (convertStep own plan), P n := by
  rw [Stmt.mem_lengthsAll]
  intro s hs
  obtain ⟨slot, hm, hs⟩ := List.mem_flatMap.1 hs
  exact Stmt.mem_lengthsAll.1 (argument_lengths (h slot hm).1 (h slot hm).2).1 s hs

theorem arguments_lengths {plan : CallPlan} (h : TakesMeasured P plan) :
    ∀ e ∈ arguments own plan, ∀ n ∈ e.lengths, P n := by
  intro e he
  obtain ⟨slot, hm, rfl⟩ := List.mem_map.1 he
  exact (argument_lengths (h slot hm).1 (h slot hm).2).2

theorem callStep_lengths (receiver : Option Receiver) {plan : CallPlan} {invoke : Invoke}
    (h : TakesMeasured P plan) (hi : ∀ f, invoke = .func f → f.lengths = []) :
    ∀ n ∈ Stmt.lengthsAll (callStep own receiver plan invoke), P n := by
  have passed : ∀ n ∈ Expr.lengthsAll (arguments own plan), P n :=
    Expr.mem_lengthsAll.2 (arguments_lengths h)
  have calling : ∀ {f : Expr}, f.lengths = [] →
      ∀ n ∈ (assignResults plan (.call f (arguments own plan))).lengths, P n := by
    intro f hf
    rw [assignResults_lengths, Expr.lengths, hf, List.nil_append]
    exact passed
  unfold callStep
  cases invoke with
  | func callee => simpa using calling (hi callee rfl)
  | method name =>
    have member : ∀ y, (Expr.member (.name y) name).lengths = [] := by simp
    rcases receiver with - | ⟨struct, type, byPointer⟩
    · simpa using calling (member "_obj")
    · cases byPointer
      · simpa using calling (member "_recv")
      · simpa using calling (member "_obj")
  | read field => simp
  | write field =>
    rw [Stmt.mem_lengthsAll, List.forall_mem_map]
    intro e he
    simpa using arguments_lengths h e he

theorem writeBackStep_lengths (plan : CallPlan) : Stmt.lengthsAll (writeBackStep plan) = [] := by
  refine List.eq_nil_iff_forall_not_mem.2 (Stmt.mem_lengthsAll.2 fun s hs => ?_)
  obtain ⟨slot, -, rfl⟩ := List.mem_map.1 hs
  simp

theorem errorStep_lengths (plan : CallPlan) : Stmt.lengthsAll (errorStep plan) = [] := by
  cases he : plan.hasError <;> simp [errorStep, he]

theorem returnResult_lengths (s : Slot) : Stmt.lengthsAll (returnResult s) = [] := by
  obtain ⟨copy, pointer⟩ := bufferIntoC_lengths s "_r0" 0
  cases hs : s.shape <;> simp [returnResult, hs, Stmt.lengthsAll_append, copy, pointer, intoC_lengths]

theorem storeResult_lengths (s : Slot) (k : Nat) : (storeResult s k).lengths = [] := by
  obtain ⟨copy, pointer⟩ := bufferIntoC_lengths s (resultName k) k
  cases hs : s.shape <;> simp [storeResult, hs, Stmt.lengthsAll_append, copy, pointer, intoC_lengths]

theorem resultStep_lengths (plan : CallPlan) : Stmt.lengthsAll (resultStep plan) = [] := by
  unfold resultStep
  cases plan.returned with
  | some s => exact returnResult_lengths s
  | none =>
    refine List.eq_nil_iff_forall_not_mem.2 (Stmt.mem_lengthsAll.2 fun s hs => ?_)
    obtain ⟨k, hk, rfl⟩ := List.mem_mapIdx.1 hs
    simp [storeResult_lengths]

/-- **A body spells the lengths of the types of its parameters.** -/
theorem body_lengths {receiver : Option Receiver} {invoke : Invoke} {plan : CallPlan}
    (hr : ∀ r ∈ receiver, r.type.lengths = []) (hi : ∀ f, invoke = .func f → f.lengths = [])
    (h : TakesMeasured P plan) : ∀ n ∈ Stmt.lengthsAll (body own receiver invoke plan), P n := by
  have clear : Stmt.lengthsAll (clearStep plan) = [] := by
    cases he : plan.hasError <;> simp [clearStep, he]
  simp only [body, Stmt.lengthsAll_append, clear, receiveStep_lengths plan hr, writeBackStep_lengths,
    errorStep_lengths, resultStep_lengths, List.nil_append, List.append_nil]
  exact List.forall_mem_append.2 ⟨convertStep_lengths h, callStep_lengths receiver h hi⟩

/-- The receiver and the callee of a member are named, so they spell no lengths. -/
theorem serves_lengths {surface : Surface} {receiver : Option Receiver} {invoke : Invoke}
    {plan : CallPlan} (h : Serves own surface receiver invoke plan) :
    (∀ r ∈ receiver, r.type.lengths = []) ∧ ∀ f, invoke = .func f → f.lengths = [] := by
  cases h with
  | func hf => exact ⟨by simp, by simp⟩
  | getter hs hf hp => exact ⟨by simp [ownType], by simp⟩
  | setter hs hf hp => exact ⟨by simp [ownType], by simp⟩
  | method hs hm => exact ⟨by simp [ownType], by simp⟩

end GoGlue.Go

namespace GoGlue.Glue

open Go

/-- The length is that of an array inside a type that the package takes. -/
def DeclaresLength (p : Package) (n : UInt64) : Prop :=
  ∃ t ∈ p.takenTypes, ∃ m ∈ t.nodes, m.kind = .array ∧ m.size = some n

/-- What is spelled by the glue of a package are lengths that it declares. -/
theorem entries_lengths {p : Package} {g : Glue} (h : ofPackage p = some g) :
    ∀ e ∈ g.entries, ∀ n ∈ e.lengths, DeclaresLength p n := by
  obtain ⟨es, emission, he, emitted, rfl⟩ := Glue.ofPackage_eq_some_iff.1 h
  intro e hm
  rcases entries_cases he hm with ⟨s, -, rfl | rfl⟩ | ⟨symbol, receiver, invoke, plan, serves, made⟩
  · simp [constructor, Entry.lengths, Stmt.lengthsAll, Stmt.lengths, Expr.calls, Expr.lengths,
      Expr.lengthsAll, ownType, Ty.lengths]
  · simp [destructor, Entry.lengths, Stmt.lengthsAll, Stmt.lengths, Expr.calls, Expr.lengths,
      Expr.lengthsAll]
  · obtain ⟨renamed, hu, rfl⟩ := entryOf_eq_some_iff.1 made
    obtain ⟨types, callee⟩ := serves_lengths serves
    have laid := Surface.serves_laid serves
    have definite := (Surface.serves_definite serves).unshadowed hu
    refine body_lengths types callee fun s hs => ?_
    have slot := definite s (List.mem_append_left _ hs)
    refine ⟨slot, fun m hm array => ?_⟩
    obtain ⟨n, size⟩ := Option.ne_none_iff_exists'.1 (slot.sized m hm array)
    obtain ⟨declared, hd, same⟩ := exists_related (unshadowed_renamed hu).1 hs
    have type : s.type = declared.type := by rw [same]
    have taken : s.type ∈ p.takenTypes := type ▸ laid.types _ (List.mem_map_of_mem hd)
    exact ⟨n, size, s.type, taken, m, hm, array, size⟩

/-- **Neither side of the glue falls back on a guess.** The slots of every plan of a package are definite,
also after the renaming for the Go side; no conversion of such a slot guesses, and no result is a pointer, which
would be converted like one value; the emitter has nothing to say about an entry point or the whole file; and every
length that the glue spells, at whatever depth of a type, is one that the package declares. -/
theorem conversions_decided (p : Package) :
    (∀ receiver invoke plan, Serves p.name (Surface.ofPackage p) receiver invoke plan →
      (∀ s ∈ plan.params ++ plan.results, s.Definite ∧ s.Converted p.name) ∧
      (∀ s ∈ plan.results, s.shape ≠ .pointer) ∧
      (∀ renamed, unshadowed p.name plan = some renamed →
        (∀ s ∈ renamed.params ++ renamed.results, s.Definite ∧ s.Converted p.name) ∧
          ∀ s ∈ renamed.results, s.shape ≠ .pointer) ∧
      ∀ symbol e, emitEntry p symbol receiver invoke plan = some e → Writer.remarks e.steps = []) ∧
    (∀ e, emission p = some e → Writer.remarks e.steps = []) ∧
    ∀ g, ofPackage p = some g → ∀ e ∈ g.entries, ∀ n ∈ e.lengths, DeclaresLength p n := by
  refine ⟨fun receiver invoke plan serves => ⟨?slots, ?results, ?renamed, ?entry⟩, ?file, fun g => entries_lengths⟩
  case slots =>
    intro s hs
    have definite := Surface.serves_definite serves s hs
    exact ⟨definite, definite.converted p.name⟩
  case results => exact fun s hs => ((Surface.serves_laid serves).formed.results s hs).2
  case renamed =>
    intro renamed hr
    have definite := (Surface.serves_definite serves).unshadowed hr
    have emittable := (serves_emittable serves).unshadowed hr
    exact ⟨fun s hs => ⟨definite s hs, (definite s hs).converted p.name⟩,
      fun s hs => (emittable.returnable s hs).shape⟩
  case entry =>
    intro symbol e he
    obtain ⟨_, -, writes⟩ := (entry_makes symbol serves).related he
    exact writes.silent
  case file =>
    intro e he
    obtain ⟨_, -, emits⟩ := (emission_emits p).related he
    exact emits.silent

/-- A package with the functions `Move(to [3]float64, grid map[string][2]int, hits *int) []string` and
`Fill(row [n]int)`, where `n` is a constant, so that the length is not known. -/
def maze : Package where
  name := "maze"
  importPath := "example.com/maze"
  dir := ""
  functions :=
    [⟨⟨[⟨"to", .array (some 3) (.primitive "float64")⟩,
        ⟨"grid", .map .string (.array (some 2) (.primitive "int"))⟩,
        ⟨"hits", .pointer (.primitive "int")⟩], [.unnamed (.slice .string)], false⟩, "Move", ""⟩,
      ⟨⟨[⟨"row", .array none (.primitive "int")⟩], [], false⟩, "Fill", ""⟩]
  structs := []

/-- Only `Move` has an entry point, and it spells the lengths three and two. -/
theorem conversions_decided_maze :
    ∃ g, ofPackage maze = some g ∧ g.entries.map (fun e => (e.symbol, e.lengths)) = [("maze_Move", [3, 2])] ∧
      (∀ e ∈ g.entries, ∀ n ∈ e.lengths, DeclaresLength maze n) ∧
      (∃ e, emission maze = some e ∧ Writer.remarks e.steps = []) ∧
      ∃ f ∈ (Surface.ofPackage maze).functions, f.func.name = "Move" ∧ f.plan.params.length = 3 ∧
        f.plan.results.length = 1 ∧
        (∀ s ∈ f.plan.params ++ f.plan.results, s.Definite ∧ s.Converted "maze") ∧
        ∀ s ∈ f.plan.results, s.shape ≠ .pointer := by
  have seen : (ofPackage maze).map (·.entries.map fun e => (e.symbol, e.lengths))
      = some [("maze_Move", [3, 2])] := by decide +kernel
  have planned : (Surface.ofPackage maze).functions.map (fun f =>
      (f.func.name, f.plan.params.length, f.plan.results.length)) = [("Move", 3, 1)] := by decide +kernel
  obtain ⟨slots, silent, lengths⟩ := conversions_decided maze
  obtain ⟨g, hg, spelled⟩ := Option.map_eq_some_iff.1 seen
  have member : ("Move", 3, 1) ∈ (Surface.ofPackage maze).functions.map (fun f =>
      (f.func.name, f.plan.params.length, f.plan.results.length)) := planned ▸ List.mem_singleton_self _
  obtain ⟨f, hf, same⟩ := List.mem_map.1 member
  obtain ⟨name, params, results⟩ : f.func.name = "Move" ∧ f.plan.params.length = 3 ∧
      f.plan.results.length = 1 := by simpa using same
  obtain ⟨-, e, -, emitted, -⟩ := ofPackage_eq_some_iff.1 hg
  obtain ⟨definite, returned, -⟩ := slots _ _ _ (.func hf)
  exact ⟨g, hg, spelled, lengths g hg, ⟨e, emitted, silent e emitted⟩, f, hf, name, params, results, definite, returned⟩

end GoGlue.Glue
