import GoGlue.Proofs.GoType.WellFormed

/-!
# The slots of a call plan

A plan is made of slots that were classified and shaped one by one, so only a few combinations of type,
strategy and shape occur in it. `Slot.Form` lists them; whoever emits code for a slot has to deal with
these and no others. In particular a buffer that is not raw bytes, and every fixed array, has an element
type, and that element is passed as one value.

* `classify_composite`: a composite strategy comes from a type with an element.
* `ofSignature_form`, `ofGetter_form`, `ofSetter_form`: every slot of a plan has one of the forms.
* `ofSignature_params`, `ofSetter_params`: the types that a plan takes.
-/
namespace GoGlue

/-- The strategies of values that are passed as one C value. -/
def Transfer.isScalar : Transfer → Bool
  | .value _ | .ownedString | .handle _ _ => true
  | .composite _ _ _ | .errorOut => false

/-- What a slot of a plan can be. -/
inductive Slot.Form (structs : StructNames) : Slot → Prop
  | scalar {name t tr} (ht : classify structs t = .ok tr) (hs : tr.isScalar = true) :
    Form structs ⟨name, t, tr, .scalar⟩
  | bytes {name t e len} (ht : classify structs t = .ok (.composite .bytes e len)) :
    Form structs ⟨name, t, .composite .bytes e len, .buffer⟩
  | slice {name t te e len} (ht : classify structs t = .ok (.composite .slice e len))
    (he : t.elem = some te) (hc : classify structs te = .ok e) (hs : e.isScalar = true) :
    Form structs ⟨name, t, .composite .slice e len, .buffer⟩
  | array {name t te e len} (ht : classify structs t = .ok (.composite .array e len))
    (he : t.elem = some te) (hc : classify structs te = .ok e) (hs : e.isScalar = true) :
    Form structs ⟨name, t, .composite .array e len, .fixed len⟩
  | pointer {name t te p len} (ht : classify structs t = .ok (.composite .pointer (.value p) len))
    (he : t.elem = some te) (hc : classify structs te = .ok (.value p)) :
    Form structs ⟨name, t, .composite .pointer (.value p) len, .pointer⟩

/-- A slot keeps its form under another name. -/
theorem Slot.Form.rename {structs : StructNames} {s : Slot} (h : s.Form structs) (name : String) :
    Form structs { s with name := name } := by
  cases h with
  | scalar ht hs => exact .scalar ht hs
  | bytes ht => exact .bytes ht
  | slice ht he hc hs => exact .slice ht he hc hs
  | array ht he hc hs => exact .array ht he hc hs
  | pointer ht he hc => exact .pointer ht he hc

/-- A composite strategy is that of a type with an element, and holds the element's strategy. -/
theorem classify_composite {structs : StructNames} {t : GoType} {kind : CompositeKind} {e : Transfer}
    {len : UInt64} (h : classify structs t = .ok (.composite kind e len)) :
    ∃ te, t.elem = some te ∧ classify structs te = .ok e := by
  have inside : ∀ {te : GoType} {k : CompositeKind} {n : UInt64},
      (classify structs te).map (Transfer.composite k · n) = .ok (.composite kind e len) →
        classify structs te = .ok e := by
    intro te k n hm
    cases hc : classify structs te with
    | error cause => rw [hc] at hm; cases hm
    | ok x => rw [hc] at hm; cases hm; rfl
  unfold classify at h
  -- only pointers, slices and arrays with an element have a composite strategy
  split at h <;> try cases h
  case h_8 te _ _ =>
    split at h
    · cases h
    · exact ⟨te, rfl, inside h⟩
  case h_10 te _ _ => exact ⟨te, rfl, inside h⟩
  case h_13 te _ _ => exact ⟨te, rfl, inside h⟩

namespace CallPlan

theorem transferOf_ok {structs : StructNames} {t : GoType} {tr : Transfer}
    (h : transferOf structs t = .ok tr) : classify structs t = .ok tr := by
  unfold transferOf at h
  cases hc : classify structs t with
  | error cause => rw [hc] at h; cases h
  | ok x => rw [hc] at h; cases h; rfl

/-- A type that was classified and shaped, and is no error, gives a slot of one of the forms. -/
theorem form_of_shape {structs : StructNames} {t : GoType} {tr : Transfer} {shape : Shape}
    (name : String) (ht : classify structs t = .ok tr) (hne : tr ≠ .errorOut)
    (hsh : shapeOf t tr = .ok shape) : Slot.Form structs ⟨name, t, tr, shape⟩ := by
  cases tr with
  | value p => cases hsh; exact .scalar ht rfl
  | ownedString => cases hsh; exact .scalar ht rfl
  | handle kind nullable => cases hsh; exact .scalar ht rfl
  | errorOut => exact absurd rfl hne
  | composite kind e len =>
    obtain ⟨te, he, hc⟩ := classify_composite ht
    simp only [shapeOf] at hsh
    split at hsh
    · cases hsh
    · rename_i hn
      -- an element that is not nested is a single value; behind a pointer it is a primitive
      have hs : e.isScalar = true := by
        cases e with
        | composite _ _ _ => exact absurd rfl hn
        | errorOut => exact absurd rfl hn
        | _ => rfl
      cases kind with
      | bytes => cases hsh; exact .bytes ht
      | slice => cases hsh; exact .slice ht he hc hs
      | array => cases hsh; exact .array ht he hc hs
      | pointer =>
        cases hsh
        cases e with
        | value p => exact .pointer ht he hc
        | _ => simp [isNested] at hn

/-! ### One slot at a time -/

/-- What is laid out for the first of some parameters. -/
theorem paramSlots_cons {structs : StructNames} {p : Param} {rest : List Param} {index : Nat}
    {slots : List Slot} (h : paramSlots structs index (p :: rest) = .ok slots) :
    ∃ tr shape more, classify structs p.type = .ok tr ∧ tr ≠ .errorOut ∧
      shapeOf p.type tr = .ok shape ∧ paramSlots structs (index + 1) rest = .ok more ∧
      slots = ⟨parameterName p.name index, p.type, tr, shape⟩ :: more := by
  simp only [paramSlots, bind, Except.bind, pure, Except.pure] at h
  cases htr : transferOf structs p.type with
  | error e => simp [htr] at h
  | ok tr =>
    simp only [htr] at h
    split at h
    · cases h
    · rename_i hne
      cases hsh : shapeOf p.type tr with
      | error e => simp [hsh] at h
      | ok shape =>
        cases hr : paramSlots structs (index + 1) rest with
        | error e => simp [hsh, hr] at h
        | ok more =>
          simp only [hsh, hr, Except.ok.injEq] at h
          exact ⟨tr, shape, more, transferOf_ok htr, hne, hsh, rfl, h.symm⟩

/-- The first of some results is the error, or a slot is laid out for it. -/
theorem resultSlots_cons {structs : StructNames} {p : Param} {rest : List Param} {index count : Nat}
    {error position : Option Nat} {slots : List Slot}
    (h : resultSlots structs index count error (p :: rest) = .ok (slots, position)) :
    resultSlots structs (index + 1) count (some index) rest = .ok (slots, position) ∨
      ∃ tr shape more, classify structs p.type = .ok tr ∧ tr ≠ .errorOut ∧
        shapeOf p.type tr = .ok shape ∧ shape ≠ .pointer ∧
        resultSlots structs (index + 1) (count + 1) error rest = .ok (more, position) ∧
        slots = ⟨outName p count, p.type, tr, shape⟩ :: more := by
  simp only [resultSlots, bind, Except.bind, pure, Except.pure] at h
  cases htr : transferOf structs p.type with
  | error e => simp [htr] at h
  | ok tr =>
    simp only [htr] at h
    split at h
    · split at h
      · cases h
      · exact .inl h
    · rename_i hne
      cases hsh : shapeOf p.type tr with
      | error e => simp [hsh] at h
      | ok shape =>
        simp only [hsh] at h
        split at h
        · cases h
        · rename_i hp
          cases hr : resultSlots structs (index + 1) (count + 1) error rest with
          | error e => simp [hr] at h
          | ok more =>
            simp only [hr, Except.ok.injEq, Prod.mk.injEq] at h
            obtain ⟨rfl, rfl⟩ := h
            exact .inr ⟨tr, shape, more.1, transferOf_ok htr, hne, hsh, hp, rfl, rfl⟩

/-- A plan holds the slots of its parameters and those of its results. -/
theorem ofSignature_slots {structs : StructNames} {sig : Signature} {plan : CallPlan}
    (h : ofSignature structs sig = .ok plan) :
    paramSlots structs 0 sig.params = .ok plan.params ∧
      resultSlots structs 0 0 none sig.results = .ok (plan.results, plan.errorPosition) := by
  unfold ofSignature at h
  split at h
  · cases h
  · split at h
    · cases h
    · simp only [bind, Except.bind, pure, Except.pure] at h
      cases hp : paramSlots structs 0 sig.params with
      | error e => simp [hp] at h
      | ok params =>
        cases hr : resultSlots structs 0 0 none sig.results with
        | error e => simp [hp, hr] at h
        | ok results =>
          simp only [hp, hr, Except.ok.injEq] at h
          subst h
          exact ⟨rfl, rfl⟩

/-! ### Forms -/

theorem paramSlots_form {structs : StructNames} {ps : List Param} {index : Nat} {slots : List Slot}
    (h : paramSlots structs index ps = .ok slots) : ∀ s ∈ slots, s.Form structs := by
  induction ps generalizing index slots with
  | nil => cases h; simp
  | cons p rest ih =>
    obtain ⟨tr, shape, more, ht, hne, hsh, hr, rfl⟩ := paramSlots_cons h
    exact List.forall_mem_cons.2 ⟨form_of_shape _ ht hne hsh, ih hr⟩

theorem resultSlots_form {structs : StructNames} {ps : List Param} {index count : Nat}
    {error position : Option Nat} {slots : List Slot}
    (h : resultSlots structs index count error ps = .ok (slots, position)) :
    ∀ s ∈ slots, s.Form structs ∧ s.shape ≠ .pointer := by
  induction ps generalizing index count error slots with
  | nil => cases h; simp
  | cons p rest ih =>
    rcases resultSlots_cons h with h | ⟨tr, shape, more, ht, hne, hsh, hp, hr, rfl⟩
    · exact ih h
    · exact List.forall_mem_cons.2 ⟨⟨form_of_shape _ ht hne hsh, hp⟩, ih hr⟩

/-- Every slot of the plan has one of the forms, and no result is a pointer to a primitive. -/
structure Formed (structs : StructNames) (plan : CallPlan) : Prop where
  params : ∀ s ∈ plan.params, s.Form structs
  results : ∀ s ∈ plan.results, s.Form structs ∧ s.shape ≠ .pointer

theorem ofSignature_form {structs : StructNames} {sig : Signature} {plan : CallPlan}
    (h : ofSignature structs sig = .ok plan) : plan.Formed structs := by
  obtain ⟨params, results⟩ := ofSignature_slots h
  exact ⟨paramSlots_form params, resultSlots_form results⟩

theorem ofGetter_form {structs : StructNames} {t : GoType} {plan : CallPlan}
    (h : ofGetter structs t = .ok plan) : plan.Formed structs := ofSignature_form h

theorem ofSetter_form {structs : StructNames} {t : GoType} {plan : CallPlan}
    (h : ofSetter structs t = .ok plan) : plan.Formed structs := by
  unfold ofSetter at h
  cases hs : ofSignature structs ⟨[⟨"value", t⟩], [], false⟩ with
  | error e => rw [hs] at h; cases h
  | ok laid =>
    rw [hs] at h
    cases h
    have formed := ofSignature_form hs
    refine ⟨?_, formed.results⟩
    intro s hmem
    obtain ⟨s', hs', rfl⟩ := List.mem_map.1 hmem
    exact (formed.params s' hs').rename "value"

/-! ### Types -/

theorem paramSlots_types {structs : StructNames} {ps : List Param} {index : Nat} {slots : List Slot}
    (h : paramSlots structs index ps = .ok slots) : slots.map (·.type) = ps.map (·.type) := by
  induction ps generalizing index slots with
  | nil => cases h; rfl
  | cons p rest ih =>
    obtain ⟨tr, shape, more, -, -, -, hr, rfl⟩ := paramSlots_cons h
    simp [ih hr]

theorem ofSignature_params {structs : StructNames} {sig : Signature} {plan : CallPlan}
    (h : ofSignature structs sig = .ok plan) : plan.params.map (·.type) = sig.params.map (·.type) :=
  paramSlots_types (ofSignature_slots h).1

theorem ofSetter_params {structs : StructNames} {t : GoType} {plan : CallPlan}
    (h : ofSetter structs t = .ok plan) : plan.params.map (·.type) = [t] := by
  obtain ⟨laid, hs, rfl⟩ := ok_of_map h
  simpa [Function.comp_def] using ofSignature_params hs

end CallPlan

end GoGlue
