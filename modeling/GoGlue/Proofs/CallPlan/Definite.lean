import GoGlue.Glue.Entry
import GoGlue.Proofs.Abi.Role
import GoGlue.Proofs.CallPlan.Crossable
import GoGlue.Proofs.Glue.Entries
import GoGlue.PyModule.Binding

/-!
# Slots that leave nothing to guess

The conversions of both sides are total: where a slot had no element, an element were memory itself, or an
array had no length, they would fall back on something that compiles, such as `nil` or the default integer.
Whatever is laid out for a signature is definite: its shape, its strategy and its type agree, so that no
conversion falls back.

* `Slot.Carries.definite`: a slot that is made for a type is definite.
* `Slot.Definite.converted`: the conversions of a definite slot do not guess.
* `Surface.serves_definite`: the plans of a package are made of definite slots.
-/
namespace GoGlue

/-- Shape, strategy and type of the slot agree. -/
structure Slot.Definite (s : Slot) : Prop where
  sized : s.type.Sized
  /-- One C value is not the address of elements. -/
  scalar : s.shape = .scalar → s.transfer.isScalar = true
  element : s.shape ≠ .scalar → ∃ t tr, s.elem = some (t, tr)
  /-- Elements are passed as one C value each. -/
  flat : ∀ kind e len, s.transfer = .composite kind e len → e.isScalar = true
  length : ∀ n, s.shape = .fixed n → s.type.kind = .array ∧ s.type.size = some n
  pointee : s.shape = .pointer → ∃ t p len,
    s.transfer = .composite .pointer (.value p) len ∧ s.type.elem = some t ∧ t.kind = .primitive

/-- No conversion of the slot, on either side, falls back on a guess. -/
structure Slot.Converted (own : String) (s : Slot) : Prop where
  value : s.shape = .scalar →
    Go.fromC own s.type s.transfer ≠ .same ∧ Go.intoC s.transfer ≠ .same
  element : ∀ t tr, s.elem = some (t, tr) → Go.fromC own t tr ≠ .same ∧ Go.intoC tr ≠ .same
  /-- Elements are copied on the Go side, in both directions, and passed on the other. -/
  copied : s.shape = .buffer ∨ (∃ n, s.shape = .fixed n) →
    (Go.argument own s).2 ≠ .nil ∧ (∀ var k, (Go.bufferIntoC s var k).2 ≠ .nil) ∧
      ∀ name, (Py.arguments s name).2 ≠ [.none]
  /-- Both sides know the type that a pointer leads to. -/
  pointee : s.shape = .pointer → ∃ t p, s.type.elem = some t ∧
    (CType.describe s.type s.transfer).elem = some (CType.describe t (.value p)) ∧
      (Py.slotType s).elem = some (PyType.describe t (.value p))

variable {structs : StructNames} {s : Slot}

theorem Slot.Definite.rename (h : s.Definite) (name : String) : Definite { s with name := name } :=
  ⟨h.sized, h.scalar, h.element, h.flat, h.length, h.pointee⟩

/-! ## Slots that are made for a type -/

/-- The strategy of a slot says whether it is one value or has elements. -/
theorem Slot.Carries.cases {t : GoType} (h : s.Carries structs t) :
    (s.shape = .scalar ∧ s.transfer.isScalar = true) ∨
      ∃ kind e len te, s.transfer = .composite kind e len ∧ kind.shape len = s.shape ∧
        t.elem = some te ∧ classify structs te = .ok e ∧ CallPlan.isNested kind e = false := by
  obtain ⟨tr, hc, hne, hs⟩ := crosses_iff.1 h.shape
  obtain rfl : s.transfer = tr := Except.ok.inj (h.transfer.symm.trans hc)
  cases htr : s.transfer with
  | composite kind e len =>
    rw [htr] at hc hs
    obtain ⟨nested, shape⟩ := shapeOf_composite.1 hs
    obtain ⟨te, he, hce⟩ := classify_composite hc
    exact .inr ⟨kind, e, len, te, rfl, shape, he, hce, nested⟩
  | errorOut => exact absurd htr hne
  | value | ownedString | handle =>
    rw [htr] at hs
    exact .inl ⟨(Except.ok.inj hs).symm, rfl⟩

/-- **A slot that is made for a type is definite.** -/
theorem Slot.Carries.definite {t : GoType} (h : s.Carries structs t) (sized : t.Sized) :
    s.Definite := by
  have length : ∀ n, s.shape = .fixed n → s.type.kind = .array ∧ s.type.size = some n := by
    intro n hn
    have crosses := h.shape
    rw [hn] at crosses
    cases crosses with
    | array hk hsize _ _ => exact h.type ▸ ⟨hk, hsize⟩
  rcases h.cases with ⟨shape, scalar⟩ | ⟨kind, e, len, te, transfer, shape, he, hc, nested⟩
  · refine ⟨h.type ▸ sized, fun _ => scalar, fun other => absurd shape other, ?_, length, ?_⟩
    · intro kind e len composite
      rw [composite] at scalar
      cases scalar
    · intro pointer
      rw [shape] at pointer
      cases pointer
  · have elem : s.elem = some (te, e) := by
      rw [Slot.elem, transfer, h.type, he]
      rfl
    have flat := isNested_eq_false_iff.1 nested
    refine ⟨h.type ▸ sized, ?_, fun _ => ⟨te, e, elem⟩, ?_, length, ?_⟩
    · intro scalar
      rw [← shape] at scalar
      cases kind <;> cases scalar
    · intro kind' e' len' composite
      rw [transfer] at composite
      cases composite
      exact flat.1
    · intro pointer
      rw [← shape] at pointer
      obtain rfl : kind = .pointer := by
        cases kind with
        | pointer => rfl
        | bytes | slice | array => cases pointer
      obtain ⟨p, rfl⟩ := flat.2 rfl
      exact ⟨te, p, len, transfer, h.type ▸ he, classify_value_iff.1 ⟨p, hc⟩⟩

/-! ## Conversions -/

theorem Slot.elem_eq_some_iff {t : GoType} {tr : Transfer} :
    s.elem = some (t, tr) ↔ s.type.elem = some t ∧ ∃ kind len, s.transfer = .composite kind tr len := by
  unfold Slot.elem
  cases s.transfer with
  | composite kind e len => cases s.type.elem <;> simp [and_comm, eq_comm]
  | value | ownedString | handle | errorOut => simp

/-- What is passed as one value is converted, in both directions. -/
theorem converts_of_isScalar {own : String} {t : GoType} {tr : Transfer} (h : tr.isScalar = true) :
    Go.fromC own t tr ≠ .same ∧ Go.intoC tr ≠ .same := by
  cases tr with
  | value | ownedString => simp [Go.fromC, Go.intoC]
  | handle kind nullable => cases kind <;> cases nullable <;> simp [Go.fromC, Go.intoC]
  | composite | errorOut => cases h

theorem localOf_ne_nil (name : String) : Go.localOf name ≠ "nil" := by
  intro h
  have first := congrArg (·.toList.head?) h
  simp [Go.localOf] at first

/-- **The conversions of a definite slot do not guess.** -/
theorem Slot.Definite.converted (h : s.Definite) (own : String) : s.Converted own := by
  refine ⟨fun scalar => converts_of_isScalar (h.scalar scalar), ?_, ?_, ?_⟩
  · intro t tr elem
    obtain ⟨-, kind, len, transfer⟩ := elem_eq_some_iff.1 elem
    exact converts_of_isScalar (h.flat kind tr len transfer)
  · intro copied
    have memory : s.shape ≠ .scalar := by
      rcases copied with shape | ⟨n, shape⟩ <;> simp [shape]
    obtain ⟨t, tr, elem⟩ := h.element memory
    have named := localOf_ne_nil s.name
    refine ⟨?_, fun var k => ?_, fun name => ?_⟩
    · rcases copied with shape | ⟨n, shape⟩
      · cases bytes : s.isBytes <;>
          simp [Go.argument, shape, bytes, elem, Go.Expr.nil, Go.Expr.ccall, named]
      · simp [Go.argument, shape, elem, Go.Expr.nil, named]
    · cases bytes : s.isBytes <;>
        simp [Go.bufferIntoC, bytes, elem, Go.Expr.nil, Go.Expr.ccall]
    · rcases copied with shape | ⟨n, shape⟩
      · cases bytes : s.isBytes <;> simp [Py.arguments, shape, bytes, elem]
      · simp [Py.arguments, shape, elem]
  · intro pointer
    obtain ⟨t, p, len, transfer, elem, -⟩ := h.pointee pointer
    exact ⟨t, p, elem, by simp [CType.describe, transfer, elem],
      by simp [Py.slotType, PyType.describe, transfer, elem]⟩

/-! ## Plans -/

namespace CallPlan

/-- The plan is made of definite slots. -/
def Definite (plan : CallPlan) : Prop := ∀ s ∈ plan.params ++ plan.results, s.Definite

variable {plan : CallPlan}

theorem ofSignature_definite {sig : Signature} (h : ofSignature structs sig = .ok plan) :
    plan.Definite := by
  obtain ⟨-, sized, params, results, -⟩ := ofSignature_ok_iff.1 h
  obtain ⟨ofParams, ofResults⟩ := List.forall_mem_append.1 sized
  refine List.forall_mem_append.2 ⟨fun s hs => ?_, fun s hs => ?_⟩
  · obtain ⟨p, hp, made⟩ := exists_related params hs
    exact made.carries.definite (ofParams p.1 (List.fst_mem_of_mem_zipIdx hp))
  · obtain ⟨p, hp, made⟩ := exists_related results hs
    have declared := List.mem_of_mem_filter (List.fst_mem_of_mem_zipIdx hp)
    exact made.carries.definite (ofResults p.1 declared)

theorem ofSetter_definite {t : GoType} (h : ofSetter structs t = .ok plan) : plan.Definite := by
  obtain ⟨laid, hs, rfl⟩ := ok_of_map h
  obtain ⟨params, results⟩ := List.forall_mem_append.1 (ofSignature_definite hs)
  refine List.forall_mem_append.2 ⟨List.forall_mem_map.2 fun s hs => ?_, results⟩
  exact (params s hs).rename "value"

/-- Renamed parameters are as definite as before. -/
theorem Definite.unshadowed {own : String} {renamed : CallPlan} (h : plan.Definite)
    (hr : Go.unshadowed own plan = some renamed) : renamed.Definite := by
  obtain ⟨params, same⟩ := Go.unshadowed_renamed hr
  obtain ⟨ofParams, ofResults⟩ := List.forall_mem_append.1 h
  refine List.forall_mem_append.2 ⟨fun s hs => ?_, fun s hs => ?_⟩
  · obtain ⟨t, ht, e⟩ := exists_related params hs
    rw [e]
    exact (ofParams t ht).rename s.name
  · rw [same] at hs
    exact ofResults s hs

end CallPlan

/-- **The plans of a package are made of definite slots.** -/
theorem Surface.serves_definite {p : Package} {own : String} {receiver : Option Go.Receiver}
    {invoke : Go.Invoke} {plan : CallPlan}
    (h : Go.Serves own (ofPackage p) receiver invoke plan) : plan.Definite := by
  cases h with
  | func hf => exact CallPlan.ofSignature_definite (function_source hf).2
  | getter hs hf hp =>
    rw [(struct_source hs).2] at hf
    exact CallPlan.ofSignature_definite ((field_source hf).2.1 plan hp)
  | setter hs hf hp =>
    rw [(struct_source hs).2] at hf
    exact CallPlan.ofSetter_definite ((field_source hf).2.2 plan hp)
  | method hs hm =>
    rw [(struct_source hs).2] at hm
    exact CallPlan.ofSignature_definite (method_source hm).2

end GoGlue
