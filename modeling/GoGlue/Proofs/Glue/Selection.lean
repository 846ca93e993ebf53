import GoGlue.Proofs.CallPlan.Crossable
import GoGlue.Proofs.Glue.Scope

/-!
# What an entry point has to select

The struct types inside the type of a parameter are spelled in the body that takes it, whatever the strategy
of the type: a handle is looked up at its type, and memory is copied into a slice, an array or a variable of the
type that it is converted to. So a body selects all that its receiver, its callee and the types of its parameters
name, and not just some of it.

* `ofGoType_selectors`: a well-formed type selects every struct type among its nodes.
* `argument_covers`: the Go argument of a parameter is made with the type of the parameter.
* `body_covers`: a body selects everything that it is expected to.
-/
namespace GoGlue.Go

section

variable {own : String} {structs : StructNames}

-- generated code is spelled out in full here, down to the selectors of its parts
attribute [local simp] Ty.selectors Expr.selectors Expr.selectorsAll Expr.calls Expr.ccall
  Stmt.selectors Stmt.selectorsAll

/-! ## Types -/

mutual
/-- **A well-formed type selects every struct type among its nodes.** -/
theorem ofGoType_selectors (t : GoType) (h : t.WellFormed) :
    ∀ n ∈ t.nodes, n.kind = .struct → Selector.ofStruct own n ∈ (Ty.ofGoType own t).selectors := by
  match t with
  | ⟨kind, name, package, elem, key, size⟩ =>
    obtain ⟨sound, ofElem, ofKey⟩ := GoType.wellFormed_iff.1 h
    have elems := ofPart_selectors elem ofElem
    have keys := ofPart_selectors key ofKey
    have noElem : ¬ (kind = .pointer ∨ kind = .slice ∨ kind = .array ∨ kind = .map) → elem = none :=
      fun hk => Option.not_isSome_iff_eq_none.1 (mt sound.elem.1 hk)
    have noKey : kind ≠ .map → key = none := fun hk => Option.not_isSome_iff_eq_none.1 (mt sound.key.1 hk)
    rw [GoType.nodes, List.forall_mem_cons, List.forall_mem_append]
    cases kind with
    | struct =>
      cases noElem (by simp)
      cases noKey (by simp)
      cases package <;> simp [Ty.ofGoType, Selector.ofStruct, GoType.partNodes]
    | pointer | slice | array =>
      cases noKey (by simp)
      exact ⟨fun hk => absurd hk (by simp), elems, by simp [GoType.partNodes]⟩
    | map =>
      exact ⟨fun hk => absurd hk (by simp), fun n hn hk => List.mem_append_right _ (elems n hn hk),
        fun n hn hk => List.mem_append_left _ (keys n hn hk)⟩
    | _ =>
      cases noElem (by simp)
      cases noKey (by simp)
      exact ⟨fun hk => absurd hk (by simp), by simp [GoType.partNodes], by simp [GoType.partNodes]⟩
theorem ofPart_selectors (part : Option GoType) (h : ∀ t ∈ part, t.WellFormed) :
    ∀ n ∈ GoType.partNodes part, n.kind = .struct →
      Selector.ofStruct own n ∈ (Ty.ofPart own part).selectors := by
  match part with
  | none => simp [GoType.partNodes]
  | some t =>
    rw [GoType.partNodes, Ty.ofPart]
    exact ofGoType_selectors t (h t rfl)
end

/-- A type that wraps another one selects what that does. -/
theorem wrapped_selectors {t e : GoType} (hk : t.kind = .pointer ∨ t.kind = .slice ∨ t.kind = .array)
    (he : t.elem = some e) : (Ty.ofGoType own t).selectors = (Ty.ofGoType own e).selectors := by
  obtain ⟨kind, name, package, elem, key, size⟩ := t
  cases he
  rcases hk with rfl | rfl | rfl <;> simp [Ty.ofGoType, Ty.ofPart]

/-! ## Conversions -/

/-- The kinds of types with a composite strategy. -/
theorem composite_kind {t : GoType} {kind : CompositeKind} {e : Transfer} {len : UInt64}
    (h : classify structs t = .ok (.composite kind e len)) :
    t.kind = .pointer ∨ t.kind = .slice ∨ t.kind = .array := by
  cases strategy_of_classify h with
  | slice hk => exact .inr (.inl hk)
  | array hk => exact .inr (.inr hk)
  | pointer hk => exact .inl hk

/-- What is passed by name selects nothing. -/
theorem value_selectors {t : GoType} (hk : t.kind = .primitive ∨ t.kind = .string) :
    (Ty.ofGoType own t).selectors = [] := by
  obtain ⟨kind, name, package, elem, key, size⟩ := t
  rcases hk with rfl | rfl <;> simp [Ty.ofGoType]

/-- Bytes are copied without a word about their type, which selects nothing. -/
theorem bytes_selectors {t : GoType} {e : Transfer} {len : UInt64}
    (h : classify structs t = .ok (.composite .bytes e len)) : (Ty.ofGoType own t).selectors = [] := by
  have plain : ∀ {u : GoType}, u.isByteSlice = true → (Ty.ofGoType own u).selectors = [] := by
    intro u hb
    unfold GoType.isByteSlice at hb
    split at hb
    · next k hk he =>
      rw [Bool.and_eq_true, decide_eq_true_eq] at hb
      rw [wrapped_selectors (.inr (.inl hk)) he, value_selectors (.inl hb.1)]
    · cases hb
  have other : ∀ {u : GoType} {kind : CompositeKind} {n : UInt64}, kind ≠ .bytes →
      (classify structs u).map (Transfer.composite kind · n) ≠ .ok (.composite .bytes e len) := by
    intro u kind n hk hm
    obtain ⟨inner, -, made⟩ := ok_of_map hm
    cases made
    exact hk rfl
  unfold classify at h
  split at h <;> try cases h
  · split at h
    · cases h
    · exact absurd h (other (by simp))
  · dsimp only at h
    split at h
    · next bytes => exact plain bytes
    · exact absurd h (other (by simp))
  · exact absurd h (other (by simp))

/-- A value is converted with its type, unless that is passed by name. -/
theorem fromC_covers {t : GoType} {tr : Transfer} (ht : classify structs t = .ok tr)
    (hs : tr.isScalar = true) (e : Expr) :
    (Ty.ofGoType own t).selectors ⊆ ((fromC own t tr).apply e).selectors := by
  have composite : ∀ {u : GoType} {kind : CompositeKind} {n : UInt64},
      (classify structs u).map (Transfer.composite kind · n) ≠ .ok tr := by
    intro u kind n hm
    obtain ⟨inner, -, rfl⟩ := ok_of_map hm
    cases hs
  unfold classify at ht
  split at ht <;> try cases ht
  · simp [Ty.ofGoType]
  · simp [Ty.ofGoType]
  · cases hs
  · simp [fromC, GoType.structHandle, FromC.apply]
  · simp [fromC, FromC.apply]
  · simp [fromC, FromC.apply]
  · split at ht
    · cases ht
      simp [fromC, GoType.structHandle, FromC.apply, Ty.ofGoType, Ty.ofPart]
    · exact absurd ht composite
  · exact absurd ht composite
  · exact absurd ht composite

/-- **The Go argument of a parameter is made with the type of the parameter.** -/
theorem argument_covers {s : Slot} (hf : s.Form structs) :
    (Ty.ofGoType own s.type).selectors
      ⊆ Stmt.selectorsAll (argument own s).1 ++ (argument own s).2.selectors := by
  cases hf with
  | scalar ht hs => simpa [argument] using fromC_covers ht hs _
  | bytes ht => simp [bytes_selectors ht]
  | slice ht he hc hs =>
    rw [wrapped_selectors (composite_kind ht) he]
    simp [argument, Slot.isBytes, Slot.elem, he]
  | array ht he hc hs =>
    rw [wrapped_selectors (composite_kind ht) he]
    simp [argument, Slot.elem, he]
  | pointer ht he hc =>
    rw [wrapped_selectors (composite_kind ht) he]
    simp [argument, he]

/-! ## Bodies -/

variable {plan : CallPlan} {receiver : Option Receiver} {invoke : Invoke}

theorem Stmt.selectors_subset {ss : List Stmt} {s : Stmt} (h : s ∈ ss) :
    s.selectors ⊆ Stmt.selectorsAll ss :=
  (Stmt.mem_selectorsAll (P := (· ∈ Stmt.selectorsAll ss))).1 (fun _ => id) s h

theorem Stmt.selectorsAll_subset {ss ts : List Stmt} (h : ss ⊆ ts) :
    Stmt.selectorsAll ss ⊆ Stmt.selectorsAll ts :=
  (Stmt.mem_selectorsAll (P := (· ∈ Stmt.selectorsAll ts))).2 fun _ hs => Stmt.selectors_subset (h hs)

theorem Expr.selectors_subset {es : List Expr} {e : Expr} (h : e ∈ es) :
    e.selectors ⊆ Expr.selectorsAll es :=
  (Expr.mem_selectorsAll (P := (· ∈ Expr.selectorsAll es))).1 (fun _ => id) e h

/-- Only a field is read without arguments. -/
def Invoke.Passes (plan : CallPlan) : Invoke → Prop
  | .read _ => plan.params = []
  | .func _ | .method _ | .write _ => True

/-- The arguments of a call are part of it. -/
theorem callStep_covers (h : invoke.Passes plan) : ∀ arg ∈ arguments own plan,
    arg.selectors ⊆ Stmt.selectorsAll (callStep own receiver plan invoke) := by
  intro arg ha
  have passed : ∀ f : Expr, arg.selectors ⊆ (assignResults plan (.call f (arguments own plan))).selectors := by
    intro f
    rw [assignResults_selectors, Expr.selectors]
    exact List.subset_append_of_subset_right _ (Expr.selectors_subset ha)
  cases invoke with
  | func callee => simpa [callStep] using passed callee
  | method name =>
    rcases receiver with - | ⟨struct, type, byPointer⟩
    · simpa [callStep] using passed _
    · cases byPointer <;> simpa [callStep] using passed _
  | read field =>
    rw [arguments, show plan.params = [] from h] at ha
    cases ha
  | write field =>
    have assigned := Stmt.selectors_subset
      (List.mem_map_of_mem (f := fun arg => Stmt.assign (.member (.name "_obj") field) arg) ha)
    exact List.Subset.trans (by simp) assigned

/-- What is prepared for a parameter is part of the body, and so is its argument. -/
theorem body_passes (h : invoke.Passes plan) {s : Slot} (hs : s ∈ plan.params) :
    argumentSelectors own s ⊆ Stmt.selectorsAll (body own receiver invoke plan) := by
  intro x hx
  simp only [body, Stmt.selectorsAll_append]
  rcases List.mem_append.1 hx with prepared | passed
  · have converted : x ∈ Stmt.selectorsAll (convertStep own plan) :=
      Stmt.selectorsAll_subset (fun stmt hm => List.mem_flatMap.2 ⟨s, hs, hm⟩) prepared
    simp [converted]
  · have called : x ∈ Stmt.selectorsAll (callStep own receiver plan invoke) :=
      callStep_covers h _ (List.mem_map_of_mem (f := fun s => (argument own s).2) hs) passed
    simp [called]

/-- **A body selects all that its receiver, its callee and the types of its parameters do.** -/
theorem body_covers (hf : plan.Formed structs) (h : invoke.Passes plan) :
    (∀ r ∈ receiver, r.type.selectors ⊆ Stmt.selectorsAll (body own receiver invoke plan)) ∧
    (∀ callee, invoke = .func callee →
      callee.selectors ⊆ Stmt.selectorsAll (body own receiver invoke plan)) ∧
    ∀ s ∈ plan.params,
      (Ty.ofGoType own s.type).selectors ⊆ Stmt.selectorsAll (body own receiver invoke plan) := by
  refine ⟨?_, ?_, ?_⟩
  · rintro r ⟨⟩ x hx
    simp [body, Stmt.selectorsAll_append, receiveStep, hx]
  · rintro callee rfl x hx
    simp [body, Stmt.selectorsAll_append, callStep, assignResults_selectors, hx]
  · exact fun s hs => List.Subset.trans (argument_covers (hf.params s hs)) (body_passes h hs)

/-- **The entry point of a member** selects all that its receiver, its callee and its parameters do. -/
theorem served_covers {surface : Surface} {es : List Entry} (he : entries own surface = some es)
    (hs : Serves own surface receiver invoke plan) (hf : plan.Formed structs) (h : invoke.Passes plan) :
    ∃ e ∈ es, (∀ r ∈ receiver, r.type.selectors ⊆ e.selectors) ∧
      (∀ callee, invoke = .func callee → callee.selectors ⊆ e.selectors) ∧
      ∀ s ∈ plan.params, (Ty.ofGoType own s.type).selectors ⊆ e.selectors := by
  obtain ⟨symbol, e, hm, made⟩ := served_mem he hs
  obtain ⟨renamed, hu, rfl⟩ := entryOf_eq_some_iff.1 made
  have params := (unshadowed_renamed hu).1
  have passes : invoke.Passes renamed := by
    cases invoke with
    | read field =>
      rw [show plan.params = [] from h] at params
      exact List.forall₂_nil_left_iff.1 params
    | func | method | write => trivial
  obtain ⟨ofReceiver, ofCallee, ofParams⟩ :=
    @body_covers own structs renamed receiver invoke (formed_unshadowed hu hf) passes
  refine ⟨_, hm, ofReceiver, ofCallee, fun s hs => ?_⟩
  obtain ⟨s', hs', same⟩ := exists_related_right params hs
  have covered := ofParams s' hs'
  rw [same] at covered
  exact covered

end

end GoGlue.Go
