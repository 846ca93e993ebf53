import Mathlib.Data.List.InsertIdx
import GoGlue.Proofs.CallPlan.Slots
import GoGlue.Proofs.GoType.WellFormed
import GoGlue.Proofs.Related

/-!
# What can cross the boundary

Whether a signature has a plan is decided type by type, by the strategy of the type and by the shape that the
strategy allows for. Here the same is said without strategies: which types are passed as one value, which as
memory, and which not at all. A signature has a plan exactly if its types are of these, each has its lengths,
and there is at most one error. The plan then follows the declaration: one slot for each parameter and for
each result that is no error, in order, and the place of the error.

* `isScalar_iff`, `crosses_iff`: the types that are passed as one value, and the shapes of types.
* `paramSlots_ok_iff`, `resultSlots_ok_iff`: what is laid out for parameters and for results.
* `ofSignature_ok_iff`: a plan is that of a signature exactly if it is laid out for it.
* `crossable_laidOut`: a signature has a plan exactly if it can cross, and the plan follows the declaration.
-/
namespace GoGlue

/-! ## Types -/

namespace GoType

/-- Values of the type are passed as one C value. -/
inductive IsScalar (structs : StructNames) (t : GoType) : Prop
  | plain (hk : t.kind = .primitive ∨ t.kind = .string ∨ t.kind = .struct ∨ t.kind = .map ∨
      t.kind = .interface)
  /-- A pointer to a struct of the package. -/
  | object {e : GoType} (hk : t.kind = .pointer) (he : t.elem = some e) (hs : e.kind = .struct)
      (hp : e.package = none) (hn : e.name ∈ structs)

def PointsToPrimitive (t : GoType) : Prop :=
  t.kind = .pointer ∧ ∃ e, t.elem = some e ∧ e.kind = .primitive

/-- Values of the type can be passed, in the given shape. -/
inductive Crosses (structs : StructNames) (t : GoType) : Shape → Prop
  | scalar (h : t.IsScalar structs) : Crosses structs t .scalar
  | slice {e : GoType} (hk : t.kind = .slice) (he : t.elem = some e) (h : e.IsScalar structs) :
    Crosses structs t .buffer
  | array {e : GoType} {n : UInt64} (hk : t.kind = .array) (hn : t.size = some n)
      (he : t.elem = some e) (h : e.IsScalar structs) : Crosses structs t (.fixed n)
  | pointer (h : t.PointsToPrimitive) : Crosses structs t .pointer

def Passable (structs : StructNames) (t : GoType) : Prop := ∃ shape, t.Crosses structs shape

/-- Every array inside the type has a length. -/
def Sized (t : GoType) : Prop := ∀ n ∈ t.nodes, n.kind = .array → n.size ≠ none

mutual
theorem hasUnknownLen_eq_false_iff (t : GoType) : t.hasUnknownLen = false ↔ t.Sized := by
  match t with
  | ⟨kind, name, package, elem, key, size⟩ =>
    have here : (kind = .array && size.isNone) = false ↔ (kind = .array → size ≠ none) := by
      cases size <;> simp
    rw [hasUnknownLen, Bool.or_eq_false_iff, Bool.or_eq_false_iff, here,
      unknownLenInside_eq_false_iff elem, unknownLenInside_eq_false_iff key, Sized, nodes,
      List.forall_mem_cons, List.forall_mem_append, and_assoc]
theorem unknownLenInside_eq_false_iff (part : Option GoType) :
    unknownLenInside part = false ↔ ∀ n ∈ partNodes part, n.kind = .array → n.size ≠ none := by
  match part with
  | none => simp [unknownLenInside, partNodes]
  | some t => exact hasUnknownLen_eq_false_iff t
end

end GoType

/-! ## Strategies -/

section

variable {structs : StructNames} {t : GoType} {tr : Transfer}

/-- What a strategy says about the type that it is for. -/
inductive Strategy (structs : StructNames) (t : GoType) : Transfer → Prop
  | value {p} (hk : t.kind = .primitive) : Strategy structs t (.value p)
  | ownedString (hk : t.kind = .string) : Strategy structs t .ownedString
  | errorOut (hk : t.kind = .error) : Strategy structs t .errorOut
  | handle {kind nullable} (hk : t.kind ≠ .primitive) (h : t.IsScalar structs) :
    Strategy structs t (.handle kind nullable)
  | slice {te kind e} (hk : t.kind = .slice) (hb : kind = .bytes ∨ kind = .slice)
      (he : t.elem = some te) (hc : classify structs te = .ok e) :
    Strategy structs t (.composite kind e 0)
  | array {te e len} (hk : t.kind = .array) (hn : t.size = some len) (he : t.elem = some te)
      (hc : classify structs te = .ok e) : Strategy structs t (.composite .array e len)
  | pointer {te e} (hk : t.kind = .pointer) (he : t.elem = some te)
      (hc : classify structs te = .ok e) : Strategy structs t (.composite .pointer e 0)

theorem isKnown_iff : t.isKnown structs = true ↔ t.package = none ∧ t.name ∈ structs := by
  simp [GoType.isKnown]

/-- The kind of the memory that a slice is passed in. -/
theorem byteKind_cases (b : Bool) :
    (if b then CompositeKind.bytes else .slice) = .bytes ∨
      (if b then CompositeKind.bytes else .slice) = .slice := by
  cases b <;> simp

theorem strategy_of_classify (h : classify structs t = .ok tr) : Strategy structs t tr := by
  unfold classify at h
  split at h <;> try cases h
  · exact .value rfl
  · exact .ownedString rfl
  · exact .errorOut rfl
  · exact .handle (by simp) (.plain (by simp))
  · exact .handle (by simp) (.plain (by simp))
  · exact .handle (by simp) (.plain (by simp))
  · split at h
    · rename_i known
      cases h
      rw [Bool.and_eq_true, decide_eq_true_eq, isKnown_iff] at known
      obtain ⟨kind, package, name⟩ := known
      exact .handle (by simp) (.object rfl rfl kind package name)
    · obtain ⟨e, hc, rfl⟩ := ok_of_map h
      exact .pointer rfl rfl hc
  · obtain ⟨e, hc, rfl⟩ := ok_of_map h
    exact .slice rfl (byteKind_cases _) rfl hc
  · obtain ⟨e, hc, rfl⟩ := ok_of_map h
    exact .array rfl rfl rfl hc

theorem classify_errorOut_iff : classify structs t = .ok .errorOut ↔ t.kind = .error := by
  constructor
  · intro h
    cases strategy_of_classify h with
    | errorOut hk => exact hk
  · obtain ⟨kind, name, package, elem, key, size⟩ := t
    rintro rfl
    rw [classify]

theorem classify_value_iff : (∃ p, classify structs t = .ok (.value p)) ↔ t.kind = .primitive := by
  constructor
  · rintro ⟨p, h⟩
    cases strategy_of_classify h with
    | value hk => exact hk
  · obtain ⟨kind, name, package, elem, key, size⟩ := t
    rintro rfl
    exact ⟨_, by rw [classify]⟩

/-- **The types that are passed as one value** are those that have the strategy of one. -/
theorem isScalar_iff :
    t.IsScalar structs ↔ ∃ tr, classify structs t = .ok tr ∧ tr.isScalar = true := by
  constructor
  · obtain ⟨kind, name, package, elem, key, size⟩ := t
    rintro (hk | ⟨rfl, rfl, hs, hp, hn⟩)
    · rcases hk with rfl | rfl | rfl | rfl | rfl <;> exact ⟨_, by rw [classify], rfl⟩
    · next e =>
      refine ⟨.handle (e.structHandle structs) true, ?_, rfl⟩
      rw [classify, if_pos (by rw [hs, isKnown_iff.2 ⟨hp, hn⟩]; rfl)]
  · rintro ⟨tr, h, hs⟩
    cases strategy_of_classify h with
    | value hk => exact .plain (.inl hk)
    | ownedString hk => exact .plain (.inr (.inl hk))
    | handle _ scalar => exact scalar
    | errorOut | slice | array | pointer => cases hs

theorem isNested_eq_false_iff {kind : CompositeKind} :
    CallPlan.isNested kind tr = false ↔
      tr.isScalar = true ∧ (kind = .pointer → ∃ p, tr = .value p) := by
  cases tr <;> simp [CallPlan.isNested, Transfer.isScalar]

/-- The shape of a composite whose elements are not nested. -/
def CompositeKind.shape (len : UInt64) : CompositeKind → Shape
  | .bytes | .slice => .buffer
  | .array => .fixed len
  | .pointer => .pointer

theorem shapeOf_composite {kind : CompositeKind} {e : Transfer} {len : UInt64} {shape : Shape} :
    CallPlan.shapeOf t (.composite kind e len) = .ok shape ↔
      CallPlan.isNested kind e = false ∧ kind.shape len = shape := by
  unfold CallPlan.shapeOf
  cases hn : CallPlan.isNested kind e <;> cases kind <;> simp [CompositeKind.shape, hn]

/-- **The shapes of types** are those that their strategies allow for. -/
theorem crosses_iff {shape : Shape} :
    t.Crosses structs shape ↔
      ∃ tr, classify structs t = .ok tr ∧ tr ≠ .errorOut ∧ CallPlan.shapeOf t tr = .ok shape := by
  constructor
  · rintro (h | ⟨hk, he, h⟩ | ⟨hk, hn, he, h⟩ | ⟨hk, e, he, hp⟩)
    · obtain ⟨tr, hc, hs⟩ := isScalar_iff.1 h
      cases tr with
      | composite | errorOut => cases hs
      | value | ownedString | handle => exact ⟨_, hc, by simp, rfl⟩
    · obtain ⟨e, hc, hs⟩ := isScalar_iff.1 h
      obtain ⟨kind, name, package, elem, key, size⟩ := t
      cases hk
      cases he
      refine ⟨_, by rw [classify, hc]; rfl, by simp, shapeOf_composite.2 ?_⟩
      rcases byteKind_cases (GoType.isByteSlice _) with hb | hb <;> rw [hb]
      · exact ⟨isNested_eq_false_iff.2 ⟨hs, by simp⟩, rfl⟩
      · exact ⟨isNested_eq_false_iff.2 ⟨hs, by simp⟩, rfl⟩
    · obtain ⟨e, hc, hs⟩ := isScalar_iff.1 h
      obtain ⟨kind, name, package, elem, key, size⟩ := t
      cases hk
      cases he
      cases hn
      exact ⟨_, by rw [classify, hc]; rfl, by simp,
        shapeOf_composite.2 ⟨isNested_eq_false_iff.2 ⟨hs, by simp⟩, rfl⟩⟩
    · obtain ⟨p, hc⟩ : ∃ p, classify structs e = .ok (.value p) := classify_value_iff.2 hp
      obtain ⟨kind, name, package, elem, key, size⟩ := t
      cases hk
      cases he
      refine ⟨_, by rw [classify, hc, if_neg (by simp [hp])]; rfl, by simp,
        shapeOf_composite.2 ⟨isNested_eq_false_iff.2 ⟨rfl, fun _ => ⟨p, rfl⟩⟩, rfl⟩⟩
  · rintro ⟨tr, hc, hne, hs⟩
    cases strategy_of_classify hc with
    | value | ownedString | handle =>
      cases hs
      exact .scalar (isScalar_iff.2 ⟨_, hc, rfl⟩)
    | errorOut => exact absurd rfl hne
    | slice hk hb he helem =>
      obtain ⟨nested, rfl⟩ := shapeOf_composite.1 hs
      have scalar := isScalar_iff.2 ⟨_, helem, (isNested_eq_false_iff.1 nested).1⟩
      rcases hb with rfl | rfl <;> exact .slice hk he scalar
    | array hk hn he helem =>
      obtain ⟨nested, rfl⟩ := shapeOf_composite.1 hs
      exact .array hk hn he (isScalar_iff.2 ⟨_, helem, (isNested_eq_false_iff.1 nested).1⟩)
    | pointer hk he helem =>
      obtain ⟨nested, rfl⟩ := shapeOf_composite.1 hs
      obtain ⟨p, rfl⟩ := (isNested_eq_false_iff.1 nested).2 rfl
      exact .pointer ⟨hk, _, he, classify_value_iff.1 ⟨p, helem⟩⟩

theorem GoType.Crosses.unique {shape shape' : Shape} (h : t.Crosses structs shape)
    (h' : t.Crosses structs shape') : shape = shape' := by
  obtain ⟨tr, hc, -, hs⟩ := crosses_iff.1 h
  obtain ⟨tr', hc', -, hs'⟩ := crosses_iff.1 h'
  cases hc.symm.trans hc'
  exact Except.ok.inj (hs.symm.trans hs')

end

/-! ## Slots -/

/-- The slot is made for values of the type. -/
structure Slot.Carries (structs : StructNames) (t : GoType) (s : Slot) : Prop where
  type : s.type = t
  transfer : classify structs t = .ok s.transfer
  shape : t.Crosses structs s.shape

theorem bind_eq_ok_iff {α β ε : Type} {x : Except ε α} {f : α → Except ε β} {b : β} :
    x >>= f = .ok b ↔ ∃ a, x = .ok a ∧ f a = .ok b := by
  cases x <;> simp [bind, Except.bind]

theorem ite_error_eq_ok_iff {α ε : Type} {c : Prop} [Decidable c] {e : ε} {x : Except ε α} {a : α} :
    (if c then .error e else x) = .ok a ↔ ¬ c ∧ x = .ok a := by
  by_cases h : c <;> simp [h]

namespace CallPlan

variable {structs : StructNames}

theorem transferOf_ok_iff {t : GoType} {tr : Transfer} :
    transferOf structs t = .ok tr ↔ classify structs t = .ok tr := by
  unfold transferOf
  cases classify structs t <;> simp [Except.mapError]

/-- The slot of a parameter at its place. -/
structure OfParam (structs : StructNames) (p : Param × Nat) (s : Slot) : Prop where
  name : s.name = parameterName p.1.name p.2
  carries : s.Carries structs p.1.type

/-- The slot of a result at its place among those that are no errors. -/
structure OfResult (structs : StructNames) (p : Param × Nat) (s : Slot) : Prop where
  name : s.name = outName p.1 p.2
  carries : s.Carries structs p.1.type
  shape : s.shape ≠ .pointer

/-- The results that are no errors. -/
def values (ps : List Param) : List Param := ps.filter (!·.type.isError)

/-- The places of the errors, if the first result has the given place. -/
def errorPlaces (index : Nat) (ps : List Param) : List Nat :=
  ((ps.zipIdx index).filter (·.1.type.isError)).map (·.2)

/-- **What is laid out for parameters.** -/
theorem paramSlots_ok_iff {ps : List Param} {index : Nat} {slots : List Slot} :
    paramSlots structs index ps = .ok slots ↔
      List.Forall₂ (OfParam structs) (ps.zipIdx index) slots := by
  induction ps generalizing index slots with
  | nil => simp [paramSlots, eq_comm]
  | cons p rest ih =>
    simp only [paramSlots, bind_eq_ok_iff, ite_error_eq_ok_iff, transferOf_ok_iff, ih, List.zipIdx_cons,
      List.forall₂_cons_left_iff, pure, Except.pure, Except.ok.injEq]
    constructor
    · rintro ⟨tr, hc, hne, shape, hs, more, hm, rfl⟩
      exact ⟨_, more, ⟨rfl, rfl, hc, crosses_iff.2 ⟨tr, hc, hne, hs⟩⟩, hm, rfl⟩
    · rintro ⟨⟨name, type, tr, shape⟩, more, ⟨rfl, rfl, hc, hs⟩, hm, rfl⟩
      obtain ⟨tr', hc', hne, hs⟩ := crosses_iff.1 hs
      cases hc.symm.trans hc'
      exact ⟨tr, hc, hne, shape, hs, more, hm, rfl⟩

theorem resultSlots_error {p : Param} {rest : List Param} {index count : Nat} {error : Option Nat}
    (h : p.type.isError = true) :
    resultSlots structs index count error (p :: rest)
      = if error.isSome then .error .multipleErrors
        else resultSlots structs (index + 1) count (some index) rest := by
  have isError : classify structs p.type = .ok .errorOut := classify_errorOut_iff.2 (of_decide_eq_true h)
  rw [resultSlots, transferOf_ok_iff.2 isError]
  simp [bind, Except.bind]

theorem resultSlots_value {p : Param} {rest : List Param} {index count : Nat}
    {error position : Option Nat} {slots : List Slot} (h : p.type.isError = false) :
    resultSlots structs index count error (p :: rest) = .ok (slots, position) ↔
      ∃ s more, OfResult structs (p, count) s ∧
        resultSlots structs (index + 1) (count + 1) error rest = .ok (more, position) ∧
        slots = s :: more := by
  have noError : classify structs p.type ≠ .ok .errorOut :=
    fun hc => of_decide_eq_false h (classify_errorOut_iff.1 hc)
  rw [resultSlots, bind_eq_ok_iff]
  constructor
  · rintro ⟨tr, hc, h⟩
    rw [transferOf_ok_iff] at hc
    have hne : tr ≠ .errorOut := fun e => noError (e ▸ hc)
    simp only [hne, if_false, bind_eq_ok_iff, ite_error_eq_ok_iff, pure, Except.pure,
      Except.ok.injEq, Prod.mk.injEq] at h
    obtain ⟨shape, hs, hp, ⟨more, _⟩, hm, rfl, rfl⟩ := h
    exact ⟨_, more, ⟨rfl, ⟨rfl, hc, crosses_iff.2 ⟨tr, hc, hne, hs⟩⟩, hp⟩, hm, rfl⟩
  · rintro ⟨⟨name, type, tr, shape⟩, more, ⟨rfl, ⟨rfl, hc, hs⟩, hp⟩, hm, rfl⟩
    obtain ⟨tr', hc', hne, hs⟩ := crosses_iff.1 hs
    cases hc.symm.trans hc'
    refine ⟨tr, transferOf_ok_iff.2 hc, ?_⟩
    simp only [hne, if_false, bind_eq_ok_iff, ite_error_eq_ok_iff]
    exact ⟨shape, hs, hp, (more, position), hm, rfl⟩

/-- **What is laid out for results.** -/
theorem resultSlots_ok_iff {ps : List Param} {index count : Nat} {error position : Option Nat}
    {slots : List Slot} :
    resultSlots structs index count error ps = .ok (slots, position) ↔
      List.Forall₂ (OfResult structs) ((values ps).zipIdx count) slots ∧
        error.toList ++ errorPlaces index ps = position.toList := by
  induction ps generalizing index count error slots with
  | nil =>
    have same : error.toList = position.toList ↔ error = position := by
      cases error <;> cases position <;> simp
    simp [resultSlots, values, errorPlaces, same, eq_comm]
  | cons p rest ih =>
    cases h : p.type.isError with
    | true =>
      have here : values (p :: rest) = values rest ∧
          errorPlaces index (p :: rest) = index :: errorPlaces (index + 1) rest := by
        simp [values, errorPlaces, List.zipIdx_cons, h]
      rw [resultSlots_error h, here.1, here.2]
      cases error with
      | none => simp [ih]
      | some first => cases position <;> simp
    | false =>
      have here : values (p :: rest) = p :: values rest ∧
          errorPlaces index (p :: rest) = errorPlaces (index + 1) rest := by
        simp [values, errorPlaces, List.zipIdx_cons, h]
      rw [resultSlots_value h, here.1, here.2, List.zipIdx_cons, List.forall₂_cons_left_iff]
      simp only [ih]
      constructor
      · rintro ⟨s, more, hs, ⟨hm, hp⟩, rfl⟩
        exact ⟨⟨s, more, hs, hm, rfl⟩, hp⟩
      · rintro ⟨⟨s, more, hs, hm, rfl⟩, hp⟩
        exact ⟨s, more, hs, ⟨hm, hp⟩, rfl⟩

/-- A slot can be made for each of the places if it can be made for each one alone. -/
theorem exists_forall₂_iff {α β : Type} {R : α → β → Prop} {xs : List α} :
    (∃ ys, List.Forall₂ R xs ys) ↔ ∀ x ∈ xs, ∃ y, R x y := by
  constructor
  · rintro ⟨ys, h⟩ x hx
    obtain ⟨y, -, hr⟩ := exists_related_right h hx
    exact ⟨y, hr⟩
  · intro h
    induction xs with
    | nil => exact ⟨[], .nil⟩
    | cons x rest ih =>
      obtain ⟨⟨y, hy⟩, others⟩ := List.forall_mem_cons.1 h
      obtain ⟨ys, hys⟩ := ih others
      exact ⟨y :: ys, .cons hy hys⟩

theorem exists_carries_iff {t : GoType} {shape : Shape} (name : String) :
    (∃ tr, Slot.Carries structs t ⟨name, t, tr, shape⟩) ↔ t.Crosses structs shape := by
  constructor
  · rintro ⟨tr, h⟩
    exact h.shape
  · intro h
    obtain ⟨tr, hc, -⟩ := crosses_iff.1 h
    exact ⟨tr, rfl, hc, h⟩

theorem forall_mem_zipIdx_iff {α : Type} {P : α → Prop} (xs : List α) (k : Nat) :
    (∀ x ∈ xs.zipIdx k, P x.1) ↔ ∀ x ∈ xs, P x := by
  have firsts := List.forall_mem_map (f := Prod.fst) (l := xs.zipIdx k) (P := P)
  rw [List.zipIdx_map_fst] at firsts
  exact firsts.symm

/-! ## Errors among the results -/

theorem length_errorPlaces (index : Nat) (ps : List Param) :
    (errorPlaces index ps).length = (ps.filter (·.type.isError)).length := by
  have firsts : ps.filter (·.type.isError)
      = ((ps.zipIdx index).filter (·.1.type.isError)).map Prod.fst := by
    conv_lhs => rw [← List.zipIdx_map_fst index ps, List.filter_map]
    rfl
  rw [firsts, errorPlaces, List.length_map, List.length_map]

theorem mem_errorPlaces {ps : List Param} {i : Nat} :
    i ∈ errorPlaces 0 ps ↔ ∃ p, ps[i]? = some p ∧ p.type.kind = .error := by
  simp [errorPlaces, List.mem_zipIdx_iff_getElem?, GoType.isError]

theorem errorPlaces_eq_nil_iff {ps : List Param} {index : Nat} :
    errorPlaces index ps = [] ↔ ∀ p ∈ ps, p.type.isError = false := by
  rw [← List.length_eq_zero_iff, length_errorPlaces, List.length_eq_zero_iff, List.filter_eq_nil_iff]
  simp only [Bool.not_eq_true]

theorem values_eq_self {ps : List Param} (h : ∀ p ∈ ps, p.type.isError = false) : values ps = ps :=
  List.filter_eq_self.2 fun p hp => by simp [h p hp]

/-- The only error stands between values. -/
theorem exists_split {ps : List Param} {i : Nat} (h : errorPlaces 0 ps = [i]) :
    ∃ (before : List Param) (p : Param) (after : List Param), ps = before ++ p :: after ∧
      before.length = i ∧ p.type.isError = true ∧
      (∀ q ∈ before, q.type.isError = false) ∧ ∀ q ∈ after, q.type.isError = false := by
  have one : (ps.filter (·.type.isError)).length = 1 := by rw [← length_errorPlaces 0, h, List.length_singleton]
  obtain ⟨p, hp⟩ := List.length_eq_one_iff.1 one
  obtain ⟨before, after, rfl, first, error, last⟩ := List.filter_eq_cons_iff.1 hp
  have place : before.length ∈ errorPlaces 0 (before ++ p :: after) :=
    mem_errorPlaces.2 ⟨p, by simp, of_decide_eq_true error⟩
  rw [h, List.mem_singleton] at place
  refine ⟨before, p, after, rfl, place, error, ?_, ?_⟩
  · simpa only [Bool.not_eq_true] using first
  · simpa only [Bool.not_eq_true] using List.filter_eq_nil_iff.1 last

/-- The values around the only error. -/
theorem values_around {before after : List Param} {p : Param} (error : p.type.isError = true)
    (hb : ∀ q ∈ before, q.type.isError = false) (ha : ∀ q ∈ after, q.type.isError = false) :
    values (before ++ p :: after) = before ++ after := by
  rw [values, List.filter_append, List.filter_cons_of_neg (by simp [error])]
  exact congrArg₂ (· ++ ·) (values_eq_self hb) (values_eq_self ha)

theorem insertIdx_between {α : Type} (before after : List α) (x : α) :
    (before ++ after).insertIdx before.length x = before ++ x :: after := by
  induction before with
  | nil => rfl
  | cons y rest ih => rw [List.cons_append, List.length_cons, List.insertIdx_succ_cons, ih, List.cons_append]

/-- The declared results are those that are no errors, with the only error in its place. -/
theorem insertIdx_values {ps : List Param} {i : Nat} (h : errorPlaces 0 ps = [i]) {p : Param}
    (hp : ps[i]? = some p) : (values ps).insertIdx i p = ps := by
  obtain ⟨before, q, after, rfl, rfl, error, hb, ha⟩ := exists_split h
  obtain rfl : q = p := by simpa using hp
  rw [values_around error hb ha, insertIdx_between]

/-! ## Signatures -/

/-- Calls of a function with the signature can cross the boundary. -/
structure Crossable (structs : StructNames) (sig : Signature) : Prop where
  fixedArity : sig.isVariadic = false
  sized : ∀ p ∈ sig.params ++ sig.results, p.type.Sized
  params : ∀ p ∈ sig.params, p.type.Passable structs
  results : ∀ p ∈ sig.results, p.type.kind ≠ .error →
    p.type.Passable structs ∧ ¬ p.type.PointsToPrimitive
  oneError : (sig.results.filter (·.type.isError)).length ≤ 1

/-- The plan follows the declaration. -/
structure LaidOut (structs : StructNames) (sig : Signature) (plan : CallPlan) : Prop where
  params : List.Forall₂ (OfParam structs) sig.params.zipIdx plan.params
  results : List.Forall₂ (OfResult structs) (values sig.results).zipIdx plan.results
  error : ∀ i, plan.errorPosition = some i ↔
    ∃ p, sig.results[i]? = some p ∧ p.type.kind = .error
  /-- Without an error, the results are the declared ones. -/
  types : plan.errorPosition = none → plan.results.map (·.type) = sig.results.map (·.type)
  /-- With the error put back into its place, the results are the declared ones. -/
  restored : ∀ i p, plan.errorPosition = some i → sig.results[i]? = some p →
    (plan.results.map (·.type)).insertIdx i p.type = sig.results.map (·.type)
  arity : plan.arity = sig.results.length
  direct : plan.direct = true ↔ plan.errorPosition = none ∧ plan.results.length = 1

theorem ofSignature_ok_iff {sig : Signature} {plan : CallPlan} :
    ofSignature structs sig = .ok plan ↔
      sig.isVariadic = false ∧ (∀ p ∈ sig.params ++ sig.results, p.type.Sized) ∧
      List.Forall₂ (OfParam structs) sig.params.zipIdx plan.params ∧
      List.Forall₂ (OfResult structs) (values sig.results).zipIdx plan.results ∧
      errorPlaces 0 sig.results = plan.errorPosition.toList := by
  have sized : (sig.params ++ sig.results).find? (·.type.hasUnknownLen) = none ↔
      ∀ p ∈ sig.params ++ sig.results, p.type.Sized := by
    simp only [List.find?_eq_none, Bool.not_eq_true, GoType.hasUnknownLen_eq_false_iff]
  rw [ofSignature, ite_error_eq_ok_iff, Bool.not_eq_true, ← sized]
  refine and_congr_right fun _ => ?_
  cases hu : (sig.params ++ sig.results).find? (·.type.hasUnknownLen) with
  | some p => simp
  | none =>
    obtain ⟨params, results, position⟩ := plan
    have laid : resultSlots structs 0 0 none sig.results = .ok (results, position) ↔ _ := resultSlots_ok_iff
    simp only [Option.toList_none, List.nil_append] at laid
    simp only [bind_eq_ok_iff, paramSlots_ok_iff, true_and, ← laid, pure, Except.pure, Except.ok.injEq,
      CallPlan.mk.injEq]
    constructor
    · rintro ⟨_, hp, ⟨_, _⟩, hr, rfl, rfl, rfl⟩
      exact ⟨hp, hr⟩
    · rintro ⟨hp, hr⟩
      exact ⟨_, hp, _, hr, rfl, rfl, rfl⟩

theorem ofSignature_laidOut {sig : Signature} {plan : CallPlan} (h : ofSignature structs sig = .ok plan) :
    LaidOut structs sig plan := by
  obtain ⟨-, -, params, results, places⟩ := ofSignature_ok_iff.1 h
  have types : plan.results.map (·.type) = (values sig.results).map (·.type) := by
    have firsts := List.zipIdx_map_fst 0 (values sig.results)
    conv_rhs => rw [← firsts, List.map_map]
    refine List.forall₂_eq_eq_eq ▸ ?_
    rw [List.forall₂_map_left_iff, List.forall₂_map_right_iff]
    exact results.flip.imp fun _ _ made => made.carries.type
  have error : ∀ i, plan.errorPosition = some i ↔
      ∃ p, sig.results[i]? = some p ∧ p.type.kind = .error := by
    intro i
    rw [← mem_errorPlaces, places, Option.mem_toList]
  refine ⟨params, results, error, ?_, ?_, ?_, ?_⟩
  · intro none
    rw [none, Option.toList_none] at places
    rw [types, values_eq_self (errorPlaces_eq_nil_iff.1 places)]
  · intro i p position hp
    rw [position, Option.toList_some] at places
    rw [types, ← List.map_insertIdx Param.type, insertIdx_values places hp]
  · have split := List.length_eq_length_filter_add (l := sig.results) (·.type.isError)
    have errors : (sig.results.filter (·.type.isError)).length = if plan.hasError then 1 else 0 := by
      rw [← length_errorPlaces 0, places, hasError]
      cases plan.errorPosition <;> rfl
    have kept : plan.results.length = (values sig.results).length := by
      simpa using congrArg List.length types
    rw [arity, kept, split, errors, values, Nat.add_comm]
  · rw [direct, returned]
    cases plan.errorPosition with
    | some i => simp
    | none => rcases plan.results with - | ⟨s, - | ⟨t, more⟩⟩ <;> simp

theorem crossable_iff {sig : Signature} :
    (∃ plan, ofSignature structs sig = .ok plan) ↔ Crossable structs sig := by
  have ofParam : ∀ x : Param × Nat, (∃ s, OfParam structs x s) ↔ x.1.type.Passable structs := by
    intro x
    constructor
    · rintro ⟨s, h⟩
      exact ⟨_, h.carries.shape⟩
    · rintro ⟨shape, h⟩
      obtain ⟨tr, made⟩ := (exists_carries_iff (parameterName x.1.name x.2)).2 h
      exact ⟨_, rfl, made⟩
  have ofResult : ∀ x : Param × Nat, (∃ s, OfResult structs x s) ↔
      x.1.type.Passable structs ∧ ¬ x.1.type.PointsToPrimitive := by
    intro x
    constructor
    · rintro ⟨s, h⟩
      exact ⟨⟨_, h.carries.shape⟩, fun hp => h.shape (h.carries.shape.unique (.pointer hp))⟩
    · rintro ⟨⟨shape, h⟩, hp⟩
      obtain ⟨tr, made⟩ := (exists_carries_iff (outName x.1 x.2)).2 h
      refine ⟨_, rfl, made, ?_⟩
      rintro rfl
      cases h with
      | pointer points => exact hp points
  have params : (∃ slots, List.Forall₂ (OfParam structs) sig.params.zipIdx slots) ↔
      ∀ p ∈ sig.params, p.type.Passable structs := by
    simp only [exists_forall₂_iff, ofParam, forall_mem_zipIdx_iff
      (P := fun p : Param => p.type.Passable structs)]
  have results : (∃ slots, List.Forall₂ (OfResult structs) (values sig.results).zipIdx slots) ↔
      ∀ p ∈ sig.results, p.type.kind ≠ .error →
        p.type.Passable structs ∧ ¬ p.type.PointsToPrimitive := by
    rw [exists_forall₂_iff]
    simp only [ofResult, forall_mem_zipIdx_iff
      (P := fun p : Param => p.type.Passable structs ∧ ¬ p.type.PointsToPrimitive)]
    simp [values, GoType.isError]
  have oneError : (∃ position : Option Nat, errorPlaces 0 sig.results = position.toList) ↔
      (sig.results.filter (·.type.isError)).length ≤ 1 := by
    rw [← length_errorPlaces 0]
    rcases errorPlaces 0 sig.results with - | ⟨i, - | ⟨j, more⟩⟩
    · have fits : List.length ([] : List Nat) ≤ 1 := by decide
      exact iff_of_true ⟨none, rfl⟩ fits
    · have fits : [i].length ≤ 1 := Nat.le.refl
      exact iff_of_true ⟨some i, rfl⟩ fits
    · simp only [List.length_cons, iff_false, not_exists, show ¬ more.length + 1 + 1 ≤ 1 by omega]
      intro position
      cases position <;> simp
  constructor
  · rintro ⟨plan, h⟩
    obtain ⟨fixedArity, sized, hp, hr, he⟩ := ofSignature_ok_iff.1 h
    exact ⟨fixedArity, sized, params.1 ⟨_, hp⟩, results.1 ⟨_, hr⟩, oneError.1 ⟨_, he⟩⟩
  · intro h
    obtain ⟨ps, hp⟩ := params.2 h.params
    obtain ⟨rs, hr⟩ := results.2 h.results
    obtain ⟨position, he⟩ := oneError.2 h.oneError
    exact ⟨⟨ps, rs, position⟩, ofSignature_ok_iff.2 ⟨h.fixedArity, h.sized, hp, hr, he⟩⟩

/-- **A signature has a plan exactly if it can cross, and the plan follows the declaration.** -/
theorem crossable_laidOut (structs : StructNames) (sig : Signature) :
    ((∃ plan, ofSignature structs sig = .ok plan) ↔ Crossable structs sig) ∧
      ∀ plan, ofSignature structs sig = .ok plan → LaidOut structs sig plan :=
  ⟨crossable_iff, fun _ => ofSignature_laidOut⟩

/-- `func Find(key string, hits *int, at *Point) (names []string, err error, size [3]float64)` -/
def find : Signature :=
  ⟨[⟨"key", .string⟩, ⟨"hits", .pointer (.primitive "int")⟩, ⟨"at", .pointer (.struct "Point")⟩],
    [⟨"names", .slice .string⟩, ⟨"err", .error⟩, ⟨"size", .array (some 3) (.primitive "float64")⟩],
    false⟩

theorem crossable_laidOut_find :
    ∃ plan, ofSignature ["Point"] find = .ok plan ∧ Crossable ["Point"] find ∧
      LaidOut ["Point"] find plan ∧ plan.errorPosition = some 1 ∧ plan.arity = 3 := by
  have seen : (ofSignature ["Point"] find).toOption.map (·.errorPosition) = some (some 1) := by decide +kernel
  cases h : ofSignature ["Point"] find with
  | error e => simp [h, Except.toOption] at seen
  | ok plan =>
    have main := crossable_laidOut ["Point"] find
    have position : plan.errorPosition = some 1 := by simpa [h, Except.toOption] using seen
    have laid := main.2 plan h
    exact ⟨plan, rfl, main.1.1 ⟨plan, h⟩, laid, position, laid.arity⟩

end CallPlan

end GoGlue
