import GoGlue.CallPlan
import GoGlue.GoType.Resolve
import Mathlib.Data.List.Basic

/-!
# Well-formed types

A type is well formed if each of its nodes has the parts that its kind asks for and no others, and shows the
parts in its name. Every type that was resolved is well formed. So it has a transfer strategy unless it holds
an array of unknown length, and a call plan looks for such arrays first: whatever else may be wrong with a
signature, no type of it is without a strategy.

* `resolve_wellFormed`: resolving makes well-formed types only.
* `classify_wellFormed`: a well-formed type with known lengths has a strategy.
* `ofSignature_mapped`, `ofGetter_mapped`, `ofSetter_mapped`: no plan fails for want of one.
-/
namespace GoGlue

namespace GoType

/-! ## Nodes -/

mutual
/-- The nodes of a type: the type itself, and those of its parts. -/
def nodes : GoType → List GoType
  | ⟨kind, name, package, elem, key, size⟩ =>
    ⟨kind, name, package, elem, key, size⟩ :: (partNodes elem ++ partNodes key)
def partNodes : Option GoType → List GoType
  | none => []
  | some t => t.nodes
end

theorem nodes_eq (t : GoType) : t.nodes = t :: (partNodes t.elem ++ partNodes t.key) := by
  cases t
  rw [nodes]

/-- The length of an array as its name shows it. -/
def shownLength : Option UInt64 → String
  | some n => toString n.toNat
  | none => "?"

/-- The name of a composite node is made from the names of its parts. -/
def ShowsParts (t : GoType) : Prop :=
  match t.kind, t.elem, t.key with
  | .pointer, some e, _ => t.name = "*" ++ e.name
  | .slice, some e, _ => t.name = "[]" ++ e.name ∨ t.name = "..." ++ e.name
  | .array, some e, _ => t.name = "[" ++ shownLength t.size ++ "]" ++ e.name
  | .map, some e, some k => t.name = "map[" ++ k.name ++ "]" ++ e.name
  | _, _, _ => True

/-- One node has what its kind asks for. -/
structure Sound (t : GoType) : Prop where
  kind : t.kind ≠ .func ∧ t.kind ≠ .chan
  elem : t.elem.isSome = true ↔ t.kind = .pointer ∨ t.kind = .slice ∨ t.kind = .array ∨ t.kind = .map
  key : t.key.isSome = true ↔ t.kind = .map
  size : t.size.isSome = true → t.kind = .array
  package : t.package.isSome = true → t.kind = .struct
  name : t.ShowsParts

def WellFormed (t : GoType) : Prop := ∀ n ∈ t.nodes, n.Sound

theorem wellFormed_iff {t : GoType} :
    t.WellFormed ↔ t.Sound ∧ (∀ e ∈ t.elem, e.WellFormed) ∧ ∀ k ∈ t.key, k.WellFormed := by
  have part (o : Option GoType) :
      (∀ n ∈ partNodes o, n.Sound) ↔ ∀ t ∈ o, t.WellFormed := by
    cases o <;> simp [partNodes, WellFormed]
  rw [WellFormed, nodes_eq, List.forall_mem_cons, List.forall_mem_append, part, part]

/-! ## Constructors -/

theorem wellFormed_leaf (kind : TypeKind) (name : String) (package : Option String)
    (plain : kind = .primitive ∨ kind = .string ∨ kind = .struct ∨ kind = .interface ∨ kind = .error)
    (qualified : package.isSome = true → kind = .struct) :
    WellFormed ⟨kind, name, package, none, none, none⟩ := by
  refine wellFormed_iff.2 ⟨?_, by simp, by simp⟩
  rcases plain with rfl | rfl | rfl | rfl | rfl <;>
    exact ⟨by simp, by simp, by simp, by simp, qualified, trivial⟩

theorem wellFormed_ofName (name : String) : (ofName name).WellFormed := by
  unfold ofName
  split
  · exact wellFormed_leaf _ _ none (by simp) (by simp)
  split
  · exact wellFormed_leaf _ _ none (by simp) (by simp)
  split
  · exact wellFormed_leaf _ _ none (by simp) (by simp)
  split
  · exact wellFormed_leaf _ _ none (by simp) (by simp)
  · exact wellFormed_leaf _ _ none (by simp) (by simp)

variable {t k : GoType}

/-- A node with an element and nothing else is as well formed as that. -/
theorem wellFormed_elem {kind : TypeKind} {name : String} {size : Option UInt64}
    (hk : kind = .pointer ∨ kind = .slice ∨ kind = .array) (hs : size = none ∨ kind = .array)
    (hn : ShowsParts ⟨kind, name, none, some t, none, size⟩) (h : t.WellFormed) :
    WellFormed ⟨kind, name, none, some t, none, size⟩ := by
  refine wellFormed_iff.2 ⟨?_, by simpa using h, by simp⟩
  have sized : size.isSome = true → kind = .array := by
    rcases hs with rfl | hs
    · simp
    · exact fun _ => hs
  rcases hk with rfl | rfl | rfl <;> exact ⟨by simp, by simp, by simp, sized, by simp, hn⟩

theorem WellFormed.pointer (h : t.WellFormed) : (pointer t).WellFormed :=
  wellFormed_elem (.inl rfl) (.inl rfl) rfl h

theorem WellFormed.slice (h : t.WellFormed) : (slice t).WellFormed :=
  wellFormed_elem (.inr (.inl rfl)) (.inl rfl) (.inl rfl) h

theorem WellFormed.variadic (h : t.WellFormed) : (variadic t).WellFormed :=
  wellFormed_elem (.inr (.inl rfl)) (.inl rfl) (.inr rfl) h

theorem WellFormed.array (len : Option UInt64) (h : t.WellFormed) : (array len t).WellFormed :=
  wellFormed_elem (.inr (.inr rfl)) (.inr rfl) (by cases len <;> rfl) h

theorem WellFormed.map (hk : k.WellFormed) (ht : t.WellFormed) : (map k t).WellFormed := by
  refine wellFormed_iff.2 ⟨?_, by simpa [GoType.map, leaf] using ht, by simpa [GoType.map, leaf] using hk⟩
  exact ⟨by simp [GoType.map, leaf], by simp [GoType.map, leaf], by simp [GoType.map, leaf],
    by simp [GoType.map, leaf], by simp [GoType.map, leaf], rfl⟩

end GoType

theorem ok_of_map {α β ε : Type} {e : Except ε α} {f : α → β} {b : β} (h : e.map f = .ok b) :
    ∃ a, e = .ok a ∧ f a = b := by
  cases e with
  | error c => cases h
  | ok a => exact ⟨a, rfl, Except.ok.inj h⟩

theorem ok_of_toOption {α ε : Type} {e : Except ε α} {a : α} (h : e.toOption = some a) : e = .ok a := by
  cases e with
  | error c => cases h
  | ok b => rw [Option.some.inj h]

/-- **Resolving makes well-formed types only.** -/
theorem TypeExpr.resolve_wellFormed {e : TypeExpr} {t : GoType} (h : e.resolve = .ok t) :
    t.WellFormed := by
  fun_induction TypeExpr.resolve e generalizing t with
  | case1 name =>
    cases h
    exact GoType.wellFormed_ofName name
  | case2 package name =>
    cases h
    exact GoType.wellFormed_leaf .struct name (some package) (by simp) fun _ => rfl
  | case3 elem ih =>
    obtain ⟨t', he, rfl⟩ := ok_of_map h
    exact (ih he).pointer
  | case4 elem ih =>
    obtain ⟨t', he, rfl⟩ := ok_of_map h
    exact (ih he).slice
  | case5 len elem ih =>
    obtain ⟨t', he, rfl⟩ := ok_of_map h
    exact (ih he).array len
  | case6 key value ihKey ihValue =>
    cases hk : key.resolve with
    | error c => simp [hk, bind, Except.bind] at h
    | ok k =>
      cases hv : value.resolve with
      | error c => simp [hk, hv, bind, Except.bind] at h
      | ok v =>
        simp only [hk, hv, bind, Except.bind, pure, Except.pure, Except.ok.injEq] at h
        subst h
        exact (ihKey hk).map (ihValue hv)
  | case7 elem ih =>
    obtain ⟨t', he, rfl⟩ := ok_of_map h
    exact (ih he).variadic
  | case8 =>
    cases h
    exact GoType.wellFormed_leaf .interface _ none (by simp) (by simp)
  | case9 | case10 | case11 | case12 | case13 => cases h

/-! ## Strategies -/

theorem GoType.hasUnknownLen_eq (t : GoType) :
    t.hasUnknownLen = (t.kind = .array && t.size.isNone || unknownLenInside t.elem
      || unknownLenInside t.key) := by
  cases t
  rw [hasUnknownLen]

/-- The element of a well-formed type with known lengths is one, too. -/
theorem GoType.WellFormed.element {kind : TypeKind} {name : String} {package : Option String}
    {e : GoType} {key : Option GoType} {size : Option UInt64}
    (h : WellFormed ⟨kind, name, package, some e, key, size⟩)
    (known : hasUnknownLen ⟨kind, name, package, some e, key, size⟩ = false) :
    e.WellFormed ∧ e.hasUnknownLen = false := by
  rw [hasUnknownLen_eq] at known
  simp only [Bool.or_eq_false_iff, unknownLenInside] at known
  exact ⟨(wellFormed_iff.1 h).2.1 e rfl, known.1.2⟩

/-- **A well-formed type with known lengths has a strategy.** -/
theorem classify_wellFormed (structs : StructNames) {t : GoType} (h : t.WellFormed)
    (known : t.hasUnknownLen = false) : ∃ tr, classify structs t = .ok tr := by
  have mapped {e : Except MappingError Transfer} (f : Transfer → Transfer)
      (h : ∃ tr, e = .ok tr) : ∃ tr, e.map f = .ok tr := by
    obtain ⟨tr, rfl⟩ := h
    exact ⟨f tr, rfl⟩
  fun_induction classify structs t with
  | case1 | case2 | case3 | case4 | case5 | case6 | case8 => exact ⟨_, rfl⟩
  | case9 name package e key size unknown ih =>
    obtain ⟨he, hk⟩ := h.element known
    exact mapped _ (ih he hk)
  | case11 name package e key size kind ih =>
    obtain ⟨he, hk⟩ := h.element known
    exact mapped _ (ih he hk)
  | case14 name package e key len ih =>
    obtain ⟨he, hk⟩ := h.element known
    exact mapped _ (ih he hk)
  | case7 | case10 | case12 => simpa using (GoType.wellFormed_iff.1 h).1.elem
  | case13 => simp [GoType.hasUnknownLen_eq] at known
  | case15 => exact absurd rfl (GoType.wellFormed_iff.1 h).1.kind.2
  | case16 => exact absurd rfl (GoType.wellFormed_iff.1 h).1.kind.1

/-! ## Plans -/

namespace CallPlan

variable {structs : StructNames}

/-- The type has a strategy. -/
def Classified (structs : StructNames) (t : GoType) : Prop := ∃ tr, classify structs t = .ok tr

/-- A step that wants no strategy, before others that do not. -/
theorem bind_mapped {α β : Type} {e : Except PlanError α} {f : α → Except PlanError β}
    {cause : MappingError} (he : e ≠ .error (.mapping cause))
    (hf : ∀ a, f a ≠ .error (.mapping cause)) : e >>= f ≠ .error (.mapping cause) := by
  cases e with
  | ok a => exact hf a
  | error e =>
    intro h
    cases h
    exact he rfl

theorem pure_mapped {α : Type} {a : α} {cause : MappingError} :
    (pure a : Except PlanError α) ≠ .error (.mapping cause) := by
  simp [pure, Except.pure]

theorem transferOf_mapped {t : GoType} (h : Classified structs t) (cause : MappingError) :
    transferOf structs t ≠ .error (.mapping cause) := by
  obtain ⟨tr, h⟩ := h
  simp [transferOf, h, Except.mapError]

theorem shapeOf_mapped (t : GoType) (tr : Transfer) (cause : MappingError) :
    shapeOf t tr ≠ .error (.mapping cause) := by
  unfold shapeOf
  split
  · split
    · simp
    · split <;> simp
  · simp

theorem paramSlots_mapped {ps : List Param} (h : ∀ p ∈ ps, Classified structs p.type) (index : Nat)
    (cause : MappingError) : paramSlots structs index ps ≠ .error (.mapping cause) := by
  induction ps generalizing index with
  | nil => exact pure_mapped
  | cons p rest ih =>
    obtain ⟨first, others⟩ := List.forall_mem_cons.1 h
    rw [paramSlots]
    refine bind_mapped (transferOf_mapped first cause) fun tr => ?_
    split
    · simp
    · refine bind_mapped (shapeOf_mapped p.type tr cause) fun shape => ?_
      exact bind_mapped (ih others _) fun slots => pure_mapped

theorem resultSlots_mapped {ps : List Param} (h : ∀ p ∈ ps, Classified structs p.type)
    (index count : Nat) (error : Option Nat) (cause : MappingError) :
    resultSlots structs index count error ps ≠ .error (.mapping cause) := by
  induction ps generalizing index count error with
  | nil => exact pure_mapped
  | cons p rest ih =>
    obtain ⟨first, others⟩ := List.forall_mem_cons.1 h
    rw [resultSlots]
    refine bind_mapped (transferOf_mapped first cause) fun tr => ?_
    split
    · split
      · simp
      · exact ih others _ _ _
    · refine bind_mapped (shapeOf_mapped p.type tr cause) fun shape => ?_
      split
      · simp
      · exact bind_mapped (ih others _ _ _) fun found => pure_mapped

/-- **No plan fails for want of a strategy** if the types are well formed: a signature with an array of
unknown length is refused for that. -/
theorem ofSignature_mapped {sig : Signature} (h : ∀ p ∈ sig.params ++ sig.results, p.type.WellFormed)
    (cause : MappingError) : ofSignature structs sig ≠ .error (.mapping cause) := by
  unfold ofSignature
  split
  · simp
  · split
    · simp
    · rename_i known
      have classified : ∀ p ∈ sig.params ++ sig.results, Classified structs p.type := by
        intro p hp
        exact classify_wellFormed structs (h p hp) (by simpa using List.find?_eq_none.1 known p hp)
      obtain ⟨params, results⟩ := List.forall_mem_append.1 classified
      refine bind_mapped (paramSlots_mapped params 0 cause) fun slots => ?_
      exact bind_mapped (resultSlots_mapped results 0 0 none cause) fun found => pure_mapped

theorem ofGetter_mapped {t : GoType} (h : t.WellFormed) (cause : MappingError) :
    ofGetter structs t ≠ .error (.mapping cause) :=
  ofSignature_mapped (by simpa [Param.unnamed] using h) cause

theorem ofSetter_mapped {t : GoType} (h : t.WellFormed) (cause : MappingError) :
    ofSetter structs t ≠ .error (.mapping cause) := by
  intro he
  unfold ofSetter at he
  cases hs : ofSignature structs ⟨[⟨"value", t⟩], [], false⟩ with
  | ok plan =>
    rw [hs] at he
    cases he
  | error e =>
    rw [hs] at he
    cases he
    exact ofSignature_mapped (by simpa using h) cause hs

end CallPlan

end GoGlue
