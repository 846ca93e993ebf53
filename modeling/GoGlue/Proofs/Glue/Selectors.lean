import GoGlue.Glue
import GoGlue.Proofs.Glue.Entries
import GoGlue.Proofs.GoType.WellFormed

/-!
# Selectors of the glue

An entry point selects names from packages in three places only: the function that it calls, the type of its
receiver, and the struct types inside the types of its parameters, at whatever depth. Results are converted
by functions that know their type, and the prototype is made of C types. So what is true of these names is
true of everything that the entry points of a package select.

* `ofGoType_selects`: a type selects the struct types among its nodes.
* `body_selects`: a body selects what its receiver, its callee and the types of its parameters do.
* `entries_selects`: so it is for all entry points of a surface.
-/
namespace GoGlue.Go

/-- A name and the package that it is looked up in. The packages of the language itself are not counted. -/
structure Selector where
  qualifier : Qualifier
  name : String
  deriving DecidableEq, Repr

namespace Ty

/-- The selectors that a type spells. -/
def selectors : Ty → List Selector
  | qualified q n => [⟨q, n⟩]
  | pointer e | slice e | array _ e => e.selectors
  | map k v => k.selectors ++ v.selectors
  | any | name _ | c _ => []

theorem qualifiers_eq (t : Ty) : t.qualifiers = t.selectors.map (·.qualifier) := by
  induction t with
  | qualified q n => rfl
  | pointer e ih | slice e ih | array len e ih => exact ih
  | map k v hk hv => rw [qualifiers, selectors, List.map_append, hk, hv]
  | any | name n | c t => rfl

end Ty

namespace Expr

mutual
/-- The selectors that an expression spells. -/
def selectors : Expr → List Selector
  | qualified q n => [⟨q, n⟩]
  | type t | applied _ t | empty t => t.selectors
  | call f args => f.selectors ++ selectorsAll args
  | member e _ | deref e | address e | isNil e | notNil e => e.selectors
  | index e i => e.selectors ++ i.selectors
  | both a b => a.selectors ++ b.selectors
  | name _ | number _ | quote _ | library _ _ => []
def selectorsAll : List Expr → List Selector
  | [] => []
  | e :: rest => e.selectors ++ selectorsAll rest
end

mutual
theorem qualifiers_eq (e : Expr) : e.qualifiers = e.selectors.map (·.qualifier) := by
  cases e with
  | qualified | name | number | quote | library => rfl
  | type t | applied f t | empty t => exact t.qualifiers_eq
  | call f args => rw [qualifiers, selectors, List.map_append, qualifiers_eq, qualifiersAll_eq]
  | member e n | deref e | address e | isNil e | notNil e => exact e.qualifiers_eq
  | index a b | both a b => rw [qualifiers, selectors, List.map_append, a.qualifiers_eq, b.qualifiers_eq]
theorem qualifiersAll_eq (es : List Expr) :
    qualifiersAll es = (selectorsAll es).map (·.qualifier) := by
  cases es with
  | nil => rfl
  | cons e rest => rw [qualifiersAll, selectorsAll, List.map_append, e.qualifiers_eq, qualifiersAll_eq]
end

end Expr

namespace Stmt

mutual
/-- The selectors that a statement spells. -/
def selectors : Stmt → List Selector
  | expr e | define _ e | ret (some e) => e.selectors
  | assign target e => target.selectors ++ e.selectors
  | declare _ t => t.selectors
  | ret none => []
  | ifs cond body => cond.selectors ++ selectorsAll body
  | range _ _ items body => items.selectors ++ selectorsAll body
def selectorsAll : List Stmt → List Selector
  | [] => []
  | s :: rest => s.selectors ++ selectorsAll rest
end

mutual
theorem qualifiers_eq (s : Stmt) : s.qualifiers = s.selectors.map (·.qualifier) := by
  match s with
  | expr e | define _ e | ret (some e) => exact e.qualifiers_eq
  | assign target e =>
    rw [qualifiers, selectors, List.map_append, target.qualifiers_eq, e.qualifiers_eq]
  | declare _ t => exact t.qualifiers_eq
  | ret none => rfl
  | ifs cond body =>
    rw [qualifiers, selectors, List.map_append, cond.qualifiers_eq, qualifiersAll_eq]
  | range _ _ items body =>
    rw [qualifiers, selectors, List.map_append, items.qualifiers_eq, qualifiersAll_eq]
theorem qualifiersAll_eq (ss : List Stmt) :
    qualifiersAll ss = (selectorsAll ss).map (·.qualifier) := by
  match ss with
  | [] => rfl
  | s :: rest => rw [qualifiersAll, selectorsAll, List.map_append, s.qualifiers_eq, qualifiersAll_eq]
end

end Stmt

/-- The selectors that the body of an entry point spells. -/
def Entry.selectors (e : Entry) : List Selector := Stmt.selectorsAll e.body

section

variable {own : String} {P : Selector → Prop}

-- generated code is spelled out in full here, down to the selectors of its parts
attribute [local simp] Ty.selectors Expr.selectors Expr.selectorsAll Expr.calls Expr.ccall Expr.nil
  Stmt.selectors Stmt.selectorsAll setError

/-! ## Lists -/

theorem Stmt.mem_selectorsAll {ss : List Stmt} :
    (∀ x ∈ Stmt.selectorsAll ss, P x) ↔ ∀ s ∈ ss, ∀ x ∈ s.selectors, P x := by
  induction ss with
  | nil => simp
  | cons s rest ih => simp only [selectorsAll, List.forall_mem_append, List.forall_mem_cons, ih]

theorem Stmt.selectorsAll_append (ss ts : List Stmt) :
    Stmt.selectorsAll (ss ++ ts) = Stmt.selectorsAll ss ++ Stmt.selectorsAll ts := by
  induction ss with
  | nil => rfl
  | cons s rest ih => simp [ih]

theorem Expr.mem_selectorsAll {es : List Expr} :
    (∀ x ∈ Expr.selectorsAll es, P x) ↔ ∀ e ∈ es, ∀ x ∈ e.selectors, P x := by
  induction es with
  | nil => simp
  | cons e rest ih => simp only [selectorsAll, List.forall_mem_append, List.forall_mem_cons, ih]

/-! ## Types -/

/-- How a struct type is selected in a file that imports the package `own`. -/
def Selector.ofStruct (own : String) (t : GoType) : Selector :=
  match t.package with
  | some path => ⟨.foreign path, t.name⟩
  | none => ⟨.own own, t.name⟩

/-- The struct types inside a type are selected by names with `P`. -/
def Selects (own : String) (P : Selector → Prop) (t : GoType) : Prop :=
  ∀ n ∈ t.nodes, n.kind = .struct → P (.ofStruct own n)

theorem Selects.elem {t e : GoType} (h : Selects own P t) (he : t.elem = some e) : Selects own P e := by
  intro n hn
  refine h n ?_
  rw [GoType.nodes_eq, he]
  exact List.mem_cons_of_mem _ (List.mem_append_left _ hn)

mutual
/-- **A type selects the struct types among its nodes.** -/
theorem ofGoType_selects (t : GoType) (h : Selects own P t) :
    ∀ x ∈ (Ty.ofGoType own t).selectors, P x := by
  match t with
  | ⟨kind, n, package, elem, key, size⟩ =>
    rw [Selects, GoType.nodes, List.forall_mem_cons, List.forall_mem_append] at h
    obtain ⟨here, ofElem, ofKey⟩ := h
    have e := ofPart_selects elem ofElem
    have k := ofPart_selects key ofKey
    unfold Ty.ofGoType
    split
    · simp
    · have named := here rfl
      cases package <;> simpa [Selector.ofStruct] using named
    · simpa using e
    · simpa using e
    · simpa using e
    · simpa only [Ty.selectors, List.forall_mem_append] using ⟨k, e⟩
    · simp
theorem ofPart_selects (t : Option GoType)
    (h : ∀ n ∈ GoType.partNodes t, n.kind = .struct → P (.ofStruct own n)) :
    ∀ x ∈ (Ty.ofPart own t).selectors, P x := by
  match t with
  | none => simp [Ty.ofPart]
  | some t =>
    rw [Ty.ofPart]
    exact ofGoType_selects t h
end

/-! ## Conversions -/

theorem fromC_selects {t : GoType} {tr : Transfer} {e : Expr} (h : Selects own P t)
    (he : ∀ x ∈ e.selectors, P x) : ∀ x ∈ ((fromC own t tr).apply e).selectors, P x := by
  have type := ofGoType_selects t h
  have inner : ∀ x ∈ (Ty.ofGoType own (t.elem.getD t)).selectors, P x := by
    cases hk : t.elem with
    | none => exact type
    | some k => exact ofGoType_selects k (h.elem hk)
  have both : ∀ {u : Ty}, (∀ x ∈ u.selectors, P x) → ∀ x ∈ u.selectors ++ e.selectors, P x :=
    fun hu => List.forall_mem_append.2 ⟨hu, he⟩
  unfold fromC
  split
  · simpa [FromC.apply] using he
  · simpa [FromC.apply] using he
  · simpa [FromC.apply] using both inner
  · simpa [FromC.apply] using both type
  · simpa [FromC.apply] using both type
  · simpa [FromC.apply] using he
  · simpa [FromC.apply] using he

theorem intoC_selectors (i : IntoC) (e : Expr) : (i.apply e).selectors = e.selectors := by
  cases i <;> simp [IntoC.apply]

/-- An argument selects what the type of its parameter does. -/
theorem argument_selects {s : Slot} (h : Selects own P s.type) :
    (∀ x ∈ Stmt.selectorsAll (argument own s).1, P x) ∧ ∀ x ∈ (argument own s).2.selectors, P x := by
  have element : ∀ t tr, s.elem = some (t, tr) → Selects own P t := by
    intro t tr he
    unfold Slot.elem at he
    split at he
    · obtain ⟨t', ht, e⟩ := Option.map_eq_some_iff.1 he
      cases e
      exact h.elem ht
    · cases he
  have converted : ∀ {t : GoType} {tr : Transfer} {x : String}, Selects own P t →
      ∀ y ∈ ((fromC own t tr).apply (.name x)).selectors, P y := fun ht =>
    fromC_selects ht (by simp)
  unfold argument
  cases s.shape with
  | scalar => exact ⟨by simp, converted h⟩
  | buffer =>
    cases hb : s.isBytes
    · cases he : s.elem with
      | none => simp
      | some p =>
        obtain ⟨t, tr⟩ := p
        have ht := element t tr he
        simpa [or_imp, forall_and] using ⟨ofGoType_selects t ht, converted ht⟩
    · simp
  | fixed n =>
    cases he : s.elem with
    | none => simp
    | some p =>
      obtain ⟨t, tr⟩ := p
      have ht := element t tr he
      simpa [or_imp, forall_and] using ⟨ofGoType_selects t ht, converted ht⟩
  | pointer =>
    cases he : s.type.elem with
    | none => simp
    | some t => simpa [or_imp, forall_and] using ofGoType_selects t (h.elem he)

/-- A buffer is copied without a word about its type. -/
theorem bufferIntoC_selectors (s : Slot) (var : String) (k : Nat) :
    Stmt.selectorsAll (bufferIntoC s var k).1 = [] ∧ (bufferIntoC s var k).2.selectors = [] := by
  unfold bufferIntoC
  cases s.isBytes <;> cases he : s.elem <;> simp [intoC_selectors]

/-! ## Bodies -/

theorem zeroValue_selectors (s : Slot) : (zeroValue s).selectors = [] := by
  unfold zeroValue
  split <;> simp

theorem receiveStep_selects (plan : CallPlan) {receiver : Option Receiver}
    (h : ∀ r ∈ receiver, ∀ x ∈ r.type.selectors, P x) :
    ∀ x ∈ Stmt.selectorsAll (receiveStep plan receiver), P x := by
  cases receiver with
  | none => simp [receiveStep]
  | some r =>
    have leave : (bail plan).selectors = [] := by
      cases hr : plan.returned <;> simp [bail, hr, zeroValue_selectors]
    have type := h r rfl
    cases he : plan.hasError <;> simpa [receiveStep, he, leave] using type

/-- The types of the parameters select names with `P`. -/
def Takes (own : String) (P : Selector → Prop) (plan : CallPlan) : Prop :=
  ∀ s ∈ plan.params, Selects own P s.type

/-- What is prepared for a parameter, and the argument that is passed for it. -/
def argumentSelectors (own : String) (s : Slot) : List Selector :=
  Stmt.selectorsAll (argument own s).1 ++ (argument own s).2.selectors

/-- The arguments of the parameters select names with `P`. -/
def Passed (own : String) (P : Selector → Prop) (plan : CallPlan) : Prop :=
  ∀ s ∈ plan.params, ∀ x ∈ argumentSelectors own s, P x

theorem Takes.passed {plan : CallPlan} (h : Takes own P plan) : Passed own P plan := fun s hs =>
  List.forall_mem_append.2 (argument_selects (h s hs))

theorem convertStep_selects {plan : CallPlan} (h : Passed own P plan) :
    ∀ x ∈ Stmt.selectorsAll (convertStep own plan), P x := by
  rw [Stmt.mem_selectorsAll]
  intro s hs
  obtain ⟨slot, hm, hs⟩ := List.mem_flatMap.1 hs
  exact Stmt.mem_selectorsAll.1 (List.forall_mem_append.1 (h slot hm)).1 s hs

theorem arguments_selects {plan : CallPlan} (h : Passed own P plan) :
    ∀ e ∈ arguments own plan, ∀ x ∈ e.selectors, P x := by
  intro e he
  obtain ⟨slot, hm, rfl⟩ := List.mem_map.1 he
  exact (List.forall_mem_append.1 (h slot hm)).2

theorem assignResults_selectors (plan : CallPlan) (e : Expr) :
    (assignResults plan e).selectors = e.selectors := by
  unfold assignResults
  split <;> simp

/-- The function that is called, if there is one, is selected by a name with `P`. -/
def Invoke.Selects (P : Selector → Prop) : Invoke → Prop
  | .func callee => ∀ x ∈ callee.selectors, P x
  | .method _ | .read _ | .write _ => True

theorem callStep_selects (receiver : Option Receiver) {plan : CallPlan} {invoke : Invoke}
    (h : Passed own P plan) (hi : invoke.Selects P) :
    ∀ x ∈ Stmt.selectorsAll (callStep own receiver plan invoke), P x := by
  have passed : ∀ x ∈ Expr.selectorsAll (arguments own plan), P x :=
    Expr.mem_selectorsAll.2 (arguments_selects h)
  have calling : ∀ {f : Expr}, (∀ x ∈ f.selectors, P x) →
      ∀ x ∈ (assignResults plan (.call f (arguments own plan))).selectors, P x := by
    intro f hf
    rw [assignResults_selectors, Expr.selectors, List.forall_mem_append]
    exact ⟨hf, passed⟩
  unfold callStep
  cases invoke with
  | func callee => simpa using calling hi
  | method name =>
    have member : ∀ y, ∀ x ∈ (Expr.member (.name y) name).selectors, P x := by simp
    rcases receiver with - | ⟨struct, type, byPointer⟩
    · simpa using calling (member "_obj")
    · cases byPointer
      · simpa using calling (member "_recv")
      · simpa using calling (member "_obj")
  | read field => simp
  | write field =>
    rw [Stmt.mem_selectorsAll, List.forall_mem_map]
    intro e he
    simpa using arguments_selects h e he

theorem writeBackStep_selectors (plan : CallPlan) :
    Stmt.selectorsAll (writeBackStep plan) = [] := by
  refine List.eq_nil_iff_forall_not_mem.2 (Stmt.mem_selectorsAll (P := fun _ => False).2 ?_)
  rw [writeBackStep, List.forall_mem_map]
  simp

theorem errorStep_selectors (plan : CallPlan) : Stmt.selectorsAll (errorStep plan) = [] := by
  unfold errorStep
  split <;> simp

theorem returnResult_selectors (s : Slot) : Stmt.selectorsAll (returnResult s) = [] := by
  obtain ⟨copied, pointer⟩ := bufferIntoC_selectors s "_r0" 0
  unfold returnResult
  cases s.shape <;> simp [Stmt.selectorsAll_append, intoC_selectors, copied, pointer]

theorem storeResult_selectors (s : Slot) (k : Nat) : (storeResult s k).selectors = [] := by
  obtain ⟨copied, pointer⟩ := bufferIntoC_selectors s (resultName k) k
  unfold storeResult
  cases s.shape <;> simp [Stmt.selectorsAll_append, intoC_selectors, copied, pointer]

/-- Results are converted without a word about their types. -/
theorem resultStep_selectors (plan : CallPlan) : Stmt.selectorsAll (resultStep plan) = [] := by
  unfold resultStep
  cases plan.returned with
  | some s => exact returnResult_selectors s
  | none =>
    refine List.eq_nil_iff_forall_not_mem.2 (Stmt.mem_selectorsAll (P := fun _ => False).2 ?_)
    intro s hs
    obtain ⟨k, hk, rfl⟩ := List.mem_mapIdx.1 hs
    simp [storeResult_selectors]

/-- **A body selects what its receiver, its callee and the arguments of its parameters do.** -/
theorem body_selects {receiver : Option Receiver} {invoke : Invoke} {plan : CallPlan}
    (hr : ∀ r ∈ receiver, ∀ x ∈ r.type.selectors, P x) (hi : invoke.Selects P)
    (h : Passed own P plan) : ∀ x ∈ Stmt.selectorsAll (body own receiver invoke plan), P x := by
  have clear : Stmt.selectorsAll (clearStep plan) = [] := by
    unfold clearStep
    split <;> simp
  simp only [body, Stmt.selectorsAll_append, List.forall_mem_append, clear, writeBackStep_selectors,
    errorStep_selectors, resultStep_selectors]
  exact ⟨⟨⟨⟨⟨⟨by simp, receiveStep_selects plan hr⟩, convertStep_selects h⟩,
    callStep_selects receiver h hi⟩, by simp⟩, by simp⟩, by simp⟩

/-! ## Entry points -/

theorem entryOf_selects {symbol : String} {receiver : Option Receiver} {invoke : Invoke}
    {plan : CallPlan} {e : Entry} (he : entryOf own symbol receiver invoke plan = some e)
    (hr : ∀ r ∈ receiver, ∀ x ∈ r.type.selectors, P x) (hi : invoke.Selects P)
    (h : Takes own P plan) : ∀ x ∈ e.selectors, P x := by
  obtain ⟨renamed, hu, rfl⟩ := entryOf_eq_some_iff.1 he
  refine body_selects hr hi (Takes.passed fun s hs => ?_)
  obtain ⟨t, ht, same⟩ := exists_related (unshadowed_renamed hu).1 hs
  rw [same]
  exact h t ht

theorem ownType_selects {struct : String} (h : P ⟨.own own, struct⟩) :
    ∀ x ∈ (ownType own struct).selectors, P x := by
  simpa [ownType] using h

/-- What a surface has selected by its entry points are names with `P`. -/
structure Offers (own : String) (P : Selector → Prop) (surface : Surface) : Prop where
  functions : ∀ f ∈ surface.functions, P ⟨.own own, f.func.name⟩ ∧ Takes own P f.plan
  structs : ∀ s ∈ surface.structs, P ⟨.own own, s.struct.name⟩
  accessors : ∀ s ∈ surface.structs, ∀ f ∈ s.fields,
    ∀ plan ∈ f.getter.toList ++ f.setter.toList, Takes own P plan
  methods : ∀ s ∈ surface.structs, ∀ m ∈ s.methods, Takes own P m.plan

theorem Offers.serves {surface : Surface} (h : Offers own P surface) {receiver : Option Receiver}
    {invoke : Invoke} {plan : CallPlan} (hs : Serves own surface receiver invoke plan) :
    (∀ r ∈ receiver, ∀ x ∈ r.type.selectors, P x) ∧ invoke.Selects P ∧ Takes own P plan := by
  have receives : ∀ {s : StructSurface} {byPointer : Bool}, s ∈ surface.structs →
      ∀ r ∈ some (⟨s.struct.name, ownType own s.struct.name, byPointer⟩ : Receiver),
        ∀ x ∈ r.type.selectors, P x := by
    rintro s byPointer hs r ⟨⟩
    exact ownType_selects (h.structs s hs)
  cases hs with
  | func hf => exact ⟨by simp, by simpa [Invoke.Selects] using (h.functions _ hf).1, (h.functions _ hf).2⟩
  | @getter s f plan hs hf hp =>
    exact ⟨receives hs, trivial,
      h.accessors s hs f hf plan (List.mem_append_left _ (Option.mem_toList.2 hp))⟩
  | @setter s f plan hs hf hp =>
    exact ⟨receives hs, trivial,
      h.accessors s hs f hf plan (List.mem_append_right _ (Option.mem_toList.2 hp))⟩
  | method hs hm => exact ⟨receives hs, trivial, h.methods _ hs _ hm⟩

/-- **The entry points of a surface select what it offers.** -/
theorem entries_selects {surface : Surface} {es : List Entry} (h : Offers own P surface)
    (he : entries own surface = some es) : ∀ e ∈ es, ∀ x ∈ e.selectors, P x := by
  intro e hm
  rcases entries_cases he hm with ⟨s, hs, rfl | rfl⟩ | ⟨symbol, receiver, invoke, plan, serves, made⟩
  · simpa [constructor, Entry.selectors] using ownType_selects (h.structs s hs)
  · simp [destructor, Entry.selectors]
  · obtain ⟨type, callee, takes⟩ := h.serves serves
    exact entryOf_selects made type callee takes

end

end GoGlue.Go
