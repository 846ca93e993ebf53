import GoGlue.Plugin
import GoGlue.Proofs.Glue.Prototype
import GoGlue.Proofs.Glue.Visibility

/-!
# The scope of a body

The body of an entry point refers to packages, to predeclared names and to functions of the prelude, all of
them declared outside of it. An identifier of the prototype hides whatever is called like it. Parameters are
renamed so that they hide nothing, and what the glue declares for itself is called like none of these names;
but it may be called like a package, since nobody chooses the names of packages.

* `body_bare`: the bare names in a body are foreseen, or name a type of a parameter.
* `Glue.references_visible`: what an identifier can hide is a package that is called like a name of the glue.
* `Glue.references_hidden`: a package that is.
-/
namespace GoGlue

namespace Go

/-! ## Names from outside -/

/-- The package of the language that a C type is taken from. -/
def libraryOf : CToken → String
  | .memory => "unsafe"
  | .pointer target => libraryOf target
  | .primitive _ | .uintptr | .int | .char => "C"

namespace Ty

/-- The names in a type that are not selected from an imported package. -/
def bare : Ty → List String
  | any => ["any"]
  | name n => [n]
  | c t => [libraryOf t]
  | pointer e | slice e | array _ e => e.bare
  | map k v => k.bare ++ v.bare
  | qualified _ _ => []

end Ty

namespace Expr

/-- A name that stands for a value is a parameter or a local, unless it is one of the predeclared values. -/
def constant (n : String) : List String := if n ∈ ["nil", "true", "false"] then [n] else []

mutual
/-- The names in an expression that are declared outside of the entry point, without those of imported
packages: functions, types, constants, and the packages of the language. -/
def bare : Expr → List String
  | name n => constant n
  | library package _ => [package]
  | type t | empty t => t.bare
  | applied f t => f :: t.bare
  | call (name f) args => f :: bareAll args
  | call f args => f.bare ++ bareAll args
  | isNil e | notNil e => "nil" :: e.bare
  | member e _ | deref e | address e => e.bare
  | index e i => e.bare ++ i.bare
  | both a b => a.bare ++ b.bare
  | number _ | quote _ | qualified _ _ => []
def bareAll : List Expr → List String
  | [] => []
  | e :: rest => e.bare ++ bareAll rest
end

end Expr

namespace Stmt

mutual
/-- The names in a statement that are declared outside of the entry point, without those of imported
packages. -/
def bare : Stmt → List String
  | expr e | define _ e | ret (some e) => e.bare
  | assign target e => target.bare ++ e.bare
  | declare _ t => t.bare
  | ret none => []
  | ifs cond body => cond.bare ++ bareAll body
  | range _ _ items body => items.bare ++ bareAll body
def bareAll : List Stmt → List String
  | [] => []
  | s :: rest => s.bare ++ bareAll rest
end

end Stmt

/-- Everything that the body refers to outside of the entry point. -/
def Entry.references (e : Entry) : List String := Stmt.bareAll e.body ++ e.qualifiers.map Qualifier.text

section

variable {own : String} {structs : StructNames} {P : String → Prop}

-- generated code is spelled out in full here, down to the names in its parts
attribute [local simp] Ty.bare Expr.bare Expr.bareAll Expr.calls Expr.ccall Expr.nil
  Stmt.bare Stmt.bareAll setError

/-! ## Lists -/

/-- All of the names are expected: they have `P`. -/
def Foreseen (P : String → Prop) (ns : List String) : Prop := ∀ n ∈ ns, P n

@[simp] theorem foreseen_nil : Foreseen P [] := by simp [Foreseen]

@[simp] theorem foreseen_cons {n : String} {ns : List String} :
    Foreseen P (n :: ns) ↔ P n ∧ Foreseen P ns := List.forall_mem_cons

@[simp] theorem foreseen_append {ns ms : List String} :
    Foreseen P (ns ++ ms) ↔ Foreseen P ns ∧ Foreseen P ms := List.forall_mem_append

theorem Stmt.mem_bareAll {ss : List Stmt} :
    Foreseen P (Stmt.bareAll ss) ↔ ∀ s ∈ ss, Foreseen P s.bare := by
  induction ss with
  | nil => simp
  | cons s rest ih => simp only [bareAll, foreseen_append, List.forall_mem_cons, ih]

theorem Stmt.bareAll_append (ss ts : List Stmt) :
    Stmt.bareAll (ss ++ ts) = Stmt.bareAll ss ++ Stmt.bareAll ts := by
  induction ss with
  | nil => rfl
  | cons s rest ih => simp [ih]

theorem Expr.mem_bareAll {es : List Expr} :
    Foreseen P (Expr.bareAll es) ↔ ∀ e ∈ es, Foreseen P e.bare := by
  induction es with
  | nil => simp
  | cons e rest ih => simp only [bareAll, foreseen_append, List.forall_mem_cons, ih]

/-! ## Types -/

theorem constant_known (known : ∀ n ∈ goReserved, P n) (x : String) :
    Foreseen P (Expr.constant x) := by
  have values : ∀ n ∈ ["nil", "true", "false"], n ∈ goReserved := by decide
  unfold Expr.constant
  split
  · next h => simpa using known x (values x h)
  · simp

theorem libraryOf_known (known : ∀ n ∈ goReserved, P n) (t : CToken) : P (libraryOf t) := by
  induction t with
  | pointer t ih => exact ih
  | memory => exact known "unsafe" (by decide)
  | primitive | uintptr | int | char => exact known "C" (by decide)

/-- Types inside the type that are spelled by their bare name are called by names with `P`. -/
def Names (own : String) (P : String → Prop) (t : GoType) : Prop :=
  ∀ n ∈ t.nodes, Ty.ofGoType own n = .name n.name → P n.name

theorem Names.elem {t e : GoType} (h : Names own P t) (he : t.elem = some e) : Names own P e := by
  intro n hn
  refine h n ?_
  rw [GoType.nodes_eq, he]
  exact List.mem_cons_of_mem _ (List.mem_append_left _ hn)

theorem Names.here {t : GoType} (h : Names own P t) : Ty.ofGoType own t = .name t.name → P t.name :=
  h t (by rw [GoType.nodes_eq]; exact List.mem_cons_self)

mutual
theorem ofGoType_bare (known : ∀ n ∈ goReserved, P n) (t : GoType) (h : Names own P t) :
    Foreseen P (Ty.ofGoType own t).bare := by
  match t with
  | ⟨kind, n, package, elem, key, size⟩ =>
    have here := h.here
    rw [Names, GoType.nodes, List.forall_mem_cons, List.forall_mem_append] at h
    have e := ofPart_bare known elem h.2.1
    have k := ofPart_bare known key h.2.2
    cases kind with
    | interface => simpa [Ty.ofGoType] using known "any" (by decide)
    | struct => cases package <;> simp [Ty.ofGoType]
    | pointer | slice | array => simpa [Ty.ofGoType] using e
    | map => simpa only [Ty.ofGoType, Ty.bare, foreseen_append] using ⟨k, e⟩
    | _ => simpa [Ty.ofGoType] using here (by simp [Ty.ofGoType])
theorem ofPart_bare (known : ∀ n ∈ goReserved, P n) (t : Option GoType)
    (h : ∀ n ∈ GoType.partNodes t, Ty.ofGoType own n = .name n.name → P n.name) :
    Foreseen P (Ty.ofPart own t).bare := by
  match t with
  | none => simpa [Ty.ofPart] using known "any" (by decide)
  | some t =>
    rw [Ty.ofPart]
    exact ofGoType_bare known t h
end

/-! ## Conversions -/

/-- What is passed by value is converted by the name of its type. -/
theorem classify_value {t : GoType} {p : Primitive} (h : classify structs t = .ok (.value p)) :
    Ty.ofGoType own t = .name t.name := by
  have mapped : ∀ {e : GoType} {kind : CompositeKind} {len : UInt64},
      (classify structs e).map (Transfer.composite kind · len) ≠ .ok (.value p) := by
    intro e kind len
    cases classify structs e <;> simp [Except.map]
  unfold classify at h
  split at h <;> try cases h
  · rfl
  · split at h
    · cases h
    · exact absurd h mapped
  · exact absurd h mapped
  · exact absurd h mapped

theorem fromC_bare (known : ∀ n ∈ goReserved, P n) {t : GoType} {tr : Transfer} {e : Expr}
    (h : Names own P t) (hc : classify structs t = .ok tr) (he : Foreseen P e.bare) :
    Foreseen P ((fromC own t tr).apply e).bare := by
  have type := ofGoType_bare known t h
  have inner : Foreseen P (Ty.ofGoType own (t.elem.getD t)).bare := by
    cases hk : t.elem with
    | none => exact type
    | some k => exact ofGoType_bare known k (h.elem hk)
  unfold fromC
  split
  · simpa [FromC.apply] using ⟨h.here (classify_value hc), he⟩
  · simpa [FromC.apply, known] using ⟨known "C" (by decide), he⟩
  · simpa (disch := decide) [FromC.apply, known] using ⟨inner, he⟩
  · simpa (disch := decide) [FromC.apply, known] using ⟨type, he⟩
  · simpa (disch := decide) [FromC.apply, known] using ⟨type, he⟩
  · simpa [FromC.apply] using he
  · simpa [FromC.apply] using he

theorem intoC_bare (known : ∀ n ∈ goReserved, P n) (i : IntoC) {e : Expr} (he : Foreseen P e.bare) :
    Foreseen P (i.apply e).bare := by
  cases i <;> simpa (disch := decide) [IntoC.apply, known] using he

/-- An argument refers to what the types of its parameter are called. -/
theorem argument_bare (known : ∀ n ∈ goReserved, P n) {s : Slot} (hf : s.Form structs)
    (h : Names own P s.type) :
    Foreseen P (Stmt.bareAll (argument own s).1) ∧ Foreseen P (argument own s).2.bare := by
  have value : ∀ x, Foreseen P (Expr.name x).bare := fun x => by simp [constant_known known]
  have converted : ∀ {t : GoType} {tr : Transfer} (x : String), Names own P t →
      classify structs t = .ok tr → Foreseen P ((fromC own t tr).apply (.name x)).bare :=
    fun x ht hc => fromC_bare known ht hc (value x)
  cases hf with
  | scalar ht hs => exact ⟨by simp [argument], converted _ h ht⟩
  | bytes ht =>
    simp (disch := decide) [argument, Slot.isBytes, known, constant_known known]
  | slice ht he hc hs =>
    have element := h.elem he
    simpa (disch := decide) [argument, Slot.isBytes, Slot.elem, he, known, constant_known known]
      using ⟨ofGoType_bare known _ element, converted _ element hc⟩
  | array ht he hc hs =>
    have element := h.elem he
    simpa (disch := decide) [argument, Slot.elem, he, known, constant_known known]
      using ⟨ofGoType_bare known _ element, converted _ element hc⟩
  | pointer ht he hc =>
    simpa (disch := decide) [argument, he, known, constant_known known]
      using ofGoType_bare known _ (h.elem he)

theorem bufferIntoC_bare (known : ∀ n ∈ goReserved, P n) (s : Slot) (var : String) (k : Nat) :
    Foreseen P (Stmt.bareAll (bufferIntoC s var k).1) ∧
      Foreseen P (bufferIntoC s var k).2.bare := by
  have element : ∀ tr, Foreseen P ((intoC tr).apply (.name "_v")).bare := fun tr =>
    intoC_bare known _ (by simp [constant_known known])
  unfold bufferIntoC
  cases s.isBytes <;> cases he : s.elem <;>
    simp (disch := decide) [known, constant_known known, libraryOf_known known, element]

/-! ## Bodies -/

theorem zeroValue_bare (known : ∀ n ∈ goReserved, P n) (s : Slot) :
    Foreseen P (zeroValue s).bare := by
  unfold zeroValue
  split <;> simp [constant_known known]

theorem bail_bare (known : ∀ n ∈ goReserved, P n) (plan : CallPlan) :
    Foreseen P (bail plan).bare := by
  cases hr : plan.returned with
  | none => simp [bail, hr]
  | some s => simpa [bail, hr] using zeroValue_bare known s

theorem setError_bare (known : ∀ n ∈ goReserved, P n) {e : Expr} (he : Foreseen P e.bare) :
    Foreseen P (setError e).bare := by
  simpa (disch := decide) [known, constant_known known] using he

theorem clearStep_bare (known : ∀ n ∈ goReserved, P n) (plan : CallPlan) :
    Foreseen P (Stmt.bareAll (clearStep plan)) := by
  have clear := setError_bare known (e := .nil) (by simp [constant_known known])
  unfold clearStep
  split
  · simpa only [Stmt.bareAll, List.append_nil] using clear
  · simp

theorem receiveStep_bare (known : ∀ n ∈ goReserved, P n) (plan : CallPlan)
    {receiver : Option Receiver} (h : ∀ r ∈ receiver, r.type.bare = []) :
    Foreseen P (Stmt.bareAll (receiveStep plan receiver)) := by
  cases receiver with
  | none => simp [receiveStep]
  | some r =>
    have type := h r rfl
    have leave := bail_bare known plan
    cases he : plan.hasError <;>
      simpa (disch := decide) [receiveStep, he, type, known, constant_known known] using leave

/-- The types of the parameters are called by names with `P`. -/
def NamesAll (own : String) (P : String → Prop) (plan : CallPlan) : Prop :=
  ∀ s ∈ plan.params, Names own P s.type

theorem convertStep_bare (known : ∀ n ∈ goReserved, P n) {plan : CallPlan}
    (hf : plan.Formed structs) (h : NamesAll own P plan) :
    Foreseen P (Stmt.bareAll (convertStep own plan)) := by
  rw [Stmt.mem_bareAll]
  intro s hs
  obtain ⟨slot, hm, hs⟩ := List.mem_flatMap.1 hs
  exact Stmt.mem_bareAll.1 (argument_bare known (hf.params slot hm) (h slot hm)).1 s hs

theorem arguments_bare (known : ∀ n ∈ goReserved, P n) {plan : CallPlan}
    (hf : plan.Formed structs) (h : NamesAll own P plan) :
    ∀ e ∈ arguments own plan, Foreseen P e.bare := by
  intro e he
  obtain ⟨slot, hm, rfl⟩ := List.mem_map.1 he
  exact (argument_bare known (hf.params slot hm) (h slot hm)).2

theorem assignResults_bare (plan : CallPlan) (e : Expr) : (assignResults plan e).bare = e.bare := by
  unfold assignResults
  split <;> simp

/-- What is called, if it is a function, is selected from a package. -/
def Invoke.Selected : Invoke → Prop
  | .func callee => ∃ q n, callee = .qualified q n
  | .method _ | .read _ | .write _ => True

theorem callStep_bare (known : ∀ n ∈ goReserved, P n) (receiver : Option Receiver) {plan : CallPlan}
    {invoke : Invoke} (hf : plan.Formed structs) (h : NamesAll own P plan) (hi : invoke.Selected) :
    Foreseen P (Stmt.bareAll (callStep own receiver plan invoke)) := by
  have passed : Foreseen P (Expr.bareAll (arguments own plan)) :=
    Expr.mem_bareAll.2 (arguments_bare known hf h)
  unfold callStep
  cases invoke with
  | func callee =>
    obtain ⟨q, n, rfl⟩ := hi
    simpa [assignResults_bare] using passed
  | method name =>
    rcases receiver with - | ⟨struct, type, byPointer⟩
    · simpa [assignResults_bare, constant_known known] using passed
    · cases byPointer <;>
        simpa [assignResults_bare, constant_known known] using passed
  | read field => simp [constant_known known]
  | write field =>
    rw [Stmt.mem_bareAll, List.forall_mem_map]
    intro e he
    simpa [constant_known known] using arguments_bare known hf h e he

theorem writeBackStep_bare (known : ∀ n ∈ goReserved, P n) (plan : CallPlan) :
    Foreseen P (Stmt.bareAll (writeBackStep plan)) := by
  rw [Stmt.mem_bareAll, writeBackStep, List.forall_mem_map]
  intro s _
  simp (disch := decide) [known, constant_known known, libraryOf_known known]

theorem errorStep_bare (known : ∀ n ∈ goReserved, P n) (plan : CallPlan) :
    Foreseen P (Stmt.bareAll (errorStep plan)) := by
  unfold errorStep
  split <;> simp (disch := decide) [known, constant_known known]

theorem returnResult_bare (known : ∀ n ∈ goReserved, P n) (s : Slot) :
    Foreseen P (Stmt.bareAll (returnResult s)) := by
  obtain ⟨copied, pointer⟩ := bufferIntoC_bare known s "_r0" 0
  have value := intoC_bare known (intoC s.transfer) (e := .name "_r0") (by simp [constant_known known])
  unfold returnResult
  cases s.shape <;>
    simp (disch := decide) [Stmt.bareAll_append, known, constant_known known, copied, pointer, value]

theorem storeResult_bare (known : ∀ n ∈ goReserved, P n) (s : Slot) (k : Nat) :
    Foreseen P (storeResult s k).bare := by
  obtain ⟨copied, pointer⟩ := bufferIntoC_bare known s (resultName k) k
  have value := intoC_bare known (intoC s.transfer) (e := .name (resultName k))
    (by simp [constant_known known])
  unfold storeResult
  cases s.shape <;>
    simp (disch := decide) [Stmt.bareAll_append, known, constant_known known, copied, pointer, value]

theorem resultStep_bare (known : ∀ n ∈ goReserved, P n) (plan : CallPlan) :
    Foreseen P (Stmt.bareAll (resultStep plan)) := by
  unfold resultStep
  cases plan.returned with
  | some s => exact returnResult_bare known s
  | none =>
    rw [Stmt.mem_bareAll]
    intro s hs
    obtain ⟨k, hk, rfl⟩ := List.mem_mapIdx.1 hs
    exact storeResult_bare known _ k

/-- **The bare names in a body are foreseen, or name a type of a parameter.** -/
theorem body_bare (known : ∀ n ∈ goReserved, P n) {receiver : Option Receiver} {invoke : Invoke}
    {plan : CallPlan} (hr : ∀ r ∈ receiver, r.type.bare = []) (hi : invoke.Selected)
    (hf : plan.Formed structs) (h : NamesAll own P plan) :
    Foreseen P (Stmt.bareAll (body own receiver invoke plan)) := by
  simp only [body, Stmt.bareAll_append, foreseen_append]
  exact ⟨⟨⟨⟨⟨⟨clearStep_bare known plan, receiveStep_bare known plan hr⟩,
    convertStep_bare known hf h⟩, callStep_bare known receiver hf h hi⟩,
    writeBackStep_bare known plan⟩, errorStep_bare known plan⟩, resultStep_bare known plan⟩

end

/-! ## Entry points -/

section

variable {own symbol : String} {surface : Surface} {structs : StructNames} {receiver : Option Receiver}
  {invoke : Invoke} {plan : CallPlan} {e : Entry}

theorem formed_unshadowed {renamed : CallPlan} (hr : unshadowed own plan = some renamed)
    (h : plan.Formed structs) : renamed.Formed structs := by
  obtain ⟨params, same⟩ := unshadowed_renamed hr
  have results : renamed.results = plan.results := by rw [same]
  refine ⟨fun s' hs' => ?_, results ▸ h.results⟩
  obtain ⟨s, hs, e⟩ := exists_related params hs'
  rw [e]
  exact (h.params s hs).rename s'.name

theorem entryOf_bare {P : String → Prop} (known : ∀ n ∈ goReserved, P n)
    (hs : Serves own surface receiver invoke plan)
    (he : entryOf own symbol receiver invoke plan = some e) (hf : plan.Formed structs)
    (h : NamesAll own P plan) : Foreseen P (Stmt.bareAll e.body) := by
  obtain ⟨renamed, hu, rfl⟩ := entryOf_eq_some_iff.1 he
  have named : NamesAll own P renamed := by
    intro s' hs'
    obtain ⟨s, hs, same⟩ := exists_related (unshadowed_renamed hu).1 hs'
    rw [same]
    exact h s hs
  refine body_bare known ?_ ?_ (formed_unshadowed hu hf) named
  · cases hs <;> rintro r ⟨⟩ <;> rfl
  · cases hs with
    | func hf => exact ⟨_, _, rfl⟩
    | getter | setter | method => trivial

mutual
/-- The packages of the structs inside a type are among its qualifiers. -/
theorem nodes_qualified (t : GoType) : ∀ n ∈ t.nodes, ∀ q ∈ n.package, q ∈ typeQualifiers t := by
  match t with
  | ⟨kind, name, package, elem, key, size⟩ =>
    rw [GoType.nodes, List.forall_mem_cons, List.forall_mem_append]
    simp only [typeQualifiers, List.mem_append]
    refine ⟨fun q hq => .inl (.inl (Option.mem_toList.2 hq)), fun n hn q hq => ?_, fun n hn q hq => ?_⟩
    · exact .inl (.inr (partNodes_qualified elem n hn q hq))
    · exact .inr (partNodes_qualified key n hn q hq)
theorem partNodes_qualified (t : Option GoType) :
    ∀ n ∈ GoType.partNodes t, ∀ q ∈ n.package, q ∈ partQualifiers t := by
  match t with
  | none => simp [GoType.partNodes]
  | some t =>
    rw [GoType.partNodes, partQualifiers]
    exact nodes_qualified t
end

/-- **The packages that a body refers to are reserved.** -/
theorem entryOf_qualifiers (hs : Serves own surface receiver invoke plan)
    (he : entryOf own symbol receiver invoke plan = some e) :
    ∀ q ∈ e.qualifiers, q.text ∈ (entryReserved own plan).names := by
  have itself : own ∈ (entryReserved own plan).names := by simp [entryReserved]
  have takes : Takes own (fun x => x.qualifier.text ∈ (entryReserved own plan).names) plan := by
    intro s hs n hn _
    unfold Selector.ofStruct
    cases hq : n.package with
    | none => exact itself
    | some q =>
      have mem := nodes_qualified s.type n hn q hq
      exact List.mem_append_right _ (List.mem_cons_of_mem _
        (List.mem_flatMap.2 ⟨s, List.mem_append_left _ hs, mem⟩))
  have selects := entryOf_selects he (P := fun x => x.qualifier.text ∈ (entryReserved own plan).names)
    (by cases hs <;> rintro r ⟨⟩ <;> simpa [ownType, Ty.selectors, Qualifier.text] using itself)
    (by cases hs <;> simp [Invoke.Selects, Expr.selectors, Qualifier.text, itself]) takes
  intro q hq
  rw [Entry.qualifiers, Stmt.qualifiersAll_eq] at hq
  obtain ⟨x, hx, rfl⟩ := List.mem_map.1 hq
  exact selects x hx

/-! ### Identifiers of the glue -/

/-- The name is one that the glue gives to a handle, to a place where something is stored, or to a count. -/
def OfGlue (name : String) : Prop :=
  name = "handle" ∨ beginsWith "out" name = true ∨ ∃ counted, name = lengthName counted

/-- The glue calls nothing like a predeclared name or a name of the prelude. -/
theorem OfGlue.unreserved {name : String} (h : OfGlue name) : name ∉ goReserved := by
  have out : ∀ n ∈ goReserved, beginsWith "out" n ≠ true := by decide
  have len : ∀ n ∈ goReserved, ['n', 'e', 'L'].isPrefixOf n.toList.reverse ≠ true := by decide
  intro hm
  rcases h with rfl | h | ⟨counted, rfl⟩
  · exact absurd hm (by decide)
  · exact out name hm h
  · exact len _ hm (by simp [lengthName_toList])

/-- An identifier of a prototype is a parameter, or the glue made it. -/
theorem entryParams_cases {bound : Bool} (outputs : ∀ s ∈ plan.results, beginsWith "out" s.name = true)
    {x : CParam} (hx : x ∈ entryParams bound plan) :
    (∃ s ∈ plan.params, x.name = s.name) ∨ OfGlue x.name := by
  simp only [entryParams, List.mem_append] at hx
  rcases hx with ((hx | hx) | hx) | hx
  · split at hx
    · rw [List.mem_singleton.1 hx]
      exact .inr (.inl rfl)
    · cases hx
  · obtain ⟨s, hs, hx⟩ := List.mem_flatMap.1 hx
    have name : x.name ∈ slotNames s := slotParams_names s ▸ List.mem_map_of_mem hx
    rcases mem_slotNames.1 name with e | ⟨-, e⟩
    · exact .inl ⟨s, hs, e⟩
    · exact .inr (.inr (.inr ⟨s.name, e⟩))
  · rcases resultParams_name hx with e | ⟨s, hs, e | e⟩
    · exact .inr (.inr (.inl (e ▸ by decide)))
    · exact .inr (.inr (.inl (e ▸ outputs s hs)))
    · exact .inr (.inr (.inr ⟨s.name, e⟩))
  · split at hx
    · rw [List.mem_singleton.1 hx]
      exact .inr (.inr (.inl (by decide)))
    · cases hx

/-- The name stands for a type inside the type of a parameter. -/
def NamesType (own : String) (ts : List GoType) (name : String) : Prop :=
  ∃ t ∈ ts, ∃ n ∈ t.nodes, Ty.ofGoType own n = .name name

/-- **What an identifier of a prototype can hide**: never a predeclared name or one of the prelude, and of
what the body refers to only a package that is called as the glue calls things. -/
theorem entryOf_visible (hs : Serves own surface receiver invoke plan)
    (he : entryOf own symbol receiver invoke plan = some e) (hf : plan.Formed structs)
    (outputs : ∀ s ∈ plan.results, beginsWith "out" s.name = true) {x : CParam} (hx : x ∈ e.params) :
    x.name ∉ goReserved ∧ (x.name ∈ e.references →
      (OfGlue x.name ∧ ∃ q ∈ e.qualifiers, q.text = x.name) ∨
        NamesType own (plan.params.map (·.type)) x.name) := by
  have bare := entryOf_bare
    (P := fun n => n ∈ goReserved ∨ NamesType own (plan.params.map (·.type)) n)
    (fun n hn => .inl hn) hs he hf
    fun s hs n hn named => .inr ⟨s.type, List.mem_map_of_mem hs, n, hn, named⟩
  have reserved := entryOf_qualifiers hs he
  obtain ⟨renamed, hu, made⟩ : ∃ renamed, unshadowed own plan = some renamed ∧
      e.params = entryParams receiver.isSome renamed := by
    obtain ⟨renamed, hu, rfl⟩ := entryOf_eq_some_iff.1 he
    exact ⟨renamed, hu, rfl⟩
  have same : renamed.results = plan.results := by rw [(unshadowed_renamed hu).2]
  rw [made] at hx
  rcases entryParams_cases (same ▸ outputs) hx with ⟨s, hs, e⟩ | glue
  · -- a parameter was claimed against everything that is reserved
    have free : x.name ∉ (entryReserved own plan).names := by
      have claimed := ((unshadowed_claimed hu).1 s hs).1
      rw [e]
      simp only [Reserved.contains, Reserved.holds, Bool.or_eq_false_iff] at claimed
      simpa using claimed.1.1
    have predeclared : x.name ∉ goReserved := fun h => free (List.mem_append_left _ h)
    refine ⟨predeclared, fun h => ?_⟩
    rcases List.mem_append.1 h with h | h
    · exact .inr ((bare x.name h).resolve_left predeclared)
    · obtain ⟨q, hq, hn⟩ := List.mem_map.1 h
      exact absurd (hn ▸ reserved q hq) free
  · refine ⟨glue.unreserved, fun h => ?_⟩
    rcases List.mem_append.1 h with h | h
    · exact .inr ((bare x.name h).resolve_left glue.unreserved)
    · exact .inl ⟨glue, List.mem_map.1 h⟩

end

end Go

/-! ## The glue of a package -/

namespace Surface

open Go

/-- What is known of the plan of a member of a package. -/
structure Laid (p : Package) (plan : CallPlan) : Prop where
  formed : plan.Formed p.structNames
  outputs : ∀ s ∈ plan.results, beginsWith "out" s.name = true
  types : ∀ t ∈ plan.params.map (·.type), t ∈ p.takenTypes

theorem laid_ofSignature {p : Package} {sig : Signature} {plan : CallPlan}
    (h : CallPlan.ofSignature p.structNames sig = .ok plan)
    (types : ∀ t ∈ sig.params.map (·.type), t ∈ p.takenTypes) : Laid p plan :=
  ⟨CallPlan.ofSignature_form h, resultSlots_names (CallPlan.ofSignature_slots h).2,
    CallPlan.ofSignature_params h ▸ types⟩

theorem laid_ofSetter {p : Package} {t : GoType} {plan : CallPlan}
    (h : CallPlan.ofSetter p.structNames t = .ok plan) (ht : t ∈ p.takenTypes) : Laid p plan := by
  refine ⟨CallPlan.ofSetter_form h, ?_, by simpa [CallPlan.ofSetter_params h] using ht⟩
  obtain ⟨laid, hs, rfl⟩ := ok_of_map h
  exact resultSlots_names (CallPlan.ofSignature_slots hs).2

theorem serves_laid {p : Package} {receiver : Option Receiver} {invoke : Invoke} {plan : CallPlan}
    (h : Serves p.name (ofPackage p) receiver invoke plan) : Laid p plan := by
  have ofStruct : ∀ {s : StructSurface}, s ∈ (ofPackage p).structs →
      ∀ t ∈ s.struct.fields.map (·.type) ++ s.struct.methods.flatMap (·.params.map (·.type)),
        t ∈ p.takenTypes := fun hs t ht =>
    List.mem_append_right _ (List.mem_flatMap.2 ⟨_, (struct_source hs).1, ht⟩)
  cases h with
  | func hf =>
    obtain ⟨hm, plan⟩ := function_source hf
    exact laid_ofSignature plan fun t ht =>
      List.mem_append_left _ (List.mem_flatMap.2 ⟨_, hm, ht⟩)
  | getter hs hf hp =>
    rw [(struct_source hs).2] at hf
    exact laid_ofSignature ((field_source hf).2.1 plan hp) (by simp)
  | setter hs hf hp =>
    rw [(struct_source hs).2] at hf
    obtain ⟨hm, -, setter⟩ := field_source hf
    exact laid_ofSetter (setter plan hp)
      (ofStruct hs _ (List.mem_append_left _ (List.mem_map_of_mem hm)))
  | method hs hm =>
    rw [(struct_source hs).2] at hm
    obtain ⟨hm, plan⟩ := method_source hm
    exact laid_ofSignature plan fun t ht =>
      ofStruct hs t (List.mem_append_right _ (List.mem_flatMap.2 ⟨_, hm, ht⟩))

end Surface

namespace Glue

open Go

/-- **What the identifiers of a prototype can hide from the body.** They are no predeclared names and no
names of the prelude. Where the body refers to something that is called like one of them, it refers to a
package, and the identifier is one that the glue made; or it refers to a type that is not built in. -/
theorem references_visible {p : Package} {g : Glue} (h : ofPackage p = some g) :
    ∀ e ∈ g.entries, ∀ x ∈ e.params, x.name ∉ goReserved ∧ (x.name ∈ e.references →
      (OfGlue x.name ∧ ∃ q ∈ e.qualifiers, q.text = x.name) ∨ NamesType p.name p.takenTypes x.name) := by
  obtain ⟨es, emission, he, emitted, rfl⟩ := Glue.ofPackage_eq_some_iff.1 h
  intro e hm x hx
  rcases entries_cases he hm with ⟨s, -, rfl | rfl⟩ | ⟨symbol, receiver, invoke, plan, serves, made⟩
  · cases hx
  · have refers : (destructor s.struct.name).references = ["freeHandle"] := rfl
    rw [List.mem_singleton.1 hx, refers]
    exact ⟨by decide, fun hidden => absurd hidden (by decide)⟩
  · have laid := Surface.serves_laid serves
    obtain ⟨predeclared, hidden⟩ := entryOf_visible serves made laid.formed laid.outputs hx
    refine ⟨predeclared, fun refers => (hidden refers).imp_right ?_⟩
    rintro ⟨t, ht, named⟩
    exact ⟨t, laid.types t ht, named⟩

/-- A package with the function `Until(time time.Time, len int) []string`. -/
def clock : Package where
  name := "clock"
  importPath := "example.com/clock"
  dir := ""
  functions :=
    [⟨⟨[⟨"time", .qualified "time" "Time"⟩, ⟨"len", .primitive "int"⟩], [.unnamed (.slice .string)],
      false⟩, "Until", ""⟩]
  structs := []

/-- Both parameters of `Until` are renamed, since its body refers to what they were called. -/
theorem references_visible_clock :
    ∃ g, ofPackage clock = some g ∧
      g.entries.map (fun e => (e.params.map (·.name), e.references))
        = [(["time_", "len_", "outLen"], ["derefOrZero", "fromHandle", "int", "allocSlice", "C", "len",
          "C", "nil", "C", "len", "unsafe", "clock", "time"])] ∧
      ∀ e ∈ g.entries, ∀ x ∈ e.params, x.name ∉ goReserved ∧ (x.name ∈ e.references →
        (OfGlue x.name ∧ ∃ q ∈ e.qualifiers, q.text = x.name) ∨
          NamesType clock.name clock.takenTypes x.name) := by
  have seen : (ofPackage clock).map (·.entries.map fun e => (e.params.map (·.name), e.references))
      = some [(["time_", "len_", "outLen"], ["derefOrZero", "fromHandle", "int", "allocSlice", "C",
        "len", "C", "nil", "C", "len", "unsafe", "clock", "time"])] := by decide +kernel
  obtain ⟨g, hg, spelled⟩ := Option.map_eq_some_iff.1 seen
  exact ⟨g, hg, spelled, references_visible hg⟩

/-- A package that is called like the parameter for the receiver. -/
def grip : Package where
  name := "handle"
  importPath := "example.com/handle"
  dir := ""
  functions := []
  structs := [⟨"Grip", "", [⟨"Size", .primitive "int", "", true⟩], []⟩]

/-- **An identifier of a prototype may hide the wrapped package**: the accessors of `Grip` look the object
up by its type `handle.Grip`, where `handle` is their parameter. -/
theorem references_hidden :
    grip.check = .ok () ∧ ∃ g, ofPackage grip = some g ∧
      ∃ e ∈ g.entries, ∃ x ∈ e.params, ∃ q ∈ e.qualifiers, q = .own grip.name ∧ x.name = q.text := by
  have seen : (ofPackage grip).map (fun g => g.entries.map fun e => (e.symbol, e.params.map (·.name),
        e.qualifiers))
      = some [("Grip_New", [], [.own "handle"]), ("Grip_Free", ["handle"], []),
        ("Grip_GetSize", ["handle"], [.own "handle"]),
        ("Grip_SetSize", ["handle", "value"], [.own "handle"])] := by decide +kernel
  obtain ⟨g, hg, entries⟩ := Option.map_eq_some_iff.1 seen
  refine ⟨by decide +kernel, g, hg, ?_⟩
  have getter : ("Grip_GetSize", ["handle"], [Qualifier.own "handle"]) ∈
      g.entries.map fun e => (e.symbol, e.params.map (·.name), e.qualifiers) := by
    rw [entries]
    decide
  obtain ⟨e, he, shown⟩ := List.mem_map.1 getter
  obtain ⟨-, names, qualifiers⟩ : _ ∧ e.params.map (·.name) = ["handle"] ∧ e.qualifiers = [.own "handle"] := by
    simpa using shown
  obtain ⟨x, hx, name⟩ := List.mem_map.1 (names ▸ List.mem_singleton_self "handle")
  exact ⟨e, he, x, hx, .own "handle", by simp [qualifiers], rfl, name⟩

end Glue

end GoGlue
