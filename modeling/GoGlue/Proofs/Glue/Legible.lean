import GoGlue.Proofs.Extraction.Names
import GoGlue.Proofs.Glue.Renaming
import GoGlue.Proofs.Glue.Scope
import GoGlue.Proofs.Glue.Spelling
import GoGlue.Proofs.Surface.Symbols

/-!
# Entry points are legible

An entry point is put together from names of the package, from names that are made of these, and from words of
the glue, and none of them has a dot. So wherever a name stands before a dot in the text of an entry point,
something is selected from it: it is a package that the body refers to, a package of the language, or one of the
three locals that have members.

* `body_legible`: bodies are legible.
* `serves_legible`: what an entry point is made for is called by names.
* `entries_legible`: the entry points of a package are legible.
-/
namespace GoGlue

open Text

namespace Go

section

variable {own : String} {structs : StructNames}

-- generated code is spelled out in full here, down to the names in its parts
attribute [local simp] Ty.Legible Expr.Legible Expr.LegibleAll Expr.calls Expr.ccall Expr.nil
  Stmt.Legible Stmt.LegibleAll setError localOf lengthName undotted_append number_undotted

theorem Stmt.legibleAll_iff {ss : List Stmt} : Stmt.LegibleAll ss ↔ ∀ s ∈ ss, s.Legible := by
  induction ss with
  | nil => simp
  | cons s rest ih => simp only [LegibleAll, List.forall_mem_cons, ih]

theorem Stmt.legibleAll_append {ss ts : List Stmt} :
    Stmt.LegibleAll (ss ++ ts) ↔ Stmt.LegibleAll ss ∧ Stmt.LegibleAll ts := by
  simp only [legibleAll_iff, List.forall_mem_append]

theorem Expr.legibleAll_iff {es : List Expr} : Expr.LegibleAll es ↔ ∀ e ∈ es, e.Legible := by
  induction es with
  | nil => simp
  | cons e rest ih => simp only [LegibleAll, List.forall_mem_cons, ih]

/-! ## Types -/

/-- Names are selected from names. -/
def Selector.Legible (x : Selector) : Prop := IsName x.qualifier.text ∧ Undotted x.name

theorem goReserved_undotted : ∀ n ∈ goReserved, Undotted n := by decide

/-- A type is legible if its names are. -/
theorem Ty.legible_of {t : Ty} (selected : ∀ x ∈ t.selectors, x.Legible) (bare : Foreseen Undotted t.bare) :
    t.Legible := by
  induction t with
  | any | c => trivial
  | name n => exact bare n List.mem_cons_self
  | qualified q n => exact selected _ List.mem_cons_self
  | pointer e ih | slice e ih | array _ e ih => exact ih selected bare
  | map k v ihKey ihValue =>
    obtain ⟨ks, vs⟩ := List.forall_mem_append.1 selected
    obtain ⟨kb, vb⟩ := foreseen_append.1 bare
    exact ⟨ihKey ks kb, ihValue vs vb⟩

/-- The types inside the type, and the packages of structs, are called by names. -/
structure Called (own : String) (t : GoType) : Prop where
  selects : Selects own Selector.Legible t
  names : Names own Undotted t

theorem Called.elem {t e : GoType} (h : Called own t) (he : t.elem = some e) : Called own e :=
  ⟨h.selects.elem he, h.names.elem he⟩

theorem Called.legible {t : GoType} (h : Called own t) : (Ty.ofGoType own t).Legible :=
  Ty.legible_of (ofGoType_selects t h.selects) (ofGoType_bare goReserved_undotted t h.names)

/-! ## Conversions -/

theorem fromC_legible {t : GoType} {tr : Transfer} {e : Expr} (h : Called own t)
    (hc : classify structs t = .ok tr) (he : e.Legible) : ((fromC own t tr).apply e).Legible := by
  have type := h.legible
  have inner : (Ty.ofGoType own (t.elem.getD t)).Legible := by
    cases hk : t.elem with
    | none => exact type
    | some k => exact (h.elem hk).legible
  unfold fromC
  split
  · simpa [FromC.apply] using ⟨h.names.here (classify_value hc), he⟩
  · simpa +decide [FromC.apply] using he
  · simpa +decide [FromC.apply] using ⟨inner, he⟩
  · simpa +decide [FromC.apply] using ⟨type, he⟩
  · simpa +decide [FromC.apply] using ⟨type, he⟩
  · simpa [FromC.apply] using he
  · simpa [FromC.apply] using he

theorem intoC_legible (i : IntoC) {e : Expr} (he : e.Legible) : (i.apply e).Legible := by
  cases i with
  | convert p =>
    have type : Undotted p.c := by cases p <;> decide
    simpa +decide [IntoC.apply] using ⟨type, he⟩
  | _ => simpa +decide [IntoC.apply] using he

/-- The slot and its type are called by names. -/
structure LegibleSlot (own : String) (s : Slot) : Prop where
  name : Undotted s.name
  type : Called own s.type

theorem argument_legible {s : Slot} (hf : s.Form structs) (h : LegibleSlot own s) :
    Stmt.LegibleAll (argument own s).1 ∧ (argument own s).2.Legible := by
  obtain ⟨name, type⟩ := h
  have item : Undotted "_v" := by decide
  have converted : ∀ {t : GoType} {tr : Transfer} {x : String}, Undotted x → Called own t →
      classify structs t = .ok tr → ((fromC own t tr).apply (.name x)).Legible := fun hx ht hc =>
    fromC_legible ht hc hx
  cases hf with
  | scalar ht hs => exact ⟨by simp [argument], converted name type ht⟩
  | bytes ht => simpa +decide [argument, Slot.isBytes] using name
  | slice ht he hc hs =>
    have element := type.elem he
    simpa +decide [argument, Slot.isBytes, Slot.elem, he, name]
      using ⟨element.legible, converted item element hc⟩
  | array ht he hc hs =>
    have element := type.elem he
    simpa +decide [argument, Slot.elem, he, name] using ⟨element.legible, converted item element hc⟩
  | pointer ht he hc => simpa +decide [argument, he, name] using (type.elem he).legible

theorem bufferIntoC_legible (s : Slot) {var : String} (hv : Undotted var) (k : Nat) :
    Stmt.LegibleAll (bufferIntoC s var k).1 ∧ (bufferIntoC s var k).2.Legible := by
  have item : Undotted "_v" := by decide
  have element : ∀ tr, ((intoC tr).apply (.name "_v")).Legible := fun tr => intoC_legible _ item
  unfold bufferIntoC
  cases s.isBytes <;> cases he : s.elem <;> simp +decide [hv, element]

/-! ## Bodies -/

/-- The parts of the plan are called by names. -/
structure LegiblePlan (own : String) (plan : CallPlan) : Prop where
  params : ∀ s ∈ plan.params, LegibleSlot own s
  results : ∀ s ∈ plan.results, Undotted s.name

variable {plan : CallPlan}

theorem bail_legible (plan : CallPlan) : (bail plan).Legible := by
  have zero : ∀ s : Slot, (zeroValue s).Legible := by
    intro s
    unfold zeroValue
    split <;> simp +decide
  cases hr : plan.returned with
  | none => simp [bail, hr]
  | some s => simpa [bail, hr] using zero s

theorem clearStep_legible (plan : CallPlan) : Stmt.LegibleAll (clearStep plan) := by
  unfold clearStep
  split <;> simp +decide

theorem receiveStep_legible (plan : CallPlan) {receiver : Option Receiver}
    (h : ∀ r ∈ receiver, Undotted r.struct ∧ r.type.Legible) : Stmt.LegibleAll (receiveStep plan receiver) := by
  cases receiver with
  | none => simp [receiveStep]
  | some r =>
    obtain ⟨struct, type⟩ := h r rfl
    have leave := bail_legible plan
    cases he : plan.hasError <;> simpa +decide [receiveStep, he, type, struct] using leave

theorem convertStep_legible (hf : plan.Formed structs) (h : LegiblePlan own plan) :
    Stmt.LegibleAll (convertStep own plan) := by
  rw [Stmt.legibleAll_iff]
  intro s hs
  obtain ⟨slot, hm, hs⟩ := List.mem_flatMap.1 hs
  exact Stmt.legibleAll_iff.1 (argument_legible (hf.params slot hm) (h.params slot hm)).1 s hs

theorem arguments_legible (hf : plan.Formed structs) (h : LegiblePlan own plan) :
    ∀ e ∈ arguments own plan, e.Legible := by
  intro e he
  obtain ⟨slot, hm, rfl⟩ := List.mem_map.1 he
  exact (argument_legible (hf.params slot hm) (h.params slot hm)).2

theorem resultName_undotted (k : Nat) : Undotted (resultName k) :=
  undotted_append.2 ⟨by decide, number_undotted k⟩

theorem assignResults_legible (plan : CallPlan) {e : Expr} (he : e.Legible) : (assignResults plan e).Legible := by
  have names : ∀ n ∈ resultNames plan, Undotted n := by
    intro n hn
    rcases (resultNames_assigned plan).2 n hn with rfl | ⟨k, rfl⟩
    · decide
    · exact resultName_undotted k
  unfold assignResults
  split
  · simpa using he
  · simpa using ⟨names, he⟩

/-- What is called, read or written is called by a name. -/
def Invoke.Legible : Invoke → Prop
  | .func callee => callee.Legible
  | .method name | .read name | .write name => Undotted name

theorem callStep_legible (receiver : Option Receiver) {invoke : Invoke} (hf : plan.Formed structs)
    (h : LegiblePlan own plan) (hi : invoke.Legible) : Stmt.LegibleAll (callStep own receiver plan invoke) := by
  have passed := arguments_legible hf h
  have together : Expr.LegibleAll (arguments own plan) := Expr.legibleAll_iff.2 passed
  unfold callStep
  cases invoke with
  | func callee =>
    have made : (Expr.call callee (arguments own plan)).Legible := ⟨hi, together⟩
    simpa using assignResults_legible plan made
  | method name =>
    have on : ∀ object ∈ glueObjects,
        (assignResults plan (.call (.member (.name object) name) (arguments own plan))).Legible := by
      intro object ho
      have made : (Expr.call (.member (.name object) name) (arguments own plan)).Legible := ⟨⟨ho, hi⟩, together⟩
      exact assignResults_legible plan made
    rcases receiver with - | ⟨struct, type, byPointer⟩
    · simpa using on "_obj" (by decide)
    · cases byPointer
      · simpa +decide using on "_recv" (by decide)
      · simpa using on "_obj" (by decide)
  | read field =>
    have name : Undotted field := hi
    simp +decide [name]
  | write field =>
    have name : Undotted field := hi
    rw [Stmt.legibleAll_iff, List.forall_mem_map]
    intro e he
    simpa +decide [name] using passed e he

theorem writeBackStep_legible (h : LegiblePlan own plan) : Stmt.LegibleAll (writeBackStep plan) := by
  rw [Stmt.legibleAll_iff, writeBackStep, List.forall_mem_map]
  intro s hs
  have name := (h.params s (List.mem_filter.1 hs).1).name
  simp +decide [name]

theorem errorStep_legible (plan : CallPlan) : Stmt.LegibleAll (errorStep plan) := by
  unfold errorStep
  split <;> simp +decide

theorem returnResult_legible (s : Slot) : Stmt.LegibleAll (returnResult s) := by
  have result : Undotted "_r0" := by decide
  obtain ⟨copied, pointer⟩ := bufferIntoC_legible s result 0
  have value := intoC_legible (intoC s.transfer) (e := .name "_r0") result
  unfold returnResult
  cases s.shape <;> simp +decide [Stmt.legibleAll_append, copied, pointer, value]

theorem storeResult_legible {s : Slot} (name : Undotted s.name) (k : Nat) : (storeResult s k).Legible := by
  have result := resultName_undotted k
  obtain ⟨copied, pointer⟩ := bufferIntoC_legible s result k
  have value := intoC_legible (intoC s.transfer) (e := .name (resultName k)) result
  unfold storeResult
  cases s.shape <;> simp +decide [Stmt.legibleAll_append, name, copied, pointer, value, result]

theorem resultStep_legible (h : LegiblePlan own plan) : Stmt.LegibleAll (resultStep plan) := by
  unfold resultStep
  cases plan.returned with
  | some s => exact returnResult_legible s
  | none =>
    rw [Stmt.legibleAll_iff]
    intro s hs
    obtain ⟨k, hk, rfl⟩ := List.mem_mapIdx.1 hs
    exact storeResult_legible (h.results _ (List.getElem_mem hk)) k

/-- What an entry point is made for is called by names. -/
structure LegibleCall (own : String) (receiver : Option Receiver) (invoke : Invoke) (plan : CallPlan) : Prop where
  receiver : ∀ r ∈ receiver, Undotted r.struct ∧ r.type.Legible
  invoke : invoke.Legible
  plan : LegiblePlan own plan

/-- **Bodies are legible.** -/
theorem body_legible {receiver : Option Receiver} {invoke : Invoke} (hf : plan.Formed structs)
    (h : LegibleCall own receiver invoke plan) : Stmt.LegibleAll (body own receiver invoke plan) := by
  simp only [body, Stmt.legibleAll_append]
  exact ⟨⟨⟨⟨⟨⟨clearStep_legible plan, receiveStep_legible plan h.receiver⟩, convertStep_legible hf h.plan⟩,
    callStep_legible receiver hf h.plan h.invoke⟩, writeBackStep_legible h.plan⟩, errorStep_legible plan⟩,
    resultStep_legible h.plan⟩

/-! ## Entry points -/

theorem slotNames_undotted {s : Slot} (h : Undotted s.name) : ∀ n ∈ slotNames s, Undotted n := by
  intro n hn
  rcases mem_slotNames.1 hn with rfl | ⟨-, rfl⟩
  · exact h
  · exact undotted_append.2 ⟨h, by decide⟩

theorem entryParams_undotted (bound : Bool) (h : LegiblePlan own plan) :
    ∀ x ∈ entryParams bound plan, Undotted x.name := by
  have glue : ∀ n ∈ glueNames, Undotted n := by decide
  intro x hx
  have name : x.name ∈ (entryParams bound plan).map (·.name) := List.mem_map_of_mem hx
  rw [entryParams_names, outputNames] at name
  simp only [List.mem_append, List.mem_flatMap, List.mem_map] at name
  rcases name with (name | ⟨s, hs, name⟩) | ⟨o, ho, e⟩ | name
  · refine glue _ ?_
    cases bound <;> simp_all [glueNames]
  · exact slotNames_undotted (h.params s hs).name _ name
  · rw [← e]
    rcases resultParams_name ho with e | ⟨s, hs, e | e⟩
    · exact e ▸ glue "outLen" (by decide)
    · exact e ▸ h.results s hs
    · exact e ▸ undotted_append.2 ⟨h.results s hs, by decide⟩
  · refine glue _ ?_
    cases he : plan.hasError <;> simp_all [glueNames]

theorem claim_undotted {r : Reserved} {taken : List String} {name free : String}
    (h : claim r taken name = some free) (hn : Undotted name) : Undotted free := by
  obtain ⟨k, e⟩ := claim_eq_append h
  simpa [Undotted, e] using hn

/-- Renaming keeps a plan legible. -/
theorem LegiblePlan.unshadowed {renamed : CallPlan} (h : LegiblePlan own plan)
    (hr : unshadowed own plan = some renamed) : LegiblePlan own renamed := by
  obtain ⟨related, same⟩ := unshadowed_renamed hr
  refine ⟨fun s' hs' => ⟨?_, ?_⟩, same ▸ h.results⟩
  · obtain ⟨s, hs, r, taken, claimed⟩ := (unshadowed_claimed hr).2.2 s' hs'
    exact claim_undotted claimed (h.params s hs).name
  · obtain ⟨s, hs, e⟩ := exists_related related hs'
    rw [e]
    exact (h.params s hs).type

theorem entryOf_legible {symbol : String} {receiver : Option Receiver} {invoke : Invoke} {e : Entry}
    (he : entryOf own symbol receiver invoke plan = some e) (hs : Undotted e.symbol) (hf : plan.Formed structs)
    (h : LegibleCall own receiver invoke plan) : e.Legible := by
  obtain ⟨renamed, hu, rfl⟩ := entryOf_eq_some_iff.1 he
  have legible := h.plan.unshadowed hu
  exact ⟨hs, entryParams_undotted _ legible,
    body_legible (formed_unshadowed hu hf) ⟨h.receiver, h.invoke, legible⟩⟩

theorem constructor_legible {struct : String} (type : (ownType own struct).Legible)
    (symbol : Undotted (constructor own struct).symbol) : (constructor own struct).Legible :=
  ⟨symbol, by simp [constructor], by simpa +decide [constructor] using type⟩

theorem destructor_legible {struct : String} (symbol : Undotted (destructor struct).symbol) :
    (destructor struct).Legible :=
  ⟨symbol, by simp +decide [destructor], by simp +decide [destructor]⟩

end

end Go

/-! ## Names of a package -/

theorem parameterName_undotted {name : String} (h : Undotted name) (index : Nat) :
    Undotted (parameterName name index) := by
  rcases parameterName_cases name index with ⟨-, e⟩ | e | ⟨-, -, -, e⟩
  · exact e ▸ undotted_append.2 ⟨by decide, number_undotted index⟩
  · exact e ▸ undotted_append.2 ⟨h, by decide⟩
  · rwa [e]

theorem outName_undotted {x : Param} (h : Undotted x.name) (index : Nat) : Undotted (CallPlan.outName x index) := by
  unfold CallPlan.outName
  split
  · exact undotted_append.2 ⟨by decide, number_undotted index⟩
  · exact undotted_append.2 ⟨by decide, capitalize_undotted h⟩

theorem resultSlots_undotted {structs : StructNames} {ps : List Param} {index count : Nat}
    {error position : Option Nat} {slots : List Slot}
    (h : CallPlan.resultSlots structs index count error ps = .ok (slots, position))
    (hp : ∀ x ∈ ps, Undotted x.name) : ∀ s ∈ slots, Undotted s.name := by
  induction ps generalizing index count error slots with
  | nil => cases h; simp
  | cons x rest ih =>
    obtain ⟨first, others⟩ := List.forall_mem_cons.1 hp
    rcases CallPlan.resultSlots_cons h with h | ⟨tr, shape, more, -, -, -, -, hr, rfl⟩
    · exact ih h others
    · exact List.forall_mem_cons.2 ⟨outName_undotted first count, ih hr others⟩

/-- The names of the slots of a signature are made of those of its parameters and results. -/
theorem ofSignature_undotted {structs : StructNames} {sig : Signature} {plan : CallPlan}
    (h : CallPlan.ofSignature structs sig = .ok plan) (named : sig.Named IsName) :
    ∀ s ∈ plan.params ++ plan.results, Undotted s.name := by
  obtain ⟨params, results⟩ := CallPlan.ofSignature_slots h
  have undotted : ∀ x ∈ sig.params ++ sig.results, Undotted x.name := by
    intro x hx
    rcases named x hx with e | name
    · exact e ▸ by decide
    · exact name.undotted
  obtain ⟨ofParams, ofResults⟩ := List.forall_mem_append.1 undotted
  refine List.forall_mem_append.2 ⟨fun s hs => ?_, resultSlots_undotted results ofResults⟩
  obtain ⟨x, hx, i, e⟩ := Go.paramSlots_names params s hs
  exact e ▸ parameterName_undotted (ofParams x hx) i

theorem ofSetter_undotted {structs : StructNames} {t : GoType} {plan : CallPlan}
    (h : CallPlan.ofSetter structs t = .ok plan) : ∀ s ∈ plan.params ++ plan.results, Undotted s.name := by
  have value : IsName "value" := by decide +kernel
  obtain ⟨laid, hs, rfl⟩ := ok_of_map h
  have names := ofSignature_undotted hs (by simp [Signature.Named, value])
  refine List.forall_mem_append.2 ⟨?_, (List.forall_mem_append.1 names).2⟩
  exact List.forall_mem_map.2 fun s _ => value.undotted

theorem IsWord.isName {name : String} (h : IsWord name) : IsName name := by
  intro c hc
  have word := h.2 c hc
  simp only [Lexeme.continuesWord, Lexeme.startsWord, isLetter, isDigit, Bool.or_eq_true, Bool.and_eq_true,
    decide_eq_true_eq] at word
  simp only [isNameChar, Char.isAlphanum, Bool.or_eq_true, decide_eq_true_eq]
  tauto

theorem takenTypes_subset (p : Package) : p.takenTypes ⊆ p.types := by
  intro t ht
  rcases List.mem_append.1 ht with ht | ht
  · obtain ⟨f, hf, ht⟩ := List.mem_flatMap.1 ht
    refine List.mem_append_left _ (List.mem_flatMap.2 ⟨f, hf, ?_⟩)
    rw [Signature.types, List.map_append]
    exact List.mem_append_left _ ht
  · obtain ⟨s, hs, ht⟩ := List.mem_flatMap.1 ht
    refine List.mem_append_right _ (List.mem_flatMap.2 ⟨s, hs, ?_⟩)
    rcases List.mem_append.1 ht with ht | ht
    · exact List.mem_append_left _ ht
    · obtain ⟨m, hm, ht⟩ := List.mem_flatMap.1 ht
      refine List.mem_append_right _ (List.mem_flatMap.2 ⟨m, hm, ?_⟩)
      rw [Signature.types, List.map_append]
      exact List.mem_append_left _ ht

namespace Go

open Surface

theorem kind_of_spelled {own : String} {n : GoType} (h : Ty.ofGoType own n = .name n.name) :
    n.kind ≠ .interface ∧ ¬ (n.kind = .pointer ∨ n.kind = .slice ∨ n.kind = .array ∨ n.kind = .map) := by
  obtain ⟨kind, name, package, elem, key, size⟩ := n
  cases kind <;> simp [Ty.ofGoType] at h ⊢

/-- A well-formed type is called by names if its leaves are. -/
theorem called_of_named {own : String} (hown : IsName own) {t : GoType} (formed : t.WellFormed) {names : List String}
    (words : ∀ n ∈ names, IsName n) (named : ∀ n ∈ t.nodes, n.NamedBy names) : Called own t := by
  have leaf : ∀ n ∈ t.nodes, n.kind ≠ .interface →
      ¬ (n.kind = .pointer ∨ n.kind = .slice ∨ n.kind = .array ∨ n.kind = .map) → Undotted n.name := by
    intro n hn interface composite
    have elem : n.elem = none := Option.not_isSome_iff_eq_none.1 (mt (formed n hn).elem.1 composite)
    exact (words _ ((named n hn).leaf elem interface)).undotted
  constructor
  · intro n hn struct
    have name := leaf n hn (by simp [struct]) (by simp [struct])
    unfold Selector.ofStruct
    cases hq : n.package with
    | none => exact ⟨hown, name⟩
    | some q => exact ⟨words q ((named n hn).package q hq), name⟩
  · intro n hn spelled
    obtain ⟨interface, composite⟩ := kind_of_spelled spelled
    exact leaf n hn interface composite

variable {p : Package}

/-- The names in a package are names, and its types are well formed. -/
structure Worded (p : Package) : Prop where
  own : IsName p.name
  named : p.Named IsName
  formed : ∀ t ∈ p.takenTypes, t.WellFormed

theorem Worded.called (h : Worded p) {t : GoType} (ht : t ∈ p.takenTypes) : Called p.name t := by
  obtain ⟨names, words, named⟩ := h.named.types t (takenTypes_subset p ht)
  exact called_of_named h.own (h.formed t ht) words named

theorem Worded.package (h : Worded p) {t n : GoType} (ht : t ∈ p.takenTypes) (hn : n ∈ t.nodes) :
    ∀ q ∈ n.package, IsName q := by
  obtain ⟨names, words, named⟩ := h.named.types t (takenTypes_subset p ht)
  exact fun q hq => words q ((named n hn).package q hq)

/-- **What an entry point is made for is called by names.** -/
theorem serves_legible (h : Worded p) {receiver : Option Receiver} {invoke : Invoke} {plan : CallPlan}
    (serves : Serves p.name (ofPackage p) receiver invoke plan) : LegibleCall p.name receiver invoke plan := by
  have taken := (serves_laid serves).types
  have called : (∀ s ∈ plan.params ++ plan.results, Undotted s.name) → LegiblePlan p.name plan := by
    intro names
    obtain ⟨params, results⟩ := List.forall_mem_append.1 names
    exact ⟨fun s hs => ⟨params s hs, h.called (taken _ (List.mem_map_of_mem hs))⟩, results⟩
  have received : ∀ {s : StructSurface} (byPointer : Bool), s ∈ (ofPackage p).structs →
      ∀ r ∈ some (⟨s.struct.name, ownType p.name s.struct.name, byPointer⟩ : Receiver),
        Undotted r.struct ∧ r.type.Legible := by
    rintro s byPointer hs r ⟨⟩
    have name := (h.named.structs _ (struct_source hs).1).1.undotted
    exact ⟨name, h.own, name⟩
  cases serves with
  | func hf =>
    obtain ⟨hm, plan⟩ := function_source hf
    obtain ⟨name, signature⟩ := h.named.functions _ hm
    exact ⟨by simp, ⟨h.own, name.undotted⟩, called (ofSignature_undotted plan signature)⟩
  | getter hs hf hp =>
    obtain ⟨-, fields, -⟩ := h.named.structs _ (struct_source hs).1
    rw [(struct_source hs).2] at hf
    obtain ⟨hm, getter, -⟩ := field_source hf
    exact ⟨received true hs, (fields _ hm).undotted,
      called (ofSignature_undotted (getter plan hp) (by simp [Signature.Named, Param.unnamed]))⟩
  | setter hs hf hp =>
    obtain ⟨-, fields, -⟩ := h.named.structs _ (struct_source hs).1
    rw [(struct_source hs).2] at hf
    obtain ⟨hm, -, setter⟩ := field_source hf
    exact ⟨received true hs, (fields _ hm).undotted, called (ofSetter_undotted (setter plan hp))⟩
  | method hs hm =>
    obtain ⟨-, -, methods⟩ := h.named.structs _ (struct_source hs).1
    rw [(struct_source hs).2] at hm
    obtain ⟨hm, plan⟩ := method_source hm
    obtain ⟨name, signature⟩ := methods _ hm
    exact ⟨received _ hs, name.undotted, called (ofSignature_undotted plan signature)⟩

theorem symbols_undotted (h : Worded p) : ∀ n ∈ (callables p).map (·.symbol), Undotted n := by
  have joined : ∀ {owner member : String}, IsName owner → Undotted member → Undotted (mangle owner member) :=
    fun ho hm => undotted_append.2 ⟨undotted_append.2 ⟨ho.undotted, by decide⟩, hm⟩
  rw [callables_symbols, List.forall_mem_append, List.forall_mem_flatMap]
  constructor
  · intro s hs
    obtain ⟨owner, fields, methods⟩ := h.named.structs _ (struct_source hs).1
    refine List.forall_mem_map.2 fun n hn => joined owner ?_
    rw [(struct_source hs).2] at hn
    simp only [memberNames, List.mem_append, List.mem_flatMap, List.mem_map] at hn
    rcases hn with (hn | ⟨f, hf, hn⟩) | ⟨m, hm, rfl⟩
    · have own : ∀ n ∈ ["New", "Free"], Undotted n := by decide
      exact own n hn
    · have name := (fields _ (field_source hf).1).undotted
      rcases accessorNames_form hn with rfl | rfl
      · exact undotted_append.2 ⟨by decide, name⟩
      · exact undotted_append.2 ⟨by decide, name⟩
    · exact (methods _ (method_source hm).1).1.undotted
  · refine List.forall_mem_map.2 fun n hn => joined h.own ?_
    obtain ⟨f, hf, rfl⟩ := List.mem_map.1 hn
    exact (h.named.functions _ (function_source hf).1).1.undotted

/-- **The entry points of a package are legible.** -/
theorem entries_legible (h : Worded p) {es : List Entry} (he : entries p.name (ofPackage p) = some es) :
    ∀ e ∈ es, e.Legible := by
  intro e hm
  have symbol : Undotted e.symbol := symbols_undotted h _ (entries_symbols he ▸ List.mem_map_of_mem hm)
  rcases entries_cases he hm with ⟨s, hs, rfl | rfl⟩ | ⟨_, receiver, invoke, plan, serves, made⟩
  · have struct := (h.named.structs _ (struct_source hs).1).1.undotted
    have type : (ownType p.name s.struct.name).Legible := ⟨h.own, struct⟩
    exact constructor_legible type symbol
  · exact destructor_legible symbol
  · exact entryOf_legible made symbol (serves_laid serves).formed (serves_legible h serves)

end Go

end GoGlue
