import GoGlue.Proofs.Surface.Symbols

/-!
# Nothing is left out without a record

A package offers its functions, the exported fields of its structs and their methods. Each of these is kept, with
the plans it is called by, or left out, with one record that names it and says why. A field that is kept may still
lack an accessor: a method with the accessor's name takes its place, also one that is itself left out.

* `kept_filter`, `omitted_filter`: what is kept and what is left out, in order.
* `omissions_refused`: exactly the offers that cannot be laid out are left out.
* `surface_accounted`: the surface and the log of a package account for all that it offers.
-/
namespace GoGlue

/-! ## What a package offers -/

/-- Something that a package offers to the other side. -/
inductive Offer where
  | func (f : Func)
  | field (s : Struct) (f : StructField)
  | method (s : Struct) (m : Method)

/-- The functions, then struct by struct the exported fields and the methods, as they are declared. -/
def Package.offered (p : Package) : List Offer :=
  p.functions.map .func
    ++ p.structs.flatMap fun s => s.exportedFields.map (.field s) ++ s.methods.map (.method s)

namespace Offer

/-- The name under which an offer is reported. -/
def name : Offer → String
  | func f => f.name
  | field s f => s.name ++ "." ++ f.name
  | method s m => s.name ++ "." ++ m.name

/-- Why an offer cannot be laid out. The generated constructor and destructor come before methods. -/
inductive Refused (structs : StructNames) : Offer → OmissionCause → Prop
  | func {f : Func} {e : PlanError} (h : CallPlan.ofSignature structs f.toSignature = .error e) :
    Refused structs (.func f) (.plan e)
  | getter {s : Struct} {f : StructField} {e : PlanError} (h : CallPlan.ofGetter structs f.type = .error e) :
    Refused structs (.field s f) (.plan e)
  | setter {s : Struct} {f : StructField} {e : PlanError} (get : (CallPlan.ofGetter structs f.type).isOk)
    (h : CallPlan.ofSetter structs f.type = .error e) : Refused structs (.field s f) (.plan e)
  | reserved {s : Struct} {m : Method} (h : m.name = "New" ∨ m.name = "Free") :
    Refused structs (.method s m) .reservedMethod
  | method {s : Struct} {m : Method} {e : PlanError} (new : m.name ≠ "New") (free : m.name ≠ "Free")
    (h : CallPlan.ofSignature structs m.toSignature = .error e) : Refused structs (.method s m) (.plan e)

/-- The offer can be laid out. -/
def accepted (structs : StructNames) : Offer → Bool
  | func f => (CallPlan.ofSignature structs f.toSignature).isOk
  | field _ f => (CallPlan.ofGetter structs f.type).isOk && (CallPlan.ofSetter structs f.type).isOk
  | method _ m =>
    m.name ≠ "New" && m.name ≠ "Free" && (CallPlan.ofSignature structs m.toSignature).isOk

end Offer

namespace Surface

attribute [local simp] Except.isOk Except.toBool

/-! ## Verdicts -/

section Verdicts

variable {α β : Type} {verdict : α → Verdict β} {accepted : α → Bool}

/-- What is kept of a list is what is accepted, in order. -/
theorem kept_filter {source : β → α} (ok : ∀ a, (verdict a).isOk = accepted a)
    (same : ∀ a b, verdict a = .ok b → source b = a) (as : List α) :
    (kept (as.map verdict)).map source = as.filter accepted := by
  rw [@kept_map α β α id verdict source same, List.map_id]
  simp only [ok]

/-- What is left out of a list is what is not accepted, in order. -/
theorem omitted_filter (ok : ∀ a, (verdict a).isOk = accepted a) (as : List α) :
    List.Forall₂ (fun a o => verdict a = .error o) (as.filter (!accepted ·)) (omitted (as.map verdict)) := by
  induction as with
  | nil => exact .nil
  | cons a rest ih =>
    rw [List.filter_cons, ← ok]
    cases hv : verdict a with
    | ok b => simpa [omitted, hv] using ih
    | error o => simpa [omitted, hv] using ih

end Verdicts

variable {structs : StructNames}

theorem func_isOk (f : Func) : (func structs f).isOk = (Offer.func f).accepted structs := by
  cases h : CallPlan.ofSignature structs f.toSignature <;> simp [func, Offer.accepted, h]

theorem field_isOk (s : Struct) (f : StructField) :
    (field structs s f).isOk = (Offer.field s f).accepted structs := by
  cases hg : CallPlan.ofGetter structs f.type with
  | error e => simp [field, accessors, Offer.accepted, hg, bind, Except.bind]
  | ok getter =>
    cases hs : CallPlan.ofSetter structs f.type <;>
      simp [field, accessors, Offer.accepted, hg, hs, bind, Except.bind, pure, Except.pure]

theorem method_isOk (s : Struct) (m : Method) :
    (method structs s m).isOk = (Offer.method s m).accepted structs := by
  by_cases reserved : m.name = "New" ∨ m.name = "Free"
  · rcases reserved with e | e <;> simp [method, Offer.accepted, e]
  · have free := not_or.1 reserved
    cases h : CallPlan.ofSignature structs m.toSignature <;> simp [method, Offer.accepted, free, h]

/-! ## Omissions -/

/-- An omission names the offer and says why it cannot be laid out. -/
def OmissionOf (structs : StructNames) (o : Offer) (m : Omission) : Prop :=
  m.symbol = o.name ∧ o.Refused structs m.cause

theorem func_refused {f : Func} {m : Omission} (h : func structs f = .error m) :
    OmissionOf structs (.func f) m := by
  unfold func at h
  split at h
  · cases h
  · next e =>
    cases h
    exact ⟨rfl, .func e⟩

theorem field_refused {s : Struct} {f : StructField} {m : Omission} (h : field structs s f = .error m) :
    OmissionOf structs (.field s f) m := by
  unfold field accessors at h
  cases hg : CallPlan.ofGetter structs f.type with
  | error e =>
    rw [hg] at h
    cases h
    exact ⟨rfl, .getter hg⟩
  | ok getter =>
    cases hs : CallPlan.ofSetter structs f.type with
    | error e =>
      rw [hg, hs] at h
      cases h
      exact ⟨rfl, .setter (by rw [hg]; rfl) hs⟩
    | ok setter =>
      rw [hg, hs] at h
      cases h

theorem method_refused {s : Struct} {m : Method} {o : Omission} (h : method structs s m = .error o) :
    OmissionOf structs (.method s m) o := by
  unfold method at h
  split at h
  · next reserved =>
    cases h
    exact ⟨rfl, .reserved reserved⟩
  · next free =>
    rw [not_or] at free
    split at h
    · cases h
    · next e =>
      cases h
      exact ⟨rfl, .method free.1 free.2 e⟩

/-- What is left out of one kind of offers. -/
theorem omitted_refused {α β : Type} {verdict : α → Verdict β} {offer : α → Offer}
    (ok : ∀ a, (verdict a).isOk = (offer a).accepted structs)
    (refused : ∀ a m, verdict a = .error m → OmissionOf structs (offer a) m) (as : List α) :
    List.Forall₂ (OmissionOf structs) ((as.map offer).filter (!·.accepted structs))
      (omitted (as.map verdict)) := by
  rw [List.filter_map, List.forall₂_map_left_iff]
  exact (omitted_filter ok as).imp refused

/-- **Exactly the offers that cannot be laid out are left out**, in the order in which they are declared. -/
theorem omissions_refused (p : Package) :
    List.Forall₂ (OmissionOf p.structNames) (p.offered.filter (!·.accepted p.structNames)) (omissions p) := by
  rw [Package.offered, List.filter_append, List.filter_flatMap]
  refine List.rel_append (omitted_refused func_isOk (fun _ _ => func_refused) p.functions) ?_
  have same : List.Forall₂ Eq p.structs p.structs := List.forall₂_refl _
  refine List.rel_flatMap same ?_
  rintro s _ rfl
  simp only [List.filter_append]
  exact List.rel_append (omitted_refused (field_isOk s) (fun _ _ => field_refused) s.exportedFields)
    (omitted_refused (method_isOk s) (fun _ _ => method_refused) s.methods)

/-! ## The account -/

/-- An accessor of a field has the plan that is made for it, unless a method of the struct has its name. -/
def AccessorOf (s : Struct) (name : String) (plan : Except PlanError CallPlan) (accessor : Option CallPlan) : Prop :=
  (accessor = none ↔ ∃ m ∈ s.methods, m.name = name) ∧ ∀ a ∈ accessor, plan = .ok a

/-- What becomes of a struct: exactly what can be laid out of it is kept, in order. -/
structure StructAccounted (structs : StructNames) (s : Struct) (t : StructSurface) : Prop where
  struct : t.struct = s
  fields : t.fields.map (·.field) = s.exportedFields.filter fun f =>
    (CallPlan.ofGetter structs f.type).isOk && (CallPlan.ofSetter structs f.type).isOk
  getters : ∀ f ∈ t.fields,
    AccessorOf s ("Get" ++ f.field.name) (CallPlan.ofGetter structs f.field.type) f.getter
  setters : ∀ f ∈ t.fields,
    AccessorOf s ("Set" ++ f.field.name) (CallPlan.ofSetter structs f.field.type) f.setter
  methods : t.methods.map (·.method) = s.methods.filter fun m =>
    m.name ≠ "New" && m.name ≠ "Free" && (CallPlan.ofSignature structs m.toSignature).isOk
  plans : ∀ m ∈ t.methods, CallPlan.ofSignature structs m.method.toSignature = .ok m.plan

/-- A record about an offer that is left out. -/
def RecordOf (structs : StructNames) (target : String) (verbose : Bool) (o : Offer) (r : LogRecord) : Prop :=
  r.level = (if verbose then .warn else .debug) ∧
    ∃ cause, o.Refused structs cause ∧ r.message = target ++ ": skipping " ++ o.name ++ ": " ++ cause.message

/-- The surface and the log of a package hold all that the package offers, and nothing else. -/
structure Accounted (p : Package) (target : String) (verbose : Bool) : Prop where
  functions : (ofPackage p).functions.map (·.func) = p.functions.filter fun f =>
    (CallPlan.ofSignature p.structNames f.toSignature).isOk
  plans : ∀ f ∈ (ofPackage p).functions,
    CallPlan.ofSignature p.structNames f.func.toSignature = .ok f.plan
  structs : List.Forall₂ (StructAccounted p.structNames) p.structs (ofPackage p).structs
  log : List.Forall₂ (RecordOf p.structNames target verbose) (p.offered.filter (!·.accepted p.structNames))
    (log p target verbose)

theorem field_accounted {s : Struct} {sf : StructField} {f : FieldSurface} (h : field structs s sf = .ok f) :
    f.field = sf ∧ AccessorOf s ("Get" ++ sf.name) (CallPlan.ofGetter structs sf.type) f.getter ∧
      AccessorOf s ("Set" ++ sf.name) (CallPlan.ofSetter structs sf.type) f.setter := by
  have has : ∀ name, s.hasMethod name = true ↔ ∃ m ∈ s.methods, m.name = name := by
    simp [Struct.hasMethod]
  have accessor : ∀ name plan, AccessorOf s name (.ok plan) (if s.hasMethod name then none else some plan) := by
    intro name plan
    unfold AccessorOf
    rw [← has]
    cases s.hasMethod name <;> simp
  unfold field accessors at h
  cases hg : CallPlan.ofGetter structs sf.type with
  | error e =>
    rw [hg] at h
    cases h
  | ok getter =>
    cases hs : CallPlan.ofSetter structs sf.type with
    | error e =>
      rw [hg, hs] at h
      cases h
    | ok setter =>
      rw [hg, hs] at h
      cases h
      exact ⟨rfl, accessor _ _, accessor _ _⟩

theorem struct_accounted (structs : StructNames) (s : Struct) :
    StructAccounted structs s (struct structs s) := by
  have source : ∀ f ∈ (struct structs s).fields, ∃ sf, field structs s sf = .ok f := by
    intro f hf
    obtain ⟨sf, -, he⟩ := List.mem_map.1 (mem_kept.1 hf)
    exact ⟨sf, he⟩
  refine ⟨rfl, kept_filter (field_isOk s) (fun _ _ he => (field_accounted he).1) _, fun f hf => ?_,
    fun f hf => ?_, kept_filter (method_isOk s) (fun _ _ he => (method_name he).1) _, fun m hm => (method_source hm).2⟩
  · obtain ⟨sf, he⟩ := source f hf
    obtain ⟨rfl, getter, -⟩ := field_accounted he
    exact getter
  · obtain ⟨sf, he⟩ := source f hf
    obtain ⟨rfl, -, setter⟩ := field_accounted he
    exact setter

/-- **The surface and the log of a package account for all that it offers**, whatever the target and how much is
said. -/
theorem surface_accounted (p : Package) (target : String) (verbose : Bool) : Accounted p target verbose where
  functions := kept_filter func_isOk (fun _ _ => func_name) p.functions
  plans := fun _ hf => (function_source hf).2
  structs := by
    rw [ofPackage, List.forall₂_map_right_iff]
    exact List.forall₂_same.2 fun s _ => struct_accounted p.structNames s
  log := by
    rw [log, List.forall₂_map_right_iff]
    refine (omissions_refused p).imp ?_
    rintro o m ⟨symbol, refused⟩
    refine ⟨?_, m.cause, refused, ?_⟩ <;> cases verbose <;>
      simp [Omission.record, LogRecord.skipping, LogRecord.warn, LogRecord.debug, symbol]

/-- A method that takes the place of a getter, although it is itself left out. -/
def tags : Package where
  name := "geo"
  importPath := ""
  dir := ""
  functions := []
  structs :=
    [⟨"Tag", "", [⟨"Name", .string, "", true⟩],
      [⟨⟨[⟨"parts", .slice .string⟩], [], true⟩, "GetName", "", "t", "Tag", true⟩]⟩]

example :
    (ofPackage tags).structs.flatMap (·.fields.map fun f => (f.getter.isSome, f.setter.isSome)) = [(false, true)] ∧
    (ofPackage tags).structs.flatMap (·.methods.map (·.method.name)) = [] ∧
    (log tags "cgo" true).map (·.message)
      = ["cgo: skipping Tag.GetName: variadic functions are not supported"] := by
  decide

end Surface

end GoGlue
