import GoGlue.Proofs.Extraction.Placement
import GoGlue.Proofs.PyModule.Locals
import GoGlue.Proofs.Text.Case

/-!
# The members of a class

Snake case makes one name of several, and so does the underscore behind a keyword, so the properties and methods
of a class claim their names, one after the other, against each other and against the members that every class
has. What is left of the name in Go is the entry point that a member calls. Only the names that are written
between two underscores are not claimed against: no exported name begins with an underscore, and small letters
have none. Names are compared as they are written.

* `memberName_head`: a name in Python begins with a small letter of the name in Go.
* `members_named`: the members of a class have distinct names, and call what they are made for.
-/
namespace GoGlue

theorem isExported_iff {name : String} :
    isExported name = true ↔ ∃ c rest, name.toList = c :: rest ∧ Text.isUppercase c = true := by
  unfold isExported
  cases name.toList <;> simp

namespace Py

open Extraction (extract extracted_exported)

/-! ## Names in Python -/

/-- A name in Python begins as the small letter of the first character in Go does. -/
theorem memberName_head {name : String} {c : Char} {rest : List Char} (chars : name.toList = c :: rest) :
    (memberName name).toList.head? = (Text.lower c).head? := by
  obtain ⟨l, more, low⟩ := List.exists_cons_of_ne_nil (Text.lower_ne_nil c)
  have snake : (snakeCase name).toList.head? = some l := by simp [snakeCase, chars, low]
  have nonempty : snakeCase name ≠ "" := fun e => by simp [e] at snake
  rw [low, List.head?_cons, ← snake]
  rcases pythonIdent_cases (snakeCase name) with ⟨e, -⟩ | e
  · rw [memberName, e]
  · rw [memberName, e, head_append _ nonempty]

theorem memberName_ne_empty {name : String} (hn : name ≠ "") : memberName name ≠ "" := by
  obtain ⟨c, rest, chars⟩ := List.exists_cons_of_ne_nil fun e => hn (String.toList_injective e)
  intro e
  have head := memberName_head chars
  simp [e, eq_comm (a := none), Text.lower_ne_nil] at head

theorem memberName_beginning {name : String} (h : isExported name = true) :
    beginsWith "_" (memberName name) = false := by
  obtain ⟨c, rest, chars, upper⟩ := isExported_iff.1 h
  have letter : c ≠ '_' := by
    rintro rfl
    exact absurd upper (by decide +kernel)
  rw [← Bool.not_eq_true, beginsWith_underscore, memberName_head chars]
  exact fun e => Text.lower_underscore letter (List.mem_of_mem_head? e)

/-- The name is what the Go name is called in Python, with underscores after it. -/
def NamedAfter (go name : String) : Prop :=
  ∃ k, name.toList = (memberName go).toList ++ List.replicate k '_'

theorem NamedAfter.head {go name : String} (h : NamedAfter go name) (hg : go ≠ "") :
    name.toList.head? = (memberName go).toList.head? := by
  obtain ⟨k, spelled⟩ := h
  have chars : (memberName go).toList ≠ [] := fun e => memberName_ne_empty hg (String.toList_injective e)
  rw [spelled, List.head?_append_of_ne_nil _ chars]

theorem NamedAfter.first {go name : String} (h : NamedAfter go name) (hg : isExported go = true) :
    name.toList.head? ≠ some '_' := by
  have given : go ≠ "" := by
    rintro rfl
    exact absurd hg (by decide)
  rw [h.head given, Ne, ← beginsWith_underscore, memberName_beginning hg]
  decide

/-- Names that are claimed for names in Go. -/
theorem claimAll_namedAfter {r : Reserved} {taken gos free : List String}
    (h : claimAll r taken (gos.map memberName) = some free) : List.Forall₂ NamedAfter gos free :=
  ((List.forall₂_map_left_iff).1 (claimAll_claimed h).2.2).imp fun _ _ ⟨_, claimed⟩ => claim_eq_append claimed

theorem claimAll_nonKeyword {r : Reserved} {taken gos free : List String}
    (h : claimAll r taken (gos.map memberName) = some free) : ∀ n ∈ free, n ∉ pythonKeywords := by
  intro n hn
  obtain ⟨go, -, _, claimed⟩ := exists_related ((List.forall₂_map_left_iff).1 (claimAll_claimed h).2.2) hn
  exact claim_nonKeyword claimed

/-! ## Members -/

/-- The field can be set: it is passed as one value. -/
def settable (f : FieldSurface) : Bool := f.setter.any fun plan => plan.params.map (·.shape) = [.scalar]

/-- The getter of a property and its setter, if it has one. -/
structure PropertyOf (struct : String) (f : FieldSurface) (name : String) (get : Def) (set : Option Def) : Prop where
  getter : get.name = name ∧ get.decorators = ["property"]
  getterCalls : get.invocations.map (·.symbol) = [struct ++ "_Get" ++ f.field.name]
  /-- The setter has the name of the getter, to which it is attached. -/
  setter : ∀ d ∈ set, d.name = name ∧ d.decorators = [name ++ ".setter"]
  setterCalls : ∀ d ∈ set, d.invocations.map (·.symbol) = [struct ++ "_Set" ++ f.field.name]
  settable : set.isSome = settable f

/-- The method of a class for a method of its struct. -/
structure BoundMethod (struct : String) (m : MethodSurface) (name : String) (d : Def) : Prop where
  named : d.name = name ∧ d.decorators = []
  calls : d.invocations.map (·.symbol) = [struct ++ "_" ++ m.method.name]

/-- The names of the properties and methods of a class. -/
structure Named (s : StructSurface) (c : Class) (properties methods : List String) : Prop where
  distinct : (properties ++ methods).Nodup
  /-- No member that every class has is named so, and nothing that the code of a class refers to. -/
  free : ∀ n ∈ properties ++ methods, n ∉ classMembers ∧ n ∉ (fixedMembers s.struct.name true).map (·.name)
  nonKeyword : ∀ n ∈ properties ++ methods, n ∉ pythonKeywords
  fields : List.Forall₂ (fun f n => NamedAfter f.field.name n) (gettable s) properties
  bound : List.Forall₂ (fun m n => NamedAfter m.method.name n) s.methods methods
  members : ∃ (pairs : List (Def × Option Def)) (defs : List Def),
    c.members = fixedMembers s.struct.name (!s.methods.isEmpty)
      ++ pairs.flatMap (fun pair => pair.1 :: pair.2.toList) ++ defs ∧
    List.Forall₂ (fun x pair => PropertyOf s.struct.name x.1 x.2 pair.1 pair.2)
      ((gettable s).zip properties) pairs ∧
    List.Forall₂ (fun x d => BoundMethod s.struct.name x.1 x.2 d) (s.methods.zip methods) defs

/-- A body makes the one call that it is laid out for. -/
theorem callBody_calls {d : Def} {symbol : String} {bound : Bool} {plan : CallPlan} {names : List String}
    (h : d.body = callBody symbol bound plan names) : d.invocations.map (·.symbol) = [symbol] := by
  rw [Def.invocations, h, callBody_entryCalls]
  rfl

theorem property_named (struct name : String) {f : FieldSurface} (h : f.getter.isSome = true) :
    ∃ get set, property struct f name = get :: set.toList ∧ PropertyOf struct f name get set := by
  obtain ⟨getter, hg⟩ := Option.isSome_iff_exists.1 h
  unfold property
  rw [hg]
  cases hs : f.setter with
  | none => exact ⟨_, none, rfl, ⟨rfl, rfl⟩, callBody_calls rfl, by simp, by simp, by simp [settable, hs]⟩
  | some setter =>
    -- only a setter with one scalar parameter becomes a setter of the property
    simp only
    split
    · next value only =>
      split
      · next scalar =>
        refine ⟨_, some _, rfl, ⟨rfl, rfl⟩, callBody_calls rfl, ?_, ?_, by simp [settable, hs, only, scalar]⟩
        · rintro _ ⟨⟩
          exact ⟨rfl, rfl⟩
        · rintro _ ⟨⟩
          exact callBody_calls rfl
      · next scalar =>
        exact ⟨_, none, rfl, ⟨rfl, rfl⟩, callBody_calls rfl, by simp, by simp, by simp [settable, hs, only, scalar]⟩
    · next other =>
      refine ⟨_, none, rfl, ⟨rfl, rfl⟩, callBody_calls rfl, by simp, by simp, ?_⟩
      have several : setter.params.map (·.shape) ≠ [.scalar] := fun e => by
        obtain ⟨value, only, -⟩ := List.map_eq_singleton_iff.1 e
        exact other value only
      simp [settable, hs, several]

theorem properties_named (struct : String) {fields : List FieldSurface} (names : List String)
    (h : ∀ f ∈ fields, f.getter.isSome = true) :
    ∃ pairs : List (Def × Option Def),
      (List.zipWith (property struct) fields names).flatten
        = pairs.flatMap (fun pair => pair.1 :: pair.2.toList) ∧
      List.Forall₂ (fun x pair => PropertyOf struct x.1 x.2 pair.1 pair.2) (fields.zip names) pairs := by
  induction fields generalizing names with
  | nil => exact ⟨[], rfl, .nil⟩
  | cons f rest ih =>
    cases names with
    | nil => exact ⟨[], rfl, .nil⟩
    | cons name names =>
      obtain ⟨get, set, laid, made⟩ := property_named struct name (h f List.mem_cons_self)
      obtain ⟨pairs, flat, others⟩ := ih names fun f hf => h f (List.mem_cons_of_mem _ hf)
      exact ⟨(get, set) :: pairs, by simp [laid, flat], .cons made others⟩

theorem methodMember_named {structs : StructNames} {struct name : String} {m : MethodSurface} {d : Def}
    (h : methodMember structs struct m name = some d) : BoundMethod struct m name d := by
  simp only [methodMember, bind, Option.bind_eq_some_iff, pure, Option.some.injEq] at h
  obtain ⟨names, -, rfl⟩ := h
  exact ⟨⟨rfl, rfl⟩, callBody_calls rfl⟩

/-- What every class has begins with an underscore, but for one member that is claimed. -/
theorem fixedMembers_claimed {struct n : String} (h : n ∈ (fixedMembers struct true).map (·.name)) :
    n ∈ classMembers ∨ n.toList.head? = some '_' := by
  have names : ∀ n ∈ ["__init__", "_from_handle", "free", "__del__", "__enter__", "__exit__"],
      n ∈ classMembers ∨ n.toList.head? = some '_' := by decide
  exact names n h

/-- **The names of a class** whose fields and methods are exported. -/
theorem classOf_named {structs : StructNames} {s : StructSurface} {c : Class}
    (fields : ∀ f ∈ s.fields, isExported f.field.name = true)
    (methods : ∀ m ∈ s.methods, isExported m.method.name = true) (h : classOf structs s = some c) :
    ∃ properties methods, Named s c properties methods := by
  simp only [classOf, bind, Option.bind_eq_some_iff, pure, Option.some.injEq] at h
  obtain ⟨names, claimed, defs, made, rfl⟩ := h
  have asked : claimAll {} classMembers
      (((gettable s).map (·.field.name) ++ s.methods.map (·.method.name)).map memberName) = some names := by
    simpa [Function.comp_def] using claimed
  obtain ⟨properties, bound, rfl, fits⟩ :
      ∃ properties bound, names = properties ++ bound ∧ properties.length = (gettable s).length :=
    ⟨_, _, (List.take_append_drop (gettable s).length names).symm, by simp [claimAll_length asked]⟩
  obtain ⟨distinct, unused, -⟩ := claimAll_claimed asked
  have after := claimAll_namedAfter asked
  have ofFields := List.forall₂_take_append _ properties bound after
  have ofMethods := List.forall₂_drop_append _ properties bound after
  rw [fits, List.take_left' (List.length_map ..), List.forall₂_map_left_iff] at ofFields
  rw [fits, List.drop_left' (List.length_map ..), List.forall₂_map_left_iff] at ofMethods
  have first : ∀ n ∈ properties ++ bound, n.toList.head? ≠ some '_' := by
    refine List.forall_mem_append.2 ⟨fun n hn => ?_, fun n hn => ?_⟩
    · obtain ⟨f, hf, named⟩ := exists_related ofFields hn
      exact named.first (fields f (List.mem_filter.1 hf).1)
    · obtain ⟨m, hm, named⟩ := exists_related ofMethods hn
      exact named.first (methods m hm)
  obtain ⟨pairs, flat, accessors⟩ := properties_named s.struct.name properties
    fun f (hf : f ∈ gettable s) => (List.mem_filter.1 hf).2
  have zipped : List.zipWith (property s.struct.name) (gettable s) (properties ++ bound)
      = List.zipWith (property s.struct.name) (gettable s) properties := by
    simpa using @List.zipWith_append _ _ _ (property s.struct.name) (gettable s) [] properties bound fits.symm
  rw [← fits, List.drop_left] at made
  exact ⟨properties, bound,
    { distinct
      free := fun n hn => ⟨(unused n hn).2, fun fixed =>
        (fixedMembers_claimed fixed).elim (unused n hn).2 (first n hn)⟩
      nonKeyword := claimAll_nonKeyword asked
      fields := ofFields
      bound := ofMethods
      members := ⟨pairs, defs, by rw [zipped, flat], accessors,
        (forall₂_of_mapM made).imp fun _ _ => methodMember_named⟩ }⟩

/-- A class is missing only where a parameter of a method cannot be named. -/
theorem classOf_isSome (structs : StructNames) (s : StructSurface) :
    (classOf structs s).isSome = true ↔ ∀ m ∈ s.methods, (parameterNames structs m.plan).isSome = true := by
  obtain ⟨names, claimed⟩ := exists_claimAll classMembers
    ((gettable s).map (memberName ·.field.name) ++ s.methods.map (memberName ·.method.name))
    (r := {}) rfl
  have fits : s.methods.length ≤ (names.drop (gettable s).length).length := by
    simp [claimAll_length claimed]
  have made : (classOf structs s).isSome = ((s.methods.zip (names.drop (gettable s).length)).mapM
      fun x => methodMember structs s.struct.name x.1 x.2).isSome := by
    simp [classOf, claimed, bind, pure, Option.isSome_bind]
  have each : ∀ x : MethodSurface × String, (methodMember structs s.struct.name x.1 x.2).isSome
      = (parameterNames structs x.1.plan).isSome := fun x => by
    simp [methodMember, bind, pure, Option.isSome_bind]
  rw [made, isSome_mapM]
  simp only [each]
  conv_rhs => rw [← List.map_fst_zip fits, List.forall_mem_map]

/-- **The members of a class have distinct names**, which no member of all classes has, and each calls the entry
point of its field or method. There is such a class for every struct of an extracted package, unless a parameter
of a method cannot be named. -/
theorem members_named {opts : ExtractOptions} {dir : String} {sources : List (String × String)} {x : Extraction}
    (h : (extract opts dir sources).1 = .ok x) {s : StructSurface} (hs : s ∈ (Surface.ofPackage x.package).structs) :
    ((classOf x.package.structNames s).isSome = true ↔
        ∀ m ∈ s.methods, (parameterNames x.package.structNames m.plan).isSome = true) ∧
      ∀ c, classOf x.package.structNames s = some c → ∃ properties methods, Named s c properties methods := by
  refine ⟨classOf_isSome x.package.structNames s, fun c made => ?_⟩
  obtain ⟨declared, whole⟩ := Surface.struct_source hs
  obtain ⟨-, fields, methods⟩ := (extracted_exported h).structs s.struct declared
  refine classOf_named (fun f hf => ?_) (fun m hm => ?_) made
  · rw [whole] at hf
    exact (fields f.field (Surface.field_source hf).1).1
  · rw [whole] at hm
    exact (methods m.method (Surface.method_source hm).1).1

/-- A gate whose fields are called like the destructor, like a keyword and, in Python, like its method. -/
def gate : List (String × String) :=
  [("g.go", "package g\ntype Gate struct { Free, Class bool; HTTP []int }\nfunc (g Gate) H_t_t_p() {}\n")]

theorem members_named_gate :
    ∃ x s c properties methods, (extract ⟨false, false⟩ "" gate).1 = .ok x ∧
      s ∈ (Surface.ofPackage x.package).structs ∧ classOf x.package.structNames s = some c ∧
      c.members.map (fun d => (d.name, d.invocations.map (·.symbol)))
        = [("__init__", ["Gate_New"]), ("_from_handle", []), ("free", ["Gate_Free"]), ("__del__", []),
          ("__enter__", []), ("__exit__", []), ("free_", ["Gate_GetFree"]), ("free_", ["Gate_SetFree"]),
          ("class_", ["Gate_GetClass"]), ("class_", ["Gate_SetClass"]), ("h_t_t_p", ["Gate_GetHTTP"]),
          ("h_t_t_p_", ["Gate_H_t_t_p"])] ∧
      Named s c properties methods := by
  have seen : ((extract ⟨false, false⟩ "" gate).1.toOption.bind fun x =>
      (Surface.ofPackage x.package).structs.head?.bind fun s =>
        (classOf x.package.structNames s).map fun c =>
          c.members.map fun d => (d.name, d.invocations.map (·.symbol)))
      = some [("__init__", ["Gate_New"]), ("_from_handle", []), ("free", ["Gate_Free"]), ("__del__", []),
          ("__enter__", []), ("__exit__", []), ("free_", ["Gate_GetFree"]), ("free_", ["Gate_SetFree"]),
          ("class_", ["Gate_GetClass"]), ("class_", ["Gate_SetClass"]), ("h_t_t_p", ["Gate_GetHTTP"]),
          ("h_t_t_p_", ["Gate_H_t_t_p"])] := by decide +kernel
  obtain ⟨x, hx, later⟩ := Option.bind_eq_some_iff.1 seen
  obtain ⟨s, hs, later⟩ := Option.bind_eq_some_iff.1 later
  obtain ⟨c, hc, shown⟩ := Option.map_eq_some_iff.1 later
  have declared := List.mem_of_mem_head? hs
  obtain ⟨properties, methods, named⟩ := (members_named (ok_of_toOption hx) declared).2 c hc
  exact ⟨x, s, c, properties, methods, ok_of_toOption hx, declared, hc, shown, named⟩

end Py

end GoGlue
