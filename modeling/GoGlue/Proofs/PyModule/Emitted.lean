import GoGlue.Proofs.PyModule.Emission
import GoGlue.Proofs.PyModule.Members

/-!
# The module as it is emitted

What the emitter does for a package is made of one part for each struct and each function. In each part the entry
points are declared in the one text and the class or function is defined in the other, and the names of `ctypes`
are noted that either of them uses; one is imported in any case, so that it need not be noted.

* `declare_declares`: an entry point is declared.
* `method_makes`, `struct_makes`, `functions_makes`: the parts of the emission.
* `emission_emits`: the emission of a package goes with its classes and functions.
* `mem_ctypesNames`: what is imported from `ctypes` is what the declarations and definitions use.
* `generate_eq`: the file that is written is the text of the module.
-/
namespace GoGlue.Py

open Emission
open Layout (stepsAll)

/-! ## Declarations -/

/-- The steps declare entry points and note what their classes use. -/
structure Declares (steps : List Step) (ds : List Declaration) : Prop where
  body : bodyOf steps = []
  proto : protoOf steps = stepsAll (ds.flatMap Declaration.layout)
  noted : ∀ n, n ∈ notedIn steps ↔ ∃ d ∈ ds, n ∈ d.ctypesNames

theorem declares_nil : Declares [] [] := ⟨rfl, rfl, by simp⟩

theorem Declares.append {a b : List Step} {ds es : List Declaration} (ha : Declares a ds) (hb : Declares b es) :
    Declares (a ++ b) (ds ++ es) where
  body := by simp [ha.body, hb.body]
  proto := by simp [ha.proto, hb.proto, Layout.stepsAll_append]
  noted n := by simp [ha.noted, hb.noted, or_and_right, exists_or]

theorem declares_flatMap {α : Type} (xs : List α) {f : α → List Step} {g : α → List Declaration}
    (h : ∀ x ∈ xs, Declares (f x) (g x)) : Declares (xs.flatMap f) (xs.flatMap g) := by
  induction xs with
  | nil => exact declares_nil
  | cons x rest ih =>
    obtain ⟨first, others⟩ := List.forall_mem_cons.1 h
    exact first.append (ih others)

theorem declares_map {α : Type} {f : α → List Step} {g : α → Declaration} (xs : List α)
    (h : ∀ x, Declares (f x) [g x]) : Declares (xs.flatMap f) (xs.map g) := by
  rw [List.map_eq_flatMap]
  exact declares_flatMap _ fun x _ => h x

/-- What is noted for a list of classes. -/
theorem mem_noted_list {ts : List CtypesToken} {n : String} :
    n ∈ noted (", ".intercalate (ts.map CtypesToken.text)) ↔ ∃ t ∈ ts, n ∈ t.names := by
  simp only [noted, Text.words_intercalate, List.mem_filter, List.mem_flatMap, List.mem_map]
  constructor
  · rintro ⟨⟨_, ⟨t, ht, rfl⟩, hn⟩, -⟩
    rw [t.token_words] at hn
    exact ⟨t, ht, hn⟩
  · rintro ⟨t, ht, hn⟩
    exact ⟨⟨_, ⟨t, ht, rfl⟩, t.token_words ▸ hn⟩, names_noted t n hn⟩

theorem prototype_declares (symbol : String) (ts : List CtypesToken) (result : Option CtypesToken) :
    Declares (emitPrototype symbol (ts.map CtypesToken.text) (match result with
      | some t => t.text
      | none => "None")).steps [⟨symbol, ts, result⟩] where
  body := by simp [emitPrototype]
  proto := by
    cases result <;> simp [emitPrototype, Declaration.layout, Layout.steps, stepsAll]
  noted n := by
    have nothing : noted "None" = [] := by decide +kernel
    have own : n ∈ noted (match result with | some t => t.text | none => "None") ↔ ∃ t ∈ result, n ∈ t.names := by
      cases result <;> simp [noted_token, nothing]
    simp [emitPrototype, Declaration.ctypesNames, mem_noted_list, own]

theorem classTexts_eq (symbol : String) (bound : Bool) (plan : CallPlan) :
    classTexts bound plan = (declare symbol bound plan).arguments.map CtypesToken.text := by
  have params : (plan.params.flatMap fun s => (slotType s).token.text :: if s.shape = .buffer then ["c_int"] else [])
      = (plan.params.flatMap slotClasses).map CtypesToken.text := by
    rw [List.map_flatMap]
    refine congrArg (List.flatMap · _) (funext fun s => ?_)
    by_cases h : s.shape = .buffer <;> simp [slotClasses, h, CtypesToken.text]
  have results : (plan.results.flatMap fun s =>
      ("POINTER(" ++ (slotType s).returned.text ++ ")") :: if s.shape = .buffer then ["POINTER(c_int)"] else [])
      = (plan.results.flatMap outClasses).map CtypesToken.text := by
    rw [List.map_flatMap]
    refine congrArg (List.flatMap · _) (funext fun s => ?_)
    by_cases h : s.shape = .buffer <;> simp [outClasses, h, CtypesToken.text]
  unfold classTexts declare resultClasses
  rw [params]
  cases plan.returned with
  | none => cases bound <;> cases plan.hasError <;> simp [results, CtypesToken.text]
  | some s =>
    by_cases h : s.shape = .buffer <;> cases bound <;> cases plan.hasError <;> simp [h, CtypesToken.text]

/-- **The entry point of a plan is declared.** -/
theorem declare_declares (symbol : String) (bound : Bool) (plan : CallPlan) :
    Declares (emitDeclare symbol bound plan).steps [declare symbol bound plan] := by
  have declared := prototype_declares symbol (declare symbol bound plan).arguments (declare symbol bound plan).result
  rw [← classTexts_eq] at declared
  unfold emitDeclare
  cases returned : plan.returned with
  | none => simpa [declare, returned] using declared
  | some s => simpa [declare, returned] using declared

theorem declarations_declares (s : StructSurface) :
    Declares (emitDeclarations s).steps (structDeclarations s) := by
  have lifetime := (prototype_declares (s.struct.name ++ "_New") [] (some .sizeT)).append
    (prototype_declares (s.struct.name ++ "_Free") [.sizeT] none)
  have accessors := declares_flatMap s.fields fun f _ =>
    (declares_map f.getter.toList (declare_declares (s.struct.name ++ "_Get" ++ f.field.name) true)).append
      (declares_map f.setter.toList (declare_declares (s.struct.name ++ "_Set" ++ f.field.name) true))
  have methods := declares_map s.methods fun m =>
    declare_declares (s.struct.name ++ "_" ++ m.method.name) true m.plan
  have all := lifetime.append (accessors.append methods)
  rw [List.append_assoc] at all
  rw [structDeclarations, List.append_assoc]
  exact all

/-! ## Definitions -/

theorem stepsAll_map_line (texts : List String) : stepsAll (texts.map .line) = texts.map .line := by
  induction texts with
  | nil => rfl
  | cons text rest ih => simp [stepsAll, Layout.steps, ih]

theorem docstring_steps (doc : String) : (emitDocstring doc).steps = stepsAll (docstring doc) := by
  unfold emitDocstring docstring
  rcases Text.lines (padQuote (escapeDoc (Text.trim doc.toList))) with _ | ⟨first, _ | ⟨second, rest⟩⟩
  · rfl
  · rfl
  · have inner := stepsAll_map_line ((second :: rest).map fun l => String.ofList (Text.trimEnd l))
    rw [List.map_map, List.map_map, List.map_eq_flatMap (f := Writer.Step.line ∘ _)] at inner
    show _ = Writer.Step.line ("\"\"\"" ++ String.ofList first)
      :: stepsAll ((second :: rest).map (Layout.line ∘ fun l => String.ofList (Text.trimEnd l)) ++ [.line "\"\"\""])
    rw [Layout.stepsAll_append, inner]
    rfl

/-- The steps in front of a body: the decorators, the header, and the docstring one level deeper. -/
def opening (d : Def) : List Writer.Step :=
  stepsAll (d.decorators.map fun decorator => .line ("@" ++ decorator))
    ++ (emitDef d.name (d.params.map Parameter.text) d.returns.text).steps ++ stepsAll (docstring d.doc)

theorem layout_steps (d : Def) :
    stepsAll d.layout = opening d ++ (stepsAll (Stmt.layouts d.body) ++ [.leave]) := by
  rw [Def.layout, Layout.stepsAll_append, opening, List.append_assoc, List.append_assoc]
  refine congrArg (stepsAll (d.decorators.map fun decorator => .line ("@" ++ decorator)) ++ ·) ?_
  simp [emitDef, Layout.indented, stepsAll, Layout.steps, Layout.stepsAll_append]

/-- The steps define a function or a member behind some blank lines, and note what its body uses. -/
structure Writes (lead : List Layout) (part : List Step) (d : Def) : Prop where
  body : bodyOf part = stepsAll (lead ++ d.layout)
  proto : protoOf part = []
  noted : Notes part (· ∈ d.ctypesNames)

/-- A definition whose body makes a call. -/
theorem writes_call (lead : List Layout) (d : Def) {symbol : String} {bound : Bool} {plan : CallPlan}
    {names : List String} (called : d.body = callBody symbol bound plan names) :
    Writes lead ((stepsAll lead ++ opening d).map Step.body
      ++ ((emitCall symbol bound plan names).steps ++ [.body .leave])) d where
  body := by simp [call_body, layout_steps, Layout.stepsAll_append, called]
  proto := by simp [call_proto]
  noted n := by simpa [Def.ctypesNames, called] using call_noted plan names symbol bound n

/-- A definition that uses no class. -/
theorem writes_fixed (lead : List Layout) {d : Def} (fixed : d.ctypesNames = []) :
    Writes lead ((stepsAll (lead ++ d.layout)).map Step.body) d where
  body := bodyOf_body _
  proto := protoOf_body _
  noted n := by simp [fixed]

/-! ## Members -/

/-- The fixed members of a class are defined one by one. -/
theorem fixed_parts (struct : String) (hasMethods : Bool) :
    InParts (Writes [.blank])
      ((stepsAll ((fixedMembers struct hasMethods).flatMap fun d => .blank :: d.layout)).map Step.body)
      (fixedMembers struct hasMethods) := by
  have fixed : ∀ d ∈ fixedMembers struct hasMethods, d.ctypesNames = [] := by
    intro d hd
    have all : ∀ d ∈ fixedMembers struct true, d.ctypesNames = [] := by
      simp [fixedMembers, initMember, fromHandleMember, freeMember, delMember, enterMember, exitMember,
        Def.ctypesNames, Stmt.ctypesNamesAll, Stmt.ctypesNames, Expr.ctypesNames, Expr.ctypesNamesAll, Expr.calls,
        handleOfSelf, selfName]
    exact all d (mem_fixedMembers hd)
  generalize fixedMembers struct hasMethods = ds at fixed
  induction ds with
  | nil => exact InParts.nil
  | cons d rest ih =>
    obtain ⟨first, others⟩ := List.forall_mem_cons.1 fixed
    rw [List.flatMap_cons, Layout.stepsAll_append, List.map_append]
    exact .cons (writes_fixed [.blank] first) (ih others)

/-- The doc of the class of a struct. -/
def classDoc (s : StructSurface) : String :=
  if Text.trim s.struct.doc.toList = [] then "Handle to a Go " ++ s.struct.name ++ "." else s.struct.doc

/-- What stands in front of the members of a class. -/
def classOpening (s : StructSurface) : List Writer.Step :=
  [.blank, .blank, .line ("class " ++ className s.struct.name ++ ":"), .enter] ++ stepsAll (docstring (classDoc s))

section Fixed

variable (struct : String)

-- the fixed members are spelled out in full
attribute [local simp] Def.layout Layout.indented stepsAll Layout.steps Layout.stepsAll_append Stmt.layouts Stmt.layout
  Expr.spelling Expr.spellings Expr.calls handleOfSelf selfName Parameter.text Parameter.plain Parameter.typed
  ReturnHint.text PyHint.text docstring_steps

theorem docstring_empty : docstring "" = [] := by decide +kernel

theorem int_text : PyScalar.int.text = "int" := rfl

theorem initMember_steps :
    stepsAll (initMember struct).layout
      = (block "def __init__(self, _handle: Optional[int] = None) -> None:" ""
          (line ("self._handle = _lib." ++ struct ++ "_New() if _handle is None else _handle"))).steps := by
  simp [initMember, docstring_empty, int_text, ← String.toList_inj]

theorem fromHandleMember_steps :
    stepsAll (fromHandleMember struct).layout = (do
      line "@classmethod"
      block ("def _from_handle(cls, handle: Optional[int]) -> Optional[\"" ++ className struct ++ "\"]:") "" do
        block "if not handle:" "" (line "return None")
        line "return cls(_handle=handle)").steps := by
  simp [fromHandleMember, docstring_empty, int_text, ← String.toList_inj]

theorem freeMember_steps :
    stepsAll (freeMember struct).layout = (block "def free(self) -> None:" "" do
      emitDocstring "Release the Go object. Safe to call more than once."
      line "handle = getattr(self, \"_handle\", 0)"
      block "if handle:" "" do
        line "self._handle = 0"
        line ("_lib." ++ struct ++ "_Free(handle)")).steps := by
  have zero : Nat.repr 0 = "0" := by decide +kernel
  simp [freeMember, zero, ← String.toList_inj]

theorem delMember_steps :
    stepsAll delMember.layout = (block "def __del__(self) -> None:" "" do
      block "try:" "" (line "self.free()")
      block "except Exception:" "" (line "pass")).steps := by
  simp [delMember, docstring_empty]

theorem enterMember_steps :
    stepsAll (enterMember struct).layout
      = (block ("def __enter__(self) -> \"" ++ className struct ++ "\":") "" (line "return self")).steps := by
  simp [enterMember, docstring_empty, ← String.toList_inj]

theorem exitMember_steps :
    stepsAll exitMember.layout
      = (block "def __exit__(self, *exc: Any) -> None:" "" (line "self.free()")).steps := by
  simp [exitMember, docstring_empty]

end Fixed

/-- **The fixed members of a class are written as their code says.** -/
theorem fixed_steps (s : StructSurface) :
    (emitFixed s).steps = classOpening s
      ++ stepsAll ((fixedMembers s.struct.name (!s.methods.isEmpty)).flatMap fun d => .blank :: d.layout) := by
  unfold emitFixed classOpening classDoc fixedMembers
  by_cases doc : Text.trim s.struct.doc.toList = [] <;> cases s.methods <;>
    simp [doc, docstring_steps, stepsAll, Layout.steps, Layout.stepsAll_append, initMember_steps,
      fromHandleMember_steps, freeMember_steps, delMember_steps, enterMember_steps, exitMember_steps]

theorem setter_parts (struct field name : String) {setter : CallPlan} (single : setter.params.length = 1) :
    InParts (Writes [.blank]) (emitSetter struct field name setter).steps
      (match setter.params with
        | [value] =>
          if value.shape = .scalar then
            [⟨[name ++ ".setter"], name, [.plain "self", .typed "value" (slotType value).hint], .none,
              "", callBody (struct ++ "_Set" ++ field) true setter ["value"]⟩]
          else []
        | _ => []) := by
  obtain ⟨value, only⟩ := List.length_eq_one_iff.1 single
  unfold emitSetter
  rw [only]
  by_cases shape : value.shape = .scalar
  · have writes := writes_call [.blank] ⟨[name ++ ".setter"], name,
      [.plain "self", .typed "value" (slotType value).hint], .none, "",
      callBody (struct ++ "_Set" ++ field) true setter ["value"]⟩ rfl
    simp only [shape, ↓reduceIte]
    convert InParts.singleton writes using 1
    simp [opening, docstring_empty, emitDef, stepsAll, Layout.steps, Parameter.text, Parameter.plain, Parameter.typed,
      ReturnHint.text, ← String.toList_inj]
  · simp only [shape, ↓reduceIte]
    exact InParts.nil

/-- The property of a field is written, with its setter if there is one. -/
theorem property_parts (struct : String) (f : FieldSurface) (name : String)
    (single : ∀ setter ∈ f.setter, setter.params.length = 1) :
    InParts (Writes [.blank]) (emitProperty struct f name).steps (property struct f name) := by
  unfold emitProperty property
  cases f.getter with
  | none => exact InParts.nil
  | some getter =>
    have getting := InParts.singleton <| writes_call [.blank] ⟨["property"], name, [.plain "self"], returnHint getter, "",
      callBody (struct ++ "_Get" ++ f.field.name) true getter []⟩ rfl
    cases hs : f.setter with
    | none =>
      convert getting using 1
      simp [opening, docstring_empty, emitDef, stepsAll, Layout.steps, Parameter.text, Parameter.plain, ReturnHint.text]
    | some setter =>
      have setting := setter_parts struct f.field.name name (single setter hs)
      convert getting.append setting using 1
      · simp [opening, docstring_empty, emitDef, stepsAll, Layout.steps, Parameter.text, Parameter.plain, ReturnHint.text]
      · rfl

/-- A method is written once its parameters are named. -/
theorem method_makes (p : Package) (struct : String) (m : MethodSurface) (name : String) :
    Emit.Makes (Writes [.blank]) (emitMethod p struct m name) (methodMember p.structNames struct m name) := by
  refine Emit.Makes.claimed fun names _ => Emit.makes_some (x := _) ?_
  have writes := writes_call [.blank] ⟨[], name, .plain "self" :: typedParams m.plan names, returnHint m.plan,
    m.method.doc, callBody (struct ++ "_" ++ m.method.name) true m.plan names⟩ rfl
  convert writes using 1
  simp [opening, docstring_steps, emitDef, stepsAll, Layout.steps, Parameter.text, Parameter.plain]

/-! ## Classes and functions -/

/-- The steps declare the entry points of a struct and define its class, with a part for each member inside. -/
structure WritesClass (s : StructSurface) (part : List Step) (c : Class) : Prop where
  struct : c.struct = s.struct.name
  doc : c.doc = classDoc s
  parts : ∃ declares members, part = declares ++ ((classOpening s).map .body ++ (members ++ [.body .leave])) ∧
    Declares declares (structDeclarations s) ∧ InParts (Writes [.blank]) members c.members

variable {p : Package}

theorem setter_single {s : StructSurface} {f : FieldSurface} (hs : s ∈ (Surface.ofPackage p).structs)
    (hf : f ∈ s.fields) : ∀ setter ∈ f.setter, setter.params.length = 1 := by
  intro setter hp
  rw [(Surface.struct_source hs).2] at hf
  have types := CallPlan.ofSetter_params ((Surface.field_source hf).2.2 setter hp)
  simpa using congrArg List.length types

theorem properties_parts {s : StructSurface} (hs : s ∈ (Surface.ofPackage p).structs) (names : List String) :
    InParts (Writes [.blank])
      (forEach ((gettable s).zip names) fun (f, name) => emitProperty s.struct.name f name).steps
      (List.zipWith (property s.struct.name) (gettable s) names).flatten := by
  have single : ∀ f ∈ gettable s, ∀ setter ∈ f.setter, setter.params.length = 1 :=
    fun f hf => setter_single hs (List.mem_of_mem_filter hf)
  generalize gettable s = fields at single
  induction fields generalizing names with
  | nil => exact InParts.nil
  | cons f rest ih =>
    cases names with
    | nil => exact InParts.nil
    | cons name names =>
      obtain ⟨first, others⟩ := List.forall_mem_cons.1 single
      exact (property_parts _ f name first).append (ih names others)

/-- **The class of a struct is written,** or a name cannot be claimed. -/
theorem struct_makes {s : StructSurface} (hs : s ∈ (Surface.ofPackage p).structs) :
    Emit.Makes (WritesClass s) (emitClass p s) (classOf p.structNames s) := by
  refine Emit.Makes.claimed fun names _ => .lift (.lift (.lift ?_))
  have methods := Emit.makes_forEach (f := fun x => emitMethod p s.struct.name x.1 x.2)
    (s.methods.zip (names.drop (gettable s).length)) fun x _ => method_makes p s.struct.name x.1 x.2
  refine methods.bind fun e ds _ _ made => Emit.makes_some (x := inBody leave) ⟨rfl, rfl, ?_⟩
  have members := (fixed_parts s.struct.name (!s.methods.isEmpty)).append ((properties_parts hs names).append made)
  rw [← List.append_assoc (fixedMembers _ _)] at members
  refine ⟨_, _, ?_, declarations_declares s, members⟩
  simp [fixed_steps]

/-- The steps declare the entry point of a function and define the function. -/
def WritesFunction (p : Package) (f : FuncSurface) (part : List Step) (d : Def) : Prop :=
  ∃ declares own, part = declares ++ own ∧
    Declares declares [declare (p.name ++ "_" ++ f.func.name) false f.plan] ∧ Writes [.blank, .blank] own d

/-- The functions of the module, where some names are taken. -/
def functionsAfter (structs : StructNames) (package : String) (taken : List String) (fs : List FuncSurface) :
    Option (List Def) := do
  let names ← claimAll pythonReserved taken (fs.map (memberName ·.func.name))
  (fs.zip names).mapM fun (f, name) => functionOf structs package f name

/-- The names of functions are claimed one after the other, whether they are defined in between or not. -/
theorem functionsAfter_cons (structs : StructNames) (package : String) (taken : List String) (f : FuncSurface)
    (rest : List FuncSurface) :
    functionsAfter structs package taken (f :: rest) = do
      let name ← claim pythonReserved taken (memberName f.func.name)
      let d ← functionOf structs package f name
      return d :: (← functionsAfter structs package (name :: taken) rest) := by
  unfold functionsAfter
  rw [List.map_cons, claimAll]
  cases claim pythonReserved taken (memberName f.func.name) with
  | none => rfl
  | some name =>
    simp only [Option.pure_def, Option.bind_eq_bind, Option.bind_some]
    cases claimAll pythonReserved (name :: taken) (rest.map (memberName ·.func.name)) with
    | none => cases functionOf structs package f name <;> rfl
    | some names => simp [List.mapM_cons]

/-- The definition of a function with the given names. -/
def functionDef (p : Package) (f : FuncSurface) (name : String) (names : List String) : Def :=
  ⟨[], name, typedParams f.plan names, returnHint f.plan, f.func.doc,
    callBody (p.name ++ "_" ++ f.func.name) false f.plan names⟩

theorem function_writes (f : FuncSurface) (name : String) (names : List String) :
    WritesFunction p f ((emitDeclare (p.name ++ "_" ++ f.func.name) false f.plan).steps
      ++ ((stepsAll [.blank, .blank] ++ opening (functionDef p f name names)).map Step.body
        ++ ((emitCall (p.name ++ "_" ++ f.func.name) false f.plan names).steps ++ [.body .leave])))
      (functionDef p f name names) :=
  ⟨_, _, rfl, declare_declares _ false f.plan, writes_call _ _ rfl⟩

theorem emitFunction_eq (taken : List String) (f : FuncSurface) {name : String} {names : List String}
    (hn : claim pythonReserved taken (memberName f.func.name) = some name)
    (hp : parameterNames p.structNames f.plan = some names) :
    emitFunction p taken f = some ⟨(emitDeclare (p.name ++ "_" ++ f.func.name) false f.plan).steps
      ++ ((stepsAll [.blank, .blank] ++ opening (functionDef p f name names)).map Step.body
        ++ ((emitCall (p.name ++ "_" ++ f.func.name) false f.plan names).steps ++ [.body .leave])), name :: taken⟩ := by
  unfold emitFunction
  rw [hn, hp]
  refine congrArg some (congrArg (Emission.mk · _) ?_)
  simp [opening, functionDef, docstring_steps, emitDef, stepsAll, Layout.steps]

/-- **The functions are written** one after the other, or a name cannot be claimed. -/
theorem functions_makes (taken : List String) (fs : List FuncSurface) :
    Emit.Makes (fun steps ds => InParts (fun part x => WritesFunction p x.1 part x.2) steps (fs.zip ds))
      (emitFunctions p taken fs) (functionsAfter p.structNames p.name taken fs) := by
  induction fs generalizing taken with
  | nil => exact Emit.makes_some InParts.nil
  | cons f rest ih =>
    rw [functionsAfter_cons, emitFunctions]
    cases hn : claim pythonReserved taken (memberName f.func.name) with
    | none => exact .inl ⟨by unfold emitFunction; rw [hn]; rfl, rfl⟩
    | some name =>
      cases hp : parameterNames p.structNames f.plan with
      | none => exact .inl ⟨by unfold emitFunction; rw [hn, hp]; rfl, by simp [functionOf, hp]⟩
      | some names =>
        have defined : functionOf p.structNames p.name f name = some (functionDef p f name names) := by
          simp [functionOf, hp, functionDef]
        rw [emitFunction_eq taken f hn hp, Option.bind_eq_bind, Option.bind_some, defined, Option.bind_eq_bind,
          Option.bind_some]
        exact .lift (x := ⟨_, _⟩) ((ih (name :: taken)).map fun _ _ made => .cons (function_writes f name names) made)

/-! ## The file -/

/-- The steps of the emitter have a part for each struct and then one for each function. -/
structure Emits (p : Package) (steps : List Step) (classes : List Class) (functions : List Def) : Prop where
  eachStruct : classes.length = (Surface.ofPackage p).structs.length
  eachFunction : functions.length = (Surface.ofPackage p).functions.length
  parts : ∃ outer inner, steps = outer ++ inner ∧
    InParts (fun part x => WritesClass x.1 part x.2) outer ((Surface.ofPackage p).structs.zip classes) ∧
    InParts (fun part x => WritesFunction p x.1 part x.2) inner ((Surface.ofPackage p).functions.zip functions)

/-- The classes and functions of a package. -/
def definitionsOf (p : Package) : Option (List Class × List Def) := do
  let classes ← (Surface.ofPackage p).structs.mapM (classOf p.structNames)
  let functions ← functionsOf p.structNames p.name (Surface.ofPackage p).functions
  return (classes, functions)

/-- **The module of a package is emitted as its classes and functions say,** or there is none. -/
theorem emission_emits (p : Package) :
    Emit.Makes (fun steps x => Emits p steps x.1 x.2) (emission p) (definitionsOf p) := by
  have structs := Emit.makes_zip fun s hs => struct_makes (p := p) (s := s) hs
  have functions := functions_makes (p := p) [] (Surface.ofPackage p).functions
  refine structs.bind fun outer classes _ hc first => ?_
  rcases functions with ⟨none, nothing⟩ | ⟨e, ds, emitted, there, second⟩
  · exact .inl ⟨none, congrArg (Option.bind · fun functions => some (classes, functions)) nothing⟩
  · have defined := congrArg (Option.bind · fun functions => some (classes, functions)) there
    refine .inr ⟨e, _, emitted, defined, ?_⟩
    exact ⟨(forall₂_of_mapM hc).length_eq.symm, (functionsOf_claimed there).length_eq.symm, _, _, rfl, first, second⟩

/-! ### What is written -/

theorem members_body {lead : List Layout} {steps : List Step} {ds : List Def} (h : InParts (Writes lead) steps ds) :
    bodyOf steps = stepsAll (ds.flatMap fun d => lead ++ d.layout) := by
  rw [Layout.stepsAll_flatMap]
  exact h.collect bodyOf_nil bodyOf_append fun _ _ writes => writes.body

theorem class_body {s : StructSurface} {part : List Step} {c : Class} (h : WritesClass s part c) :
    bodyOf part = stepsAll c.layout := by
  obtain ⟨declares, members, rfl, declared, defined⟩ := h.parts
  have inside := members_body defined
  simp only [bodyOf_append, declared.body, bodyOf_body, inside, bodyOf_cons, bodyOf_nil, List.nil_append]
  simp [Class.layout, classOpening, h.struct, h.doc, Layout.indented, stepsAll, Layout.steps, Layout.stepsAll_append]

theorem class_proto {s : StructSurface} {part : List Step} {c : Class} (h : WritesClass s part c) :
    protoOf part = stepsAll ((structDeclarations s).flatMap Declaration.layout) := by
  obtain ⟨declares, members, rfl, declared, defined⟩ := h.parts
  have inside : protoOf members = [] := by
    rw [defined.collect protoOf_nil protoOf_append (G := fun _ => []) fun _ _ writes => writes.proto]
    simp
  simp [declared.proto, inside]

theorem function_body {f : FuncSurface} {part : List Step} {d : Def} (h : WritesFunction p f part d) :
    bodyOf part = stepsAll (.blank :: .blank :: d.layout) := by
  obtain ⟨declares, own, rfl, declared, defined⟩ := h
  simp [declared.body, defined.body]

theorem function_proto {f : FuncSurface} {part : List Step} {d : Def} (h : WritesFunction p f part d) :
    protoOf part = stepsAll (declare (p.name ++ "_" ++ f.func.name) false f.plan).layout := by
  obtain ⟨declares, own, rfl, declared, defined⟩ := h
  simp [declared.proto, defined.proto]

variable {steps : List Step} {classes : List Class} {functions : List Def}

theorem flatMap_fst {α β γ : Type} {xs : List α} {ys : List β} (h : ys.length = xs.length) (g : α → List γ) :
    (xs.zip ys).flatMap (fun x => g x.1) = xs.flatMap g := by
  conv_rhs => rw [← @List.map_fst_zip _ _ xs ys (Nat.le_of_eq h.symm), List.flatMap_map]

theorem flatMap_snd {α β γ : Type} {xs : List α} {ys : List β} (h : ys.length = xs.length) (g : β → List γ) :
    (xs.zip ys).flatMap (fun x => g x.2) = ys.flatMap g := by
  conv_rhs => rw [← @List.map_snd_zip _ _ xs ys (Nat.le_of_eq h), List.flatMap_map]

/-- **The classes and functions are written as their code says.** -/
theorem emits_body (h : Emits p steps classes functions) :
    bodyOf steps = stepsAll (classes.flatMap Class.layout ++ functions.flatMap fun d => .blank :: .blank :: d.layout) := by
  obtain ⟨outer, inner, rfl, first, second⟩ := h.parts
  have ofClasses := first.collect bodyOf_nil bodyOf_append fun _ _ => class_body
  have ofFunctions := second.collect bodyOf_nil bodyOf_append fun _ _ => function_body
  rw [flatMap_snd h.eachStruct fun c => stepsAll c.layout] at ofClasses
  rw [flatMap_snd h.eachFunction fun d => stepsAll (.blank :: .blank :: d.layout)] at ofFunctions
  rw [bodyOf_append, ofClasses, ofFunctions, Layout.stepsAll_append, Layout.stepsAll_flatMap, Layout.stepsAll_flatMap]

/-- The declarations of the entry points of a package. -/
def declarationsOf (p : Package) : List Declaration :=
  (Surface.ofPackage p).structs.flatMap structDeclarations
    ++ (Surface.ofPackage p).functions.map fun f => declare (p.name ++ "_" ++ f.func.name) false f.plan

/-- **The entry points are declared as their plans say.** -/
theorem emits_proto (h : Emits p steps classes functions) :
    protoOf steps = stepsAll ((declarationsOf p).flatMap Declaration.layout) := by
  obtain ⟨outer, inner, rfl, first, second⟩ := h.parts
  have ofStructs := first.collect protoOf_nil protoOf_append fun _ _ => class_proto
  have ofFunctions := second.collect protoOf_nil protoOf_append fun _ _ => function_proto
  rw [flatMap_fst h.eachStruct fun s => stepsAll ((structDeclarations s).flatMap Declaration.layout)] at ofStructs
  rw [flatMap_fst h.eachFunction fun f =>
    stepsAll (declare (p.name ++ "_" ++ f.func.name) false f.plan).layout] at ofFunctions
  rw [protoOf_append, ofStructs, ofFunctions, declarationsOf, List.flatMap_append, List.flatMap_assoc, List.flatMap_map,
    Layout.stepsAll_append, Layout.stepsAll_flatMap, Layout.stepsAll_flatMap]

/-! ### What is noted -/

theorem Notes.append {a b : List Step} {P Q : String → Prop} (ha : Notes a P) (hb : Notes b Q) :
    Notes (a ++ b) fun n => P n ∨ Q n := by
  intro n
  obtain ⟨used, covered⟩ := ha n
  obtain ⟨used', covered'⟩ := hb n
  rw [notedIn_append, List.mem_append]
  refine ⟨Or.imp used used', Or.rec (fun h => (covered h).imp_right .inl) fun h => (covered' h).imp_right .inr⟩

theorem Notes.congr {a : List Step} {P Q : String → Prop} (ha : Notes a P) (h : ∀ n, P n ↔ Q n) : Notes a Q :=
  fun n => ⟨fun there => (h n).1 ((ha n).1 there), fun used => (ha n).2 ((h n).2 used)⟩

/-- What is noted in parts. -/
theorem Notes.parts {β : Type} {R : List Step → β → Prop} {Uses : β → String → Prop} {steps : List Step} {bs : List β}
    (h : InParts R steps bs) (each : ∀ part x, R part x → Notes part (Uses x)) :
    Notes steps fun n => ∃ x ∈ bs, Uses x n := by
  obtain ⟨parts, rfl, related⟩ := h
  induction related with
  | nil => exact fun n => by simp
  | cons first _ ih => exact ((each _ _ first).append ih).congr fun n => by simp

theorem Declares.notes {part : List Step} {ds : List Declaration} (h : Declares part ds) :
    Notes part fun n => ∃ d ∈ ds, n ∈ d.ctypesNames := fun n => ⟨(h.noted n).1, fun used => .inr ((h.noted n).2 used)⟩

theorem notes_written {part : List Writer.Step} : Notes (part.map .body) fun _ => False := fun n => by simp

theorem class_notes {s : StructSurface} {part : List Step} {c : Class} (h : WritesClass s part c) :
    Notes part fun n => (∃ d ∈ structDeclarations s, n ∈ d.ctypesNames) ∨ ∃ d ∈ c.members, n ∈ d.ctypesNames := by
  obtain ⟨declares, members, rfl, declared, defined⟩ := h.parts
  have inside := Notes.parts defined fun _ _ writes => writes.noted
  have leaving : Notes [.body .leave] fun _ => False := @notes_written [.leave]
  exact (declared.notes.append (notes_written.append (inside.append leaving))).congr fun n => by simp

theorem function_notes {f : FuncSurface} {part : List Step} {d : Def} (h : WritesFunction p f part d) :
    Notes part fun n => n ∈ (declare (p.name ++ "_" ++ f.func.name) false f.plan).ctypesNames ∨ n ∈ d.ctypesNames := by
  obtain ⟨declares, own, rfl, declared, defined⟩ := h
  exact (declared.notes.append defined.noted).congr fun n => by simp

theorem exists_fst {α β : Type} {xs : List α} {ys : List β} (h : ys.length = xs.length) {P : α → Prop} :
    (∃ x ∈ xs.zip ys, P x.1) ↔ ∃ x ∈ xs, P x := by
  conv_rhs => rw [← @List.map_fst_zip _ _ xs ys (Nat.le_of_eq h.symm)]
  simp only [List.mem_map, exists_exists_and_eq_and]

theorem exists_snd {α β : Type} {xs : List α} {ys : List β} (h : ys.length = xs.length) {P : β → Prop} :
    (∃ x ∈ xs.zip ys, P x.2) ↔ ∃ y ∈ ys, P y := by
  conv_rhs => rw [← @List.map_snd_zip _ _ xs ys (Nat.le_of_eq h)]
  simp only [List.mem_map, exists_exists_and_eq_and]

theorem exists_mem_append {α : Type} {xs ys : List α} {P : α → Prop} :
    (∃ x ∈ xs ++ ys, P x) ↔ (∃ x ∈ xs, P x) ∨ ∃ x ∈ ys, P x := by
  simp only [List.mem_append, or_and_right, exists_or]

theorem exists_mem_flatMap {α β : Type} {xs : List α} {f : α → List β} {P : β → Prop} :
    (∃ y ∈ xs.flatMap f, P y) ↔ ∃ x ∈ xs, ∃ y ∈ f x, P y := by
  simp only [List.mem_flatMap]
  constructor
  · rintro ⟨y, ⟨x, hx, hy⟩, holds⟩
    exact ⟨x, hx, y, hy, holds⟩
  · rintro ⟨x, hx, y, hy, holds⟩
    exact ⟨y, ⟨x, hx, hy⟩, holds⟩

/-- **What is noted is what the declarations and the definitions use.** -/
theorem emits_notes (h : Emits p steps classes functions) :
    Notes steps fun n => (∃ d ∈ declarationsOf p, n ∈ d.ctypesNames) ∨
      ∃ d ∈ classes.flatMap (·.members) ++ functions, n ∈ d.ctypesNames := by
  obtain ⟨outer, inner, rfl, first, second⟩ := h.parts
  refine ((Notes.parts first fun _ _ => class_notes).append (Notes.parts second fun _ _ => function_notes)).congr
    fun n => ?_
  simp only [and_or_left, exists_or]
  rw [exists_fst h.eachStruct (P := fun s => ∃ d ∈ structDeclarations s, n ∈ d.ctypesNames),
    exists_snd h.eachStruct (P := fun c => ∃ d ∈ c.members, n ∈ d.ctypesNames),
    exists_fst h.eachFunction (P := fun f => n ∈ (declare (p.name ++ "_" ++ f.func.name) false f.plan).ctypesNames),
    exists_snd h.eachFunction (P := fun d => n ∈ d.ctypesNames)]
  have ofStructs : (∃ d ∈ declarationsOf p, n ∈ d.ctypesNames) ↔
      (∃ s ∈ (Surface.ofPackage p).structs, ∃ d ∈ structDeclarations s, n ∈ d.ctypesNames) ∨
        ∃ f ∈ (Surface.ofPackage p).functions,
          n ∈ (declare (p.name ++ "_" ++ f.func.name) false f.plan).ctypesNames := by
    rw [declarationsOf, exists_mem_append, exists_mem_flatMap]
    simp
  rw [ofStructs, exists_mem_append, exists_mem_flatMap, or_or_or_comm]

/-! ### The texts -/

theorem run_body (e : Emitter) (steps : List Step) : (e.run steps).body = e.body.run (bodyOf steps) := by
  induction steps generalizing e with
  | nil => rfl
  | cons s rest ih =>
    refine (ih _).trans ?_
    cases s <;> rfl

theorem run_protos (e : Emitter) (steps : List Step) : (e.run steps).protos = e.protos.run (protoOf steps) := by
  induction steps generalizing e with
  | nil => rfl
  | cons s rest ih =>
    refine (ih _).trans ?_
    cases s <;> rfl

/-- **What is imported from `ctypes` is what was imported before and what has been noted.** -/
theorem mem_ctypes_run (e : Emitter) (steps : List Step) {n : String} :
    n ∈ (e.run steps).ctypes ↔ n ∈ e.ctypes ∨ n ∈ notedIn steps := by
  induction steps generalizing e with
  | nil => simp [Emitter.run]
  | cons s rest ih =>
    refine (ih _).trans ?_
    cases s with
    | note token =>
      have added (names : List String) :
          n ∈ names.foldr Text.insertSorted e.ctypes ↔ n ∈ e.ctypes ∨ n ∈ names := by
        induction names with
        | nil => simp
        | cons name names ih => rw [List.foldr_cons, Text.mem_insertSorted, ih, List.mem_cons, or_left_comm]
      rw [notedIn_cons, List.mem_append, ← or_assoc]
      exact or_congr_left (added _)
    | _ => exact Iff.rfl

/-- The names that are imported from `ctypes`. -/
theorem emits_ctypes (h : Emits p steps classes functions) {n : String} :
    n ∈ (Emitter.new.run steps).ctypes ↔ n ∈ initialCtypes ∨ (∃ d ∈ declarationsOf p, n ∈ d.ctypesNames) ∨
      ∃ d ∈ classes.flatMap (·.members) ++ functions, n ∈ d.ctypesNames := by
  have initial : n = "c_void_p" → n ∈ initialCtypes := by
    rintro rfl
    decide
  obtain ⟨used, covered⟩ := emits_notes h n
  rw [mem_ctypes_run]
  constructor
  · exact Or.imp_right used
  · exact Or.rec .inl fun there => (covered there).imp_left initial

theorem declarations_text (ds : List Declaration) :
    Layout.text (.spaces 4) (ds.flatMap Declaration.layout) = "" ↔ ds.flatMap Declaration.layout = [] := by
  cases ds with
  | nil => exact iff_of_true rfl rfl
  | cons d rest =>
    refine iff_of_false ?_ (by simp [Declaration.layout])
    rw [List.flatMap_cons, Layout.text_append]
    simp [Layout.text_eq_join, Declaration.layout, Layout.printedAll, Layout.printed, Writer.Line.written, Writer.line,
      Writer.raw]

theorem definitionsOf_eq_some_iff {x : List Class × List Def} :
    definitionsOf p = some x ↔ (Surface.ofPackage p).structs.mapM (classOf p.structNames) = some x.1 ∧
      functionsOf p.structNames p.name (Surface.ofPackage p).functions = some x.2 := by
  unfold definitionsOf
  cases (Surface.ofPackage p).structs.mapM (classOf p.structNames) with
  | none => simp
  | some classes => cases functionsOf p.structNames p.name (Surface.ofPackage p).functions <;> simp [Prod.ext_iff]

/-- The module of a package and how it is emitted. -/
theorem ofPackage_emits {library : String} {m : PyModule} (h : PyModule.ofPackage library p = some m) :
    ∃ e, emission p = some e ∧ Emits p e.steps m.classes m.functions ∧ m.declarations = declarationsOf p ∧
      m.toPyHead = ⟨p.name, p.effectiveImportPath, library, (Emitter.new.run e.steps).ctypes⟩ := by
  obtain ⟨classes, functions, e, hc, hf, emitted, rfl⟩ := PyModule.ofPackage_eq_some_iff.1 h
  rcases emission_emits p with ⟨none, -⟩ | ⟨e', x, emitted', there, emits⟩
  · cases emitted.symm.trans none
  · obtain ⟨hc', hf'⟩ := definitionsOf_eq_some_iff.1 there
    cases emitted.symm.trans emitted'
    cases hc.symm.trans hc'
    cases hf.symm.trans hf'
    exact ⟨e, emitted, emits, rfl, rfl⟩

/-- **The names that a module imports from `ctypes`** are those that it imports in any case, and those that its
declarations and definitions use. -/
theorem mem_ctypesNames {library : String} {m : PyModule} (h : PyModule.ofPackage library p = some m) {n : String} :
    n ∈ m.ctypesNames ↔ n ∈ initialCtypes ∨ (∃ d ∈ m.declarations, n ∈ d.ctypesNames) ∨
      ∃ d ∈ m.definitions, n ∈ d.ctypesNames := by
  obtain ⟨e, -, emits, declared, head⟩ := ofPackage_emits h
  rw [head, declared]
  exact emits_ctypes emits

theorem fileOf_eq {library : String} {m : PyModule} (h : PyModule.ofPackage library p = some m)
    {e : Emission Step Unit} (he : emission p = some e) : fileOf library p e.steps = m.text := by
  obtain ⟨e', emitted, emits, declared, head⟩ := ofPackage_emits h
  cases he.symm.trans emitted
  have body : (Emitter.new.run e.steps).body.text
      = Layout.text (.spaces 4) (m.classes.flatMap Class.layout
        ++ m.functions.flatMap fun f => .blank :: .blank :: f.layout) := by
    rw [run_body, emits_body emits, ← Layout.writeAll_eq_run]
    rfl
  have protos : (Emitter.new.run e.steps).protos.text
      = Layout.text (.spaces 4) (m.declarations.flatMap Declaration.layout) := by
    rw [run_protos, emits_proto emits, ← Layout.writeAll_eq_run, declared]
    rfl
  have front : (if (Emitter.new.run e.steps).protos.text = "" then ""
      else "\n" ++ (Emitter.new.run e.steps).protos.text)
      = Layout.text (.spaces 4) (if m.declarations.flatMap Declaration.layout = [] then []
        else .blank :: m.declarations.flatMap Declaration.layout) := by
    rw [protos]
    by_cases none : m.declarations.flatMap Declaration.layout = []
    · rw [if_pos ((declarations_text _).2 none), if_pos none]
      rfl
    · rw [if_neg (mt (declarations_text _).1 none), if_neg none]
      exact (Layout.text_append _ [.blank] _).symm
  unfold fileOf
  dsimp only
  rw [body, front, ← head, ← Layout.text_append, ← Layout.text_append]
  simp only [PyModule.text, PyModule.layout, List.append_assoc]

/-- **What is emitted has its code.** -/
theorem ofPackage_of_emission (library : String) {e : Emission Step Unit} (he : emission p = some e) :
    ∃ m, PyModule.ofPackage library p = some m ∧ m.text = fileOf library p e.steps := by
  rcases emission_emits p with ⟨none, -⟩ | ⟨e', x, emitted, there, -⟩
  · cases he.symm.trans none
  · obtain ⟨hc, hf⟩ := definitionsOf_eq_some_iff.1 there
    have made := (@PyModule.ofPackage_eq_some_iff library p _).2 ⟨_, _, e, hc, hf, he, rfl⟩
    exact ⟨_, made, (fileOf_eq made he).symm⟩

/-- **The file that is written is the text of the module.** -/
theorem generate_eq (library : String) (p : Package) :
    generate library p = (PyModule.ofPackage library p).map (·.text) := by
  cases he : emission p with
  | none =>
    have nothing : PyModule.ofPackage library p = none := Option.eq_none_iff_forall_ne_some.2 fun m hm => by
      obtain ⟨e, emitted, -⟩ := ofPackage_emits hm
      cases he.symm.trans emitted
    rw [generate, he, nothing]
    rfl
  | some e =>
    obtain ⟨m, made, text⟩ := ofPackage_of_emission library he
    rw [generate, he, made]
    exact congrArg some text.symm

end GoGlue.Py
