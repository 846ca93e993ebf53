import GoGlue.Proofs.Glue.Emission
import GoGlue.Proofs.Glue.Selection

/-!
# The glue file as it is emitted

What the emitter does for a package is made of one part for each entry point, between the prelude and the main
function. In each part the entry point is written, and all packages are asked for that it spells; the wrapped one
may have been asked for before, for another entry point of the same struct.

* `serves_emittable`: the plans of a surface can be emitted.
* `entry_makes`, `struct_makes`, `function_makes`: the parts of the emission.
* `emission_emits`: the emission of a package goes with its entry points.
* `generate_eq`: the file that is written is the text of the glue.
-/
namespace GoGlue.Go

open Emission Writer
open Layout (stepsAll)

variable {p : Package}

/-! ## Plans of a surface -/

/-- What the plan of an entry point has to be like for it to be emitted. -/
structure Emittable (invoke : Invoke) (plan : CallPlan) : Prop where
  placed : Placed plan
  single : ∀ field, invoke = .write field → plan.params.length = 1
  passes : invoke.Passes plan
  returnable : ∀ s ∈ plan.results, Returnable s

theorem placed_ofSignature {structs : StructNames} {sig : Signature} {plan : CallPlan}
    (h : CallPlan.ofSignature structs sig = .ok plan) : Placed plan := by
  have laid := CallPlan.ofSignature_laidOut h
  intro i hi
  obtain ⟨declared, at_i, -⟩ := (laid.error i).1 hi
  have below : i < sig.results.length := (List.getElem?_eq_some_iff.1 at_i).1
  have arity := laid.arity
  rw [CallPlan.arity, CallPlan.hasError, hi] at arity
  simp at arity
  omega

theorem returnable_of_definite {s : Slot} (definite : s.Definite) (shape : s.shape ≠ .pointer) : Returnable s where
  scalar := fun hs => ((definite.converted "").value hs).2
  element := fun t tr he => ((definite.converted "").element t tr he).2
  shape := shape

theorem serves_emittable {receiver : Option Receiver} {invoke : Invoke} {plan : CallPlan}
    (h : Serves p.name (Surface.ofPackage p) receiver invoke plan) : Emittable invoke plan where
  placed := by
    cases h with
    | func hf => exact placed_ofSignature (Surface.function_source hf).2
    | getter hs hf hp =>
      rw [(Surface.struct_source hs).2] at hf
      exact placed_ofSignature ((Surface.field_source hf).2.1 plan hp)
    | setter hs hf hp =>
      rw [(Surface.struct_source hs).2] at hf
      obtain ⟨laid, made, rfl⟩ := ok_of_map ((Surface.field_source hf).2.2 plan hp)
      exact fun i hi => placed_ofSignature made i hi
    | method hs hm =>
      rw [(Surface.struct_source hs).2] at hm
      exact placed_ofSignature (Surface.method_source hm).2
  single := by
    rintro field rfl
    cases h with
    | setter hs hf hp =>
      rw [(Surface.struct_source hs).2] at hf
      have types := CallPlan.ofSetter_params ((Surface.field_source hf).2.2 plan hp)
      simpa using congrArg List.length types
  passes := by
    cases h with
    | getter hs hf hp =>
      rw [(Surface.struct_source hs).2] at hf
      exact CallPlan.ofGetter_params _ _ _ ((Surface.field_source hf).2.1 _ hp)
    | func | setter | method => trivial
  returnable := fun s hs => returnable_of_definite
    (Surface.serves_definite h s (List.mem_append_right _ hs)) ((Surface.serves_laid h).formed.results s hs).2

theorem Emittable.unshadowed {invoke : Invoke} {plan renamed : CallPlan} {own : String} (h : Emittable invoke plan)
    (hr : unshadowed own plan = some renamed) : Emittable invoke renamed := by
  obtain ⟨params, same⟩ := unshadowed_renamed hr
  have results : renamed.results = plan.results := by rw [same]
  have position : renamed.errorPosition = plan.errorPosition := by rw [same]
  have length := params.length_eq
  refine ⟨?_, fun field hi => length ▸ h.single field hi, ?_, results ▸ h.returnable⟩
  · unfold Placed
    rw [results, position]
    exact h.placed
  · cases invoke with
    | read field =>
      have none : plan.params = [] := h.passes
      rw [none] at params
      exact List.forall₂_nil_left_iff.1 params
    | func | method | write => trivial

/-! ## The entry points of a surface -/

/-- The steps write an entry point. They ask for what its body spells, save that the wrapped package may have been
asked for before, and log nothing. -/
structure Writes (p : Package) (part : List Step) (e : Entry) : Prop where
  written : written part = stepsAll e.layout
  spelled : ∀ i ∈ asked part, ∃ q ∈ e.qualifiers, Glue.importOf p.effectiveImportPath q = i
  covered : ∀ q ∈ e.qualifiers, q = .own p.name ∨ Glue.importOf p.effectiveImportPath q ∈ asked part
  silent : remarks part = []

/-- The receiver and the callee of a member are spelled with the wrapped package alone. -/
theorem serves_own {own : String} {surface : Surface} {receiver : Option Receiver} {invoke : Invoke}
    {plan : CallPlan} (h : Serves own surface receiver invoke plan) :
    (∀ r ∈ receiver, ∀ x ∈ r.type.selectors, x.qualifier = .own own) ∧
      invoke.Selects fun x => x.qualifier = .own own := by
  cases h with
  | func hf => exact ⟨by simp, by simp [Invoke.Selects, Expr.selectors]⟩
  | getter hs hf hp | setter hs hf hp | method hs hm =>
    exact ⟨by simp [ownType, Ty.selectors], trivial⟩

theorem mem_argumentSelectors {s : Slot} {q : Qualifier} :
    q ∈ Stmt.qualifiersAll (argument p.name s).1 ++ (argument p.name s).2.qualifiers
      ↔ ∃ x ∈ argumentSelectors p.name s, x.qualifier = q := by
  rw [Stmt.qualifiersAll_eq, Expr.qualifiers_eq, ← List.map_append, List.mem_map]
  rfl

/-- **The entry point of a member is written,** once its parameters are named. -/
theorem entry_makes {receiver : Option Receiver} {invoke : Invoke} {plan : CallPlan} (symbol : String)
    (h : Serves p.name (Surface.ofPackage p) receiver invoke plan) :
    Emit.Makes (Writes p) (emitEntry p symbol receiver invoke plan)
      (entryOf p.name symbol receiver invoke plan) := by
  refine Emit.Makes.claimed fun renamed hr => ?_
  obtain ⟨placed, single, passes, returnable⟩ := (serves_emittable h).unshadowed hr
  refine Emit.makes_some (x := emitNamed p symbol receiver invoke renamed)
    ⟨named_written placed symbol receiver single, ?_, ?_, named_silent placed symbol receiver single returnable⟩
  · intro i hi
    rw [named_asked placed symbol receiver single] at hi
    obtain ⟨s, hs, hi⟩ := List.mem_flatMap.1 hi
    obtain ⟨q, hq, same⟩ := (paramToGo_asked s i).1 hi
    obtain ⟨x, hx, rfl⟩ := mem_argumentSelectors.1 hq
    refine ⟨x.qualifier, ?_, same⟩
    rw [Entry.qualifiers, Stmt.qualifiersAll_eq]
    exact List.mem_map_of_mem (body_passes passes hs hx)
  · intro q hq
    rw [Entry.qualifiers, Stmt.qualifiersAll_eq] at hq
    obtain ⟨x, hx, rfl⟩ := List.mem_map.1 hq
    obtain ⟨type, callee⟩ := serves_own h
    -- what is not there for the receiver or the callee is there for an argument
    refine body_selects (P := fun x => x.qualifier = .own p.name ∨ Glue.importOf p.effectiveImportPath x.qualifier
      ∈ asked (emitNamed p symbol receiver invoke renamed).steps) (fun r hr x hx => .inl (type r hr x hx)) ?_ ?_ x hx
    · cases invoke with
      | func callee' => exact fun x hx => .inl (callee x hx)
      | method | read | write => trivial
    · intro s hs x hx
      rw [named_asked placed symbol receiver single]
      exact .inr (List.mem_flatMap.2 ⟨s, hs,
        (paramToGo_asked s _).2 ⟨x.qualifier, mem_argumentSelectors.2 ⟨x, hx, rfl⟩, rfl⟩⟩)

theorem accessors_makes {s : StructSurface} {f : FieldSurface} (hs : s ∈ (Surface.ofPackage p).structs)
    (hf : f ∈ s.fields) :
    Emit.Makes (InParts (Writes p))
      (emitAccessors p s.struct.name ⟨s.struct.name, ownType p.name s.struct.name, true⟩ f)
      (fieldEntries p.name s.struct.name f) := by
  have getter := Emit.makes_forEach _ fun plan hp =>
    entry_makes (s.struct.name ++ "_Get" ++ f.field.name) (.getter hs hf (Option.mem_toList.1 hp))
  have setter := Emit.makes_forEach _ fun plan hp =>
    entry_makes (s.struct.name ++ "_Set" ++ f.field.name) (.setter hs hf (Option.mem_toList.1 hp))
  exact getter.bind fun _ _ _ _ first => setter.map fun _ _ second => first.append second

/-- The entry points are written in their parts, and the wrapped package is asked for. -/
structure WritesAll (p : Package) (steps : List Step) (es : List Entry) : Prop where
  parts : InParts (Writes p) steps es
  own : Glue.importOf p.effectiveImportPath (.own p.name) ∈ asked steps

/-- What is asked for may be asked for in front of an entry point, if its body spells it. -/
theorem Writes.needed {part : List Step} {e : Entry} (h : Writes p part e) (spells : Qualifier.own p.name ∈ e.qualifiers) :
    Writes p (needs p [.own p.name] ++ part) e where
  written := h.written
  spelled i hi := by
    rcases List.mem_cons.1 hi with rfl | hi
    · exact ⟨_, spells, rfl⟩
    · exact h.spelled i hi
  covered q hq := (h.covered q hq).imp_right (List.mem_cons_of_mem _)
  silent := h.silent

theorem constructor_qualifiers (own struct : String) : (constructor own struct).qualifiers = [.own own] := rfl

theorem destructor_qualifiers (struct : String) : (destructor struct).qualifiers = [] := rfl

theorem constructor_writes (struct : String) :
    Writes p (needs p [.own p.name] ++ (emitConstructor struct (ownType p.name struct).text).steps)
      (constructor p.name struct) := by
  refine Writes.needed ⟨?_, by simp [emitConstructor], ?_, by simp [emitConstructor]⟩
    (constructor_qualifiers _ _ ▸ List.mem_singleton_self _)
  · simp [emitConstructor, constructor, Entry.layout, Stmt.layouts, Stmt.layout, Layout.braced, Layout.steps,
      Layout.stepsAll, CToken.text, Expr.calls, Expr.text, Expr.texts, ← String.toList_inj]
  · simp [constructor_qualifiers]

theorem destructor_writes (struct : String) :
    Writes p (emitDestructor struct).steps (destructor struct) := by
  refine ⟨?_, by simp [emitDestructor], by simp [destructor_qualifiers], by simp [emitDestructor]⟩
  simp [emitDestructor, destructor, Entry.layout, Stmt.layouts, Stmt.layout, Layout.braced, Layout.steps,
    Layout.stepsAll, CToken.text, Expr.calls, Expr.text, Expr.texts, ← String.toList_inj]

theorem asked_own (steps : List Step) :
    Glue.importOf p.effectiveImportPath (.own p.name) ∈ asked (needs p [.own p.name] ++ steps) := by
  simp [needs]

theorem struct_makes {s : StructSurface} (hs : s ∈ (Surface.ofPackage p).structs) :
    Emit.Makes (WritesAll p) (emitStruct p s) (structEntries p.name s) := by
  have fields := Emit.makes_forEach _ fun f hf => accessors_makes hs hf
  have methods := Emit.makes_forEach _ fun m hm =>
    entry_makes (p := p) (s.struct.name ++ "_" ++ m.method.name) (.method hs hm)
  refine .lift (.lift (.lift ?_))
  refine fields.bind fun inner groups _ _ first => methods.map fun outer es second => ⟨?_, asked_own _⟩
  have lifetime := (InParts.singleton (destructor_writes s.struct.name)).append (first.flatten.append second)
  have all := InParts.cons (constructor_writes s.struct.name) lifetime
  rw [List.append_assoc] at all
  exact all

/-- An entry point that asks for the wrapped package itself. -/
structure WritesOwn (p : Package) (part : List Step) (e : Entry) : Prop extends Writes p part e where
  own : Glue.importOf p.effectiveImportPath (.own p.name) ∈ asked part

theorem callee_qualifiers {f : FuncSurface} {e : Entry} (he : funcEntry p.name f = some e) :
    Qualifier.own p.name ∈ e.qualifiers := by
  obtain ⟨renamed, hr, rfl⟩ := entryOf_eq_some_iff.1 he
  rw [Entry.qualifiers, Stmt.qualifiersAll_eq]
  refine List.mem_map.2 ⟨⟨.own p.name, f.func.name⟩, ?_, rfl⟩
  simp [body, Stmt.selectorsAll_append, callStep, assignResults_selectors, Stmt.selectorsAll, Expr.selectors]

theorem function_makes {f : FuncSurface} (hf : f ∈ (Surface.ofPackage p).functions) :
    Emit.Makes (WritesOwn p) (emitFunction p f) (funcEntry p.name f) := by
  have made := entry_makes (p.name ++ "_" ++ f.func.name) (.func hf)
  refine .lift ?_
  rcases made with ⟨none, nothing⟩ | ⟨e, c, emitted, there, writes⟩
  · exact .inl ⟨none, nothing⟩
  · exact .inr ⟨e, c, emitted, there, writes.needed (callee_qualifiers there), asked_own _⟩

/-! ## The file -/

/-- The steps of the emitter write entry points between the prelude and the main function. They ask for all that the
entry points spell and for nothing else, and log nothing. -/
structure Emits (p : Package) (steps : List Step) (es : List Entry) : Prop where
  parts : ∃ inner, steps = .raw runtime :: .blank :: (inner ++ [.line "func main() \x7b\x7d"]) ∧
    InParts (Writes p) inner es
  asked : ∀ i, i ∈ asked steps ↔ ∃ e ∈ es, ∃ q ∈ e.qualifiers, Glue.importOf p.effectiveImportPath q = i
  silent : remarks steps = []

theorem silent_parts {steps : List Step} {es : List Entry} (h : InParts (Writes p) steps es) :
    remarks steps = [] := by
  obtain ⟨parts, rfl, related⟩ := h
  induction related with
  | nil => rfl
  | cons first _ ih => rw [List.flatten_cons, remarks_append, first.silent, ih, List.append_nil]

theorem spelled_parts {steps : List Step} {es : List Entry} (h : InParts (Writes p) steps es) :
    ∀ i ∈ asked steps, ∃ e ∈ es, ∃ q ∈ e.qualifiers, Glue.importOf p.effectiveImportPath q = i := by
  obtain ⟨parts, rfl, related⟩ := h
  induction related with
  | nil => simp
  | cons first _ ih =>
    intro i hi
    rw [List.flatten_cons, asked_append] at hi
    rcases List.mem_append.1 hi with own | other
    · obtain ⟨q, hq, same⟩ := first.spelled i own
      exact ⟨_, List.mem_cons_self, q, hq, same⟩
    · obtain ⟨e, he, there⟩ := ih i other
      exact ⟨e, List.mem_cons_of_mem _ he, there⟩

theorem covered_parts {steps : List Step} {es : List Entry} (h : InParts (Writes p) steps es) :
    ∀ e ∈ es, ∀ q ∈ e.qualifiers, q = .own p.name ∨ Glue.importOf p.effectiveImportPath q ∈ asked steps := by
  intro e he q hq
  obtain ⟨part, ⟨front, back, rfl⟩, writes⟩ := h.part he
  refine (writes.covered q hq).imp_right fun there => ?_
  simp [there]

/-- The wrapped package is asked for by the first struct or function. -/
theorem own_asked {outer inner : List Step} {groups : List (List Entry)} {es : List Entry}
    (first : InParts (WritesAll p) outer groups) (second : InParts (WritesOwn p) inner es)
    (some : groups.flatten ++ es ≠ []) :
    Glue.importOf p.effectiveImportPath (.own p.name) ∈ asked (outer ++ inner) := by
  obtain ⟨e, he⟩ := List.exists_mem_of_ne_nil _ some
  rcases List.mem_append.1 he with he | he
  · obtain ⟨group, hg, -⟩ := List.mem_flatten.1 he
    obtain ⟨part, ⟨front, back, rfl⟩, writes⟩ := first.part hg
    simp [writes.own]
  · obtain ⟨part, ⟨front, back, rfl⟩, writes⟩ := second.part he
    simp [writes.own]

/-- **The glue of a package is emitted as its entry points say,** or there is none. -/
theorem emission_emits (p : Package) :
    Emit.Makes (Emits p) (emission p) (entries p.name (Surface.ofPackage p)) := by
  have structs := Emit.makes_forEach _ fun s hs => struct_makes (p := p) (s := s) hs
  have functions := Emit.makes_forEach _ fun f hf => function_makes (p := p) (f := f) hf
  refine .lift (.lift (structs.bind fun outer groups _ _ first => functions.bind fun inner es _ _ second => ?_))
  have parts : InParts (Writes p) (outer.steps ++ inner.steps) (groups.flatten ++ es) :=
    (first.imp fun _ _ => WritesAll.parts).flatten.append (second.imp fun _ _ => WritesOwn.toWrites)
  have asks (i : Import) :
      i ∈ asked (.raw runtime :: .blank :: ((outer.steps ++ inner.steps) ++ [.line "func main() \x7b\x7d"]))
        ↔ i ∈ asked (outer.steps ++ inner.steps) := by simp
  refine Emit.makes_some (x := line "func main() \x7b\x7d") ?_
  have steps : (raw runtime).steps ++ (blank.steps ++ (outer.steps ++ (inner.steps ++ (line "func main() \x7b\x7d").steps)))
      = .raw runtime :: .blank :: ((outer.steps ++ inner.steps) ++ [.line "func main() \x7b\x7d"]) := by simp
  rw [steps]
  refine ⟨⟨_, rfl, parts⟩, fun i => (asks i).trans ⟨spelled_parts parts i, ?_⟩, ?_⟩
  · rintro ⟨e, he, q, hq, rfl⟩
    rcases covered_parts parts e he q hq with rfl | there
    · exact own_asked first second (List.ne_nil_of_mem he)
    · exact there
  · simpa using silent_parts parts

theorem emits_of {emission : Emission Step Unit} {es : List Entry} (h : Go.emission p = some emission)
    (he : entries p.name (Surface.ofPackage p) = some es) : Emits p emission.steps es := by
  obtain ⟨c, there, emits⟩ := (emission_emits p).related h
  cases he.symm.trans there
  exact emits

theorem parts_written {steps : List Step} {es : List Entry} (h : InParts (Writes p) steps es) :
    written steps = stepsAll (es.flatMap Entry.layout) := by
  obtain ⟨parts, rfl, related⟩ := h
  induction related with
  | nil => rfl
  | cons first _ ih =>
    rw [List.flatten_cons, written_append, first.written, ih, List.flatMap_cons, Layout.stepsAll_append]

/-- The layout of the entry points behind the prelude. -/
def entriesLayout (es : List Entry) : List Layout :=
  .blank :: (es.flatMap Entry.layout ++ [.line "func main() \x7b\x7d"])

/-- The prelude is written as it stands, and the rest as its layout says. -/
theorem emits_written {steps : List Step} {es : List Entry} (h : Emits p steps es) :
    written steps = .raw runtime :: stepsAll (entriesLayout es) := by
  obtain ⟨inner, rfl, parts⟩ := h.parts
  simp [parts_written parts, entriesLayout, stepsAll, Layout.steps, Layout.stepsAll_append]

theorem emits_text {steps : List Step} {es : List Entry} (h : Emits p steps es) :
    ((Writer.new .tabs).run steps).text = Layout.text .tabs (preludeLayout ++ entriesLayout es) := by
  have rest := (Layout.writeAll_text ⟨.tabs, 0, [], "" ++ runtime⟩ (entriesLayout es)).2
  rw [run_text, emits_written h, run_cons, ← Layout.writeAll_eq_run]
  refine rest.trans ?_
  rw [runtime, Layout.text_eq_join, Layout.text_eq_join, Layout.printedAll_append, List.map_append, String.join_append]
  simp

theorem layout_eq (g : Glue) : g.layout = g.header ++ (preludeLayout ++ entriesLayout g.entries) := by
  simp [Glue.layout, entriesLayout]

/-- What is emitted for a package is the text of its glue. -/
theorem fileOf_eq {g : Glue} (h : Glue.ofPackage p = some g) {e : Emission Step Unit} (he : emission p = some e) :
    fileOf p e.steps = g.text := by
  obtain ⟨es, e', there, emitted, rfl⟩ := Glue.ofPackage_eq_some_iff.1 h
  cases he.symm.trans emitted
  unfold fileOf Glue.text
  rw [layout_eq, Layout.text_append, ← emits_text (emits_of he there)]
  rfl

/-- **What is emitted has its code.** -/
theorem ofPackage_of_emission {e : Emission Step Unit} (he : emission p = some e) :
    ∃ g, Glue.ofPackage p = some g ∧ g.text = fileOf p e.steps := by
  rcases emission_emits p with ⟨none, -⟩ | ⟨e', es, emitted, there, -⟩
  · cases he.symm.trans none
  · have made := Glue.ofPackage_eq_some_iff.2 ⟨es, e, there, he, rfl⟩
    exact ⟨_, made, (fileOf_eq made he).symm⟩

/-- **The file that is written is the text of the glue,** and nothing is logged on the way. -/
theorem generate_eq (p : Package) : generate p = (Glue.ofPackage p).map fun g => (g.text, []) := by
  cases he : emission p with
  | none =>
    have nothing : Glue.ofPackage p = none := Option.eq_none_iff_forall_ne_some.2 fun g hg => by
      obtain ⟨-, e, -, emitted, -⟩ := Glue.ofPackage_eq_some_iff.1 hg
      cases he.symm.trans emitted
    rw [generate, he, nothing]
    rfl
  | some e =>
    obtain ⟨g, made, text⟩ := ofPackage_of_emission he
    obtain ⟨es, -, there, -, -⟩ := Glue.ofPackage_eq_some_iff.1 made
    rw [generate, he, made]
    show some (fileOf p e.steps, remarks e.steps) = some (g.text, [])
    rw [text, (emits_of he there).silent]

end GoGlue.Go
