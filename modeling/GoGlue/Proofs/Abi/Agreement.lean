import GoGlue.Proofs.Abi.Invocation
import GoGlue.Proofs.Text.Ends
import Mathlib.Data.List.Nodup

/-!
# One ABI on both sides

The glue file and the module of a package bind the same entry points. An entry point, its declaration and
a call of it are compared position by position through the roles of the callable, so the three agree for
every combination of receiver, buffers, pointers, direct results, stored results and error. A symbol that
occurs twice is exported and declared twice, and each call belongs to its own declaration.

* `bound_of_exports`: an entry point and the declaration of the same callable agree.
* `layout_exports`, `layout_declares`: what the text of the two files exports and declares.
* `bindings_agree`: the glue and the module of a package bind the same ABI.
-/
namespace GoGlue

/-! ## Prototype and declaration -/

/-- A parameter of a prototype and the class at the same position both belong to the role. -/
structure Aligned (r : Role) (position : Go.CParam × CtypesToken) : Prop where
  token : position.1.token = r.token
  cls : position.2 = r.cls
  counterpart : Counterpart r.direction position.1.token position.2

/-- An entry point and a declaration bind the callable in the same way. -/
structure Bound (c : Callable) (e : Go.Entry) (d : Py.Declaration) : Prop where
  exported : e.symbol = c.symbol
  declared : d.symbol = c.symbol
  params : e.params.length = c.roles.length
  arguments : d.arguments.length = c.roles.length
  positions : List.Forall₂ Aligned c.roles (e.params.zip d.arguments)
  result : Option.Rel (Counterpart .out) e.result d.result

theorem aligned_zip {rs : List Role} (h : ∀ r ∈ rs, Counterpart r.direction r.token r.cls)
    {params : List Go.CParam} (hp : params.map (·.token) = rs.map Role.token) :
    List.Forall₂ Aligned rs (params.zip (rs.map Role.cls)) := by
  induction rs generalizing params with
  | nil =>
    rw [List.map_nil, List.zip_nil_right]
    exact .nil
  | cons r rest ih =>
    cases params with
    | nil => cases hp
    | cons q params =>
      simp only [List.map_cons, List.cons.injEq] at hp
      obtain ⟨hq, hp⟩ := hp
      refine .cons ⟨hq, rfl, ?_⟩ (ih (fun r' hr' => h r' (List.mem_cons_of_mem _ hr')) hp)
      show Counterpart r.direction q.token r.cls
      rw [hq]
      exact h r List.mem_cons_self

/-- **One callable.** Its entry point and its declaration agree. -/
theorem bound_of_exports {structs : StructNames} {c : Callable} (hf : c.plan.Formed structs)
    {e : Go.Entry} (h : Go.Exports c e) : Bound c e (Py.declareCallable c) := by
  have arguments : (Py.declareCallable c).arguments = c.roles.map Role.cls :=
    Py.declare_arguments c.symbol c.bound c.plan
  refine ⟨h.symbol, rfl, ?_, ?_, ?_, ?_⟩
  · rw [← List.length_map (·.token), h.params, List.length_map]
  · rw [arguments, List.length_map]
  · rw [arguments]
    exact aligned_zip (fun r hr => CallPlan.counterpart hf hr) h.params
  · rw [h.result]
    show Option.Rel _ (c.plan.returned.map Go.slotToken)
      (c.plan.returned.map fun s => (Py.slotType s).returned)
    cases hr : c.plan.returned with
    | none => exact .none
    | some s =>
      have hs : s ∈ c.plan.results := by
        rw [CallPlan.returned_results hr]
        exact List.mem_singleton_self s
      exact .some (counterpart_slot (hf.results s hs).1).2

/-! ## The two files -/

namespace Layout

/-- The lines at the outermost level that begin in the given way. -/
def outerLines (start : String) (ls : List Layout) : List String :=
  ls.filterMap fun
    | .line t => if beginsWith start t then some t else none
    | _ => none

theorem outerLines_append (start : String) (ls ms : List Layout) :
    outerLines start (ls ++ ms) = outerLines start ls ++ outerLines start ms :=
  List.filterMap_append

theorem outerLines_flatMap {α : Type} (start : String) (xs : List α) (f : α → List Layout) :
    outerLines start (xs.flatMap f) = xs.flatMap fun x => outerLines start (f x) := by
  induction xs with
  | nil => rfl
  | cons x rest ih => rw [List.flatMap_cons, List.flatMap_cons, outerLines_append, ih]

theorem outerLines_flatMap_nil {α : Type} {start : String} {xs : List α} {f : α → List Layout}
    (h : ∀ x ∈ xs, outerLines start (f x) = []) : outerLines start (xs.flatMap f) = [] := by
  rw [outerLines_flatMap, List.flatMap_eq_nil_iff]
  exact h

end Layout

namespace Glue

theorem header_exports (g : Glue) : Layout.outerLines "//export " g.header = [] := by
  have title : beginsWith "//export "
      ("// Code generated by gobridge from " ++ g.importPath ++ ". DO NOT EDIT.") = false := by
    simp [beginsWith, List.isPrefixOf]
  simp [GlueHead.header, GlueHead.importLayout, Layout.outerLines, title]
  decide

theorem entry_exports (e : Go.Entry) :
    Layout.outerLines "//export " e.layout = ["//export " ++ e.symbol] := by
  simp [Go.Entry.layout, Layout.outerLines, Layout.braced, beginsWith_append]

/-- The exported symbols of the file: those of the prelude, and those of the entry points. -/
theorem layout_exports (g : Glue) :
    Layout.outerLines "//export " g.layout
      = (["Free_String", "Free_Bytes", "Free_Handle"] ++ g.entries.map (·.symbol)).map
          ("//export " ++ ·) := by
  have prelude : Layout.outerLines "//export " Go.preludeLayout
      = ["//export Free_String", "//export Free_Bytes", "//export Free_Handle"] := by decide +kernel
  have entries : Layout.outerLines "//export " (g.entries.flatMap Go.Entry.layout)
      = (g.entries.map (·.symbol)).map ("//export " ++ ·) := by
    rw [Layout.outerLines_flatMap, List.map_map, List.map_eq_flatMap]
    simp only [entry_exports]
    rfl
  unfold layout
  simp only [Layout.outerLines_append, header_exports, prelude, entries]
  simp [Layout.outerLines, beginsWith]

end Glue

namespace PyModule

theorem header_declares (m : PyModule) : Layout.outerLines "_lib." m.header = [] := by
  have title : beginsWith "_lib."
      ("# Code generated by gobridge from " ++ m.importPath ++ ". DO NOT EDIT.") = false := by
    simp [beginsWith, List.isPrefixOf]
  have about : beginsWith "_lib."
      ("\"\"\"Python bindings for the " ++ m.package ++ " Go package.\"\"\"") = false := by
    simp [beginsWith, List.isPrefixOf]
  have name : beginsWith "_lib." ("_LIB_NAME = \"" ++ m.library ++ "\"") = false := by
    simp [beginsWith, List.isPrefixOf]
  simp [PyHead.header, Layout.outerLines, title, about, name]
  decide

theorem def_declares (d : Py.Def) : Layout.outerLines "_lib." d.layout = [] := by
  have decorators : Layout.outerLines "_lib."
      (d.decorators.map fun decorator => .line ("@" ++ decorator)) = [] := by
    simp [Layout.outerLines, beginsWith]
  unfold Py.Def.layout
  rw [Layout.outerLines_append, decorators]
  rfl

/-- The lines that set up entry points: those of the prelude, and those of the declarations. -/
theorem layout_declares (m : PyModule) :
    Layout.outerLines "_lib." m.layout
      = Layout.outerLines "_lib." ((Py.releases ++ m.declarations).flatMap Py.Declaration.layout) := by
  have prelude : Layout.outerLines "_lib." Py.preludeLayout
      = Layout.outerLines "_lib." (Py.releases.flatMap Py.Declaration.layout) := by decide +kernel
  have declarations : ∀ ds : List Layout,
      Layout.outerLines "_lib." (if ds = [] then [] else .blank :: ds)
        = Layout.outerLines "_lib." ds := by
    intro ds
    cases ds <;> rfl
  have classes : Layout.outerLines "_lib." (m.classes.flatMap Py.Class.layout) = [] :=
    Layout.outerLines_flatMap_nil fun _ _ => rfl
  have functions : Layout.outerLines "_lib."
      (m.functions.flatMap fun f => .blank :: .blank :: f.layout) = [] :=
    Layout.outerLines_flatMap_nil fun f _ => def_declares f
  unfold layout
  simp only [Layout.outerLines_append, header_declares, prelude, declarations, classes, functions,
    List.flatMap_append, List.nil_append, List.append_nil]

end PyModule

/-! ## Agreement -/

theorem bound_zip {structs : StructNames} {cs : List Callable}
    (hf : ∀ c ∈ cs, c.plan.Formed structs) {es : List Go.Entry}
    (h : List.Forall₂ Go.Exports cs es) :
    List.Forall₂ (fun c (b : Go.Entry × Py.Declaration) => Bound c b.1 b.2) cs
      (es.zip (cs.map Py.declareCallable)) := by
  induction h with
  | nil => exact .nil
  | @cons c e cs es hc _ ih =>
    rw [List.map_cons, List.zip_cons_cons]
    exact .cons (bound_of_exports (hf c List.mem_cons_self) hc)
      (ih fun c' hc' => hf c' (List.mem_cons_of_mem _ hc'))

/-- A call passes as many arguments as the declaration of its callable lists. -/
theorem Invokes.length_args {c : Callable} {i : Invocation} (h : Invokes c i) :
    (Py.declareCallable c).arguments.length = i.args.length := by
  obtain ⟨names, -, -, hp⟩ := h.args
  rw [← hp.length_eq]
  show (Py.declare c.symbol c.bound c.plan).arguments.length = _
  rw [Py.declare_arguments, List.length_map]
  rfl

/-- **One ABI.** For a package that both sides are made for, the glue exports, besides the releases of its
prelude, exactly the symbols that the module declares, in the same order. Entry point and declaration of
each callable have the same number of parameters, counterparts at each position and as results, and the
calls in the module's bodies pass one argument for each of them, in the same order. -/
theorem bindings_agree {library : String} {p : Package} {g : Glue} {m : PyModule}
    (hg : Glue.ofPackage p = some g) (hm : PyModule.ofPackage library p = some m) :
    Layout.outerLines "//export " g.layout
        = ((Py.releases ++ m.declarations).map (·.symbol)).map ("//export " ++ ·) ∧
      Layout.outerLines "_lib." m.layout
        = Layout.outerLines "_lib."
          ((Py.releases ++ m.declarations).flatMap Py.Declaration.layout) ∧
      g.entries.length = m.declarations.length ∧
      List.Forall₂ (fun c (b : Go.Entry × Py.Declaration) => Bound c b.1 b.2)
        (Surface.callables p) (g.entries.zip m.declarations) ∧
      InOrder (Surface.callables p) m.invocations ∧
      (∀ i ∈ m.invocations, ∃ d ∈ m.declarations,
        d.symbol = i.symbol ∧ d.arguments.length = i.args.length) ∧
      ((m.declarations.map (·.symbol)).Nodup → ∀ i ∈ m.invocations, ∀ d ∈ m.declarations,
        d.symbol = i.symbol → d.arguments.length = i.args.length) := by
  obtain ⟨es, emission, he, emitted, rfl⟩ := Glue.ofPackage_eq_some_iff.1 hg
  have exported := Go.entries_exported he
  have declared := Py.declarations_eq hm
  have called := Py.calls_inOrder hm
  have symbols : es.map (·.symbol) = m.declarations.map (·.symbol) := by
    rw [declared, List.map_map]
    refine List.forall₂_eq_eq_eq ▸ ?_
    rw [List.forall₂_map_left_iff, List.forall₂_map_right_iff]
    exact exported.flip.imp fun _ _ h => h.symbol
  have served : ∀ i ∈ m.invocations, ∃ d ∈ m.declarations,
      d.symbol = i.symbol ∧ d.arguments.length = i.args.length := by
    intro i hi
    obtain ⟨c, hc, h⟩ := called.exists_callable hi
    refine ⟨Py.declareCallable c, ?_, h.symbol.symm, h.length_args⟩
    rw [declared]
    exact List.mem_map_of_mem hc
  refine ⟨?_, PyModule.layout_declares m, ?_, ?_, called, served, ?_⟩
  · rw [Glue.layout_exports, List.map_append, symbols]
    rfl
  · rw [← List.length_map (·.symbol), symbols, List.length_map]
  · rw [declared]
    exact bound_zip (Surface.callables_formed p) exported
  · intro distinct i hi d hd hsym
    obtain ⟨d', hd', hsym', hlen⟩ := served i hi
    have same : d = d' := List.inj_on_of_nodup_map distinct hd hd' (hsym.trans hsym'.symm)
    rw [same, hlen]

/-- A package with a struct, a field, a method and a function that may fail. -/
def geometry : Package where
  name := "geo"
  importPath := "example.com/geo"
  dir := ""
  functions :=
    [⟨⟨[⟨"text", .string⟩], [.unnamed (.slice .string), .unnamed .error], false⟩, "Split", ""⟩]
  structs :=
    [⟨"Point", "", [⟨"Name", .string, "", true⟩],
      [⟨⟨[⟨"by", .slice (.primitive "float64")⟩], [], false⟩, "Move", "", "p", "Point", true⟩]⟩]

theorem bindings_agree_geometry :
    ∃ g m, Glue.ofPackage geometry = some g ∧ PyModule.ofPackage "libgeo" geometry = some m ∧
      (Surface.callables geometry).map (·.symbol)
        = ["Point_New", "Point_Free", "Point_GetName", "Point_SetName", "Point_Move", "geo_Split"] ∧
      List.Forall₂ (fun c (b : Go.Entry × Py.Declaration) => Bound c b.1 b.2)
        (Surface.callables geometry) (g.entries.zip m.declarations) ∧
      InOrder (Surface.callables geometry) m.invocations := by
  obtain ⟨g, hg⟩ : ∃ g, Glue.ofPackage geometry = some g :=
    Option.isSome_iff_exists.1 (by decide +kernel)
  obtain ⟨m, hm⟩ : ∃ m, PyModule.ofPackage "libgeo" geometry = some m :=
    Option.isSome_iff_exists.1 (by decide +kernel)
  obtain ⟨-, -, -, bound, called, -, -⟩ := bindings_agree hg hm
  exact ⟨g, m, hg, hm, by decide +kernel, bound, called⟩

end GoGlue
