import GoGlue.Generation
import GoGlue.Proofs.Extraction.Names
import GoGlue.Proofs.Glue.Declared
import GoGlue.Proofs.Glue.Legible
import GoGlue.Proofs.Glue.Selection
import GoGlue.Proofs.Project.Paths

/-!
# The import block

A Go file is refused if it refers to a package that it does not import, and also if it imports one that it does
not refer to. The import block of the glue has a line for the wrapped package and one for every package that a
struct type inside the type of a parameter belongs to, besides those of the prelude; results need none, since
they are converted without a word about their types. Each of these lines is used, and nothing else is: what
stands before a dot in an entry point is bound by a line of the block, or it is the package `C`, which is imported
apart, or one of three locals.

* `mem_qualifiers`: what the entry points of a package refer to.
* `mem_importLines`: the lines of the import block.
* `boundName_own`, `boundName_foreign`: the names that they bind.
* `imports_exact`: the import block covers the file exactly.
-/
namespace GoGlue

/-! ## What is needed -/

namespace Surface

open Go

/-- Something of the package can be called. -/
def Emits (p : Package) : Prop := (ofPackage p).structs ≠ [] ∨ (ofPackage p).functions ≠ []

/-- A parameter that is emitted has a struct type of another package in its type, at whatever depth. -/
def Takes (p : Package) (package : String) : Prop :=
  ∃ receiver invoke plan, Serves p.name (ofPackage p) receiver invoke plan ∧
    ∃ s ∈ plan.params, ∃ n ∈ s.type.nodes, n.kind = .struct ∧ n.package = some package

variable {p : Package}

theorem emits_struct {s : StructSurface} (h : s ∈ (ofPackage p).structs) : Emits p :=
  .inl (List.ne_nil_of_mem h)

theorem emits_function {f : FuncSurface} (h : f ∈ (ofPackage p).functions) : Emits p :=
  .inr (List.ne_nil_of_mem h)

theorem serves_emits {receiver : Option Receiver} {invoke : Invoke} {plan : CallPlan}
    (h : Serves p.name (ofPackage p) receiver invoke plan) : Emits p := by
  cases h with
  | func hf => exact emits_function hf
  | getter hs | setter hs | method hs => exact emits_struct hs

theorem serves_passes {receiver : Option Receiver} {invoke : Invoke} {plan : CallPlan}
    (h : Serves p.name (ofPackage p) receiver invoke plan) : invoke.Passes plan := by
  cases h with
  | getter hs hf hp =>
    rw [(struct_source hs).2] at hf
    exact CallPlan.ofGetter_params _ _ _ ((field_source hf).2.1 _ hp)
  | func | setter | method => trivial

/-- The qualifier is that of the wrapped package, or of a package that is needed. -/
def Needs (p : Package) : Qualifier → Prop
  | .own package => package = p.name ∧ Emits p
  | .foreign package => Takes p package

theorem offers_needed : Offers p.name (fun x => Needs p x.qualifier) (ofPackage p) := by
  have takes : ∀ {receiver : Option Receiver} {invoke : Invoke} {plan : CallPlan},
      Serves p.name (ofPackage p) receiver invoke plan →
        Go.Takes p.name (fun x => Needs p x.qualifier) plan := by
    intro receiver invoke plan serves s hs n hn kind
    unfold Selector.ofStruct
    cases package : n.package with
    | none => exact ⟨rfl, serves_emits serves⟩
    | some q => exact ⟨receiver, invoke, plan, serves, s, hs, n, hn, kind, package⟩
  refine ⟨fun f hf => ⟨⟨rfl, emits_function hf⟩, takes (.func hf)⟩, fun s hs => ⟨rfl, emits_struct hs⟩, ?_,
    fun s hs m hm => takes (.method hs hm)⟩
  intro s hs f hf plan hp
  rcases List.mem_append.1 hp with hp | hp
  · exact takes (.getter hs hf (Option.mem_toList.1 hp))
  · exact takes (.setter hs hf (Option.mem_toList.1 hp))

end Surface

namespace Go

open Surface

variable {p : Package} {es : List Entry}

theorem Entry.mem_qualifiers {e : Entry} {q : Qualifier} :
    q ∈ e.qualifiers ↔ ∃ x ∈ e.selectors, x.qualifier = q := by
  rw [Entry.qualifiers, Stmt.qualifiersAll_eq, List.mem_map]
  rfl

/-- **What the entry points of a package refer to**: the wrapped package if there is anything to be called, and
the packages of the struct types that their parameters take. -/
theorem mem_qualifiers (he : entries p.name (ofPackage p) = some es)
    (formed : ∀ t ∈ p.takenTypes, t.WellFormed) {q : Qualifier} :
    (∃ e ∈ es, q ∈ e.qualifiers) ↔ Needs p q := by
  simp only [Entry.mem_qualifiers]
  constructor
  · rintro ⟨e, hm, x, hx, rfl⟩
    exact entries_selects offers_needed he e hm x hx
  · intro needed
    cases q with
    | own package =>
      obtain ⟨rfl, emitted⟩ := needed
      rcases emitted with hs | hf
      · obtain ⟨s, hs⟩ := List.exists_mem_of_ne_nil _ hs
        refine ⟨_, constructor_mem he hs, ⟨.own p.name, s.struct.name⟩, ?_, rfl⟩
        simp [Entry.selectors, constructor, ownType, Stmt.selectorsAll, Stmt.selectors, Expr.calls, Expr.selectors,
          Expr.selectorsAll, Ty.selectors]
      · obtain ⟨f, hf⟩ := List.exists_mem_of_ne_nil _ hf
        obtain ⟨e, hm, -, callee, -⟩ :=
          served_covers he (.func hf) (serves_laid (.func hf)).formed trivial
        exact ⟨e, hm, ⟨.own p.name, f.func.name⟩, callee _ rfl (by simp [Expr.selectors]), rfl⟩
    | foreign package =>
      obtain ⟨receiver, invoke, plan, serves, s, hs, n, hn, kind, foreign⟩ := needed
      have laid := serves_laid serves
      obtain ⟨e, hm, -, -, params⟩ := served_covers he serves laid.formed (serves_passes serves)
      have type : s.type.WellFormed := formed _ (laid.types _ (List.mem_map_of_mem hs))
      refine ⟨e, hm, .ofStruct p.name n, params s hs (ofGoType_selectors s.type type n hn kind), ?_⟩
      simp [Selector.ofStruct, foreign]

end Go

/-! ## Lines -/

namespace Glue

open Extraction Go Surface
open Text (IsName Qualifies)

/-- The lines of the import block. -/
def importLines (g : Glue) : List String := g.plainImports ++ g.namedImports

def ownLine (p : Package) : String := p.name ++ " \"" ++ p.effectiveImportPath ++ "\""

def plainLine (package : String) : String := "\"" ++ package ++ "\""

/-- The name that a line binds: the local name, or else the last part of the path. -/
def boundName (line : String) : String :=
  if line.toList.head? = some '"' then lastPart line else .ofList (line.toList.takeWhile (· ≠ ' '))

theorem boundName_foreign {package : String} (h : IsName package) : boundName (plainLine package) = package := by
  have apart : ∀ c ∈ package.toList, c ≠ '"' ∧ c ≠ '/' := by
    intro c hc
    have name := h c hc
    constructor <;> rintro rfl <;> exact absurd name (by decide)
  have line : (plainLine package).toList = '"' :: (package.toList ++ ['"']) := by simp [plainLine]
  have unquoted : ('"' :: (package.toList ++ ['"'])).filter (· ≠ '"') = package.toList := by
    simpa using fun c hc => (apart c hc).1
  have whole : package.toList.reverse.takeWhile (· ≠ '/') = package.toList.reverse := by
    simpa using fun c hc => (apart c hc).2
  rw [boundName, line, List.head?_cons, if_pos rfl, lastPart, line, unquoted, whole, List.reverse_reverse,
    String.ofList_toList]

theorem ownLine_chars (p : Package) :
    (ownLine p).toList = p.name.toList ++ ' ' :: '"' :: (p.effectiveImportPath.toList ++ ['"']) := by
  simp [ownLine]

/-- A name does not begin with a quote. -/
theorem ownLine_unquoted {p : Package} (hn : p.name ≠ "") (h : IsName p.name) :
    (ownLine p).toList.head? ≠ some '"' := by
  have nonempty : p.name.toList ≠ [] := fun e => hn (String.toList_injective e)
  rw [ownLine_chars, List.head?_append_of_ne_nil _ nonempty]
  intro quoted
  exact absurd (h '"' (List.mem_of_head? quoted)) (by decide)

theorem boundName_own {p : Package} (hn : p.name ≠ "") (h : IsName p.name) : boundName (ownLine p) = p.name := by
  have blank : ∀ c ∈ p.name.toList, decide (c ≠ ' ') = true := by
    intro c hc
    rw [decide_eq_true_eq]
    rintro rfl
    exact absurd (h ' ' hc) (by decide)
  rw [boundName, if_neg (ownLine_unquoted hn h), ownLine_chars, List.takeWhile_append_of_pos blank,
    List.takeWhile_cons_of_neg (by simp), List.append_nil, String.ofList_toList]

variable {p : Package} {g : Glue}

theorem mem_plainImports (h : ofPackage p = some g) (hn : p.name ≠ "")
    (formed : ∀ t ∈ p.takenTypes, t.WellFormed) {line : String} :
    line ∈ g.plainImports ↔
      line = plainLine "sync" ∨ line = plainLine "unsafe" ∨ ∃ q, Takes p q ∧ line = plainLine q := by
  obtain ⟨he, -⟩ := ofPackage_entries h
  have foreign : ∀ {path : String}, (∃ i ∈ g.imports, i.names = "" ∧ i.source = path) ↔ Takes p path := by
    intro path
    refine Iff.trans ?_ (mem_qualifiers he formed (q := .foreign path))
    constructor
    · rintro ⟨i, hi, names, rfl⟩
      obtain ⟨e, hm, q, hq, rfl⟩ := (mem_imports h).1 hi
      cases q with
      | own package =>
        obtain ⟨rfl, -⟩ := (mem_qualifiers he formed).1 ⟨e, hm, hq⟩
        exact absurd names hn
      | foreign package => exact ⟨e, hm, hq⟩
    · rintro ⟨e, hm, hq⟩
      exact ⟨_, (mem_imports h).2 ⟨e, hm, _, hq, rfl⟩, rfl, rfl⟩
  rw [GlueHead.plainImports, Text.mem_sortedSet]
  simp only [List.map_append, List.map_map, List.mem_append, List.mem_map, List.mem_filter, decide_eq_true_eq,
    Function.comp_apply, List.map_cons, List.map_nil, List.mem_cons, List.not_mem_nil, or_false, plainLine,
    ← foreign]
  constructor
  · rintro (⟨i, ⟨hi, names⟩, rfl⟩ | rfl | rfl)
    · exact .inr (.inr ⟨_, ⟨i, hi, names, rfl⟩, rfl⟩)
    · exact .inl rfl
    · exact .inr (.inl rfl)
  · rintro (rfl | rfl | ⟨_, ⟨i, hi, names, rfl⟩, rfl⟩)
    · exact .inr (.inl rfl)
    · exact .inr (.inr rfl)
    · exact .inl ⟨i, ⟨hi, names⟩, rfl⟩

/-- **The wrapped package is imported if anything of it can be called**, once and under its own name. -/
theorem namedImports_eq (h : ofPackage p = some g) (hn : p.name ≠ "")
    (formed : ∀ t ∈ p.takenTypes, t.WellFormed) :
    Emits p ∧ g.namedImports = [ownLine p] ∨ ¬ Emits p ∧ g.namedImports = [] := by
  obtain ⟨he, path⟩ := ofPackage_entries h
  have imported : Emits p ↔ ⟨p.name, p.effectiveImportPath⟩ ∈ g.imports.filter (·.names ≠ "") := by
    have needed := mem_qualifiers he formed (q := .own p.name)
    rw [List.mem_filter, mem_imports h, path]
    constructor
    · intro emitted
      obtain ⟨e, hm, hq⟩ := needed.2 ⟨rfl, emitted⟩
      exact ⟨⟨e, hm, _, hq, rfl⟩, by simpa using hn⟩
    · rintro ⟨⟨e, hm, q, hq, same⟩, -⟩
      cases q with
      | own package =>
        cases same
        exact (needed.1 ⟨e, hm, hq⟩).2
      | foreign package =>
        exact absurd (congrArg Import.names same) hn
  have one : ∀ i ∈ g.imports.filter (·.names ≠ ""), i = ⟨p.name, p.effectiveImportPath⟩ := by
    intro i hi
    obtain ⟨hi, names⟩ := List.mem_filter.1 hi
    exact named_import h i hi (by simpa using names)
  have nodup := (imports_nodup h).filter fun i => decide (i.names ≠ "")
  rw [GlueHead.namedImports, imported]
  generalize g.imports.filter (·.names ≠ "") = named at one nodup
  cases named with
  | nil => exact .inr ⟨by simp, rfl⟩
  | cons i rest =>
    cases one i List.mem_cons_self
    cases rest with
    | nil => exact .inl ⟨List.mem_cons_self, rfl⟩
    | cons j more =>
      -- a second import would be the same again
      rw [one j (by simp)] at nodup
      simp at nodup

theorem mem_importLines (h : ofPackage p = some g) (hn : p.name ≠ "")
    (formed : ∀ t ∈ p.takenTypes, t.WellFormed) {line : String} :
    line ∈ g.importLines ↔ line = plainLine "sync" ∨ line = plainLine "unsafe" ∨
      (Emits p ∧ line = ownLine p) ∨ ∃ q, Takes p q ∧ line = plainLine q := by
  rw [importLines, List.mem_append, mem_plainImports h hn formed]
  rcases namedImports_eq h hn formed with ⟨emitted, named⟩ | ⟨none, named⟩
  · rw [named, List.mem_singleton, or_assoc, or_assoc, or_comm (b := line = ownLine p)]
    simp [emitted]
  · simp [named, none]

theorem importLines_nodup (h : ofPackage p = some g) (hn : p.name ≠ "") (worded : Worded p) :
    g.importLines.Nodup := by
  have formed := worded.formed
  -- a plain import begins with a quote, and the other one with an identifier
  have apart : ownLine p ∉ g.plainImports := by
    intro plain
    refine ownLine_unquoted hn worded.own ?_
    rcases (mem_plainImports h hn formed).1 plain with e | e | ⟨q, -, e⟩ <;> simp [e, plainLine]
  refine g.plainImports_nodup.append ?_ ?_
  · rcases namedImports_eq h hn formed with ⟨-, named⟩ | ⟨-, named⟩ <;> simp [named]
  · rcases namedImports_eq h hn formed with ⟨-, named⟩ | ⟨-, named⟩ <;> simp [named, apart]

/-- The prelude uses both of the packages that are imported for it. -/
theorem prelude_spells : Spells "sync" preludeLayout ∧ Spells "unsafe" preludeLayout := by
  have lock : "handleMu" ++ "   " ++ ("sync" ++ "." ++ "RWMutex") ∈ Layout.linesAll preludeLayout := by
    simp [preludeLayout, Layout.linesAll, Layout.lines, handleTable]
  have release : "C.free(" ++ ("unsafe" ++ "." ++ "Pointer(s))") ∈ Layout.linesAll preludeLayout := by
    simp [preludeLayout, Layout.linesAll, Layout.lines, Layout.braced, routines, Routine.layout]
  exact ⟨⟨_, lock, (Text.qualifies_here _ _).behind (by decide) _⟩,
    ⟨_, release, (Text.qualifies_here _ _).after (by decide)⟩⟩

/-! ## The block as a whole -/

/-- The import block of the glue of a package covers the file exactly, where the emitter takes the given steps. -/
structure ImportsExactly (p : Package) (g : Glue) (steps : List Writer.Step) : Prop where
  /-- In the part of each entry point, the packages are asked for that it spells, save that the wrapped one may have
  been asked for before; as a whole, what is asked for is what is spelled. -/
  emits : Go.Emits p steps g.entries
  imports : ∀ i, i ∈ g.imports ↔ i ∈ Writer.asked steps
  /-- Every package that an entry point refers to is bound by a line. -/
  bound : ∀ e ∈ g.entries, ∀ q ∈ e.qualifiers, ∃ line ∈ g.importLines, boundName line = q.text
  /-- What stands before a dot in the text of an entry point is bound by a line, unless it is the package `C` or one
  of the locals that have members. -/
  written : ∀ e ∈ g.entries, ∀ text ∈ Layout.linesAll e.layout, ∀ n, IsName n → Qualifies n text →
    n ∈ ["C", "_obj", "_recv", "_err"] ∨ ∃ line ∈ g.importLines, boundName line = n
  /-- Every line binds a name that the prelude or an entry point uses. -/
  used : ∀ line ∈ g.importLines, Spells (boundName line) preludeLayout ∨
    ∃ e ∈ g.entries, (∃ q ∈ e.qualifiers, q.text = boundName line) ∧ Spells (boundName line) e.layout
  nodup : g.importLines.Nodup
  /-- There is a line for the prelude's packages, for the wrapped one if anything of it is emitted, and for each
  package that a parameter takes a struct of. -/
  lines : ∀ line, line ∈ g.importLines ↔ line = plainLine "sync" ∨ line = plainLine "unsafe" ∨
    (Emits p ∧ line = ownLine p) ∨ ∃ q, Takes p q ∧ line = plainLine q
  wrapped : ownLine p ∈ g.importLines ↔ Emits p

theorem boundName_taken (worded : Worded p) {q : String} (h : Takes p q) : boundName (plainLine q) = q := by
  obtain ⟨receiver, invoke, plan, serves, s, hs, n, hn, -, package⟩ := h
  exact boundName_foreign (worded.package ((serves_laid serves).types _ (List.mem_map_of_mem hs)) hn q package)

/-- What is needed is bound by a line. -/
theorem needed_bound (h : ofPackage p = some g) (hn : p.name ≠ "") (worded : Worded p) {q : Qualifier}
    (needed : Needs p q) : ∃ line ∈ g.importLines, boundName line = q.text := by
  have lines := @mem_importLines p g h hn worded.formed
  cases q with
  | own package =>
    obtain ⟨rfl, emitted⟩ := needed
    exact ⟨_, lines.2 (.inr (.inr (.inl ⟨emitted, rfl⟩))), boundName_own hn worded.own⟩
  | foreign package =>
    exact ⟨_, lines.2 (.inr (.inr (.inr ⟨package, needed, rfl⟩))), boundName_taken worded needed⟩

theorem importsExactly (h : ofPackage p = some g) {e : Emission Writer.Step Unit} (emitted : emission p = some e)
    (hn : p.name ≠ "") (worded : Worded p) : ImportsExactly p g e.steps := by
  obtain ⟨he, path⟩ := ofPackage_entries h
  have emits := emits_of emitted he
  have asked (i : Import) : i ∈ g.imports ↔ i ∈ Writer.asked e.steps := by
    rw [mem_imports h, emits.asked, path]
    simp only [eq_comm]
  have lines := @mem_importLines p g h hn worded.formed
  have referred := @mem_qualifiers p g.entries he worded.formed
  have bound : ∀ e ∈ g.entries, ∀ q ∈ e.qualifiers, ∃ line ∈ g.importLines, boundName line = q.text :=
    fun e hm q hq => needed_bound h hn worded (referred.1 ⟨e, hm, hq⟩)
  have bindsUnsafe : boundName (plainLine "unsafe") = "unsafe" := by decide +kernel
  refine ⟨emits, asked, bound, ?written, ?used, importLines_nodup h hn worded, fun line => lines, ?wrapped⟩
  case written =>
    intro e hm text ht n name qualifies
    have legible : e.Legible := entries_legible worded he e hm
    rcases Entry.layout_clean legible text ht n name qualifies with object | ⟨q, hq, rfl⟩
    · by_cases package : n = "unsafe"
      · exact .inr ⟨_, lines.2 (.inr (.inl rfl)), package ▸ bindsUnsafe⟩
      · exact .inl (by simp_all [glueObjects])
    · exact .inr (bound e hm q hq)
  case used =>
    have spelled : ∀ q, Needs p q →
        ∃ e ∈ g.entries, (∃ q' ∈ e.qualifiers, q'.text = q.text) ∧ Spells q.text e.layout := by
      intro q needed
      obtain ⟨e, hm, hq⟩ := referred.2 needed
      exact ⟨e, hm, ⟨q, hq, rfl⟩, Entry.layout_qualifies hq⟩
    intro line hl
    rcases lines.1 hl with rfl | rfl | ⟨emitted, rfl⟩ | ⟨q, takes, rfl⟩
    · have bindsSync : boundName (plainLine "sync") = "sync" := by decide +kernel
      exact .inl (bindsSync ▸ prelude_spells.1)
    · exact .inl (bindsUnsafe ▸ prelude_spells.2)
    · rw [boundName_own hn worded.own]
      exact .inr (spelled (.own p.name) ⟨rfl, emitted⟩)
    · rw [boundName_taken worded takes]
      exact .inr (spelled (.foreign q) takes)
  case wrapped =>
    refine ⟨fun hl => ?_, fun emitted => lines.2 (.inr (.inr (.inl ⟨emitted, rfl⟩)))⟩
    have plain : ∀ q, ownLine p ≠ plainLine q := by
      intro q e
      exact ownLine_unquoted hn worded.own (by simp [e, plainLine])
    rcases lines.1 hl with e | e | ⟨emitted, -⟩ | ⟨q, -, e⟩
    · exact absurd e (plain _)
    · exact absurd e (plain _)
    · exact emitted
    · exact absurd e (plain q)

theorem worded_extraction {opts : ExtractOptions} {dir : String} {sources : List (String × String)} {x : Extraction}
    (h : (extract opts dir sources).1 = .ok x) (path : String) : Worded (x.withImportPath path).package := by
  have named := (extracted_named h).imp fun _ => IsWord.isName
  have formed : ∀ t ∈ x.package.takenTypes, t.WellFormed :=
    fun t ht => extracted_wellFormed h t (takenTypes_subset x.package ht)
  exact ⟨(extracted_word h).isName, ⟨named.functions, named.structs, named.types⟩, formed⟩

/-- **The import block covers the file exactly**, for every extracted package whose glue is finished, whatever the
path that it is imported from. -/
theorem imports_exact {opts : ExtractOptions} {dir : String} {sources : List (String × String)}
    {x : Extraction} (h : (extract opts dir sources).1 = .ok x) {path : String} {e : Emission Writer.Step Unit}
    (he : emission (x.withImportPath path).package = some e) :
    ∃ g, ofPackage (x.withImportPath path).package = some g ∧
      g.text = fileOf (x.withImportPath path).package e.steps ∧
      ImportsExactly (x.withImportPath path).package g e.steps := by
  obtain ⟨g, made, text⟩ := ofPackage_of_emission he
  exact ⟨g, made, text, importsExactly made he (extracted_word h).1 (worded_extraction h path)⟩

/-- A function that takes structs of two other packages, one of them inside a map, and returns one of a third. -/
def agenda : List (String × String) :=
  [("a.go", "package agenda\n\nfunc Plan(at time.Time, spots map[string][]*geo.Spot) net.IP { return nil }\n")]

theorem imports_exact_agenda :
    ∃ x e g, (extract ⟨false, false⟩ "" agenda).1 = .ok x ∧
      emission (x.withImportPath "example.com/agenda").package = some e ∧
      ofPackage (x.withImportPath "example.com/agenda").package = some g ∧
      g.importLines = ["\"geo\"", "\"sync\"", "\"time\"", "\"unsafe\"", "agenda \"example.com/agenda\""] ∧
      ImportsExactly (x.withImportPath "example.com/agenda").package g e.steps := by
  have seen : ((extract ⟨false, false⟩ "" agenda).1.toOption.bind fun x =>
      (ofPackage (x.withImportPath "example.com/agenda").package).map (·.importLines))
      = some ["\"geo\"", "\"sync\"", "\"time\"", "\"unsafe\"", "agenda \"example.com/agenda\""] := by
    decide +kernel
  obtain ⟨x, hx, made⟩ := Option.bind_eq_some_iff.1 seen
  obtain ⟨g, hg, lines⟩ := Option.map_eq_some_iff.1 made
  have extracted := ok_of_toOption hx
  obtain ⟨es, e, -, emitted, -⟩ := ofPackage_eq_some_iff.1 hg
  obtain ⟨g', hg', -, exact⟩ := imports_exact extracted emitted
  cases hg.symm.trans hg'
  exact ⟨x, e, g, extracted, emitted, hg, lines, exact⟩

end Glue

end GoGlue
