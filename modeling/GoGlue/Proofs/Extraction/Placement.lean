import GoGlue.Proofs.Extraction.Exported
import GoGlue.Proofs.GoType.WellFormed
import GoGlue.Proofs.Related

/-!
# The exported surface of a package

Extraction loses no exported symbol, holds none twice and adds none. Going through the declarations of the
selected files in order, every exported symbol that can cross the boundary is found in its place, and every
other one among the dropped symbols. Methods are the only symbols that do not stay where they are declared:
they go to the first struct with the name of their receiver.

* `attach_split`: the methods that a struct gets.
* `exported_exactly`: an extraction holds exactly the exported symbols of the files that it selected.
-/
namespace GoGlue.Extraction

/-! ## Methods and their structs -/

/-- A struct keeps all but its methods when these are attached. -/
theorem attach_structOf {ss : List Symbol} {structs : List Struct} (methods : List Method)
    (h : List.Forall₂ StructOf ss structs) (taken : List String) :
    List.Forall₂ StructOf ss (attach methods taken structs) := by
  induction h generalizing taken with
  | nil => exact .nil
  | cons h _ ih =>
    obtain ⟨name, doc, members⟩ := h
    exact .cons ⟨name, doc, members⟩ (ih _)

/-- **The methods of a struct** are those with its name as receiver, unless that name was taken before. -/
theorem attach_split {methods : List Method} {taken : List String} {structs before after : List Struct}
    {s : Struct} (h : attach methods taken structs = before ++ s :: after) :
    s.methods = if s.name ∈ taken ∨ s.name ∈ before.map (·.name) then []
      else methods.filter (·.receiverType = s.name) := by
  induction structs generalizing taken before with
  | nil => simp [attach] at h
  | cons t rest ih =>
    cases before with
    | nil =>
      simp only [attach, List.nil_append, List.cons.injEq] at h
      obtain ⟨rfl, -⟩ := h
      simp
    | cons b more =>
      simp only [attach, List.cons_append, List.cons.injEq] at h
      obtain ⟨rfl, h⟩ := h
      rw [ih h]
      simp [or_assoc, or_left_comm]

/-! ## The whole package -/

/-- The symbol is a method of the named type. -/
def Symbol.belongsTo (type : String) : Symbol → Bool
  | .method owner _ _ => owner.name = type
  | _ => false

/-- The extraction holds what becomes of the symbols, in order, and nothing else. -/
structure Exactly (ss : List Symbol) (x : Extraction) : Prop where
  functions : List.Forall₂ FuncOf (keptOf .func ss) x.package.functions
  structs : List.Forall₂ StructOf (keptOf .struct ss) x.package.structs
  methods : ∀ before s after, x.package.structs = before ++ s :: after →
    if s.name ∈ before.map (·.name) then s.methods = []
    else List.Forall₂ MethodOf ((keptOf .method ss).filter (·.belongsTo s.name)) s.methods
  dropped : List.Forall₂ LeftOut (unkept ss) x.dropped

theorem Holds.exactly {ss : List Symbol} {items : List Item} (h : Holds ss items) (dir name : String)
    (files : List String) : Exactly ss (ofItems dir name files items) := by
  refine ⟨h.functions, attach_structOf _ h.structs [], ?_, h.dropped⟩
  intro before s after split
  have methods := attach_split split
  simp only [List.not_mem_nil, false_or] at methods
  split
  · rename_i earlier
    rw [methods, if_pos earlier]
  · rename_i first
    rw [methods, if_neg first]
    refine List.rel_filter ?_ h.methods
    rintro _ m ⟨-, -, -, receiverType, -, -⟩
    simp [Symbol.belongsTo, receiverType]

/-- Every name in the package and every name of a dropped symbol is exported. -/
structure OnlyExported (x : Extraction) : Prop where
  functions : ∀ f ∈ x.package.functions, isExported f.name = true
  structs : ∀ s ∈ x.package.structs, isExported s.name = true ∧
    (∀ f ∈ s.fields, isExported f.name = true ∧ f.exported = true) ∧
    ∀ m ∈ s.methods, isExported m.name = true ∧ m.receiverType = s.name
  dropped : ∀ d ∈ x.dropped, ∃ s : Symbol, s.Exported ∧ d.symbol = s.name

theorem exported_symbols (d : Decl) : ∀ s ∈ symbols d, s.Exported := by
  intro s hs
  cases d with
  | func f =>
    simp only [symbols] at hs
    split at hs
    · split at hs
      · rename_i he
        rw [List.mem_singleton.1 hs]
        exact he
      · cases hs
    · split at hs
      · cases hs
      · split at hs
        · rename_i he
          rw [List.mem_singleton.1 hs]
          exact (Bool.and_eq_true_iff.1 he).symm
        · cases hs
  | type t =>
    obtain ⟨spec, -, hs⟩ := List.mem_flatMap.1 hs
    simp only [specSymbols] at hs
    split at hs
    · split at hs
      · rename_i he
        have visible := (Bool.and_eq_true_iff.1 he).1
        rcases List.mem_cons.1 hs with rfl | hs
        · exact visible
        · split at hs
          · cases hs
          · obtain ⟨f, -, name, -, rfl, hn⟩ := mem_fieldSymbols hs
            exact ⟨visible, hn⟩
      · cases hs
    · cases hs

theorem Exactly.method_symbol {ss : List Symbol} {x : Extraction} (h : Exactly ss x) {s : Struct}
    (hs : s ∈ x.package.structs) {m : Method} (hm : m ∈ s.methods) :
    ∃ symbol ∈ keptOf .method ss, symbol.belongsTo s.name = true ∧ MethodOf symbol m := by
  obtain ⟨before, after, split⟩ := List.append_of_mem hs
  have methods := h.methods before s after split
  split at methods
  · rw [methods] at hm
    cases hm
  · obtain ⟨symbol, hk, related⟩ := exists_related methods hm
    obtain ⟨hk, belongs⟩ := List.mem_filter.1 hk
    exact ⟨symbol, hk, belongs, related⟩

theorem Exactly.onlyExported {ss : List Symbol} {x : Extraction} (h : Exactly ss x)
    (he : ∀ s ∈ ss, s.Exported) : OnlyExported x := by
  refine ⟨?_, ?_, ?_⟩
  · intro f hf
    obtain ⟨s, hs, name, -, -⟩ := exists_related h.functions hf
    rw [name]
    exact he _ (List.mem_filter.1 hs).1
  · intro t ht
    obtain ⟨s, hs, name, -, members⟩ := exists_related h.structs ht
    have visible : isExported t.name = true := by
      rw [name]
      exact he _ (List.mem_filter.1 hs).1
    refine ⟨visible, ?_, ?_⟩
    · intro f hf
      obtain ⟨s, hs, related⟩ := exists_related members hf
      obtain ⟨_, -, _, -, rfl, hn⟩ := mem_fieldSymbols (List.mem_filter.1 hs).1
      cases related
      exact ⟨hn, rfl⟩
    · intro m hm
      obtain ⟨s, hk, belongs, name, -, -, receiverType, -, -⟩ := h.method_symbol ht hm
      refine ⟨?_, by rw [receiverType]; simpa [Symbol.belongsTo] using belongs⟩
      rw [name]
      exact (he _ (List.mem_filter.1 hk).1).2
  · intro d hd
    obtain ⟨s, hs, name, -⟩ := exists_related h.dropped hd
    exact ⟨s, he s (List.mem_filter.1 hs).1, name⟩

/-- The symbols that files export. -/
def exportedBy (files : List (String × SourceFile)) : List Symbol :=
  files.flatMap fun f => f.2.decls.flatMap symbols

/-- A whole run: the items of files hold what becomes of the symbols that they export. -/
theorem fileItems_holds (files : List (String × SourceFile)) :
    Holds (exportedBy files) (files.flatMap Builder.fileItems) :=
  .flatMap (g := Builder.fileItems) (fun f => .flatMap declItems_holds f.2.decls) files

theorem exported_exportedBy (files : List (String × SourceFile)) :
    ∀ s ∈ exportedBy files, s.Exported := by
  intro s hs
  obtain ⟨f, -, hs⟩ := List.mem_flatMap.1 hs
  obtain ⟨d, -, hs⟩ := List.mem_flatMap.1 hs
  exact exported_symbols d s hs

/-- What is extracted is exported. -/
theorem extracted_exported {opts : ExtractOptions} {dir : String} {sources : List (String × String)}
    {x : Extraction} (h : (extract opts dir sources).1 = .ok x) : OnlyExported x := by
  obtain ⟨read, name, files, -, -, rfl⟩ := extract_ok h
  exact ((fileItems_holds files).exactly dir name (files.map (·.1))).onlyExported
    (exported_exportedBy files)

/-- **Extraction keeps exactly the exported surface.** The symbols that the selected files export are found
in their order: each that can cross the boundary once and in its place, every other one once among the
dropped symbols. A method goes to the first struct with the name of its receiver, or nowhere if there is
none. Nothing that is not exported is found. -/
theorem exported_exactly {verbose : Bool} {dir : String} {sources : List (String × String)}
    {x : Extraction} (h : (extract ⟨verbose, false⟩ dir sources).1 = .ok x) :
    ∃ read files, ReadAs sources read ∧ Selected read x.package.name files ∧
      x.files = files.map (·.1) ∧ Exactly (exportedBy files) x ∧ OnlyExported x := by
  obtain ⟨read, name, files, hr, hs, rfl⟩ := extract_ok h
  have exactly := (fileItems_holds files).exactly dir name (files.map (·.1))
  exact ⟨read, files, hr, hs, rfl, exactly, exactly.onlyExported (exported_exportedBy files)⟩

/-- A struct whose methods stand in another file, a field of several names, an embedded one, and symbols
that cannot cross the boundary. -/
def spots : List (String × String) :=
  [("a.go", "package p\nfunc (s *Spot) Move() {}\nfunc (s Spot) Wait(c chan int) {}\n"),
    ("b.go", "package p\ntype Spot struct { X, y, Z int; C chan int; *Base }\nfunc Map[T any]() {}\n")]

theorem spots_extracted :
    ∃ x, (extract ⟨false, false⟩ "" spots).1 = .ok x ∧
      x.package.structs.map (fun s => (s.name :: s.fields.map (·.name), s.methods.map (·.name)))
        = [(["Spot", "X", "Z", "Base"], ["Move"])] ∧
      x.dropped.map (·.symbol) = ["Spot.Wait", "Spot.C", "Map"] := by
  have seen : (extract ⟨false, false⟩ "" spots).1.toOption.map (fun x =>
      (x.package.structs.map (fun s => (s.name :: s.fields.map (·.name), s.methods.map (·.name))),
        x.dropped.map (·.symbol)))
      = some ([(["Spot", "X", "Z", "Base"], ["Move"])], ["Spot.Wait", "Spot.C", "Map"]) := by
    decide +kernel
  obtain ⟨x, hx, shown⟩ := Option.map_eq_some_iff.1 seen
  obtain ⟨structs, dropped⟩ := Prod.mk.inj shown
  exact ⟨x, ok_of_toOption hx, structs, dropped⟩

theorem exported_exactly_spots :
    ∃ x, (extract ⟨false, false⟩ "" spots).1 = .ok x ∧
      x.package.structs.map (fun s => (s.name :: s.fields.map (·.name), s.methods.map (·.name)))
        = [(["Spot", "X", "Z", "Base"], ["Move"])] ∧
      x.dropped.map (·.symbol) = ["Spot.Wait", "Spot.C", "Map"] ∧
      ∃ read files, ReadAs spots read ∧ Selected read x.package.name files ∧
        x.files = files.map (·.1) ∧ Exactly (exportedBy files) x ∧ OnlyExported x := by
  obtain ⟨x, h, structs, dropped⟩ := spots_extracted
  exact ⟨x, h, structs, dropped, exported_exactly h⟩

end GoGlue.Extraction
