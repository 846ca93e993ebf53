import GoGlue.Proofs.Extraction.Placement
import Mathlib.Data.List.Perm.Basic

/-!
# The order of the files

What a package exports does not depend on the order in which its files are read. Methods are collected from
all files before they are given to structs, so a method finds its struct from anywhere, and two orders of the
same files differ in nothing but the order of what they find. This asks for structs of different names: of
two structs with one name, the first one gets the methods.

* `attach_eq_map`: structs of different names get their methods independently of each other.
* `ofItems_perm`: items in another order make the same package.
* `file_order_irrelevant`: the same files in another order.
-/
namespace GoGlue.Extraction

/-! ## Packages that differ in order -/

structure SameStruct (s t : Struct) : Prop where
  name : s.name = t.name
  doc : s.doc = t.doc
  fields : s.fields = t.fields
  methods : s.methods.Perm t.methods

/-- The same package, but for the order of what is in it. -/
structure SameSurface (x y : Extraction) : Prop where
  name : x.package.name = y.package.name
  functions : x.package.functions.Perm y.package.functions
  structs : ∃ ts, List.Forall₂ SameStruct x.package.structs ts ∧ ts.Perm y.package.structs
  dropped : x.dropped.Perm y.dropped

theorem attach_names (methods : List Method) (taken : List String) (structs : List Struct) :
    (attach methods taken structs).map (·.name) = structs.map (·.name) := by
  induction structs generalizing taken with
  | nil => rfl
  | cons s rest ih => simp [attach, ih]

/-- Give a struct the methods that have its name as receiver. -/
def withOwn (methods : List Method) (s : Struct) : Struct :=
  { s with methods := methods.filter (·.receiverType = s.name) }

theorem attach_eq_map {methods : List Method} {taken : List String} {structs : List Struct}
    (fresh : ∀ s ∈ structs, s.name ∉ taken) (distinct : (structs.map (·.name)).Nodup) :
    attach methods taken structs = structs.map (withOwn methods) := by
  induction structs generalizing taken with
  | nil => rfl
  | cons s rest ih =>
    obtain ⟨first, others⟩ := List.nodup_cons.1 distinct
    have more : ∀ t ∈ rest, t.name ∉ s.name :: taken := by
      intro t ht
      rw [List.mem_cons, not_or]
      refine ⟨?_, fresh t (List.mem_cons_of_mem s ht)⟩
      intro same
      exact first (List.mem_map.2 ⟨t, ht, same⟩)
    rw [attach, ih more others, if_neg (fresh s List.mem_cons_self)]
    rfl

/-- **Items in another order** make the same package. -/
theorem ofItems_perm {items shuffled : List Item} (perm : items.Perm shuffled) (dir name : String)
    (files moved : List String)
    (distinct : ((items.filterMap Item.struct?).map (·.name)).Nodup) :
    SameSurface (ofItems dir name files items) (ofItems dir name moved shuffled) := by
  have structs := perm.filterMap Item.struct?
  have methods := perm.filterMap Item.method?
  have distinct' := (structs.map (·.name)).nodup_iff.1 distinct
  refine ⟨rfl, perm.filterMap _, ?_, perm.filterMap _⟩
  simp only [ofItems]
  rw [attach_eq_map (by simp) distinct, attach_eq_map (by simp) distinct']
  refine ⟨(items.filterMap Item.struct?).map (withOwn (shuffled.filterMap Item.method?)), ?_,
    structs.map _⟩
  rw [List.forall₂_map_left_iff, List.forall₂_map_right_iff, List.forall₂_same]
  exact fun s _ => ⟨rfl, rfl, rfl, methods.filter _⟩

/-! ## Sources of one package -/

/-- Every source that is read declares that package. -/
def Declare (package : String) (sources : List (String × String)) : Prop :=
  ∀ s ∈ sources, isPackageSource s.1 = true →
    ∀ file, SourceFile.parse s.2 = .ok file → file.package = package

theorem Declare.read {package : String} {sources : List (String × String)}
    {read : List (String × SourceFile)} (same : Declare package sources) (h : ReadAs sources read) :
    ∀ f ∈ read, f.2.package = package := by
  intro f hf
  obtain ⟨s, hs, -, parsed⟩ := exists_related h hf
  obtain ⟨hs, counts⟩ := List.mem_filter.1 hs
  exact same s hs counts f.2 parsed

/-- Files of one package are all selected, unless it is a test package. -/
theorem selected_uniform {package name : String} {read files : List (String × SourceFile)}
    (same : ∀ f ∈ read, f.2.package = package) :
    Selected read name files
      ↔ read ≠ [] ∧ name = package ∧ package.endsWith "_test" = false ∧ files = read := by
  have all : read.filter (·.2.package = package) = read :=
    List.filter_eq_self.2 fun f hf => by simpa using same f hf
  constructor
  · rintro ⟨⟨before, file, after, rfl, rfl, plain, -⟩, rfl⟩
    have := same file (by simp)
    exact ⟨by simp, this, this ▸ plain, by rw [this, all]⟩
  · rintro ⟨nonempty, rfl, plain, rfl⟩
    obtain ⟨file, rest, rfl⟩ := List.exists_cons_of_ne_nil nonempty
    exact ⟨⟨[], file, rest, rfl, same file List.mem_cons_self, plain, by simp⟩, all.symm⟩

/-- The sources in another order give the files in another order. -/
theorem ReadAs.perm {sources shuffled : List (String × String)} {read : List (String × SourceFile)}
    (h : ReadAs sources read) (perm : sources.Perm shuffled) :
    ∃ moved, ReadAs shuffled moved ∧ read.Perm moved := by
  obtain ⟨moved, hm, hp⟩ := List.perm_comp_forall₂ (perm.symm.filter _) h
  exact ⟨moved, hm, hp.symm⟩

/-- Every method of the sources that can be called is with the struct that its receiver names. -/
def AttachesAll (sources : List (String × String)) (x : Extraction) : Prop :=
  ∀ s ∈ sources, isPackageSource s.1 = true → ∀ file, SourceFile.parse s.2 = .ok file →
    ∀ m ∈ file.decls.flatMap symbols, m.kind = .method → m.Kept →
      ∀ t ∈ x.package.structs, m.belongsTo t.name = true → ∃ g ∈ t.methods, MethodOf m g

theorem Exactly.attachesAll {sources : List (String × String)} {read : List (String × SourceFile)}
    {x : Extraction} (h : Exactly (exportedBy read) x) (hr : ReadAs sources read)
    (distinct : (x.package.structs.map (·.name)).Nodup) : AttachesAll sources x := by
  intro s hs counts file parsed m hm kind kept t ht belongs
  have found : m ∈ exportedBy read := by
    obtain ⟨f, hf, -, hp⟩ := exists_related_right hr (List.mem_filter.2 ⟨hs, counts⟩)
    rw [parsed] at hp
    cases hp
    exact List.mem_flatMap.2 ⟨f, hf, hm⟩
  obtain ⟨before, after, split⟩ := List.append_of_mem ht
  have first : t.name ∉ before.map (·.name) := by
    rw [split, List.map_append, List.map_cons] at distinct
    exact fun hb => (List.nodup_append.1 distinct).2.2 _ hb _ List.mem_cons_self rfl
  have methods := h.methods before t after split
  rw [if_neg first] at methods
  refine exists_related_right methods (List.mem_filter.2 ⟨?_, belongs⟩)
  exact List.mem_filter.2 ⟨found, by simp [kind, kept]⟩

/-- What is made of the files of one package. -/
def ofFiles (dir package : String) (read : List (String × SourceFile)) : Extraction :=
  ofItems dir package (read.map (·.1)) (read.flatMap Builder.fileItems)

/-- Sources of one package that can be extracted can be so in another order. -/
theorem extract_shuffled {verbose : Bool} {dir package : String}
    {sources shuffled : List (String × String)} (perm : sources.Perm shuffled)
    (same : Declare package sources) {x : Extraction}
    (h : (extract ⟨verbose, false⟩ dir sources).1 = .ok x) :
    ∃ read moved, ReadAs sources read ∧ ReadAs shuffled moved ∧ read.Perm moved ∧
      x = ofFiles dir package read ∧
      (extract ⟨verbose, false⟩ dir shuffled).1 = .ok (ofFiles dir package moved) := by
  obtain ⟨read, name, files, hr, hs, rfl⟩ := extract_ok h
  obtain ⟨nonempty, rfl, plain, rfl⟩ := (selected_uniform (same.read hr)).1 hs
  obtain ⟨moved, hm, hp⟩ := hr.perm perm
  have all : ∀ f ∈ moved, f.2.package = name := fun f hf => same.read hr f (hp.mem_iff.2 hf)
  have selected : Selected moved name moved :=
    (selected_uniform all).2 ⟨fun hn => nonempty (hn ▸ hp).eq_nil, rfl, plain, rfl⟩
  exact ⟨files, moved, hr, hm, hp, rfl, extract_lenient_ok hm selected⟩

/-- **The order of the files does not matter.** Sources of one package can be extracted in every order or in
none. In another order there are the same functions, dropped symbols and structs, each struct with the same
methods, and every method is with its struct, whichever of the two was read first. -/
theorem file_order_irrelevant {verbose : Bool} {dir package : String}
    {sources shuffled : List (String × String)} (perm : sources.Perm shuffled)
    (same : Declare package sources)
    (distinct : ∀ x, (extract ⟨verbose, false⟩ dir sources).1 = .ok x →
      (x.package.structs.map (·.name)).Nodup) :
    match (extract ⟨verbose, false⟩ dir sources).1, (extract ⟨verbose, false⟩ dir shuffled).1 with
    | .ok x, .ok y => SameSurface x y ∧ AttachesAll sources x ∧ AttachesAll sources y
    | .error _, .error _ => True
    | _, _ => False := by
  cases hx : (extract ⟨verbose, false⟩ dir sources).1 with
  | error e =>
    cases hy : (extract ⟨verbose, false⟩ dir shuffled).1 with
    | error e' => trivial
    | ok y =>
      have same' : Declare package shuffled := fun s hs => same s (perm.mem_iff.2 hs)
      obtain ⟨_, _, -, -, -, -, found⟩ := extract_shuffled perm.symm same' hy
      rw [hx] at found
      cases found
  | ok x =>
    obtain ⟨read, moved, hr, hm, hp, rfl, hy⟩ := extract_shuffled perm same hx
    rw [hy]
    have distinct' : ((read.flatMap Builder.fileItems).filterMap Item.struct?
        |>.map (·.name)).Nodup := by
      rw [← attach_names _ []]
      exact distinct _ hx
    have items := hp.flatMap_right Builder.fileItems
    have moved' : ((ofFiles dir package moved).package.structs.map (·.name)).Nodup := by
      rw [ofFiles, ofItems, attach_names]
      exact ((items.filterMap _).map _).nodup_iff.1 distinct'
    refine ⟨ofItems_perm items dir package _ _ distinct',
      Exactly.attachesAll ((fileItems_holds read).exactly _ _ _) hr (distinct _ hx), ?_⟩
    have attached := Exactly.attachesAll ((fileItems_holds moved).exactly dir package _) hm moved'
    exact fun s hs => attached s (perm.mem_iff.1 hs)

theorem spots_declare : Declare "p" spots := by
  have packages : spots.map (fun s => (SourceFile.parse s.2).toOption.map (·.package))
      = [some "p", some "p"] := by decide +kernel
  intro s hs _ file parsed
  have seen := List.mem_map_of_mem (f := fun s => (SourceFile.parse s.2).toOption.map (·.package)) hs
  rw [packages] at seen
  simpa [parsed, Except.toOption] using seen

/-- The methods of `Spot` can be read before or after it. -/
theorem file_order_irrelevant_spots :
    ∃ x y, (extract ⟨false, false⟩ "" spots).1 = .ok x ∧
      (extract ⟨false, false⟩ "" spots.reverse).1 = .ok y ∧ spots.Perm spots.reverse ∧
      Declare "p" spots ∧ (x.package.structs.map (·.name)).Nodup ∧
      SameSurface x y ∧ AttachesAll spots x ∧ AttachesAll spots y := by
  obtain ⟨x, hx, structs, -⟩ := spots_extracted
  have distinct : (x.package.structs.map (·.name)).Nodup := by
    obtain ⟨s, hs⟩ : ∃ s, x.package.structs = [s] :=
      List.length_eq_one_iff.1 (by simpa using congrArg List.length structs)
    simp [hs]
  have perm := (List.reverse_perm spots).symm
  have same := file_order_irrelevant perm spots_declare fun z hz => by
    rw [hx] at hz
    cases hz
    exact distinct
  cases hy : (extract ⟨false, false⟩ "" spots.reverse).1 with
  | error e =>
    rw [hx, hy] at same
    exact same.elim
  | ok y =>
    rw [hx, hy] at same
    exact ⟨x, y, hx, rfl, perm, spots_declare, distinct, same⟩

end GoGlue.Extraction
