import GoGlue.Extraction
import Mathlib.Data.List.Basic

/-!
# Extraction as a walk

Extraction in one pass: a builder goes through files, declarations, the types of a declaration and the
fields of a struct, and a symbol that cannot cross the boundary is either recorded or ends the walk at
once, however deep inside the loops it stands. The walk does the same as collecting the items of all
declarations first: every loop feeds the builder with the items of what it goes through, in order.

* `walkFiles_eq`: the nested loops are one loop over the items of the files.
* `run_lenient`, `run_strict`: what that loop leaves behind, and where it stops.
* `extract_eq_walk`: extraction is the walk.
-/
namespace GoGlue.Extraction

/-- What a walk has collected, and the records it made. -/
structure Builder where
  functions : List Func
  structs : List Struct
  methods : List Method
  dropped : List Dropped
  log : List LogRecord

namespace Builder

def start : Builder := ⟨[], [], [], [], []⟩

/-! ## One step -/

/-- Leave a symbol out: a strict walk ends here. -/
def drop (opts : ExtractOptions) (b : Builder) (d : Dropped) : Except ExtractError Builder :=
  if opts.strict then .error (.unsupported d.symbol d.cause)
  else
    .ok { b with dropped := b.dropped ++ [d], log := b.log ++ [droppedRecord opts.verbose d] }

/-- Take an item in. -/
def add (opts : ExtractOptions) (b : Builder) : Item → Except ExtractError Builder
  | .func f => .ok { b with functions := b.functions ++ [f] }
  | .struct s => .ok { b with structs := b.structs ++ [s] }
  | .method m => .ok { b with methods := b.methods ++ [m] }
  | .dropped d => b.drop opts d

/-! ## Loops -/

/-- The fields of a struct with the given name. -/
def walkFields (opts : ExtractOptions) (owner : String) (b : Builder) :
    List Field → Except ExtractError (List StructField × Builder)
  | [] => .ok ([], b)
  | f :: rest => do
    let b ← (structFields owner f).2.foldlM (drop opts) b
    let (more, b) ← walkFields opts owner b rest
    return ((structFields owner f).1 ++ more, b)

/-- One type of a type declaration. -/
def walkSpec (opts : ExtractOptions) (doc : String) (b : Builder) (s : TypeSpec) :
    Except ExtractError Builder :=
  match s.type with
  | .struct fields =>
    if s.isAlias || !isExported s.name then .ok b
    else if s.generic then b.drop opts ⟨s.name, .generic⟩
    else do
      let (found, b) ← walkFields opts s.name b fields
      return { b with
        structs := b.structs ++ [⟨s.name, if doc = "" then s.doc else doc, found, []⟩] }
  | _ => .ok b

def walkDecl (opts : ExtractOptions) (b : Builder) : Decl → Except ExtractError Builder
  | .func f =>
    match f.recv with
    | some recv => (methodItems recv f).foldlM (add opts) b
    | none => (funcItems f).foldlM (add opts) b
  | .type t => t.specs.foldlM (walkSpec opts t.doc) b

def walkFile (opts : ExtractOptions) (b : Builder) (f : String × SourceFile) :
    Except ExtractError Builder := f.2.decls.foldlM (walkDecl opts) b

def walkFiles (opts : ExtractOptions) (b : Builder) (files : List (String × SourceFile)) :
    Except ExtractError Builder := files.foldlM (walkFile opts) b

/-! ## The loops as one -/

/-- The items of a file, in order. -/
def fileItems (f : String × SourceFile) : List Item := f.2.decls.flatMap declItems

/-- A loop whose rounds are loops is one loop over what they all go through. -/
theorem foldlM_flatMap {α β γ ε : Type} {f : γ → α → Except ε γ} {g : γ → β → Except ε γ}
    {items : α → List β} (h : ∀ b x, f b x = (items x).foldlM g b) (xs : List α) (b : γ) :
    xs.foldlM f b = (xs.flatMap items).foldlM g b := by
  induction xs generalizing b with
  | nil => rfl
  | cons x rest ih =>
    rw [List.foldlM_cons, List.flatMap_cons, List.foldlM_append, h b x]
    congr 1
    funext b'
    exact ih b'

theorem foldlM_drop (opts : ExtractOptions) (ds : List Dropped) (b : Builder) :
    ds.foldlM (drop opts) b = (ds.map Item.dropped).foldlM (add opts) b := by
  rw [List.foldlM_map]
  rfl

/-- The fields of a struct contribute what can be resolved, and feed the builder with the rest. -/
theorem walkFields_eq (opts : ExtractOptions) (owner : String) (b : Builder) (fs : List Field) :
    walkFields opts owner b fs
      = (((fs.map (structFields owner)).flatMap (·.2)).map Item.dropped).foldlM (add opts) b
        >>= fun b => .ok ((fs.map (structFields owner)).flatMap (·.1), b) := by
  induction fs generalizing b with
  | nil => rfl
  | cons f rest ih =>
    rw [walkFields, List.map_cons, List.flatMap_cons, List.flatMap_cons, List.map_append,
      List.foldlM_append, foldlM_drop, bind_assoc]
    congr 1
    funext b'
    rw [ih b', bind_assoc]
    rfl

theorem walkSpec_eq (opts : ExtractOptions) (doc : String) (b : Builder) (s : TypeSpec) :
    walkSpec opts doc b s = (specItems doc s).foldlM (add opts) b := by
  unfold walkSpec specItems
  cases s.type with
  | struct fields =>
    simp only
    by_cases hs : (s.isAlias || !isExported s.name) = true
    · rw [if_pos hs, if_pos hs]
      rfl
    · rw [if_neg hs, if_neg hs]
      by_cases hg : s.generic = true
      · rw [if_pos hg, if_pos hg, List.foldlM_cons]
        exact (bind_pure _).symm
      · rw [if_neg hg, if_neg hg, walkFields_eq, List.foldlM_append, bind_assoc]
        rfl
  | _ => rfl

theorem walkDecl_eq (opts : ExtractOptions) (b : Builder) (d : Decl) :
    walkDecl opts b d = (declItems d).foldlM (add opts) b := by
  cases d with
  | func f => cases hr : f.recv <;> simp only [walkDecl, declItems, hr]
  | type t => exact foldlM_flatMap (walkSpec_eq opts t.doc) t.specs b

/-- **One loop.** The walk through the files feeds the builder with their items. -/
theorem walkFiles_eq (opts : ExtractOptions) (b : Builder) (files : List (String × SourceFile)) :
    walkFiles opts b files = (files.flatMap fileItems).foldlM (add opts) b :=
  foldlM_flatMap (fun b f => foldlM_flatMap (walkDecl_eq opts) f.2.decls b) files b

/-! ## What the loop leaves behind -/

/-- The builder after it took all items in. -/
def extend (verbose : Bool) (b : Builder) (items : List Item) : Builder where
  functions := b.functions ++ items.filterMap Item.func?
  structs := b.structs ++ items.filterMap Item.struct?
  methods := b.methods ++ items.filterMap Item.method?
  dropped := b.dropped ++ items.filterMap Item.dropped?
  log := b.log ++ (items.filterMap Item.dropped?).map (droppedRecord verbose)

theorem extend_nil (verbose : Bool) (b : Builder) : b.extend verbose [] = b := by simp [extend]

theorem extend_cons (verbose : Bool) (b : Builder) (i : Item) (rest : List Item) :
    (b.extend verbose [i]).extend verbose rest = b.extend verbose (i :: rest) := by
  simp only [extend, List.append_assoc, ← List.map_append, ← List.filterMap_append,
    List.singleton_append]

/-- **A lenient step** takes the item in. -/
theorem add_lenient (verbose : Bool) (b : Builder) (i : Item) :
    b.add ⟨verbose, false⟩ i = .ok (b.extend verbose [i]) := by
  cases i <;>
    simp [add, drop, extend, List.filterMap_cons, Item.func?, Item.struct?, Item.method?,
      Item.dropped?]

/-- **A strict step** takes the item in, unless it is left out. -/
theorem add_strict (verbose : Bool) (b : Builder) (i : Item) :
    b.add ⟨verbose, true⟩ i
      = match i.dropped? with
        | none => .ok (b.extend verbose [i])
        | some d => .error (.unsupported d.symbol d.cause) := by
  cases i <;>
    simp [add, drop, extend, List.filterMap_cons, Item.func?, Item.struct?, Item.method?,
      Item.dropped?]

/-- **A lenient run** takes every item in. -/
theorem run_lenient (verbose : Bool) (b : Builder) (items : List Item) :
    items.foldlM (add ⟨verbose, false⟩) b = .ok (b.extend verbose items) := by
  induction items generalizing b with
  | nil => rw [extend_nil]; rfl
  | cons i rest ih =>
    rw [List.foldlM_cons, add_lenient, ← extend_cons verbose b i rest]
    exact ih _

/-- **A strict run** ends at the first symbol that is left out, and is a lenient one otherwise. -/
theorem run_strict (verbose : Bool) (b : Builder) (items : List Item) :
    items.foldlM (add ⟨verbose, true⟩) b
      = match items.filterMap Item.dropped? with
        | [] => .ok (b.extend verbose items)
        | d :: _ => .error (.unsupported d.symbol d.cause) := by
  induction items generalizing b with
  | nil => rw [extend_nil]; rfl
  | cons i rest ih =>
    rw [List.foldlM_cons, add_strict]
    cases hd : i.dropped? with
    | none =>
      rw [List.filterMap_cons_none hd, ← extend_cons verbose b i rest]
      exact ih _
    | some d =>
      rw [List.filterMap_cons_some hd]
      rfl

/-! ## Extraction -/

/-- The package that a walk put together, with the files it went through. -/
def finish (b : Builder) (dir name : String) (files : List String) : Extraction :=
  ⟨⟨name, "", dir, b.functions, attach b.methods [] b.structs⟩, files, b.dropped⟩

/-- Extract a package in one walk. -/
def extract (opts : ExtractOptions) (dir : String) (sources : List (String × String)) :
    Except ExtractError Extraction × List LogRecord :=
  match readSources sources >>= selectPackage dir with
  | .error e => (.error e, [])
  | .ok (name, files) =>
    match walkFiles opts start files with
    | .error e => (.error e, [])
    | .ok b =>
      let result := b.finish dir name (files.map (·.1))
      (.ok result, b.log ++ strayRecords result.package.structs b.methods)

theorem finish_extend (verbose : Bool) (items : List Item) (dir name : String)
    (files : List String) :
    (start.extend verbose items).finish dir name files = ofItems dir name files items := by
  simp [finish, extend, start, ofItems]

end Builder

/-- **Extraction is the walk.** Collecting the items first, and refusing what was dropped at the end, gives
the same result and the same records as a walk that ends at the first dropped symbol. -/
theorem extract_eq_walk (opts : ExtractOptions) (dir : String) (sources : List (String × String)) :
    extract opts dir sources = Builder.extract opts dir sources := by
  unfold extract Builder.extract
  cases readSources sources with
  | error e => rfl
  | ok parsed =>
    simp only [bind, Except.bind]
    cases selectPackage dir parsed with
    | error e => rfl
    | ok selected =>
      obtain ⟨name, files⟩ := selected
      obtain ⟨verbose, strict⟩ := opts
      have collected : (files.flatMap fun f => f.2.decls.flatMap declItems)
          = files.flatMap Builder.fileItems := rfl
      simp only [Builder.walkFiles_eq, collected]
      generalize files.flatMap Builder.fileItems = items
      have dropped : (ofItems dir name (files.map (·.1)) items).dropped
          = items.filterMap Item.dropped? := rfl
      cases strict with
      | false =>
        simp only [Builder.run_lenient, Builder.finish_extend]
        rfl
      | true =>
        rw [Builder.run_strict, dropped]
        cases hd : items.filterMap Item.dropped? with
        | cons d rest => rfl
        | nil =>
          simp only [Builder.finish_extend]
          simp [Builder.extend, Builder.start, hd]

end GoGlue.Extraction
