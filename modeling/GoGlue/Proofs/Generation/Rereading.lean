import GoGlue.Proofs.Extraction.Sources
import GoGlue.Proofs.FileTree.Confined
import GoGlue.Proofs.FileTree.Span
import GoGlue.Proofs.Generation.Preparation

/-!
# What a run reads

To prepare, a run looks at its directory: at the files that are directly in it, the configuration among
them, and at the `go.mod` files on the way from the root to it. All of these are spelled shortly or stand
right in the directory. So a change that is confined to files further down is not noticed: another run
prepares the same files and says the same about it.

* `filesIn_eq`: the files of a directory are known from the contents of what stands in it.
* `importPath_alike`: an import path is known from what is near the root.
* `prepare_again`: a run prepares alike in a tree where nothing that it looks at has changed.
-/
namespace GoGlue

open FileTree

variable {t u : FileTree}

namespace FileTree

/-! ## The files of a directory -/

/-- The contents of the files that stand right in a directory. -/
def contentsIn (t : FileTree) (dir : Place) : Std.TreeMap Place ByteArray :=
  t.nodes.filterMap fun p n =>
    match n with
    | .file content => if p ≠ [] ∧ p.dropLast = dir then some content else none
    | .directory | .link _ => none

theorem contentsIn_getElem (t : FileTree) (dir p : Place) :
    (t.contentsIn dir)[p]? = if p ≠ [] ∧ p.dropLast = dir then t.content? p else none := by
  rw [contentsIn, Std.TreeMap.getElem?_filterMap']
  by_cases hp : p ≠ [] ∧ p.dropLast = dir
  · rw [if_pos hp, content?, node?, if_neg hp.1]
    cases t.nodes[p]? with
    | none => rfl
    | some n => cases n <;> simp [hp]
  · rw [if_neg hp]
    cases t.nodes[p]? with
    | none => rfl
    | some n => cases n <;> simp [hp]

theorem filesIn_contentsIn (t : FileTree) (dir : Place) :
    t.filesIn dir = (t.contentsIn dir).toList.filterMap fun f => f.1.getLast?.map (·, f.2) := by
  rw [filesIn, files, contentsIn, Std.TreeMap.toList_filterMap, List.filterMap_filterMap,
    List.filterMap_filterMap]
  congr 1
  funext f
  obtain ⟨p, n⟩ := f
  cases n with
  | directory | link => rfl
  | file content =>
    rcases List.eq_nil_or_concat p with rfl | ⟨front, name, rfl⟩
    · rfl
    · by_cases e : front = dir <;> simp [e]

/-- **The files of a directory are known from the contents of what stands in it.** -/
theorem filesIn_eq {dir : Place}
    (h : ∀ name, u.content? (dir ++ [name]) = t.content? (dir ++ [name])) :
    u.filesIn dir = t.filesIn dir := by
  have same : (u.contentsIn dir).Equiv (t.contentsIn dir) := by
    refine Std.TreeMap.Equiv.of_forall_constGet?_eq fun p => ?_
    rw [contentsIn_getElem, contentsIn_getElem]
    split
    · next below =>
      obtain ⟨nonempty, rfl⟩ := below
      have there := h (p.getLast nonempty)
      rwa [List.dropLast_concat_getLast nonempty] at there
    · rfl
  rw [filesIn_contentsIn, filesIn_contentsIn, same.toList_eq]

/-! ## Import paths -/

theorem goModPlace_span (dir : Place) : span (goModPlace dir) = span dir + 7 := by
  rw [goModPlace, span_append]
  rfl

theorem importPathUp_alike (plain : t.Linkless) (bare : u.Linkless) {n : Nat} (h : Alike n t u)
    (names : List String) (hn : span names + 7 ≤ n) : importPathUp? u names = importPathUp? t names := by
  have near (names : List String) (hn : span names + 7 ≤ n) :
      isModuleRoot u names.reverse = isModuleRoot t names.reverse ∧
        moduleAt? u names.reverse = moduleAt? t names.reverse := by
    have node := h (goModPlace names.reverse) (by rw [goModPlace_span, span_reverse]; exact hn)
    rw [isModuleRoot, isModuleRoot, moduleAt?, moduleAt?, plain.resolve, bare.resolve]
    simp only [isFileAt, lookup, bind, Except.bind, readAt, node, and_self]
  induction names with
  | nil =>
    obtain ⟨root, path⟩ := near [] hn
    rw [importPathUp?, importPathUp?]
    rw [List.reverse_nil] at root path
    rw [root, path]
  | cons name above ih =>
    obtain ⟨root, path⟩ := near (name :: above) hn
    rw [importPathUp?, importPathUp?, root, path, ih (by rw [span_cons] at hn; omega)]

/-- **An import path is known from what is near the root**, if there are no links. -/
theorem importPath_alike (plain : t.Linkless) (bare : u.Linkless) {n : Nat} (h : Alike n t u) {path : String}
    (ha : Path.isAbsolute path = true) (hn : path.length + 8 ≤ n) : importPath? u path = importPath? t path := by
  rw [importPath?, importPath?, locate_alike plain h ha (by omega)]
  cases hl : t.locate path with
  | error e => rfl
  | ok p =>
    have near := locate_span plain ha hl
    exact importPathUp_alike plain bare h _ (by rw [span_reverse]; omega)

/-! ## Changes that are not noticed -/

/-- A tree without links has grown, but not where a run looks that is about the directory at `d`. -/
structure Kept (d : Place) (t u : FileTree) : Prop where
  plain : t.Linkless
  grows : Grows t u
  contents : ∀ name, u.content? (d ++ [name]) = t.content? (d ++ [name])
  /-- Far enough for a `go.mod` behind the path of the directory, not for a directory of a plugin in it. -/
  near : Alike (span d + 9) t u

theorem isFile_iff {path : String} :
    t.isFile path = true ↔ ∃ p content, t.reach path = .ok p ∧ t.content? p = some content := by
  unfold isFile isFileAt lookup content?
  cases t.reach path with
  | error e => simp
  | ok p =>
    cases h : t.node? p with
    | none => simp [h]
    | some n => cases n <;> simp [h]

theorem read_ok {path : String} {p : Place} {content : ByteArray} (hr : t.reach path = .ok p)
    (hc : t.content? p = some content) : t.read path = decode content := by
  rw [read, hr]
  show t.readAt p = _
  rw [readAt, content?_eq_some.1 hc]

variable {d : Place} {dir name : String}

/-- One name leads from a directory into it, if something of that name is there. -/
theorem follow_name {e : Stage} (hd : t.follow dir = .ok e) (hn : Path.Single name) :
    t.follow (Path.join dir name) = t.enter maxLinks e name := by
  rw [follow_join t dir hn.plain, hd, segmentsOf_single hn]
  show t.walk maxLinks e [name] = _
  rw [walk_cons]
  cases t.enter maxLinks e name <;> rfl

/-- The same files stand in the directory. -/
theorem Kept.file_iff (h : Kept d t u) (hr : t.reach dir = .ok d) (hx : t.node? d = some .directory)
    (hn : Path.Single name) {p : Place} {content : ByteArray} :
    u.reach (Path.join dir name) = .ok p ∧ u.content? p = some content ↔
      t.reach (Path.join dir name) = .ok p ∧ t.content? p = some content := by
  have named := segmentsOf_isName hn.plain name (by simp [segmentsOf_single hn])
  obtain ⟨-, -, links, hd⟩ := reach_ok.1 hr
  constructor
  · rintro ⟨hu, hc⟩
    obtain ⟨path, length, left, followed⟩ := reach_ok.1 hu
    rw [follow_name (h.grows.follow hd) hn] at followed
    cases (h.grows.linkless h.plain).enter named followed
    rw [h.contents] at hc
    have there := solid_file (content?_eq_some.1 hc)
    have short := enter_checkName named followed
    refine ⟨reach_ok.2 ⟨path, length, links, ?_⟩, hc⟩
    rw [follow_name hd hn, enter_ok.2 (.name hx named short there)]
  · rintro ⟨ht, hc⟩
    obtain ⟨-, -, left, followed⟩ := reach_ok.1 ht
    rw [follow_name hd hn] at followed
    cases h.plain.enter named followed
    exact ⟨h.grows.reach ht, (h.contents name).trans hc⟩

/-- **The configuration of the directory is the same.** -/
theorem Kept.discover (h : Kept d t u) (hr : t.reach dir = .ok d) (hx : t.node? d = some .directory) :
    Config.discover u dir none = Config.discover t dir none := by
  have hn : Path.Single "gobridge.json" := by decide
  have same : u.isFile (Config.pathIn dir) = t.isFile (Config.pathIn dir) := by
    rw [Bool.eq_iff_iff, isFile_iff, isFile_iff]
    simp only [Config.pathIn, h.file_iff hr hx hn]
  cases file : t.isFile (Config.pathIn dir) with
  | false => rw [Config.discover_missing u dir (same.trans file), Config.discover_missing t dir file]
  | true =>
    obtain ⟨p, content, ht, hc⟩ := isFile_iff.1 file
    obtain ⟨hu, hc'⟩ := (h.file_iff hr hx hn).2 ⟨ht, hc⟩
    have loaded : Config.load u (Config.pathIn dir) = Config.load t (Config.pathIn dir) := by
      rw [Config.load, Config.load, read_ok ht hc, Config.pathIn, read_ok hu hc']
    simp only [Config.discover, same, file, loaded]

end FileTree

/-! ## Preparing again -/

variable {registry : Registry} {args : GenerateArgs} {d : Place}

/-- What can be extracted is in a directory, and the package knows its place. -/
theorem extractAt_ok {path : String} {opts : ExtractOptions} {x : Extraction}
    (h : (extractAt t path opts).1 = .ok x) :
    ∃ d, t.reach path = .ok d ∧ t.node? d = some .directory ∧ x.package.dir = d.path := by
  unfold extractAt at h
  split at h
  · cases h
  · next directory =>
    obtain ⟨d, hr, hx⟩ := isDirectory_iff.1 (by simpa using directory)
    rw [locate_of_reach hr] at h
    dsimp only at h
    split at h
    · cases h
    · obtain ⟨read, name, files, -, -, rfl⟩ := Extraction.extract_ok h
      exact ⟨d, hr, hx, rfl⟩

theorem extractAt_again (h : Kept d t u) {path : String} (hr : t.reach path = .ok d)
    (hx : t.node? d = some .directory) (opts : ExtractOptions) :
    extractAt u path opts = extractAt t path opts := by
  have located := locate_of_reach hr
  have directory := isDirectory_iff.2 ⟨d, hr, hx⟩
  unfold extractAt
  rw [directory, h.grows.isDirectory directory, located, h.grows.locate located]
  dsimp only
  rw [filesIn_eq h.contents]

theorem readPackage_again (h : Kept d t u) {path : String} (hr : t.reach path = .ok d)
    (hx : t.node? d = some .directory) (opts : ExtractOptions) (explicit : Option String) :
    readPackage u path opts explicit = readPackage t path opts explicit := by
  rw [readPackage, readPackage, extractAt_again h hr hx]
  refine Attempt.bind_congr fun x extracted => ?_
  obtain ⟨d', hr', -, dir⟩ := extractAt_ok (Attempt.logged_ok.1 extracted)
  cases hr.symm.trans hr'
  have short := path_length d
  rw [addImportPath, addImportPath, dir, importPath_alike h.plain (h.grows.linkless h.plain) h.near (isAbsolute_path d) (by omega)]

/-- **A run prepares alike in a tree where nothing that it looks at has changed.** -/
theorem prepare_again (h : Kept d t u) (hc : args.config = none) (hr : t.reach args.path = .ok d)
    (hx : t.node? d = some .directory) : prepare u registry args = prepare t registry args := by
  have located := locate_of_reach hr
  have place : absolute u args.path = absolute t args.path := by
    rw [absolute, absolute, located, h.grows.locate located]
  unfold prepare
  rw [hc, h.discover hr hx, place]
  simp only [readPackage_again h hr hx]

end GoGlue
