import GoGlue.Project
import GoGlue.Proofs.Path.Joining
import GoGlue.Registry

/-!
# The paths of a project

The built-in plugins call their files after the package, and a package that code is generated for has an
identifier for its name. So the paths of a project are made of names, and no two files have the same one;
without packaging there is one file only.

* `files_single`: the project without packaging.
* `files_plain`: the paths are made of names.
* `files_distinct`: they are different from one another.
-/
namespace GoGlue

/-! ## Identifiers -/

/-- An identifier is a name, and stays one with anything but a slash written after it. -/
theorem single_identifier {name more : String} (h : isGoIdentifier name = true) (hm : '/' ∉ more.toList) :
    Path.Single (name ++ more) := by
  have slash : ¬ ('/' == '_' || Text.isAlphabetic '/' || Text.isNumber '/') = true := by decide +kernel
  have dot : ¬ ('.' == '_' || Text.isAlphabetic '.') = true := by decide +kernel
  unfold isGoIdentifier at h
  rw [Path.Single, String.toList_append]
  generalize name.toList = cs at h
  cases cs with
  | nil => cases h
  | cons c rest =>
    simp only [Bool.and_eq_true, List.all_eq_true] at h
    obtain ⟨first, others⟩ := h
    have proper : c ≠ '.' := by
      rintro rfl
      exact dot first
    have free : '/' ∉ c :: rest := by
      rw [List.mem_cons, not_or]
      refine ⟨?_, fun hs => slash (others '/' hs)⟩
      rintro rfl
      exact slash (by rw [Bool.or_eq_true]; exact .inl first)
    refine ⟨fun hs => ?_, ?_⟩
    · exact (List.mem_append.1 hs).elim free hm
    · simp [Path.IsName, proper]

namespace Project

/-! ## Files -/

theorem mem_files {p : Project} {f : String × String} : f ∈ p.files ↔ p.get? f.1 = some f.2 :=
  Std.TreeMap.mem_toList_iff_getElem?_eq_some

/-- **The paths of a project differ.** -/
theorem files_distinct (p : Project) : p.files.Pairwise fun f g => f.1 ≠ g.1 := by
  refine Std.TreeMap.distinct_keys_toList.imp ?_
  intro f g apart e
  exact apart (e ▸ Std.ReflCmp.compare_self)

theorem mem_files_foldl {files : List (String × String)} {p : Project} {f : String × String}
    (h : f ∈ (files.foldl (fun p f => p.add f.1 f.2) p).files) : f ∈ p.files ∨ f ∈ files := by
  induction files generalizing p with
  | nil => exact .inl h
  | cons g rest ih =>
    rcases ih h with h | h
    · rw [mem_files, get?_add] at h
      split at h
      · next same =>
        have e : f = g := Prod.ext same.symm (Option.some.inj h).symm
        exact .inr (e ▸ List.mem_cons_self)
      · exact .inl (mem_files.2 h)
    · exact .inr (List.mem_cons_of_mem _ h)

/-- The files of a project are among those that it was made of. -/
theorem mem_ofList {files : List (String × String)} {f : String × String}
    (h : f ∈ (ofList files).files) : f ∈ files := by
  refine (mem_files_foldl h).resolve_left ?_
  simp [mem_files, empty, get?]

/-! ## What the plugins make -/

theorem check_ok {p : Package} (h : p.check = .ok ()) : isGoIdentifier p.name = true := by
  unfold Package.check at h
  split at h
  · cases h
  · split at h
    · cases h
    · next valid => simpa using valid

theorem fromSurface_ok {target : String} {verbose : Bool}
    {render : Package → Option (String × List LogRecord)} {p : Package} {text : String}
    (h : (Plugin.fromSurface target verbose render p).1 = some (.ok text)) :
    isGoIdentifier p.name = true := by
  unfold Plugin.fromSurface at h
  split at h
  · cases h
  · next valid => exact check_ok valid

/-- What a built-in plugin calls its files. -/
structure Names (plugin : Plugin) (p : Package) : Prop where
  default : Path.Plain (plugin.defaultOutput p)
  packaged : Path.Plain (plugin.packagedOutput p)
  companions : ∀ f ∈ plugin.companions p, Path.Plain f.1

theorem get_builtin {name : String} {opts : PluginOptions} {plugin : Plugin}
    (h : Registry.builtin.get name opts = .ok plugin) :
    plugin = .cgo opts ∨ plugin = .python opts := by
  have registered : Registry.builtin.factories.toList = [("cgo", Plugin.cgo), ("python", Plugin.python)] := rfl
  unfold Registry.get at h
  split at h
  · next factory hf =>
    cases h
    have listed := Std.TreeMap.mem_toList_iff_getElem?_eq_some.2 hf
    rw [registered] at listed
    simp only [List.mem_cons, Prod.mk.injEq, List.not_mem_nil, or_false] at listed
    rcases listed with ⟨-, rfl⟩ | ⟨-, rfl⟩
    · exact .inl rfl
    · exact .inr rfl
  · cases h

theorem names_builtin {name : String} {opts : PluginOptions} {plugin : Plugin} {p : Package}
    {text : String} (h : Registry.builtin.get name opts = .ok plugin)
    (hg : (plugin.generate p).1 = some (.ok text)) : Names plugin p := by
  rcases get_builtin h with rfl | rfl
  · have main : Path.Plain "main.go" := by decide
    exact ⟨main, main, by simp [Plugin.cgo, Plugin.simple]⟩
  · have identifier := fromSurface_ok hg
    have file : Path.Single (p.name ++ ".py") := single_identifier identifier (by decide)
    have directory : Path.Plain p.name := by
      simpa using (@single_identifier p.name "" identifier (by decide)).plain
    refine ⟨file.plain, ?_, ?_⟩
    · have path : (Plugin.python opts).packagedOutput p = p.name ++ "/" ++ (p.name ++ ".py") :=
        String.append_assoc ..
      rw [path]
      exact Path.plain_slash.2 ⟨directory, file.plain⟩
    · have init : p.name ++ "/__init__.py" = p.name ++ "/" ++ "__init__.py" := by
        rw [String.append_assoc]
        rfl
      have project : Path.Plain "pyproject.toml" := by decide
      have package : Path.Plain "__init__.py" := by decide
      simp only [Plugin.python, List.forall_mem_cons]
      refine ⟨project, ?_, by simp⟩
      rw [init]
      exact Path.plain_slash.2 ⟨directory, package⟩

theorem generate_ok {plugin : Plugin} {p : Package} {packaging : Bool} {project : Project}
    (h : (generate plugin p packaging).1 = some (.ok project)) :
    ∃ text, (plugin.generate p).1 = some (.ok text) ∧ project = assemble plugin p packaging text := by
  unfold generate at h
  split at h
  · cases h
  · cases h
  · next text log hg =>
    cases h
    exact ⟨text, by rw [hg], rfl⟩

/-- Without packaging there is one file. -/
theorem files_single (plugin : Plugin) (p : Package) (text : String) :
    (assemble plugin p false text).files = [(plugin.defaultOutput p, text)] := rfl

/-- **The paths of a project are made of names.** -/
theorem files_plain {plugin : Plugin} {p : Package} (h : Names plugin p) (packaging : Bool)
    (text : String) : ∀ f ∈ (assemble plugin p packaging text).files, Path.Plain f.1 := by
  intro f hf
  unfold assemble at hf
  split at hf
  · rcases List.mem_cons.1 (mem_ofList hf) with rfl | hf
    · exact h.packaged
    · exact h.companions f hf
  · rw [List.mem_singleton.1 (mem_ofList hf)]
    exact h.default

end Project

end GoGlue
