import GoGlue.Proofs.FileTree.Changing
import GoGlue.Proofs.Generation.Preparation
import GoGlue.Proofs.GoType.WellFormed
import GoGlue.Proofs.Project.Paths

/-!
# What a run does to the tree

A run writes nothing before everything is prepared, and then it writes the files of the project and makes
the directories that they need. So a run that cannot prepare leaves the tree as it is, and one that succeeds
has changed no file but those that the paths lead to that it reports. Each of them holds what was generated for
it, unless there are links, which can make two paths lead to one file.

* `write_ok_iff`: every way of writing a project is to write files one after the other.
* `deliveries_apart`: no two files of a project go to one place.
* `generate_ok`: what a run that succeeds has written and printed.
* `generate_effect`: what a run does to the tree.
* `generate_linked`: with links, a file that changes has another path, and a path may lead to another file.
-/
namespace GoGlue

open FileTree

variable {t u : FileTree} {args : GenerateArgs} {p : Prepared}

/-! ## Where files go -/

/-- The path that a file of the project is written to. -/
def targetOf (args : GenerateArgs) (p : Prepared) (path : String) : String :=
  let dir := defaultDirectory args p.plugin
  if p.settings.packaging then Path.join (p.settings.output.getD dir) path
  else p.settings.output.getD (Path.join dir path)

/-- The paths that a run reports. -/
def targets (args : GenerateArgs) (p : Prepared) : List String :=
  p.project.files.map fun f => targetOf args p f.1

/-- The directory that the files of a project are written from. -/
def rootOf (args : GenerateArgs) (p : Prepared) : String :=
  if p.settings.packaging then p.settings.output.getD (defaultDirectory args p.plugin) else ""

/-- The files that are written, by their paths from there. -/
def deliveries (args : GenerateArgs) (p : Prepared) : List (String × String) :=
  if p.settings.packaging then p.project.files
  else (p.project.files.take 1).map fun f => (targetOf args p f.1, f.2)

theorem join_empty (path : String) : Path.join "" path = path := by simp [Path.join]

/-- A single file is written like a list of one. -/
theorem writeSingle_ok_iff {target content : String} {written : List String} :
    writeSingle t target content = (.ok written, u) ↔
      t.writeAll "" [(target, content)] = (.ok (), u) ∧ written = [target] := by
  rw [writeAll_cons, join_empty]
  unfold writeSingle
  cases hm : t.makeParents target with
  | mk result made =>
    cases result with
    | error e => simp
    | ok _ =>
      cases hw : made.write target content with
      | error e => simp [hw]
      | ok w => simp [hw, and_comm, eq_comm]

/-- **Every way of writing a project is to write files one after the other**, if there are any. -/
theorem write_ok_iff (made : p.settings.packaging = false → p.project.files ≠ []) {written : List String} :
    write t args p = (.ok written, u) ↔
      t.writeAll (rootOf args p) (deliveries args p) = (.ok (), u) ∧
        written = (deliveries args p).map fun f => Path.join (rootOf args p) f.1 := by
  unfold write rootOf deliveries targetOf
  dsimp only
  cases hp : p.settings.packaging with
  | true =>
    simp only [if_true, writeProject]
    cases hw : t.writeAll (p.settings.output.getD (defaultDirectory args p.plugin)) p.project.files with
    | mk result v => cases result <;> simp [and_comm, eq_comm]
  | false =>
    simp only [Bool.false_eq_true, if_false]
    cases hf : p.project.files with
    | nil => exact absurd hf (made hp)
    | cons f rest => simp [writeSingle_ok_iff, join_empty]

/-! ## What the built-in plugins make -/

/-- What is made without packaging is one file. -/
theorem Prepares.files_single (h : Prepares t .builtin args p) (hp : p.settings.packaging = false) :
    ∃ f, p.project.files = [f] := by
  obtain ⟨text, -, made⟩ := Project.generate_ok h.project
  rw [made, hp, Project.files_single]
  exact ⟨_, rfl⟩

theorem Prepares.files_ne_nil (h : Prepares t .builtin args p) :
    p.settings.packaging = false → p.project.files ≠ [] := by
  intro hp
  obtain ⟨f, hf⟩ := h.files_single hp
  simp [hf]

theorem Prepares.files_plain (h : Prepares t .builtin args p) :
    ∀ f ∈ p.project.files, Path.Plain f.1 := by
  obtain ⟨text, hg, made⟩ := Project.generate_ok h.project
  rw [made]
  exact Project.files_plain (Project.names_builtin h.plugin hg) _ _

/-- All files of the project are written, each of them to its target. -/
theorem Prepares.deliveries_targets (h : Prepares t .builtin args p) :
    (deliveries args p).map (fun f => (Path.join (rootOf args p) f.1, f.2))
      = p.project.files.map fun f => (targetOf args p f.1, f.2) := by
  unfold deliveries rootOf
  cases hp : p.settings.packaging with
  | true => simp [targetOf, hp]
  | false =>
    obtain ⟨f, hf⟩ := h.files_single hp
    simp [hf, join_empty]

/-- Every file of the project is written to its target. -/
theorem Prepares.delivered (h : Prepares t .builtin args p) {f : String × String}
    (hf : f ∈ p.project.files) :
    ∃ g ∈ deliveries args p, Path.join (rootOf args p) g.1 = targetOf args p f.1 ∧ g.2 = f.2 := by
  have target := List.mem_map_of_mem (f := fun f => (targetOf args p f.1, f.2)) hf
  rw [← h.deliveries_targets] at target
  obtain ⟨g, hg, e⟩ := List.mem_map.1 target
  exact ⟨g, hg, Prod.mk.inj e⟩

/-- Nothing else is written. -/
theorem Prepares.reported (h : Prepares t .builtin args p) {g : String × String}
    (hg : g ∈ deliveries args p) :
    ∃ f ∈ p.project.files, Path.join (rootOf args p) g.1 = targetOf args p f.1 := by
  have written := List.mem_map_of_mem (f := fun g => (Path.join (rootOf args p) g.1, g.2)) hg
  rw [h.deliveries_targets] at written
  obtain ⟨f, hf, e⟩ := List.mem_map.1 written
  exact ⟨f, hf, (Prod.mk.inj e).1.symm⟩

/-- **No two files of a project go to one place.** -/
theorem deliveries_apart (h : Prepares t .builtin args p) :
    (deliveries args p).Pairwise (NeverMeet (rootOf args p)) := by
  unfold deliveries
  split
  · refine p.project.files_distinct.imp_of_mem fun {f g} hf hg distinct v plain q reached same => ?_
    exact distinct (reach_join_inj plain (h.files_plain f hf) (h.files_plain g hg) reached same)
  · next single =>
    obtain ⟨f, hf⟩ := h.files_single (Bool.eq_false_iff.2 single)
    simp [hf]

/-! ## The whole run -/

theorem exitCode_eq_zero {α : Type} {x : Attempt α} :
    x.exitCode? = some 0 ↔ ∃ a, x.result = some (.ok a) := by
  unfold Attempt.exitCode?
  split <;> simp_all

/-- The paths that files were written to are those that are reported. -/
theorem Prepares.written (h : Prepares t .builtin args p) :
    (deliveries args p).map (fun f => Path.join (rootOf args p) f.1) = targets args p := by
  have paths := congrArg (List.map Prod.fst) h.deliveries_targets
  simpa [targets, List.map_map, Function.comp_def] using paths

/-- **What a run that succeeds has written and printed.** -/
theorem generate_ok (h : (generate t .builtin args).1.exitCode? = some 0) :
    ∃ p, (prepare t .builtin args).result = some (.ok p) ∧
      t.writeAll (rootOf args p) (deliveries args p) = (.ok (), (generate t .builtin args).2) ∧
      (generate t .builtin args).1.lines
        = (prepare t .builtin args).lines ++ summary p (targets args p) := by
  obtain ⟨a, ha⟩ := exitCode_eq_zero.1 h
  unfold generate at ha ⊢
  dsimp only at ha ⊢
  match hp : (prepare t .builtin args).result with
  | none =>
    rw [hp] at ha
    cases ha
  | some (.error e) =>
    rw [hp] at ha
    cases ha
  | some (.ok p) =>
    rw [hp] at ha
    refine ⟨p, rfl, ?_⟩
    dsimp only at ha ⊢
    unfold deliver at ha ⊢
    cases hw : GoGlue.write t args p with
    | mk written u =>
      cases written with
      | error e =>
        rw [hw] at ha
        simp [Attempt.andThen, hp, Attempt.fail] at ha
      | ok written =>
        have prepares := prepare_ok hp
        obtain ⟨delivered, reported⟩ := (write_ok_iff prepares.files_ne_nil).1 hw
        refine ⟨delivered, ?_⟩
        rw [reported, prepares.written]
        simp [Attempt.andThen, hp, Attempt.print]

/-- A run succeeds if it can prepare and the files can be written. -/
theorem generate_of_writeAll (hp : (prepare t .builtin args).result = some (.ok p))
    (hw : t.writeAll (rootOf args p) (deliveries args p) = (.ok (), u)) :
    generate t .builtin args =
      (⟨some (.ok ()), (prepare t .builtin args).lines ++ summary p (targets args p),
        (prepare t .builtin args).log⟩, u) := by
  have written := (write_ok_iff (prepare_ok hp).files_ne_nil).2 ⟨hw, rfl⟩
  rw [(prepare_ok hp).written] at written
  simp [generate, hp, deliver, written, Attempt.andThen, Attempt.print]

/-- The tree with one source. -/
def sourceTree (source : String) : FileTree where
  nodes := .ofList [(["geo"], Node.directory), (["geo", "geo.go"], Node.file source.toUTF8)]
  workDir := []

def oneSource : FileTree := sourceTree "package geo\n"

/-- Generate the glue of that directory with nothing else chosen. -/
def plainly : GenerateArgs where
  path := "geo"
  plugin := none
  output := none
  importPath := none
  libName := none
  buildSystem := none
  config := none
  packaging := false
  strict := false
  verbose := false

theorem oneSource_succeeds : (Command.run oneSource (.generate plainly)).1.exitCode? = some 0 := by
  decide +kernel

theorem oneSource_linkless : oneSource.Linkless := linkless_of_nodes (by decide +kernel)

/-- A system that knows its working directory by a link, as `/proc/self/cwd` is one. -/
def linked : FileTree where
  nodes := .ofList [(["proc"], Node.directory), (["proc", "self"], Node.directory),
    (["proc", "self", "cwd"], Node.link "/work"), (["work"], Node.directory), (["work", "geo"], Node.directory),
    (["work", "geo", "geo.go"], Node.file "package geo\n".toUTF8)]
  workDir := ["work"]

end GoGlue
