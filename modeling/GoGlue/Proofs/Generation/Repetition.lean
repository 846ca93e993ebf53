import GoGlue.Proofs.Generation.Delivery
import GoGlue.Proofs.Generation.Rereading

/-!
# Running again

When no output is chosen, files go into a directory of the plugin below that of the package. No run reads
anything there: the sources and the configuration stand right in the directory of the package, and the
`go.mod` files that count are in it or above it. So the files of a run are nothing to the next one, which
prepares the same files, finds them all in their places, and writes them once more as they are. All of this is
about trees without links.

* `deliveries_inside`: where files go when no output is chosen.
* `generate_kept`: a run changes nothing that a run looks at.
* `generate_idempotent`: running again does and says the same.
-/
namespace GoGlue

open FileTree

variable {t u : FileTree} {args : GenerateArgs} {p : Prepared}

/-- What the directory of a plugin is called. -/
def pluginDirectory (p : Prepared) : String := p.plugin.name ++ "_plugin"

theorem Prepares.pluginDirectory_single (h : Prepares t .builtin args p) :
    Path.Single (pluginDirectory p) ∧ 10 ≤ (pluginDirectory p).length := by
  have names : p.plugin.name = "cgo" ∨ p.plugin.name = "python" := by
    rcases Project.get_builtin h.plugin with e | e <;> simp [e, Plugin.cgo, Plugin.simple, Plugin.python]
  rcases names with e | e
  all_goals
    rw [pluginDirectory, e]
    decide

/-- No output is chosen, neither on the command line nor in the configuration. -/
def NoOutput (t : FileTree) (args : GenerateArgs) : Prop :=
  args.output = none ∧
    ∀ config, (Config.discover t args.path args.config).1 = .ok config → config.output = none

theorem Prepares.output (h : Prepares t .builtin args p) (ho : NoOutput t args) :
    p.settings.output = none := by
  obtain ⟨x, ⟨⟨config, hc, resolved⟩, -⟩, -⟩ := h.reads
  rw [resolved, Settings.resolve, ho.1, ho.2 config hc]
  rfl

/-- The directory of the package. -/
theorem Prepares.directory (h : Prepares t .builtin args p) :
    ∃ d, t.reach args.path = .ok d ∧ t.node? d = some .directory := by
  obtain ⟨x, ⟨-, hx⟩, -⟩ := h.reads
  obtain ⟨y, extracted, -⟩ := Attempt.ok_of_bind hx
  obtain ⟨d, hr, hd, -⟩ := extractAt_ok (Attempt.logged_ok.1 extracted)
  exact ⟨d, hr, hd⟩

/-! ## Where files go -/

/-- **Where files go when no output is chosen.** -/
theorem deliveries_inside (h : Prepares t .builtin args p) (ho : NoOutput t args) :
    ∀ f ∈ deliveries args p, Inside args.path (pluginDirectory p) (Path.join (rootOf args p) f.1) := by
  intro g hg
  obtain ⟨f, hf, target⟩ := h.reported hg
  have plain := h.files_plain f hf
  have single := h.pluginDirectory_single.1
  have joined : Path.join (rootOf args p) g.1 = Path.join args.path (pluginDirectory p ++ "/" ++ f.1) := by
    rw [target, ← Path.join_join args.path single.plain plain]
    simp [targetOf, h.output ho, defaultDirectory, pluginDirectory]
  rcases plain.split with one | ⟨above, name, spelling, ha, hn⟩
  · exact ⟨_, f.1, joined, .single single, one⟩
  · refine ⟨_, name, ?_, (Through.single single).slash ha, hn⟩
    rw [joined, spelling]
    simp only [String.append_assoc]

/-- **A run changes nothing that a run looks at.** -/
theorem generate_kept (plain : t.Linkless) {d : Place} (h : Prepares t .builtin args p) (ho : NoOutput t args)
    (hr : t.reach args.path = .ok d) (hx : t.node? d = some .directory)
    (hw : t.writeAll (rootOf args p) (deliveries args p) = (.ok (), u)) : Kept d t u := by
  obtain ⟨-, -, links, followed⟩ := reach_ok.1 hr
  have inside := deliveries_inside h ho
  have changes := writeAll_changes hw
  have confined := writeAll_confined plain inside followed hx hw
  refine ⟨plain, changes.grows, fun name => ?_, fun q near => ?_⟩
  · refine Classical.byContradiction fun changed => ?_
    obtain ⟨f, hf, reached⟩ := changes.elsewhere _ changed
    exact reach_inside_ne (changes.grows.linkless plain) (inside f hf) (changes.grows.follow followed) reached
  · refine confined.outside q fun below => ?_
    have far := span_le_of_isPrefix below
    have long := h.pluginDirectory_single.2
    simp only [span_append, span_cons, span_nil] at far
    omega

/-! ## The second run -/

/-- **Running again does and says the same**, if no configuration is asked for and no output is chosen. -/
theorem generate_idempotent (t : FileTree) (plain : t.Linkless) (args : GenerateArgs) (hc : args.config = none)
    (ho : NoOutput t args) (hs : (Command.run t (.generate args)).1.exitCode? = some 0) :
    let u := (Command.run t (.generate args)).2
    prepare u .builtin args = prepare t .builtin args ∧
      (Command.run u (.generate args)).1.exitCode? = some 0 ∧
      (Command.run u (.generate args)).1.stdout = (Command.run t (.generate args)).1.stdout ∧
      Same u (Command.run u (.generate args)).2 := by
  obtain ⟨p, hp, hw, -⟩ := generate_ok hs
  have prepares := prepare_ok hp
  obtain ⟨d, hr, hx⟩ := prepares.directory
  have first := generate_of_writeAll hp hw
  have again : prepare (generate t .builtin args).2 .builtin args = prepare t .builtin args :=
    prepare_again (generate_kept plain prepares ho hr hx hw) hc hr hx
  -- every file stands where it is written again
  obtain ⟨v, hv, same⟩ := writeAll_again (writeAll_stands plain (deliveries_apart prepares) hw)
  have second := generate_of_writeAll (again ▸ hp) hv
  rw [again] at second
  refine ⟨again, ?_, ?_, ?_⟩
  · simp only [Command.run, second]
    rfl
  · simp only [Command.run, second]
    rw [first]
  · simp only [Command.run, second]
    exact same

theorem oneSource_again :
    oneSource.Linkless ∧ plainly.config = none ∧ NoOutput oneSource plainly ∧
    (Command.run oneSource (.generate plainly)).1.exitCode? = some 0 ∧
    let u := (Command.run oneSource (.generate plainly)).2
    prepare u .builtin plainly = prepare oneSource .builtin plainly ∧
      (Command.run u (.generate plainly)).1.exitCode? = some 0 ∧
      (Command.run u (.generate plainly)).1.stdout = (Command.run oneSource (.generate plainly)).1.stdout ∧
      Same u (Command.run u (.generate plainly)).2 := by
  have missing : oneSource.isFile (Config.pathIn "geo") = false := by decide +kernel
  have free : NoOutput oneSource plainly := by
    refine ⟨rfl, fun config hc => ?_⟩
    have found := Config.discover_missing oneSource "geo" missing
    rw [show Config.discover oneSource plainly.path plainly.config = _ from found] at hc
    cases hc
    rfl
  exact ⟨oneSource_linkless, rfl, free, oneSource_succeeds,
    generate_idempotent oneSource oneSource_linkless plainly rfl free oneSource_succeeds⟩

end GoGlue
