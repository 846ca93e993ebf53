import GoGlue.Registry.Shared
import Mathlib.Data.List.Basic
import Mathlib.Order.Defs.LinearOrder

/-!
# Registries over whole runs

What a registry answers is decided by the calls that were made of it before: under each name stands the factory of
the first call that registered it, whatever came of the later ones. A panic changes nothing but whether the lock is
poisoned, and as no call is answered by that, later answers are the same as without the panic.

* `perform_register`: the ways a registration can go.
* `performAll_value`: answers do not depend on whether the lock is poisoned.
* `performAll_factory`, `performAll_names`: a run keeps the factory of the first registration, and the names of those
  that did not panic.
* `runs_faithful`: what a registry answers after any run.
-/
namespace GoGlue

theorem Registry.mem_names {r : Registry} {name : String} : name ∈ r.names ↔ (r.factories[name]?).isSome := by
  rw [names, Std.TreeMap.mem_keys, Std.TreeMap.mem_iff_isSome_getElem?]

theorem Registry.contains_iff {r : Registry} {name : String} : r.contains name = true ↔ name ∈ r.names := by
  rw [names, Std.TreeMap.mem_keys]
  rfl

theorem Registry.names_ascending (r : Registry) : r.names.Pairwise (· < ·) :=
  r.names_sorted.imp compareOfLessAndEq_eq_lt.1

namespace SharedRegistry

variable {s : SharedRegistry}

/-! ## One call -/

/-- The registry with one more plugin. -/
def extend (s : SharedRegistry) (name : String) (factory : PluginFactory) : SharedRegistry :=
  { s with value := ⟨s.value.factories.insert name factory⟩ }

/-- **The ways a registration can go.** -/
theorem perform_register (s : SharedRegistry) (name : String) (factory : PluginFactory) :
    (name = "" ∧ s.perform (.register name factory) = (.panic .emptyName, s)) ∨
    (name ≠ "" ∧ name ∈ s.value.names ∧
      s.perform (.register name factory) = (.panic (.alreadyRegistered name), { s with poisoned := true })) ∨
    (name ≠ "" ∧ name ∉ s.value.names ∧
      s.perform (.register name factory) = (.registered, s.extend name factory)) := by
  by_cases empty : name = ""
  · exact .inl ⟨empty, if_pos empty⟩
  by_cases known : s.value.contains name = true
  · refine .inr (.inl ⟨empty, Registry.contains_iff.1 known, ?_⟩)
    simp [perform, Lock.write, Lock.access_eq, Registry.register, empty, known]
  · refine .inr (.inr ⟨empty, mt Registry.contains_iff.2 known, ?_⟩)
    simp [perform, Lock.write, Lock.access_eq, Registry.register, empty, known, extend]

theorem perform_get (s : SharedRegistry) (name : String) (opts : PluginOptions) :
    s.perform (.get name opts) = (match s.value.factories[name]? with
      | some factory => .plugin (factory opts)
      | none => .failure (.unknownPlugin name s.value.names), s) := by
  rw [perform, Lock.access_eq, Registry.get]
  cases s.value.factories[name]? <;> rfl

theorem perform_contains (s : SharedRegistry) (name : String) :
    s.perform (.contains name) = (.contained (s.value.contains name), s) := by
  rw [perform, Lock.access_eq]

theorem perform_list (s : SharedRegistry) : s.perform .list = (.names s.value.names, s) := by
  rw [perform, Lock.access_eq]

/-- What a call is answered, and what it leaves, does not depend on whether the lock is poisoned. -/
theorem perform_value {s t : SharedRegistry} (h : s.value = t.value) (c : Call) :
    (s.perform c).1 = (t.perform c).1 ∧ (s.perform c).2.value = (t.perform c).2.value := by
  cases c with
  | register name factory =>
    rcases perform_register s name factory with ⟨e, hs⟩ | ⟨e, k, hs⟩ | ⟨e, k, hs⟩ <;>
      rcases perform_register t name factory with ⟨e', ht⟩ | ⟨e', k', ht⟩ | ⟨e', k', ht⟩ <;>
      simp_all [extend]
  | get name opts =>
    rw [perform_get, perform_get]
    exact ⟨by rw [h], h⟩
  | contains name => exact ⟨by rw [perform_contains, perform_contains, h], h⟩
  | list => exact ⟨by rw [perform_list, perform_list, h], h⟩

/-- The factory that a call would register under a name. -/
def Call.factory? (name : String) : Call → Option PluginFactory
  | .register n factory => if n = name then some factory else none
  | _ => none

/-- A call adds the factory it registers, if the name has none yet. -/
theorem perform_factory (s : SharedRegistry) (c : Call) {name : String} (hn : name ≠ "") :
    (s.perform c).2.value.factories[name]? = (s.value.factories[name]?).or (c.factory? name) := by
  cases c with
  | register n factory =>
    have known : n ∈ s.value.names ↔ (s.value.factories[n]?).isSome := Registry.mem_names
    rcases perform_register s n factory with ⟨rfl, h⟩ | ⟨-, k, h⟩ | ⟨-, k, h⟩ <;> rw [h]
    · simp [Call.factory?, Ne.symm hn]
    · by_cases same : n = name
      · subst same
        obtain ⟨f, hf⟩ := Option.isSome_iff_exists.1 (known.1 k)
        simp [hf]
      · simp [Call.factory?, same]
    · by_cases same : n = name
      · subst same
        have free : s.value.factories[n]? = none := by simpa [known] using k
        simp [extend, Call.factory?, free]
      · simp [extend, Call.factory?, same, Std.TreeMap.getElem?_insert]
  | get name opts => simp [perform_get, Call.factory?]
  | contains name => simp [perform_contains, Call.factory?]
  | list => simp [perform_list, Call.factory?]

/-- The empty name has no factory, and gets none. -/
theorem perform_emptyName (h : "" ∉ s.value.names) (c : Call) : "" ∉ (s.perform c).2.value.names := by
  cases c with
  | register n factory =>
    rcases perform_register s n factory with ⟨-, hp⟩ | ⟨-, -, hp⟩ | ⟨hn, -, hp⟩ <;> rw [hp]
    · exact h
    · exact h
    · simpa [Registry.mem_names, extend, Std.TreeMap.getElem?_insert, hn] using h
  | get name opts => simpa [perform_get] using h
  | contains name => simpa [perform_contains] using h
  | list => simpa [perform_list] using h

/-- A call adds the name it registers, unless it panics. -/
theorem perform_names (s : SharedRegistry) (c : Call) (name : String) :
    name ∈ (s.perform c).2.value.names ↔
      name ∈ s.value.names ∨ ∃ factory, c = .register name factory ∧ (s.perform c).1 = .registered := by
  cases c with
  | register n factory =>
    rcases perform_register s n factory with ⟨-, h⟩ | ⟨-, -, h⟩ | ⟨-, -, h⟩ <;> rw [h]
    · simp
    · simp
    · by_cases same : n = name
      · simp [Registry.mem_names, extend, same]
      · simp [Registry.mem_names, extend, same, Std.TreeMap.getElem?_insert]
  | get n opts => simp [perform_get]
  | contains n => simp [perform_contains]
  | list => simp [perform_list]

/-! ## Runs -/

theorem performAll_cons (s : SharedRegistry) (c : Call) (calls : List Call) :
    s.performAll (c :: calls)
      = ((s.perform c).1 :: ((s.perform c).2.performAll calls).1, ((s.perform c).2.performAll calls).2) := rfl

theorem performAll_append (s : SharedRegistry) (calls later : List Call) :
    s.performAll (calls ++ later)
      = ((s.performAll calls).1 ++ ((s.performAll calls).2.performAll later).1,
        ((s.performAll calls).2.performAll later).2) := by
  induction calls generalizing s with
  | nil => rfl
  | cons c calls ih => rw [List.cons_append, performAll_cons, performAll_cons, ih]; rfl

theorem performAll_length (s : SharedRegistry) (calls : List Call) : (s.performAll calls).1.length = calls.length := by
  induction calls generalizing s with
  | nil => rfl
  | cons c calls ih => rw [performAll_cons, List.length_cons, ih, List.length_cons]

/-- **Answers do not depend on whether the lock is poisoned.** -/
theorem performAll_value {s t : SharedRegistry} (h : s.value = t.value) (calls : List Call) :
    (s.performAll calls).1 = (t.performAll calls).1 := by
  induction calls generalizing s t with
  | nil => rfl
  | cons c calls ih =>
    obtain ⟨answer, value⟩ := perform_value h c
    rw [performAll_cons, performAll_cons, answer, ih value]

/-- The first factory that calls would register under a name. -/
def firstFactory? (name : String) (calls : List Call) : Option PluginFactory := calls.findSome? (·.factory? name)

/-- **Under each name stands the factory of the first call that registered it.** -/
theorem performAll_factory (s : SharedRegistry) (calls : List Call) {name : String} (hn : name ≠ "") :
    (s.performAll calls).2.value.factories[name]?
      = (s.value.factories[name]?).or (firstFactory? name calls) := by
  induction calls generalizing s with
  | nil => simp [performAll, firstFactory?]
  | cons c calls ih =>
    rw [performAll_cons, ih, perform_factory s c hn, firstFactory?, firstFactory?, List.findSome?_cons]
    cases s.value.factories[name]? <;> cases c.factory? name <;> rfl

theorem performAll_emptyName (h : "" ∉ s.value.names) (calls : List Call) :
    "" ∉ (s.performAll calls).2.value.names := by
  induction calls generalizing s with
  | nil => exact h
  | cons c calls ih => exact ih (perform_emptyName h c)

/-- **The names are those whose registration did not panic.** -/
theorem performAll_names (s : SharedRegistry) (calls : List Call) (name : String) :
    name ∈ (s.performAll calls).2.value.names ↔ name ∈ s.value.names ∨
      ∃ factory, (Call.register name factory, Answer.registered) ∈ calls.zip (s.performAll calls).1 := by
  induction calls generalizing s with
  | nil => simp [performAll]
  | cons c calls ih =>
    rw [performAll_cons, ih, perform_names, or_assoc]
    simp only [List.zip_cons_cons, List.mem_cons, Prod.mk.injEq, exists_or]
    refine or_congr_right (or_congr_left (exists_congr fun factory => ?_))
    exact ⟨fun h => ⟨h.1.symm, h.2.symm⟩, fun h => ⟨h.1.symm, h.2.symm⟩⟩

/-! ## Answers after a run -/

/-- Some call registered the name and did not panic. -/
def Registered (made : List (Call × Answer)) (name : String) : Prop :=
  ∃ factory, (Call.register name factory, Answer.registered) ∈ made

/-- What a registry answers after calls that were answered as given. -/
structure Faithful (made : List (Call × Answer)) (s : SharedRegistry) : Prop where
  list : ∃ names, s.perform .list = (.names names, s) ∧ names.Pairwise (· < ·) ∧
    ∀ name, name ∈ names ↔ Registered made name
  contains : ∀ name, ∃ b, s.perform (.contains name) = (.contained b, s) ∧ (b = true ↔ Registered made name)
  panics : ∀ name factory,
    (∃ e, (s.perform (.register name factory)).1 = .panic e) ↔ name = "" ∨ Registered made name
  registers : ∀ name factory, name ≠ "" → ¬ Registered made name →
    (s.perform (.register name factory)).1 = .registered
  /-- After a panic all calls are answered as if it had not been. -/
  unchanged : ∀ name factory e, (s.perform (.register name factory)).1 = .panic e →
    (s.perform (.register name factory)).2.value = s.value ∧
      ∀ later, ((s.perform (.register name factory)).2.performAll later).1 = (s.performAll later).1
  found : ∀ name opts, Registered made name →
    ∃ factory, firstFactory? name (made.map (·.1)) = some factory ∧
      s.perform (.get name opts) = (.plugin (factory opts), s)
  missing : ∀ name opts, ¬ Registered made name →
    ∃ names, s.perform .list = (.names names, s) ∧
      s.perform (.get name opts) = (.failure (.unknownPlugin name names), s)

/-- A registry whose names and factories are those of a run answers as it should. -/
theorem Faithful.of_names {made : List (Call × Answer)}
    (names : ∀ name, name ∈ s.value.names ↔ Registered made name)
    (factory : ∀ name ∈ s.value.names, s.value.factories[name]? = firstFactory? name (made.map (·.1))) :
    Faithful made s where
  list := ⟨s.value.names, perform_list s, s.value.names_ascending, names⟩
  contains name := ⟨_, perform_contains s name, Registry.contains_iff.trans (names name)⟩
  panics name factory := by
    rw [← names]
    rcases perform_register s name factory with ⟨e, h⟩ | ⟨e, k, h⟩ | ⟨e, k, h⟩
    · exact iff_of_true ⟨_, by rw [h]⟩ (.inl e)
    · exact iff_of_true ⟨_, by rw [h]⟩ (.inr k)
    · exact iff_of_false (by rw [h]; rintro ⟨_, ⟨⟩⟩) (not_or.2 ⟨e, k⟩)
  registers name factory nonempty free := by
    rw [← names] at free
    rcases perform_register s name factory with ⟨e, -⟩ | ⟨-, k, -⟩ | ⟨-, -, h⟩
    · exact absurd e nonempty
    · exact absurd k free
    · rw [h]
  unchanged name factory e panic := by
    have value : (s.perform (.register name factory)).2.value = s.value := by
      rcases perform_register s name factory with ⟨-, h⟩ | ⟨-, -, h⟩ | ⟨-, -, h⟩
      · rw [h]
      · rw [h]
      · rw [h] at panic
        cases panic
    exact ⟨value, performAll_value value⟩
  found name opts registered := by
    have known := (names name).2 registered
    obtain ⟨f, hf⟩ := Option.isSome_iff_exists.1 (Registry.mem_names.1 known)
    exact ⟨f, (factory name known).symm.trans hf, by rw [perform_get, hf]⟩
  missing name opts unregistered := by
    have free : s.value.factories[name]? = none := by
      simpa [Registry.mem_names] using mt (names name).1 unregistered
    exact ⟨_, perform_list s, by rw [perform_get, free]⟩

theorem performAll_faithful (calls : List Call) :
    Faithful (calls.zip (performAll (.new .empty) calls).1) (performAll (.new .empty) calls).2 := by
  have nothing : ∀ name, name ∉ (Lock.new Registry.empty).value.names := by
    intro name
    rw [Registry.mem_names]
    simp [Lock.new, Registry.empty]
  refine .of_names (fun name => ?_) (fun name known => ?_)
  · rw [performAll_names]
    exact or_iff_right (nothing name)
  · have nonempty : name ≠ "" := by
      rintro rfl
      exact performAll_emptyName (nothing "") calls known
    rw [performAll_factory _ _ nonempty, List.map_fst_zip (Nat.le_of_eq (performAll_length _ calls).symm)]
    simp [Lock.new, Registry.empty]

/-- The calls that set up the registry of the built-in plugins. -/
def builtinCalls : List Call := [.register "cgo" Plugin.cgo, .register "python" Plugin.python]

theorem performAll_builtinCalls :
    performAll (.new .empty) builtinCalls = ([.registered, .registered], .new .builtin) := rfl

/-- **A registry is a faithful sorted map over whole runs.** Whatever calls were made of a registry that was empty, or
held the built-in plugins, panics included: its names are listed in ascending order, and are those whose
registration did not panic; a registration panics exactly if its name is empty or among them, and is as if it had
not been made; and under each of the names, and no other, stands the factory that was registered first. -/
theorem runs_faithful (calls : List Call) :
    Faithful (calls.zip (performAll (.new .empty) calls).1) (performAll (.new .empty) calls).2 ∧
      Faithful ((builtinCalls ++ calls).zip
          ([.registered, .registered] ++ (performAll (.new .builtin) calls).1))
        (performAll (.new .builtin) calls).2 := by
  have builtin := performAll_faithful (builtinCalls ++ calls)
  rw [performAll_append, performAll_builtinCalls] at builtin
  exact ⟨performAll_faithful calls, builtin⟩

/-- A name that is registered twice, which leaves the lock poisoned. -/
def echoTwice : List Call := [.register "echo" Plugin.cgo, .register "echo" Plugin.python]

theorem runs_faithful_poisoned :
    (performAll (.new .empty) echoTwice).2.poisoned = true ∧
      (performAll (.new .empty) echoTwice).1 = [.registered, .panic (.alreadyRegistered "echo")] ∧
      (performAll (.new .empty) echoTwice).2.perform (.get "echo" .default)
        = (.plugin (Plugin.cgo .default), (performAll (.new .empty) echoTwice).2) := by
  have answers : (performAll (.new .empty) echoTwice).1 = [.registered, .panic (.alreadyRegistered "echo")] := rfl
  obtain ⟨factory, first, got⟩ := (runs_faithful echoTwice).1.found "echo" .default
    ⟨Plugin.cgo, by rw [answers]; exact List.mem_cons_self ..⟩
  obtain rfl : Plugin.cgo = factory := Option.some.inj first
  exact ⟨rfl, answers, got⟩

end SharedRegistry

end GoGlue
