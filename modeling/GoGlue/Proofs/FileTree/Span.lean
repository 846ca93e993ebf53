import GoGlue.Proofs.FileTree.Following

/-!
# How far a path leads

Without links, a path leads no further from the root than it is long. So what is far away does not matter for it,
even if the path is a place that was written down and some of the names in the place are no names of files:
whoever reads it again ends up at no place that is spelled longer.

* `walk_alike`: trees that are alike near by are walked alike.
* `locate_span`: where a path leads is not spelled longer than the path.
-/
namespace GoGlue.FileTree

variable {t u : FileTree} {n : Nat}

/-! ## Spelling -/

/-- How long names are with a slash behind each of them. -/
def span : List String → Nat
  | [] => 0
  | name :: rest => name.length + 1 + span rest

@[simp] theorem span_nil : span [] = 0 := rfl

@[simp] theorem span_cons (name : String) (rest : List String) :
    span (name :: rest) = name.length + 1 + span rest := rfl

@[simp] theorem span_append (a b : List String) : span (a ++ b) = span a + span b := by
  induction a with
  | nil => simp
  | cons name rest ih => simp [ih, Nat.add_assoc]

@[simp] theorem span_reverse (names : List String) : span names.reverse = span names := by
  induction names with
  | nil => rfl
  | cons name rest ih => simp [ih, Nat.add_comm]

theorem span_le_of_isPrefix {a b : List String} (h : a <+: b) : span a ≤ span b := by
  obtain ⟨rest, rfl⟩ := h
  simp

theorem span_dropLast (names : List String) : span names.dropLast ≤ span names :=
  span_le_of_isPrefix (List.dropLast_prefix names)

theorem span_segments (cs : List Char) :
    span ((Path.segments cs).map String.ofList) = cs.length + 1 := by
  induction cs with
  | nil => rfl
  | cons c rest ih =>
    unfold Path.segments
    split
    · simp [ih]
      omega
    · cases h : Path.segments rest with
      | nil => exact absurd h (Path.segments_ne_nil rest)
      | cons s ss =>
        rw [h] at ih
        simp only [List.map_cons, span_cons, String.length_ofList, List.length_cons] at ih ⊢
        omega

theorem span_segmentsOf (path : String) : span (segmentsOf path) = path.length + 1 :=
  span_segments path.toList

/-- Between names are fewer slashes than there are names. -/
theorem intercalate_length (names : List String) : ("/".intercalate names).length ≤ span names := by
  induction names with
  | nil => exact Nat.le_refl 0
  | cons name rest ih =>
    by_cases single : rest = []
    · subst single
      simp
    · have slash : "/".length = 1 := rfl
      rw [String.intercalate_cons_of_ne_nil single, String.length_append, String.length_append, span_cons]
      omega

/-- The path of a place is spelled as long as its names. -/
theorem path_length (p : Place) : p.path.length ≤ span p + 1 := by
  have names := intercalate_length p
  have slash : "/".length = 1 := rfl
  rw [Place.path, String.length_append]
  omega

theorem isAbsolute_path (p : Place) : Path.isAbsolute p.path = true := by
  rw [Path.isAbsolute_iff, Place.path, String.toList_append]
  rfl

/-! ## Trees that are alike near the root -/

/-- The trees do not differ at places that are spelled with no more than so many characters. -/
def Alike (n : Nat) (t u : FileTree) : Prop := ∀ p, span p ≤ n → u.node? p = t.node? p

theorem enter_span (plain : t.Linkless) {depth : Nat} {s e : Stage} {segment : String}
    (h : t.enter depth s segment = .ok e) : span e.here ≤ span s.here + span [segment] := by
  cases enter_ok.1 h with
  | idle => exact Nat.le_add_right ..
  | up => exact Nat.le_trans (span_dropLast s.here) (Nat.le_add_right ..)
  | name => exact Nat.le_of_eq (span_append ..)
  | link _ _ _ linked => exact absurd linked (plain _ _)

theorem enter_alike (plain : t.Linkless) (h : Alike n t u) {depth : Nat} {s : Stage} {segment : String}
    (hn : span s.here + span [segment] ≤ n) : u.enter depth s segment = t.enter depth s segment := by
  have near := h s.here (by omega)
  have next := h (s.here ++ [segment]) (by rwa [span_append])
  unfold enter
  rw [checkDirectory, checkDirectory, near, next]
  cases hx : t.node? (s.here ++ [segment]) with
  | none => rfl
  | some x =>
    cases x with
    | link target => exact absurd hx (plain _ _)
    | file content => rfl
    | directory => rfl

/-- **Trees that are alike near by are walked alike.** -/
theorem walk_alike (plain : t.Linkless) (h : Alike n t u) {depth : Nat} {s : Stage} {segments : List String}
    (hn : span s.here + span segments ≤ n) : u.walk depth s segments = t.walk depth s segments := by
  induction segments generalizing s with
  | nil => rfl
  | cons segment rest ih =>
    rw [span_cons] at hn
    rw [walk_cons, walk_cons, enter_alike plain h (by simp; omega)]
    cases he : t.enter depth s segment with
    | error e => rfl
    | ok next =>
      have near := enter_span plain he
      simp only [span_cons, span_nil] at near
      exact ih (by omega)

theorem walk_span (plain : t.Linkless) {depth : Nat} {s e : Stage} {segments : List String}
    (h : t.walk depth s segments = .ok e) : span e.here ≤ span s.here + span segments := by
  induction segments generalizing s with
  | nil =>
    cases h
    exact Nat.le_add_right ..
  | cons segment rest ih =>
    rw [walk_cons] at h
    obtain ⟨next, he, h⟩ := ok_of_bind h
    have first := enter_span plain he
    have others := ih h
    simp only [span_cons, span_nil] at first ⊢
    omega

theorem locate_alike (plain : t.Linkless) (h : Alike n t u) {path : String}
    (ha : Path.isAbsolute path = true) (hn : path.length + 1 ≤ n) : u.locate path = t.locate path := by
  have root (v : FileTree) : v.start path = ⟨[], maxLinks⟩ := by rw [start, origin, if_pos ha]
  unfold locate follow
  rw [root, root, walk_alike plain h (by rw [span_segmentsOf]; simpa using hn)]

/-- **Where a path leads is not spelled longer than the path.** -/
theorem locate_span (plain : t.Linkless) {path : String} {p : Place} (ha : Path.isAbsolute path = true)
    (h : t.locate path = .ok p) : span p ≤ path.length + 1 := by
  obtain ⟨links, walked⟩ := (locate_ok.1 h).2
  rw [follow, start, origin, if_pos ha] at walked
  have near := walk_span plain walked
  rw [span_segmentsOf] at near
  simpa using near

end GoGlue.FileTree
