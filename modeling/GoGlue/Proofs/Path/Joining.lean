import GoGlue.Path
import GoGlue.Proofs.Name.Claim

/-!
# Joined paths

A path that is made of names only leads downwards, one name after the other, from wherever it starts. When
such a path is joined to a directory, its segments come after those of the directory, whatever these are;
what may get lost is the empty segment at the end of the directory.

* `Plain.split`: a path of names is one name, or one name behind a path of names.
* `segments_join`: the segments of a joined path.
* `join_join`: joining is associative.
* `parents_join`: the nearest parent of a joined path is what was joined before its last name.
-/
namespace GoGlue.Path

/-! ## Segments -/

theorem segments_slash (cs ds : List Char) :
    segments (cs ++ '/' :: ds) = segments cs ++ segments ds := by
  induction cs with
  | nil => simp [segments]
  | cons c rest ih =>
    simp only [List.cons_append, segments]
    split
    · simp [ih]
    · rw [ih]
      cases h : segments rest with
      | nil => exact absurd h (segments_ne_nil rest)
      | cons s ss => rfl

theorem segments_of_notMem {cs : List Char} (h : '/' ∉ cs) : segments cs = [cs] := by
  induction cs with
  | nil => rfl
  | cons c rest ih =>
    simp only [List.mem_cons, not_or] at h
    simp [segments, Ne.symm h.1, ih h.2]

theorem segments_injective {a b : String} (h : segments a.toList = segments b.toList) : a = b := by
  rw [← String.toList_inj, ← joinSegments_segments a.toList, h, joinSegments_segments]

theorem notMem_segments {cs : List Char} {s : Segment} (h : s ∈ segments cs) : '/' ∉ s := by
  induction cs generalizing s with
  | nil => simp_all [segments]
  | cons c rest ih =>
    unfold segments at h
    split at h
    · rcases List.mem_cons.1 h with rfl | h
      · simp
      · exact ih h
    · next proper =>
      split at h
      · next e => exact absurd e (segments_ne_nil rest)
      · next first others e =>
        rw [e] at ih
        rcases List.mem_cons.1 h with rfl | h
        · rw [List.mem_cons, not_or]
          exact ⟨Ne.symm proper, ih List.mem_cons_self⟩
        · exact ih (List.mem_cons_of_mem _ h)

theorem joinSegments_concat {front : List Segment} (h : front ≠ []) (last : Segment) :
    joinSegments (front ++ [last]) = joinSegments front ++ '/' :: last := by
  induction front with
  | nil => exact absurd rfl h
  | cons s rest ih =>
    cases rest with
    | nil => rfl
    | cons r rest => simpa [joinSegments] using ih (by simp)

/-! ## Names -/

/-- The segment is the name of a file or directory. -/
def IsName (s : Segment) : Prop := s ≠ [] ∧ s ≠ ['.'] ∧ s ≠ ['.', '.']

instance (s : Segment) : Decidable (IsName s) := inferInstanceAs (Decidable (_ ∧ _))

/-- The path leads downwards from anywhere. -/
def Plain (path : String) : Prop := ∀ s ∈ segments path.toList, IsName s

instance (path : String) : Decidable (Plain path) := inferInstanceAs (Decidable (∀ s ∈ _, _))

/-- The path is one name. -/
def Single (path : String) : Prop := '/' ∉ path.toList ∧ IsName path.toList

instance (path : String) : Decidable (Single path) := inferInstanceAs (Decidable (_ ∧ _))

theorem Single.segments {path : String} (h : Single path) : segments path.toList = [path.toList] :=
  segments_of_notMem h.1

theorem Single.plain {path : String} (h : Single path) : Plain path := by
  rw [Plain, h.segments]
  simpa using h.2

theorem toList_slash (a b : String) : (a ++ "/" ++ b).toList = a.toList ++ '/' :: b.toList := by
  simp

theorem plain_slash {a b : String} : Plain (a ++ "/" ++ b) ↔ Plain a ∧ Plain b := by
  simp only [Plain, toList_slash, segments_slash, List.forall_mem_append]

/-- **A path of names is one name, or one name behind a path of names.** -/
theorem Plain.split {path : String} (h : Plain path) :
    Single path ∨ ∃ above name, path = above ++ "/" ++ name ∧ Plain above ∧ Single name := by
  obtain ⟨front, last, e⟩ := (List.eq_nil_or_concat (segments path.toList)).resolve_left
    (segments_ne_nil _)
  rw [List.concat_eq_append] at e
  have spelled := joinSegments_segments path.toList
  have free : '/' ∉ last := notMem_segments (by rw [e]; simp)
  have proper := h last (by rw [e]; simp)
  rw [e] at spelled
  by_cases single : front = []
  · subst single
    have whole : path.toList = last := by simpa [joinSegments] using spelled.symm
    exact .inl ⟨whole ▸ free, whole ▸ proper⟩
  · have spelling : path = String.ofList (joinSegments front) ++ "/" ++ String.ofList last := by
      rw [joinSegments_concat single] at spelled
      rw [← String.toList_inj, ← spelled, toList_slash]
      simp
    refine .inr ⟨_, _, spelling, (plain_slash.1 (spelling ▸ h)).1, ?_⟩
    simpa [Single] using ⟨free, proper⟩

/-- What holds of names, and of a path with one more name, holds of paths of names. -/
theorem Plain.induct {P : String → Prop} (one : ∀ name, Single name → P name)
    (more : ∀ above name, Plain above → Single name → P above → P (above ++ "/" ++ name)) {path : String}
    (h : Plain path) : P path := by
  rcases h.split with single | ⟨above, name, spelling, ha, hn⟩
  · exact one path single
  · rw [spelling]
    exact more above name ha hn (ha.induct one more)
termination_by path.length
decreasing_by
  have slash : "/".length = 1 := rfl
  rw [spelling, String.length_append, String.length_append]
  omega

theorem isAbsolute_iff (path : String) : isAbsolute path = true ↔ path.toList.head? = some '/' := by
  have slash : "/".toList = ['/'] := by decide
  rw [isAbsolute, String.startsWith_string_iff, slash]
  generalize path.toList = cs
  cases cs with
  | nil => simp
  | cons c rest => simp [eq_comm]

theorem endsWith_slash_iff (path : String) :
    path.endsWith "/" = true ↔ ∃ cs, path.toList = cs ++ ['/'] := by
  have slash : "/".toList = ['/'] := by decide
  rw [String.endsWith_eq_endsWith_toSlice, String.Slice.endsWith_string_iff, slash]
  simp [List.IsSuffix, eq_comm]

namespace Plain

variable {path : String}

theorem ne_empty (h : Plain path) : path ≠ "" := by
  rintro rfl
  exact absurd h (by decide)

theorem not_absolute (h : Plain path) : isAbsolute path = false := by
  rw [← Bool.not_eq_true, isAbsolute_iff]
  intro first
  obtain ⟨rest, e⟩ := List.head?_eq_some_iff.1 first
  have empty : [] ∈ segments path.toList := by simp [e, segments]
  exact (h [] empty).1 rfl

theorem not_slash (h : Plain path) : path.endsWith "/" = false := by
  rw [← Bool.not_eq_true, endsWith_slash_iff]
  rintro ⟨cs, e⟩
  have empty : [] ∈ segments path.toList := by simp [e, segments_slash, segments]
  exact (h [] empty).1 rfl

end Plain

/-! ## Joining -/

theorem join_plain {dir path : String} (h : Plain path) :
    join dir path =
      if dir = "" then path else if dir.endsWith "/" then dir ++ path else dir ++ "/" ++ path := by
  simp [join, h.not_absolute]

/-- **The segments of a joined path** are those of the directory, but for an empty one at the end, and then
those of what is joined. -/
theorem segments_join (dir : String) {path : String} (h : Plain path) :
    ∃ front, segments (join dir path).toList = front ++ segments path.toList ∧
      (segments dir.toList = front ∨ segments dir.toList = front ++ [[]]) := by
  rw [join_plain h]
  split
  · next empty => exact ⟨[], rfl, .inr (by rw [empty]; decide)⟩
  · split
    · next slash =>
      obtain ⟨cs, e⟩ := (endsWith_slash_iff dir).1 slash
      refine ⟨segments cs, ?_, .inr ?_⟩
      · rw [String.toList_append, e, List.append_assoc]
        exact segments_slash cs path.toList
      · rw [e]
        exact segments_slash cs []
    · exact ⟨segments dir.toList, by rw [toList_slash, segments_slash], .inl rfl⟩

theorem isAbsolute_join (dir : String) {path : String} (h : Plain path) :
    isAbsolute (join dir path) = isAbsolute dir := by
  rw [join_plain h]
  split
  · next empty => rw [empty, h.not_absolute]; decide
  · next nonempty =>
    rw [Bool.eq_iff_iff, isAbsolute_iff, isAbsolute_iff]
    split
    · rw [head_append _ nonempty]
    · rw [String.append_assoc, head_append _ nonempty]

theorem join_ne_empty (dir : String) {path : String} (h : Plain path) : join dir path ≠ "" := by
  rw [join_plain h]
  split
  · exact h.ne_empty
  · next nonempty =>
    split
    · exact append_ne_empty _ nonempty
    · exact append_ne_empty _ (append_ne_empty _ nonempty)

/-- What ends in a name does not end in a slash. -/
theorem endsWith_append_plain (dir : String) {path : String} (h : Plain path) :
    (dir ++ path).endsWith "/" = false := by
  rw [← h.not_slash, Bool.eq_iff_iff, endsWith_slash_iff, endsWith_slash_iff, String.toList_append]
  have last : path.toList ≠ [] := fun e => h.ne_empty (String.toList_injective e)
  obtain ⟨cs, c, e⟩ := List.eq_nil_or_concat path.toList |>.resolve_left last
  rw [e]
  simp [← List.append_assoc]

theorem endsWith_join (dir : String) {path : String} (h : Plain path) :
    (join dir path).endsWith "/" = false := by
  rw [join_plain h]
  split
  · exact h.not_slash
  · split
    · exact endsWith_append_plain dir h
    · exact endsWith_append_plain (dir ++ "/") h

/-- **Joining is associative** behind the first path. -/
theorem join_join (dir : String) {a b : String} (ha : Plain a) (hb : Plain b) :
    join (join dir a) b = join dir (a ++ "/" ++ b) := by
  rw [join_plain hb, if_neg (join_ne_empty dir ha), endsWith_join dir ha,
    join_plain (plain_slash.2 ⟨ha, hb⟩), join_plain ha]
  simp only [Bool.false_eq_true, if_false]
  by_cases empty : dir = ""
  · simp [empty]
  · by_cases slash : dir.endsWith "/" = true <;> simp [empty, slash, String.append_assoc]

/-! ## Parents -/

theorem IsName.not_idle {s : Segment} (h : IsName s) : isIdle s = false := by
  simp [isIdle, h.1, h.2.1]

theorem dropIdle_cons {s : Segment} (rest : List Segment) (h : IsName s) :
    dropIdle (s :: rest) = s :: rest := by
  cases rest with
  | nil => rfl
  | cons r rest => simp [dropIdle, h.not_idle]

/-- The parents of a path that ends in two names. -/
theorem parents_of_segments {path above : String} {name last : Segment} {front : List Segment}
    (hp : segments path.toList = front ++ [last, name]) (ha : segments above.toList = front ++ [last])
    (hn : IsName name) (hl : IsName last) : parents path = above :: parents above := by
  have spelled : String.ofList (joinSegments (front ++ [last])) = above := by
    rw [← ha, joinSegments_segments, String.ofList_toList]
  have reversed : (segments path.toList).reverse = name :: last :: front.reverse := by simp [hp]
  have reversedAbove : (segments above.toList).reverse = last :: front.reverse := by simp [ha]
  rw [parents, parents, reversed, reversedAbove, dropIdle_cons _ hn, dropIdle_cons _ hl]
  cases hf : front.reverse with
  | nil =>
    have empty : front = [] := List.reverse_eq_nil_iff.1 hf
    subst empty
    have one : String.ofList last = above := by simpa [joinSegments] using spelled
    simp [upwards, hl.1, one]
  | cons next rest =>
    have order : (last :: next :: rest).reverse = front ++ [last] := by simp [← hf]
    simp [upwards, hl.not_idle, order, spelled]

/-- **The nearest parent of a joined path is what was joined before its last name.** -/
theorem parents_join (dir : String) {path name : String} (h : Plain path) (hn : Single name) :
    parents (join dir (path ++ "/" ++ name)) = join dir path :: parents (join dir path) := by
  obtain ⟨front, hf, -⟩ := segments_join dir h
  obtain ⟨init, last, hl⟩ := (List.eq_nil_or_concat (segments path.toList)).resolve_left
    (segments_ne_nil _)
  have above : segments (join dir path).toList = (front ++ init) ++ [last] := by simp [hf, hl]
  have longer : segments (join dir (path ++ "/" ++ name)).toList = (front ++ init) ++ [last, name.toList] := by
    rw [← join_join dir h hn.plain, join_plain hn.plain, if_neg (join_ne_empty dir h),
      endsWith_join dir h, if_neg (by decide), toList_slash, segments_slash, above, hn.segments]
    simp
  exact parents_of_segments longer above hn.2 (h last (by simp [hl]))

end GoGlue.Path
