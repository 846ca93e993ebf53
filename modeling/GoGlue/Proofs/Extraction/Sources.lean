import GoGlue.Proofs.Extraction.Strict
import Mathlib.Data.List.Forall2

/-!
# What an extraction reads

The files of an extraction, told apart from how they are found: a file for each Go source that is no test,
all in order, and of these the files of one package. That is the package of the first file that belongs to
no test package.

* `readSources_eq_ok`, `selectPackage_eq_ok`: both steps, from what they find.
* `extract_ok`, `extract_lenient_ok`: an extraction that succeeds puts together the items of the files that
  it selected, and a lenient one succeeds as soon as there are such files.
-/
namespace GoGlue.Extraction

/-! ## Reading -/

/-- The files of the Go sources that are no tests, in the order of the sources. -/
def ReadAs (sources : List (String × String)) (files : List (String × SourceFile)) : Prop :=
  List.Forall₂ (fun source file => file.1 = source.1 ∧ SourceFile.parse source.2 = .ok file.2)
    (sources.filter (isPackageSource ·.1)) files

theorem readSources_eq_ok {sources : List (String × String)} {files : List (String × SourceFile)} :
    readSources sources = .ok files ↔ ReadAs sources files := by
  unfold ReadAs
  induction sources generalizing files with
  | nil => simp [readSources, eq_comm]
  | cons source rest ih =>
    obtain ⟨name, text⟩ := source
    simp only [readSources]
    by_cases skip : isPackageSource name = true
    · simp only [List.filter_cons, skip, if_true]
      cases hp : SourceFile.parse text with
      | error e => simp [List.forall₂_cons_left_iff, hp]
      | ok file =>
        simp only [List.forall₂_cons_left_iff, ← ih, hp]
        constructor
        · intro h
          cases hr : readSources rest with
          | error e => simp [hr, Except.map] at h
          | ok more =>
            simp only [hr, Except.map, Except.ok.injEq] at h
            exact ⟨(name, file), more, ⟨rfl, rfl⟩, rfl, h.symm⟩
        · rintro ⟨⟨_, _⟩, more, ⟨rfl, he⟩, hr, rfl⟩
          cases he
          rw [hr]
          rfl
    · simp only [List.filter_cons, skip]
      exact ih

/-! ## Selecting -/

/-- The package of that name is the one to extract, and these are its files. -/
structure Selected (read : List (String × SourceFile)) (name : String)
    (files : List (String × SourceFile)) : Prop where
  /-- It is the package of the first file that belongs to no test package. -/
  first : ∃ before file after, read = before ++ file :: after ∧ file.2.package = name ∧
    name.endsWith "_test" = false ∧ ∀ other ∈ before, other.2.package.endsWith "_test" = true
  files : files = read.filter (·.2.package = name)

theorem selectPackage_eq_ok {dir name : String} {read files : List (String × SourceFile)} :
    selectPackage dir read = .ok (name, files) ↔ Selected read name files := by
  unfold selectPackage
  constructor
  · intro h
    split at h
    · cases h
    · split at h
      · cases h
      · rename_i found hf
        cases h
        obtain ⟨ht, before, after, he, hb⟩ := List.find?_eq_some_iff_append.1 hf
        exact ⟨⟨before, _, after, he, rfl, by simpa using ht, by simpa using hb⟩, rfl⟩
  · rintro ⟨⟨before, ⟨path, file⟩, after, rfl, rfl, ht, hb⟩, rfl⟩
    have found : (before ++ (path, file) :: after).find? (fun f => !f.2.package.endsWith "_test")
        = some (path, file) :=
      List.find?_eq_some_iff_append.2 ⟨by simpa using ht, before, after, rfl, by simpa using hb⟩
    rw [if_neg (by simp), found]

/-! ## Extracting -/

theorem gather_eq_ok {dir name : String} {sources : List (String × String)} {files : List String}
    {items : List Item} :
    gather dir sources = .ok (name, files, items)
      ↔ ∃ read selected, ReadAs sources read ∧ Selected read name selected ∧
        files = selected.map (·.1) ∧ items = selected.flatMap Builder.fileItems := by
  unfold gather
  constructor
  · intro h
    cases hr : readSources sources with
    | error e => simp [hr, bind, Except.bind] at h
    | ok read =>
      cases hs : selectPackage dir read with
      | error e => simp [hr, hs, bind, Except.bind] at h
      | ok selected =>
        simp only [hr, hs, bind, Except.bind, pure, Except.pure, Except.ok.injEq, Prod.mk.injEq] at h
        obtain ⟨rfl, rfl, rfl⟩ := h
        exact ⟨read, selected.2, readSources_eq_ok.1 hr, selectPackage_eq_ok.1 hs, rfl, rfl⟩
  · rintro ⟨read, selected, hr, hs, rfl, rfl⟩
    rw [readSources_eq_ok.2 hr]
    simp only [bind, Except.bind, selectPackage_eq_ok.2 hs]
    rfl

/-- **Extraction succeeds** only with the items of the files that it selected. -/
theorem extract_ok {opts : ExtractOptions} {dir : String} {sources : List (String × String)}
    {x : Extraction} (h : (extract opts dir sources).1 = .ok x) :
    ∃ read name files, ReadAs sources read ∧ Selected read name files ∧
      x = ofItems dir name (files.map (·.1)) (files.flatMap Builder.fileItems) := by
  obtain ⟨name, paths, items, hg, rfl⟩ : ∃ name paths items,
      gather dir sources = .ok (name, paths, items) ∧ x = ofItems dir name paths items := by
    obtain ⟨verbose, strict⟩ := opts
    cases hg : gather dir sources with
    | error e => cases strict <;> simp [extract_lenient, extract_strict, hg] at h
    | ok gathered =>
      obtain ⟨name, paths, items⟩ := gathered
      refine ⟨name, paths, items, rfl, ?_⟩
      cases strict with
      | false => simpa [extract_lenient, hg, eq_comm] using h
      | true =>
        rw [extract_strict, hg] at h
        simp only at h
        split at h
        · simpa [eq_comm] using h
        · cases h
  obtain ⟨read, files, hr, hs, rfl, rfl⟩ := gather_eq_ok.1 hg
  exact ⟨read, name, files, hr, hs, rfl⟩

/-- **A lenient extraction succeeds** whenever the sources can be read and hold a package. -/
theorem extract_lenient_ok {verbose : Bool} {dir name : String} {sources : List (String × String)}
    {read files : List (String × SourceFile)} (hr : ReadAs sources read)
    (hs : Selected read name files) :
    (extract ⟨verbose, false⟩ dir sources).1
      = .ok (ofItems dir name (files.map (·.1)) (files.flatMap Builder.fileItems)) := by
  rw [extract_lenient, gather_eq_ok.2 ⟨read, files, hr, hs, rfl, rfl⟩]

end GoGlue.Extraction
