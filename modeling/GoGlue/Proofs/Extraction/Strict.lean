import GoGlue.Name.Claim
import GoGlue.Proofs.Extraction.Walk

/-!
# Strict and lenient extraction

A strict and a lenient extraction go through the same sources in the same order. They agree up to the first
symbol that cannot cross the boundary: there the strict one ends, and the lenient one records the symbol
and goes on. How much is said about such symbols changes nothing but the level of the records.

* `extract_lenient`, `extract_strict`: both kinds of extraction, read off the items of the sources.
* `strict_agrees`: the strict result is determined by the lenient one.
-/
namespace GoGlue.Extraction

/-- What there is to extract from: the name of the package, its files and their items. -/
def gather (dir : String) (sources : List (String × String)) :
    Except ExtractError (String × List String × List Item) := do
  let (name, files) ← readSources sources >>= selectPackage dir
  return (name, files.map (·.1), files.flatMap Builder.fileItems)

/-- The records about methods that belong to no struct of the package. -/
def strays (items : List Item) : List LogRecord :=
  strayRecords (attach (items.filterMap Item.method?) [] (items.filterMap Item.struct?))
    (items.filterMap Item.method?)

theorem extract_lenient (verbose : Bool) (dir : String) (sources : List (String × String)) :
    extract ⟨verbose, false⟩ dir sources
      = match gather dir sources with
        | .error e => (.error e, [])
        | .ok (name, files, items) => (.ok (ofItems dir name files items),
            (items.filterMap Item.dropped?).map (droppedRecord verbose) ++ strays items) := by
  rw [extract_eq_walk]
  unfold Builder.extract gather
  cases readSources sources >>= selectPackage dir with
  | error e => rfl
  | ok selected =>
    obtain ⟨name, files⟩ := selected
    simp only [Builder.walkFiles_eq, Builder.run_lenient, Builder.finish_extend]
    rfl

theorem extract_strict (verbose : Bool) (dir : String) (sources : List (String × String)) :
    extract ⟨verbose, true⟩ dir sources
      = match gather dir sources with
        | .error e => (.error e, [])
        | .ok (name, files, items) =>
          match items.filterMap Item.dropped? with
          | [] => (.ok (ofItems dir name files items), strays items)
          | d :: _ => (.error (.unsupported d.symbol d.cause), []) := by
  rw [extract_eq_walk]
  unfold Builder.extract gather
  cases readSources sources >>= selectPackage dir with
  | error e => rfl
  | ok selected =>
    obtain ⟨name, files⟩ := selected
    simp only [Builder.walkFiles_eq, Builder.run_strict]
    show _ = match (files.flatMap Builder.fileItems).filterMap Item.dropped? with
      | [] => _
      | d :: _ => _
    cases hd : (files.flatMap Builder.fileItems).filterMap Item.dropped? with
    | cons d rest => rfl
    | nil =>
      have silent : (Builder.start.extend verbose (files.flatMap Builder.fileItems)).log = [] := by
        simp [Builder.extend, Builder.start, hd]
      simp only [Builder.finish_extend, silent]
      rfl

/-- A record about methods without a struct is no record about a symbol that is left out. -/
theorem strays_quiet (items : List Item) :
    ∀ r ∈ strays items, r.level = .debug ∧ beginsWith "skipping " r.message = false := by
  intro r hr
  obtain ⟨owner, -, rfl⟩ := List.mem_map.1 hr
  exact ⟨rfl, by simp [LogRecord.debug, beginsWith, List.isPrefixOf]⟩

/-- The symbols that an extraction left out. -/
def leftOut : Except ExtractError Extraction → List Dropped
  | .error _ => []
  | .ok x => x.dropped

/-- **Strict and lenient extraction agree.** Strict extraction fails where the lenient one does, refuses the
first symbol that the lenient one leaves out, and gives the same package otherwise. What is said about
symbols that are left out does not change the outcome: there is one record for each of them, in order, of
the level that was asked for, and every other record is the same. -/
theorem strict_agrees (dir : String) (sources : List (String × String)) :
    (∀ v w, (extract ⟨w, true⟩ dir sources).1
      = match (extract ⟨v, false⟩ dir sources).1 with
        | .error e => .error e
        | .ok x =>
          match x.dropped with
          | [] => .ok x
          | d :: _ => .error (.unsupported d.symbol d.cause)) ∧
    (∀ v w, (extract ⟨v, false⟩ dir sources).1 = (extract ⟨w, false⟩ dir sources).1) ∧
    (∀ v w, extract ⟨v, true⟩ dir sources = extract ⟨w, true⟩ dir sources) ∧
    ∃ others : List LogRecord,
      (∀ r ∈ others, r.level = .debug ∧ beginsWith "skipping " r.message = false) ∧
      ∀ v, (extract ⟨v, false⟩ dir sources).2
        = (leftOut (extract ⟨v, false⟩ dir sources).1).map (fun d =>
            ⟨if v then .warn else .debug, "skipping " ++ d.symbol ++ ": " ++ d.cause.message⟩)
          ++ others := by
  have lenient : ∀ v w, (extract ⟨v, false⟩ dir sources).1 = (extract ⟨w, false⟩ dir sources).1 := by
    intro v w
    rw [extract_lenient, extract_lenient]
    cases gather dir sources <;> rfl
  have strict : ∀ v w, extract ⟨v, true⟩ dir sources = extract ⟨w, true⟩ dir sources := by
    intro v w
    rw [extract_strict, extract_strict]
  refine ⟨?_, lenient, strict, ?_⟩
  · intro v w
    rw [extract_lenient, extract_strict]
    cases gather dir sources with
    | error e => rfl
    | ok gathered =>
      obtain ⟨name, files, items⟩ := gathered
      have dropped : (ofItems dir name files items).dropped = items.filterMap Item.dropped? := rfl
      simp only [dropped]
      cases items.filterMap Item.dropped? <;> rfl
  · cases hg : gather dir sources with
    | error e =>
      refine ⟨[], nofun, ?_⟩
      intro v
      rw [extract_lenient, hg]
      rfl
    | ok gathered =>
      obtain ⟨name, files, items⟩ := gathered
      refine ⟨strays items, strays_quiet items, ?_⟩
      intro v
      rw [extract_lenient, hg]
      cases v <;> rfl

end GoGlue.Extraction
