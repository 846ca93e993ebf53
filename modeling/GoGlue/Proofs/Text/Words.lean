import GoGlue.Text.Words
import GoGlue.Writer

/-!
# Words of code

Code is put together from parts with literals between them that begin and end with other characters, so the words
of the whole are those of the parts.

* `words_around`, `words_before`, `words_after`: the words of a text that a literal splits.
* `words_intercalate`: the words of a list that is written with commas.
* `Layout.linesAll`: the lines of a layout.
-/
namespace GoGlue

namespace Text

/-- The literal begins with a character that no identifier has. -/
def opensGap (lit : String) : Bool := lit.toList.head?.any fun c => !isWordChar c

/-- The literal ends with a character that no identifier has. -/
def closesGap (lit : String) : Bool := lit.toList.getLast?.any fun c => !isWordChar c

theorem mem_words {s n : String} :
    n ∈ words s ↔ n.toList ∈ pieces s.toList ∧ n ≠ "" := by
  simp only [words, wordsOf, List.mem_filter, List.mem_map, decide_eq_true_eq]
  refine and_congr_left fun _ => ⟨?_, fun h => ⟨n.toList, h, String.ofList_toList⟩⟩
  rintro ⟨w, hw, rfl⟩
  rwa [String.toList_ofList]

/-- A character that no identifier has splits a text. -/
theorem wordsOf_split (cs ds : List Char) {c : Char} (h : isWordChar c = false) :
    wordsOf (cs ++ c :: ds) = wordsOf cs ++ wordsOf ds := by
  have split : pieces (cs ++ c :: ds) = pieces cs ++ pieces ds :=
    List.splitOnP_append_cons cs ds (by simp [h])
  simp only [wordsOf, split, List.map_append, List.filter_append]

theorem wordsOf_cons (cs : List Char) {c : Char} (h : isWordChar c = false) :
    wordsOf (c :: cs) = wordsOf cs := wordsOf_split [] cs h

theorem wordsOf_concat (cs : List Char) {c : Char} (h : isWordChar c = false) :
    wordsOf (cs ++ [c]) = wordsOf cs := by
  have none : wordsOf [] = [] := rfl
  rw [wordsOf_split cs [] h, none, List.append_nil]

/-- The words of a text that ends with a literal. -/
theorem words_after {lit : String} (h : opensGap lit = true) (a : String) :
    words (a ++ lit) = words a ++ words lit := by
  obtain ⟨c, hc, gap⟩ := (Option.any_eq_true _ _).1 h
  obtain ⟨cs, e⟩ := List.head?_eq_some_iff.1 hc
  have other : isWordChar c = false := by simpa using gap
  simp only [words, String.toList_append, e, wordsOf_split _ _ other, wordsOf_cons _ other]

/-- The words of a text that begins with a literal. -/
theorem words_before {lit : String} (h : closesGap lit = true) (b : String) :
    words (lit ++ b) = words lit ++ words b := by
  obtain ⟨c, hc, gap⟩ := (Option.any_eq_true _ _).1 h
  obtain ⟨cs, e⟩ := List.getLast?_eq_some_iff.1 hc
  have other : isWordChar c = false := by simpa using gap
  show wordsOf (lit ++ b).toList = wordsOf lit.toList ++ wordsOf b.toList
  rw [String.toList_append, e, wordsOf_concat _ other, List.append_assoc, List.singleton_append,
    wordsOf_split _ _ other]

theorem closesGap_append {lit : String} (h : closesGap lit = true) (a : String) :
    closesGap (a ++ lit) = true := by
  obtain ⟨c, hc, gap⟩ := (Option.any_eq_true _ _).1 h
  simp [closesGap, List.getLast?_append, hc] at gap ⊢
  exact gap

/-- **The words of a text that a literal splits.** -/
theorem words_around {lit : String} (opens : opensGap lit = true) (closes : closesGap lit = true)
    (a b : String) : words (a ++ lit ++ b) = words a ++ words lit ++ words b := by
  rw [words_before (closesGap_append closes a), words_after opens]

/-- The words of a list that is written with commas. -/
theorem words_intercalate (xs : List String) : words (", ".intercalate xs) = xs.flatMap words := by
  have nothing : words "" = [] := by decide +kernel
  have comma : words ", " = [] := by decide +kernel
  induction xs with
  | nil => exact nothing
  | cons x rest ih =>
    cases rest with
    | nil => simp
    | cons y rest =>
      rw [String.intercalate_cons_of_ne_nil (by simp), words_around (by decide +kernel) (by decide +kernel), ih, comma,
        List.append_nil]
      rfl

theorem mem_words_intercalate {n x : String} {xs : List String} (hx : x ∈ xs) (h : n ∈ words x) :
    n ∈ words (", ".intercalate xs) := by
  rw [words_intercalate]
  exact List.mem_flatMap_of_mem hx h

end Text

/-! ## Lines -/

namespace Layout

mutual
/-- The lines of a layout, without indentation. -/
def lines : Layout → List String
  | blank => []
  | line text => [text]
  | suite header body footer => header :: linesAll body ++ if footer = "" then [] else [footer]
def linesAll : List Layout → List String
  | [] => []
  | l :: rest => l.lines ++ linesAll rest
end

theorem linesAll_append (ls ms : List Layout) : linesAll (ls ++ ms) = linesAll ls ++ linesAll ms := by
  induction ls with
  | nil => rfl
  | cons l rest ih => simp [linesAll, ih]

end Layout

end GoGlue
