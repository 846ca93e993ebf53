/-!
# Sorted sets of strings

Lists in ascending order by code points, without repetition.

* `mem_insertSorted`, `mem_sortedSet`: sorting neither loses nor adds an element.
* `sortedSet_ascending`, `sortedSet_nodup`: the result ascends, so it has nothing twice.
-/
namespace GoGlue.Text

/-- Put a string at its place unless it is there. -/
def insertSorted (s : String) : List String → List String
  | [] => [s]
  | x :: rest =>
    if s < x then s :: x :: rest else if s = x then x :: rest else x :: insertSorted s rest

/-- The strings in ascending order, each once. -/
def sortedSet (ss : List String) : List String := ss.foldr insertSorted []

theorem mem_insertSorted (s t : String) (ss : List String) :
    t ∈ insertSorted s ss ↔ t = s ∨ t ∈ ss := by
  induction ss with
  | nil => simp [insertSorted]
  | cons x rest ih =>
    unfold insertSorted
    split
    · simp
    · split
      · rename_i h; subst h; simp
      · simp [ih, or_left_comm]

theorem mem_sortedSet (t : String) (ss : List String) : t ∈ sortedSet ss ↔ t ∈ ss := by
  induction ss with
  | nil => simp [sortedSet]
  | cons s rest ih => simp only [sortedSet, List.foldr_cons, mem_insertSorted] at ih ⊢; simp [ih]

theorem insertSorted_ascending (s : String) {ss : List String} (h : ss.Pairwise (· < ·)) :
    (insertSorted s ss).Pairwise (· < ·) := by
  induction ss with
  | nil => simp [insertSorted]
  | cons x rest ih =>
    obtain ⟨first, others⟩ := List.pairwise_cons.1 h
    unfold insertSorted
    split
    · rename_i hlt
      refine List.pairwise_cons.2 ⟨fun t ht => ?_, h⟩
      rcases List.mem_cons.1 ht with rfl | ht
      · exact hlt
      · exact String.lt_trans hlt (first t ht)
    · split
      · exact h
      · rename_i hn hne
        refine List.pairwise_cons.2 ⟨fun t ht => ?_, ih others⟩
        rcases (mem_insertSorted s t rest).1 ht with rfl | ht
        · exact Std.not_le.1 fun hle => hne (Std.le_antisymm hle (Std.not_lt.1 hn))
        · exact first t ht

theorem sortedSet_ascending (ss : List String) : (sortedSet ss).Pairwise (· < ·) := by
  induction ss with
  | nil => exact .nil
  | cons s rest ih => exact insertSorted_ascending s ih

theorem sortedSet_nodup (ss : List String) : (sortedSet ss).Nodup :=
  (sortedSet_ascending ss).imp String.ne_of_lt

end GoGlue.Text
