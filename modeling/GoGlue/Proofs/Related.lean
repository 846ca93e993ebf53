import Mathlib.Data.List.Forall2

/-!
# Lists that are related elementwise

What a function makes of a list, an element at a time, is a relation between two lists. Facts about one
element of either list are read off its counterpart in the other.

* `exists_related`, `exists_related_right`: every element has a counterpart.
* `forall₂_of_mapM`: the results of a partial function are related to its arguments.
* `isSome_mapM`: when it has results.
-/
namespace GoGlue

variable {α β : Type}

/-- What stands on the right of a pointwise relation is related to something on the left. -/
theorem exists_related {R : α → β → Prop} {xs : List α} {ys : List β} (h : List.Forall₂ R xs ys) {y : β}
    (hy : y ∈ ys) : ∃ x ∈ xs, R x y := by
  induction h with
  | nil => cases hy
  | cons hr _ ih =>
    rcases List.mem_cons.1 hy with rfl | hy
    · exact ⟨_, List.mem_cons_self, hr⟩
    · obtain ⟨x, hx, hr⟩ := ih hy
      exact ⟨x, List.mem_cons_of_mem _ hx, hr⟩

/-- What stands on the left of a pointwise relation is related to something on the right. -/
theorem exists_related_right {R : α → β → Prop} {xs : List α} {ys : List β} (h : List.Forall₂ R xs ys)
    {x : α} (hx : x ∈ xs) : ∃ y ∈ ys, R x y := by
  obtain ⟨y, hy, hr⟩ := exists_related h.flip hx
  exact ⟨y, hy, hr⟩

/-- The results of a partial function on the elements of a list. -/
theorem forall₂_of_mapM {f : α → Option β} {xs : List α} {ys : List β} (h : xs.mapM f = some ys) :
    List.Forall₂ (fun x y => f x = some y) xs ys := by
  induction xs generalizing ys with
  | nil => cases h; exact .nil
  | cons x rest ih =>
    rw [List.mapM_cons] at h
    simp only [bind, Option.bind_eq_some_iff, pure, Option.some.injEq] at h
    obtain ⟨y, hy, more, hm, rfl⟩ := h
    exact .cons hy (ih hm)

/-- A partial function has results for a list if it has one for each element. -/
theorem isSome_mapM {f : α → Option β} {xs : List α} :
    (xs.mapM f).isSome = true ↔ ∀ x ∈ xs, (f x).isSome = true := by
  induction xs with
  | nil => simp
  | cons x rest ih =>
    rw [List.forall_mem_cons, ← ih, List.mapM_cons]
    cases f x <;> cases rest.mapM f <;> simp

end GoGlue
