import GoGlue.Comment
import Mathlib.Data.List.Chain

/-!
# Groups of comments

The comments that document a line stand next to each other in the source. Each begins at the latest on the line
below the one in front of it, none has a token before it on its line, and the last ends directly above the
documented line.

* `docGroup_grouped`: what is found is such a group.
* `docGroup_eq_self`: such a group is found if nothing else is there.
-/
namespace GoGlue.Comment

/-- Comments one below the other, the last one directly above the given line. -/
structure Grouped (line : Nat) (cs : List Comment) : Prop where
  plain : ∀ c ∈ cs, c.trailing = false
  close : cs.IsChain fun a b => b.line ≤ a.endLine + 1
  above : ∀ c ∈ cs.getLast?, c.endLine + 1 = line

theorem groupBack_isPrefix (c : Comment) (earlier : List Comment) : groupBack c earlier <+: c :: earlier := by
  induction earlier generalizing c with
  | nil => exact List.prefix_rfl
  | cons p earlier ih =>
    rw [groupBack]
    split
    · exact List.prefix_append [c] _
    · exact (List.prefix_cons_inj c).2 (ih p)

theorem groupBack_head? (c : Comment) (earlier : List Comment) : (groupBack c earlier).head? = some c := by
  cases earlier with
  | nil => rfl
  | cons p earlier =>
    rw [groupBack]
    split <;> rfl

theorem groupBack_isChain (c : Comment) (earlier : List Comment) :
    (groupBack c earlier).IsChain fun b a => b.line ≤ a.endLine + 1 := by
  induction earlier generalizing c with
  | nil => exact .singleton c
  | cons p earlier ih =>
    rw [groupBack]
    split
    · exact .singleton c
    · next h =>
      refine List.isChain_cons.2 ⟨fun a ha => ?_, ih p⟩
      obtain rfl : p = a := by simpa [groupBack_head?] using ha
      simp at h
      exact h.2

theorem groupBack_plain {c : Comment} (hc : c.trailing = false) (earlier : List Comment) :
    ∀ a ∈ groupBack c earlier, a.trailing = false := by
  induction earlier generalizing c with
  | nil => simpa [groupBack] using hc
  | cons p earlier ih =>
    rw [groupBack]
    split
    · simpa using hc
    · next h =>
      simp at h
      exact List.forall_mem_cons.2 ⟨hc, ih h.1⟩

/-- **What is found is a group** that stands in the source as it is. -/
theorem docGroup_grouped (comments : List Comment) (line : Nat) :
    Grouped line (docGroup comments line) ∧ docGroup comments line <:+: comments := by
  unfold docGroup
  split
  · exact ⟨⟨by simp, .nil, by simp⟩, List.nil_infix⟩
  · next c earlier h =>
    have found : (c.trailing || c.endLine + 1 != line) = false := by
      have := List.head?_dropWhile_not (fun c : Comment => c.trailing || c.endLine + 1 != line) comments.reverse
      rw [h] at this
      simpa using this
    obtain ⟨plain, above⟩ : c.trailing = false ∧ c.endLine + 1 = line := by simpa using found
    refine ⟨⟨?_, ?_, ?_⟩, ?_⟩
    · simpa using groupBack_plain plain earlier
    · rw [List.isChain_reverse]
      exact groupBack_isChain c earlier
    · simpa [groupBack_head?] using above
    · have back : c :: earlier <:+ comments.reverse := h ▸ List.dropWhile_suffix _
      have : groupBack c earlier <:+: comments.reverse :=
        (groupBack_isPrefix c earlier).isInfix.trans back.isInfix
      simpa using List.reverse_infix.2 this

theorem groupBack_eq_self {c : Comment} {earlier : List Comment}
    (h : (c :: earlier).IsChain fun b a => a.trailing = false ∧ b.line ≤ a.endLine + 1) :
    groupBack c earlier = c :: earlier := by
  induction earlier generalizing c with
  | nil => rfl
  | cons p earlier ih =>
    obtain ⟨⟨ht, hl⟩, rest⟩ := List.isChain_cons_cons.1 h
    rw [groupBack, if_neg (by simpa [ht] using hl), ih rest]

/-- **A group is found** if no other comments are there. -/
theorem docGroup_eq_self {cs : List Comment} {line : Nat} (h : Grouped line cs) : docGroup cs line = cs := by
  rcases List.eq_nil_or_concat' cs with rfl | ⟨init, c, rfl⟩
  · rfl
  · have above : c.endLine + 1 = line := h.above c (by simp)
    have plain : c.trailing = false := h.plain c (by simp)
    have both : (init ++ [c]).IsChain fun a b => a.trailing = false ∧ b.line ≤ a.endLine + 1 :=
      h.close.imp_of_mem_imp fun a b ha _ hab => ⟨h.plain a ha, hab⟩
    rw [← List.reverse_reverse (init ++ [c]), List.isChain_reverse] at both
    have back : groupBack c init.reverse = c :: init.reverse := groupBack_eq_self (by simpa using both)
    unfold docGroup
    rw [List.reverse_append, List.reverse_singleton, List.singleton_append,
      List.dropWhile_cons_of_neg (by simp [above, plain])]
    dsimp only
    rw [back, List.reverse_cons, List.reverse_reverse]

end GoGlue.Comment
