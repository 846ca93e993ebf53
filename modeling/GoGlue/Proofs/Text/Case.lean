import GoGlue.Text.Case

/-!
# What case mapping leaves out

A character that no letter maps to is in the case of a character only if it is that character. The tables are
searched for it once.

* `notMem_mapCase`: what to look for in the tables.
* `lower_underscore`: the lower case of a letter has no underscore.
-/
namespace GoGlue.Text

theorem toNat_of_ofNat {n : Nat} {x : Char} (visible : 0 < x.toNat) (h : Char.ofNat n = x) : n = x.toNat := by
  subst h
  by_cases valid : n.isValidChar
  · rw [Char.ofNat, dif_pos valid]
    rfl
  · rw [Char.ofNat, dif_neg valid] at visible
    exact absurd visible (by decide)

/-- **A character that the tables do not lead to** is the case of itself only. -/
theorem notMem_mapCase {runs : List CaseRun} {special : List (Nat × List Nat)} {x c : Char}
    (visible : 0 < x.toNat) (noSpecial : ∀ p ∈ special, x.toNat ∉ p.2)
    (noRun : ∀ r ∈ runs, r.covers (x.toNat - r.offset).toNat = false) (h : c ≠ x) :
    x ∉ mapCase runs special c := by
  unfold mapCase
  split
  · next cs found =>
    intro mem
    obtain ⟨n, hn, e⟩ := List.mem_map.1 mem
    obtain ⟨before, after, table, -⟩ := List.lookup_eq_some_iff.1 found
    exact noSpecial (c.toNat, cs) (by simp [table]) (toNat_of_ofNat visible e ▸ hn)
  · split
    · next r found =>
      intro mem
      have code := toNat_of_ofNat visible (List.mem_singleton.1 mem).symm
      have source : (x.toNat - r.offset).toNat = c.toNat := by omega
      exact absurd (source ▸ List.find?_some found) (by simp [noRun r (List.mem_of_find?_eq_some found)])
    · simpa using h.symm

theorem lower_ne_nil (c : Char) : lower c ≠ [] := by
  have special : ∀ p ∈ lowerSpecial, p.2 ≠ [] := by decide
  unfold lower mapCase
  split
  · simp
  · split
    · next cs found =>
      obtain ⟨before, after, table, -⟩ := List.lookup_eq_some_iff.1 found
      simpa using special (c.toNat, cs) (by simp [table])
    · split <;> simp

/-- The lower case of a character other than an underscore has none. -/
theorem lower_underscore {c : Char} (h : c ≠ '_') : '_' ∉ lower c := by
  have ascii : ∀ n < 128, Char.ofNat n ≠ '_' → (Char.ofNat n).toLower ≠ '_' := by decide
  unfold lower
  split
  · next low =>
    have here := ascii c.toNat low
    rw [Char.ofNat_toNat] at here
    simpa using (here h).symm
  · exact notMem_mapCase (by decide) (by decide) (by decide +kernel) h

end GoGlue.Text
