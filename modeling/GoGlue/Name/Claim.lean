/-!
# Claiming names

A name that is already in use, or that may not be used, is changed by writing underscores after it until
it is free. The names that may not be used are given as data: single names, beginnings that no name may
have, and the names of numbered temporaries. So it can be decided that no number of underscores helps:
that is the case once the name has a reserved beginning.

* `claim_free`: a claimed name is free.
* `claim_blocked`: a name with a reserved beginning cannot be claimed.
-/
namespace GoGlue

/-- Names that may not be used. -/
structure Reserved where
  names : List String := []
  /-- No name that begins like this may be used. -/
  beginnings : List String := []
  /-- The letters `r` and `c` followed by a number may not be used. -/
  temporaries : Bool := false

/-- `name` begins with `start`. -/
def beginsWith (start name : String) : Bool := start.toList.isPrefixOf name.toList

/-- The name of a numbered temporary without its underscore, such as `r0`; mirrors `is_result_temp`. -/
def isTemporary (name : String) : Bool :=
  match name.toList with
  | c :: d :: digits => (c == 'r' || c == 'c') && (d :: digits).all Char.isDigit
  | _ => false

namespace Reserved

/-- The name has a beginning that no name may have. -/
def blocks (r : Reserved) (name : String) : Bool := r.beginnings.any (beginsWith · name)

/-- The name itself may not be used, although a longer one may. -/
def holds (r : Reserved) (name : String) : Bool :=
  r.names.contains name || r.temporaries && isTemporary name

def contains (r : Reserved) (name : String) : Bool := r.holds name || r.blocks name

/-- How many of the names in question are at least as long as `name`; one more for a temporary. This is
what bounds the number of underscores. -/
def remaining (r : Reserved) (taken : List String) (name : String) : Nat :=
  (r.names ++ taken).countP (fun n => name.length ≤ n.length) + if isTemporary name then 1 else 0

end Reserved

theorem isTemporary_append (name : String) : isTemporary (name ++ "_") = false := by
  have hu : "_".toList = ['_'] := by decide
  have hd : Char.isDigit '_' = false := by decide
  unfold isTemporary
  rw [String.toList_append, hu]
  rcases name.toList with _ | ⟨c, _ | ⟨d, rest⟩⟩ <;> simp [hd]

theorem length_underscore (name : String) : (name ++ "_").length = name.length + 1 := by
  have hu : "_".length = 1 := by decide
  rw [String.length_append, hu]

theorem countP_longer_le (ns : List String) (k : Nat) :
    ns.countP (fun n => k + 1 ≤ n.length) ≤ ns.countP (fun n => k ≤ n.length) :=
  List.countP_mono_left fun n _ h => by simp at h ⊢; omega

theorem countP_longer_lt (ns : List String) (name : String) (h : name ∈ ns) :
    ns.countP (fun n => name.length + 1 ≤ n.length) < ns.countP (fun n => name.length ≤ n.length) := by
  induction ns with
  | nil => simp at h
  | cons m rest ih =>
    have hle := countP_longer_le rest name.length
    simp only [List.countP_cons, decide_eq_true_eq]
    rcases List.mem_cons.1 h with rfl | h
    · rw [if_neg (by omega), if_pos (Nat.le_refl _)]; omega
    · have := ih h
      split <;> split <;> omega

/-- The name with the fewest underscores after it that makes it free; `none` if there is no such
number; mirrors `claim`. -/
def claim (r : Reserved) (taken : List String) (name : String) : Option String :=
  if r.blocks name then none
  else if r.holds name || taken.contains name then claim r taken (name ++ "_")
  else some name
termination_by r.remaining taken name
decreasing_by
  rename_i hheld
  unfold Reserved.remaining
  rw [isTemporary_append, length_underscore]
  have hle := countP_longer_le (r.names ++ taken) name.length
  by_cases hm : name ∈ r.names ++ taken
  · have := countP_longer_lt (r.names ++ taken) name hm
    simp only [Bool.false_eq_true, if_false]
    split <;> omega
  · have ht : isTemporary name = true := by
      simp only [Reserved.holds, Bool.or_eq_true, Bool.and_eq_true, List.contains_iff_mem] at hheld
      simp only [List.mem_append] at hm
      rcases hheld with (h | h) | h
      · exact absurd (Or.inl h) hm
      · exact h.2
      · exact absurd (Or.inr h) hm
    simp only [ht, Bool.false_eq_true, if_false, if_true]
    omega

theorem claim_free (r : Reserved) (taken : List String) (name free : String)
    (h : claim r taken name = some free) : r.contains free = false ∧ free ∉ taken := by
  fun_induction claim r taken name with
  | case1 => simp at h
  | case2 name hb hh ih => exact ih h
  | case3 name hb hh =>
    simp only [Option.some.injEq] at h
    subst h
    simp only [Bool.or_eq_true, List.contains_iff_mem, not_or] at hh
    simp [Reserved.contains, hb, hh.1, hh.2]

theorem claim_blocked (r : Reserved) (taken : List String) (name : String)
    (h : r.blocks name = true) : claim r taken name = none := by
  rw [claim]; simp [h]

/-- Claim names one after the other, each also against those before it. -/
def claimAll (r : Reserved) (taken : List String) : List String → Option (List String)
  | [] => some []
  | name :: rest => do
    let free ← claim r taken name
    return free :: (← claimAll r (free :: taken) rest)

end GoGlue
