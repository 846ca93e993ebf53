import GoGlue.Proofs.Name.Claim
import Mathlib.Data.Nat.Find

/-!
# The fewest underscores

A name is claimed by a loop that writes an underscore after it for as long as it is reserved or taken. For an
arbitrary test of names nothing bounds this loop: it comes to an end exactly if some number of underscores
helps, and then with the least such number. For the reserved names of the glue the loop is decided, so that
a claim without an answer is one whose loop never ends.

* `claims_iff_fewest`, `exists_claims_iff`: the loop ends with the fewest underscores that help, if any number
  of them does.
* `claim_eq_some_iff`: a claim answers with what the loop ends with.
* `claimAll_eq_some_iff`: names that are claimed in turn take nothing but each other away.
-/
namespace GoGlue

/-- The name with a number of underscores after it. -/
def underscored (name : String) (k : Nat) : String := name ++ String.ofList (List.replicate k '_')

theorem underscored_zero (name : String) : underscored name 0 = name := by
  simp [underscored]

theorem underscored_succ (name : String) (k : Nat) :
    underscored name (k + 1) = underscored (name ++ "_") k := by
  have hu : "_".toList = ['_'] := by decide
  apply String.toList_injective
  simp [underscored, hu, List.replicate_succ]

section

variable {reserved : String → Bool} {taken : List String} {name free : String}

/-! ## The loop -/

/-- The name is neither reserved nor taken. -/
def IsFree (reserved : String → Bool) (taken : List String) (name : String) : Prop :=
  reserved name = false ∧ name ∉ taken

/-- The loop on a name ends with a free one. -/
inductive Claims (reserved : String → Bool) (taken : List String) : String → String → Prop
  | done {name : String} (h : IsFree reserved taken name) : Claims reserved taken name name
  | next {name free : String} (h : ¬ IsFree reserved taken name)
      (more : Claims reserved taken (name ++ "_") free) : Claims reserved taken name free

/-- The free name with the fewest underscores after the name. -/
def Fewest (reserved : String → Bool) (taken : List String) (name free : String) : Prop :=
  ∃ k, free = underscored name k ∧ IsFree reserved taken free ∧
    ∀ j < k, ¬ IsFree reserved taken (underscored name j)

/-- A free name needs no underscore. -/
theorem fewest_of_free (h : IsFree reserved taken name) : Fewest reserved taken name name :=
  ⟨0, (underscored_zero name).symm, h, by simp⟩

/-- A name that is not free needs one underscore more than the name with an underscore. -/
theorem fewest_underscore (h : ¬ IsFree reserved taken name)
    (more : Fewest reserved taken (name ++ "_") free) : Fewest reserved taken name free := by
  obtain ⟨k, rfl, hf, least⟩ := more
  refine ⟨k + 1, (underscored_succ name k).symm, hf, fun j hj => ?_⟩
  cases j with
  | zero => rwa [underscored_zero]
  | succ j =>
    rw [underscored_succ]
    exact least j (by omega)

/-- **The loop ends with the fewest underscores that help.** -/
theorem claims_iff_fewest : Claims reserved taken name free ↔ Fewest reserved taken name free := by
  constructor
  · intro h
    induction h with
    | done h => exact fewest_of_free h
    | next h _ ih => exact fewest_underscore h ih
  · rintro ⟨k, rfl, hf, least⟩
    induction k generalizing name with
    | zero =>
      rw [underscored_zero] at hf ⊢
      exact .done hf
    | succ k ih =>
      rw [underscored_succ] at hf ⊢
      refine .next ?_ (ih hf fun j hj => ?_)
      · simpa [underscored_zero] using least 0 (by omega)
      · rw [← underscored_succ]
        exact least (j + 1) (by omega)

/-- **The loop ends exactly if some number of underscores helps.** -/
theorem exists_claims_iff :
    (∃ free, Claims reserved taken name free) ↔ ∃ k, IsFree reserved taken (underscored name k) := by
  classical
  constructor
  · rintro ⟨free, h⟩
    obtain ⟨k, rfl, hf, -⟩ := claims_iff_fewest.1 h
    exact ⟨k, hf⟩
  · intro h
    exact ⟨_, claims_iff_fewest.2 ⟨Nat.find h, rfl, Nat.find_spec h, fun j => Nat.find_min h⟩⟩

/-- Names are claimed one after the other: each one is taken from then on, and nothing else is. -/
inductive InTurn (reserved : String → Bool) : List String → List String → List String → Prop
  | nil {taken : List String} : InTurn reserved taken [] []
  | cons {taken names more : List String} {name free : String} (first : Claims reserved taken name free)
      (rest : InTurn reserved (free :: taken) names more) :
      InTurn reserved taken (name :: names) (free :: more)

end

/-! ## Claims -/

variable {r : Reserved} {taken : List String} {name free : String}

theorem isFree_iff : IsFree r.contains taken name ↔
    r.blocks name = false ∧ (r.holds name || taken.contains name) = false := by
  simp only [IsFree, Reserved.contains, Bool.or_eq_false_iff, List.contains_eq_mem, decide_eq_false_iff_not]
  tauto

/-- A name keeps a reserved beginning whatever is written after it. -/
theorem Reserved.blocks_append (h : r.blocks name = true) (more : String) : r.blocks (name ++ more) = true := by
  simp only [blocks, List.any_eq_true, beginsWith, List.isPrefixOf_iff_prefix] at h ⊢
  obtain ⟨start, hs, begins⟩ := h
  exact ⟨start, hs, by rw [String.toList_append]; exact begins.trans (List.prefix_append _ _)⟩

/-- On a name with a reserved beginning the loop never ends. -/
theorem not_claims_of_blocked (h : r.blocks name = true) : ¬ Claims r.contains taken name free := by
  intro claims
  induction claims with
  | done hf => simp [(isFree_iff.1 hf).1] at h
  | next _ _ ih => exact ih (r.blocks_append h "_")

/-- **A claim answers with what the loop ends with**, and has no answer if the loop never ends. -/
theorem claim_eq_some_iff : claim r taken name = some free ↔ Claims r.contains taken name free := by
  constructor
  · intro h
    fun_induction claim r taken name with
    | case1 => cases h
    | case2 name _ held ih =>
      refine .next (fun hf => ?_) (ih h)
      rw [(isFree_iff.1 hf).2] at held
      cases held
    | case3 name blocked held =>
      cases h
      exact .done (isFree_iff.2 ⟨by simpa using blocked, by simpa using held⟩)
  · intro h
    induction h with
    | done hf =>
      rw [claim, (isFree_iff.1 hf).1, (isFree_iff.1 hf).2]
      simp
    | @next name free held more ih =>
      cases blocked : r.blocks name with
      | true => exact absurd more (not_claims_of_blocked (r.blocks_append blocked "_"))
      | false =>
        have taken := Bool.of_not_eq_false fun unused => held (isFree_iff.2 ⟨blocked, unused⟩)
        rw [claim, blocked, if_neg (by simp), if_pos taken, ih]

/-- **Names that are claimed together are claimed in turn.** -/
theorem claimAll_eq_some_iff {names more : List String} :
    claimAll r taken names = some more ↔ InTurn r.contains taken names more := by
  induction names generalizing taken more with
  | nil =>
    constructor
    · rintro ⟨⟩
      exact .nil
    · rintro ⟨⟩
      rfl
  | cons name rest ih =>
    simp only [claimAll, bind, Option.bind_eq_some_iff, pure, Option.some.injEq]
    constructor
    · rintro ⟨free, first, frees, later, rfl⟩
      exact .cons (claim_eq_some_iff.1 first) (ih.1 later)
    · rintro (_ | ⟨first, later⟩)
      exact ⟨_, claim_eq_some_iff.2 first, _, ih.2 later, rfl⟩

end GoGlue
