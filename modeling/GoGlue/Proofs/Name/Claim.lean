import GoGlue.Name.Go
import Mathlib.Data.List.Forall2

/-!
# Claimed names

A name is claimed by writing underscores after it, so a claimed name tells which name was asked for, and
one that ends in anything but an underscore is that name itself. Where the only reserved beginning is the
underscore, every other name can be claimed.

* `claim_eq_append`: a claimed name is the name that was asked for with underscores after it.
* `exists_claim`: a name that does not begin with an underscore can be claimed.
* `exists_claimAll`: where no beginning is reserved, all names can be claimed.
* `claimAll_claimed`: names that are claimed together are distinct.
* `parameterName_unglued`: no parameter is called like what an entry point declares for itself.
-/
namespace GoGlue

theorem claim_eq_append {r : Reserved} {taken : List String} {name free : String}
    (h : claim r taken name = some free) :
    ∃ k, free.toList = name.toList ++ List.replicate k '_' := by
  fun_induction claim r taken name with
  | case1 => cases h
  | case2 name _ _ ih =>
    obtain ⟨k, hk⟩ := ih h
    exact ⟨k + 1, by simp [hk, List.replicate_succ]⟩
  | case3 name =>
    cases h
    exact ⟨0, by simp⟩

/-- A claimed name that does not end in an underscore is the name that was asked for. -/
theorem claim_eq_self {r : Reserved} {taken : List String} {name free : String}
    (h : claim r taken name = some free) (last : free.toList.getLast? ≠ some '_') : free = name := by
  obtain ⟨k, hk⟩ := claim_eq_append h
  cases k with
  | zero => simpa [String.toList_inj] using hk
  | succ k =>
    rw [hk, List.replicate_succ', ← List.append_assoc, List.getLast?_concat] at last
    exact absurd rfl last

theorem beginsWith_underscore (name : String) :
    beginsWith "_" name = true ↔ name.toList.head? = some '_' := by
  have hu : "_".toList = ['_'] := by decide
  rw [beginsWith, hu]
  generalize name.toList = cs
  cases cs with
  | nil => simp
  | cons c rest => simpa using eq_comm

/-- A name that is not empty keeps its first character when something is written after it. -/
theorem head_append {name : String} (more : String) (hn : name ≠ "") :
    (name ++ more).toList.head? = name.toList.head? := by
  have chars : name.toList ≠ [] := fun e => hn (String.toList_injective e)
  rw [String.toList_append]
  generalize name.toList = cs at chars
  cases cs with
  | nil => exact absurd rfl chars
  | cons c rest => rfl

theorem append_ne_empty {name : String} (more : String) (hn : name ≠ "") : name ++ more ≠ "" :=
  fun e => hn (String.append_eq_empty_iff.1 e).1

/-- A name can be claimed if nothing that begins with it has a reserved beginning. -/
theorem exists_claim_unblocked {r : Reserved} {name : String} (taken : List String)
    (unblocked : ∀ n : String, name.toList <+: n.toList → r.blocks n = false) :
    ∃ free, claim r taken name = some free := by
  fun_induction claim r taken name with
  | case1 name blocked => simp [unblocked name (List.prefix_refl _)] at blocked
  | case2 name _ _ ih =>
    refine ih fun n hn => unblocked n ?_
    rw [String.toList_append] at hn
    exact (List.prefix_append _ _).trans hn
  | case3 name => exact ⟨name, rfl⟩

theorem exists_claim {r : Reserved} {name : String} (taken : List String)
    (beginnings : r.beginnings = ["_"]) (hn : name ≠ "") (h : beginsWith "_" name = false) :
    ∃ free, claim r taken name = some free := by
  have blocks : ∀ n, r.blocks n = beginsWith "_" n := by simp [Reserved.blocks, beginnings]
  have chars : name.toList ≠ [] := fun e => hn (String.toList_injective e)
  refine exists_claim_unblocked taken ?_
  rintro n ⟨more, longer⟩
  rw [blocks, ← Bool.not_eq_true, beginsWith_underscore, ← longer, List.head?_append_of_ne_nil _ chars,
    ← beginsWith_underscore, h]
  decide

/-- **Names that are claimed together** are distinct, and each is free and was claimed for the name in its
place. -/
theorem claimAll_claimed {r : Reserved} {taken names free : List String}
    (h : claimAll r taken names = some free) :
    free.Nodup ∧ (∀ n ∈ free, r.contains n = false ∧ n ∉ taken) ∧
      List.Forall₂ (fun name n => ∃ taken, claim r taken name = some n) names free := by
  induction names generalizing taken free with
  | nil => cases h; exact ⟨.nil, by simp, .nil⟩
  | cons name rest ih =>
    simp only [claimAll, bind, Option.bind_eq_some_iff, pure, Option.some.injEq] at h
    obtain ⟨n, hn, more, hm, rfl⟩ := h
    obtain ⟨distinct, unused, claims⟩ := ih hm
    refine ⟨List.nodup_cons.2 ⟨fun hmem => (unused n hmem).2 List.mem_cons_self, distinct⟩,
      List.forall_mem_cons.2 ⟨claim_free r taken name n hn, fun x hx => ?_⟩, .cons ⟨taken, hn⟩ claims⟩
    exact ⟨(unused x hx).1, fun ht => (unused x hx).2 (List.mem_cons_of_mem n ht)⟩

/-- Where no beginning is reserved, all names can be claimed. -/
theorem exists_claimAll {r : Reserved} (taken names : List String) (beginnings : r.beginnings = []) :
    ∃ free, claimAll r taken names = some free := by
  have unblocked : ∀ n, r.blocks n = false := by simp [Reserved.blocks, beginnings]
  induction names generalizing taken with
  | nil => exact ⟨[], rfl⟩
  | cons name rest ih =>
    obtain ⟨n, hn⟩ : ∃ n, claim r taken name = some n := exists_claim_unblocked taken fun n _ => unblocked n
    obtain ⟨more, hm⟩ := ih (n :: taken)
    exact ⟨n :: more, by simp [claimAll, hn, hm]⟩

/-! ## Parameters -/

theorem parameterName_cases (name : String) (index : Nat) :
    (name = "" ∨ name = "_") ∧ parameterName name index = "arg" ++ toString index
      ∨ parameterName name index = name ++ "_"
      ∨ name ≠ "" ∧ name ≠ "_" ∧ name ∉ glueNames ∧ parameterName name index = name := by
  unfold parameterName
  split
  · exact .inl ⟨‹_›, rfl⟩
  · split
    · exact .inr (.inl rfl)
    · simp_all

/-- **No parameter is called like what an entry point declares for itself.** -/
theorem parameterName_unglued (name : String) (index : Nat) : parameterName name index ∉ glueNames := by
  have first : ∀ n ∈ glueNames, n.toList.head? ≠ some 'a' := by decide
  have last : ∀ n ∈ glueNames, n.toList.getLast? ≠ some '_' := by decide
  intro hm
  rcases parameterName_cases name index with ⟨-, e⟩ | e | ⟨-, -, free, e⟩
  · exact first _ hm (by simp [e])
  · exact last _ hm (by simp [e])
  · exact free (e ▸ hm)

theorem parameterName_ne_empty (name : String) (index : Nat) : parameterName name index ≠ "" := by
  rcases parameterName_cases name index with ⟨-, e⟩ | e | ⟨hn, -, -, e⟩
  · simp [e, String.append_eq_empty_iff]
  · simp [e, String.append_eq_empty_iff]
  · rwa [e]

/-- The name of a parameter begins with an underscore only if it was declared so. -/
theorem parameterName_beginning {name : String} (index : Nat)
    (h : name ≠ "_" → beginsWith "_" name = false) :
    beginsWith "_" (parameterName name index) = false := by
  simp only [← Bool.not_eq_true, beginsWith_underscore] at h ⊢
  unfold parameterName
  split
  · rw [head_append _ (by decide)]
    decide
  · next blank =>
    obtain ⟨hn, hu⟩ := not_or.1 blank
    have head := h hu
    split
    · rwa [head_append _ hn]
    · exact head

end GoGlue
