import GoGlue.Proofs.Glue.Prototype
import GoGlue.Proofs.Glue.Results
import GoGlue.Proofs.Ownership.Parameters

/-!
# Keeping aside from the results

Most of what a body does has nothing to do with the results of the call: it reads none of their variables,
allocates nothing for them, stores nothing through their pointers, and goes on to the next statement. So it is
with the conversion of the parameters, with writing back through the pointers of parameters, and with the call
itself. The names matter here: renaming keeps the parameters apart from the variables of the results.

* `Aside.run_append`: code that keeps aside runs to its end.
* `argument_aside`, `writeBackStep_aside`, `Calls.aside`: what keeps aside.
-/
namespace GoGlue.Go

variable {own : String} {plan renamed : CallPlan} {receiver : Option Receiver} {invoke : Invoke}

/-! ## Acts aside from the results -/

/-- The act neither returns nor has to do with the results of the plan: it reads none of their variables,
allocates nothing for them, and stores nothing through their pointers. -/
structure Act.Aside (plan : CallPlan) (a : Act) : Prop where
  stays : ∀ e, a ≠ .leave e
  reads : ∀ k, resultName k ∉ a.reads
  borrows : Borrows a.made
  stores : ∀ s ∈ plan.results, a.stored ≠ some s.name ∧ a.stored ≠ some (lengthName s.name)

/-- Every act that the code spells keeps aside. -/
def Aside (plan : CallPlan) (code : List Stmt) : Prop := ∀ a ∈ Stmt.actsAll code, a.Aside plan

theorem Aside.append {ss ts : List Stmt} (h : Aside plan ss) (h' : Aside plan ts) :
    Aside plan (ss ++ ts) := by
  unfold Aside
  rw [Stmt.actsAll_append]
  exact List.forall_mem_append.2 ⟨h, h'⟩

/-- **Code that keeps aside** comes to its end. -/
theorem Aside.run {ss : List Stmt} (h : Aside plan ss) {acts : List Act} {left : Bool}
    (hr : Run ss acts left) : left = false ∧ ∀ a ∈ acts, a.Aside plan := by
  have aside : ∀ a ∈ acts, a.Aside plan := fun a ha => h a (hr.spelled a ha)
  refine ⟨?_, aside⟩
  rw [← Bool.not_eq_true, hr.leaves]
  rintro ⟨e, he⟩
  exact (aside _ he).stays e rfl

theorem Aside.run_append {ss ts : List Stmt} (h : Aside plan ss) {acts : List Act} {left : Bool}
    (hr : Run (ss ++ ts) acts left) :
    ∃ first second, acts = first ++ second ∧ (∀ a ∈ first, a.Aside plan) ∧ Run ts second left := by
  rcases Go.run_append hr with ⟨returns, -⟩ | ⟨first, second, rfl, hf, hs⟩
  · cases (h.run returns).1
  · exact ⟨first, second, rfl, (h.run hf).2, hs⟩

/-! ## Names -/

/-- The name is not that of a result's variable. -/
def NoResult (n : String) : Prop := ∀ k, resultName k ≠ n

theorem noResult_of_last {n : String} (h : n.toList.getLast?.any Char.isDigit = false) : NoResult n := by
  rintro k rfl
  have digits : Nat.toDigits 10 k ≠ [] := Nat.toDigits_ne_nil
  have last : (Nat.toDigits 10 k).getLast digits ∈ Nat.toDigits 10 k := List.getLast_mem digits
  have digit := Nat.isDigit_of_mem_toDigits (by decide) (by decide) last
  have same : (resultName k).toList.getLast? = some ((Nat.toDigits 10 k).getLast digits) := by
    rw [resultName_toList, List.getLast?_cons_cons, List.getLast?_cons, List.getLast?_eq_getLast_of_ne_nil digits]
    rfl
  simp [same, digit] at h

/-- What renaming makes sure of for the name of a parameter. -/
structure FreeName (plan : CallPlan) (n : String) : Prop where
  plain : beginsWith "_" n = false
  lasting : isTemporary n = false
  apart : ∀ t ∈ plan.results, n ≠ t.name ∧ n ≠ lengthName t.name

theorem unshadowed_free (hr : unshadowed own plan = some renamed) :
    ∀ s ∈ renamed.params, FreeName plan s.name := by
  intro s hs
  obtain ⟨unused, apart⟩ := (unshadowed_claimed hr).1 s hs
  simp only [Reserved.contains, Reserved.holds, Reserved.blocks, entryReserved, Bool.or_eq_false_iff,
    List.any_cons, List.any_nil, Bool.or_false, Bool.true_and] at unused
  exact ⟨unused.2, unused.1.2, apart⟩

theorem FreeName.noResult {n : String} (h : FreeName plan n) : NoResult n := by
  rintro k rfl
  have begins := h.plain
  simp [beginsWith, resultName_toList] at begins

/-- The local of a parameter is called like a numbered variable only if the parameter is called like a
temporary. -/
theorem FreeName.local_unnumbered {n : String} (h : FreeName plan n) {c : Char} (hc : c = 'r' ∨ c = 'c')
    (k : Nat) : (localOf n).toList ≠ '_' :: c :: Nat.toDigits 10 k := by
  intro letters
  have temporary : n.toList = c :: Nat.toDigits 10 k := by simpa [localOf] using letters
  have digits : ∀ d ∈ Nat.toDigits 10 k, d.isDigit = true := fun d hd =>
    Nat.isDigit_of_mem_toDigits (by decide) (by decide) hd
  have isTemp : isTemporary n = true := by
    unfold isTemporary
    rw [temporary]
    cases hd : Nat.toDigits 10 k with
    | nil => exact absurd hd Nat.toDigits_ne_nil
    | cons d rest =>
      rw [hd] at digits
      simpa using ⟨hc, List.forall_mem_cons.1 digits⟩
  rw [h.lasting] at isTemp
  cases isTemp

theorem FreeName.local_noResult {n : String} (h : FreeName plan n) : NoResult (localOf n) :=
  fun k e => h.local_unnumbered (.inl rfl) k (e ▸ resultName_toList k)

/-! ## Parameters -/

/-- The variables that the conversion of a parameter may read. -/
def argumentNames (n : String) : List String :=
  [n, lengthName n, localOf n, localOf n ++ "v", "_i", "_v", "nil"]

theorem FreeName.argumentNames_noResult {n : String} (h : FreeName plan n) :
    ∀ x ∈ argumentNames n, NoResult x := by
  have length : NoResult (lengthName n) := noResult_of_last (by simp [lengthName_toList])
  have value : NoResult (localOf n ++ "v") := noResult_of_last (by simp)
  have items : NoResult "_i" ∧ NoResult "_v" ∧ NoResult "nil" :=
    ⟨noResult_of_last (by decide), noResult_of_last (by decide), noResult_of_last (by decide)⟩
  simpa [argumentNames] using ⟨h.noResult, length, h.local_noResult, value, items⟩

theorem fromC_reads (own : String) (t : GoType) (tr : Transfer) (x : String) :
    ((fromC own t tr).apply (.name x)).reads = [x] := by
  cases fromC own t tr <;>
    simp [FromC.apply, Expr.ccall, Expr.calls, Expr.reads, Expr.readsAll, Expr.isName]

/-- **The conversion of a parameter** reads its own variables only, and stores through no pointer. -/
theorem argument_reads (own : String) (s : Slot) :
    (∀ a ∈ Stmt.actsAll (argument own s).1, (∀ e, a ≠ .leave e) ∧
      (∀ x ∈ a.reads, x ∈ argumentNames s.name) ∧ a.stored = none) ∧
      ∀ x ∈ (argument own s).2.reads, x ∈ argumentNames s.name := by
  have read := fromC_reads own
  unfold argument
  cases hs : s.shape with
  | scalar => simp [Stmt.actsAll, read, argumentNames]
  | buffer =>
    cases hb : s.isBytes
    · cases he : s.elem with
      | none => simp [Stmt.actsAll, Expr.nil, Expr.reads, argumentNames]
      | some p =>
        simp [Stmt.actsAll, Stmt.acts, Act.reads, Act.exprs, Act.stored, Expr.reads, Expr.readsAll,
          Expr.calls, Expr.isName, read, argumentNames]
    · simp [Stmt.actsAll, Expr.ccall, Expr.reads, Expr.readsAll, Expr.isName, argumentNames]
  | fixed n =>
    cases he : s.elem with
    | none => simp [Stmt.actsAll, Expr.nil, Expr.reads, argumentNames]
    | some p =>
      simp [Stmt.actsAll, Stmt.acts, Act.reads, Act.exprs, Act.stored, Expr.reads, Expr.readsAll,
        Expr.isName, read, argumentNames]
  | pointer =>
    simp [Stmt.actsAll, Stmt.acts, Act.reads, Act.exprs, Act.stored, Expr.reads, Expr.readsAll,
      Expr.isName, argumentNames]

/-- **Converting a parameter keeps aside** from the results. -/
theorem argument_aside {s : Slot} (h : FreeName plan s.name) : Aside plan (argument own s).1 := by
  obtain ⟨acts, -⟩ := argument_reads own s
  intro a ha
  obtain ⟨stays, reads, stored⟩ := acts a ha
  refine ⟨stays, fun k hk => h.argumentNames_noResult _ (reads _ hk) k rfl, ?_, by simp [stored]⟩
  intro c hc
  exact argument_borrows own s c (List.mem_append_left _ (Stmt.actsAll_made _ a ha c hc))

theorem convertStep_aside (h : ∀ s ∈ renamed.params, FreeName plan s.name) :
    Aside plan (convertStep own renamed) := by
  intro a ha
  obtain ⟨t, ht, ha⟩ := Stmt.mem_actsAll.1 ha
  obtain ⟨s, hs, ht⟩ := List.mem_flatMap.1 ht
  exact argument_aside (h s hs) a (Stmt.mem_actsAll.2 ⟨t, ht, ha⟩)

/-- Writing back stores through the pointers of parameters, which are not those of results. -/
theorem writeBackStep_aside (h : ∀ s ∈ renamed.params, FreeName plan s.name) :
    Aside plan (writeBackStep renamed) := by
  intro a ha
  obtain ⟨t, ht, ha⟩ := Stmt.mem_actsAll.1 ha
  obtain ⟨s, hs, rfl⟩ := List.mem_map.1 ht
  have free := h s (List.mem_filter.1 hs).1
  have names : ∀ k, resultName k ≠ s.name ∧ resultName k ≠ localOf s.name :=
    fun k => ⟨free.noResult k, free.local_noResult k⟩
  have apart : ∀ t ∈ plan.results, s.name ≠ t.name ∧ s.name ≠ lengthName t.name := free.apart
  simp only [Stmt.acts, Stmt.actsAll, List.append_nil, List.mem_cons, List.not_mem_nil, or_false] at ha
  rcases ha with rfl | rfl | rfl
  · exact ⟨by simp, by simp [Act.reads, Act.exprs, Expr.reads, Expr.readsAll, names], .nil,
      by simp [Act.stored]⟩
  · exact ⟨by simp, by simp [Act.reads, Act.exprs, Expr.reads, Expr.readsAll, names], .nil,
      by simp [Act.stored]⟩
  · exact ⟨by simp, by simp [Act.reads, Act.exprs, Expr.reads, Expr.readsAll, Expr.isName, names],
      .cons rfl .nil, by simpa [Act.stored] using apart⟩

/-! ## The call -/

/-- The function that is called. A value receiver is copied before. -/
inductive Calls : Option Receiver → Invoke → Expr → Prop
  | func {q n} : Calls none (.func (.qualified q n)) (.qualified q n)
  | byPointer {struct type name} :
    Calls (some ⟨struct, type, true⟩) (.method name) (.member (.name "_obj") name)
  | byValue {struct type name} :
    Calls (some ⟨struct, type, false⟩) (.method name) (.member (.name "_recv") name)

theorem Calls.callee {f : Expr} (h : Calls receiver invoke f) :
    f.made = [] ∧ f.allocates = false ∧ ∀ k, resultName k ∉ f.reads := by
  have object : NoResult "_obj" := noResult_of_last (by decide)
  have copy : NoResult "_recv" := noResult_of_last (by decide)
  cases h with
  | func => exact ⟨rfl, rfl, by simp [Expr.reads]⟩
  | byPointer => exact ⟨rfl, rfl, by simpa [Expr.reads, NoResult] using object⟩
  | byValue => exact ⟨rfl, rfl, by simpa [Expr.reads, NoResult] using copy⟩

/-- The statements in front of a call. -/
theorem Calls.callStep {f : Expr} (h : Calls receiver invoke f) (own : String) (plan renamed : CallPlan) :
    ∃ copy, Aside plan copy ∧ callStep own receiver renamed invoke
      = copy ++ [assignResults renamed (.call f (arguments own renamed))] := by
  have nothing : Aside plan [] := List.forall_mem_nil _
  cases h with
  | func => exact ⟨[], nothing, rfl⟩
  | byPointer => exact ⟨[], nothing, rfl⟩
  | byValue =>
    refine ⟨[.define ["_recv"] (.deref (.name "_obj"))], List.forall_mem_singleton.2 ?_, rfl⟩
    have object : NoResult "_obj" := noResult_of_last (by decide)
    exact ⟨by simp, by simpa [Act.reads, Act.exprs, Expr.reads, Expr.readsAll, NoResult] using object,
      .nil, by simp [Act.stored]⟩

/-- The call, too, keeps aside: it is the last act that knows nothing of the results. -/
theorem Calls.aside {f : Expr} (h : Calls receiver invoke f) (own : String) (vars : List String)
    (free : ∀ s ∈ renamed.params, FreeName plan s.name) :
    Act.Aside plan (.step (.define vars (.call f (arguments own renamed)))) := by
  obtain ⟨made, allocates, reads⟩ := h.callee
  refine ⟨by simp, fun k => ?_, ?_, by simp [Act.stored]⟩
  · have passed : resultName k ∉ Expr.readsAll (arguments own renamed) := by
      intro hm
      obtain ⟨e, he, hm⟩ := Expr.mem_readsAll.1 hm
      obtain ⟨s, hs, rfl⟩ := List.mem_map.1 he
      exact (free s hs).argumentNames_noResult _ ((argument_reads own s).2 _ hm) k rfl
    cases hf : f.isName <;> simp [Act.reads, Act.exprs, Expr.reads, Expr.readsAll, hf, reads, passed]
  · have borrowed := parameters_borrowed own renamed
    intro c hc
    simp only [Act.made, Act.exprs, Expr.made, Expr.madeAll, made, List.nil_append, List.append_nil,
      List.mem_cons] at hc
    rcases hc with rfl | hc
    · exact allocates
    · exact borrowed c (List.mem_append_left _ (List.mem_append_right _ hc))

end GoGlue.Go
