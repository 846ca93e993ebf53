import GoGlue.Glue.Entry
import GoGlue.Proofs.CallPlan.Crossable
import GoGlue.Proofs.CallPlan.Definite
import GoGlue.Proofs.Code.Flow

/-!
# From declared results to what is handed over

The declared results, the slots of a plan, the variables of the assignment and the code that hands results
over are four sequences, and an error shifts some of them against the others. Here they are brought together:
the variable at the place of a declared result has the number of the slot that was made for it, and what is
handed over for a slot comes from the variable with its number and from nothing else.

* `result_assigned`: each declared result is assigned to its variable.
* `resultStep_delivers`: each slot is handed over from its variable, in order and once.
-/
namespace GoGlue.Go

variable {structs : StructNames} {sig : Signature} {plan : CallPlan}

/-! ## The assignment -/

/-- The variables that declared results are assigned to, if the first value has the given number. -/
def assigned (k : Nat) : List Param → List String
  | [] => []
  | p :: rest => if p.type.isError then "_err" :: assigned k rest else resultName k :: assigned (k + 1) rest

theorem assigned_append {before : List Param} (h : ∀ p ∈ before, p.type.isError = false)
    (rest : List Param) (k : Nat) : assigned k (before ++ rest)
      = (List.range' k before.length).map resultName ++ assigned (k + before.length) rest := by
  induction before generalizing k with
  | nil => rfl
  | cons p before ih =>
    obtain ⟨value, others⟩ := List.forall_mem_cons.1 h
    rw [List.cons_append, assigned, if_neg (by simp [value]), ih others, List.length_cons,
      List.range'_succ, List.map_cons, List.cons_append, Nat.add_right_comm, Nat.add_assoc]

theorem assigned_values {ps : List Param} (h : ∀ p ∈ ps, p.type.isError = false) (k : Nat) :
    assigned k ps = (List.range' k ps.length).map resultName := by
  simpa [assigned] using assigned_append h [] k

/-- **The variables of the assignment** are counted off along the declared results, leaving out the error. -/
theorem resultNames_eq (h : CallPlan.ofSignature structs sig = .ok plan) :
    resultNames plan = assigned 0 sig.results := by
  obtain ⟨-, -, -, results, places⟩ := CallPlan.ofSignature_ok_iff.1 h
  have length : plan.results.length = (CallPlan.values sig.results).length := by
    rw [← results.length_eq, List.length_zipIdx]
  unfold resultNames
  rw [length, List.range_eq_range']
  cases he : plan.errorPosition with
  | none =>
    rw [he, Option.toList_none] at places
    have values := CallPlan.errorPlaces_eq_nil_iff.1 places
    rw [assigned_values values, CallPlan.values_eq_self values]
  | some i =>
    rw [he, Option.toList_some] at places
    obtain ⟨before, p, after, same, rfl, error, hb, ha⟩ := CallPlan.exists_split places
    have counted := CallPlan.insertIdx_between ((List.range' 0 before.length).map resultName)
      ((List.range' before.length after.length).map resultName) "_err"
    rw [List.length_map, List.length_range', ← List.map_append] at counted
    rw [same, CallPlan.values_around error hb ha, assigned_append hb, assigned, if_pos error,
      assigned_values ha, Nat.zero_add, ← counted, List.length_append,
      ← List.range'_append_1, Nat.zero_add]

theorem assigned_length (k : Nat) (ps : List Param) : (assigned k ps).length = ps.length := by
  induction ps generalizing k with
  | nil => rfl
  | cons p rest ih => cases hp : p.type.isError <;> simp [assigned, hp, ih]

theorem resultNames_ne_nil (h : CallPlan.ofSignature structs sig = .ok plan) (some : sig.results ≠ []) :
    resultNames plan ≠ [] := by
  rw [resultNames_eq h, ← List.length_pos_iff, assigned_length]
  exact List.length_pos_iff.2 some

theorem assignResults_eq (h : resultNames plan ≠ []) (call : Expr) :
    assignResults plan call = .define (resultNames plan) call := by
  unfold assignResults
  cases hn : resultNames plan with
  | nil => exact absurd hn h
  | cons _ _ => rfl

theorem getElem?_assigned {ps : List Param} {i : Nat} {p : Param} (hp : ps[i]? = some p) (k : Nat) :
    (assigned k ps)[i]? = some (if p.type.isError then "_err"
      else resultName (k + (CallPlan.values (ps.take i)).length)) := by
  induction ps generalizing i k with
  | nil => cases hp
  | cons q rest ih =>
    cases i with
    | zero =>
      obtain rfl : q = p := by simpa using hp
      cases he : q.type.isError <;> simp [assigned, he, CallPlan.values]
    | succ i =>
      have next := ih (i := i) hp
      cases he : q.type.isError with
      | true => simpa [assigned, he, CallPlan.values] using next k
      | false =>
        simpa [assigned, he, CallPlan.values, Nat.add_assoc, Nat.add_comm 1] using next (k + 1)

/-- The value at a place is found among the values behind those before it. -/
theorem getElem?_values {ps : List Param} {i : Nat} {p : Param} (hp : ps[i]? = some p)
    (value : p.type.isError = false) :
    (CallPlan.values ps)[(CallPlan.values (ps.take i)).length]? = some p := by
  induction ps generalizing i with
  | nil => cases hp
  | cons q rest ih =>
    cases i with
    | zero =>
      cases hp
      simp [CallPlan.values, value]
    | succ i =>
      have next := ih (i := i) hp
      cases he : q.type.isError with
      | true => simpa [he, CallPlan.values] using next
      | false => simpa [he, CallPlan.values] using next

/-- **Each declared result is assigned to its variable**: the error to its own, and any other result to the
one that has the number of its slot. -/
theorem result_assigned (h : CallPlan.ofSignature structs sig = .ok plan) {i : Nat} {p : Param}
    (hp : sig.results[i]? = some p) :
    (p.type.kind = .error → (resultNames plan)[i]? = some "_err") ∧
      (p.type.kind ≠ .error → ∃ s, (resultNames plan)[i]?
          = some (resultName (CallPlan.values (sig.results.take i)).length) ∧
        plan.results[(CallPlan.values (sig.results.take i)).length]? = some s ∧
        CallPlan.OfResult structs (p, (CallPlan.values (sig.results.take i)).length) s) := by
  rw [resultNames_eq h, getElem?_assigned hp, Nat.zero_add]
  constructor
  · intro error
    simp [GoType.isError, error]
  · intro value
    have isValue : p.type.isError = false := decide_eq_false value
    obtain ⟨-, -, -, results, -⟩ := CallPlan.ofSignature_ok_iff.1 h
    have declared := getElem?_values hp isValue
    obtain ⟨hk, e⟩ := List.getElem?_eq_some_iff.1 declared
    have placed : (CallPlan.values (sig.results.take i)).length < plan.results.length := by
      rw [← results.length_eq, List.length_zipIdx]
      exact hk
    refine ⟨plan.results[(CallPlan.values (sig.results.take i)).length], by simp [isValue],
      List.getElem?_eq_getElem placed, ?_⟩
    have made := results.get (by simpa using hk) placed
    simpa [e] using made

/-! ## Variables -/

theorem resultName_toList (k : Nat) : (resultName k).toList = '_' :: 'r' :: Nat.toDigits 10 k := by
  simp [resultName, Nat.toString_eq_repr, Nat.toList_repr]

theorem resultName_injective {j k : Nat} (h : resultName j = resultName k) : j = k := by
  have digits := congrArg String.toList h
  rw [resultName_toList, resultName_toList, List.cons.injEq, List.cons.injEq] at digits
  have value := congrArg (Nat.ofDigitChars 10 · 0) digits.2.2
  simpa only [Nat.ofDigitChars_ten_toDigits] using value

/-- The second letter of a result's variable tells it from the other variables of the loops. -/
theorem resultName_ne_of_second {n : String} (h : n.toList[1]? ≠ some 'r') (k : Nat) :
    resultName k ≠ n := by
  rintro rfl
  simp [resultName_toList] at h

/-- The variables of the assignment are pairwise distinct. -/
theorem resultNames_nodup (plan : CallPlan) : (resultNames plan).Nodup := by
  have counted : ((List.range plan.results.length).map resultName).Nodup :=
    List.Nodup.map (fun _ _ => resultName_injective) List.nodup_range
  cases he : plan.errorPosition with
  | none =>
    rw [resultNames, he]
    exact counted
  | some i =>
    rw [resultNames, he]
    dsimp only
    have fresh : "_err" ∉ (List.range plan.results.length).map resultName := by
      intro hm
      obtain ⟨k, -, named⟩ := List.mem_map.1 hm
      exact resultName_ne_of_second (by decide) k named
    rcases Nat.lt_or_ge ((List.range plan.results.length).map resultName).length i with past | inside
    · rw [List.insertIdx_of_length_lt past]
      exact counted
    · exact (List.perm_insertIdx _ _ inside).nodup_iff.2 (List.nodup_cons.2 ⟨fresh, counted⟩)

/-! ## Handing over -/

/-- The variables of the results have not been made of anything else. -/
def Untouched (σ : Flow) : Prop := ∀ k, σ (resultName k) = {resultName k}

theorem untouched_start : Untouched Flow.start := fun _ => rfl

theorem Untouched.set {σ : Flow} (h : Untouched σ) {x : String} {vs : Set String}
    (other : x.toList[1]? ≠ some 'r') : Untouched (σ.set [x] vs) := by
  intro k
  have apart : resultName k ∉ [x] := by simpa using resultName_ne_of_second other k
  rw [Flow.set_of_notMem apart, h k]

theorem intoC_reads (i : IntoC) (x : String) : (i.apply (.name x)).reads = [x] := by
  cases i <;>
    simp [IntoC.apply, Expr.ccall, Expr.calls, Expr.reads, Expr.readsAll, Expr.isName]

/-- The local that elements are copied to. -/
def bufferName (k : Nat) : String := "_c" ++ toString k

theorem bufferName_second (k : Nat) : (bufferName k).toList[1]? ≠ some 'r' := by
  simp [bufferName]

/-- The buffer has been made of the result and nothing else. -/
structure Filled (k : Nat) (σ : Flow) : Prop where
  untouched : Untouched σ
  buffer : σ (bufferName k) = {resultName k}

/-- One element is copied. -/
theorem Filled.round {k : Nat} {σ : Flow} (h : Filled k σ) (conv : IntoC) :
    Filled k ((σ.act (.next "_i" "_v" (.name (resultName k)))).act
      (.step (.assign (.index (.name (bufferName k)) (.name "_i")) (conv.apply (.name "_v"))))) := by
  have items : σ.of (.name (resultName k)) = {resultName k} := by
    rw [Flow.of_reads rfl, h.untouched k]
  have loose : bufferName k ∉ ["_i"] ∧ bufferName k ∉ ["_v"] := by
    have second : ∀ c, (bufferName k).toList[1]? = some c → c = 'c' := by simp [bufferName]
    constructor <;>
    · intro e
      rw [List.mem_singleton] at e
      exact absurd (second _ (by rw [e]; rfl)) (by decide)
  have before : (σ.act (.next "_i" "_v" (.name (resultName k)))) (bufferName k) = {resultName k} := by
    show ((σ.set ["_i"] ∅).set ["_v"] _) _ = _
    rw [Flow.set_of_notMem loose.2, Flow.set_of_notMem loose.1, h.buffer]
  have element : (σ.act (.next "_i" "_v" (.name (resultName k)))).of (conv.apply (.name "_v"))
      = {resultName k} := by
    rw [Flow.of_reads (intoC_reads conv "_v")]
    show ((σ.set ["_i"] ∅).set ["_v"] _) _ = _
    rw [Flow.set_of_mem (by simp), items]
  have kept : Untouched (σ.act (.next "_i" "_v" (.name (resultName k)))) :=
    (h.untouched.set (by decide)).set (by decide)
  refine ⟨kept.set (bufferName_second k), ?_⟩
  show (Flow.set _ [bufferName k] _) _ = _
  rw [Flow.set_of_mem (by simp), before, element, Set.union_self]

/-- **A buffer is filled from its result** and from nothing else. -/
theorem bufferIntoC_delivers {s : Slot} (known : ∃ t tr, s.elem = some (t, tr)) (k : Nat) :
    ∃ J, Delivers Untouched (bufferIntoC s (resultName k) k).1 [] J ∧ ∀ σ, J σ →
      Untouched σ ∧ σ.of (bufferIntoC s (resultName k) k).2 = {resultName k} := by
  unfold bufferIntoC
  cases hb : s.isBytes with
  | true =>
    refine ⟨Untouched, .nil, fun σ hσ => ⟨hσ, ?_⟩⟩
    have reads : (Expr.ccall "CBytes" [.name (resultName k)]).reads = [resultName k] := by
      simp [Expr.ccall, Expr.reads, Expr.readsAll, Expr.isName]
    rw [if_pos rfl, Flow.of_reads reads, hσ k]
  | false =>
    obtain ⟨t, tr, he⟩ := known
    simp only [Bool.false_eq_true, if_false, he]
    refine ⟨Filled k, ?_, fun σ hσ => ⟨hσ.untouched, ?_⟩⟩
    · have made : Delivers Untouched [.define [bufferName k]
          (.call (.applied "allocSlice" (.c (CType.describe t tr).token))
            [.calls "len" [.name (resultName k)]])] [] (Filled k) := by
        refine .step rfl fun σ hσ => ⟨⟨hσ.set (bufferName_second k), ?_⟩, rfl⟩
        show (σ.set [bufferName k] _) _ = _
        rw [Flow.set_of_mem (by simp), Flow.of_reads (x := resultName k), hσ k]
        simp [Expr.calls, Expr.reads, Expr.readsAll, Expr.isName]
      have copied : Delivers (Filled k) [.range "_i" "_v" (.name (resultName k))
          [.assign (.index (.name (bufferName k)) (.name "_i")) ((intoC tr).apply (.name "_v"))]] []
          (Filled k) := .loop rfl fun σ hσ => ⟨hσ.round (intoC tr), rfl⟩
      exact made.append copied
    · have reads : (Expr.call (.library "unsafe" "SliceData") [.name (bufferName k)]).reads
          = [bufferName k] := by simp [Expr.reads, Expr.readsAll, Expr.isName]
      rw [← hσ.buffer]
      exact Flow.of_reads reads

/-- What is due for the result with the given number: its value, and the count of a buffer. -/
def due (s : Slot) (k : Nat) : List (Place × Set String) :=
  (.through s.name, {resultName k})
    :: if s.shape = .buffer then [(.through (lengthName s.name), {resultName k})] else []

/-- Storing through a pointer changes no variable. -/
theorem stored_delivers {I : Flow → Prop} {e : Expr} {vs : Set String} (p : String)
    (h : ∀ σ, I σ → σ.of e = vs) : Delivers I [.assign (.deref (.name p)) e] [(.through p, vs)] I :=
  .step rfl fun σ hσ => ⟨hσ, by rw [← h σ hσ]; rfl⟩

theorem count_delivers {I : Flow → Prop} (untouched : ∀ σ, I σ → Untouched σ) (p : String) (k : Nat) :
    Delivers I [.ifs (.notNil (.name p))
        [.assign (.deref (.name p)) (.ccall "int" [.calls "len" [.name (resultName k)]])]]
      [(.through p, {resultName k})] I := by
  have reads : (Expr.ccall "int" [.calls "len" [.name (resultName k)]]).reads = [resultName k] := by
    simp [Expr.ccall, Expr.calls, Expr.reads, Expr.readsAll, Expr.isName]
  refine .guarded (stored_delivers p fun σ hσ => ?_) fun _ h => h
  rw [Flow.of_reads reads, untouched σ hσ k]

theorem converted_of {σ : Flow} (h : Untouched σ) (conv : IntoC) (k : Nat) :
    σ.of (conv.apply (.name (resultName k))) = {resultName k} := by
  rw [Flow.of_reads (intoC_reads _ _), h k]

/-- **A result is stored from its variable** and from nothing else. -/
theorem storeResult_delivers {s : Slot} (h : s.Definite) (k : Nat) :
    Delivers Untouched [storeResult s k] (due s k) Untouched := by
  have value : ∀ σ, Untouched σ → σ.of ((intoC s.transfer).apply (.name (resultName k)))
      = {resultName k} := fun σ hσ => converted_of hσ _ k
  have copied : s.shape ≠ .scalar → Delivers Untouched
      ((bufferIntoC s (resultName k) k).1 ++
        [Stmt.assign (.deref (.name s.name)) (bufferIntoC s (resultName k) k).2])
      [(.through s.name, {resultName k})] Untouched := by
    intro memory
    obtain ⟨J, filled, pointer⟩ := bufferIntoC_delivers (h.element memory) k
    exact (filled.append (stored_delivers s.name fun σ hσ => (pointer σ hσ).2)).weaken fun σ hσ =>
      (pointer σ hσ).1
  unfold storeResult due
  refine .guarded ?_ fun _ h => h
  cases hs : s.shape with
  | scalar => exact stored_delivers s.name value
  | pointer => exact stored_delivers s.name value
  | fixed n => exact copied (by simp [hs])
  | buffer =>
    have both := (copied (by simp [hs])).append (count_delivers (fun _ h => h)
      (lengthName s.name) k)
    simpa using both

/-- All that is handed over, in order. -/
def allDue (plan : CallPlan) : List (Place × Set String) :=
  match plan.returned with
  | some s =>
    (if s.shape = .buffer then [(.through "outLen", {resultName 0})] else [])
      ++ [(.returned, {resultName 0})]
  | none => (plan.results.mapIdx fun k s => due s k).flatten

theorem storeResults_delivers (xs : List (Slot × Nat)) (h : ∀ x ∈ xs, x.1.Definite) :
    Delivers Untouched (xs.map fun x => storeResult x.1 x.2) (xs.map fun x => due x.1 x.2).flatten
      Untouched := by
  induction xs with
  | nil => exact .nil
  | cons x rest ih =>
    obtain ⟨first, others⟩ := List.forall_mem_cons.1 h
    exact (storeResult_delivers first x.2).append (ih others)

/-- The returned result comes from the only variable. -/
theorem returnResult_delivers {s : Slot} (h : s.Definite) {acts : List Act} {left : Bool}
    (hr : Run (returnResult s) acts left) :
    (deliveries .start acts).Sublist
        ((if s.shape = .buffer then [(Place.through "outLen", {resultName 0})] else [])
          ++ [(Place.returned, {resultName 0})]) ∧
      (Unhindered acts → deliveries .start acts
        = (if s.shape = .buffer then [(Place.through "outLen", {resultName 0})] else [])
          ++ [(Place.returned, {resultName 0})]) := by
  have only : "_r0" = resultName 0 := by decide
  unfold returnResult at hr
  rw [only] at hr
  cases hs : s.shape with
  | scalar | pointer =>
    rw [hs] at hr
    exact (Delivers.nil.run_returning (fun σ hσ => converted_of hσ _ 0) hr untouched_start).2
  | fixed n =>
    rw [hs] at hr
    obtain ⟨J, filled, pointer⟩ := bufferIntoC_delivers (h.element (by simp [hs])) 0
    exact (filled.run_returning (fun σ hσ => (pointer σ hσ).2) hr untouched_start).2
  | buffer =>
    rw [hs] at hr
    obtain ⟨J, filled, pointer⟩ := bufferIntoC_delivers (h.element (by simp [hs])) 0
    have all := filled.append (count_delivers (fun σ hσ => (pointer σ hσ).1) "outLen" 0)
    dsimp only at hr
    rw [List.append_cons] at hr
    exact (all.run_returning (fun σ hσ => (pointer σ hσ).2) hr untouched_start).2

/-- **Each slot is handed over from its variable**, in order and at most once; unhindered, each is. -/
theorem resultStep_delivers (h : ∀ s ∈ plan.results, s.Definite) {acts : List Act} {left : Bool}
    (hr : Run (resultStep plan) acts left) :
    (deliveries .start acts).Sublist (allDue plan) ∧
      (Unhindered acts → deliveries .start acts = allDue plan) := by
  unfold resultStep at hr
  unfold allDue
  cases hret : plan.returned with
  | some s =>
    rw [hret] at hr
    have member : s ∈ plan.results := by simp [CallPlan.returned_results hret]
    exact returnResult_delivers (h s member) hr
  | none =>
    rw [hret] at hr
    simp only [List.mapIdx_eq_zipIdx_map] at hr ⊢
    have all := storeResults_delivers plan.results.zipIdx fun x hx =>
      h x.1 (List.fst_mem_of_mem_zipIdx hx)
    exact (all.run hr untouched_start).2.2

end GoGlue.Go
