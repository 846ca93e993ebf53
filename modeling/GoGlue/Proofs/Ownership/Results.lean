import GoGlue.Proofs.Abi.Passing
import GoGlue.Proofs.Ownership.Parameters

/-!
# Results are handed over

What the glue allocates for a result, the module releases. The two sides choose their conversions apart
from each other, from the shape and the strategy of the slot and from the way the result is passed; here
the choices are compared for every form that a slot of a plan can have.

* `resultStep_eq`: the glue converts the results one after the other at the end of the body.
* `callBody_ret`: the module returns the converted results in the last statement of the body.
* `scalar_paired`, `elements_paired`: the two sides of one value, and of the elements of a buffer.
* `ownership_paired`: allocation and release are paired for every result of every plan.
-/
namespace GoGlue

/-! ## Conversions of one value -/

/-- The struct of the package that values of the type are, or point to. -/
def GoType.declaredStruct (structs : StructNames) (t : GoType) : Option String :=
  match t.kind, t.elem with
  | .struct, _ => if t.isKnown structs then some t.name else none
  | .pointer, some e => if e.kind = .struct && e.isKnown structs then some e.name else none
  | _, _ => none

/-- A handle of the plan is known to be that of a struct exactly when the package declares it. -/
theorem knownStruct_eq {structs : StructNames} {t : GoType} {tr : Transfer}
    (h : classify structs t = .ok tr) (hs : tr.isScalar = true) :
    tr.knownStruct = t.declaredStruct structs := by
  have inside : ∀ {te : GoType} {k : CompositeKind} {n : UInt64},
      (classify structs te).map (Transfer.composite k · n) ≠ .ok tr := by
    intro te k n hm
    cases hc : classify structs te with
    | error cause => rw [hc] at hm; cases hm
    | ok x => rw [hc] at hm; cases hm; cases hs
  unfold classify at h
  -- only structs of the package, and pointers to them, have a known struct
  split at h <;> try cases h
  case h_4 name package elem key size =>
    cases hk : GoType.isKnown structs ⟨.struct, name, package, elem, key, size⟩ <;>
      simp [GoType.declaredStruct, GoType.structHandle, Transfer.knownStruct, hk]
  case h_8 e _ _ =>
    split at h
    · rename_i hk
      cases h
      rw [Bool.and_eq_true] at hk
      simp [GoType.declaredStruct, GoType.structHandle, Transfer.knownStruct, hk.1, hk.2]
    · exact absurd h inside
  case h_10 => exact absurd h inside
  case h_13 => exact absurd h inside
  all_goals rfl

/-! ## The code for one result -/

namespace Go

/-- The statements that convert result number `k` and hand it over. -/
def resultCode (plan : CallPlan) (k : Nat) (s : Slot) : List Stmt :=
  match plan.returned with
  | some _ => returnResult s
  | none => [storeResult s k]

/-- The results are converted one after the other. -/
theorem resultStep_eq (plan : CallPlan) :
    resultStep plan = (plan.results.mapIdx (resultCode plan)).flatten := by
  unfold resultStep resultCode
  cases hr : plan.returned with
  | some s =>
    rw [CallPlan.returned_results hr]
    simp
  | none =>
    simp only [List.mapIdx_eq_zipIdx_map]
    induction plan.results.zipIdx with
    | nil => rfl
    | cons x rest ih => simp [ih]

/-- The code calls `f` with these arguments. -/
def Makes (code : List Stmt) (f : Expr) (args : List Expr) : Prop := ⟨f, args⟩ ∈ Stmt.madeAll code

/-- The calls that convert a result, without those that store a count. -/
def handedOver (s : Slot) (var : String) (k : Nat) : List Call :=
  match s.shape with
  | .scalar | .pointer => ((intoC s.transfer).apply (.name var)).made
  | .buffer | .fixed _ => Stmt.madeAll (bufferIntoC s var k).1 ++ (bufferIntoC s var k).2.made

/-- The calls that copy the elements of a slice or array into new memory. -/
def copying (t : GoType) (tr : Transfer) (var : String) (k : Nat) : List Call :=
  ⟨.applied "allocSlice" (.c (CType.describe t tr).token), [.calls "len" [.name var]]⟩
    :: ⟨.name "len", [.name var]⟩
    :: (((intoC tr).apply (.name "_v")).made
      ++ [⟨.library "unsafe" "SliceData", [.name ("_c" ++ toString k)]⟩])

theorem buffer_copies {s : Slot} {t : GoType} {tr : Transfer} (hb : s.isBytes = false)
    (he : s.elem = some (t, tr)) (var : String) (k : Nat) :
    Stmt.madeAll (bufferIntoC s var k).1 ++ (bufferIntoC s var k).2.made = copying t tr var k := by
  simp [bufferIntoC, hb, he, copying, Stmt.madeAll, Stmt.made, Expr.calls, Expr.made, Expr.madeAll]

/-- The calls that make the element count of a buffer. -/
def counting (var : String) : List Call := (Expr.ccall "int" [.calls "len" [.name var]]).made

theorem mem_counting {var : String} {c : Call} :
    c ∈ counting var ↔
      c = ⟨.library "C" "int", [.calls "len" [.name var]]⟩ ∨ c = ⟨.name "len", [.name var]⟩ := by
  simp [counting, Expr.ccall, Expr.calls, Expr.made, Expr.madeAll]

theorem mem_resultCode {plan : CallPlan} {k : Nat} {s : Slot} (h : plan.results[k]? = some s)
    (c : Call) :
    c ∈ Stmt.madeAll (resultCode plan k s) ↔
      c ∈ handedOver s (resultName k) k ∨ s.shape = .buffer ∧ c ∈ counting (resultName k) := by
  unfold resultCode
  cases hr : plan.returned with
  | some t =>
    -- the only result is that with number 0
    obtain rfl : k = 0 := by
      rw [CallPlan.returned_results hr, List.getElem?_eq_some_iff] at h
      obtain ⟨hk, -⟩ := h
      exact Nat.lt_one_iff.1 hk
    show c ∈ Stmt.madeAll (returnResult s) ↔
      c ∈ handedOver s "_r0" 0 ∨ s.shape = .buffer ∧ c ∈ counting "_r0"
    unfold returnResult handedOver counting
    cases s.shape <;>
      simp [Stmt.madeAll, Stmt.made, Expr.made, Expr.madeAll, Expr.ccall, Expr.calls]
    tauto
  | none =>
    unfold storeResult handedOver counting
    cases s.shape <;>
      simp [Stmt.madeAll, Stmt.made, Expr.made, Expr.madeAll, Expr.ccall, Expr.calls]
    tauto

end Go

/-! ## The value of one result -/

namespace Py

/-- What a body has of a result before it is converted. -/
def rawResult (call : Expr) (plan : CallPlan) (s : Slot) : Expr :=
  match plan.returned with
  | some _ => if isPlain s then call else .name "_res"
  | none =>
    let value := Expr.member (.name (localOf s.name)) "value"
    match s.shape with
    | .scalar | .pointer => value
    | .buffer => if s.isBytes then value else .name (localOf s.name)
    | .fixed _ => .name (localOf s.name)

/-- What a body has for the element count of a result. -/
def rawCount (plan : CallPlan) (s : Slot) : Expr :=
  match plan.returned with
  | some _ => .member (.name "_len") "value"
  | none => .member (.name (lengthOf (localOf s.name))) "value"

/-- The value that a body returns for a result; `call` is the call of the entry point. -/
def resultExpr (call : Expr) (plan : CallPlan) (s : Slot) : Expr :=
  resultValue s (rawResult call plan s) (rawCount plan s)

theorem resultValue_plain {s : Slot} (h : isPlain s = true) (raw count : Expr) :
    resultValue s raw count = raw := by
  unfold isPlain at h
  rw [Bool.and_eq_true, decide_eq_true_eq] at h
  obtain ⟨hs, hf⟩ := h
  unfold resultValue
  cases hsh : s.shape with
  | scalar => rw [hf]; rfl
  | pointer => rw [hf]; rfl
  | buffer => rw [hsh] at hs; cases hs
  | fixed n => rw [hsh] at hs; cases hs

theorem outValue_eq {plan : CallPlan} (h : plan.returned = none) (call : Expr) (s : Slot) :
    outValue s = resultExpr call plan s := by
  unfold outValue resultExpr rawResult rawCount
  rw [h]
  cases s.shape with
  | buffer => by_cases hb : s.isBytes <;> simp [hb]
  | _ => rfl

theorem callStep_ret (symbol : String) (plan : CallPlan) (args : List Expr)
    (h : plan.results ≠ []) :
    (callStep symbol plan args).getLast?
      = some (.ret (plan.results.map (resultExpr (.call (.entry symbol) args) plan))) := by
  unfold callStep
  cases hr : plan.returned with
  | some s =>
    rw [CallPlan.returned_results hr]
    by_cases hp : isPlain s = true
    · simp [resultExpr, resultValue_plain hp, rawResult, hr, hp]
    · simp [resultExpr, rawResult, rawCount, hr, hp]
  | none =>
    have values : plan.results.map outValue
        = plan.results.map (resultExpr (.call (.entry symbol) args) plan) :=
      List.map_congr_left fun s _ => outValue_eq hr _ s
    rw [if_neg h, values, List.getLast?_append]
    rfl

/-- **The last statement** of a body returns the converted results in their order. -/
theorem callBody_ret (symbol : String) (bound : Bool) (plan : CallPlan) (names : List String)
    (h : plan.results ≠ []) :
    (callBody symbol bound plan names).getLast? = some (.ret (plan.results.map
      (resultExpr (.call (.entry symbol) (callArguments bound plan names)) plan))) := by
  unfold callBody
  rw [List.getLast?_append]
  have step := callStep_ret symbol plan (callArguments bound plan names) h
  unfold callArguments at step
  rw [step]
  rfl

end Py

/-! ## Both sides of one result -/

/-- The functions of the glue that wrap a value into a handle. -/
def Go.wrappers : List String := ["handleOf", "handleOfValue", "anyHandle"]

/-- The code makes a handle of the variable. -/
def Go.Wraps (code : List Go.Stmt) (var : String) : Prop :=
  ∃ f ∈ wrappers, Makes code (.name f) [.name var]

/-- The converter that the module uses for handles of a type, if it has one. -/
def Py.objectConverter (structs : StructNames) (t : GoType) : Option Py.Expr :=
  (t.declaredStruct structs).map fun struct => .member (.cls struct) "_from_handle"

/-- The code of the glue that hands over the result in `var`, and the value that the module makes of the
raw result, are the two sides of one transfer. -/
structure Paired (structs : StructNames) (s : Slot) (var : String) (code : List Go.Stmt)
    (raw value : Py.Expr) : Prop where
  string : Go.Makes code (.library "C" "CString") [.name var] ↔
    value = .calls "_decode_string" [raw]
  bytes : Go.Makes code (.library "C" "CBytes") [.name var] ↔
    ∃ count, value = .calls "_take_bytes" [raw, count]
  buffer : (∃ t, Go.Makes code (.applied "allocSlice" t) [.calls "len" [.name var]]) ↔
    ∃ count conv, value = .calls "_take_buffer" (raw :: count :: conv)
  strings : Go.Makes code (.library "C" "CString") [.name "_v"] ↔
    ∃ count, value = .calls "_take_buffer" [raw, count, .name "_decode_string"]
  /-- There are no other allocations. -/
  allocations : ∀ c ∈ Go.Stmt.madeAll code, c.function.allocates = true →
    c.args = [.name var] ∨ c.args = [.calls "len" [.name var]] ∨ c.args = [.name "_v"]
  object : ∀ struct, value = .call (.member (.cls struct) "_from_handle") [raw] ↔
    Go.Wraps code var ∧ s.type.declaredStruct structs = some struct
  integer : Go.Wraps code var → s.type.declaredStruct structs = none → value = raw
  objects : Go.Wraps code "_v" → ∃ t count, s.type.elem = some t ∧
    value = .calls "_take_buffer" ([raw, count] ++ (Py.objectConverter structs t).toList)

theorem Py.Expr.ne_call_cons (e f : Py.Expr) (rest : List Py.Expr) : e ≠ .call f (e :: rest) := by
  intro h
  have size := congrArg sizeOf h
  simp at size
  omega

theorem resultName_ne (k : Nat) : Go.resultName k ≠ "_v" := by
  intro h
  have letters := congrArg String.toList h
  simp [Go.resultName] at letters

/-- What the code calls besides counting. -/
def HandsOver (s : Slot) (var : String) (k : Nat) (code : List Go.Stmt) : Prop :=
  ∀ c, c ∈ Go.Stmt.madeAll code ↔
    c ∈ Go.handedOver s var k ∨ s.shape = .buffer ∧ c ∈ Go.counting var

theorem primitive_c (p : Primitive) :
    p.c ≠ "CString" ∧ p.c ≠ "CBytes" ∧ (Go.Expr.library "C" p.c).allocates = false := by
  cases p <;> decide

/-- A value that is converted without allocating, and is taken as it comes. -/
theorem value_paired {structs : StructNames} {name var : String} {t : GoType} {p : Primitive}
    {shape : Shape} {code : List Go.Stmt}
    (made : ∀ c, c ∈ Go.Stmt.madeAll code ↔ c = ⟨.library "C" p.c, [.name var]⟩)
    (known : t.declaredStruct structs = none) (raw : Py.Expr) :
    Paired structs ⟨name, t, .value p, shape⟩ var code raw raw := by
  obtain ⟨hs, hb, ha⟩ := primitive_c p
  constructor <;>
    simp [Go.Makes, Go.Wraps, Go.wrappers, Py.Expr.calls, made, known, Py.Expr.ne_call_cons, hs.symm,
      hb.symm, ha]

theorem string_paired {structs : StructNames} {name var : String} {t : GoType} {shape : Shape}
    {code : List Go.Stmt} (hv : var ≠ "_v")
    (made : ∀ c, c ∈ Go.Stmt.madeAll code ↔ c = ⟨.library "C" "CString", [.name var]⟩)
    (known : t.declaredStruct structs = none) (raw : Py.Expr) :
    Paired structs ⟨name, t, .ownedString, shape⟩ var code raw (.calls "_decode_string" [raw]) := by
  constructor <;>
    simp [Go.Makes, Go.Wraps, Go.wrappers, Py.Expr.calls, made, known, hv.symm]

/-- A handle is made by one of the wrappers. -/
theorem handle_made (kind : HandleKind) (nullable : Bool) (var : String) :
    ∃ f ∈ Go.wrappers, ((Go.intoC (.handle kind nullable)).apply (.name var)).made
      = [⟨.name f, [.name var]⟩] := by
  cases kind <;> cases nullable <;>
    simp [Go.intoC, Go.IntoC.apply, Go.Expr.calls, Go.Expr.made, Go.Expr.madeAll, Go.wrappers]

/-- A handle is converted if it is that of a struct of the package. -/
theorem handle_function {structs : StructNames} {t : GoType} {kind : HandleKind} {nullable : Bool}
    (h : classify structs t = .ok (.handle kind nullable)) :
    (Py.fromRaw (.handle kind nullable)).function = Py.objectConverter structs t := by
  unfold Py.objectConverter
  rw [← knownStruct_eq h rfl]
  cases hk : (Transfer.handle kind nullable).knownStruct <;> simp [Py.fromRaw, hk, Py.FromRaw.function]

theorem handle_paired {structs : StructNames} {name var f : String} {t : GoType}
    {kind : HandleKind} {nullable : Bool} {shape : Shape} {code : List Go.Stmt} (hv : var ≠ "_v")
    (ht : classify structs t = .ok (.handle kind nullable)) (hf : f ∈ Go.wrappers)
    (made : ∀ c, c ∈ Go.Stmt.madeAll code ↔ c = ⟨.name f, [.name var]⟩) (raw : Py.Expr) :
    Paired structs ⟨name, t, .handle kind nullable, shape⟩ var code raw
      ((Py.fromRaw (.handle kind nullable)).apply raw) := by
  have wraps : Go.Wraps code var := ⟨f, hf, (made _).2 rfl⟩
  unfold Py.FromRaw.apply
  rw [handle_function ht]
  unfold Py.objectConverter
  cases hd : t.declaredStruct structs with
  | none =>
    constructor <;>
      simp [Go.Makes, Go.Wraps, Py.Expr.calls, made, hd, Py.Expr.ne_call_cons, hv.symm,
        Go.Expr.allocates]
  | some struct =>
    constructor <;>
      simp [Go.Makes, Go.Wraps, Py.Expr.calls, made, hd, hv.symm, hf, Go.Expr.allocates]

theorem scalar_paired {structs : StructNames} {name : String} {t : GoType} {tr : Transfer}
    (ht : classify structs t = .ok tr) (hs : tr.isScalar = true) {var : String} {k : Nat}
    (hv : var ≠ "_v") {code : List Go.Stmt} (hc : HandsOver ⟨name, t, tr, .scalar⟩ var k code)
    (raw count : Py.Expr) :
    Paired structs ⟨name, t, tr, .scalar⟩ var code raw
      (Py.resultValue ⟨name, t, tr, .scalar⟩ raw count) := by
  have known := knownStruct_eq ht hs
  have made : ∀ c, c ∈ Go.Stmt.madeAll code ↔ c ∈ ((Go.intoC tr).apply (.name var)).made := by
    intro c
    rw [hc c]
    simp [Go.handedOver]
  cases tr with
  | value p => exact value_paired (fun c => (made c).trans List.mem_singleton) known.symm raw
  | ownedString => exact string_paired hv (fun c => (made c).trans List.mem_singleton) known.symm raw
  | handle kind nullable =>
    obtain ⟨f, hf, hm⟩ := handle_made kind nullable var
    rw [hm] at made
    exact handle_paired hv ht hf (fun c => (made c).trans List.mem_singleton) raw
  | composite _ _ _ => cases hs
  | errorOut => cases hs

/-! ### Memory -/

theorem bytes_paired {structs : StructNames} {name var : String} {t : GoType} {e : Transfer}
    {len : UInt64} {k : Nat} {code : List Go.Stmt} (hv : var ≠ "_v")
    (hc : HandsOver ⟨name, t, .composite .bytes e len, .buffer⟩ var k code) (raw count : Py.Expr) :
    Paired structs ⟨name, t, .composite .bytes e len, .buffer⟩ var code raw
      (Py.resultValue ⟨name, t, .composite .bytes e len, .buffer⟩ raw count) := by
  have made : ∀ c, c ∈ Go.Stmt.madeAll code ↔
      c = ⟨.library "C" "CBytes", [.name var]⟩ ∨ c ∈ Go.counting var := by
    intro c
    rw [hc c]
    simp [Go.handedOver, Go.bufferIntoC, Slot.isBytes, Go.Stmt.madeAll, Go.Expr.ccall, Go.Expr.made,
      Go.Expr.madeAll]
  show Paired structs _ var code raw (.calls "_take_bytes" [raw, count])
  constructor <;>
    simp [Go.Makes, Go.Wraps, Go.wrappers, Go.mem_counting, Go.Expr.calls, Py.Expr.calls, made,
      hv.symm, Go.Expr.allocates]

/-- A conversion is one call with the converted value as its argument. -/
theorem made_args {i : Go.IntoC} {x : String} {c : Go.Call} (h : c ∈ (i.apply (.name x)).made) :
    c.args = [.name x] := by
  cases i with
  | same => cases h
  | _ => rw [List.mem_singleton.1 h]

/-- The elements of a slice or array. -/
theorem elements_paired {structs : StructNames} {s : Slot} {te : GoType} {e : Transfer}
    (he : s.type.elem = some te) (hc : classify structs te = .ok e) (hs : e.isScalar = true)
    {var : String} {k : Nat} (hv : var ≠ "_v") {code : List Go.Stmt} (hands : HandsOver s var k code)
    (copied : Go.handedOver s var k = Go.copying te e var k) (raw count : Py.Expr) :
    Paired structs s var code raw
      (.calls "_take_buffer" ([raw, count] ++ (Py.fromRaw e).function.toList)) := by
  have made : ∀ c, c ∈ Go.Stmt.madeAll code ↔
      c = ⟨.applied "allocSlice" (.c (CType.describe te e).token), [.calls "len" [.name var]]⟩ ∨
      c = ⟨.name "len", [.name var]⟩ ∨ c ∈ ((Go.intoC e).apply (.name "_v")).made ∨
      c = ⟨.library "unsafe" "SliceData", [.name ("_c" ++ toString k)]⟩ ∨
      s.shape = .buffer ∧ c ∈ Go.counting var := by
    intro c
    rw [hands c, copied]
    simp [Go.copying, or_assoc]
  have allocations : ∀ c ∈ Go.Stmt.madeAll code, c.function.allocates = true →
      c.args = [.name var] ∨ c.args = [.calls "len" [.name var]] ∨ c.args = [.name "_v"] := by
    intro c hm ha
    rcases (made c).1 hm with rfl | rfl | h | rfl | ⟨-, h⟩
    · exact .inr (.inl rfl)
    · cases ha
    · exact .inr (.inr (made_args h))
    · cases ha
    · rcases Go.mem_counting.1 h with rfl | rfl <;> cases ha
  cases e with
  | value p =>
    obtain ⟨hps, hpb, -⟩ := primitive_c p
    have conv : (Py.fromRaw (.value p)).function = none := rfl
    have element : ((Go.intoC (.value p)).apply (.name "_v")).made
        = [⟨.library "C" p.c, [.name "_v"]⟩] := rfl
    rw [conv]
    refine ⟨?_, ?_, ?_, ?_, allocations, ?_, ?_, ?_⟩ <;>
      simp [Go.Makes, Go.Wraps, Go.wrappers, Go.mem_counting, Go.Expr.calls, Py.Expr.calls,
        made, hv.symm, element, hps.symm, hpb.symm]
  | ownedString =>
    have conv : (Py.fromRaw .ownedString).function = some (.name "_decode_string") := rfl
    have element : ((Go.intoC .ownedString).apply (.name "_v")).made
        = [⟨.library "C" "CString", [.name "_v"]⟩] := rfl
    rw [conv]
    refine ⟨?_, ?_, ?_, ?_, allocations, ?_, ?_, ?_⟩ <;>
      simp [Go.Makes, Go.Wraps, Go.wrappers, Go.mem_counting, Go.Expr.calls, Py.Expr.calls,
        made, hv, element]
  | handle kind nullable =>
    obtain ⟨f, hf, element⟩ := handle_made kind nullable "_v"
    rw [handle_function hc]
    unfold Py.objectConverter
    refine ⟨?_, ?_, ?_, ?_, allocations, ?_, ?_, ?_⟩ <;>
      simp [Go.Makes, Go.Wraps, Go.wrappers, Go.mem_counting, Go.Expr.calls, Py.Expr.calls,
        Py.objectConverter, made, hv, hv.symm, element, he]
  | composite _ _ _ => cases hs
  | errorOut => cases hs

/-! ## Every result of a plan -/

/-- **One result.** The two sides agree on who allocates and who releases, whether the result is returned
or stored through a pointer. -/
theorem result_paired {structs : StructNames} {plan : CallPlan} (hf : plan.Formed structs) {k : Nat}
    {s : Slot} (h : plan.results[k]? = some s) (call : Py.Expr) :
    Paired structs s (Go.resultName k) (Go.resultCode plan k s) (Py.rawResult call plan s)
      (Py.resultExpr call plan s) := by
  have hv := resultName_ne k
  have hands : HandsOver s (Go.resultName k) k (Go.resultCode plan k s) := Go.mem_resultCode h
  unfold Py.resultExpr
  generalize Py.rawResult call plan s = raw
  generalize Py.rawCount plan s = count
  generalize Go.resultCode plan k s = code at hands ⊢
  generalize Go.resultName k = var at hv hands ⊢
  obtain ⟨form, noPointer⟩ := hf.results s (List.mem_of_getElem? h)
  cases form with
  | scalar ht hs => exact scalar_paired ht hs hv hands raw count
  | bytes ht => exact bytes_paired hv hands raw count
  | pointer ht he hc => exact absurd rfl noPointer
  | @slice name t te e len ht he hc hs =>
    have value : Py.resultValue ⟨name, t, .composite .slice e len, .buffer⟩ raw count
        = .calls "_take_buffer" ([raw, count] ++ (Py.fromRaw e).function.toList) := by
      simp [Py.resultValue, Slot.isBytes, Slot.elem, he]
    rw [value]
    exact elements_paired he hc hs hv hands
      (Go.buffer_copies rfl (by simp [Slot.elem, he]) var k) raw count
  | @array name t te e len ht he hc hs =>
    have value : Py.resultValue ⟨name, t, .composite .array e len, .fixed len⟩ raw count
        = .calls "_take_buffer" ([raw, .number len.toNat] ++ (Py.fromRaw e).function.toList) := by
      simp [Py.resultValue, Slot.elem, he]
    rw [value]
    exact elements_paired he hc hs hv hands
      (Go.buffer_copies rfl (by simp [Slot.elem, he]) var k) raw (.number len.toNat)

/-- **Allocation and release are paired.** The body of every entry point of a plan ends with the code of
its results, and every body of the module ends by returning their values; code and value of each result
belong together. What comes before converts the parameters, and neither side allocates for them. -/
theorem ownership_paired {structs : StructNames} {sig : Signature} {plan : CallPlan}
    (h : CallPlan.ofSignature structs sig = .ok plan) (own symbol : String) :
    (∀ receiver invoke entry, Go.entryOf own symbol receiver invoke plan = some entry →
      ∃ renamed, Go.unshadowed own plan = some renamed ∧
        entry.body = Go.clearStep renamed ++ Go.receiveStep renamed receiver
          ++ Go.convertStep own renamed ++ Go.callStep own receiver renamed invoke
          ++ Go.writeBackStep renamed ++ Go.errorStep renamed
          ++ (plan.results.mapIdx (Go.resultCode plan)).flatten ∧
        Go.Borrows (Go.Stmt.madeAll (Go.convertStep own renamed)
          ++ Go.Expr.madeAll (Go.arguments own renamed)
          ++ Go.Stmt.madeAll (Go.writeBackStep renamed))) ∧
    (∀ bound names, plan.results ≠ [] →
      (Py.callBody symbol bound plan names).getLast? = some (.ret (plan.results.map
        (Py.resultExpr (.call (.entry symbol) (Py.callArguments bound plan names)) plan)))) ∧
    (∀ s ∈ plan.params, ∀ name, Py.Owned
      (Py.Stmt.madeAll (Py.arguments s name).1 ++ Py.Expr.madeAll (Py.arguments s name).2)) ∧
    ∀ k s, plan.results[k]? = some s → ∀ call,
      Paired structs s (Go.resultName k) (Go.resultCode plan k s) (Py.rawResult call plan s)
        (Py.resultExpr call plan s) := by
  refine ⟨?_, ?_, ?_, ?_⟩
  · intro receiver invoke entry he
    simp only [Go.entryOf, bind, Option.bind_eq_some_iff, pure, Option.some.injEq] at he
    obtain ⟨renamed, hr, rfl⟩ := he
    refine ⟨renamed, hr, ?_, Go.parameters_borrowed own renamed⟩
    have results : Go.resultStep renamed = (plan.results.mapIdx (Go.resultCode plan)).flatten := by
      rw [← Go.resultStep_eq, (Go.unshadowed_renamed hr).2]
      rfl
    rw [← results]
    rfl
  · intro bound names hn
    exact Py.callBody_ret symbol bound plan names hn
  · intro s _ name
    exact Py.arguments_owned s name
  · intro k s hk call
    exact result_paired (CallPlan.ofSignature_form h) hk call

/-- A function with a text for its parameter that returns texts and a struct, or fails. -/
def lookupSignature : Signature :=
  ⟨[⟨"key", .string⟩], [.unnamed (.slice .string), .unnamed (.pointer (.struct "Point")),
    .unnamed .error], false⟩

theorem ownership_paired_lookup :
    ∃ plan, CallPlan.ofSignature ["Point"] lookupSignature = .ok plan ∧ plan.results.length = 2 ∧
      ∀ k s, plan.results[k]? = some s → ∀ call,
        Paired ["Point"] s (Go.resultName k) (Go.resultCode plan k s) (Py.rawResult call plan s)
          (Py.resultExpr call plan s) := by
  obtain ⟨plan, h, hl⟩ : ∃ plan, CallPlan.ofSignature ["Point"] lookupSignature = .ok plan ∧
      plan.results.length = 2 := ⟨_, rfl, rfl⟩
  obtain ⟨-, -, -, paired⟩ := ownership_paired h "geo" "geo_Lookup"
  exact ⟨plan, h, hl, paired⟩

end GoGlue
