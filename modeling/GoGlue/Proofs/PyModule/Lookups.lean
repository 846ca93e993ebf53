import GoGlue.Proofs.Ownership.Results
import GoGlue.Proofs.PyModule.Locals
import GoGlue.Proofs.Text.Words

/-!
# Names that a body looks up

Python finds out what a name stands for when the code that holds it runs, so a name that nothing defines goes
unnoticed until then. The names in a piece of code are told apart by what they are to be found as: a plain name
is a parameter, a local, a builtin or a function of the prelude; the others are names of `ctypes` and classes of
structs. What a body looks up depends on the shapes and strategies in its plan, and is followed here through the
same steps in which the body is put together.

* `token_words`: the names in the spelling of a class of `ctypes`.
* `Expr.lookups`, `Stmt.lookups`: the names that code looks up.
* `lookups_ctypes`: those of `ctypes` are collected.
* `callBody_lookups`: what the body of a plan looks up.
-/
namespace GoGlue

open Text (words words_after words_around words_before)

theorem Primitive.ctypes_words (p : Primitive) : words p.ctypes = [p.ctypes] := by
  cases p <;> decide +kernel

/-- The names in the spelling of a class of `ctypes` are those that it is said to use. -/
theorem CtypesToken.token_words (t : CtypesToken) : words t.text = t.names := by
  induction t with
  | primitive p => exact p.ctypes_words
  | pointer t ih =>
    have constructor : words "POINTER(" = ["POINTER"] := by decide +kernel
    have closing : words ")" = [] := by decide +kernel
    rw [CtypesToken.text, words_after (by decide +kernel), words_before (by decide +kernel), ih,
      CtypesToken.names, constructor, closing, List.append_nil, List.singleton_append]
  | _ => decide +kernel

namespace Py

/-! ## Names in code -/

/-- A name that code looks up, by what it is to be found as. -/
inductive Lookup where
  /-- A variable, or a function that the module defines or that is built in. -/
  | plain (n : String)
  /-- A name of `ctypes`. -/
  | ctypes (n : String)
  /-- The class of a struct. -/
  | cls (struct : String)
  deriving DecidableEq

mutual
/-- The names that an expression looks up; the variable of a comprehension is its own. -/
def Expr.lookups : Expr → List Lookup
  | name n => [.plain n]
  | ctypes t => (words t.text).map .ctypes
  | byref e => .ctypes "byref" :: e.lookups
  | entry _ => [.plain "_lib"]
  | cls struct => [.cls struct]
  | call f args => f.lookups ++ lookupsAll args
  | member e _ | keyword _ e | isNone e | negation e => e.lookups
  | either a b => a.lookups ++ b.lookups
  | conditional value cond alternative => value.lookups ++ cond.lookups ++ alternative.lookups
  | comprehension value var items => value.lookups.filter (· ≠ .plain var) ++ items.lookups
  | none | number _ | text _ | emptyBytes | emptyList => []
def Expr.lookupsAll : List Expr → List Lookup
  | [] => []
  | e :: rest => e.lookups ++ lookupsAll rest
end

mutual
/-- The names that a statement looks up. A variable that is assigned is not looked up. -/
def Stmt.lookups : Stmt → List Lookup
  | expr e => e.lookups
  | assign targets e => Expr.lookupsAll (targets.filter (·.variableName.isNone)) ++ e.lookups
  | ret values => Expr.lookupsAll values
  | pass => []
  | ifs cond body => cond.lookups ++ lookupsAll body
  | attempt body failure handler => lookupsAll body ++ .plain failure :: lookupsAll handler
def Stmt.lookupsAll : List Stmt → List Lookup
  | [] => []
  | s :: rest => s.lookups ++ lookupsAll rest
end

/-- The names that the body of a definition looks up. -/
def Def.lookups (d : Def) : List Lookup := Stmt.lookupsAll d.body

theorem Expr.lookupsAll_append (es fs : List Expr) :
    lookupsAll (es ++ fs) = lookupsAll es ++ lookupsAll fs := by
  induction es with
  | nil => rfl
  | cons e rest ih => simp [lookupsAll, ih]

theorem Expr.mem_lookupsAll {es : List Expr} {x : Lookup} : x ∈ lookupsAll es ↔ ∃ e ∈ es, x ∈ e.lookups := by
  induction es with
  | nil => simp [lookupsAll]
  | cons e rest ih => simp [lookupsAll, ih]

theorem Stmt.lookupsAll_append (ss ts : List Stmt) :
    lookupsAll (ss ++ ts) = lookupsAll ss ++ lookupsAll ts := by
  induction ss with
  | nil => rfl
  | cons s rest ih => simp [lookupsAll, ih]

theorem Stmt.mem_lookupsAll {ss : List Stmt} {x : Lookup} : x ∈ lookupsAll ss ↔ ∃ s ∈ ss, x ∈ s.lookups := by
  induction ss with
  | nil => simp [lookupsAll]
  | cons s rest ih => simp [lookupsAll, ih]

/-! ### Names of `ctypes` -/

theorem Expr.variable_ctypes {e : Expr} (h : e.variableName.isNone = false) : e.ctypesNames = [] := by
  cases e <;> simp_all [variableName, ctypesNames]

theorem Expr.mem_ctypesNamesAll {es : List Expr} {n : String} :
    n ∈ ctypesNamesAll es ↔ ∃ e ∈ es, n ∈ e.ctypesNames := by
  induction es with
  | nil => simp [ctypesNamesAll]
  | cons e rest ih => simp [ctypesNamesAll, ih]

mutual
theorem Expr.lookups_ctypes {n : String} (e : Expr) : .ctypes n ∈ e.lookups ↔ n ∈ e.ctypesNames := by
  cases e with
  | name | none | number | text | emptyBytes | emptyList | entry | cls => simp [lookups, ctypesNames]
  | ctypes t => simp [lookups, ctypesNames, t.token_words]
  | byref e | member e _ | keyword _ e | isNone e | negation e =>
    simp [lookups, ctypesNames, e.lookups_ctypes]
  | call f args => simp [lookups, ctypesNames, f.lookups_ctypes, lookupsAll_ctypes args]
  | either a b => simp [lookups, ctypesNames, a.lookups_ctypes, b.lookups_ctypes]
  | conditional a b c =>
    simp [lookups, ctypesNames, a.lookups_ctypes, b.lookups_ctypes, c.lookups_ctypes]
  | comprehension value var items =>
    simp [lookups, ctypesNames, value.lookups_ctypes, items.lookups_ctypes]
theorem Expr.lookupsAll_ctypes {n : String} (es : List Expr) :
    .ctypes n ∈ lookupsAll es ↔ n ∈ ctypesNamesAll es := by
  cases es with
  | nil => simp [lookupsAll, ctypesNamesAll]
  | cons e rest => simp [lookupsAll, ctypesNamesAll, e.lookups_ctypes, lookupsAll_ctypes rest]
end

/-- A variable that is assigned is no name of `ctypes`. -/
theorem Expr.targets_ctypes {n : String} (targets : List Expr) :
    .ctypes n ∈ lookupsAll (targets.filter (·.variableName.isNone)) ↔ n ∈ ctypesNamesAll targets := by
  simp only [lookupsAll_ctypes, mem_ctypesNamesAll, List.mem_filter]
  constructor
  · rintro ⟨e, ⟨he, -⟩, hn⟩
    exact ⟨e, he, hn⟩
  · rintro ⟨e, he, hn⟩
    refine ⟨e, ⟨he, ?_⟩, hn⟩
    by_contra hv
    rw [variable_ctypes (by simpa only [Bool.not_eq_true] using hv)] at hn
    cases hn

mutual
theorem Stmt.lookups_ctypes {n : String} (s : Stmt) : .ctypes n ∈ s.lookups ↔ n ∈ s.ctypesNames := by
  cases s with
  | expr e => simp [lookups, ctypesNames, e.lookups_ctypes]
  | assign targets e => simp [lookups, ctypesNames, Expr.targets_ctypes, e.lookups_ctypes]
  | ret values => simp [lookups, ctypesNames, Expr.lookupsAll_ctypes]
  | pass => simp [lookups, ctypesNames]
  | ifs cond body => simp [lookups, ctypesNames, cond.lookups_ctypes, lookupsAll_ctypes body]
  | attempt body failure handler =>
    simp [lookups, ctypesNames, lookupsAll_ctypes body, lookupsAll_ctypes handler]
/-- **The names of `ctypes` that code looks up are those that are collected.** -/
theorem Stmt.lookupsAll_ctypes {n : String} (ss : List Stmt) :
    .ctypes n ∈ lookupsAll ss ↔ n ∈ ctypesNamesAll ss := by
  cases ss with
  | nil => simp [lookupsAll, ctypesNamesAll]
  | cons s rest => simp [lookupsAll, ctypesNamesAll, s.lookups_ctypes, lookupsAll_ctypes rest]
end

/-! ## Bodies of plans -/

/-- The functions that bodies call by their names, and the library. -/
def bodyFunctions : List String :=
  ["_lib", "bytes", "len", "_encode_string", "_decode_string", "_check_error", "_make_array", "_fixed_array",
    "_take_buffer", "_take_bytes", "_handle_of"]

/-- A property of names that the functions that bodies call have, the names of `ctypes`, and the classes of
the structs. -/
structure Known (structs : StructNames) (Q : Lookup → Prop) : Prop where
  functions : ∀ f ∈ bodyFunctions, Q (.plain f)
  ctypes : ∀ n, Q (.ctypes n)
  classes : ∀ struct ∈ structs, Q (.cls struct)

section

variable {structs : StructNames} {Q : Lookup → Prop} {plan : CallPlan} {names : List String}

-- generated code is spelled out in full here, down to the names in its parts
attribute [local simp] Expr.lookups Expr.lookupsAll Expr.calls Stmt.lookups Stmt.lookupsAll
  List.filter_cons Expr.variableName

/-- Only structs of the package have a class. -/
theorem known_declared {t : GoType} {tr : Transfer} {struct : String} (h : classify structs t = .ok tr)
    (hk : tr.knownStruct = some struct) : struct ∈ structs := by
  have scalar : tr.isScalar = true := by
    cases tr <;> first | rfl | cases hk
  rw [knownStruct_eq h scalar] at hk
  have declared : ∀ e : GoType, e.isKnown structs = true → e.name ∈ structs := by
    intro e he
    rw [GoType.isKnown, Bool.and_eq_true] at he
    simpa using he.2
  unfold GoType.declaredStruct at hk
  split at hk
  · split at hk
    · cases hk
      exact declared t ‹_›
    · cases hk
  · split at hk
    · next e _ _ both =>
      cases hk
      rw [Bool.and_eq_true] at both
      exact declared _ both.2
    · cases hk
  · cases hk

theorem intoRaw_lookups (known : Known structs Q) (i : IntoRaw) {e : Expr} (he : ∀ x ∈ e.lookups, Q x) :
    ∀ x ∈ (i.apply e).lookups, Q x := by
  have functions := known.functions
  cases i <;> simpa (disch := decide) [IntoRaw.apply, functions] using he

theorem fromRaw_lookups (known : Known structs Q) {t : GoType} {tr : Transfer}
    (h : classify structs t = .ok tr) : ∀ f ∈ (fromRaw tr).function, ∀ x ∈ f.lookups, Q x := by
  have decode : Q (.plain "_decode_string") := known.functions _ (by decide)
  unfold fromRaw
  split
  · simpa [FromRaw.function] using decode
  · split
    · next hk => simpa [FromRaw.function] using known.classes _ (known_declared h hk)
    · simp [FromRaw.function]

/-- What the arguments of a parameter look up, and the statements that prepare them. -/
theorem arguments_lookups (known : Known structs Q) {s : Slot} (hf : s.Form structs) {n : String}
    (hn : Q (.plain n)) (own : ∀ l ∈ locals (s, n), Q (.plain l)) :
    (∀ x ∈ Stmt.lookupsAll (arguments s n).1, Q x) ∧ ∀ x ∈ Expr.lookupsAll (arguments s n).2, Q x := by
  have functions := known.functions
  have ctypes := known.ctypes
  simp only [mem_locals] at own
  cases hf with
  | @scalar name t tr ht hs =>
    have value := intoRaw_lookups known (intoRaw tr) (e := .name n) (by simpa using hn)
    exact ⟨by simp [arguments], by simpa [arguments] using value⟩
  | bytes ht =>
    have loc : Q (.plain (localOf n)) := own _ (.inl ⟨by simp, rfl⟩)
    simp (disch := decide) [arguments, Slot.isBytes, functions, hn, loc]
  | @slice name t te e len ht he hc hs =>
    have loc : Q (.plain (localOf n)) := own _ (.inl ⟨by simp, rfl⟩)
    have count : Q (.plain (lengthOf (localOf n))) := own _ (.inr ⟨by simp [counted, Slot.isBytes], rfl⟩)
    cases hi : intoRaw e <;>
      simp (disch := decide) [arguments, Slot.isBytes, Slot.elem, he, hi, IntoRaw.apply, functions, or_imp,
        forall_and, ctypes, hn, loc, count]
  | @array name t te e len ht he hc hs =>
    have loc : Q (.plain (localOf n)) := own _ (.inl ⟨by simp, rfl⟩)
    cases hi : intoRaw e <;>
      simp (disch := decide) [arguments, Slot.elem, he, hi, IntoRaw.apply, functions, or_imp, forall_and,
        ctypes, hn, loc]
  | pointer ht he hc =>
    have loc : Q (.plain (localOf n)) := own _ (.inl ⟨by simp, rfl⟩)
    simp [arguments, loc, hn, or_imp, forall_and, ctypes]

/-- What the places for results look up. -/
theorem resultArguments_lookups (known : Known structs Q) (places : ∀ l ∈ outPlaces plan, Q (.plain l)) :
    (∀ x ∈ Stmt.lookupsAll (resultArguments plan).1, Q x) ∧
      ∀ x ∈ Expr.lookupsAll (resultArguments plan).2, Q x := by
  have ctypes := known.ctypes
  have stored : ∀ s : Slot, (∀ l ∈ s.places, Q (.plain l)) →
      (∀ x ∈ Stmt.lookupsAll (outArguments s).1, Q x) ∧ ∀ x ∈ Expr.lookupsAll (outArguments s).2, Q x := by
    intro s hs
    simp only [Slot.mem_places] at hs
    have loc := hs _ (.inl rfl)
    by_cases hb : s.shape = .buffer
    · have count := hs _ (.inr ⟨hb, rfl⟩)
      simp [outArguments, hb, or_imp, forall_and, ctypes, loc, count]
    · simp [outArguments, hb, or_imp, forall_and, ctypes, loc]
  unfold outPlaces at places
  have error : plan.hasError = true → Q (.plain "_err") := fun he => places _ (by simp [he])
  unfold resultArguments
  cases hr : plan.returned with
  | some s =>
    have count : s.shape = .buffer → Q (.plain "_len") := fun hb => places _ (by simp [hr, hb])
    by_cases hb : s.shape = .buffer <;> by_cases he : plan.hasError = true <;>
      simp [hb, he, count, error, or_imp, forall_and, ctypes]
  | none =>
    have each : ∀ s ∈ plan.results, _ := fun s hs => stored s fun l hl => places l
      (List.mem_append_left _ (by rw [hr]; exact List.mem_flatMap.2 ⟨s, hs, hl⟩))
    have results : (∀ x ∈ Stmt.lookupsAll ((plan.results.map outArguments).flatMap (·.1)), Q x) ∧
        ∀ x ∈ Expr.lookupsAll ((plan.results.map outArguments).flatMap (·.2)), Q x := by
      constructor
      · intro x hx
        obtain ⟨c, hc, hx⟩ := Stmt.mem_lookupsAll.1 hx
        obtain ⟨part, hp, hc⟩ := List.mem_flatMap.1 hc
        obtain ⟨s, hs, rfl⟩ := List.mem_map.1 hp
        exact (each s hs).1 x (Stmt.mem_lookupsAll.2 ⟨c, hc, hx⟩)
      · intro x hx
        obtain ⟨e, he, hx⟩ := Expr.mem_lookupsAll.1 hx
        obtain ⟨part, hp, he⟩ := List.mem_flatMap.1 he
        obtain ⟨s, hs, rfl⟩ := List.mem_map.1 hp
        exact (each s hs).2 x (Expr.mem_lookupsAll.2 ⟨e, he, hx⟩)
    by_cases he : plan.hasError = true
    · simpa [he, Stmt.lookupsAll_append, Expr.lookupsAll_append, or_imp, forall_and, error, ctypes] using results
    · simpa [he] using results

/-- What the value of a result looks up besides the raw value, and the count of a buffer. -/
theorem resultValue_lookups (known : Known structs Q) {s : Slot} (hf : s.Form structs) {raw count : Expr}
    (hraw : ∀ x ∈ raw.lookups, Q x) (hcount : s.shape = .buffer → ∀ x ∈ count.lookups, Q x) :
    ∀ x ∈ (resultValue s raw count).lookups, Q x := by
  have functions := known.functions
  have scalar : ∀ {t : GoType} {tr : Transfer}, classify structs t = .ok tr →
      ∀ x ∈ ((fromRaw tr).apply raw).lookups, Q x := by
    intro t tr ht
    have conv := fromRaw_lookups known ht
    unfold FromRaw.apply
    cases hg : (fromRaw tr).function with
    | none => exact hraw
    | some g => simpa [or_imp, forall_and] using ⟨conv g (by simp [hg]), hraw⟩
  have taken : ∀ {t : GoType} {tr : Transfer} {n : Expr}, classify structs t = .ok tr →
      (∀ x ∈ n.lookups, Q x) →
        ∀ x ∈ (Expr.calls "_take_buffer" ([raw, n] ++ (fromRaw tr).function.toList)).lookups, Q x := by
    intro t tr n ht hn
    have conv := fromRaw_lookups known ht
    cases hg : (fromRaw tr).function with
    | none => simpa (disch := decide) [functions, or_imp, forall_and] using ⟨hraw, hn⟩
    | some g =>
      simpa (disch := decide) [functions, or_imp, forall_and] using ⟨hraw, hn, conv g (by simp [hg])⟩
  unfold resultValue
  cases hf with
  | scalar ht hs => exact scalar ht
  | bytes ht =>
    simpa (disch := decide) [Slot.isBytes, functions, or_imp, forall_and] using ⟨hraw, hcount rfl⟩
  | slice ht he hc hs => simpa [Slot.isBytes, Slot.elem, he] using taken hc (hcount rfl)
  | @array name t te e len ht he hc hs =>
    simpa [Slot.elem, he] using taken hc (n := .number len.toNat) (by simp)
  | pointer ht he hc => exact scalar ht

/-- What the call looks up, and the results that are made of what comes back. -/
theorem callStep_lookups (known : Known structs Q) (hf : plan.Formed structs) {symbol : String}
    {args : List Expr} (hargs : ∀ x ∈ Expr.lookupsAll args, Q x)
    (places : ∀ l ∈ outPlaces plan ++ keptResult plan, Q (.plain l)) :
    ∀ x ∈ Stmt.lookupsAll (callStep symbol plan args), Q x := by
  have library : Q (.plain "_lib") := known.functions _ (by decide)
  have check : Q (.plain "_check_error") := known.functions _ (by decide)
  have call : ∀ x ∈ (Expr.call (.entry symbol) args).lookups, Q x := by
    simpa [or_imp, forall_and, library] using hargs
  unfold callStep
  cases hr : plan.returned with
  | some s =>
    have form : s.Form structs := by
      have only := CallPlan.returned_results hr
      exact (hf.results s (by simp [only])).1
    by_cases hp : isPlain s = true
    · simpa [hp] using call
    · have kept : Q (.plain "_res") := places _ (by simp [keptResult, hr, hp])
      have count : s.shape = .buffer → Q (.plain "_len") := fun hb => places _ (by simp [outPlaces, hr, hb])
      have raw : ∀ x ∈ (Expr.name "_res").lookups, Q x := by simpa using kept
      have value := resultValue_lookups known form raw fun hb =>
        (by simpa using count hb : ∀ x ∈ (Expr.member (.name "_len") "value").lookups, Q x)
      simpa [hp, or_imp, forall_and, library] using ⟨hargs, value⟩
  | none =>
    have error : plan.hasError = true → Q (.plain "_err") := fun he => places _ (by simp [outPlaces, he])
    have values : ∀ s ∈ plan.results, ∀ x ∈ (outValue s).lookups, Q x := by
      intro s hs
      have place : ∀ l ∈ s.places, Q (.plain l) := fun l hl => places l <| by
        refine List.mem_append_left _ (List.mem_append_left _ ?_)
        rw [hr]
        exact List.mem_flatMap.2 ⟨s, hs, hl⟩
      simp only [Slot.mem_places] at place
      have loc := place _ (.inl rfl)
      have value : ∀ raw : Expr, raw.lookups = [.plain (localOf s.name)] → ∀ x ∈ (resultValue s raw
          (.member (.name (lengthOf (localOf s.name))) "value")).lookups, Q x := fun raw same =>
        resultValue_lookups known (hf.results s hs).1 (by simpa [same] using loc)
          fun hb => by simpa using place _ (.inr ⟨hb, rfl⟩)
      unfold outValue
      cases hs : s.shape with
      | buffer => cases hb : s.isBytes <;> exact value _ (by simp)
      | _ => exact value _ (by simp)
    have returned : ∀ x ∈ Expr.lookupsAll (plan.results.map outValue), Q x := by
      intro x hx
      obtain ⟨e, he, hx⟩ := Expr.mem_lookupsAll.1 hx
      obtain ⟨s, hs, rfl⟩ := List.mem_map.1 he
      exact values s hs x hx
    by_cases hn : plan.results = []
    · by_cases he : plan.hasError = true <;>
        simpa [he, hn, or_imp, forall_and, library, check, error] using hargs
    · by_cases he : plan.hasError = true <;>
        simpa [he, hn, or_imp, forall_and, library, check, error] using ⟨hargs, returned⟩

/-- **What the body of a plan looks up**: its parameters, its locals, and what is known to every body. -/
theorem callBody_lookups (known : Known structs Q) (hf : plan.Formed structs) {symbol : String} {bound : Bool}
    (self : bound = true → Q (.plain "self")) (params : ∀ n ∈ names, Q (.plain n))
    (assigned : ∀ l ∈ Stmt.assignedAll (callBody symbol bound plan names), Q (.plain l)) :
    ∀ x ∈ Stmt.lookupsAll (callBody symbol bound plan names), Q x := by
  rw [callBody_assigned hf] at assigned
  have places : ∀ l ∈ outPlaces plan ++ keptResult plan, Q (.plain l) := fun l hl =>
    assigned l (by rw [List.append_assoc]; exact List.mem_append_right _ hl)
  have each : ∀ x ∈ plan.params.zip names, _ := fun x hx =>
    arguments_lookups known (hf.params x.1 (List.of_mem_zip hx).1) (params x.2 (List.of_mem_zip hx).2)
      fun l hl => assigned l (List.mem_append_left _ (List.mem_append_left _ (List.mem_flatMap.2 ⟨x, hx, hl⟩)))
  have inputs : (∀ x ∈ Stmt.lookupsAll ((List.zipWith arguments plan.params names).flatMap (·.1)), Q x) ∧
      ∀ x ∈ Expr.lookupsAll ((List.zipWith arguments plan.params names).flatMap (·.2)), Q x := by
    rw [← List.map_uncurry_zip_eq_zipWith]
    constructor
    · intro x hx
      obtain ⟨c, hc, hx⟩ := Stmt.mem_lookupsAll.1 hx
      obtain ⟨part, hp, hc⟩ := List.mem_flatMap.1 hc
      obtain ⟨y, hy, rfl⟩ := List.mem_map.1 hp
      exact (each y hy).1 x (Stmt.mem_lookupsAll.2 ⟨c, hc, hx⟩)
    · intro x hx
      obtain ⟨e, he, hx⟩ := Expr.mem_lookupsAll.1 hx
      obtain ⟨part, hp, he⟩ := List.mem_flatMap.1 he
      obtain ⟨y, hy, rfl⟩ := List.mem_map.1 hp
      exact (each y hy).2 x (Expr.mem_lookupsAll.2 ⟨e, he, hx⟩)
  obtain ⟨room, outs⟩ := resultArguments_lookups known fun l hl => places l (List.mem_append_left _ hl)
  have args : ∀ x ∈ Expr.lookupsAll (callArguments bound plan names), Q x := by
    simp only [callArguments, Expr.lookupsAll_append, List.forall_mem_append]
    refine ⟨⟨?_, inputs.2⟩, outs⟩
    cases bound
    · simp
    · simpa using self rfl
  simp only [callBody_prepares, preparation, Stmt.lookupsAll_append, List.forall_mem_append]
  exact ⟨⟨inputs.1, room⟩, callStep_lookups known hf args places⟩

end

end Py

end GoGlue
