import GoGlue.Proofs.Abi.Places
import GoGlue.Proofs.Glue.ErrorFirst
import GoGlue.Proofs.Ownership.Results

/-!
# What a caller sees at each position

A result goes a long way: from a variable of the entry point through a pointer, into the place that the module
made for it, and from there into the values that are returned. `Reaches` follows it: a value at some position
is made of what was delivered to the places that it is read from. Pointers and places are called after the
results, so what arrives where depends on these names being distinct.

* `Py.outValue_origins`: what a returned value is made of.
* `Py.stored_reaches`, `Py.direct_reaches`: position `k` is made of result `k` alone, if neither side calls two
  things alike.
* `results_delivered`: how the results of a signature are assigned, handed over and returned.
* `results_mixed`: a function for which a value is made of another result, too.
-/
namespace GoGlue

/-! ## Channels of results -/

theorem Go.due_channels (s : Slot) (k : Nat) :
    due s k = s.channels.map fun c => (.through c.2, {resultName k}) := by
  by_cases hb : s.shape = .buffer <;> simp [due, Slot.channels, hb]

/-- Each thing belongs to one of some things that have nothing in common. -/
theorem index_unique {α β : Type} {f : α → List β} {xs : List α}
    (h : xs.Pairwise fun x y => (f x).Disjoint (f y)) {i j : Nat} {x y : α} (hi : xs[i]? = some x)
    (hj : xs[j]? = some y) {b : β} (hx : b ∈ f x) (hy : b ∈ f y) : i = j := by
  obtain ⟨inside, rfl⟩ := List.getElem?_eq_some_iff.1 hi
  obtain ⟨inside', rfl⟩ := List.getElem?_eq_some_iff.1 hj
  rw [List.pairwise_iff_getElem] at h
  rcases Nat.lt_trichotomy i j with hlt | heq | hgt
  · exact absurd hy (h i j inside inside' hlt hx)
  · exact heq
  · exact absurd hx (h j i inside' inside hgt hy)

namespace Py

/-! ## Where values come from -/

/-- What a value is made of. -/
inductive Origin where
  /-- A variable is read. -/
  | read (name : String)
  /-- What the entry point returned. -/
  | returned
  deriving DecidableEq

def Expr.isName : Expr → Bool
  | name _ => true
  | _ => false

def Expr.isEntry : Expr → Bool
  | entry _ => true
  | _ => false

mutual
/-- The origins of a value. -/
def Expr.origins : Expr → List Origin
  | name n => [.read n]
  | call f args =>
    if f.isEntry then [.returned] else (if f.isName then [] else f.origins) ++ originsAll args
  | byref e | member e _ | keyword _ e | isNone e | negation e => e.origins
  | either a b => a.origins ++ b.origins
  | conditional value cond alternative => value.origins ++ cond.origins ++ alternative.origins
  | comprehension value _ items => value.origins ++ items.origins
  | none | number _ | text _ | emptyBytes | emptyList | ctypes _ | entry _ | cls _ => []
def Expr.originsAll : List Expr → List Origin
  | [] => []
  | e :: rest => e.origins ++ originsAll rest
end

/-- The origin holds something made of the source `v`, after the body has made its call and the entry point
with these parameters has delivered `ds`. -/
inductive Holds (body : List Stmt) (params : List Go.CParam) (ds : List (Go.Place × Set String)) :
    Origin → String → Prop
  | returned {vs v} (h : (.returned, vs) ∈ ds) (hv : v ∈ vs) : Holds body params ds .returned v
  /-- What was returned is kept in a local. -/
  | kept {x symbol args v} (h : .assign [.name x] (.call (.entry symbol) args) ∈ body)
    (hv : Holds body params ds .returned v) : Holds body params ds (.read x) v
  /-- The place was passed for the pointer that something is stored through. -/
  | filled {symbol args x param vs v} (call : (symbol, args) ∈ Stmt.entryCalls body)
    (passed : (.byref (.name x), param) ∈ args.zip params) (h : (.through param.name, vs) ∈ ds)
    (hv : v ∈ vs) : Holds body params ds (.read x) v

/-- The value that the body returns at position `k` is made of the source `v`, among others. -/
def Reaches (body : List Stmt) (params : List Go.CParam) (ds : List (Go.Place × Set String)) (k : Nat)
    (v : String) : Prop :=
  ∃ values value o, body.getLast? = some (.ret values) ∧ values[k]? = some value ∧ o ∈ value.origins ∧
    Holds body params ds o v

/-! ## Origins of the returned values -/

/-- A converted result is made of the raw value, and that of a buffer of its count. -/
theorem resultValue_origins (s : Slot) (raw count : Expr) :
    (∀ o ∈ raw.origins, o ∈ (resultValue s raw count).origins) ∧
      (s.shape = .buffer → ∀ o ∈ count.origins, o ∈ (resultValue s raw count).origins) ∧
      ∀ o ∈ (resultValue s raw count).origins, o ∈ raw.origins ∨
        (s.shape = .buffer ∧ o ∈ count.origins) ∨ o = .read "_decode_string" := by
  have conv : ∀ f : FromRaw, ∀ o ∈ Expr.originsAll f.function.toList, o = .read "_decode_string" := by
    intro f
    cases f <;> simp [FromRaw.function, Expr.originsAll, Expr.origins]
  have plain : (∀ o ∈ raw.origins, o ∈ ((fromRaw s.transfer).apply raw).origins) ∧
      ∀ o ∈ ((fromRaw s.transfer).apply raw).origins, o ∈ raw.origins := by
    cases fromRaw s.transfer <;>
      simp [FromRaw.apply, FromRaw.function, Expr.origins, Expr.originsAll, Expr.isEntry, Expr.isName]
  have taken : ∀ (n : Expr) (fs : List Expr), (Expr.calls "_take_buffer" ([raw, n] ++ fs)).origins
      = raw.origins ++ (n.origins ++ Expr.originsAll fs) := by
    simp [Expr.calls, Expr.origins, Expr.originsAll, Expr.isEntry, Expr.isName]
  have elements : ∀ fs : List Expr, (s.elem = none → fs = []) →
      (∀ p, s.elem = some p → fs = (fromRaw p.2).function.toList) →
        ∀ o ∈ Expr.originsAll fs, o = .read "_decode_string" := by
    intro fs none some
    cases he : s.elem with
    | none => simp [none he, Expr.originsAll]
    | some p => exact some p he ▸ conv (fromRaw p.2)
  unfold resultValue
  cases hs : s.shape with
  | scalar | pointer => exact ⟨plain.1, by simp, fun o ho => .inl (plain.2 o ho)⟩
  | fixed n =>
    simp only [taken, Expr.origins, List.nil_append, List.mem_append]
    refine ⟨fun o ho => .inl ho, by simp, fun o ho => ?_⟩
    exact ho.imp id fun h => .inr (elements _ (by simp +contextual) (by simp +contextual) o h)
  | buffer =>
    cases hb : s.isBytes with
    | true =>
      have bytes : (Expr.calls "_take_bytes" [raw, count]).origins = raw.origins ++ count.origins := by
        simp [Expr.calls, Expr.origins, Expr.originsAll, Expr.isEntry, Expr.isName]
      simp only [if_true, bytes, List.mem_append]
      refine ⟨fun o ho => .inl ho, fun _ o ho => .inr ho, fun o ho => ?_⟩
      exact ho.imp id fun h => .inl ⟨trivial, h⟩
    | false =>
      simp only [Bool.false_eq_true, if_false, taken, List.mem_append]
      refine ⟨fun o ho => .inl ho, fun _ o ho => .inr (.inl ho), fun o ho => ?_⟩
      rcases ho with ho | ho | ho
      · exact .inl ho
      · exact .inr (.inl ⟨trivial, ho⟩)
      · exact .inr (.inr (elements _ (by simp +contextual) (by simp +contextual) o ho))

/-- A stored result is made of what is in its places. -/
theorem outValue_origins (s : Slot) :
    (∀ x ∈ s.places, .read x ∈ (outValue s).origins) ∧
      ∀ o ∈ (outValue s).origins, (∃ x ∈ s.places, o = .read x) ∨ o = .read "_decode_string" := by
  have raws : ∀ raw : Expr, raw.origins = [.read (localOf s.name)] →
      (∀ x ∈ s.places, .read x ∈
        (resultValue s raw (.member (.name (lengthOf (localOf s.name))) "value")).origins) ∧
      ∀ o ∈ (resultValue s raw (.member (.name (lengthOf (localOf s.name))) "value")).origins,
        (∃ x ∈ s.places, o = .read x) ∨ o = .read "_decode_string" := by
    intro raw hraw
    obtain ⟨ofRaw, ofCount, all⟩ :=
      resultValue_origins s raw (.member (.name (lengthOf (localOf s.name))) "value")
    rw [hraw] at ofRaw all
    constructor
    · intro x hx
      rcases Slot.mem_places.1 hx with rfl | ⟨hb, rfl⟩
      · exact ofRaw _ (List.mem_singleton_self _)
      · exact ofCount hb _ (by simp [Expr.origins])
    · intro o ho
      rcases all o ho with h | ⟨hb, h⟩ | h
      · exact .inl ⟨_, Slot.mem_places.2 (.inl rfl), List.mem_singleton.1 h⟩
      · exact .inl ⟨_, Slot.mem_places.2 (.inr ⟨hb, rfl⟩), by simpa [Expr.origins] using h⟩
      · exact .inr h
  unfold outValue
  cases hs : s.shape with
  | scalar | pointer | fixed n => exact raws _ (by simp [Expr.origins])
  | buffer => cases hb : s.isBytes <;> exact raws _ (by simp [Expr.origins])

/-- Only what is returned directly is kept in a local, and that is `_res`. -/
theorem callBody_keeps {symbol symbol' : String} {bound : Bool} {plan : CallPlan} {names : List String}
    {x : String} {args : List Expr}
    (h : .assign [.name x] (.call (.entry symbol') args) ∈ callBody symbol bound plan names) :
    plan.returned ≠ none ∧ x = "_res" := by
  have calls : (symbol', args) ∈ Stmt.entryCalls [.assign [.name x] (.call (.entry symbol') args)] := by
    simp [Stmt.made, Expr.made, Expr.madeAll]
  have quiet : ∀ {code : List Stmt}, Stmt.entryCalls code = [] →
      .assign [.name x] (.call (.entry symbol') args) ∉ code := by
    intro code none hm
    obtain ⟨before, after, rfl⟩ := List.append_of_mem hm
    rw [Stmt.entryCalls_append, Stmt.entryCalls_cons, List.append_eq_nil_iff, List.append_eq_nil_iff] at none
    simp [none.2.1] at calls
  unfold callBody at h
  rcases List.mem_append.1 h with before | step
  · rcases List.mem_append.1 before with prepared | room
    · exact absurd prepared (quiet (inputs_noEntry plan.params names).1)
    · exact absurd room (quiet (resultArguments_noEntry plan).1)
  · unfold callStep at step
    cases hr : plan.returned with
    | some s =>
      rw [hr] at step
      cases hp : isPlain s <;> simp [hp] at step
      exact ⟨by simp, step.1⟩
    | none =>
      rw [hr] at step
      cases he : plan.hasError <;> by_cases hn : plan.results = [] <;> simp [he, hn] at step

/-! ## Positions of the returned values -/

section

variable {structs : StructNames} {own symbol : String} {plan renamed : CallPlan} {bound : Bool}
  {names : List String} {ds : List (Go.Place × Set String)} {x p v : String} {vs : Set String}

theorem Holds.of_channel (hf : plan.Formed structs) (hr : Go.unshadowed own plan = some renamed)
    (hlen : names.length = plan.params.length) (hc : (x, p) ∈ plan.channels)
    (h : (.through p, vs) ∈ ds) (hv : v ∈ vs) :
    Holds (callBody symbol bound plan names) (Go.entryParams bound renamed) ds (.read x) v := by
  obtain ⟨param, passed, rfl⟩ := (zip_outs hf hr bound hlen).2 hc
  have call : (symbol, callArguments bound plan names)
      ∈ Stmt.entryCalls (callBody symbol bound plan names) := by simp [callBody_entryCalls]
  exact .filled call passed h hv

/-- What a local holds came through the pointer that it was passed for, or was returned. -/
theorem Holds.read_cases (hf : plan.Formed structs) (hr : Go.unshadowed own plan = some renamed)
    (hlen : names.length = plan.params.length)
    (h : Holds (callBody symbol bound plan names) (Go.entryParams bound renamed) ds (.read x) v) :
    (∃ p vs, (x, p) ∈ plan.channels ∧ (.through p, vs) ∈ ds ∧ v ∈ vs) ∨
      (x = "_res" ∧ plan.returned ≠ none ∧ ∃ vs, (.returned, vs) ∈ ds ∧ v ∈ vs) := by
  cases h with
  | kept assigned held =>
    obtain ⟨returned, rfl⟩ := callBody_keeps assigned
    cases held with
    | returned h hv => exact .inr ⟨rfl, returned, _, h, hv⟩
  | @filled symbol' args x param vs v call passed h hv =>
    rw [callBody_entryCalls, List.mem_singleton] at call
    obtain ⟨rfl, rfl⟩ := Prod.mk.inj call
    exact .inl ⟨_, vs, (zip_outs hf hr bound hlen).1 ⟨param, passed, rfl⟩, h, hv⟩

theorem mem_allDue (stored : plan.returned = none) {place : Go.Place} :
    (place, vs) ∈ Go.allDue plan ↔
      ∃ k s, plan.results[k]? = some s ∧ ∃ c ∈ s.channels, place = .through c.2 ∧ vs = {Go.resultName k} := by
  have found : ∀ k s, (s, k) ∈ plan.results.zipIdx ↔ plan.results[k]? = some s := fun k s => by
    simp [List.mem_zipIdx_iff_getElem?]
  simp only [Go.allDue, stored, List.mapIdx_eq_zipIdx_map, List.mem_flatten, List.mem_map, Prod.exists,
    found, Go.due_channels]
  constructor
  · rintro ⟨_, ⟨s, k, hs, rfl⟩, hm⟩
    obtain ⟨a, b, hc, e⟩ := by simpa using hm
    exact ⟨k, s, hs, a, b, hc, e.1.symm, e.2.symm⟩
  · rintro ⟨k, s, hs, a, b, hc, rfl, rfl⟩
    exact ⟨_, ⟨s, k, hs, rfl⟩, List.mem_map.2 ⟨(a, b), hc, rfl⟩⟩

/-- What the returned values are. -/
theorem callBody_values (h : plan.results ≠ []) {values : List Expr}
    (hv : (callBody symbol bound plan names).getLast? = some (.ret values)) :
    values = plan.results.map (resultExpr (.call (.entry symbol) (callArguments bound plan names)) plan) := by
  rw [callBody_ret symbol bound plan names h] at hv
  simpa using hv.symm

/-- What the place of a stored result holds comes from the variable of that result, if no two results have a
pointer in common. -/
theorem Holds.of_stored (hf : plan.Formed structs) (hr : Go.unshadowed own plan = some renamed)
    (hlen : names.length = plan.params.length) (stored : plan.returned = none)
    (pointers : plan.results.Pairwise Go.NamedApart)
    (h : Holds (callBody symbol bound plan names) (Go.entryParams bound renamed) (Go.allDue plan)
      (.read x) v) :
    (∃ k s, plan.results[k]? = some s ∧ x ∈ s.places ∧ v = Go.resultName k) ∨ x = "_err" := by
  have apart : plan.results.Pairwise fun s t => (Go.slotNames s).Disjoint (Go.slotNames t) :=
    pointers.imp fun h => (Go.namedApart_iff _ _).1 h
  have pointed : ∀ {s : Slot} {c : String × String}, c ∈ s.channels → c.2 ∈ Go.slotNames s :=
    fun hc => Slot.channels_pointers _ ▸ List.mem_map_of_mem hc
  rcases h.read_cases hf hr hlen with ⟨p, vs, channel, delivered, hv⟩ | ⟨-, returned, -⟩
  · obtain ⟨i, t, ht, c, hc, e, rfl⟩ := (mem_allDue stored).1 delivered
    obtain rfl : p = c.2 := Go.Place.through.inj e
    simp only [CallPlan.channels, stored, List.mem_append, List.mem_flatMap] at channel
    rcases channel with ⟨s, hs, place⟩ | error
    · obtain ⟨k, hk⟩ := List.getElem?_of_mem hs
      obtain rfl := index_unique apart ht hk (pointed hc) (pointed (c := (x, c.2)) place)
      exact .inl ⟨i, s, hk, List.mem_map_of_mem (f := (·.1)) place, hv⟩
    · split at error
      · exact .inr (Prod.mk.inj (List.mem_singleton.1 error)).1
      · cases error
  · exact absurd stored returned

/-- **Results that are stored**: the value at a position is made of the result with its number alone. -/
theorem stored_reaches (hf : plan.Formed structs) (hr : Go.unshadowed own plan = some renamed)
    (hlen : names.length = plan.params.length) (stored : plan.returned = none)
    (outputs : ∀ s ∈ plan.results, beginsWith "out" s.name = true)
    (pointers : plan.results.Pairwise Go.NamedApart) (places : (plan.results.flatMap Slot.places).Nodup)
    {k : Nat} (hk : k < plan.results.length) :
    Reaches (callBody symbol bound plan names) (Go.entryParams bound renamed) (Go.allDue plan) k v ↔
      v = Go.resultName k := by
  have nonempty : plan.results ≠ [] := List.ne_nil_of_length_pos (Nat.zero_lt_of_lt hk)
  have begins : ∀ {i : Nat} {s : Slot} {x : String}, plan.results[i]? = some s → x ∈ s.places →
      beginsWith "_out" x = true :=
    fun hs hx => places_beginning (outputs _ (List.mem_of_getElem? hs)) _ hx
  constructor
  · rintro ⟨values, value, o, last, position, made, held⟩
    rw [callBody_values nonempty last, List.getElem?_map, Option.map_eq_some_iff] at position
    obtain ⟨s, hs, rfl⟩ := position
    rw [← outValue_eq stored] at made
    rcases (outValue_origins s).2 o made with ⟨x, hx, rfl⟩ | rfl
    · rcases held.of_stored hf hr hlen stored pointers with ⟨i, t, ht, hx', rfl⟩ | rfl
      · rw [index_unique (List.nodup_flatMap.1 places).2 ht hs hx' hx]
      · exact absurd (begins hs hx) (by decide)
    · -- the function that converts is no place for a result
      rcases held.of_stored hf hr hlen stored pointers with ⟨i, t, ht, hx, -⟩ | e
      · exact absurd (begins ht hx) (by decide)
      · exact absurd e (by decide)
  · rintro rfl
    have hs := List.getElem?_eq_getElem hk
    have member := List.mem_of_getElem? hs
    have channel : (localOf plan.results[k].name, plan.results[k].name) ∈ plan.results[k].channels := by
      simp [Slot.channels]
    refine ⟨_, outValue plan.results[k], .read (localOf plan.results[k].name),
      callBody_ret symbol bound plan names nonempty, ?_, ?_, ?_⟩
    · rw [List.getElem?_map, hs, Option.map_some, ← outValue_eq stored]
    · exact (outValue_origins _).1 _ (List.mem_map_of_mem (f := (·.1)) channel)
    · refine .of_channel hf hr hlen (p := plan.results[k].name) ?_
        ((mem_allDue stored).2 ⟨k, _, hs, _, channel, rfl, rfl⟩) rfl
      simp only [CallPlan.channels, stored]
      exact List.mem_append_left _ (List.mem_flatMap.2 ⟨_, member, channel⟩)

/-- All that a directly returned result delivers comes from the only variable. -/
theorem allDue_direct {s : Slot} (direct : plan.returned = some s) :
    (∀ d ∈ Go.allDue plan, d.2 = {Go.resultName 0}) ∧ (.returned, {Go.resultName 0}) ∈ Go.allDue plan := by
  by_cases hb : s.shape = .buffer <;> simp [Go.allDue, direct, hb]

/-- **A result that is returned directly** is the only one that its value is made of. -/
theorem direct_reaches (hf : plan.Formed structs) (hr : Go.unshadowed own plan = some renamed)
    (hlen : names.length = plan.params.length) {s : Slot} (direct : plan.returned = some s) {k : Nat}
    (hk : k < plan.results.length) :
    Reaches (callBody symbol bound plan names) (Go.entryParams bound renamed) (Go.allDue plan) k v ↔
      v = Go.resultName k := by
  have only := CallPlan.returned_results direct
  obtain rfl : k = 0 := by
    rw [only] at hk
    exact Nat.lt_one_iff.1 hk
  have nonempty : plan.results ≠ [] := by simp [only]
  obtain ⟨all, returned⟩ := allDue_direct direct
  have raw : rawResult (.call (.entry symbol) (callArguments bound plan names)) plan s
      = if isPlain s then .call (.entry symbol) (callArguments bound plan names) else .name "_res" := by
    simp [rawResult, direct]
  constructor
  · rintro ⟨values, value, o, -, -, -, held⟩
    have source : ∃ d ∈ Go.allDue plan, v ∈ d.2 := by
      cases o with
      | returned =>
        cases held with
        | returned h hv => exact ⟨_, h, hv⟩
      | read x =>
        rcases held.read_cases hf hr hlen with ⟨p, vs, -, h, hv⟩ | ⟨-, -, vs, h, hv⟩
        · exact ⟨_, h, hv⟩
        · exact ⟨_, h, hv⟩
    obtain ⟨d, hd, hv⟩ := source
    rw [all d hd] at hv
    exact hv
  · rintro rfl
    obtain ⟨ofRaw, -, -⟩ := resultValue_origins s
      (rawResult (.call (.entry symbol) (callArguments bound plan names)) plan s) (rawCount plan s)
    have held : Holds (callBody symbol bound plan names) (Go.entryParams bound renamed) (Go.allDue plan)
        .returned (Go.resultName 0) := .returned returned rfl
    have position : (plan.results.map (resultExpr (.call (.entry symbol)
        (callArguments bound plan names)) plan))[0]? = some (resultExpr (.call (.entry symbol)
          (callArguments bound plan names)) plan s) := by simp [only]
    have last := callBody_ret symbol bound plan names nonempty
    cases hp : isPlain s with
    | true =>
      have origin := ofRaw .returned (by simp [raw, hp, Expr.origins, Expr.isEntry])
      exact ⟨_, _, _, last, position, origin, held⟩
    | false =>
      have origin := ofRaw (.read "_res") (by simp [raw, hp, Expr.origins])
      have kept : .assign [.name "_res"] (.call (.entry symbol) (callArguments bound plan names))
          ∈ callBody symbol bound plan names := by simp [callBody, callStep, direct, hp, callArguments]
      exact ⟨_, _, _, last, position, origin, .kept kept held⟩

end

end Py

/-! ## The results of a signature -/

open Go

/-- How the results of a signature are assigned, handed over and returned. -/
structure Delivered (structs : StructNames) (sig : Signature) (plan : CallPlan) : Prop where
  /-- There is a variable for each declared result. -/
  arity : (resultNames plan).length = sig.results.length
  distinct : (resultNames plan).Nodup
  error : ∀ (i : Nat) (p : Param), sig.results[i]? = some p →
    ((resultNames plan)[i]? = some "_err" ↔ p.type.kind = .error)
  /-- Any other result is assigned to the variable with the number of its slot. -/
  value : ∀ (i : Nat) (p : Param), sig.results[i]? = some p → p.type.kind ≠ .error → ∃ k s,
    k = (CallPlan.values (sig.results.take i)).length ∧ (resultNames plan)[i]? = some (resultName k) ∧
      plan.results[k]? = some s ∧ CallPlan.OfResult structs (p, k) s
  /-- The body assigns what the callee returns to these variables, and hands over the results after. -/
  assigned : sig.results ≠ [] → ∀ own symbol receiver invoke f e, Calls receiver invoke f →
    entryOf own symbol receiver invoke plan = some e → ∃ before renamed args,
      unshadowed own plan = some renamed ∧ e.body = before ++ .define (resultNames plan) (.call f args) ::
        (writeBackStep renamed ++ errorStep renamed ++ resultStep plan)
  /-- Each slot is handed over from its variable, in order and at most once; unhindered, each is. -/
  handed : ∀ acts left, Run (resultStep plan) acts left →
    (deliveries .start acts).Sublist (allDue plan) ∧
      (Unhindered acts → deliveries .start acts = allDue plan)
  /-- The module returns the converted slots in their order. -/
  returned : plan.results ≠ [] → ∀ symbol bound names,
    (Py.callBody symbol bound plan names).getLast? = some (.ret (plan.results.map
      (Py.resultExpr (.call (.entry symbol) (Py.callArguments bound plan names)) plan)))

theorem ofSignature_delivered {structs : StructNames} {sig : Signature} {plan : CallPlan}
    (h : CallPlan.ofSignature structs sig = .ok plan) : Delivered structs sig plan := by
  have noError : NoResult "_err" := noResult_of_last (by decide)
  refine ⟨by rw [resultNames_eq h, assigned_length], resultNames_nodup plan, ?_, ?_, ?_, ?_, ?_⟩
  · intro i p hp
    obtain ⟨error, value⟩ := result_assigned h hp
    refine ⟨fun assigned => ?_, error⟩
    by_contra other
    obtain ⟨s, named, -, -⟩ := value other
    exact noError _ (Option.some.inj (named.symm.trans assigned))
  · intro i p hp other
    obtain ⟨s, named, placed, made⟩ := (result_assigned h hp).2 other
    exact ⟨_, s, rfl, named, placed, made⟩
  · intro declared own symbol receiver invoke f e calls made
    obtain ⟨renamed, hr, rfl⟩ := entryOf_eq_some_iff.1 made
    obtain ⟨copy, -, step⟩ := calls.callStep own plan renamed
    obtain ⟨vars, results, -⟩ := unshadowed_results hr
    have assigns : assignResults renamed (.call f (arguments own renamed))
        = .define (resultNames plan) (.call f (arguments own renamed)) :=
      vars ▸ assignResults_eq (vars ▸ resultNames_ne_nil h declared) _
    refine ⟨clearStep renamed ++ receiveStep renamed receiver ++ convertStep own renamed ++ copy, renamed,
      arguments own renamed, hr, ?_⟩
    simp [body, step, assigns, results]
  · exact fun acts left run => resultStep_delivers
      (fun s hs => CallPlan.ofSignature_definite h s (List.mem_append_right _ hs)) run
  · exact fun some symbol bound names => Py.callBody_ret symbol bound plan names some

/-- **Every result reaches its own position.** The declared results are assigned, handed over and returned in
their order, and what the module returns at position `k` is made of the result with that number alone,
provided that the prototype declares no identifier twice and the module calls no two places alike. -/
theorem results_delivered {structs : StructNames} {sig : Signature} {plan : CallPlan}
    (h : CallPlan.ofSignature structs sig = .ok plan) :
    Delivered structs sig plan ∧
      ∀ own symbol receiver invoke e names, entryOf own symbol receiver invoke plan = some e →
        names.length = plan.params.length → (e.params.map (·.name)).Nodup →
        (plan.results.flatMap Slot.places).Nodup →
        ∀ acts left, Run (resultStep plan) acts left → Unhindered acts →
          ∀ k < plan.results.length, ∀ v, Py.Reaches (Py.callBody symbol receiver.isSome plan names)
            e.params (deliveries .start acts) k v ↔ v = resultName k := by
  have delivered := ofSignature_delivered h
  refine ⟨delivered, ?_⟩
  intro own symbol receiver invoke e names made hlen identifiers places acts left run free k hk v
  obtain ⟨renamed, hr, rfl⟩ := entryOf_eq_some_iff.1 made
  have settled := ofSignature_settled h hr
  have clear := (settled.nodup_iff receiver.isSome).1 identifiers
  have same : renamed.results = plan.results := by rw [(unshadowed_renamed hr).2]
  have formed := CallPlan.ofSignature_form h
  rw [(delivered.handed acts left run).2 free]
  cases direct : plan.returned with
  | some s => exact Py.direct_reaches formed hr hlen direct hk
  | none =>
    exact Py.stored_reaches formed hr hlen direct (same ▸ settled.outputs) (same ▸ clear.results) places hk

/-- The third result of `Find`, an array, is the second value that the module returns. -/
theorem results_delivered_find :
    ∃ plan e, CallPlan.ofSignature ["Point"] CallPlan.find = .ok plan ∧
      entryOf "geo" "geo_Find" none (.func (.qualified (.own "geo") "Find")) plan = some e ∧
      resultNames plan = ["_r0", "_err", "_r1"] ∧ Delivered ["Point"] CallPlan.find plan ∧
      ∃ acts left, Run (resultStep plan) acts left ∧ Unhindered acts ∧
        ∀ v, Py.Reaches (Py.callBody "geo_Find" false plan ["key", "hits", "at"]) e.params
          (deliveries .start acts) 1 v ↔ v = resultName 1 := by
  have seen : ((CallPlan.ofSignature ["Point"] CallPlan.find).toOption.bind fun plan =>
      (entryOf "geo" "geo_Find" none (.func (.qualified (.own "geo") "Find")) plan).map fun e =>
        (resultNames plan, e.params.map (·.name), plan.results.flatMap Slot.places, plan.params.length,
          plan.results.length))
      = some (["_r0", "_err", "_r1"], ["key", "hits", "at", "outNames", "outNamesLen", "outSize", "outError"],
        ["_outNames", "_outNames_len", "_outSize"], 3, 2) := by decide +kernel
  cases h : CallPlan.ofSignature ["Point"] CallPlan.find with
  | error cause => simp [h, Except.toOption] at seen
  | ok plan =>
    simp only [h, Except.toOption, Option.bind_some, Option.map_eq_some_iff, Prod.mk.injEq] at seen
    obtain ⟨e, he, vars, identifiers, places, params, results⟩ := seen
    obtain ⟨acts, left, run, free⟩ := exists_unhindered (resultStep plan)
    have main := results_delivered h
    refine ⟨plan, e, rfl, he, vars, main.1, acts, left, run, free, ?_⟩
    exact main.2 "geo" "geo_Find" none _ e ["key", "hits", "at"] he (by rw [params]; rfl)
      (identifiers ▸ by decide) (places ▸ by decide) acts left run free 1 (by rw [results]; decide)

/-- `func Split() (x []int, x_len int32)` -/
def split : Signature :=
  ⟨[], [⟨"x", .slice (.primitive "int")⟩, ⟨"x_len", .primitive "int32"⟩], false⟩

/-- **A value may be made of another result, too**: the count of the first result of `Split` and its second
result have the same place, so the list at position zero is cut by what was returned beside it. -/
theorem results_mixed :
    ∃ plan e, CallPlan.ofSignature [] split = .ok plan ∧
      entryOf "geo" "geo_Split" none (.func (.qualified (.own "geo") "Split")) plan = some e ∧
      e.params.map (·.name) = ["outX", "outXLen", "outX_len"] ∧ Py.parameterNames [] plan = some [] ∧
      ∃ acts left, Run (resultStep plan) acts left ∧ Unhindered acts ∧
        Py.Reaches (Py.callBody "geo_Split" false plan []) e.params (deliveries .start acts) 0
          (resultName 1) := by
  have planned : (CallPlan.ofSignature [] split).toOption.map (fun plan =>
      (plan.params.length, plan.returned.isSome, plan.results.map Slot.channels))
      = some (0, false, [[("_outX", "outX"), ("_outX_len", "outXLen")], [("_outX_len", "outX_len")]]) := by
    decide +kernel
  have emitted : ((CallPlan.ofSignature [] split).toOption.bind fun plan =>
      (entryOf "geo" "geo_Split" none (.func (.qualified (.own "geo") "Split")) plan).map fun e =>
        (e.params.map (·.name), Py.parameterNames [] plan))
      = some (["outX", "outXLen", "outX_len"], some []) := by decide +kernel
  cases h : CallPlan.ofSignature [] split with
  | error cause => simp [h, Except.toOption] at planned
  | ok plan =>
    simp only [h, Except.toOption, Option.map_some, Option.some.injEq, Prod.mk.injEq] at planned
    obtain ⟨params, direct, channels⟩ := planned
    simp only [h, Except.toOption, Option.bind_some, Option.map_eq_some_iff, Prod.mk.injEq] at emitted
    obtain ⟨e, he, identifiers, names⟩ := emitted
    obtain ⟨acts, left, run, free⟩ := exists_unhindered (resultStep plan)
    have stored : plan.returned = none := by simpa using direct
    obtain ⟨s, t, results, ofX, ofLen⟩ : ∃ s t, plan.results = [s, t] ∧
        s.channels = [("_outX", "outX"), ("_outX_len", "outXLen")] ∧
          t.channels = [("_outX_len", "outX_len")] := by
      simpa [List.map_eq_cons_iff] using channels
    have due := ((ofSignature_delivered h).handed acts left run).2 free
    obtain ⟨renamed, hr, made⟩ : ∃ renamed, unshadowed "geo" plan = some renamed ∧
        entryParams false renamed = e.params := by
      obtain ⟨renamed, hr, rfl⟩ := entryOf_eq_some_iff.1 he
      exact ⟨renamed, hr, rfl⟩
    have nonempty : plan.results ≠ [] := by simp [results]
    have place : "_outX_len" ∈ s.places := by simp [Slot.places, ofX]
    have channel : ("_outX_len", "outX_len") ∈ plan.channels := by
      simp [CallPlan.channels, stored, results, ofX, ofLen]
    have delivered : (Place.through "outX_len", {resultName 1}) ∈ deliveries .start acts := by
      rw [due]
      exact (Py.mem_allDue stored).2 ⟨1, t, by simp [results], ("_outX_len", "outX_len"),
        by simp [ofLen], rfl, rfl⟩
    refine ⟨plan, e, rfl, he, identifiers, names, acts, left, run, free, _, Py.outValue s,
      .read "_outX_len", Py.callBody_ret _ _ plan _ nonempty, ?_, (Py.outValue_origins s).1 _ place, ?_⟩
    · simp [results, ← Py.outValue_eq stored]
    · rw [← made]
      exact .of_channel (CallPlan.ofSignature_form h) hr (by rw [params]; rfl) channel delivered rfl

end GoGlue
