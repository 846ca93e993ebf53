import GoGlue.Proofs.Code.Runs
import Mathlib.Data.Set.Basic
import Mathlib.Data.List.Sublists

/-!
# Where values come from

Along a run every variable holds something made of certain sources: at first it is its own source, and an
assignment makes it one of what is read. What reaches the caller is delivered: stored through a pointer, or
returned. `Delivers` is a triple for this: code that starts with one property of the sources delivers given
things, in order and at most once each, and ends with another property; and if no test fails on the way, all
of them.

* `deliveries_append`: what is delivered in sequence.
* `Delivers.append`, `Delivers.guarded`, `Delivers.loop`: the triples of the statements of the glue.
-/
namespace GoGlue.Go

/-! ## Sources -/

/-- The sources of each variable. -/
abbrev Flow := String → Set String

namespace Flow

/-- Every variable is its own source. -/
def start : Flow := fun x => {x}

/-- The sources of what an expression makes. -/
def of (σ : Flow) (e : Expr) : Set String := {v | ∃ x ∈ e.reads, v ∈ σ x}

def set (σ : Flow) (vars : List String) (vs : Set String) : Flow := fun x => if x ∈ vars then vs else σ x

/-- The sources after an act. What is stored in an element counts as part of the whole. -/
def act (σ : Flow) : Act → Flow
  | .step (.define vars e) => σ.set vars (σ.of e)
  | .step (.declare var _) => σ.set [var] ∅
  | .step (.assign (.name x) e) => σ.set [x] (σ.of e)
  | .step (.assign (.index (.name x) _) e) => σ.set [x] (σ x ∪ σ.of e)
  | .next index value items => (σ.set [index] ∅).set [value] (σ.of items)
  | _ => σ

def after (σ : Flow) (acts : List Act) : Flow := acts.foldl act σ

theorem of_reads {σ : Flow} {e : Expr} {x : String} (h : e.reads = [x]) : σ.of e = σ x := by
  simp [of, h]

theorem set_of_mem {σ : Flow} {vars : List String} {vs : Set String} {x : String} (h : x ∈ vars) :
    σ.set vars vs x = vs := if_pos h

theorem set_of_notMem {σ : Flow} {vars : List String} {vs : Set String} {x : String} (h : x ∉ vars) :
    σ.set vars vs x = σ x := if_neg h

end Flow

/-! ## Deliveries -/

/-- Where something is delivered. -/
inductive Place where
  | through (pointer : String)
  | returned
  deriving DecidableEq

/-- What an act delivers, if it does, and from which sources. -/
def Flow.delivery (σ : Flow) : Act → Option (Place × Set String)
  | .step (.assign (.deref (.name p)) e) => some (.through p, σ.of e)
  | .leave (some e) => some (.returned, σ.of e)
  | _ => none

def deliveries (σ : Flow) : List Act → List (Place × Set String)
  | [] => []
  | a :: rest => (σ.delivery a).toList ++ deliveries (σ.act a) rest

theorem deliveries_append (σ : Flow) (as bs : List Act) :
    deliveries σ (as ++ bs) = deliveries σ as ++ deliveries (σ.after as) bs := by
  induction as generalizing σ with
  | nil => rfl
  | cons a rest ih => simp [deliveries, ih, Flow.after]

theorem Flow.after_append (σ : Flow) (as bs : List Act) : σ.after (as ++ bs) = (σ.after as).after bs :=
  List.foldl_append

/-! ## Triples -/

/-- No condition turns out false on the way. -/
def Unhindered (acts : List Act) : Prop := ∀ cond, .test cond false ∉ acts

theorem unhindered_append {as bs : List Act} : Unhindered (as ++ bs) ↔ Unhindered as ∧ Unhindered bs := by
  simp [Unhindered, forall_and]

mutual
/-- There is a run in which every condition holds. -/
theorem Stmt.exists_unhindered (s : Stmt) {rest : List Stmt} {acts : List Act} {left : Bool}
    (h : Run rest acts left) (free : Unhindered acts) :
    ∃ acts' left', Run (s :: rest) acts' left' ∧ Unhindered acts' := by
  match s with
  | ret e => exact ⟨_, _, .leave, by simp [Unhindered]⟩
  | ifs cond body =>
    obtain ⟨inside, left', run, free⟩ := exists_unhinderedAll body h free
    exact ⟨_, left', .enter run, by simpa [Unhindered] using free⟩
  | range index value items body => exact ⟨_, left, .finish h, free⟩
  | expr e | define vars e | assign target e | declare var t =>
    exact ⟨_, left, .step rfl h, by simpa [Unhindered] using free⟩
theorem Stmt.exists_unhinderedAll (ss : List Stmt) {rest : List Stmt} {acts : List Act} {left : Bool}
    (h : Run rest acts left) (free : Unhindered acts) :
    ∃ acts' left', Run (ss ++ rest) acts' left' ∧ Unhindered acts' := by
  match ss with
  | [] => exact ⟨acts, left, h, free⟩
  | s :: more =>
    obtain ⟨acts', left', run, free⟩ := exists_unhinderedAll more h free
    exact s.exists_unhindered run free
end

theorem exists_unhindered (ss : List Stmt) : ∃ acts left, Run ss acts left ∧ Unhindered acts := by
  have nothing : Unhindered [] := by simp [Unhindered]
  simpa using Stmt.exists_unhinderedAll ss .done nothing

/-- The code does not return. If its variables start with the property `I`, they end with `J`, and what it
delivers is among `ds`, in their order and at most once each; unhindered, it is all of them. -/
def Delivers (I : Flow → Prop) (code : List Stmt) (ds : List (Place × Set String)) (J : Flow → Prop) :
    Prop :=
  ∀ rest acts left, Run (code ++ rest) acts left →
    ∃ part more, acts = part ++ more ∧ Run rest more left ∧
      ∀ σ, I σ → J (σ.after part) ∧ (deliveries σ part).Sublist ds ∧
        (Unhindered part → deliveries σ part = ds)

namespace Delivers

variable {I J K : Flow → Prop} {ss ts body : List Stmt} {ds es : List (Place × Set String)}

theorem nil : Delivers I [] [] I := by
  intro rest acts left h
  exact ⟨[], acts, rfl, h, fun σ hσ => ⟨hσ, .slnil, fun _ => rfl⟩⟩

theorem weaken (h : Delivers I ss ds J) (hJ : ∀ σ, J σ → K σ) : Delivers I ss ds K := by
  intro rest acts left run
  obtain ⟨part, more, rfl, later, ends⟩ := h rest acts left run
  exact ⟨part, more, rfl, later, fun σ hσ => ⟨hJ _ (ends σ hσ).1, (ends σ hσ).2⟩⟩

theorem append (h : Delivers I ss ds J) (h' : Delivers J ts es K) :
    Delivers I (ss ++ ts) (ds ++ es) K := by
  intro rest acts left run
  rw [List.append_assoc] at run
  obtain ⟨first, more, rfl, later, ends⟩ := h (ts ++ rest) acts left run
  obtain ⟨second, more, rfl, last, ends'⟩ := h' rest more left later
  refine ⟨first ++ second, more, by rw [List.append_assoc], last, fun σ hσ => ?_⟩
  obtain ⟨hJ, among, all⟩ := ends σ hσ
  obtain ⟨hK, among', all'⟩ := ends' _ hJ
  rw [Flow.after_append, deliveries_append, unhindered_append]
  exact ⟨hK, among.append among', fun free => by rw [all free.1, all' free.2]⟩

/-- One statement with no others inside. -/
theorem step {s : Stmt} (simple : s.isSimple = true)
    (h : ∀ σ, I σ → J (σ.act (.step s)) ∧ (σ.delivery (.step s)).toList = ds) : Delivers I [s] ds J := by
  intro rest acts left run
  obtain ⟨more, rfl, later⟩ := (run_step simple).1 run
  refine ⟨[.step s], more, rfl, later, fun σ hσ => ?_⟩
  obtain ⟨hJ, delivered⟩ := h σ hσ
  have all : deliveries σ [.step s] = ds := by simpa [deliveries] using delivered
  exact ⟨hJ, all ▸ List.Sublist.refl _, fun _ => all⟩

/-- What is done only if a condition holds. -/
theorem guarded {cond : Expr} (h : Delivers I body ds J) (hI : ∀ σ, I σ → J σ) :
    Delivers I [.ifs cond body] ds J := by
  intro rest acts left run
  rcases run_ifs.1 run with ⟨more, rfl, later⟩ | ⟨more, rfl, inside⟩
  · refine ⟨[.test cond false], more, rfl, later, fun σ hσ => ⟨hI σ hσ, List.nil_sublist _, fun free => ?_⟩⟩
    exact absurd List.mem_cons_self (free cond)
  · obtain ⟨part, more, rfl, later, ends⟩ := h _ more left inside
    refine ⟨.test cond true :: part, more, rfl, later, fun σ hσ => ?_⟩
    obtain ⟨hJ, among, all⟩ := ends σ hσ
    have free : Unhindered (.test cond true :: part) → Unhindered part := fun h cond' hm =>
      h cond' (List.mem_cons_of_mem _ hm)
    exact ⟨hJ, among, fun h => all (free h)⟩

/-- **A loop with one statement inside** keeps what a round keeps, if it delivers nothing. -/
theorem loop {index value : String} {items : Expr} {s : Stmt} (simple : s.isSimple = true)
    (h : ∀ σ, I σ → I ((σ.act (.next index value items)).act (.step s)) ∧
      (Flow.delivery (σ.act (.next index value items)) (.step s)) = none) :
    Delivers I [.range index value items [s]] [] I := by
  intro rest acts left run
  obtain ⟨rounds, more, rfl, later⟩ := run_range_step simple run
  refine ⟨_, more, rfl, later, ?_⟩
  clear run
  induction rounds with
  | zero => exact fun σ hσ => ⟨hσ, .slnil, fun _ => rfl⟩
  | succ n ih =>
    intro σ hσ
    obtain ⟨kept, none⟩ := h σ hσ
    obtain ⟨hI, among, all⟩ := ih _ kept
    have round : deliveries σ [.next index value items, .step s] = [] := by
      rw [deliveries, deliveries, none]
      rfl
    have silent : deliveries σ (List.replicate (n + 1) [.next index value items, .step s]).flatten = [] := by
      rw [List.replicate_succ, List.flatten_cons, deliveries_append, round]
      exact List.sublist_nil.1 among
    rw [silent]
    exact ⟨by rw [List.replicate_succ, List.flatten_cons, Flow.after_append]; exact hI, .slnil, fun _ => rfl⟩

/-- A whole run of the code. -/
theorem run (h : Delivers I ss ds J) {acts : List Act} {left : Bool} (hr : Run ss acts left) {σ : Flow}
    (hσ : I σ) : left = false ∧ J (σ.after acts) ∧ (deliveries σ acts).Sublist ds ∧
      (Unhindered acts → deliveries σ acts = ds) := by
  obtain ⟨part, more, rfl, later, ends⟩ := h [] acts left (by simpa using hr)
  obtain ⟨rfl, rfl⟩ := run_nil.1 later
  rw [List.append_nil]
  exact ⟨rfl, ends σ hσ⟩

/-- A whole run of code that returns a value at its end. -/
theorem run_returning (h : Delivers I ss ds J) {e : Expr} {vs : Set String} (he : ∀ σ, J σ → σ.of e = vs)
    {acts : List Act} {left : Bool} (hr : Run (ss ++ [Stmt.ret (some e)]) acts left) {σ : Flow} (hσ : I σ) :
    left = true ∧ (deliveries σ acts).Sublist (ds ++ [(Place.returned, vs)]) ∧
      (Unhindered acts → deliveries σ acts = ds ++ [(Place.returned, vs)]) := by
  obtain ⟨part, more, rfl, later, ends⟩ := h _ acts left hr
  obtain ⟨rfl, rfl⟩ := run_ret.1 later
  obtain ⟨hJ, among, all⟩ := ends σ hσ
  have last : deliveries (σ.after part) [.leave (some e)] = [(.returned, vs)] := by
    rw [← he _ hJ]
    rfl
  rw [deliveries_append, last, unhindered_append]
  exact ⟨rfl, among.append_right _, fun free => by rw [all free.1]⟩

end Delivers

end GoGlue.Go
