import GoGlue.Proofs.Related
import GoGlue.Proofs.Writer.Emission

/-!
# Parts of an emission

What an emitter does is known from its parts: of a sequence, the steps are those of its parts, and so is what is
written in them and what is asked for.

* `steps_block`: a block is written like a suite.
* `Emit.Makes`: a part of an emission makes some code, or there is neither.
* `Emit.Makes.bind`, `Emit.makes_zip`, `Emit.makes_forEach`: parts that make code one by one make it as a whole.
-/
namespace GoGlue

namespace Writer

/-! ## Written and asked -/

@[simp] theorem written_cons (s : Step) (rest : List Step) :
    written (s :: rest) = if s.isWritten then s :: written rest else written rest := List.filter_cons ..

/-- What is asked for. -/
def asked (steps : List Step) : List Import :=
  steps.filterMap fun
    | .need i => some i
    | _ => none

theorem mem_asked {steps : List Step} {i : Import} : i ∈ asked steps ↔ .need i ∈ steps := by
  simp only [asked, List.mem_filterMap]
  constructor
  · rintro ⟨s, hs, h⟩
    split at h
    · cases h
      exact hs
    · cases h
  · exact fun h => ⟨_, h, rfl⟩

@[simp] theorem asked_nil : asked [] = [] := rfl

@[simp] theorem asked_append (a b : List Step) : asked (a ++ b) = asked a ++ asked b := List.filterMap_append ..

theorem asked_flatMap {α : Type} (xs : List α) (f : α → List Step) :
    asked (xs.flatMap f) = xs.flatMap fun x => asked (f x) := List.filterMap_flatMap ..

@[simp] theorem asked_cons (s : Step) (rest : List Step) :
    asked (s :: rest) = (match s with | .need i => [i] | _ => []) ++ asked rest := by cases s <;> rfl

@[simp] theorem remarks_nil : remarks [] = [] := rfl

@[simp] theorem remarks_append (a b : List Step) : remarks (a ++ b) = remarks a ++ remarks b :=
  List.filterMap_append ..

@[simp] theorem remarks_cons (s : Step) (rest : List Step) :
    remarks (s :: rest) = (match s with | .remark r => [r] | _ => []) ++ remarks rest := by cases s <;> rfl

theorem remarks_flatMap {α : Type} (xs : List α) (f : α → List Step) :
    remarks (xs.flatMap f) = xs.flatMap fun x => remarks (f x) := List.filterMap_flatMap ..

theorem asked_written (steps : List Step) : asked (written steps) = [] := by
  induction steps with
  | nil => rfl
  | cons s rest ih => cases s <;> exact ih

theorem remarks_written (steps : List Step) : remarks (written steps) = [] := by
  induction steps with
  | nil => rfl
  | cons s rest ih => cases s <;> exact ih

end Writer

namespace Layout

open Writer

@[simp] theorem footerSteps_brace : footerSteps "\x7d" = [Step.line "\x7d"] := rfl

@[simp] theorem footerSteps_empty : footerSteps "" = [] := rfl

/-- Writing a layout asks for nothing. -/
theorem asked_stepsAll (ls : List Layout) : asked (stepsAll ls) = [] := by
  rw [← written_stepsAll, asked_written]

/-- Writing a layout logs nothing. -/
theorem remarks_stepsAll (ls : List Layout) : remarks (stepsAll ls) = [] := by
  rw [← written_stepsAll, remarks_written]

end Layout

namespace Emission

variable {σ τ α β : Type}

@[simp] theorem mk_bind (steps : List σ) (a : α) (f : α → Emission σ β) :
    (⟨steps, a⟩ : Emission σ α) >>= f = ⟨steps ++ (f a).steps, (f a).value⟩ := rfl

theorem pure_eq (a : α) : (pure a : Emission σ α) = ⟨[], a⟩ := rfl

@[simp] theorem pure_bind (a : α) (f : α → Emission σ β) : (pure a : Emission σ α) >>= f = f a := rfl

@[simp] theorem steps_each (xs : List α) (f : α → Emission σ β) :
    (each xs f).steps = xs.flatMap fun x => (f x).steps := rfl

@[simp] theorem value_each (xs : List α) (f : α → Emission σ β) :
    (each xs f).value = xs.map fun x => (f x).value := rfl

@[simp] theorem steps_forEach (xs : List α) (f : α → Emission σ Unit) :
    (forEach xs f).steps = xs.flatMap fun x => (f x).steps := rfl

@[simp] theorem steps_mapSteps (f : σ → τ) (x : Emission σ α) : (x.mapSteps f).steps = x.steps.map f := rfl

@[simp] theorem value_mapSteps (f : σ → τ) (x : Emission σ α) : (x.mapSteps f).value = x.value := rfl

@[simp] theorem steps_ite (c : Prop) [Decidable c] (x y : Emission σ α) :
    (if c then x else y).steps = if c then x.steps else y.steps := apply_ite ..

@[simp] theorem value_ite (c : Prop) [Decidable c] (x y : Emission σ α) :
    (if c then x else y).value = if c then x.value else y.value := apply_ite ..

@[simp] theorem steps_line (text : String) : (line text).steps = [.line text] := rfl

@[simp] theorem steps_blank : blank.steps = [.blank] := rfl

@[simp] theorem steps_raw (text : String) : (raw text).steps = [.raw text] := rfl

@[simp] theorem steps_enter : enter.steps = [.enter] := rfl

@[simp] theorem steps_leave : leave.steps = [.leave] := rfl

@[simp] theorem steps_need (i : Import) : (need i).steps = [.need i] := rfl

@[simp] theorem steps_remark (r : LogRecord) : (remark r).steps = [.remark r] := rfl

/-- A block is written like a suite. -/
@[simp] theorem steps_block (header footer : String) (body : Emission Writer.Step Unit) :
    (block header footer body).steps
      = .line header :: .enter :: (body.steps ++ .leave :: Layout.footerSteps footer) := by
  by_cases h : footer = "" <;> simp [block, Layout.footerSteps, h]

end Emission

/-! ## Steps in parts -/

/-- The steps consist of one part for each element, in order. -/
def InParts {σ β : Type} (R : List σ → β → Prop) (steps : List σ) (bs : List β) : Prop :=
  ∃ parts, steps = parts.flatten ∧ List.Forall₂ R parts bs

namespace InParts

variable {σ β γ : Type} {R : List σ → β → Prop} {a b : List σ} {bs cs : List β}

theorem nil : InParts R [] [] := ⟨[], rfl, .nil⟩

theorem cons {x : β} (ha : R a x) (hb : InParts R b bs) : InParts R (a ++ b) (x :: bs) := by
  obtain ⟨parts, rfl, related⟩ := hb
  exact ⟨a :: parts, rfl, .cons ha related⟩

theorem singleton {x : β} (ha : R a x) : InParts R a [x] := ⟨[a], by simp, .cons ha .nil⟩

theorem append (ha : InParts R a bs) (hb : InParts R b cs) : InParts R (a ++ b) (bs ++ cs) := by
  obtain ⟨front, rfl, first⟩ := ha
  obtain ⟨back, rfl, second⟩ := hb
  exact ⟨front ++ back, by simp, List.rel_append first second⟩

theorem imp {S : List σ → β → Prop} (ha : InParts R a bs) (h : ∀ part x, R part x → S part x) :
    InParts S a bs := by
  obtain ⟨parts, rfl, related⟩ := ha
  exact ⟨parts, rfl, related.imp h⟩

theorem map {S : List σ → γ → Prop} {f : β → γ} (ha : InParts R a bs) (h : ∀ part x, R part x → S part (f x)) :
    InParts S a (bs.map f) := by
  obtain ⟨parts, rfl, related⟩ := ha
  exact ⟨parts, rfl, List.forall₂_map_right_iff.2 (related.imp h)⟩

/-- Parts that consist of parts. -/
theorem flatten {groups : List (List β)} (ha : InParts (InParts R) a groups) : InParts R a groups.flatten := by
  obtain ⟨parts, rfl, related⟩ := ha
  induction related with
  | nil => exact nil
  | cons first _ ih => exact append first ih

/-- What is collected from some steps is collected from their parts. -/
theorem collect {τ : Type} {F : List σ → List τ} {G : β → List τ} (ha : InParts R a bs) (nothing : F [] = [])
    (both : ∀ a b, F (a ++ b) = F a ++ F b) (same : ∀ part x, R part x → F part = G x) : F a = bs.flatMap G := by
  obtain ⟨parts, rfl, related⟩ := ha
  induction related with
  | nil => exact nothing
  | cons first _ ih => rw [List.flatten_cons, both, same _ _ first, ih, List.flatMap_cons]

/-- Every element has its part. -/
theorem part {x : β} (ha : InParts R a bs) (hx : x ∈ bs) : ∃ own, own <:+: a ∧ R own x := by
  obtain ⟨parts, rfl, related⟩ := ha
  obtain ⟨own, among, made⟩ := exists_related related hx
  obtain ⟨front, back, rfl⟩ := List.append_of_mem among
  exact ⟨own, ⟨front.flatten, back.flatten, by simp⟩, made⟩

end InParts

namespace Emit

variable {σ α β γ δ : Type} {R : List σ → β → Prop}

/-- A part of an emission takes steps that go with some code, or it never returns and there is no code. -/
def Makes (R : List σ → β → Prop) (x : Emit σ α) (b : Option β) : Prop :=
  x = none ∧ b = none ∨ ∃ e c, x = some e ∧ b = some c ∧ R e.steps c

theorem makes_some {x : Emission σ α} {b : β} (h : R x.steps b) : Makes R (some x) (some b) :=
  .inr ⟨x, b, rfl, rfl, h⟩

/-- What it does if it returns. -/
theorem Makes.related {x : Emit σ α} {b : Option β} (h : Makes R x b) {e : Emission σ α} (he : x = some e) :
    ∃ c, b = some c ∧ R e.steps c := by
  rcases h with ⟨none, -⟩ | ⟨e', c, emitted, there, related⟩
  · cases he.symm.trans none
  · cases he.symm.trans emitted
    exact ⟨c, there, related⟩

/-- It returns if there is code. -/
theorem Makes.isSome {x : Emit σ α} {b : Option β} (h : Makes R x b) : Option.isSome x = b.isSome := by
  rcases h with ⟨rfl, rfl⟩ | ⟨e, c, rfl, rfl, -⟩ <;> rfl

theorem Makes.map {S : List σ → γ → Prop} {x : Emit σ α} {b : Option β} {f : β → γ} (hx : Makes R x b)
    (h : ∀ steps c, R steps c → S steps (f c)) : Makes S x (do return f (← b)) := by
  rcases hx with ⟨rfl, rfl⟩ | ⟨e, c, rfl, rfl, made⟩
  · exact .inl ⟨rfl, rfl⟩
  · exact makes_some (h _ _ made)

/-- A sequence makes what its parts make together. -/
theorem Makes.bind {S : List σ → δ → Prop} {x : Emit σ α} {f : α → Emit σ γ} {b : Option β} {g : β → Option δ}
    (hx : Makes R x b) (h : ∀ e c, x = some e → b = some c → R e.steps c →
      Makes (fun steps d => S (e.steps ++ steps) d) (f e.value) (g c)) : Makes S (x >>= f) (b >>= g) := by
  rcases hx with ⟨rfl, rfl⟩ | ⟨e, c, rfl, rfl, made⟩
  · exact .inl ⟨rfl, rfl⟩
  · rcases h e c rfl rfl made with ⟨none, nothing⟩ | ⟨e', d, more, there, both⟩
    · exact .inl ⟨congrArg (Option.map _) none, nothing⟩
    · exact .inr ⟨_, d, congrArg (Option.map _) more, there, both⟩

/-- Something is claimed in front. -/
theorem Makes.claimed {a : Option α} {f : α → Emit σ γ} {g : α → Option β}
    (h : ∀ c, a = some c → Makes R (f c) (g c)) : Makes R (Emit.claimed a >>= f) (a >>= g) := by
  cases a with
  | none => exact .inl ⟨rfl, rfl⟩
  | some c =>
    rcases h c rfl with ⟨none, nothing⟩ | ⟨e, d, more, there, made⟩
    · exact .inl ⟨congrArg (Option.map _) none, nothing⟩
    · exact .inr ⟨e, d, congrArg (Option.map _) more, there, made⟩

/-- Something is done in front that always returns. -/
theorem Makes.lift {x : Emission σ α} {f : α → Emit σ γ} {b : Option β}
    (h : Makes (fun steps c => R (x.steps ++ steps) c) (f x.value) b) : Makes R (liftM x >>= f) b := by
  rcases h with ⟨none, nothing⟩ | ⟨e, c, more, there, made⟩
  · exact .inl ⟨congrArg (Option.map _) none, nothing⟩
  · exact .inr ⟨_, c, congrArg (Option.map _) more, there, made⟩

/-- **What is made element by element is made in parts,** each of which goes with its element. -/
theorem makes_zip {S : α → List σ → β → Prop} {f : α → Emit σ Unit} {g : α → Option β} {xs : List α}
    (h : ∀ x ∈ xs, Makes (S x) (f x) (g x)) :
    Makes (fun steps ys => InParts (fun part x => S x.1 part x.2) steps (xs.zip ys)) (forEach f xs) (xs.mapM g) := by
  induction xs with
  | nil => exact makes_some InParts.nil
  | cons x rest ih =>
    rw [List.mapM_cons]
    refine (h x List.mem_cons_self).bind fun _ _ _ _ first => ?_
    have more := ih fun y hy => h y (List.mem_cons_of_mem _ hy)
    exact more.map fun _ _ made => .cons first made

theorem makes_forEach {f : α → Emit σ Unit} {g : α → Option β} (xs : List α)
    (h : ∀ x ∈ xs, Makes R (f x) (g x)) : Makes (InParts R) (forEach f xs) (xs.mapM g) := by
  induction xs with
  | nil => exact makes_some InParts.nil
  | cons x rest ih =>
    rw [List.mapM_cons]
    refine (h x List.mem_cons_self).bind fun _ _ _ _ first => ?_
    have more := ih fun y hy => h y (List.mem_cons_of_mem _ hy)
    exact more.map fun _ _ made => .cons first made

end Emit

end GoGlue
