import GoGlue.Proofs.Code.Calls

/-!
# Runs of generated code

What the statements of an entry point do when they run, one act after the other. Conditions and loops may
turn out either way here, so what is shown of every run holds whatever the values are. What a run is made of
can be read off the code: `Stmt.actsAll` lists every act that is spelled in it, at any depth.

* `run_append`: a run of code in sequence ends in the first part, or runs through it into the second.
* `Run.spelled`: a run consists of acts that the code spells.
* `Run.leaves`: a run returns only by a return statement.
* `run_range_step`: a loop with one statement inside does it some number of times.
-/
namespace GoGlue.Go

inductive Act where
  /-- The condition of an `if` turns out true or false. -/
  | test (cond : Expr) (holds : Bool)
  /-- A loop takes the next of its items. -/
  | next (index value : String) (items : Expr)
  /-- A statement with no others inside it is carried out. -/
  | step (s : Stmt)
  | leave (e : Option Expr)

/-- There are no other statements inside, and the next one is carried out after it. -/
def Stmt.isSimple : Stmt → Bool
  | expr _ | define _ _ | assign _ _ | declare _ _ => true
  | ret _ | ifs _ _ | range _ _ _ _ => false

/-- The code runs by these acts, and has returned or come to its end. -/
inductive Run : List Stmt → List Act → Bool → Prop
  | done : Run [] [] false
  | step {s rest acts left} (simple : s.isSimple = true) (later : Run rest acts left) :
    Run (s :: rest) (.step s :: acts) left
  | leave {e rest} : Run (.ret e :: rest) [.leave e] true
  | skip {cond body rest acts left} (later : Run rest acts left) :
    Run (.ifs cond body :: rest) (.test cond false :: acts) left
  | enter {cond body rest acts left} (inside : Run (body ++ rest) acts left) :
    Run (.ifs cond body :: rest) (.test cond true :: acts) left
  /-- No items are left. -/
  | finish {index value items body rest acts left} (later : Run rest acts left) :
    Run (.range index value items body :: rest) acts left
  | next {index value items body rest acts left}
    (inside : Run (body ++ .range index value items body :: rest) acts left) :
    Run (.range index value items body :: rest) (.next index value items :: acts) left

/-! ## Inversion -/

variable {s : Stmt} {ss ts body : List Stmt} {cond items : Expr} {i v : String}
  {path : List Act} {left : Bool}

theorem run_nil : Run [] path left ↔ path = [] ∧ left = false := by
  constructor
  · rintro ⟨⟩
    exact ⟨rfl, rfl⟩
  · rintro ⟨rfl, rfl⟩
    exact .done

theorem run_step (simple : s.isSimple = true) :
    Run (s :: ts) path left ↔ ∃ more, path = .step s :: more ∧ Run ts more left := by
  constructor
  · intro h
    cases h with
    | step _ later => exact ⟨_, rfl, later⟩
    | leave | skip | enter | finish | next => cases simple
  · rintro ⟨more, rfl, later⟩
    exact .step simple later

theorem run_ret {e : Option Expr} : Run (.ret e :: ts) path left ↔ path = [.leave e] ∧ left = true := by
  constructor
  · rintro (- | simple | -)
    · cases ‹Stmt.isSimple _ = true›
    · exact ⟨rfl, rfl⟩
  · rintro ⟨rfl, rfl⟩
    exact .leave

theorem run_ifs : Run (.ifs cond body :: ts) path left ↔
    (∃ more, path = .test cond false :: more ∧ Run ts more left) ∨
      ∃ more, path = .test cond true :: more ∧ Run (body ++ ts) more left := by
  constructor
  · intro h
    cases h with
    | step simple _ => cases simple
    | skip later => exact .inl ⟨_, rfl, later⟩
    | enter inside => exact .inr ⟨_, rfl, inside⟩
  · rintro (⟨more, rfl, later⟩ | ⟨more, rfl, inside⟩)
    · exact .skip later
    · exact .enter inside

theorem run_range : Run (.range i v items body :: ts) path left ↔
    Run ts path left ∨ ∃ more, path = .next i v items :: more ∧
      Run (body ++ .range i v items body :: ts) more left := by
  constructor
  · intro h
    cases h with
    | step simple _ => cases simple
    | finish later => exact .inl later
    | next inside => exact .inr ⟨_, rfl, inside⟩
  · rintro (later | ⟨more, rfl, inside⟩)
    · exact .finish later
    · exact .next inside

/-- **Code in sequence**: either the first part returns, or it runs to its end and the second part runs. -/
theorem run_append (h : Run (ss ++ ts) path left) :
    Run ss path true ∧ left = true ∨
      ∃ first second, path = first ++ second ∧ Run ss first false ∧ Run ts second left := by
  generalize hcode : ss ++ ts = code at h
  induction h generalizing ss with
  | done =>
    obtain ⟨rfl, rfl⟩ := List.append_eq_nil_iff.1 hcode
    exact .inr ⟨[], [], rfl, .done, .done⟩
  | @step s rest acts left simple later ih =>
    rcases List.append_eq_cons_iff.1 hcode with ⟨rfl, rfl⟩ | ⟨ss, rfl, rfl⟩
    · exact .inr ⟨[], _, rfl, .done, .step simple later⟩
    · rcases ih rfl with ⟨first, rfl⟩ | ⟨first, second, rfl, hf, hs⟩
      · exact .inl ⟨.step simple first, rfl⟩
      · exact .inr ⟨_, second, rfl, .step simple hf, hs⟩
  | @leave e rest =>
    rcases List.append_eq_cons_iff.1 hcode with ⟨rfl, rfl⟩ | ⟨ss, rfl, rfl⟩
    · exact .inr ⟨[], _, rfl, .done, .leave⟩
    · exact .inl ⟨.leave, rfl⟩
  | @skip cond body rest acts left later ih =>
    rcases List.append_eq_cons_iff.1 hcode with ⟨rfl, rfl⟩ | ⟨ss, rfl, rfl⟩
    · exact .inr ⟨[], _, rfl, .done, .skip later⟩
    · rcases ih rfl with ⟨first, rfl⟩ | ⟨first, second, rfl, hf, hs⟩
      · exact .inl ⟨.skip first, rfl⟩
      · exact .inr ⟨_, second, rfl, .skip hf, hs⟩
  | @enter cond body rest acts left inside ih =>
    rcases List.append_eq_cons_iff.1 hcode with ⟨rfl, rfl⟩ | ⟨ss, rfl, rfl⟩
    · exact .inr ⟨[], _, rfl, .done, .enter inside⟩
    · rcases ih (List.append_assoc body ss ts) with ⟨first, rfl⟩ | ⟨first, second, rfl, hf, hs⟩
      · exact .inl ⟨.enter first, rfl⟩
      · exact .inr ⟨_, second, rfl, .enter hf, hs⟩
  | @finish index value items body rest acts left later ih =>
    rcases List.append_eq_cons_iff.1 hcode with ⟨rfl, rfl⟩ | ⟨ss, rfl, rfl⟩
    · exact .inr ⟨[], _, rfl, .done, .finish later⟩
    · rcases ih rfl with ⟨first, rfl⟩ | ⟨first, second, rfl, hf, hs⟩
      · exact .inl ⟨.finish first, rfl⟩
      · exact .inr ⟨_, second, rfl, .finish hf, hs⟩
  | @next index value items body rest acts left inside ih =>
    rcases List.append_eq_cons_iff.1 hcode with ⟨rfl, rfl⟩ | ⟨ss, rfl, rfl⟩
    · exact .inr ⟨[], _, rfl, .done, .next inside⟩
    · rcases ih (List.append_assoc body (.range index value items body :: ss) ts) with
        ⟨first, rfl⟩ | ⟨first, second, rfl, hf, hs⟩
      · exact .inl ⟨.next first, rfl⟩
      · exact .inr ⟨_, second, rfl, .next hf, hs⟩

/-- There is a run of every code: the one that enters no condition and no loop. -/
theorem exists_run (ss : List Stmt) : ∃ acts left, Run ss acts left := by
  induction ss with
  | nil => exact ⟨_, _, .done⟩
  | cons s rest ih =>
    obtain ⟨acts, left, later⟩ := ih
    cases s with
    | ret e => exact ⟨_, _, .leave⟩
    | ifs cond body => exact ⟨_, _, .skip later⟩
    | range index value items body => exact ⟨_, _, .finish later⟩
    | expr | define | assign | declare => exact ⟨_, _, .step rfl later⟩

/-! ## The acts of code -/

namespace Stmt

mutual
/-- Every act that a statement spells. -/
def acts : Stmt → List Act
  | ret e => [.leave e]
  | ifs cond body => .test cond true :: .test cond false :: actsAll body
  | range index value items body => .next index value items :: actsAll body
  | expr e => [.step (.expr e)]
  | define vars e => [.step (.define vars e)]
  | assign target e => [.step (.assign target e)]
  | declare var t => [.step (.declare var t)]
def actsAll : List Stmt → List Act
  | [] => []
  | s :: rest => s.acts ++ actsAll rest
end

theorem actsAll_append (ss ts : List Stmt) :
    Stmt.actsAll (ss ++ ts) = Stmt.actsAll ss ++ Stmt.actsAll ts := by
  induction ss with
  | nil => rfl
  | cons s rest ih => simp [actsAll, ih]

theorem mem_actsAll {a : Act} {ss : List Stmt} : a ∈ actsAll ss ↔ ∃ s ∈ ss, a ∈ s.acts := by
  induction ss with
  | nil => simp [actsAll]
  | cons s rest ih => simp [actsAll, ih]

theorem acts_simple (simple : s.isSimple = true) : s.acts = [.step s] := by
  cases s <;> first | rfl | cases simple

end Stmt

/-- **A run consists of acts that the code spells.** -/
theorem Run.spelled (h : Run ss path left) : ∀ a ∈ path, a ∈ Stmt.actsAll ss := by
  induction h with
  | done => simp
  | step simple _ ih =>
    rw [Stmt.actsAll, Stmt.acts_simple simple]
    exact List.forall_mem_cons.2 ⟨by simp, fun a ha => List.mem_append_right _ (ih a ha)⟩
  | leave => simp [Stmt.actsAll, Stmt.acts]
  | skip _ ih =>
    rw [Stmt.actsAll, Stmt.acts]
    exact List.forall_mem_cons.2 ⟨by simp, fun a ha => List.mem_append_right _ (ih a ha)⟩
  | enter _ ih =>
    rw [Stmt.actsAll, Stmt.acts]
    refine List.forall_mem_cons.2 ⟨by simp, fun a ha => ?_⟩
    have inside := ih a ha
    rw [Stmt.actsAll_append] at inside
    simp only [List.cons_append, List.mem_cons, List.mem_append] at inside ⊢
    exact .inr (.inr inside)
  | finish _ ih =>
    rw [Stmt.actsAll]
    exact fun a ha => List.mem_append_right _ (ih a ha)
  | next _ ih =>
    rw [Stmt.actsAll, Stmt.acts]
    refine List.forall_mem_cons.2 ⟨by simp, fun a ha => ?_⟩
    have inside := ih a ha
    rw [Stmt.actsAll_append, Stmt.actsAll, Stmt.acts] at inside
    rcases List.mem_append.1 inside with within | again
    · exact List.mem_append_left _ (List.mem_cons_of_mem _ within)
    · exact again

/-- **A run returns only by a return statement.** -/
theorem Run.leaves (h : Run ss path left) : left = true ↔ ∃ e, .leave e ∈ path := by
  induction h with
  | done => simp
  | leave => simp
  | step _ _ ih | skip _ ih | enter _ ih | next _ ih => simpa using ih
  | finish _ ih => exact ih

/-! ## What acts read -/

/-- A function that is called by its bare name is no variable. -/
def Expr.isName : Expr → Bool
  | name _ => true
  | _ => false

mutual
/-- The variables that an expression reads. -/
def Expr.reads : Expr → List String
  | name n => [n]
  | call f args => (if f.isName then [] else f.reads) ++ readsAll args
  | member e _ | deref e | address e | isNil e | notNil e => e.reads
  | index e i => e.reads ++ i.reads
  | both a b => a.reads ++ b.reads
  | number _ | quote _ | library _ _ | qualified _ _ | type _ | applied _ _ | empty _ => []
def Expr.readsAll : List Expr → List String
  | [] => []
  | e :: rest => e.reads ++ readsAll rest
end

namespace Act

/-- The expressions that are evaluated, or stored through. -/
def exprs : Act → List Expr
  | test cond _ => [cond]
  | next _ _ items => [items]
  | step (.expr e) | step (.define _ e) => [e]
  | step (.assign target e) => [target, e]
  | step _ => []
  | leave e => e.toList

def reads (a : Act) : List String := Expr.readsAll a.exprs

def made (a : Act) : List Call := Expr.madeAll a.exprs

/-- The pointer that something is stored through. -/
def stored : Act → Option String
  | step (.assign (.deref (.name p)) _) => some p
  | _ => none

end Act

theorem Expr.mem_readsAll {n : String} {es : List Expr} : n ∈ Expr.readsAll es ↔ ∃ e ∈ es, n ∈ e.reads := by
  induction es with
  | nil => simp [readsAll]
  | cons e rest ih => simp [readsAll, ih]

mutual
/-- The calls of an act are among those of the code that spells it. -/
theorem Stmt.acts_made (s : Stmt) : ∀ a ∈ s.acts, ∀ c ∈ a.made, c ∈ s.made := by
  match s with
  | expr e | define vars e | assign target e | ret none | ret (some e) | declare var t =>
    simp [acts, Act.made, Act.exprs, made, Expr.madeAll]
  | ifs cond body =>
    have inside := actsAll_made body
    simp only [acts, List.forall_mem_cons, made, List.mem_append]
    refine ⟨?_, ?_, fun a ha c hc => .inr (inside a ha c hc)⟩ <;>
    · intro c hc
      exact .inl (by simpa [Act.made, Act.exprs, Expr.madeAll] using hc)
  | range index value items body =>
    have inside := actsAll_made body
    simp only [acts, List.forall_mem_cons, made, List.mem_append]
    refine ⟨fun c hc => .inl ?_, fun a ha c hc => .inr (inside a ha c hc)⟩
    simpa [Act.made, Act.exprs, Expr.madeAll] using hc
theorem Stmt.actsAll_made (ss : List Stmt) : ∀ a ∈ actsAll ss, ∀ c ∈ a.made, c ∈ madeAll ss := by
  match ss with
  | [] => simp [actsAll]
  | s :: rest =>
    have first := acts_made s
    have others := actsAll_made rest
    intro a ha c hc
    rw [madeAll, List.mem_append]
    rcases List.mem_append.1 ha with ha | ha
    · exact .inl (first a ha c hc)
    · exact .inr (others a ha c hc)
end

/-! ## Loops -/

/-- **A loop with one statement inside** does it some number of times. -/
theorem run_range_step (simple : s.isSimple = true) (h : Run (.range i v items [s] :: ts) path left) :
    ∃ rounds more, path = (List.replicate rounds [Act.next i v items, Act.step s]).flatten ++ more ∧
      Run ts more left := by
  generalize hcode : Stmt.range i v items [s] :: ts = code at h
  induction hn : path.length using Nat.strongRecOn generalizing path code with
  | _ n ih =>
    subst hcode
    rcases run_range.1 h with later | ⟨more, rfl, inside⟩
    · exact ⟨0, path, rfl, later⟩
    · obtain ⟨more, rfl, again⟩ := (run_step simple).1 inside
      have shorter : more.length < n := by
        rw [← hn, List.length_cons, List.length_cons]
        omega
      obtain ⟨rounds, rest, rfl, later⟩ := ih more.length shorter _ rfl again rfl
      exact ⟨rounds + 1, rest, by simp [List.replicate_succ], later⟩

end GoGlue.Go
