import GoGlue.Glue.Code
import GoGlue.PyModule.Code

/-!
# Calls in generated code

Every call that a piece of generated code spells, at any depth, with the arguments it passes. What the
two sides of the glue do to a value is said in terms of these calls.

* `Go.Stmt.madeAll_append`, `Py.Stmt.madeAll_append`: code in sequence makes the calls of its parts.
-/
namespace GoGlue.Go

structure Call where
  function : Expr
  args : List Expr

mutual
/-- The calls in an expression. -/
def Expr.made : Expr → List Call
  | call f args => ⟨f, args⟩ :: (f.made ++ madeAll args)
  | member e _ | deref e | address e | isNil e | notNil e => e.made
  | index e i => e.made ++ i.made
  | both a b => a.made ++ b.made
  | name _ | number _ | quote _ | library _ _ | qualified _ _ | type _ | applied _ _ | empty _ => []
def Expr.madeAll : List Expr → List Call
  | [] => []
  | e :: rest => e.made ++ madeAll rest
end

mutual
/-- The calls in a statement. -/
def Stmt.made : Stmt → List Call
  | expr e | define _ e | ret (some e) => e.made
  | assign target e => target.made ++ e.made
  | declare _ _ | ret none => []
  | ifs cond body => cond.made ++ madeAll body
  | range _ _ items body => items.made ++ madeAll body
def Stmt.madeAll : List Stmt → List Call
  | [] => []
  | s :: rest => s.made ++ madeAll rest
end

@[simp] theorem Stmt.madeAll_append (ss ts : List Stmt) :
    Stmt.madeAll (ss ++ ts) = Stmt.madeAll ss ++ Stmt.madeAll ts := by
  induction ss with
  | nil => rfl
  | cons s rest ih => simp [madeAll, ih]

theorem Stmt.mem_madeAll {c : Call} {ss : List Stmt} :
    c ∈ Stmt.madeAll ss ↔ ∃ s ∈ ss, c ∈ s.made := by
  induction ss with
  | nil => simp [madeAll]
  | cons s rest ih => simp [madeAll, ih]

theorem Expr.mem_madeAll {c : Call} {es : List Expr} :
    c ∈ Expr.madeAll es ↔ ∃ e ∈ es, c ∈ e.made := by
  induction es with
  | nil => simp [madeAll]
  | cons e rest ih => simp [madeAll, ih]

end GoGlue.Go

namespace GoGlue.Py

structure Call where
  function : Expr
  args : List Expr

mutual
/-- The calls in an expression. -/
def Expr.made : Expr → List Call
  | call f args => ⟨f, args⟩ :: (f.made ++ madeAll args)
  | byref e | member e _ | keyword _ e | isNone e | negation e => e.made
  | either a b => a.made ++ b.made
  | conditional value cond alternative => value.made ++ cond.made ++ alternative.made
  | comprehension value _ items => value.made ++ items.made
  | name _ | none | number _ | text _ | emptyBytes | emptyList | ctypes _ | entry _ | cls _ => []
def Expr.madeAll : List Expr → List Call
  | [] => []
  | e :: rest => e.made ++ madeAll rest
end

mutual
/-- The calls in a statement. -/
def Stmt.made : Stmt → List Call
  | expr e => e.made
  | assign targets e => Expr.madeAll targets ++ e.made
  | ret values => Expr.madeAll values
  | pass => []
  | ifs cond body => cond.made ++ madeAll body
  | attempt body _ handler => madeAll body ++ madeAll handler
def Stmt.madeAll : List Stmt → List Call
  | [] => []
  | s :: rest => s.made ++ madeAll rest
end

@[simp] theorem Stmt.madeAll_append (ss ts : List Stmt) :
    Stmt.madeAll (ss ++ ts) = Stmt.madeAll ss ++ Stmt.madeAll ts := by
  induction ss with
  | nil => rfl
  | cons s rest ih => simp [madeAll, ih]

@[simp] theorem Expr.madeAll_append (es fs : List Expr) :
    Expr.madeAll (es ++ fs) = Expr.madeAll es ++ Expr.madeAll fs := by
  induction es with
  | nil => rfl
  | cons e rest ih => simp [madeAll, ih]

/-- A call of an entry point of the library, with the entry point's symbol. -/
def Call.entry? (c : Call) : Option (String × List Expr) :=
  match c.function with
  | .entry symbol => some (symbol, c.args)
  | _ => .none

@[simp] theorem Call.entry?_entry (symbol : String) (args : List Expr) :
    Call.entry? ⟨.entry symbol, args⟩ = some (symbol, args) := rfl

@[simp] theorem Call.entry?_name (n : String) (args : List Expr) :
    Call.entry? ⟨.name n, args⟩ = .none := rfl

@[simp] theorem Call.entry?_member (e : Expr) (n : String) (args : List Expr) :
    Call.entry? ⟨.member e n, args⟩ = .none := rfl

@[simp] theorem Call.entry?_ctypes (t : CtypesToken) (args : List Expr) :
    Call.entry? ⟨.ctypes t, args⟩ = .none := rfl

/-- The calls of entry points in a sequence of statements. -/
def Stmt.entryCalls (ss : List Stmt) : List (String × List Expr) :=
  (Stmt.madeAll ss).filterMap Call.entry?

@[simp] theorem Stmt.entryCalls_append (ss ts : List Stmt) :
    Stmt.entryCalls (ss ++ ts) = Stmt.entryCalls ss ++ Stmt.entryCalls ts := by
  simp [entryCalls]

@[simp] theorem Stmt.entryCalls_cons (s : Stmt) (ss : List Stmt) :
    Stmt.entryCalls (s :: ss) = s.made.filterMap Call.entry? ++ Stmt.entryCalls ss := by
  simp [entryCalls, madeAll]

@[simp] theorem Stmt.entryCalls_nil : Stmt.entryCalls [] = [] := rfl

end GoGlue.Py
