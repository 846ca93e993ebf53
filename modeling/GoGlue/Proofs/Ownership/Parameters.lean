import GoGlue.Proofs.Abi.Role
import GoGlue.Proofs.Code.Calls

/-!
# Parameters are borrowed

Parameters stay with the side they come from: the glue copies them or looks them up, and the module
passes memory that Python owns. Neither side allocates C memory for a parameter, so none has to be
released after the call.

* `parameters_borrowed`: converting parameters, and writing them back, allocates no C memory.
* `arguments_owned`: what the module makes of its parameters is owned by Python.
-/
namespace GoGlue

/-! ## The glue -/

namespace Go

/-- The function allocates C memory. `allocSlice` always comes with its element type. -/
def Expr.allocates : Expr → Bool
  | library package f => package == "C" && ["CString", "CBytes", "malloc"].contains f
  | applied f _ => f == "allocSlice"
  | _ => false

/-- None of the calls allocates C memory. -/
def Borrows (calls : List Call) : Prop := ∀ c ∈ calls, c.function.allocates = false

theorem Borrows.append {cs ds : List Call} (h : Borrows cs) (h' : Borrows ds) :
    Borrows (cs ++ ds) := List.forall_mem_append.2 ⟨h, h'⟩

theorem Borrows.cons {c : Call} {cs : List Call} (h : c.function.allocates = false)
    (h' : Borrows cs) : Borrows (c :: cs) := List.forall_mem_cons.2 ⟨h, h'⟩

theorem Borrows.nil : Borrows [] := List.forall_mem_nil _

/-- Turning a C value into a Go value allocates no C memory. -/
theorem fromC_borrows (own : String) (t : GoType) (tr : Transfer) (x : String) :
    Borrows ((fromC own t tr).apply (.name x)).made := by
  cases fromC own t tr with
  | same => exact .nil
  | objectValue _ => exact .cons rfl (.cons rfl .nil)
  | _ => exact .cons rfl .nil

theorem argument_borrows (own : String) (s : Slot) :
    Borrows (Stmt.madeAll (argument own s).1 ++ (argument own s).2.made) := by
  have copied : ∀ (t : GoType) (tr : Transfer), Borrows ((fromC own t tr).apply (.name "_v")).made :=
    fun t tr => fromC_borrows own t tr "_v"
  unfold argument
  cases s.shape with
  | scalar => exact fromC_borrows own s.type s.transfer s.name
  | buffer =>
    by_cases hb : s.isBytes
    · simp only [hb, if_true]
      exact .cons rfl .nil
    · simp only [hb, Bool.false_eq_true, if_false]
      cases s.elem with
      | none => exact .nil
      | some part =>
        simp only [Stmt.madeAll, Stmt.made, Expr.calls, Expr.made, Expr.madeAll, List.append_nil,
          List.nil_append, List.cons_append]
        exact .cons rfl (.cons rfl (.cons rfl (.cons rfl (copied _ _))))
  | fixed n =>
    cases s.elem with
    | none => exact .nil
    | some part =>
      simp only [Stmt.madeAll, Stmt.made, Expr.made, Expr.madeAll, List.append_nil, List.nil_append]
      exact .cons rfl (copied _ _)
  | pointer => exact .cons rfl .nil

/-- **Parameters are borrowed** by the glue, whatever they are called in the body. -/
theorem parameters_borrowed (own : String) (plan : CallPlan) :
    Borrows (Stmt.madeAll (convertStep own plan) ++ Expr.madeAll (arguments own plan)
      ++ Stmt.madeAll (writeBackStep plan)) := by
  have converted : Borrows (Stmt.madeAll (convertStep own plan)) := by
    intro c hc
    obtain ⟨t, ht, hc⟩ := Stmt.mem_madeAll.1 hc
    obtain ⟨s, -, ht⟩ := List.mem_flatMap.1 ht
    exact argument_borrows own s c (List.mem_append_left _ (Stmt.mem_madeAll.2 ⟨t, ht, hc⟩))
  have passed : Borrows (Expr.madeAll (arguments own plan)) := by
    intro c hc
    obtain ⟨e, he, hc⟩ := Expr.mem_madeAll.1 hc
    obtain ⟨s, -, rfl⟩ := List.mem_map.1 he
    exact argument_borrows own s c (List.mem_append_right _ hc)
  have written : Borrows (Stmt.madeAll (writeBackStep plan)) := by
    intro c hc
    obtain ⟨t, ht, hc⟩ := Stmt.mem_madeAll.1 hc
    obtain ⟨s, -, rfl⟩ := List.mem_map.1 ht
    exact Borrows.cons rfl .nil c hc
  exact (converted.append passed).append written

end Go

/-! ## The module -/

namespace Py

/-- What the function makes is owned by Python. -/
def Expr.ownedByPython : Expr → Bool
  | name f =>
    ["_encode_string", "_handle_of", "bytes", "len", "_make_array", "_fixed_array"].contains f
  | ctypes _ => true
  | _ => false

/-- Whatever the calls make is owned by Python. -/
def Owned (calls : List Call) : Prop := ∀ c ∈ calls, c.function.ownedByPython = true

theorem Owned.nil : Owned [] := List.forall_mem_nil _

theorem Owned.cons {c : Call} {cs : List Call} (h : c.function.ownedByPython = true)
    (h' : Owned cs) : Owned (c :: cs) := List.forall_mem_cons.2 ⟨h, h'⟩

theorem intoRaw_owned (tr : Transfer) (x : String) :
    Owned ((intoRaw tr).apply (.name x)).made := by
  cases intoRaw tr with
  | same => exact .nil
  | _ => exact .cons rfl .nil

/-- The items of an array are converted one by one. -/
theorem items_owned (tr : Transfer) (x : String) :
    Owned (match intoRaw tr with
      | .same => Expr.name x
      | conv => .comprehension (conv.apply (.name "v")) "v" (.either (.name x) .emptyList)).made := by
  cases intoRaw tr with
  | same => exact .nil
  | _ => exact .cons rfl .nil

/-- **Arguments are owned by Python**: neither preparing nor passing them allocates C memory. -/
theorem arguments_owned (s : Slot) (name : String) :
    Owned (Stmt.madeAll (arguments s name).1 ++ Expr.madeAll (arguments s name).2) := by
  unfold arguments
  cases s.shape with
  | scalar =>
    simp only [Stmt.madeAll, Expr.madeAll, List.nil_append, List.append_nil]
    exact intoRaw_owned s.transfer name
  | buffer =>
    by_cases hb : s.isBytes
    · simp only [hb, if_true]
      exact .cons rfl (.cons rfl .nil)
    · simp only [hb, Bool.false_eq_true, if_false]
      cases s.elem with
      | none => exact .nil
      | some part =>
        simp only [Stmt.madeAll, Stmt.made, Expr.calls, Expr.made, Expr.madeAll, List.append_nil,
          List.nil_append]
        exact .cons rfl (items_owned part.2 name)
  | fixed n =>
    cases s.elem with
    | none => exact .nil
    | some part =>
      simp only [Stmt.madeAll, Stmt.made, Expr.calls, Expr.made, Expr.madeAll, List.append_nil,
        List.nil_append]
      exact .cons rfl (items_owned part.2 name)
  | pointer => exact .cons rfl .nil

end Py

end GoGlue
