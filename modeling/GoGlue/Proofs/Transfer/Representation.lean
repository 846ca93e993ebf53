import GoGlue.Proofs.CallPlan.Crossable
import GoGlue.Transfer.CType
import GoGlue.Transfer.PyType

/-!
# One representation on both sides

A type is described twice, once as the glue spells it in C and once as the module binds it with `ctypes`.
Each description goes through the strategy on its own and decides again who releases the value, whether it
may be nil and what its elements are. Here both are held against one account of the strategy: what is passed
as a whole has a row in a table of spellings, and what is passed as memory is a pointer to its element on
both sides, down to the innermost one.

The spelling in C alone does not tell the class: `**C.char` is the place of an error, bound to
`POINTER(c_void_p)`, and a pointer to a string, bound to `POINTER(c_char_p)`. So the account follows the
strategy and not the text.

* `describe_decided`: the two descriptions make the same decisions, whatever the strategy.
* `representations_agree`: the two descriptions of a type are of one representation.
-/
namespace GoGlue

/-- What stands for a value that is passed as a whole: its type in C, and its classes as an argument and as a
result. Memory of the glue comes back as a bare pointer, so that it can be released. -/
inductive Spelled : Transfer → String → String → String → Prop
  | value (p : Primitive) : Spelled (.value p) ("C." ++ p.c) p.ctypes p.ctypes
  | ownedString : Spelled .ownedString "*C.char" "c_char_p" "c_void_p"
  | handle (kind : HandleKind) (nullable : Bool) :
    Spelled (.handle kind nullable) "C.uintptr_t" "c_size_t" "c_size_t"
  | bytes (elem : Transfer) (len : UInt64) :
    Spelled (.composite .bytes elem len) "unsafe.Pointer" "c_void_p" "c_void_p"
  | errorOut : Spelled .errorOut "**C.char" "POINTER(c_void_p)" "POINTER(c_void_p)"

/-- The two descriptions decide alike, and as the strategy does where that decides. -/
structure Decided (tr : Transfer) (c : CType) (p : PyType) : Prop where
  needsFree : c.needsFree = tr.needsFree ∧ p.needsFree = tr.needsFree
  isHandle : c.isHandle = tr.isHandle ∧ p.isHandle = tr.isHandle
  isError : c.isOutParam = decide (tr = .errorOut) ∧ p.isError = decide (tr = .errorOut)
  nullable : c.nullable = p.nullable
  len : c.len = p.len

/-- The two descriptions are of one representation of the values with a strategy. -/
inductive Represents : Transfer → CType → PyType → Prop
  | whole {tr : Transfer} {c : CType} {p : PyType} (decided : Decided tr c p)
      (spelled : Spelled tr c.token.text p.token.text p.returned.text)
      (inC : c.elem = none) (inPython : p.elem = none) : Represents tr c p
  | parts {kind : CompositeKind} {tr : Transfer} {len : UInt64} {c part : CType} {p pyPart : PyType}
      (typed : kind ≠ .bytes) (decided : Decided (.composite kind tr len) c p)
      (inC : c.elem = some part) (inPython : p.elem = some pyPart)
      (pointer : c.token.text = "*" ++ part.token.text)
      (argument : p.token.text = "POINTER(" ++ pyPart.token.text ++ ")")
      (result : p.returned.text = "POINTER(" ++ pyPart.returned.text ++ ")")
      (elem : Represents tr part pyPart) : Represents (.composite kind tr len) c p

/-- Whatever the strategy, the two descriptions decide alike. -/
theorem describe_decided (t : GoType) (tr : Transfer) :
    Decided tr (CType.describe t tr) (PyType.describe t tr) := by
  cases tr with
  | composite kind elem len =>
    cases kind <;> exact ⟨⟨rfl, rfl⟩, ⟨rfl, rfl⟩, ⟨rfl, rfl⟩, rfl, rfl⟩
  | _ => exact ⟨⟨rfl, rfl⟩, ⟨rfl, rfl⟩, ⟨rfl, rfl⟩, rfl, rfl⟩

/-- Memory that holds elements is a pointer to them on both sides, if they are of one representation. -/
theorem Represents.composite {t e : GoType} {tr : Transfer} {kind : CompositeKind} {len : UInt64}
    (he : t.elem = some e) (typed : kind ≠ .bytes)
    (elem : Represents tr (CType.describe e tr) (PyType.describe e tr)) :
    Represents (.composite kind tr len) (CType.describe t (.composite kind tr len))
      (PyType.describe t (.composite kind tr len)) := by
  cases kind with
  | bytes => exact absurd rfl typed
  | slice | array | pointer =>
    refine .parts typed (describe_decided t _) ?_ ?_ ?_ ?_ ?_ elem <;>
      simp only [CType.describe, PyType.describe, he] <;> rfl

/-- **The two descriptions of a type** are of one representation, at every depth. -/
theorem representations_agree {structs : StructNames} {t : GoType} {tr : Transfer}
    (h : classify structs t = .ok tr) :
    Represents tr (CType.describe t tr) (PyType.describe t tr) := by
  induction tr generalizing t with
  | value p => exact .whole (describe_decided t _) (.value p) rfl rfl
  | ownedString => exact .whole (describe_decided t _) .ownedString rfl rfl
  | handle kind nullable => exact .whole (describe_decided t _) (.handle kind nullable) rfl rfl
  | errorOut => exact .whole (describe_decided t _) .errorOut rfl rfl
  | composite kind elem len ih =>
    cases strategy_of_classify h with
    | slice _ memory he hc =>
      rcases memory with rfl | rfl
      · -- a buffer of bytes has no element on either side
        exact .whole (describe_decided t _) (.bytes elem _) rfl rfl
      · exact .composite he (by decide) (ih hc)
    | array _ _ he hc => exact .composite he (by decide) (ih hc)
    | pointer _ he hc => exact .composite he (by decide) (ih hc)

/-- An array of slices of pointers to strings. -/
def pages : GoType := .array (some 4) (.slice (.pointer .string))

def pagesTransfer : Transfer :=
  .composite .array (.composite .slice (.composite .pointer .ownedString 0) 0) 4

theorem representations_agree_pages :
    classify [] pages = .ok pagesTransfer ∧
      Represents pagesTransfer (CType.describe pages pagesTransfer)
        (PyType.describe pages pagesTransfer) := by
  have classified : classify [] pages = .ok pagesTransfer := by
    simp [pages, pagesTransfer, GoType.array, GoType.slice, GoType.pointer, GoType.string, GoType.leaf,
      classify, GoType.isByteSlice, Except.map]
  exact ⟨classified, representations_agree classified⟩

end GoGlue
