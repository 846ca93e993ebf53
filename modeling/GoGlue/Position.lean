/-!
# Positions in a source text

Lines and columns are counted from one, columns in characters. LF, CR and the pair CRLF each end a line.

* `after_append`: positions compose over texts, as long as no CRLF pair is cut.
-/
namespace GoGlue

structure Position where
  line : Nat
  column : Nat
  deriving DecidableEq, Repr

namespace Position

/-- Where a source begins. -/
def start : Position := ⟨1, 1⟩

/-- The position directly after a text that stands here. -/
def after (p : Position) : List Char → Position
  | [] => p
  | '\r' :: '\n' :: rest => after ⟨p.line + 1, 1⟩ rest
  | c :: rest =>
    if c = '\n' ∨ c = '\r' then after ⟨p.line + 1, 1⟩ rest else after ⟨p.line, p.column + 1⟩ rest

theorem after_append (p : Position) (a b : List Char)
    (h : a.getLast? = some '\r' → b.head? ≠ some '\n') : p.after (a ++ b) = (p.after a).after b := by
  fun_induction after p a with
  | case1 => rfl
  | case2 p rest ih =>
    simp only [List.cons_append, after]
    refine ih fun hl => h ?_
    cases rest <;> simp_all
  | case3 p c rest hc hb ih =>
    have hb' : ∀ r, c = '\r' → rest ++ b = '\n' :: r → False := by
      intro r hcr hr
      cases rest with
      | nil => subst hcr; simp at hr; subst hr; simp at h
      | cons d t => simp at hr; exact hc t hcr (by rw [hr.1])
    rw [List.cons_append, after, if_pos hb]
    · refine ih fun hl => h ?_
      cases rest <;> simp_all
    · exact hb'
  | case4 p c rest hc hb ih =>
    have hb' : ∀ r, c = '\r' → rest ++ b = '\n' :: r → False := fun r hcr _ => hb (Or.inr hcr)
    rw [List.cons_append, after, if_neg hb]
    · refine ih fun hl => h ?_
      cases rest <;> simp_all
    · exact hb'

end Position

end GoGlue
