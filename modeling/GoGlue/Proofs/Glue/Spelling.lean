import GoGlue.Glue
import GoGlue.Proofs.Text.Dots
import GoGlue.Proofs.Text.Words

/-!
# Qualifiers in the text of the glue

The qualifiers that an entry point spells are read off its code. Each of them is also seen in its text: it
stands in a line of the body, as a word of its own, with a dot behind it. The other way around, what stands
before a dot in the text is a qualifier, or one of the few objects that a member is selected from, as long as
the parts that the code is made of bring no dots of their own.

* `Ty.text_qualifies`, `Expr.text_qualifies`, `Stmt.layout_qualifies`: qualifiers are seen in the text of types,
  expressions and statements.
* `Entry.layout_qualifies`: the text of an entry point uses every qualifier of its body.
* `Ty.text_clean`, `Expr.text_clean`, `Stmt.layout_clean`: nothing else stands before a dot in legible code.
-/
namespace GoGlue

open Text

namespace Go

theorem Ty.text_qualifies {q : Qualifier} (t : Ty) (h : q ∈ t.qualifiers) : Qualifies q.text t.text := by
  induction t with
  | any | name | c => cases h
  | qualified q' n =>
    rw [List.mem_singleton.1 h]
    exact qualifies_here q'.text n
  | pointer e ih | slice e ih => exact (ih h).after (by decide)
  | array len e ih => exact (ih h).behind (by decide) _
  | map k v ihKey ihValue =>
    rcases List.mem_append.1 h with h | h
    · exact (((ihKey h).after (by decide)).before _).before _
    · exact (ihValue h).behind (by decide) _

mutual
theorem Expr.text_qualifies {q : Qualifier} (e : Expr) (h : q ∈ e.qualifiers) : Qualifies q.text e.text := by
  cases e with
  | name | number | quote | library => cases h
  | qualified q' n =>
    rw [List.mem_singleton.1 h]
    exact qualifies_here q'.text n
  | type t => exact t.text_qualifies h
  | applied f t => exact ((t.text_qualifies h).behind (by decide) f).before _
  | empty t => exact (t.text_qualifies h).before _
  | call f args =>
    rcases List.mem_append.1 h with h | h
    · exact (((f.text_qualifies h).before _).before _).before _
    · obtain ⟨x, hx, used⟩ := Expr.texts_qualify args h
      exact ((qualifies_intercalate hx used).behind (by decide) _).before _
  | member e n => exact ((e.text_qualifies h).before _).before _
  | deref e | address e => exact (e.text_qualifies h).after (by decide)
  | isNil e | notNil e => exact (e.text_qualifies h).before _
  | index e i =>
    rcases List.mem_append.1 h with h | h
    · exact (((e.text_qualifies h).before _).before _).before _
    · exact ((i.text_qualifies h).behind (by decide) _).before _
  | both a b =>
    rcases List.mem_append.1 h with h | h
    · exact ((a.text_qualifies h).before _).before _
    · exact (b.text_qualifies h).behind (by decide) _
theorem Expr.texts_qualify {q : Qualifier} (es : List Expr) (h : q ∈ Expr.qualifiersAll es) :
    ∃ x ∈ Expr.texts es, Qualifies q.text x := by
  cases es with
  | nil => cases h
  | cons e rest =>
    rcases List.mem_append.1 h with h | h
    · exact ⟨e.text, List.mem_cons_self, e.text_qualifies h⟩
    · obtain ⟨x, hx, used⟩ := Expr.texts_qualify rest h
      exact ⟨x, List.mem_cons_of_mem _ hx, used⟩
end

/-- The name qualifies another one in a line of the layouts. -/
def Spells (name : String) (ls : List Layout) : Prop := ∃ line ∈ Layout.linesAll ls, Qualifies name line

theorem spells_line {name line : String} (h : Qualifies name line) : Spells name [.line line] :=
  ⟨line, by simp [Layout.linesAll, Layout.lines], h⟩

theorem spells_braced {name header : String} {body : List Layout}
    (h : Qualifies name header ∨ Spells name body) : Spells name [.braced header body] := by
  rcases h with h | ⟨line, hl, h⟩
  · exact ⟨_, by simp [Layout.braced, Layout.linesAll, Layout.lines], h.before " \x7b"⟩
  · exact ⟨line, by simp [Layout.braced, Layout.linesAll, Layout.lines, hl], h⟩

theorem spells_append {name : String} {ls ms : List Layout} (h : Spells name ls ∨ Spells name ms) :
    Spells name (ls ++ ms) := by
  rw [Spells, Layout.linesAll_append]
  rcases h with ⟨line, hl, h⟩ | ⟨line, hl, h⟩
  · exact ⟨line, List.mem_append_left _ hl, h⟩
  · exact ⟨line, List.mem_append_right _ hl, h⟩

mutual
theorem Stmt.layout_qualifies {q : Qualifier} (s : Stmt) (h : q ∈ s.qualifiers) :
    Spells q.text [s.layout] := by
  match s with
  | expr e => exact spells_line (e.text_qualifies h)
  | define vars e => exact spells_line ((e.text_qualifies h).behind (by decide) _)
  | assign target e =>
    refine spells_line ?_
    rcases List.mem_append.1 h with h | h
    · exact ((target.text_qualifies h).before _).before _
    · exact (e.text_qualifies h).behind (by decide) _
  | declare var t => exact spells_line ((t.text_qualifies h).behind (by decide) _)
  | ret none => cases h
  | ret (some e) => exact spells_line ((e.text_qualifies h).after (by decide))
  | ifs cond body =>
    refine spells_braced ?_
    rcases List.mem_append.1 h with h | h
    · exact .inl ((cond.text_qualifies h).after (by decide))
    · exact .inr (Stmt.layouts_qualify body h)
  | range index value items body =>
    refine spells_braced ?_
    rcases List.mem_append.1 h with h | h
    · exact .inl ((items.text_qualifies h).behind (by decide) _)
    · exact .inr (Stmt.layouts_qualify body h)
theorem Stmt.layouts_qualify {q : Qualifier} (ss : List Stmt) (h : q ∈ Stmt.qualifiersAll ss) :
    Spells q.text (Stmt.layouts ss) := by
  match ss with
  | [] => cases h
  | s :: rest =>
    rw [Stmt.layouts, ← List.singleton_append]
    exact spells_append ((List.mem_append.1 h).imp s.layout_qualifies (Stmt.layouts_qualify rest))
end

/-- **The text of an entry point uses every qualifier of its body.** -/
theorem Entry.layout_qualifies {e : Entry} {q : Qualifier} (h : q ∈ e.qualifiers) :
    Spells q.text e.layout := by
  obtain ⟨line, hl, used⟩ := Stmt.layouts_qualify e.body h
  refine ⟨line, ?_, used⟩
  simp [Entry.layout, Layout.braced, Layout.linesAll, Layout.lines, hl]

/-! ## From the text to the code -/

/-- What the glue selects from besides packages that it imports. -/
def glueObjects : List String := ["C", "unsafe", "_obj", "_recv", "_err"]

theorem glueObjects_names : ∀ n ∈ glueObjects, IsName n := by decide +kernel

/-- The type is made of names. -/
def Ty.Legible : Ty → Prop
  | any | c _ => True
  | name n => Undotted n
  | qualified q n => IsName q.text ∧ Undotted n
  | pointer e | slice e | array _ e => e.Legible
  | map k v => k.Legible ∧ v.Legible

mutual
/-- The expression is made of names, and members are selected from nothing but the objects of the glue. -/
def Expr.Legible : Expr → Prop
  | name n | quote n => Undotted n
  | number _ => True
  | library x n | member (name x) n => x ∈ glueObjects ∧ Undotted n
  | member _ _ => False
  | qualified q n => IsName q.text ∧ Undotted n
  | type t | empty t => t.Legible
  | applied f t => Undotted f ∧ t.Legible
  | call f args => f.Legible ∧ Expr.LegibleAll args
  | deref e | address e | isNil e | notNil e => e.Legible
  | index a b | both a b => a.Legible ∧ b.Legible
def Expr.LegibleAll : List Expr → Prop
  | [] => True
  | e :: rest => e.Legible ∧ Expr.LegibleAll rest
end

mutual
/-- The statement is made of names, and members are selected from nothing but the objects of the glue. -/
def Stmt.Legible : Stmt → Prop
  | expr e | ret (some e) => e.Legible
  | define vars e => (∀ x ∈ vars, Undotted x) ∧ e.Legible
  | assign target e => target.Legible ∧ e.Legible
  | declare var t => Undotted var ∧ t.Legible
  | ret none => True
  | ifs cond body => cond.Legible ∧ Stmt.LegibleAll body
  | range index value items body =>
    (Undotted index ∧ Undotted value ∧ items.Legible) ∧ Stmt.LegibleAll body
def Stmt.LegibleAll : List Stmt → Prop
  | [] => True
  | s :: rest => s.Legible ∧ Stmt.LegibleAll rest
end

/-- The entry point is made of names, and members are selected from nothing but the objects of the glue. -/
structure Entry.Legible (e : Entry) : Prop where
  symbol : Undotted e.symbol
  params : ∀ x ∈ e.params, Undotted x.name
  body : Stmt.LegibleAll e.body

section

variable {P : String → Prop}

/-! ### Types and expressions -/

theorem clean_object (known : ∀ n ∈ glueObjects, P n) {object member : String} (h : object ∈ glueObjects)
    (hm : Undotted member) : Clean P (object ++ "." ++ member) :=
  clean_selected (known object h) (glueObjects_names object h) hm

theorem ctoken_clean (known : ∀ n ∈ glueObjects, P n) (t : CToken) : Clean P t.text := by
  have ofC : ∀ n, Undotted n → Clean P ("C" ++ "." ++ n) := fun n => clean_object known (by decide)
  have ofUnsafe : ∀ n, Undotted n → Clean P ("unsafe" ++ "." ++ n) := fun n => clean_object known (by decide)
  induction t with
  | pointer t ih => exact ih.behind (by decide)
  | memory => exact ofUnsafe "Pointer" (by decide)
  | primitive p =>
    have type : Undotted p.c := by cases p <;> decide
    exact ofC p.c type
  | uintptr => exact ofC "uintptr_t" (by decide)
  | int => exact ofC "int" (by decide)
  | char => exact ofC "char" (by decide)

theorem Ty.text_clean (known : ∀ n ∈ glueObjects, P n) {t : Ty} (used : ∀ q ∈ t.qualifiers, P q.text)
    (h : t.Legible) : Clean P t.text := by
  induction t with
  | any => exact Undotted.clean (by decide)
  | name n => exact Undotted.clean h
  | qualified q n => exact clean_selected (used q List.mem_cons_self) h.1 h.2
  | pointer e ih | slice e ih => exact (ih used h).behind (by decide)
  | array len e ih =>
    have size : Clean P ("[" ++ toString len.toNat) := (number_undotted _).clean.behind (by decide)
    exact size.around (ih used h) (by decide)
  | map k v ihKey ihValue =>
    obtain ⟨byKey, byValue⟩ := List.forall_mem_append.1 used
    have key : Clean P ("map[" ++ k.text) := (ihKey byKey h.1).behind (by decide)
    exact key.around (ihValue byValue h.2) (by decide)
  | c t => exact ctoken_clean known t

mutual
/-- **Before the dots of a legible expression stand its qualifiers and the objects of the glue.** -/
theorem Expr.text_clean (known : ∀ n ∈ glueObjects, P n) (e : Expr) (used : ∀ q ∈ e.qualifiers, P q.text)
    (h : e.Legible) : Clean P e.text := by
  match e with
  | name n => exact Undotted.clean h
  | quote s => exact (quoted_undotted h).clean
  | number n => exact (number_undotted n).clean
  | library x n | member (name x) n => exact clean_object known h.1 h.2
  | qualified q n => exact clean_selected (used q List.mem_cons_self) h.1 h.2
  | type t => exact t.text_clean known used h
  | empty t => exact (t.text_clean known used h).before (by decide)
  | applied f t => exact (h.1.clean.around (t.text_clean known used h.2) (by decide)).before (by decide)
  | call f args =>
    obtain ⟨called, passed⟩ := List.forall_mem_append.1 used
    have listed := clean_intercalate (Expr.texts_clean known args passed h.2)
    exact ((f.text_clean known called h.1).around listed (by decide)).before (by decide)
  | deref e | address e => exact (e.text_clean known used h).behind (by decide)
  | isNil e | notNil e => exact (e.text_clean known used h).before (by decide)
  | index a b =>
    obtain ⟨left, right⟩ := List.forall_mem_append.1 used
    exact ((a.text_clean known left h.1).around (b.text_clean known right h.2) (by decide)).before (by decide)
  | both a b =>
    obtain ⟨left, right⟩ := List.forall_mem_append.1 used
    exact (a.text_clean known left h.1).around (b.text_clean known right h.2) (by decide)
theorem Expr.texts_clean (known : ∀ n ∈ glueObjects, P n) (es : List Expr)
    (used : ∀ q ∈ Expr.qualifiersAll es, P q.text) (h : Expr.LegibleAll es) :
    ∀ x ∈ Expr.texts es, Clean P x := by
  match es with
  | [] => simp [Expr.texts]
  | e :: rest =>
    obtain ⟨first, others⟩ := List.forall_mem_append.1 used
    exact List.forall_mem_cons.2 ⟨e.text_clean known first h.1, Expr.texts_clean known rest others h.2⟩
end

/-! ### Statements and entry points -/

theorem line_clean {text : String} (h : Clean P text) : ∀ line ∈ (Layout.line text).lines, Clean P line := by
  simpa [Layout.lines] using h

theorem braced_clean {header : String} {body : List Layout} (h : Clean P header)
    (hb : ∀ line ∈ Layout.linesAll body, Clean P line) :
    ∀ line ∈ (Layout.braced header body).lines, Clean P line := by
  have first : Clean P (header ++ " \x7b") := h.before (by decide)
  have last : Clean P "\x7d" := Undotted.clean (by decide)
  simp only [Layout.braced, Layout.lines, List.cons_append, List.forall_mem_cons, List.forall_mem_append]
  exact ⟨first, hb, by simpa using last⟩

mutual
/-- **Before the dots of a legible statement stand its qualifiers and the objects of the glue.** -/
theorem Stmt.layout_clean (known : ∀ n ∈ glueObjects, P n) (s : Stmt) (used : ∀ q ∈ s.qualifiers, P q.text)
    (h : s.Legible) : ∀ line ∈ s.layout.lines, Clean P line := by
  match s with
  | expr e => exact line_clean (e.text_clean known used h)
  | define vars e =>
    have names : Clean P (", ".intercalate vars) := clean_intercalate fun x hx => (h.1 x hx).clean
    exact line_clean (names.around (e.text_clean known used h.2) (by decide))
  | assign target e =>
    obtain ⟨left, right⟩ := List.forall_mem_append.1 used
    exact line_clean ((target.text_clean known left h.1).around (e.text_clean known right h.2) (by decide))
  | declare var t =>
    have declared : Clean P ("var " ++ var) := h.1.clean.behind (by decide)
    exact line_clean (declared.around (t.text_clean known used h.2) (by decide))
  | ret none => exact line_clean (Undotted.clean (by decide))
  | ret (some e) => exact line_clean ((e.text_clean known used h).behind (by decide))
  | ifs cond body =>
    obtain ⟨above, below⟩ := List.forall_mem_append.1 used
    have header : Clean P ("if " ++ cond.text) := (cond.text_clean known above h.1).behind (by decide)
    exact braced_clean header (Stmt.layouts_clean known body below h.2)
  | range index value items body =>
    obtain ⟨above, below⟩ := List.forall_mem_append.1 used
    obtain ⟨⟨hi, hv, ranged⟩, inside⟩ := h
    have first : Clean P ("for " ++ index) := hi.clean.behind (by decide)
    have both : Clean P ("for " ++ index ++ ", " ++ value) := first.around hv.clean (by decide)
    have header : Clean P ("for " ++ index ++ ", " ++ value ++ " := range " ++ items.text) :=
      both.around (items.text_clean known above ranged) (by decide)
    exact braced_clean header (Stmt.layouts_clean known body below inside)
theorem Stmt.layouts_clean (known : ∀ n ∈ glueObjects, P n) (ss : List Stmt)
    (used : ∀ q ∈ Stmt.qualifiersAll ss, P q.text) (h : Stmt.LegibleAll ss) :
    ∀ line ∈ Layout.linesAll (Stmt.layouts ss), Clean P line := by
  match ss with
  | [] => simp [Stmt.layouts, Layout.linesAll]
  | s :: rest =>
    obtain ⟨first, others⟩ := List.forall_mem_append.1 used
    rw [Stmt.layouts, Layout.linesAll, List.forall_mem_append]
    exact ⟨s.layout_clean known first h.1, Stmt.layouts_clean known rest others h.2⟩
end

/-- The lines of an entry point, of which the names of its body are not yet looked at. -/
theorem Entry.lines_clean (known : ∀ n ∈ glueObjects, P n) {e : Entry} (h : e.Legible)
    (body : ∀ line ∈ Layout.linesAll (Stmt.layouts e.body), Clean P line) :
    ∀ line ∈ Layout.linesAll e.layout, Clean P line := by
  have comment : Clean P ("//export " ++ e.symbol) := h.symbol.clean.behind (by decide)
  have params : Clean P (", ".intercalate (e.params.map fun x => x.name ++ " " ++ x.token.text)) :=
    clean_intercalate (List.forall_mem_map.2 fun x hx =>
      (h.params x hx).clean.around (ctoken_clean known x.token) (by decide))
  have named : Clean P ("func " ++ e.symbol) := h.symbol.clean.behind (by decide)
  have header : ∀ result, Clean P result → Clean P ("func " ++ e.symbol ++ "("
      ++ ", ".intercalate (e.params.map fun x => x.name ++ " " ++ x.token.text) ++ ")" ++ result) :=
    fun result hr => (named.around params (by decide)).around hr (by decide)
  unfold Entry.layout
  simp only [Layout.linesAll, List.forall_mem_append]
  refine ⟨line_clean comment, braced_clean ?_ body, by simp [Layout.lines]⟩
  cases e.result with
  | none => exact header "" (Undotted.clean (by decide))
  | some t =>
    have type : Clean P (" " ++ t.text) := (ctoken_clean known t).behind (by decide)
    exact header _ type

/-- **Before the dots of a legible entry point stand its qualifiers and the objects of the glue.** -/
theorem Entry.layout_clean {e : Entry} (h : e.Legible) : ∀ line ∈ Layout.linesAll e.layout,
    Clean (fun n => n ∈ glueObjects ∨ ∃ q ∈ e.qualifiers, q.text = n) line := by
  have known : ∀ n ∈ glueObjects, n ∈ glueObjects ∨ ∃ q ∈ e.qualifiers, q.text = n := fun n => .inl
  exact e.lines_clean known h (Stmt.layouts_clean known e.body (fun q hq => .inr ⟨q, hq, rfl⟩) h.body)

end

end Go

end GoGlue
