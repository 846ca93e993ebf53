import GoGlue.Proofs.PyModule.Docstring
import GoGlue.Proofs.PyModule.Emitted
import GoGlue.Proofs.Text.Ends

/-!
# Suites of the module

Python takes the indentation for the structure: behind the header of a suite there has to be a line one level deeper.
Here the lines of the module are looked at. A header is told by the word that begins it and the colon that ends
it; only doc texts may have lines that look like one, so these are told by the docstring they stand in.

A suite is filled if its body begins with a line that is not blank. For definitions it is the docstring, or else the
first statement of the body, which is never empty since it makes the call. For classes it is the docstring, since
there is one for structs without a doc text as well.

* `suiting_plain`, `suiting_docstring`, `suiting_suite`: how suites are put together.
* `callBody_tame`, `callBody_ne_nil`: the bodies that make calls.
* `layout_suiting`: the suites of the module of a package.
-/
namespace GoGlue

namespace Py

open Writer Layout Text

/-! ## Headers -/

/-- The words that begin the header of a suite. -/
def headerWords : List String := ["class ", "def ", "if ", "for ", "try:", "except ", "finally:"]

/-- The line looks like the header of a suite. -/
def IsHeader (t : String) : Prop := t.toList.getLast? = some ':' ∧ ∃ word ∈ headerWords, beginsWith word t = true

instance (t : String) : Decidable (IsHeader t) := inferInstanceAs (Decidable (_ ∧ _))

/-- The line has a line directly behind it that is not blank and exactly one level deeper. -/
def Followed (l : Line) (back : List Line) : Prop :=
  ∃ next rest, back = next :: rest ∧ next.level = l.level + 1 ∧ next.text ≠ ""

/-- The line is one of those that are written for one of the doc texts. -/
def InDocstring (docs : List String) (front : List Line) (l : Line) (back : List Line) : Prop :=
  ∃ doc ∈ docs, ∃ before inner inner' after, front = before ++ inner ∧ back = inner' ++ after ∧
    printedAll l.level (docstring doc) = inner ++ l :: inner'

/-- Every line that looks like a header is followed by its suite, unless it stands in a docstring. -/
def Headed (docs : List String) (ls : List Line) : Prop :=
  ∀ front l back, ls = front ++ l :: back → IsHeader l.text → Followed l back ∨ InDocstring docs front l back

section

variable {docs : List String}

theorem headed_nil : Headed docs [] := fun _ _ _ h => by simp at h

theorem Headed.append {a b : List Line} (ha : Headed docs a) (hb : Headed docs b) : Headed docs (a ++ b) := by
  intro front l back split header
  rcases mem_part split with ⟨rest, inA, rfl⟩ | ⟨start, rfl, inB⟩
  · rcases ha front l rest inA header with
      ⟨next, more, rfl, deeper⟩ | ⟨doc, hd, before, i, i', after, rfl, rfl, whole⟩
    · exact .inl ⟨next, more ++ b, rfl, deeper⟩
    · exact .inr ⟨doc, hd, before, i, i', after ++ b, rfl, by rw [List.append_assoc], whole⟩
  · rcases hb start l back inB header with followed | ⟨doc, hd, before, i, i', after, rfl, rfl, whole⟩
    · exact .inl followed
    · exact .inr ⟨doc, hd, a ++ before, i, i', after, by rw [List.append_assoc], rfl, whole⟩

/-- A line in front; if it is a header, its suite begins behind it. -/
theorem Headed.cons {l : Line} {ls : List Line} (own : IsHeader l.text → Followed l ls) (h : Headed docs ls) :
    Headed docs (l :: ls) := by
  intro front m back split header
  rcases List.cons_eq_append_iff.1 split with ⟨rfl, first⟩ | ⟨front, rfl, behind⟩
  · obtain ⟨rfl, rfl⟩ := List.cons.inj first
    exact .inl (own header)
  · refine (h front m back behind header).imp_right ?_
    rintro ⟨doc, hd, before, i, i', after, rfl, rfl, whole⟩
    exact ⟨doc, hd, l :: before, i, i', after, rfl, rfl, whole⟩

theorem headed_line {n : Nat} {t : String} (h : ¬ IsHeader t) : Headed docs [⟨n, t⟩] :=
  headed_nil.cons fun header => absurd header h

/-! ## Suites -/

/-- The body begins with a line that is not blank. -/
def Fills : List Layout → Prop
  | [] => False
  | l :: _ => l.first ≠ ""

instance : DecidablePred Fills
  | [] => inferInstanceAs (Decidable False)
  | l :: _ => inferInstanceAs (Decidable (l.first ≠ ""))

theorem Fills.append {ls : List Layout} (h : Fills ls) (ms : List Layout) : Fills (ls ++ ms) := by
  cases ls with
  | nil => exact h.elim
  | cons l rest => exact h

theorem Fills.printed {ls : List Layout} (h : Fills ls) (n : Nat) :
    ∃ next rest, printedAll n ls = next :: rest ∧ next.level = n ∧ next.text ≠ "" := by
  cases ls with
  | nil => exact h.elim
  | cons l rest =>
    obtain ⟨more, hl⟩ := printed_first n l
    exact ⟨⟨n, l.first⟩, more ++ printedAll n rest, by rw [printedAll, hl]; rfl, rfl, h⟩

/-- A suite with something in it. The one in parentheses is the list of what is imported from `ctypes`. -/
def Filled (s : Suite) : Prop :=
  (IsHeader s.header ∧ s.footer = "" ∨ s.header = "from ctypes import (" ∧ s.footer = ")") ∧ Fills s.body

instance (s : Suite) : Decidable (Filled s) := inferInstanceAs (Decidable (_ ∧ _))

/-- Every suite is filled, and every header has its suite. -/
structure Suiting (docs : List String) (ls : List Layout) : Prop where
  headed : ∀ n, Headed docs (printedAll n ls)
  filled : ∀ s ∈ suitesAll ls, Filled s

theorem suiting_nil : Suiting docs [] := ⟨fun _ => headed_nil, nofun⟩

theorem Suiting.append {ls ms : List Layout} (h : Suiting docs ls) (h' : Suiting docs ms) :
    Suiting docs (ls ++ ms) where
  headed n := by
    rw [printedAll_append]
    exact (h.headed n).append (h'.headed n)
  filled := by
    rw [suitesAll_append]
    exact List.forall_mem_append.2 ⟨h.filled, h'.filled⟩

theorem Suiting.cons {l : Layout} {ls : List Layout} (h : Suiting docs [l]) (h' : Suiting docs ls) :
    Suiting docs (l :: ls) := h.append h'

theorem suiting_flatMap {α : Type} {xs : List α} {f : α → List Layout} (h : ∀ x ∈ xs, Suiting docs (f x)) :
    Suiting docs (xs.flatMap f) := by
  induction xs with
  | nil => exact suiting_nil
  | cons x rest ih =>
    obtain ⟨first, others⟩ := List.forall_mem_cons.1 h
    exact first.append (ih others)

theorem suiting_line {t : String} (h : ¬ IsHeader t) : Suiting docs [.line t] := ⟨fun _ => headed_line h, nofun⟩

theorem suiting_blank : Suiting docs [.blank] := ⟨fun _ => headed_line (by decide), nofun⟩

/-- A suite whose body is put together from suites. -/
theorem suiting_suite {header footer : String} {body : List Layout} (h : Filled ⟨header, body, footer⟩)
    (inner : Suiting docs body) : Suiting docs [.suite header body footer] where
  headed n := by
    rw [printedAll_singleton, printed]
    have foot : Headed docs (if footer = "" then [] else [⟨n, footer⟩]) := by
      split
      · exact headed_nil
      · next some =>
        rcases h.1 with ⟨-, none⟩ | ⟨-, closing⟩
        · exact absurd none some
        · exact headed_line (by rw [show footer = ")" from closing]; decide)
    refine ((inner.headed (n + 1)).append foot).cons fun _ => ?_
    obtain ⟨next, rest, lines, deeper⟩ := h.2.printed (n + 1)
    exact ⟨next, rest ++ _, by rw [lines]; rfl, deeper⟩
  filled := List.forall_mem_cons.2 ⟨h, by simpa [suitesAll] using inner.filled⟩

mutual
theorem suiting_layout (l : Layout) (plain : ∀ t ∈ l.plain, ¬ IsHeader t)
    (suites : ∀ s ∈ l.suites, Filled s) : Suiting docs [l] := by
  cases l with
  | blank => exact suiting_blank
  | line text => exact suiting_line (plain text (List.mem_singleton_self _))
  | suite header body footer =>
    obtain ⟨own, inner⟩ := List.forall_mem_cons.1 suites
    exact suiting_suite own (suiting_plain body plain inner)
/-- If every suite is filled and no other line looks like a header, then every header has its suite. -/
theorem suiting_plain (ls : List Layout) (plain : ∀ t ∈ plainAll ls, ¬ IsHeader t)
    (suites : ∀ s ∈ suitesAll ls, Filled s) : Suiting docs ls := by
  cases ls with
  | nil => exact suiting_nil
  | cons l rest =>
    obtain ⟨plain, plains⟩ := List.forall_mem_append.1 plain
    obtain ⟨suites, more⟩ := List.forall_mem_append.1 suites
    exact (suiting_layout l plain suites).cons (suiting_plain rest plains more)
end

/-! ## Docstrings -/

theorem printedAll_lines (n : Nat) (ts : List String) : printedAll n (ts.map .line) = ts.map (⟨n, ·⟩) := by
  induction ts with
  | nil => rfl
  | cons t rest ih => rw [List.map_cons, printedAll, ih]; rfl

theorem suitesAll_lines (ts : List String) : suitesAll (ts.map .line) = [] := by
  induction ts with
  | nil => rfl
  | cons t rest ih => rw [List.map_cons, suitesAll, ih]; rfl

/-- A docstring is written in lines, the first of which begins with quotes. -/
theorem docstring_written (doc : String) :
    ∃ ts, docstring doc = ts.map .line ∧ (ts = [] ∨ ∃ r rest, ts = ("\"\"\"" ++ r) :: rest) := by
  unfold docstring
  split
  · exact ⟨[], rfl, .inl rfl⟩
  · next only _ =>
    exact ⟨["\"\"\"" ++ (String.ofList only ++ "\"\"\"")], by simp [String.append_assoc], .inr ⟨_, _, rfl⟩⟩
  · next first rest _ _ =>
    exact ⟨("\"\"\"" ++ String.ofList first)
      :: (rest.map (fun l => String.ofList (trimEnd l)) ++ ["\"\"\""]), by simp, .inr ⟨_, _, rfl⟩⟩

theorem suiting_docstring {doc : String} (hd : doc ∈ docs) : Suiting docs (docstring doc) := by
  obtain ⟨ts, written, -⟩ := docstring_written doc
  refine ⟨fun n front l back split _ => ?_, ?_⟩
  · have level : l.level = n := by
      have among : l ∈ printedAll n (docstring doc) := split ▸ List.mem_append_right _ List.mem_cons_self
      rw [written, printedAll_lines] at among
      obtain ⟨t, -, rfl⟩ := List.mem_map.1 among
      rfl
    exact .inr ⟨doc, hd, [], front, back, [], rfl, (List.append_nil back).symm, level ▸ split⟩
  · rw [written, suitesAll_lines]
    exact nofun

theorem docstring_fills {doc : String} (h : docstring doc ≠ []) : Fills (docstring doc) := by
  obtain ⟨_, written, rfl | ⟨r, rest, rfl⟩⟩ := docstring_written doc
  · exact absurd written h
  · rw [written]
    show "\"\"\"" ++ r ≠ ""
    simp

/-- A doc text that is not blank has a docstring. -/
theorem docstring_ne_nil {doc : String} (h : trim doc.toList ≠ []) : docstring doc ≠ [] := by
  have noLf : (trim doc.toList).getLast? ≠ some '\n' := fun hc =>
    absurd (isBlank_getLast?_trimEnd _ _ hc) (by decide)
  obtain ⟨init, last, -, padded⟩ := lines_padQuote h noLf
  unfold docstring
  rw [padQuote_escapeDoc, lines_escapeDoc, padded]
  split
  · next none => simp at none
  · simp
  · simp

/-! ## Statements -/

/-- The letters that begin headers. -/
def headerLetters : List Char := ['c', 'd', 'i', 'f', 't', 'e']

/-- The line begins with a character that begins no header. -/
def Begins (t : String) : Prop := ∃ c, t.toList.head? = some c ∧ c ∉ headerLetters

theorem Begins.not_isHeader {t : String} (h : Begins t) : ¬ IsHeader t := by
  obtain ⟨c, first, hc⟩ := h
  rintro ⟨-, word, hw, begins⟩
  have heads : ∀ word ∈ headerWords, word.toList.head? ∈ headerLetters.map some := by decide
  obtain ⟨d, hd, initial⟩ := List.mem_map.1 (heads word hw)
  obtain rfl : c = d := Option.some.inj (first.symm.trans (beginsWith_head? begins initial.symm))
  exact hc hd

theorem Begins.ne_empty {t : String} (h : Begins t) : t ≠ "" := by
  rintro rfl
  obtain ⟨c, first, -⟩ := h
  cases first

theorem Begins.append {t : String} (h : Begins t) (u : String) : Begins (t ++ u) := by
  obtain ⟨c, first, hc⟩ := h
  exact ⟨c, head?_append first u, hc⟩

theorem isHeader_of_word {word : String} (hw : word ∈ headerWords) (t : String) : IsHeader (word ++ t ++ ":") := by
  refine ⟨getLast?_append _ (by decide), word, hw, ?_⟩
  rw [String.append_assoc]
  exact beginsWith_append word _

/-- A line that begins like no header. -/
theorem suiting_begins {t : String} (h : Begins t) : Suiting docs [.line t] ∧ Fills [.line t] :=
  ⟨suiting_line h.not_isHeader, h.ne_empty⟩

theorem suiting_indented {word : String} (hw : word ∈ headerWords) (t : String) {body : List Layout}
    (h : Suiting docs body ∧ Fills body) :
    Suiting docs [.indented (word ++ t ++ ":") body] ∧ Fills [.indented (word ++ t ++ ":") body] := by
  refine ⟨suiting_suite ⟨.inl ⟨isHeader_of_word hw t, rfl⟩, h.2⟩ h.1, ?_⟩
  show word ++ t ++ ":" ≠ ""
  simp

mutual
/-- The suites of the statement have statements in them, and its other lines look like no header. -/
def Stmt.Tame : Stmt → Prop
  | .expr e => Begins e.spelling
  | .assign targets _ => ∃ t rest, targets = t :: rest ∧ Begins t.spelling
  | .ret _ | .pass => True
  | .ifs _ body => body ≠ [] ∧ TameAll body
  | .attempt body _ handler => body ≠ [] ∧ handler ≠ [] ∧ TameAll body ∧ TameAll handler
def Stmt.TameAll : List Stmt → Prop
  | [] => True
  | s :: rest => s.Tame ∧ TameAll rest
end

namespace Stmt

theorem tameAll_iff {ss : List Stmt} : TameAll ss ↔ ∀ s ∈ ss, s.Tame := by
  induction ss with
  | nil => simp [TameAll]
  | cons s rest ih => simp only [TameAll, List.forall_mem_cons, ih]

theorem tameAll_append {ss ts : List Stmt} : TameAll (ss ++ ts) ↔ TameAll ss ∧ TameAll ts := by
  simp only [tameAll_iff, List.forall_mem_append]

mutual
theorem layout_suiting (s : Stmt) (h : s.Tame) : Suiting docs s.layout ∧ Fills s.layout := by
  cases s with
  | expr e =>
    rw [layout]
    exact suiting_begins h
  | assign targets e =>
    obtain ⟨t, rest, rfl, c, first, hc⟩ := h
    have begins : Begins (", ".intercalate ((t :: rest).map Expr.spelling)) := ⟨c, head?_intercalate first _, hc⟩
    rw [layout]
    exact suiting_begins ((begins.append _).append _)
  | ret values =>
    have begins : Begins "return " := ⟨'r', by decide⟩
    rw [layout]
    exact suiting_begins (begins.append _)
  | pass =>
    rw [layout]
    exact suiting_begins ⟨'p', by decide⟩
  | ifs cond body =>
    rw [layout]
    exact suiting_indented (by decide) _ (layouts_suiting body h.2 h.1)
  | attempt body failure handler =>
    obtain ⟨some, some', inner, inner'⟩ := h
    obtain ⟨tried, fills⟩ := layouts_suiting body inner some
    have header : IsHeader "try:" := by decide
    have attempted : Suiting docs [.indented "try:" (layouts body)] :=
      suiting_suite ⟨.inl ⟨header, rfl⟩, fills⟩ tried
    have handled := suiting_indented (by decide : "except " ∈ headerWords) failure
      (layouts_suiting handler inner' some')
    rw [layout]
    exact ⟨attempted.cons handled.1, (by decide : "try:" ≠ "")⟩
theorem layouts_suiting (ss : List Stmt) (h : TameAll ss) (some : ss ≠ []) :
    Suiting docs (layouts ss) ∧ Fills (layouts ss) := by
  cases ss with
  | nil => exact absurd rfl some
  | cons s rest =>
    obtain ⟨own, fills⟩ := layout_suiting s h.1
    rw [layouts]
    refine ⟨own.append ?_, fills.append _⟩
    by_cases more : rest = []
    · rw [more]
      exact suiting_nil
    · exact (layouts_suiting rest h.2 more).1
end

end Stmt

end

/-! ## Bodies -/

section

-- generated code is spelled out in full here, down to the first characters of its lines
attribute [local simp] Stmt.Tame Stmt.TameAll Begins headerLetters Expr.spelling Expr.calls localOf lengthOf

theorem arguments_tame (s : Slot) (name : String) : Stmt.TameAll (arguments s name).1 := by
  unfold arguments
  cases s.shape with
  | scalar => simp
  | pointer => simp
  | buffer =>
    dsimp only
    split
    · simp
    · split <;> simp
  | fixed n =>
    dsimp only
    split <;> simp

theorem outArguments_tame (s : Slot) : Stmt.TameAll (outArguments s).1 := by
  unfold outArguments
  split <;> simp

theorem resultArguments_tame (plan : CallPlan) : Stmt.TameAll (resultArguments plan).1 := by
  have stored : Stmt.TameAll ((plan.results.map outArguments).flatMap (·.1)) := by
    rw [Stmt.tameAll_iff, List.flatMap_map]
    intro s hs
    obtain ⟨slot, -, hs⟩ := List.mem_flatMap.1 hs
    exact Stmt.tameAll_iff.1 (outArguments_tame slot) s hs
  unfold resultArguments
  cases plan.returned with
  | none => cases plan.hasError <;> simp [Stmt.tameAll_append, stored]
  | some s => cases plan.hasError <;> by_cases buffer : s.shape = .buffer <;> simp [buffer]

theorem callStep_tame (symbol : String) (plan : CallPlan) (args : List Expr) :
    Stmt.TameAll (callStep symbol plan args) := by
  unfold callStep
  dsimp only
  split
  · split <;> simp
  · rw [Stmt.tameAll_append, Stmt.tameAll_append]
    refine ⟨⟨by simp, ?_⟩, ?_⟩
    · split <;> simp
    · split <;> simp

theorem callStep_ne_nil (symbol : String) (plan : CallPlan) (args : List Expr) :
    callStep symbol plan args ≠ [] := by
  unfold callStep
  dsimp only
  split
  · split <;> simp
  · simp

/-- **The bodies that make calls.** -/
theorem callBody_tame (symbol : String) (bound : Bool) (plan : CallPlan) (names : List String) :
    Stmt.TameAll (callBody symbol bound plan names) := by
  have converted : Stmt.TameAll ((List.zipWith arguments plan.params names).flatMap (·.1)) := by
    rw [Stmt.tameAll_iff]
    intro s hs
    obtain ⟨made, hm, hs⟩ := List.mem_flatMap.1 hs
    rw [← List.map_uncurry_zip_eq_zipWith] at hm
    obtain ⟨⟨slot, name⟩, -, rfl⟩ := List.mem_map.1 hm
    exact Stmt.tameAll_iff.1 (arguments_tame slot name) s hs
  unfold callBody
  simp only [Stmt.tameAll_append]
  exact ⟨⟨converted, resultArguments_tame plan⟩, callStep_tame symbol plan _⟩

theorem callBody_ne_nil (symbol : String) (bound : Bool) (plan : CallPlan) (names : List String) :
    callBody symbol bound plan names ≠ [] := by
  simp [callBody, callStep_ne_nil]

theorem fixedMembers_tame {struct : String} {hasMethods : Bool} {d : Def} (h : d ∈ fixedMembers struct hasMethods) :
    Stmt.TameAll d.body ∧ d.body ≠ [] := by
  have all : ∀ d ∈ fixedMembers struct true, Stmt.TameAll d.body ∧ d.body ≠ [] := by
    simp [fixedMembers, initMember, fromHandleMember, freeMember, delMember, enterMember, exitMember, handleOfSelf,
      selfName]
  exact all d (mem_fixedMembers h)

end

/-! ## Definitions and classes -/

section

variable {docs : List String} {library : String} {p : Package} {m : PyModule}

theorem Def.layout_suiting {d : Def} (hd : d.doc ∈ docs) (body : Stmt.TameAll d.body ∧ d.body ≠ []) :
    Suiting docs d.layout := by
  obtain ⟨made, fills⟩ := @Stmt.layouts_suiting docs d.body body.1 body.2
  have filled : Fills (docstring d.doc ++ Stmt.layouts d.body) := by
    by_cases none : docstring d.doc = []
    · rw [none]
      exact fills
    · exact (docstring_fills none).append _
  have decorators : Suiting docs (d.decorators.map fun decorator => .line ("@" ++ decorator)) := by
    rw [List.map_eq_flatMap]
    exact suiting_flatMap fun decorator _ => (suiting_begins ⟨'@', by simp [headerLetters]⟩).1
  have own := suiting_indented (by decide : "def " ∈ headerWords)
    (d.name ++ "(" ++ ", ".intercalate (d.params.map Parameter.text) ++ ") -> " ++ d.returns.text)
    ⟨(suiting_docstring hd).append made, filled⟩
  refine decorators.append ?_
  simpa only [String.append_assoc] using own.1

/-- A class has a docstring, also if its struct has no doc text. -/
theorem classOf_doc {structs : StructNames} {s : StructSurface} {c : Class} (h : classOf structs s = some c) :
    docstring c.doc ≠ [] := by
  simp only [classOf, bind, Option.bind_eq_some_iff, pure, Option.some.injEq] at h
  obtain ⟨names, -, methods, -, rfl⟩ := h
  refine docstring_ne_nil ?_
  dsimp only
  split
  · exact trim_ne_nil ⟨'H', by simp, by decide⟩
  · next text => exact text

theorem Class.layout_suiting {c : Class} (hc : c.doc ∈ docs) (some : docstring c.doc ≠ [])
    (members : ∀ d ∈ c.members, Suiting docs d.layout) : Suiting docs c.layout := by
  have inner : Suiting docs (docstring c.doc ++ c.members.flatMap fun d => .blank :: d.layout) :=
    (suiting_docstring hc).append (suiting_flatMap fun d hd => suiting_blank.cons (members d hd))
  have own := suiting_indented (by decide : "class " ∈ headerWords) (className c.struct)
    ⟨inner, (docstring_fills some).append _⟩
  exact suiting_blank.cons (suiting_blank.cons own.1)

theorem definition_tame (h : PyModule.ofPackage library p = some m) {d : Def} (hd : d ∈ m.definitions) :
    Stmt.TameAll d.body ∧ d.body ≠ [] := by
  rcases definitions_cases h hd with ⟨s, hs, hasMethods, fixed⟩ | ⟨c, hc, ⟨names, -, laid⟩ | ⟨names, -, laid⟩⟩
  · exact fixedMembers_tame fixed
  · rw [laid.body]
    exact ⟨callBody_tame _ _ _ _, callBody_ne_nil _ _ _ _⟩
  · rw [laid.body]
    exact ⟨callBody_tame _ _ _ _, callBody_ne_nil _ _ _ _⟩

theorem classes_documented (h : PyModule.ofPackage library p = some m) :
    ∀ c ∈ m.classes, docstring c.doc ≠ [] := by
  obtain ⟨classes, functions, emission, hc, hf, -, rfl⟩ := PyModule.ofPackage_eq_some_iff.1 h
  intro c hm
  obtain ⟨s, -, made⟩ := exists_related (forall₂_of_mapM hc) hm
  exact classOf_doc made

end

end Py

namespace PyModule

open Py Layout

/-- The doc texts of the classes, of their members and of the functions. -/
def docs (m : PyModule) : List String := m.classes.map (·.doc) ++ m.definitions.map (·.doc)

variable {docs : List String}

/-- In the prelude, no other line ends like the header of a suite. -/
theorem prelude_ends : ∀ t ∈ (plainAll preludeLayout).map String.toList, t.getLast? ≠ some ':' := by
  simp only [preludeLayout, preludeParts, conversions, loadLibrary, releases, eachEnding, Routine.layout,
    Layout.indented, Declaration.layout, CtypesToken.text, plainAll, Layout.plain, String.intercalate_singleton,
    String.toList_append, List.flatMap_cons, List.flatMap_nil, List.map_cons, List.map_nil, List.cons_append,
    List.nil_append, List.append_nil]
  repeat rw [String.toList_ofList]
  decide +kernel

theorem prelude_headers : ∀ t ∈ (suitesAll preludeLayout).map (·.header.toList),
    t.getLast? = some ':' ∧ ∃ word ∈ headerWords.map String.toList, word.isPrefixOf t = true := by
  simp only [preludeLayout, preludeParts, conversions, loadLibrary, releases, eachEnding, Routine.layout,
    Layout.indented, Declaration.layout, suitesAll, Layout.suites, headerWords, String.toList_append,
    List.flatMap_cons, List.flatMap_nil, List.map_cons, List.map_nil, List.cons_append, List.nil_append,
    List.append_nil]
  repeat rw [String.toList_ofList]
  decide +kernel

theorem prelude_suiting : Suiting docs preludeLayout := by
  have filled : ∀ s ∈ suitesAll preludeLayout, s.footer = "" ∧ Fills s.body := by decide +kernel
  refine suiting_plain _ (fun t ht header => ?_) (fun s hs => ?_)
  · exact prelude_ends t.toList (List.mem_map_of_mem ht) header.1
  · obtain ⟨ends, chars, hc, begins⟩ := prelude_headers s.header.toList (List.mem_map_of_mem hs)
    obtain ⟨word, hw, rfl⟩ := List.mem_map.1 hc
    exact ⟨.inl ⟨⟨ends, word, hw, begins⟩, (filled s hs).1⟩, (filled s hs).2⟩

theorem declaration_suiting (d : Declaration) : Suiting docs d.layout := by
  have begins : Begins "_lib." := ⟨'_', by decide⟩
  unfold Declaration.layout
  simp only [String.append_assoc]
  exact (suiting_begins (begins.append _)).1.cons (suiting_begins (begins.append _)).1

variable {library : String} {p : Package} {m : PyModule}

theorem ctypesNames_ne_nil (h : ofPackage library p = some m) : m.ctypesNames ≠ [] :=
  List.ne_nil_of_mem ((mem_ctypesNames h (n := "CDLL")).2 (.inl (by decide)))

/-- What is imported from `ctypes` stands in lines that end with commas. -/
theorem imports_suiting (h : ofPackage library p = some m) :
    Suiting docs [.suite "from ctypes import (" (m.ctypesNames.map fun n => .line (n ++ ",")) ")"] := by
  have comma : ∀ n : String, ¬ IsHeader (n ++ ",") := by
    rintro n ⟨last, -⟩
    have last' := Text.getLast?_append n (b := ",") (c := ',') (by decide)
    exact absurd (last.symm.trans last') (by decide)
  refine suiting_suite ⟨.inr ⟨rfl, rfl⟩, ?_⟩ ?_
  · obtain ⟨n, rest, names⟩ := List.exists_cons_of_ne_nil (ctypesNames_ne_nil h)
    rw [names]
    show n ++ "," ≠ ""
    simp
  · rw [List.map_eq_flatMap]
    exact suiting_flatMap fun n _ => suiting_line (comma n)

theorem header_suiting (h : ofPackage library p = some m) : Suiting docs m.header := by
  have title : Suiting docs [.line ("# Code generated by gobridge from " ++ m.importPath ++ ". DO NOT EDIT.")] :=
    (suiting_begins ⟨'#', by simp [headerLetters]⟩).1
  have doc : Suiting docs [.line ("\"\"\"Python bindings for the " ++ m.package ++ " Go package.\"\"\"")] :=
    (suiting_begins ⟨'"', by simp [headerLetters]⟩).1
  have library : Suiting docs [.line ("_LIB_NAME = \"" ++ m.library ++ "\"")] :=
    (suiting_begins ⟨'_', by simp [headerLetters]⟩).1
  have modules : Suiting docs [.line "import os"] := suiting_line (by decide)
  have hints : Suiting docs [.line "from typing import Any, List, Optional, Tuple"] := suiting_line (by decide)
  exact title.cons (doc.cons (suiting_blank.cons (modules.cons ((imports_suiting h).cons
    (hints.cons (suiting_blank.cons library))))))

/-- **The suites of the module of a package.** -/
theorem layout_suiting (h : ofPackage library p = some m) :
    Suiting m.docs m.layout := by
  have definition : ∀ d ∈ m.definitions, Suiting m.docs d.layout := fun d hd =>
    Def.layout_suiting (List.mem_append_right _ (List.mem_map_of_mem hd)) (definition_tame h hd)
  have classes : Suiting m.docs (m.classes.flatMap Class.layout) := by
    refine suiting_flatMap fun c hc => ?_
    refine Class.layout_suiting (List.mem_append_left _ (List.mem_map_of_mem hc)) (classes_documented h c hc)
      fun d hd => definition d ?_
    exact List.mem_append_left _ (List.mem_flatMap.2 ⟨c, hc, hd⟩)
  have functions : Suiting m.docs (m.functions.flatMap fun f => .blank :: .blank :: f.layout) :=
    suiting_flatMap fun f hf =>
      suiting_blank.cons (suiting_blank.cons (definition f (List.mem_append_right _ hf)))
  have declarations : Suiting m.docs (m.declarations.flatMap Declaration.layout) :=
    suiting_flatMap fun d _ => declaration_suiting d
  unfold layout
  refine (((header_suiting h).append prelude_suiting).append ?_).append classes |>.append functions
  split
  · exact suiting_nil
  · exact suiting_blank.cons declarations

end PyModule

end GoGlue
