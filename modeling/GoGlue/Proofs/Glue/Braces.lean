import GoGlue.Glue
import GoGlue.Proofs.Glue.Entries
import GoGlue.Proofs.Glue.Renaming
import GoGlue.Proofs.Text.Ends
import GoGlue.Proofs.Writer.Emission

/-!
# Blocks of the glue file

A block of Go code is opened by a line that ends with a brace, and closed by a line that is a brace. Here the lines
of the glue file are looked at, and a block is told by the word that begins its first line, since a name of the
package may itself end with a brace. The other lines of entry points begin with names that the glue makes up, or end
a call, so none of them opens a block.

* `printedAll_braced`: if every suite is bracketed, then every block is closed.
* `body_tame`: bodies open blocks by conditions and loops alone.
-/
namespace GoGlue

namespace Go

open Writer Layout Text

/-! ## Blocks -/

/-- The line opens a block: it begins a function, a condition or a loop, and ends with the brace. -/
def OpensBlock (t : String) : Prop :=
  t.toList.getLast? = some '\x7b' ∧ ∃ word ∈ ["func ", "if ", "for "], beginsWith word t = true

instance (t : String) : Decidable (OpensBlock t) := inferInstanceAs (Decidable (_ ∧ _))

/-- Every line that opens a block has only deeper lines behind it, up to a closing brace on the same level. -/
def Braced (ls : List Line) : Prop :=
  ∀ front l back, ls = front ++ l :: back → OpensBlock l.text →
    ∃ inner rest, back = inner ++ ⟨l.level, "\x7d"⟩ :: rest ∧ ∀ x ∈ inner, l.level < x.level

theorem braced_nil : Braced [] := fun _ _ _ h => by simp at h

theorem Braced.append {a b : List Line} (ha : Braced a) (hb : Braced b) : Braced (a ++ b) := by
  intro front l back split opens
  rcases mem_part split with ⟨rest, inA, rfl⟩ | ⟨start, -, inB⟩
  · obtain ⟨inner, more, rfl, deeper⟩ := ha front l rest inA opens
    exact ⟨inner, more ++ b, by simp, deeper⟩
  · exact hb start l back inB opens

/-- Behind a line that opens no block. -/
theorem Braced.cons {l : Line} {ls : List Line} (hl : ¬ OpensBlock l.text) (h : Braced ls) : Braced (l :: ls) := by
  intro front m back split opens
  rcases List.cons_eq_append_iff.1 split with ⟨rfl, first⟩ | ⟨front, rfl, behind⟩
  · obtain ⟨rfl, -⟩ := List.cons.inj first
    exact absurd opens hl
  · exact h front m back behind opens

/-- Between a header and its brace there are deeper lines. -/
theorem Braced.block {n : Nat} {body : List Line} (h : Braced body) (deeper : ∀ x ∈ body, n < x.level)
    (header : String) : Braced (⟨n, header⟩ :: body ++ [⟨n, "\x7d"⟩]) := by
  intro front l back split opens
  rcases List.cons_eq_append_iff.1 split with ⟨rfl, first⟩ | ⟨front, rfl, behind⟩
  · obtain ⟨rfl, rfl⟩ := List.cons.inj first
    exact ⟨body, [], rfl, deeper⟩
  · have closing : ¬ OpensBlock "\x7d" := by decide
    exact (h.append (braced_nil.cons closing)) front l back behind opens

/-- The suite is a block, or a list in parentheses. -/
def Bracketed (s : Suite) : Prop :=
  OpensBlock s.header ∧ s.footer = "\x7d" ∨ s.header ∈ ["import (", "var ("] ∧ s.footer = ")"

instance (s : Suite) : Decidable (Bracketed s) := inferInstanceAs (Decidable (_ ∨ _))

/-- Every suite is a block or a list in parentheses, and no other line opens a block. -/
def Bracing (ls : List Layout) : Prop :=
  (∀ t ∈ plainAll ls, ¬ OpensBlock t) ∧ ∀ s ∈ suitesAll ls, Bracketed s

instance (ls : List Layout) : Decidable (Bracing ls) := inferInstanceAs (Decidable (_ ∧ _))

theorem bracing_append {ls ms : List Layout} : Bracing (ls ++ ms) ↔ Bracing ls ∧ Bracing ms := by
  simp only [Bracing, plainAll_append, suitesAll_append, List.forall_mem_append]
  exact and_and_and_comm

theorem bracing_cons {l : Layout} {ls : List Layout} : Bracing (l :: ls) ↔ Bracing [l] ∧ Bracing ls :=
  @bracing_append [l] ls

theorem bracing_flatMap {α : Type} {xs : List α} {f : α → List Layout} (h : ∀ x ∈ xs, Bracing (f x)) :
    Bracing (xs.flatMap f) := by
  induction xs with
  | nil => exact ⟨nofun, nofun⟩
  | cons x rest ih =>
    obtain ⟨first, others⟩ := List.forall_mem_cons.1 h
    exact bracing_append.2 ⟨first, ih others⟩

theorem bracing_line {t : String} : Bracing [.line t] ↔ ¬ OpensBlock t := by
  simp [Bracing, plainAll, Layout.plain, suitesAll, Layout.suites]

theorem bracing_suite {header footer : String} {body : List Layout} :
    Bracing [.suite header body footer] ↔ Bracketed ⟨header, body, footer⟩ ∧ Bracing body := by
  simp only [Bracing, plainAll, Layout.plain, suitesAll, Layout.suites, List.append_nil, List.forall_mem_cons]
  exact and_left_comm

mutual
theorem printed_braced (n : Nat) (l : Layout) (h : Bracing [l]) : Braced (l.printed n) := by
  cases l with
  | blank => exact braced_nil.cons (h.1 "" (List.mem_singleton_self _))
  | line text => exact braced_nil.cons (bracing_line.1 h)
  | suite header body footer =>
    obtain ⟨own, inner⟩ := bracing_suite.1 h
    have under := printedAll_braced (n + 1) body inner
    rw [printed]
    rcases own with ⟨-, rfl⟩ | ⟨list, rfl⟩
    · exact under.block (le_printedAll (n + 1) body) header
    · have names : ∀ h ∈ ["import (", "var ("], ¬ OpensBlock h := by decide
      have closing : ¬ OpensBlock ")" := by decide
      exact (under.cons (names header list)).append (braced_nil.cons closing)
/-- **If every suite is bracketed, then every block is closed.** -/
theorem printedAll_braced (n : Nat) (ls : List Layout) (h : Bracing ls) : Braced (printedAll n ls) := by
  cases ls with
  | nil => exact braced_nil
  | cons l rest =>
    obtain ⟨first, others⟩ := bracing_cons.1 h
    exact (printed_braced n l first).append (printedAll_braced n rest others)
end

/-! ## Lines of statements -/

theorem not_opensBlock_of_head? {t : String} {c : Char} (h : t.toList.head? = some c) (hc : c ≠ 'f' ∧ c ≠ 'i') :
    ¬ OpensBlock t := by
  rintro ⟨-, word, hw, begins⟩
  have heads : ∀ word ∈ ["func ", "if ", "for "], word.toList.head? = some 'f' ∨ word.toList.head? = some 'i' := by
    decide
  rcases heads word hw with first | first
  · exact hc.1 (Option.some.inj (h.symm.trans (beginsWith_head? begins first)))
  · exact hc.2 (Option.some.inj (h.symm.trans (beginsWith_head? begins first)))

theorem not_opensBlock_of_getLast? {t : String} {c : Char} (h : t.toList.getLast? = some c) (hc : c ≠ '\x7b') :
    ¬ OpensBlock t := fun opens => hc (Option.some.inj (h.symm.trans opens.1))

theorem bracing_head {t : String} {c : Char} (h : t.toList.head? = some c) (hc : c ≠ 'f' ∧ c ≠ 'i') :
    Bracing [.line t] := bracing_line.2 (not_opensBlock_of_head? h hc)

theorem bracing_block {word : String} (hw : word ∈ ["func ", "if ", "for "]) (t : String) {body : List Layout}
    (h : Bracing body) : Bracing [.braced (word ++ t) body] := by
  refine bracing_suite.2 ⟨.inl ⟨⟨Text.getLast?_append _ (by decide), word, hw, ?_⟩, rfl⟩, h⟩
  rw [String.append_assoc]
  exact beginsWith_append word _

mutual
/-- The lines of the statement that open blocks are those of conditions and loops: the others begin with what the
glue makes up, or end a call. -/
def Stmt.Tame : Stmt → Prop
  | .expr e => ∃ f args, e = .call f args
  | .define vars _ => vars ≠ [] ∧ ∀ v ∈ vars, v.toList.head? = some '_'
  | .assign target _ => target.text.toList.head? = some '_' ∨ target.text.toList.head? = some '*'
  | .declare _ _ | .ret _ => True
  | .ifs _ body | .range _ _ _ body => TameAll body
def Stmt.TameAll : List Stmt → Prop
  | [] => True
  | s :: rest => s.Tame ∧ TameAll rest
end

namespace Stmt

theorem tameAll_iff {ss : List Stmt} : TameAll ss ↔ ∀ s ∈ ss, s.Tame := by
  induction ss with
  | nil => simp [TameAll]
  | cons s rest ih => simp only [TameAll, List.forall_mem_cons, ih]

theorem tameAll_append {ss ts : List Stmt} : TameAll (ss ++ ts) ↔ TameAll ss ∧ TameAll ts := by
  simp only [tameAll_iff, List.forall_mem_append]

mutual
theorem layout_bracing (s : Stmt) (h : s.Tame) : Bracing [s.layout] := by
  cases s with
  | expr e =>
    obtain ⟨f, args, rfl⟩ := h
    have last : (Expr.call f args).text.toList.getLast? = some ')' := by
      rw [Expr.text]
      exact getLast?_append _ (by decide)
    rw [layout]
    exact bracing_line.2 (not_opensBlock_of_getLast? last (by decide))
  | define vars e =>
    obtain ⟨some, names⟩ := h
    obtain ⟨v, rest, rfl⟩ := List.exists_cons_of_ne_nil some
    have head := head?_intercalate (names v List.mem_cons_self) rest
    rw [layout]
    exact bracing_head (head?_append (head?_append head _) _) (by decide)
  | assign target e =>
    rw [layout]
    rcases h with head | head
    · exact bracing_head (head?_append (head?_append head _) _) (by decide)
    · exact bracing_head (head?_append (head?_append head _) _) (by decide)
  | declare var t =>
    rw [layout]
    exact bracing_head (c := 'v') (by simp) (by decide)
  | ret e =>
    cases e with
    | none =>
      rw [layout]
      decide
    | some e =>
      rw [layout]
      exact bracing_head (c := 'r') (by simp) (by decide)
  | ifs cond body =>
    rw [layout]
    exact bracing_block (by simp) _ (layouts_bracing body h)
  | range index value items body =>
    rw [layout]
    simp only [String.append_assoc]
    exact bracing_block (by simp) _ (layouts_bracing body h)
theorem layouts_bracing (ss : List Stmt) (h : TameAll ss) : Bracing (layouts ss) := by
  cases ss with
  | nil => exact ⟨nofun, nofun⟩
  | cons s rest => exact bracing_cons.2 ⟨layout_bracing s h.1, layouts_bracing rest h.2⟩
end

end Stmt

/-! ## Bodies -/

section

variable {own : String}

-- generated code is spelled out in full here, down to the first characters of its lines
attribute [local simp] Stmt.Tame Stmt.TameAll Expr.text Expr.calls Expr.ccall setError localOf

theorem argument_tame (own : String) (s : Slot) : Stmt.TameAll (argument own s).1 := by
  unfold argument
  cases s.shape with
  | scalar => simp
  | pointer => simp
  | buffer =>
    dsimp only
    split
    · simp
    · split <;> simp
  | fixed n =>
    dsimp only
    split <;> simp

theorem bufferIntoC_tame (s : Slot) (var : String) (k : Nat) : Stmt.TameAll (bufferIntoC s var k).1 := by
  unfold bufferIntoC
  split
  · simp
  · split <;> simp

theorem receiveStep_tame (plan : CallPlan) (receiver : Option Receiver) :
    Stmt.TameAll (receiveStep plan receiver) := by
  unfold receiveStep
  split
  · simp
  · split <;> simp [bail]

theorem resultName_head? (k : Nat) : (resultName k).toList.head? = some '_' := by simp [resultName]

theorem assignResults_tame (plan : CallPlan) (f : Expr) (args : List Expr) :
    (assignResults plan (.call f args)).Tame := by
  have names : ∀ n ∈ resultNames plan, n.toList.head? = some '_' := by
    intro n hn
    rcases (resultNames_assigned plan).2 n hn with rfl | ⟨k, rfl⟩
    · decide
    · exact resultName_head? k
  unfold assignResults
  split
  · simp
  · next some => exact ⟨some, names⟩

theorem callStep_tame (own : String) (receiver : Option Receiver) (plan : CallPlan) (invoke : Invoke) :
    Stmt.TameAll (callStep own receiver plan invoke) := by
  unfold callStep
  split
  · exact ⟨assignResults_tame plan _ _, trivial⟩
  · split
    · exact ⟨by simp, assignResults_tame plan _ _, trivial⟩
    · exact ⟨assignResults_tame plan _ _, trivial⟩
  · simp
  · simp [Stmt.tameAll_iff]

theorem writeBackStep_tame (plan : CallPlan) : Stmt.TameAll (writeBackStep plan) := by
  rw [Stmt.tameAll_iff, writeBackStep, List.forall_mem_map]
  intro s hs
  simp

theorem errorStep_tame (plan : CallPlan) : Stmt.TameAll (errorStep plan) := by
  unfold errorStep
  split <;> simp

theorem returnResult_tame (s : Slot) : Stmt.TameAll (returnResult s) := by
  have copied := bufferIntoC_tame s "_r0" 0
  unfold returnResult
  cases s.shape <;> simp [Stmt.tameAll_append, copied]

theorem storeResult_tame (s : Slot) (k : Nat) : (storeResult s k).Tame := by
  have copied := bufferIntoC_tame s (resultName k) k
  unfold storeResult
  cases s.shape <;> simp [Stmt.tameAll_append, copied]

theorem resultStep_tame (plan : CallPlan) : Stmt.TameAll (resultStep plan) := by
  unfold resultStep
  split
  · next s _ => exact returnResult_tame s
  · rw [Stmt.tameAll_iff]
    intro s hs
    obtain ⟨k, hk, rfl⟩ := List.mem_mapIdx.1 hs
    exact storeResult_tame _ k

/-- **Bodies open blocks by conditions and loops alone.** -/
theorem body_tame (own : String) (receiver : Option Receiver) (invoke : Invoke) (plan : CallPlan) :
    Stmt.TameAll (body own receiver invoke plan) := by
  have clear : Stmt.TameAll (clearStep plan) := by
    unfold clearStep
    split <;> simp
  have convert : Stmt.TameAll (convertStep own plan) := by
    rw [Stmt.tameAll_iff]
    intro s hs
    obtain ⟨slot, -, hs⟩ := List.mem_flatMap.1 hs
    exact Stmt.tameAll_iff.1 (argument_tame own slot) s hs
  simp only [body, Stmt.tameAll_append]
  exact ⟨⟨⟨⟨⟨⟨clear, receiveStep_tame plan receiver⟩, convert⟩, callStep_tame own receiver plan invoke⟩,
    writeBackStep_tame plan⟩, errorStep_tame plan⟩, resultStep_tame plan⟩

end

/-! ## Entry points -/

/-- An entry point opens blocks by its own header and by its statements. -/
theorem entry_bracing {e : Entry} (h : Stmt.TameAll e.body) : Bracing e.layout := by
  unfold Entry.layout
  simp only [String.append_assoc]
  refine bracing_cons.2 ⟨bracing_head (c := '/') (by simp) (by decide), bracing_cons.2 ⟨?_, by decide⟩⟩
  exact bracing_block (by simp) _ (Stmt.layouts_bracing e.body h)

theorem constructor_tame (own struct : String) : Stmt.TameAll (constructor own struct).body := by
  simp [constructor, Stmt.TameAll, Stmt.Tame]

theorem destructor_tame (struct : String) : Stmt.TameAll (destructor struct).body := by
  simp [destructor, Stmt.TameAll, Stmt.Tame, Expr.calls]

theorem entries_tame {own : String} {surface : Surface} {es : List Entry} (h : entries own surface = some es) :
    ∀ e ∈ es, Stmt.TameAll e.body := by
  intro e he
  rcases entries_cases h he with ⟨s, -, rfl | rfl⟩ | ⟨symbol, receiver, invoke, plan, -, made⟩
  · exact constructor_tame own s.struct.name
  · exact destructor_tame s.struct.name
  · simp only [entryOf, bind, Option.bind_eq_some_iff, pure, Option.some.injEq] at made
    obtain ⟨renamed, -, rfl⟩ := made
    exact body_tame own receiver invoke renamed

end Go

namespace Glue

open Go Layout Text

/-- In the prelude, no other line ends like one that opens a block. -/
theorem prelude_ends : ∀ t ∈ (plainAll preludeLayout).map String.toList, t.getLast? ≠ some '\x7b' := by
  simp only [preludeLayout, handleTable, routines, Routine.layout, Layout.braced, plainAll, Layout.plain,
    String.toList_append, List.flatMap_cons, List.flatMap_nil, List.map_cons, List.map_nil, List.cons_append,
    List.nil_append, List.append_nil]
  repeat rw [String.toList_ofList]
  decide +kernel

/-- The suites of the routines are blocks. -/
theorem routines_blocks :
    ∀ s ∈ (suitesAll (routines.flatMap Routine.layout)).map fun s => (s.header.toList, s.footer.toList),
      (s.1.getLast? = some '\x7b' ∧
        ∃ word ∈ ["func ", "if ", "for "].map String.toList, word.isPrefixOf s.1 = true) ∧ s.2 = ['\x7d'] := by
  simp only [routines, Routine.layout, Layout.braced, suitesAll, Layout.suites, String.toList_append,
    List.flatMap_cons, List.flatMap_nil, List.map_cons, List.map_nil, List.cons_append, List.nil_append,
    List.append_nil]
  repeat rw [String.toList_ofList]
  decide +kernel

theorem prelude_bracing : Bracing preludeLayout := by
  refine ⟨fun t ht opens => prelude_ends t.toList (List.mem_map_of_mem ht) opens.1, ?_⟩
  rw [preludeLayout, suitesAll_append]
  refine List.forall_mem_append.2 ⟨by decide, fun s hs => .inl ?_⟩
  obtain ⟨⟨ends, chars, hc, begins⟩, closed⟩ := routines_blocks _ (List.mem_map_of_mem hs)
  obtain ⟨word, hw, rfl⟩ := List.mem_map.1 hc
  exact ⟨⟨ends, word, hw, begins⟩, String.toList_injective closed⟩

theorem bracing_lines {ts : List String} (h : ∀ t ∈ ts, ¬ OpensBlock t) : Bracing (ts.map .line) := by
  rw [List.map_eq_flatMap]
  exact bracing_flatMap fun t ht => bracing_line.2 (h t ht)

/-- The lines of the imports end with the quote behind a path. -/
theorem importLayout_bracing (g : GlueHead) : Bracing g.importLayout := by
  have quoted : ∀ t : String, ¬ OpensBlock (t ++ "\"") := fun t =>
    not_opensBlock_of_getLast? (c := '"') (getLast?_append t (by decide)) (by decide)
  have plain : Bracing (g.plainImports.map .line) := by
    refine bracing_lines fun t ht => ?_
    obtain ⟨path, -, rfl⟩ := List.mem_map.1 ((Text.mem_sortedSet _ _).1 ht)
    exact quoted _
  have named : Bracing (g.namedImports.map .line) := by
    refine bracing_lines fun t ht => ?_
    obtain ⟨i, -, rfl⟩ := List.mem_map.1 ht
    exact quoted _
  refine bracing_suite.2 ⟨.inr ⟨by simp, rfl⟩, bracing_append.2 ⟨plain, ?_⟩⟩
  split
  · decide
  · exact bracing_cons.2 ⟨by decide, named⟩

theorem header_bracing (g : GlueHead) : Bracing g.header := by
  have title : Bracing [.line ("// Code generated by gobridge from " ++ g.importPath ++ ". DO NOT EDIT.")] :=
    bracing_head (c := '/') (by simp) (by decide)
  unfold GlueHead.header
  refine bracing_append.2 ⟨bracing_append.2 ⟨bracing_cons.2 ⟨title, ?_⟩, importLayout_bracing g⟩, by decide⟩
  decide +kernel

/-- **Every suite of the file of a package is bracketed.** -/
theorem layout_bracing {p : Package} {g : Glue} (h : ofPackage p = some g) : Bracing g.layout := by
  obtain ⟨es, emission, he, emitted, rfl⟩ := Glue.ofPackage_eq_some_iff.1 h
  have entries := bracing_flatMap fun e hm => entry_bracing (entries_tame he e hm)
  have blank : Bracing [.blank] := by decide
  have main : Bracing [.line "func main() \x7b\x7d"] := by decide
  unfold layout
  simp only [bracing_append]
  exact ⟨⟨⟨⟨header_bracing _, prelude_bracing⟩, blank⟩, entries⟩, main⟩

end Glue

end GoGlue
