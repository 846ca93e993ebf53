import GoGlue.Name.Case
import GoGlue.Proofs.Text.Case
import GoGlue.Text.Quoted
import Mathlib.Data.List.Basic
import Mathlib.Tactic.SplitIfs

/-!
# Names before dots

A name qualifies another one where it stands before a dot as a word of its own. Generated code is put together
from parts, and where a part begins or ends with a character that is neither of a name nor a dot, no name runs
from one part into the next: what qualifies in the whole then qualifies in one of the parts.

* `Qualifies.before`, `Qualifies.after`: what qualifies in a part qualifies in the whole.
* `Clean.append`: what qualifies in the whole qualifies in a part.
* `capitalize_undotted`, `quoted_undotted`: texts that stay without a dot.
-/
namespace GoGlue.Text

/-- A character that a name may have: below U+0080 a letter, a digit or an underscore. -/
def isNameChar (c : Char) : Bool := c.isAlphanum || c == '_' || 0x80 ≤ c.toNat

/-- A character between names that does not join them. -/
def isGap (c : Char) : Bool := !isNameChar c && c != '.'

def IsName (s : String) : Prop := ∀ c ∈ s.toList, isNameChar c = true

def Undotted (s : String) : Prop := '.' ∉ s.toList

instance (s : String) : Decidable (IsName s) := List.decidableBAll (isNameChar · = true) s.toList

instance (s : String) : Decidable (Undotted s) := inferInstanceAs (Decidable ('.' ∉ s.toList))

/-- The text begins with a gap. -/
def opens (s : String) : Bool := s.toList.head?.any isGap

/-- The text ends with a gap. -/
def closes (s : String) : Bool := s.toList.getLast?.any isGap

/-- The name qualifies another one in the text: it stands there as a word, before a dot. -/
def Qualifies (name s : String) : Prop :=
  ∃ before after, s.toList = before ++ (name.toList ++ '.' :: after) ∧
    ∀ c ∈ before.getLast?, isNameChar c = false

theorem isGap_name {c : Char} (h : isGap c = true) : isNameChar c = false ∧ c ≠ '.' := by
  simpa [isGap] using h

theorem IsName.undotted {s : String} (h : IsName s) : Undotted s := by
  intro dot
  exact absurd (h '.' dot) (by decide)

theorem undotted_append {a b : String} : Undotted (a ++ b) ↔ Undotted a ∧ Undotted b := by
  simp [Undotted, not_or]

variable {name a b : String}

/-! ## From the parts to the whole -/

theorem qualifies_here (name member : String) : Qualifies name (name ++ "." ++ member) :=
  ⟨[], member.toList, by simp, by simp⟩

theorem Qualifies.before (h : Qualifies name a) (b : String) : Qualifies name (a ++ b) := by
  obtain ⟨before, after, e, gap⟩ := h
  exact ⟨before, after ++ b.toList, by simp [e], gap⟩

/-- A text that ends with a gap does not run into the name. -/
theorem Qualifies.after (h : Qualifies name b) (closed : closes a = true) : Qualifies name (a ++ b) := by
  obtain ⟨before, after, e, gap⟩ := h
  refine ⟨a.toList ++ before, after, by simp [e], fun c hc => ?_⟩
  rw [List.getLast?_append] at hc
  cases last : before.getLast? with
  | some d =>
    rw [last] at hc
    exact gap c (last ▸ hc)
  | none =>
    obtain ⟨d, hd, between⟩ := (Option.any_eq_true _ _).1 closed
    rw [last, Option.none_or, hd] at hc
    cases hc
    exact (isGap_name between).1

theorem closes_append {lit : String} (h : closes lit = true) (a : String) : closes (a ++ lit) = true := by
  obtain ⟨c, hc, gap⟩ := (Option.any_eq_true _ _).1 h
  simp [closes, List.getLast?_append, hc, gap]

/-- A literal between two parts keeps them apart. -/
theorem Qualifies.behind {lit : String} (h : Qualifies name b) (closed : closes lit = true) (a : String) :
    Qualifies name (a ++ lit ++ b) := h.after (closes_append closed a)

theorem qualifies_intercalate {xs : List String} {x : String} (hx : x ∈ xs) (h : Qualifies name x) :
    Qualifies name (", ".intercalate xs) := by
  induction xs with
  | nil => cases hx
  | cons y rest ih =>
    cases rest with
    | nil =>
      rw [List.mem_singleton.1 hx] at h
      simpa using h
    | cons z rest =>
      rw [String.intercalate_cons_of_ne_nil (by simp)]
      rcases List.mem_cons.1 hx with rfl | hx
      · exact (h.before _).before _
      · exact (ih hx).behind (by decide) y

/-! ## From the whole to the parts -/

/-- A name that qualifies does not run over a gap. -/
theorem qualifies_split {cs ds before after : List Char} {c : Char} (gap : isGap c = true) (hn : IsName name)
    (whole : cs ++ c :: ds = before ++ (name.toList ++ '.' :: after)) :
    (∃ rest, cs = before ++ (name.toList ++ '.' :: rest)) ∨
      ∃ start, before = cs ++ c :: start ∧ ds = start ++ (name.toList ++ '.' :: after) := by
  obtain ⟨other, dot⟩ := isGap_name gap
  rcases List.append_eq_append_iff.1 whole with ⟨start, hb, hd⟩ | ⟨rest, hc, hd⟩
  · cases start with
    | nil =>
      -- the gap would begin the name, or be the dot
      have first : c ∈ name.toList ++ ['.'] := by
        have head := congrArg List.head? hd
        cases hl : name.toList <;> simp_all
      rcases List.mem_append.1 first with inside | last
      · exact absurd (hn c inside) (by simp [other])
      · exact absurd (List.mem_singleton.1 last) dot
    | cons d start =>
      obtain ⟨rfl, rfl⟩ := List.cons.inj hd
      exact .inr ⟨start, hb, rfl⟩
  · rcases List.append_eq_append_iff.1 hd with ⟨more, hr, ha⟩ | ⟨more, hname, hd⟩
    · cases more with
      | nil => exact absurd (List.cons.inj ha).1.symm dot
      | cons d more =>
        obtain ⟨rfl, -⟩ := List.cons.inj ha
        exact .inl ⟨more, by rw [hc, hr]⟩
    · cases more with
      | nil => exact absurd (List.cons.inj hd).1 dot
      | cons d more =>
        obtain ⟨rfl, -⟩ := List.cons.inj hd
        exact absurd (hn c (by rw [hname]; simp)) (by simp [other])

/-- All names that qualify others in the text have `P`. -/
def Clean (P : String → Prop) (s : String) : Prop := ∀ name, IsName name → Qualifies name s → P name

variable {P : String → Prop}

theorem Undotted.clean (h : Undotted a) : Clean P a := by
  rintro name - ⟨before, after, e, -⟩
  exact absurd (by simp [e]) h

/-- In a name that is selected, only the one that it is selected from qualifies. -/
theorem clean_selected {package member : String} (hp : P package) (hq : IsName package) (hm : Undotted member) :
    Clean P (package ++ "." ++ member) := by
  rintro name hn ⟨before, after, e, gap⟩
  have whole : package.toList ++ '.' :: member.toList = before ++ (name.toList ++ '.' :: after) := by
    simpa using e
  rw [← List.append_assoc] at whole
  have parts : package.toList = before ++ name.toList := by
    rcases List.append_eq_append_iff.1 whole with ⟨more, hb, hd⟩ | ⟨more, hb, hd⟩
    · cases more with
      | nil => simpa using hb.symm
      | cons d more =>
        obtain ⟨rfl, rest⟩ := List.cons.inj hd
        exact absurd (by simp [rest]) hm
    · cases more with
      | nil => simpa using hb
      | cons d more =>
        obtain ⟨rfl, -⟩ := List.cons.inj hd
        exact absurd (by simp [hb]) hq.undotted
  have none : before = [] := by
    cases last : before.getLast? with
    | none => exact List.getLast?_eq_none_iff.1 last
    | some c =>
      have inside : c ∈ package.toList := parts ▸ List.mem_append_left _ (List.mem_of_getLast? last)
      exact absurd (hq c inside) (by simp [gap c last])
  rw [none, List.nil_append] at parts
  exact String.toList_injective parts ▸ hp

/-- **What qualifies in the whole qualifies in a part**, if there is a gap between the parts. -/
theorem Clean.append (ha : Clean P a) (hb : Clean P b) (gap : closes a = true ∨ opens b = true) :
    Clean P (a ++ b) := by
  rintro name hn ⟨before, after, e, ends⟩
  rw [String.toList_append] at e
  rcases gap with closed | opened
  · obtain ⟨c, hc, gap⟩ := (Option.any_eq_true _ _).1 closed
    obtain ⟨cs, last⟩ := List.getLast?_eq_some_iff.1 hc
    rw [last, List.append_assoc, List.singleton_append] at e
    rcases qualifies_split gap hn e with ⟨rest, he⟩ | ⟨start, he, hd⟩
    · exact ha name hn ⟨before, rest ++ [c], by simp [last, he], ends⟩
    · refine hb name hn ⟨start, after, hd, fun x hx => ends x ?_⟩
      have last : start.getLast? = some x := hx
      rw [he, List.getLast?_append_cons, List.getLast?_cons, last]
      rfl
  · obtain ⟨c, hc, gap⟩ := (Option.any_eq_true _ _).1 opened
    obtain ⟨ds, first⟩ := List.head?_eq_some_iff.1 hc
    rw [first] at e
    rcases qualifies_split gap hn e with ⟨rest, he⟩ | ⟨start, he, hd⟩
    · exact ha name hn ⟨before, rest, he, ends⟩
    · refine hb name hn ⟨c :: start, after, by simp [first, hd], fun x hx => ends x ?_⟩
      have last : (c :: start).getLast? = some x := hx
      rw [he, List.getLast?_append, last]
      rfl

/-- A literal without a dot before the rest. -/
theorem Clean.behind {lit : String} (h : Clean P b) (hl : closes lit = true ∧ Undotted lit) :
    Clean P (lit ++ b) := hl.2.clean.append h (.inl hl.1)

/-- A literal without a dot after the rest. -/
theorem Clean.before {lit : String} (h : Clean P a) (hl : opens lit = true ∧ Undotted lit) :
    Clean P (a ++ lit) := h.append hl.2.clean (.inr hl.1)

/-- A literal without a dot between two parts. -/
theorem Clean.around {lit : String} (ha : Clean P a) (hb : Clean P b)
    (h : opens lit = true ∧ closes lit = true ∧ Undotted lit) : Clean P (a ++ lit ++ b) :=
  (ha.append h.2.2.clean (.inr h.1)).append hb (.inl (closes_append h.2.1 a))

theorem clean_intercalate {xs : List String} (h : ∀ x ∈ xs, Clean P x) : Clean P (", ".intercalate xs) := by
  induction xs with
  | nil => exact Undotted.clean (by decide)
  | cons y rest ih =>
    obtain ⟨first, others⟩ := List.forall_mem_cons.1 h
    cases rest with
    | nil => simpa using first
    | cons z rest =>
      rw [String.intercalate_cons_of_ne_nil (by simp)]
      exact first.around (ih others) (by decide)

/-! ## Texts without a dot -/

theorem number_undotted (n : Nat) : Undotted n.repr := by
  intro dot
  have digit := Nat.isDigit_of_mem_toDigits (by decide) (by decide) (Nat.toList_repr ▸ dot)
  exact absurd digit (by decide)

/-- The digits of a number, in any base. -/
theorem mem_toDigits {b n : Nat} {c : Char} (hb : 1 < b) (h : c ∈ Nat.toDigits b n) :
    ∃ k, c = Nat.digitChar k := by
  induction n using Nat.strongRecOn with
  | ind n ih =>
    rw [Nat.toDigits_eq_if hb] at h
    split at h
    · exact ⟨n, List.mem_singleton.1 h⟩
    · next big =>
      rcases List.mem_append.1 h with h | h
      · exact ih (n / b) (Nat.div_lt_self (by omega) hb) h
      · exact ⟨n % b, List.mem_singleton.1 h⟩

/-- Quoting adds no dot. -/
theorem quoted_undotted (h : Undotted a) : Undotted (quoted a) := by
  have escaped : ∀ c, c ≠ '.' → '.' ∉ escape c := by
    intro c hc
    unfold escape
    split_ifs <;> try decide
    · intro dot
      have digit : '.' ∈ Nat.toDigits 16 c.toNat := by simpa using dot
      obtain ⟨k, hk⟩ := mem_toDigits (by decide) digit
      exact Nat.digitChar_ne '.' (by decide) hk.symm
    · simpa using hc.symm
  intro dot
  have inside : '.' ∈ a.toList.flatMap escape := by simpa [quoted] using dot
  obtain ⟨c, hc, dot⟩ := List.mem_flatMap.1 inside
  refine escaped c ?_ dot
  rintro rfl
  exact h hc

/-- The upper case of a character other than a dot has none. -/
theorem upper_undotted {c : Char} (h : c ≠ '.') : '.' ∉ upper c := by
  have ascii : ∀ n < 128, Char.ofNat n ≠ '.' → (Char.ofNat n).toUpper ≠ '.' := by decide
  unfold upper
  split
  · next low =>
    have here := ascii c.toNat low
    rw [Char.ofNat_toNat] at here
    simpa using (here h).symm
  · exact notMem_mapCase (by decide) (by decide) (by decide +kernel) h

/-- Capitalizing adds no dot. -/
theorem capitalize_undotted (h : Undotted a) : Undotted (capitalize a) := by
  unfold capitalize
  split
  · decide
  · next c rest chars =>
    rw [Undotted, chars, List.mem_cons, not_or] at h
    rw [Undotted, String.toList_ofList, List.mem_append, not_or]
    exact ⟨upper_undotted (Ne.symm h.1), h.2⟩

end GoGlue.Text
