import GoGlue.Proofs.Decl.Productions
import GoGlue.Proofs.GoType.WellFormed

/-!
# Array lengths and integer literals

The length of an array type is read from a single number token of decimal digits. In Go a nought before other
digits announces the octal base, with a letter or without one, so such a token is an octal literal or none at
all, and its digits weigh less than they are taken for.

* `intLiteral?`: the value of an integer literal of Go.
* `arrayLength_eq_some_iff`: the tokens that give a length.
* `octal_eq_decimal_iff`: octal digits have their decimal value exactly below eight.
* `length_literal`: a length is the value of its literal exactly if no nought leads, or it is below eight.
* `length_misread`: `[010]` is read as a length of ten.
-/
namespace GoGlue

/-! ## Integer literals -/

/-- The value of a digit in a base up to sixteen. -/
def digitIn? (base : Nat) (c : Char) : Option Nat :=
  let value :=
    if c.isDigit then c.toNat - '0'.toNat
    else if 'a' ≤ c ∧ c ≤ 'f' then c.toNat - 'a'.toNat + 10
    else if 'A' ≤ c ∧ c ≤ 'F' then c.toNat - 'A'.toNat + 10
    else base
  if value < base then some value else none

/-- The value of digits that follow others of value `n`. One underscore may stand before each of them. -/
def digitsAfter (base n : Nat) : List Char → Option Nat
  | [] => some n
  | '_' :: c :: rest => do digitsAfter base (base * n + (← digitIn? base c)) rest
  | c :: rest => do digitsAfter base (base * n + (← digitIn? base c)) rest

/-- The base that a letter behind a nought announces. -/
def announcedBase? (c : Char) : Option Nat :=
  if c = 'b' ∨ c = 'B' then some 2
  else if c = 'o' ∨ c = 'O' then some 8
  else if c = 'x' ∨ c = 'X' then some 16
  else none

/-- The value of an integer literal of Go. A nought in front announces another base than ten. -/
def intLiteral? (text : String) : Option Nat :=
  match text.toList with
  | [] => none
  | ['0'] => some 0
  | '0' :: c :: rest =>
    match announcedBase? c with
    | some base => if rest = [] then none else digitsAfter base 0 rest
    | none => digitsAfter 8 0 (c :: rest)
  | c :: rest => do digitsAfter 10 (← digitIn? 10 c) rest

theorem digitIn?_digit {c : Char} (h : c.isDigit = true) (base : Nat) :
    digitIn? base c
      = if c.toNat - '0'.toNat < base then some (c.toNat - '0'.toNat) else none := by
  simp only [digitIn?, h, if_true]

theorem digitValue_lt {c : Char} (h : c.isDigit = true) : c.toNat - '0'.toNat < 10 := by
  have nine : c.toNat ≤ 57 := (Char.isDigit_iff_toNat.1 h).2
  have zero : '0'.toNat = 48 := rfl
  omega

variable {c : Char} {cs : List Char} {n m v : Nat}

theorem digitsAfter_cons (h : c.isDigit = true) (base n : Nat) (cs : List Char) :
    digitsAfter base n (c :: cs) = if c.toNat - '0'.toNat < base then
      digitsAfter base (base * n + (c.toNat - '0'.toNat)) cs else none := by
  have underscore : c ≠ '_' := by
    rintro rfl
    exact absurd h (by decide)
  rw [digitsAfter, digitIn?_digit h]
  · split <;> rfl
  · rintro _ _ rfl
    exact absurd rfl underscore

/-- Decimal digits have the value that they are taken for. -/
theorem digitsAfter_ten (h : ∀ c ∈ cs, c.isDigit = true) (n : Nat) :
    digitsAfter 10 n cs = some (Nat.ofDigitChars 10 cs n) := by
  induction cs generalizing n with
  | nil => rfl
  | cons c rest ih =>
    obtain ⟨digit, digits⟩ := List.forall_mem_cons.1 h
    rw [digitsAfter_cons digit, if_pos (digitValue_lt digit), ih digits, Nat.ofDigitChars_cons]

theorem le_ofDigitChars (cs : List Char) (n : Nat) : n ≤ Nat.ofDigitChars 10 cs n := by
  rw [Nat.ofDigitChars_eq_ofDigitChars_zero]
  exact Nat.le_trans (Nat.le_mul_of_pos_left n (Nat.pow_pos (by decide))) (Nat.le_add_right _ _)

/-- Once the octal value is behind the decimal one, it stays behind. -/
theorem octal_lt_decimal (h : ∀ c ∈ cs, c.isDigit = true) (behind : n < m)
    (hv : digitsAfter 8 n cs = some v) : v < Nat.ofDigitChars 10 cs m := by
  induction cs generalizing n m with
  | nil =>
    cases hv
    exact behind
  | cons c rest ih =>
    obtain ⟨digit, digits⟩ := List.forall_mem_cons.1 h
    rw [digitsAfter_cons digit] at hv
    split at hv
    · rw [Nat.ofDigitChars_cons]
      exact ih digits (by omega) hv
    · cases hv

/-- **Octal digits have their decimal value exactly below eight**, where no digit but the last one counts. -/
theorem octal_eq_decimal_iff (h : ∀ c ∈ cs, c.isDigit = true) :
    digitsAfter 8 0 cs = some (Nat.ofDigitChars 10 cs 0) ↔ Nat.ofDigitChars 10 cs 0 < 8 := by
  induction cs with
  | nil => simp [digitsAfter]
  | cons c rest ih =>
    obtain ⟨digit, digits⟩ := List.forall_mem_cons.1 h
    rw [digitsAfter_cons digit, Nat.ofDigitChars_cons, Nat.mul_zero, Nat.zero_add]
    generalize c.toNat - '0'.toNat = value
    rcases Nat.eq_zero_or_pos value with rfl | counts
    · exact ih digits
    · cases rest with
      | nil => simp [digitsAfter]
      | cons d rest =>
        -- the first digit now stands for tens, or for eights
        obtain ⟨digit, digits⟩ := List.forall_mem_cons.1 digits
        have tens := le_ofDigitChars rest (10 * value + (d.toNat - '0'.toNat))
        rw [Nat.ofDigitChars_cons]
        refine iff_of_false (fun same => ?_) (by omega)
        split at same
        · rw [digitsAfter_cons digit] at same
          split at same
          · exact Nat.lt_irrefl _ (octal_lt_decimal digits (by omega) same)
          · cases same
        · cases same

/-! ## Lengths -/

/-- The text is made of decimal digits of the given value. -/
structure Decimal (text : String) (n : Nat) : Prop where
  nonempty : text.toList ≠ []
  digits : ∀ c ∈ text.toList, c.isDigit = true
  value : Nat.ofDigitChars 10 text.toList 0 = n

theorem announcedBase?_digit (h : c.isDigit = true) : announcedBase? c = none := by
  have other : ∀ l, l.isDigit = false → c ≠ l := by
    rintro l letter rfl
    simp [h] at letter
  simp (disch := decide) [announcedBase?, other]

/-- **When decimal digits are an integer literal of their value.** -/
theorem Decimal.literal_iff {text : String} (h : Decimal text n) :
    intLiteral? text = some n ↔ text.toList.head? ≠ some '0' ∨ n < 8 := by
  obtain ⟨nonempty, digits, rfl⟩ := h
  unfold intLiteral?
  generalize text.toList = cs at nonempty digits
  cases cs with
  | nil => exact absurd rfl nonempty
  | cons c rest =>
    obtain ⟨digit, others⟩ := List.forall_mem_cons.1 digits
    by_cases nought : c = '0'
    · subst nought
      cases rest with
      | nil => decide
      | cons d rest =>
        have octal := octal_eq_decimal_iff others
        simp only [announcedBase?_digit (others d List.mem_cons_self)]
        simpa [Nat.ofDigitChars_cons] using octal
    · have value : (digitIn? 10 c).bind (digitsAfter 10 · rest)
          = some (Nat.ofDigitChars 10 (c :: rest) 0) := by
        rw [digitIn?_digit digit, if_pos (digitValue_lt digit), Option.bind_some, digitsAfter_ten others,
          Nat.ofDigitChars_cons, Nat.mul_zero, Nat.zero_add]
      split
      · next e => cases e
      · next e => exact absurd (List.cons.inj e).1 nought
      · next e => exact absurd (List.cons.inj e).1 nought
      · next e =>
        obtain ⟨rfl, rfl⟩ := List.cons.inj e
        exact iff_of_true value (.inl (by simpa using nought))

namespace Parse

variable {stop : Position} {ts r : Tokens} {n : UInt64}

theorem literalLength_eq_some_iff {text : String} {n : UInt64} :
    literalLength text = some n ↔ Decimal text n.toNat := by
  have value : text.toList.foldl (fun m c => m * 10 + (c.toNat - 0x30)) 0 = Nat.ofDigitChars 10 text.toList 0 := by
    rw [Nat.ofDigitChars_eq_foldl]
    simp only [Nat.mul_comm 10]
    rfl
  unfold literalLength
  simp only [value]
  constructor
  · intro h
    split at h
    · next digits =>
      split at h
      · next small =>
        cases h
        exact ⟨digits.1, List.all_eq_true.1 digits.2, UInt64.toNat_ofNatLT.symm⟩
      · cases h
    · cases h
  · rintro ⟨nonempty, digits, same⟩
    rw [if_pos ⟨nonempty, List.all_eq_true.2 digits⟩, dif_pos (same ▸ n.toNat_lt_size)]
    simp [same]

/-- **The tokens that give a length**: a number of decimal digits, and nothing else up to the bracket. -/
theorem arrayLength_eq_some_iff : (arrayLength stop ts).value = .ok (some n, r) ↔
    ∃ text p q, ts = ⟨.number text, p⟩ :: ⟨.symbol .rbrack, q⟩ :: r ∧ Decimal text n.toNat := by
  constructor
  · intro h
    unfold arrayLength at h
    split at h
    · next text p q rest =>
      rw [Reply.value_ok] at h
      obtain ⟨length, rfl⟩ := Prod.mk.inj (Except.ok.inj h)
      exact ⟨text, p, q, rfl, literalLength_eq_some_iff.1 length⟩
    · split at h <;> cases h
  · rintro ⟨text, p, q, rfl, decimal⟩
    rw [arrayLength, Reply.value_ok, literalLength_eq_some_iff.2 decimal]

/-- **What length an array is given**: that of a single number of decimal digits, read as a decimal one. It is
the value of the literal unless a nought leads and the length is eight or more. -/
theorem length_literal (stop : Position) (ts r : Tokens) (n : UInt64) :
    (arrayLength stop ts).value = .ok (some n, r) ↔
      ∃ text p q, ts = ⟨.number text, p⟩ :: ⟨.symbol .rbrack, q⟩ :: r ∧ Decimal text n.toNat ∧
        (intLiteral? text = some n.toNat ↔ text.toList.head? ≠ some '0' ∨ n < 8) := by
  rw [arrayLength_eq_some_iff]
  constructor
  · rintro ⟨text, p, q, rfl, decimal⟩
    exact ⟨text, p, q, rfl, decimal, decimal.literal_iff⟩
  · rintro ⟨text, p, q, rfl, decimal, -⟩
    exact ⟨text, p, q, rfl, decimal⟩

example : intLiteral? "1_000" = some 1000 ∧ intLiteral? "0x_1F" = some 31 ∧ intLiteral? "0b101" = some 5 ∧
    intLiteral? "0_7" = some 7 ∧ intLiteral? "08" = none ∧ intLiteral? "1__0" = none := by decide

/-- **A length may differ from the value of its literal**: `010` is eight in Go, and is read as ten. -/
theorem length_misread :
    ∃ s p q r, Source.read "package geo\n\ntype Grid [010]int\n" = .ok s ∧
      (s.tokens.take 6).map (·.token.text) = ["package", "geo", ";", "type", "Grid", "["] ∧
      s.tokens.drop 6 = ⟨.number "010", p⟩ :: ⟨.symbol .rbrack, q⟩ :: r ∧
      (arrayLength s.stop (s.tokens.drop 6)).value = .ok (some 10, r) ∧
      intLiteral? "010" = some 8 := by
  have seen : (Source.read "package geo\n\ntype Grid [010]int\n").toOption.map
      (fun s => ((s.tokens.take 6).map (·.token.text), s.tokens.drop 6))
      = some (["package", "geo", ";", "type", "Grid", "["], [⟨.number "010", ⟨3, 12⟩⟩,
        ⟨.symbol .rbrack, ⟨3, 15⟩⟩, ⟨.ident "int", ⟨3, 16⟩⟩, ⟨.symbol .semi, ⟨3, 19⟩⟩]) := by decide +kernel
  obtain ⟨s, hs, shown⟩ := Option.map_eq_some_iff.1 seen
  obtain ⟨before, after⟩ := Prod.mk.inj shown
  have decimal : Decimal "010" 10 := ⟨by decide, List.all_eq_true.1 (by decide), by decide⟩
  refine ⟨s, _, _, _, ok_of_toOption hs, before, after, ?_, by decide⟩
  rw [after, arrayLength_eq_some_iff]
  exact ⟨"010", _, _, rfl, decimal⟩

end Parse

end GoGlue
