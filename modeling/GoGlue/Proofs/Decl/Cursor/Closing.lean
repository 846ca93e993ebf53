import GoGlue.Proofs.Decl.Cursor.Brackets
import GoGlue.Proofs.Decl.Skipped
import Mathlib.Data.Nat.Find

/-!
# Where a group ends

The end of a bracketed group is looked for in two ways. A cursor that takes the group moves behind its closing
bracket, with a counter that is cut off at zero; the index of that bracket is looked up while the cursor stands
still, with a counter that gives up below zero. From an opening bracket on neither comes to that: both counters are
the depth, for which the three kinds of brackets count alike, and both ways end where it first is zero again.

* `closeOffset_eq_some_iff`: inside of a group, it is closed where the depth first returns to zero.
* `group_returnsAt`, `group_neverReturns`: the same with the bracket that opens the group.
* `run_skipGroup_eq`: the cursor is moved behind the bracket that is looked up.
* `matchers_agree`: both ways lead to the same end, or to none.
-/
namespace GoGlue

/-- What a token adds to the depth. -/
def Token.weight (t : Token) : Int := if t.isOpening then 1 else if t.isClosing then -1 else 0

namespace Token

variable {t : Token}

theorem weight_opening (opening : t.isOpening = true) : t.weight = 1 := if_pos opening

theorem weight_closing (opening : ¬ t.isOpening = true) (closing : t.isClosing = true) : t.weight = -1 := by
  rw [weight, if_neg opening, if_pos closing]

theorem weight_plain (opening : ¬ t.isOpening = true) (closing : ¬ t.isClosing = true) : t.weight = 0 := by
  rw [weight, if_neg opening, if_neg closing]

end Token

namespace Parse

variable {level : Int} {t : Located} {ts r : Tokens} {n : Nat}

/-! ## Depth -/

/-- How many more brackets of all three kinds are opened than closed. -/
def bracketDepth : Tokens → Int
  | [] => 0
  | t :: r => t.token.weight + bracketDepth r

@[simp] theorem bracketDepth_nil : bracketDepth [] = 0 := rfl

@[simp] theorem bracketDepth_cons (t : Located) (r : Tokens) :
    bracketDepth (t :: r) = t.token.weight + bracketDepth r := rfl

/-- Counted on from `level`, the depth is zero behind the token at `n`, and behind none before it. -/
def ReturnsAt (level : Int) (ts : Tokens) (n : Nat) : Prop :=
  n < ts.length ∧ level + bracketDepth (ts.take (n + 1)) = 0 ∧
    ∀ m < n, level + bracketDepth (ts.take (m + 1)) ≠ 0

/-- Counted on from `level`, the depth is zero behind no token up to the end of the source. -/
def NeverReturns (level : Int) (ts : Tokens) : Prop :=
  ∀ n < ts.length, level + bracketDepth (ts.take (n + 1)) ≠ 0

theorem returnsAt_zero : ReturnsAt level (t :: r) 0 ↔ level + t.token.weight = 0 := by
  simp [ReturnsAt]

theorem returnsAt_succ : ReturnsAt level (t :: r) (n + 1) ↔
    level + t.token.weight ≠ 0 ∧ ReturnsAt (level + t.token.weight) r n := by
  simp only [ReturnsAt, List.length_cons, Nat.add_lt_add_iff_right, List.take_succ_cons, bracketDepth_cons,
    Int.add_assoc, Nat.forall_lt_succ_left, List.take_zero, bracketDepth_nil, Int.add_zero]
  exact ⟨fun ⟨inside, zero, first, before⟩ => ⟨first, inside, zero, before⟩,
    fun ⟨first, inside, zero, before⟩ => ⟨inside, zero, first, before⟩⟩

/-- The depth returns to zero at a first token, or never. -/
theorem neverReturns_iff : NeverReturns level ts ↔ ∀ n, ¬ ReturnsAt level ts n := by
  refine ⟨fun h n at_n => h n at_n.1 at_n.2.1, fun h n inside zero => ?_⟩
  have some : ∃ n < ts.length, level + bracketDepth (ts.take (n + 1)) = 0 := ⟨n, inside, zero⟩
  obtain ⟨inside, zero⟩ := Nat.find_spec some
  exact h (Nat.find some) ⟨inside, zero, fun m hm zero => Nat.find_min some hm ⟨Nat.lt_trans hm inside, zero⟩⟩

/-! ## The closing bracket -/

/-- A token that leaves groups open is passed over. -/
theorem returnsAt_passed {o : Option Nat} (leaves : level + t.token.weight ≠ 0)
    (ih : ∀ n, o = some n ↔ ReturnsAt (level + t.token.weight) r n) (n : Nat) :
    o.map (· + 1) = some n ↔ ReturnsAt level (t :: r) n := by
  cases n with
  | zero => simp [returnsAt_zero, leaves]
  | succ n => simp [returnsAt_succ, leaves, ← ih]

/-- Inside of `depth` further groups, a group is closed where the depth first returns to zero. -/
theorem closeOffset_eq_some_iff (depth : Nat) (ts : Tokens) (n : Nat) :
    closeOffset depth ts = some n ↔ ReturnsAt (depth + 1) ts n := by
  -- The bracket that opens the outermost group is not among the tokens, so the level is one above the counter.
  fun_induction closeOffset depth ts generalizing n with
  | case1 => simp [ReturnsAt]
  | case2 depth t r opening ih =>
    have weight := Token.weight_opening opening
    refine returnsAt_passed (by omega) (fun m => ?_) n
    rw [ih m, weight, Int.natCast_succ]
  | case3 t r opening closing =>
    have weight := Token.weight_closing opening closing
    cases n with
    | zero => simp [returnsAt_zero, weight]
    | succ n => simp [returnsAt_succ, weight]
  | case4 t r opening closing depth ih =>
    have weight := Token.weight_closing opening closing
    refine returnsAt_passed (by omega) (fun m => ?_) n
    rw [ih m, weight, Int.natCast_succ, Int.add_neg_cancel_right]
  | case5 depth t r opening closing ih =>
    have weight := Token.weight_plain opening closing
    refine returnsAt_passed (by omega) (fun m => ?_) n
    rw [ih m, weight, Int.add_zero]

/-- From an opening bracket on, the depth returns to zero at the bracket that closes the group. -/
theorem group_returnsAt (opening : t.token.isOpening = true) (r : Tokens) (n : Nat) :
    (closeOffset 0 r).map (· + 1) = some n ↔ ReturnsAt 0 (t :: r) n := by
  have weight := Token.weight_opening opening
  refine returnsAt_passed (by omega) (fun m => ?_) n
  rw [closeOffset_eq_some_iff, weight, Int.natCast_zero]

theorem group_neverReturns (opening : t.token.isOpening = true) (r : Tokens) :
    closeOffset 0 r = none ↔ NeverReturns 0 (t :: r) := by
  rw [neverReturns_iff, ← Option.map_eq_none_iff (f := (· + 1)), Option.eq_none_iff_forall_ne_some]
  exact forall_congr' fun n => not_congr (group_returnsAt opening r n)

end Parse

namespace Cursor

open Reply

variable {src : Source} {i : Nat} {t : Located}

/-- The index of the bracket that closes the one at `i`. -/
def closingIndex (ms : List Mark) (i : Nat) : Option Nat := matching 0 i (ms.drop i)

theorem place_drop (h : i ≤ src.tokens.length) : place src (src.tokens.drop i) = i := by
  rw [place, List.length_drop]
  omega

theorem drop_tokens (stands : src.tokens[i]? = some t) :
    src.tokens.drop i = t :: src.tokens.drop (i + 1) ∧ i < src.tokens.length := by
  obtain ⟨inside, rfl⟩ := List.getElem?_eq_some_iff.1 stands
  exact ⟨List.drop_eq_getElem_cons inside, inside⟩

theorem closingIndex_eq (stands : src.tokens[i]? = some t) (opening : t.token.isOpening = true) :
    closingIndex src.marks i = (Parse.closeOffset 0 (src.tokens.drop (i + 1))).map (· + (i + 1)) := by
  obtain ⟨split, inside⟩ := drop_tokens stands
  have found := matching_opening opening (split ▸ List.drop_suffix i src.tokens)
  rwa [← split, place_drop (Nat.le_of_lt inside), place_drop inside] at found

/-- A group is taken as the parser takes it. -/
theorem skipGroup_eq (stands : src.tokens[i]? = some t) (opening : t.token.isOpening = true) :
    skipGroup src.marks i = outcome src (Parse.skipGroup src.stop (src.tokens.drop i)).value := by
  obtain ⟨split, inside⟩ := drop_tokens stands
  have taken := @follows_skipGroup src t opening (src.tokens.drop (i + 1)) (split ▸ List.drop_suffix i src.tokens)
  rwa [← split, place_drop (Nat.le_of_lt inside)] at taken

/-- **The cursor is moved behind the bracket that is looked up.** -/
theorem run_skipGroup_eq (stands : src.tokens[i]? = some t) (opening : t.token.isOpening = true) :
    skipGroup src.marks i = match closingIndex src.marks i with
      | some close => .value () (close + 1)
      | none => .error ⟨t.pos, .unclosedDelimiter⟩ := by
  rw [skipGroup_eq stands opening, closingIndex_eq stands opening, (drop_tokens stands).1, Parse.skipGroup_value,
    Parse.groupEnd_eq]
  cases found : Parse.closeOffset 0 (src.tokens.drop (i + 1)) with
  | none => rfl
  | some n =>
    have inside := closeOffset_lt found
    rw [List.length_drop] at inside
    show Outcome.value () (place src ((src.tokens.drop (i + 1)).drop (n + 1))) = .value () (n + (i + 1) + 1)
    rw [List.drop_drop, place_drop (by omega)]
    congr 1
    omega

/-- The bracket at `i` is closed where the depth, counted from it on, first returns to zero. -/
theorem closingIndex_eq_some_iff (stands : src.tokens[i]? = some t) (opening : t.token.isOpening = true) (n : Nat) :
    closingIndex src.marks i = some (i + n) ↔ Parse.ReturnsAt 0 (src.tokens.drop i) n := by
  rw [closingIndex_eq stands opening, (drop_tokens stands).1, ← Parse.group_returnsAt opening]
  cases Parse.closeOffset 0 (src.tokens.drop (i + 1)) with
  | none => simp
  | some m =>
    simp only [Option.map_some, Option.some.injEq]
    omega

theorem closingIndex_eq_none_iff (stands : src.tokens[i]? = some t) (opening : t.token.isOpening = true) :
    closingIndex src.marks i = none ↔ Parse.NeverReturns 0 (src.tokens.drop i) := by
  rw [closingIndex_eq stands opening, (drop_tokens stands).1, ← Parse.group_neverReturns opening,
    Option.map_eq_none_iff]

/-- **The two ways to the end of a group agree**, for any tokens with the end of the source behind them and any
opening bracket among them. The bracket that closes it is found exactly if the group can be taken, which leaves
the cursor behind that bracket, where the depth has first returned to zero. Neither is possible exactly if the
source ends before that. The parser, on the tokens that are left, looks up and takes the same. -/
theorem matchers_agree (stands : src.tokens[i]? = some t) (opening : t.token.isOpening = true) :
    ((∃ close, closingIndex src.marks i = some close) ↔ ∃ next, skipGroup src.marks i = .value () next) ∧
      (∀ close, closingIndex src.marks i = some close → skipGroup src.marks i = .value () (close + 1)) ∧
      (∀ n, closingIndex src.marks i = some (i + n) ↔ Parse.ReturnsAt 0 (src.tokens.drop i) n) ∧
      (closingIndex src.marks i = none ↔ Parse.NeverReturns 0 (src.tokens.drop i)) ∧
      (skipGroup src.marks i = .error ⟨t.pos, .unclosedDelimiter⟩
        ↔ Parse.NeverReturns 0 (src.tokens.drop i)) ∧
      closingIndex src.marks i = (Parse.closeOffset 0 (src.tokens.drop (i + 1))).map (· + (i + 1)) ∧
      skipGroup src.marks i = outcome src (Parse.skipGroup src.stop (src.tokens.drop i)).value := by
  have taken := run_skipGroup_eq stands opening
  have missing := closingIndex_eq_none_iff stands opening
  refine ⟨?_, fun close found => ?_, closingIndex_eq_some_iff stands opening, missing, ?_,
    closingIndex_eq stands opening, skipGroup_eq stands opening⟩
  · rw [taken]
    cases closingIndex src.marks i <;> simp
  · rw [taken, found]
  · rw [taken, ← missing]
    cases closingIndex src.marks i <;> simp

/-- An opening brace that nothing closes, and behind it a group in which a brace closes a square bracket. -/
def mixedBrackets : Source where
  tokens := [⟨.symbol .lbrace, ⟨1, 1⟩⟩, ⟨.symbol .lparen, ⟨1, 2⟩⟩, ⟨.symbol .lbrack, ⟨1, 3⟩⟩,
    ⟨.symbol .rbrace, ⟨1, 4⟩⟩, ⟨.ident "x", ⟨1, 5⟩⟩, ⟨.symbol .rparen, ⟨1, 6⟩⟩]
  comments := []
  stop := ⟨1, 7⟩

theorem matchers_agree_mixed :
    (mixedBrackets.tokens[1]? = some ⟨.symbol .lparen, ⟨1, 2⟩⟩ ∧ (Token.symbol .lparen).isOpening = true ∧
      closingIndex mixedBrackets.marks 1 = some 5 ∧ skipGroup mixedBrackets.marks 1 = .value () 6) ∧
    (mixedBrackets.tokens[0]? = some ⟨.symbol .lbrace, ⟨1, 1⟩⟩ ∧ (Token.symbol .lbrace).isOpening = true ∧
      closingIndex mixedBrackets.marks 0 = none ∧
      skipGroup mixedBrackets.marks 0 = .error ⟨⟨1, 1⟩, .unclosedDelimiter⟩) := by
  have closed : closingIndex mixedBrackets.marks 1 = some 5 := rfl
  have unclosed : closingIndex mixedBrackets.marks 0 = none := rfl
  obtain ⟨-, taken, -⟩ := @matchers_agree mixedBrackets 1 _ rfl rfl
  obtain ⟨-, -, -, missing, refused, -⟩ := @matchers_agree mixedBrackets 0 _ rfl rfl
  exact ⟨⟨rfl, rfl, closed, taken 5 closed⟩, ⟨rfl, rfl, unclosed, refused.2 (missing.1 unclosed)⟩⟩

end Cursor

end GoGlue
