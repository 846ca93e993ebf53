import GoGlue.Proofs.Decl.Cursor.Grammar
import GoGlue.Proofs.Decl.Cursor.Steps

/-!
# Brackets under a cursor

Loops that count brackets go through the tokens one by one, so what they find is found by recursion on the
tokens as well. A counter that starts with the bracket that was taken is one more than the number of groups that
are open inside it, and never reaches zero before the loop is left.

* `follows_skipGroup`, `follows_arrayLength`, `follows_interfaceBody`: groups that are skipped.
* `run_bracketsStartType`: the closing bracket is looked up without moving the cursor.
-/
namespace GoGlue.Cursor

open Reply

variable {α : Type} {src : Source} {ts r : Tokens}

/-! ## Groups -/

/-- What comes of counting brackets: the place behind a group, or an error. -/
def behindGroup (src : Source) (start : Position) : Option Tokens → Outcome Unit
  | some r => .value () (place src r)
  | none => .error ⟨start, .unclosedDelimiter⟩

theorem run_groupLoop (start : Position) (hs : ts <:+ src.tokens) (depth : Nat) :
    loop (groupRound start) (depth + 1) src.marks (place src ts)
      = behindGroup src start (Parse.groupEnd depth ts) := by
  induction ts generalizing depth with
  | nil => exact loop_fails rfl (follows_error _ [])
  | cons t r ih =>
    have inner := (List.suffix_cons t r).trans hs
    rw [Parse.groupEnd.eq_def]
    dsimp only
    by_cases opening : t.token.isOpening
    · rw [if_pos opening, loop_takes (depth + 2) rfl (by simp [opening]) hs, ih inner]
    · rw [if_neg opening]
      by_cases closing : t.token.isClosing
      · rw [if_pos closing]
        cases depth with
        | zero => exact loop_takesLast () rfl (by simp [opening, closing]) hs
        | succ d => rw [loop_takes (d + 1) rfl (by simp [opening, closing]) hs, ih inner]
      · rw [if_neg closing, loop_takes (depth + 1) rfl (by simp [opening, closing]) hs, ih inner]

theorem follows_skipGroup {t : Located} (opening : t.token.isOpening = true) (r : Tokens) :
    Follows src skipGroup (Parse.skipGroup src.stop (t :: r)) := by
  refine Follows.current fun hs => ?_
  show loop (groupRound t.pos) 0 _ _ = _
  rw [loop_takes 1 rfl (by simp [opening]) hs, run_groupLoop t.pos ((List.suffix_cons t r).trans hs),
    Parse.skipGroup_value]
  cases Parse.groupEnd 0 r <;> rfl

/-! ## Array lengths -/

theorem run_lengthLoop (hs : ts <:+ src.tokens) (depth : Nat) :
    loop lengthRound depth src.marks (place src ts) = match Parse.lengthEnd depth ts with
      | some r => .value none (place src r)
      | none => .error ⟨src.stop, .unterminatedLength⟩ := by
  induction ts generalizing depth with
  | nil => exact loop_fails rfl (follows_fail .unterminatedLength [])
  | cons t r ih =>
    have inner := (List.suffix_cons t r).trans hs
    rw [Parse.lengthEnd]
    by_cases opening : t.token.isOpening
    · rw [if_pos opening, loop_takes (depth + 1) rfl (by simp [opening]) hs, ih inner]
    · rw [if_neg opening]
      by_cases ended : depth = 0 ∧ t.token = .symbol .rbrack
      · rw [if_pos ended]
        exact loop_takesLast none rfl (by simp [ended, Token.isOpening]) hs
      · rw [if_neg ended]
        by_cases closing : t.token.isClosing
        · rw [if_pos closing, loop_takes (depth - 1) rfl (by simp [opening, ended, closing]) hs, ih inner]
        · rw [if_neg closing, loop_takes depth rfl (by simp [opening, ended, closing]) hs, ih inner]

theorem value_arrayLength (stop : Position)
    (other : ∀ text p q r, ts ≠ ⟨.number text, p⟩ :: ⟨.symbol .rbrack, q⟩ :: r) :
    (Parse.arrayLength stop ts).value
      = (Parse.lengthEnd 0 ts).elim (.error ⟨stop, .unterminatedLength⟩) fun r => .ok (none, r) := by
  unfold Parse.arrayLength
  split
  · exact absurd rfl (other _ _ _ _)
  · split <;> simp_all [value]

theorem follows_arrayLength (ts : Tokens) : Follows src arrayLength (Parse.arrayLength src.stop ts) := by
  refine Follows.current (Follows.ahead ?_)
  split
  · next text first second =>
    rcases ts with - | ⟨⟨t, p⟩, - | ⟨⟨u, q⟩, r⟩⟩
    · cases first
    · cases second
    · cases first
      cases second
      refine Follows.congr (x := later ⟨.number text, p⟩ (later ⟨.symbol .rbrack, q⟩ (done _ r))) ?_ rfl
      refine Follows.bump ?_
      refine Follows.bump ?_
      exact follows_pure _ r
  · next other =>
    intro hs
    have counted : (Parse.arrayLength src.stop ts).value = _ := value_arrayLength src.stop fun text p q r e => by
      subst e
      exact other text rfl rfl
    rw [run_lengthLoop hs 0, counted]
    cases Parse.lengthEnd 0 ts <;> rfl

/-! ## Interfaces -/

theorem run_interfaceLoop (hs : ts <:+ src.tokens) (depth : Nat) (empty : Bool) :
    loop interfaceRound (depth + 1, empty) src.marks (place src ts)
      = match Parse.interfaceEnd depth empty ts with
      | some (e, r) => .value e (place src r)
      | none => .error ⟨src.stop, .unterminatedInterface⟩ := by
  induction ts generalizing depth empty with
  | nil => exact loop_fails rfl (follows_fail .unterminatedInterface [])
  | cons t r ih =>
    have inner := (List.suffix_cons t r).trans hs
    rw [Parse.interfaceEnd.eq_def]
    dsimp only
    by_cases opening : t.token.isOpening
    · rw [if_pos opening, loop_takes (depth + 2, false) rfl (by simp [opening]) hs, ih inner]
    · rw [if_neg opening]
      by_cases closing : t.token.isClosing
      · rw [if_pos closing]
        cases depth with
        | zero => exact loop_takesLast empty rfl (by simp [opening, closing]) hs
        | succ d => rw [loop_takes (d + 1, empty) rfl (by simp [opening, closing]) hs, ih inner]
      · rw [if_neg closing]
        by_cases semi : t.token = .symbol .semi
        · rw [loop_takes (depth + 1, empty) rfl (by simp [semi, Token.isOpening, Token.isClosing]) hs, ih inner]
          simp [semi]
        · rw [loop_takes (depth + 1, false) rfl (by simp [opening, closing, semi]) hs, ih inner]
          simp [semi]

theorem follows_interfaceBody (ts : Tokens) : Follows src interfaceBody
    (Reply.expect src.stop (.symbol .lbrace) .lbrace ts fun r _ => Parse.interfaceBody src.stop r) := by
  refine Follows.expect fun r _ hs => ?_
  rw [run_interfaceLoop hs 0 true]
  unfold Parse.interfaceBody
  split
  · next e u found => split <;> simp_all [outcome]
  · next missing => split <;> simp_all [outcome, value]

/-! ## Looking for a closing bracket -/

theorem closeOffset_lt {depth n : Nat} (h : Parse.closeOffset depth ts = some n) : n < ts.length := by
  induction ts generalizing depth n with
  | nil => cases h
  | cons t r ih =>
    have later : ∀ d, (Parse.closeOffset d r).map (· + 1) = some n → n < (t :: r).length := by
      intro d h
      obtain ⟨m, hm, rfl⟩ := Option.map_eq_some_iff.1 h
      exact Nat.succ_lt_succ (ih hm)
    rw [Parse.closeOffset.eq_def] at h
    dsimp only at h
    split at h
    · exact later _ h
    · split at h
      · split at h
        · cases h
          exact Nat.succ_pos _
        · exact later _ h
      · exact later _ h

/-- The bracket is looked up at the place that is counted. -/
theorem matching_eq (end_ : Mark) (ended : end_.token = none) (depth i : Nat) :
    matching (depth + 1) i (ts.map Located.mark ++ [end_]) = (Parse.closeOffset depth ts).map (· + i) := by
  induction ts generalizing depth i with
  | nil => simp [matching, ended, Parse.closeOffset]
  | cons t r ih =>
    have later : ∀ o : Option Nat, o.map (· + (i + 1)) = (o.map (· + 1)).map (· + i) := fun o => by
      simp [Function.comp_def, Nat.add_assoc, Nat.add_comm 1]
    rw [Parse.closeOffset.eq_def, List.map_cons, List.cons_append, matching.eq_def]
    simp only [Located.mark]
    by_cases opening : t.token.isOpening
    · simp only [if_pos opening, ih, later]
    · by_cases closing : t.token.isClosing
      · cases depth with
        | zero => simp [opening, closing]
        | succ d => simp [opening, closing, ih, later]
      · simp only [if_neg opening, if_neg closing, ih, later]

theorem drop_marks (hs : ts <:+ src.tokens) :
    src.marks.drop (place src ts) = ts.map Located.mark ++ [src.finish] := by
  obtain ⟨pre, hp⟩ := hs
  have hplace : place src ts = (pre.map Located.mark).length := by simp [place, ← hp]
  rw [hplace, Source.marks, ← hp, List.map_append, List.append_assoc, List.drop_left]

theorem place_cons {t : Located} (hs : t :: r <:+ src.tokens) : place src r = place src (t :: r) + 1 := by
  have := hs.length_le
  simp only [place, List.length_cons] at *
  omega

/-- From an opening bracket on, the bracket that closes it is found behind it. -/
theorem matching_opening {t : Located} (opening : t.token.isOpening = true) (hs : t :: r <:+ src.tokens) :
    matching 0 (place src (t :: r)) (src.marks.drop (place src (t :: r)))
      = (Parse.closeOffset 0 r).map (· + place src r) := by
  rw [drop_marks hs, List.map_cons, List.cons_append, matching.eq_def]
  simp only [Located.mark, if_pos opening]
  rw [matching_eq src.finish rfl, place_cons hs]

/-- **Whether brackets start a type** is decided by the tokens behind them. -/
theorem run_bracketsStartType {t u : Located} (opening : u.token.isOpening = true)
    (hs : t :: u :: r <:+ src.tokens) : bracketsStartType src.marks (place src (t :: u :: r))
      = .value (Parse.beginsArray r) (place src (t :: u :: r)) := by
  have inner := (List.suffix_cons t (u :: r)).trans hs
  have behind := (List.suffix_cons u r).trans inner
  have found : matching 0 (place src (t :: u :: r) + 1) (src.marks.drop (place src (t :: u :: r) + 1))
      = (Parse.closeOffset 0 r).map (· + place src r) := place_cons hs ▸ matching_opening opening inner
  have second : place src r = place src (t :: u :: r) + 2 := by rw [place_cons inner, place_cons hs]
  unfold bracketsStartType
  rw [run_bind (c := allMarks) (a := src.marks) rfl (Nat.le_refl _),
    run_bind (c := position) (a := place src (t :: u :: r)) rfl (Nat.le_refl _), found, Parse.beginsArray]
  cases hm : Parse.closeOffset 0 r with
  | none => rfl
  | some m =>
    have mark := getElem?_marks behind (Nat.succ_le_of_lt (closeOffset_lt hm))
    have index : m + place src r + 1 = place src r + (m + 1) := by omega
    show Outcome.value (m + place src r == place src (t :: u :: r) + 2
      || (src.marks[m + place src r + 1]?.bind (·.token)).any Parse.startsType) _ = _
    rw [index, mark, ← second]
    cases m with
    | zero => simp
    | succ n => cases hr : r[n + 2]? <;> simp [markBefore, hr, Source.finish, Located.mark]

end GoGlue.Cursor
