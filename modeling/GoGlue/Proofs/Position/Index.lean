import GoGlue.LineIndex
import GoGlue.Proofs.Position.Lines
import Mathlib.Data.List.Basic

/-!
# The index of a source gives its positions

Counting along a text is what the index is for: each line break in front of an offset has its entry, the entries
behind it are greater, and the search finds the last one in front. It begins the line on which the text in front of
the offset ends, so the slice between the two is that line up to the offset.

* `search_ok`, `search_error`: a binary search finds the key, or the place between the smaller and the greater entries.
* `after_startsFrom`: going along a text passes the beginnings of its lines.
* `lineAt_eq`: the line of an offset is the number of line breaks in front of it.
* `position_eq`: the position of an offset is the one that the text in front of it leads to.
-/
namespace GoGlue

namespace LineIndex

open Position

/-! ## The search -/

section

variable {a : Array Nat} {key lo hi i j x y : Nat} {h : hi ≤ a.size}

theorem search_ok (found : search a key lo hi h = .ok i) : a[i]? = some key := by
  fun_induction search a key lo hi h generalizing i with
  | case1 lo hi h window inside same =>
    cases found
    exact same ▸ Array.getElem?_eq_getElem inside
  | case2 _ _ _ _ _ _ _ ih => exact ih found
  | case3 _ _ _ _ _ _ _ ih => exact ih found
  | case4 => cases found

theorem search_le (ordered : lo ≤ hi) (missed : search a key lo hi h = .error i) : i ≤ hi := by
  fun_induction search a key lo hi h generalizing i with
  | case1 => cases missed
  | case2 lo hi h window inside _ _ ih => exact ih (midpoint_lt window) missed
  | case3 lo hi h window inside _ _ ih =>
    exact Nat.le_trans (ih (le_midpoint lo hi) missed) (Nat.le_of_lt (midpoint_lt window))
  | case4 =>
    cases missed
    exact ordered

/-- In an ascending array the places are ordered as their entries are. -/
theorem lt_of_getElem? (sorted : a.toList.Pairwise (· < ·)) (hx : a[i]? = some x) (hy : a[j]? = some y) :
    i < j ↔ x < y := by
  have mono {i j x y : Nat} (hx : a[i]? = some x) (hy : a[j]? = some y) (before : i < j) : x < y := by
    obtain ⟨hi, rfl⟩ := Array.getElem?_eq_some_iff.1 hx
    obtain ⟨hj, rfl⟩ := Array.getElem?_eq_some_iff.1 hy
    exact List.pairwise_iff_getElem.1 sorted i j hi hj before
  refine ⟨mono hx hy, fun less => ?_⟩
  rcases Nat.lt_trichotomy i j with before | rfl | behind
  · exact before
  · exact absurd (Option.some.inj (hx.symm.trans hy)) (Nat.ne_of_lt less)
  · exact absurd (mono hy hx behind) (Nat.lt_asymm less)

/-- The search keeps smaller entries in front of its window and greater ones behind it. -/
theorem search_error (sorted : a.toList.Pairwise (· < ·)) (missed : search a key lo hi h = .error i)
    (front : ∀ j x, a[j]? = some x → j < lo → x < key) (behind : ∀ j x, a[j]? = some x → hi ≤ j → key < x)
    (hx : a[j]? = some x) : if j < i then x < key else key < x := by
  fun_induction search a key lo hi h generalizing i with
  | case1 => cases missed
  | case2 lo hi h window inside _ less ih =>
    refine ih missed (fun j x hx hj => ?_) behind
    rcases Nat.lt_or_eq_of_le (Nat.le_of_lt_succ hj) with before | rfl
    · exact Nat.lt_trans ((lt_of_getElem? sorted hx (Array.getElem?_eq_getElem inside)).1 before) less
    · exact (Array.getElem?_eq_some_iff.1 hx).2 ▸ less
  | case3 lo hi h window inside other less ih =>
    have greater : key < a[midpoint lo hi] := by omega
    refine ih missed front fun j x hx hj => ?_
    rcases Nat.lt_or_eq_of_le hj with later | rfl
    · exact Nat.lt_trans greater ((lt_of_getElem? sorted (Array.getElem?_eq_getElem inside) hx).1 later)
    · exact (Array.getElem?_eq_some_iff.1 hx).2 ▸ greater
  | case4 lo hi h empty =>
    cases missed
    split
    · next hj => exact front j x hx hj
    · next hj => exact behind j x hx (by omega)

/-- A key that the whole array does not have parts its entries. -/
theorem search_missed (sorted : a.toList.Pairwise (· < ·)) (missed : search a key 0 a.size (Nat.le_refl _) = .error i)
    (hx : a[j]? = some x) : if j < i then x < key else key < x := by
  refine search_error sorted missed (by simp) (fun j x hx hj => ?_) hx
  exact absurd (Array.getElem?_eq_some_iff.1 hx).1 (Nat.not_lt.2 hj)

end

/-! ## Where lines begin -/

@[simp] theorem bytes_nil : bytes [] = 0 := rfl

@[simp] theorem bytes_cons (c : Char) (s : List Char) : bytes (c :: s) = c.utf8Size + bytes s := rfl

@[simp] theorem bytes_append (s t : List Char) : bytes (s ++ t) = bytes s + bytes t := by
  induction s with
  | nil => simp
  | cons c s ih => simp [ih, Nat.add_assoc]

theorem bytes_pos {s : List Char} (h : s ≠ []) : 0 < bytes s := by
  obtain ⟨c, s, rfl⟩ := List.exists_cons_of_ne_nil h
  exact Nat.add_pos_left c.utf8Size_pos _

/-- Lines begin behind the place where their text does, one behind the other. -/
theorem startsFrom_ascending (offset : Nat) (s : List Char) :
    (offset :: startsFrom offset s).Pairwise (· < ·) := by
  fun_induction startsFrom offset s with
  | case1 => simp
  | case2 offset c rest _ ih =>
    have grows := c.utf8Size_pos
    refine List.pairwise_cons.2 ⟨List.forall_mem_cons.2 ⟨by omega, fun x hx => ?_⟩, ih⟩
    have := (List.pairwise_cons.1 ih).1 x hx
    omega
  | case3 offset c rest _ ih =>
    have grows := c.utf8Size_pos
    obtain ⟨later, ih⟩ := List.pairwise_cons.1 ih
    refine List.pairwise_cons.2 ⟨fun x hx => ?_, ih⟩
    have := later x hx
    omega

/-- No line begins behind the end of the text, and none at it if the text goes on with its line. -/
theorem startsFrom_upto (offset : Nat) (s : List Char) : ∀ x ∈ startsFrom offset s, x ≤ offset + bytes s ∧
    ((∀ c, s.getLast? = some c → Lexeme.endsLine c = false) → x < offset + bytes s) := by
  fun_induction startsFrom offset s with
  | case1 => simp
  | case2 offset c rest hc ih =>
    refine List.forall_mem_cons.2 ⟨⟨by rw [bytes_cons]; omega, fun goesOn => ?_⟩, fun x hx => ?_⟩
    · have more : rest ≠ [] := by
        rintro rfl
        have := goesOn c rfl
        simp [Lexeme.endsLine] at this
        tauto
      have := bytes_pos more
      rw [bytes_cons]
      omega
    · obtain ⟨le, lt⟩ := ih x hx
      rw [bytes_cons, ← Nat.add_assoc]
      refine ⟨le, fun goesOn => lt fun d hd => goesOn d ?_⟩
      rw [List.getLast?_cons, hd]
      rfl
  | case3 offset c rest hc ih =>
    intro x hx
    obtain ⟨le, lt⟩ := ih x hx
    rw [bytes_cons, ← Nat.add_assoc]
    refine ⟨le, fun goesOn => lt fun d hd => goesOn d ?_⟩
    rw [List.getLast?_cons, hd]
    rfl

/-- A text that cuts no CRLF in two has its own line breaks. -/
theorem startsFrom_append (offset : Nat) {s t : List Char} (uncut : Uncut s t) :
    startsFrom offset (s ++ t) = startsFrom offset s ++ startsFrom (offset + bytes s) t := by
  fun_induction startsFrom offset s with
  | case1 => simp
  | case2 offset c rest hc ih =>
    have uncut' : Uncut rest t := fun last => uncut (by cases rest <;> simp_all)
    have same : c = '\n' ∨ c = '\r' ∧ (rest ++ t).head? ≠ some '\n' := by
      cases rest with
      | nil => exact hc.imp_right fun cr => ⟨cr.1, uncut (by rw [cr.1]; rfl)⟩
      | cons d rest => simpa using hc
    rw [List.cons_append, startsFrom, if_pos same, ih uncut', bytes_cons, Nat.add_assoc]
    rfl
  | case3 offset c rest hc ih =>
    have uncut' : Uncut rest t := fun last => uncut (by cases rest <;> simp_all)
    have same : ¬ (c = '\n' ∨ c = '\r' ∧ (rest ++ t).head? ≠ some '\n') := by
      cases rest with
      | nil =>
        simp only [List.head?_nil, ne_eq, reduceCtorEq, not_false_eq_true, and_true] at hc
        exact fun h => hc (h.imp_right And.left)
      | cons d rest => simpa using hc
    rw [List.cons_append, startsFrom, if_neg same, ih uncut', bytes_cons, Nat.add_assoc]

/-- Where a text at the offset ends: it begins its last line behind the front, and the position counts the lines begun
and the characters of the last one. -/
def EndsAt (p : Position) (offset : Nat) (s : List Char) (q : Position) : Prop :=
  ∃ front last, s = front ++ last ∧ (startsFrom offset s).getLastD offset = offset + bytes front ∧
    q = ⟨p.line + (startsFrom offset s).length, (if startsFrom offset s = [] then p.column else 1) + last.length⟩

/-- A line break in front begins one more line. -/
theorem EndsAt.broken {p q : Position} {offset : Nat} (br : List Char) {s : List Char}
    (h : EndsAt ⟨p.line + 1, 1⟩ (offset + bytes br) s q)
    (starts : startsFrom offset (br ++ s) = (offset + bytes br) :: startsFrom (offset + bytes br) s) :
    EndsAt p offset (br ++ s) q := by
  obtain ⟨front, last, hs, begun, hq⟩ := h
  refine ⟨br ++ front, last, by rw [hs, List.append_assoc], ?_, ?_⟩
  · rw [starts, List.getLastD_cons, begun, bytes_append, Nat.add_assoc]
  · rw [hq, starts]
    simp
    omega

/-- A character that ends no line makes the line longer on which it stands. -/
theorem EndsAt.longer {p q : Position} {offset : Nat} {c : Char} {s : List Char}
    (h : EndsAt ⟨p.line, p.column + 1⟩ (offset + c.utf8Size) s q)
    (starts : startsFrom offset (c :: s) = startsFrom (offset + c.utf8Size) s) : EndsAt p offset (c :: s) q := by
  obtain ⟨front, last, hs, begun, hq⟩ := h
  unfold EndsAt
  rw [starts, hq]
  cases found : startsFrom (offset + c.utf8Size) s with
  | nil =>
    -- The line began in front of `c`, where the text does.
    refine ⟨[], c :: s, rfl, rfl, ?_⟩
    have none : bytes front = 0 := by simpa [found] using begun
    obtain rfl : front = [] := by_contra fun some => Nat.ne_of_gt (bytes_pos some) none
    simp [hs]
    omega
  | cons first starts =>
    refine ⟨c :: front, last, by rw [hs]; rfl, ?_, by simp⟩
    rw [found, List.getLastD_cons] at begun
    rw [List.getLastD_cons, begun, bytes_cons, Nat.add_assoc]

/-- **Going along a text passes the beginnings of its lines.** The last one is where the line begins on which the text
ends. -/
theorem after_startsFrom (p : Position) (offset : Nat) (s : List Char) : EndsAt p offset s (p.after s) := by
  fun_induction after p s generalizing offset with
  | case1 p => exact ⟨[], [], rfl, rfl, rfl⟩
  | case2 p rest ih => exact (ih _).broken ['\r', '\n'] rfl
  | case3 p c rest hc hb ih =>
    refine (ih _).broken [c] ?_
    rw [List.singleton_append, startsFrom, if_pos]
    · rfl
    · refine hb.imp_right fun cr => ⟨cr, fun lf => ?_⟩
      obtain ⟨t, rfl⟩ := List.head?_eq_some_iff.1 lf
      exact hc t cr rfl
  | case4 p c rest hc hb ih =>
    refine (ih _).longer ?_
    rw [startsFrom, if_neg fun h => hb (h.imp_right And.left)]

/-! ## Positions of offsets -/

section

variable {index : LineIndex} {front back : List Nat} {offset : Nat}

/-- The line of an offset is the one begun last in front of it. -/
theorem lineAt_eq (split : index.starts.toList = front ++ back) (sorted : index.starts.toList.Pairwise (· < ·))
    (ne : front ≠ []) (upto : ∀ x ∈ front, x ≤ offset) (behind : ∀ x ∈ back, offset < x) :
    index.lineAt offset = front.length - 1 := by
  have entry (j : Nat) : index.starts[j]? = (front ++ back)[j]? := by
    rw [← split, Array.getElem?_toList]
  have size : index.starts.size = front.length + back.length := by
    rw [← List.length_append, ← split, Array.length_toList]
  have last : index.starts[front.length - 1]? = some (front.getLast ne) := by
    rw [entry, List.getElem?_append_left (by have := List.length_pos_iff.2 ne; omega),
      ← List.getLast?_eq_getElem?, List.getLast?_eq_some_getLast ne]
  have lastUpto := upto _ (List.getLast_mem ne)
  have next {x : Nat} {j : Nat} (hj : front.length ≤ j) (hx : index.starts[j]? = some x) : offset < x := by
    rw [entry, List.getElem?_append_right hj] at hx
    exact behind x (List.mem_of_getElem? hx)
  unfold lineAt
  split
  · next i found =>
    have key := search_ok found
    have inFront : i < front.length := by
      by_contra later
      exact Nat.lt_irrefl _ (next (Nat.le_of_not_lt later) key)
    have notBefore : ¬ i < front.length - 1 := fun before =>
      Nat.not_lt.2 lastUpto ((lt_of_getElem? sorted key last).1 before)
    omega
  · next i missed =>
    have upper := search_le (Nat.zero_le _) missed
    have lower : front.length - 1 < i := by
      by_contra later
      have := search_missed sorted missed last
      rw [if_neg later] at this
      omega
    have notBehind : ¬ front.length < i := fun behind => by
      have here := Array.getElem?_eq_getElem (show front.length < index.starts.size by omega)
      have := search_missed sorted missed here
      rw [if_pos behind] at this
      have := next (Nat.le_refl _) here
      omega
    omega

end

theorem dropBytes_append (s t : List Char) : dropBytes (bytes s) (s ++ t) = some t := by
  induction s with
  | nil => cases t <;> rfl
  | cons c s ih =>
    obtain ⟨n, hn⟩ : ∃ n, bytes (c :: s) = n + 1 := Nat.exists_eq_add_one.2 (bytes_pos (List.cons_ne_nil c s))
    rw [hn, List.cons_append, dropBytes, ← hn, bytes_cons, if_pos (Nat.le_add_right ..), Nat.add_sub_cancel_left, ih]

theorem takeBytes_append (s t : List Char) : takeBytes (bytes s) (s ++ t) = some s := by
  induction s with
  | nil => cases t <;> rfl
  | cons c s ih =>
    obtain ⟨n, hn⟩ : ∃ n, bytes (c :: s) = n + 1 := Nat.exists_eq_add_one.2 (bytes_pos (List.cons_ne_nil c s))
    rw [hn, List.cons_append, takeBytes, ← hn, bytes_cons, if_pos (Nat.le_add_right ..), Nat.add_sub_cancel_left, ih]
    rfl

/-- The slice between two offsets is the text that stands between them. -/
theorem slice?_append (s t u : List Char) :
    slice? (s ++ (t ++ u)) (bytes s) (bytes s + bytes t) = some t := by
  rw [slice?, if_pos (Nat.le_add_right ..), dropBytes_append, Nat.add_sub_cancel_left]
  exact takeBytes_append t u

theorem starts_new (s : List Char) : (new s).starts.toList = 0 :: startsFrom 0 s := rfl

/-- **The search of an offset ends at a line that begins in front of it**: none is looked up outside of the index. -/
theorem lineAt_begun (s : List Char) (offset : Nat) :
    ∃ x, (new s).starts[(new s).lineAt offset]? = some x ∧ x ≤ offset := by
  have first : (new s).starts[0]? = some 0 := rfl
  have sorted : (new s).starts.toList.Pairwise (· < ·) := startsFrom_ascending 0 s
  unfold lineAt
  split
  · next i found => exact ⟨offset, search_ok found, Nat.le_refl _⟩
  · next i missed =>
    have behind : 0 < i := by
      by_contra none
      have := search_missed sorted missed first
      rw [if_neg none] at this
      omega
    have inside : i - 1 < (new s).starts.size := by
      have := search_le (Nat.zero_le _) missed
      omega
    have here := Array.getElem?_eq_getElem inside
    have := search_missed sorted missed here
    rw [if_pos (Nat.sub_lt behind Nat.one_pos)] at this
    exact ⟨_, here, Nat.le_of_lt this⟩

/-- The line of an offset is the number of lines begun behind the first one in the text in front of it, also one byte
further back where that text goes on with its line. -/
theorem lineAt_new {s t : List Char} (uncut : Uncut s t) {offset : Nat} (le : offset ≤ bytes s)
    (upto : ∀ x ∈ startsFrom 0 s, x ≤ offset) : (new (s ++ t)).lineAt offset = (startsFrom 0 s).length := by
  have sorted := startsFrom_ascending 0 (s ++ t)
  have split : (new (s ++ t)).starts.toList = (0 :: startsFrom 0 s) ++ startsFrom (bytes s) t := by
    rw [starts_new, startsFrom_append 0 uncut, Nat.zero_add]
    rfl
  refine lineAt_eq split sorted (List.cons_ne_nil _ _) (List.forall_mem_cons.2 ⟨Nat.zero_le _, upto⟩) fun x hx => ?_
  exact Nat.lt_of_le_of_lt le ((List.pairwise_cons.1 (startsFrom_ascending (bytes s) t)).1 x hx)

/-- **The index gives the position to which the text leads.** -/
theorem position_eq {s t : List Char} (uncut : Uncut s t) :
    (new (s ++ t)).position (bytes s) = start.after s := by
  obtain ⟨front, last, hs, begun, hp⟩ := after_startsFrom start 0 s
  have line : (new (s ++ t)).lineAt (bytes s) = (startsFrom 0 s).length :=
    lineAt_new uncut (Nat.le_refl _) fun x hx => Nat.zero_add (bytes s) ▸ (startsFrom_upto 0 s x hx).1
  have entry : (0 :: startsFrom 0 s)[(startsFrom 0 s).length]? = some (bytes front) := by
    rw [← Nat.zero_add (bytes front), ← begun, List.getLastD_eq_getLast?, ← List.getLast?_cons,
      List.getLast?_eq_getElem?]
    rfl
  have begins : (new (s ++ t)).starts.getD (startsFrom 0 s).length 0 = bytes front := by
    rw [Array.getD_eq_getD_getElem?, ← Array.getElem?_toList, starts_new, startsFrom_append 0 uncut,
      ← List.cons_append, List.getElem?_append_left (Nat.lt_succ_self _), entry]
    rfl
  have written : slice? (s ++ t) (bytes front) (bytes s) = some last := by
    rw [hs, bytes_append, List.append_assoc]
    exact slice?_append front last t
  rw [hp, position, line, begins]
  show Position.mk _ ((slice? (s ++ t) (bytes front) (bytes s)).elim 0 List.length + 1) = _
  rw [written]
  simp [start, Nat.add_comm]

/-- An offset inside of a character is given the first column of its line. -/
example : (new "é\r\nßx".toList).position 6 = ⟨2, 2⟩ ∧ (new "é\r\nßx".toList).position 5 = ⟨2, 1⟩ := by
  decide +kernel

/-- The last byte of a text that goes on with its line is on the line to which the text leads. -/
theorem line_eq {s t : List Char} (ne : s ≠ []) (goesOn : ∀ c, s.getLast? = some c → Lexeme.endsLine c = false) :
    ((new (s ++ t)).position (bytes s - 1)).line = (start.after s).line := by
  have uncut : Uncut s t := fun cr => absurd (goesOn _ cr) (by decide)
  obtain ⟨front, last, -, -, hp⟩ := after_startsFrom start 0 s
  have line : (new (s ++ t)).lineAt (bytes s - 1) = (startsFrom 0 s).length :=
    lineAt_new uncut (Nat.sub_le ..) fun x hx => by
      have := (startsFrom_upto 0 s x hx).2 goesOn
      have := bytes_pos ne
      omega
  rw [hp, position, line]
  exact Nat.add_comm ..

end LineIndex

end GoGlue
