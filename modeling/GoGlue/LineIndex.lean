import GoGlue.Position

/-!
# The index of the lines of a source

A source is indexed once, by the byte offsets at which its lines begin. The position of an offset is found by a
binary search among these, and the column by counting the characters between the two offsets.
-/
namespace GoGlue

/-- A source and the byte offsets at which its lines begin: mirrors `LineIndex`. -/
structure LineIndex where
  text : List Char
  starts : Array Nat
  deriving Repr

namespace LineIndex

/-- The bytes that a text takes in UTF-8. -/
def bytes : List Char → Nat
  | [] => 0
  | c :: s => c.utf8Size + bytes s

/-- Where the lines behind the first one begin in a text at the offset: behind each LF, and behind a CR that has no LF
behind it. The bytes of both stand for nothing else in UTF-8, so the text is gone through by its characters. -/
def startsFrom (offset : Nat) : List Char → List Nat
  | [] => []
  | c :: rest =>
    if c = '\n' ∨ c = '\r' ∧ rest.head? ≠ some '\n' then
      (offset + c.utf8Size) :: startsFrom (offset + c.utf8Size) rest
    else startsFrom (offset + c.utf8Size) rest

/-- mirrors `LineIndex.new` -/
def new (s : List Char) : LineIndex := ⟨s, (0 :: startsFrom 0 s).toArray⟩

/-- The place in the middle of a window. -/
def midpoint (lo hi : Nat) : Nat := lo + (hi - lo) / 2

theorem le_midpoint (lo hi : Nat) : lo ≤ midpoint lo hi := Nat.le_add_right ..

theorem midpoint_lt {lo hi : Nat} (h : lo < hi) : midpoint lo hi < hi := by
  unfold midpoint
  omega

/-- A binary search in the window from `lo` to `hi`: the place of the key, or else the place where it would have to
be. -/
def search (a : Array Nat) (key lo hi : Nat) (h : hi ≤ a.size) : Except Nat Nat :=
  if window : lo < hi then
    have inside : midpoint lo hi < a.size := Nat.lt_of_lt_of_le (midpoint_lt window) h
    if a[midpoint lo hi] = key then .ok (midpoint lo hi)
    else if a[midpoint lo hi] < key then search a key (midpoint lo hi + 1) hi h
    else search a key lo (midpoint lo hi) (Nat.le_of_lt inside)
  else .error lo
termination_by hi - lo
decreasing_by
  · have := le_midpoint lo hi
    omega
  · have := midpoint_lt window
    omega

/-- The characters behind the first `n` bytes, if these are whole characters. -/
def dropBytes : Nat → List Char → Option (List Char)
  | 0, s => some s
  | _ + 1, [] => none
  | n + 1, c :: s => if c.utf8Size ≤ n + 1 then dropBytes (n + 1 - c.utf8Size) s else none

/-- The characters in the first `n` bytes, if these are whole characters. -/
def takeBytes : Nat → List Char → Option (List Char)
  | 0, _ => some []
  | _ + 1, [] => none
  | n + 1, c :: s =>
    if c.utf8Size ≤ n + 1 then (takeBytes (n + 1 - c.utf8Size) s).map (c :: ·) else none

/-- The characters between two offsets, if both stand between characters and in their order. -/
def slice? (s : List Char) (start stop : Nat) : Option (List Char) :=
  if start ≤ stop then (dropBytes start s).bind (takeBytes (stop - start)) else none

/-- The number of the line, from zero, that goes on at the offset. -/
def lineAt (index : LineIndex) (offset : Nat) : Nat :=
  match search index.starts offset 0 index.starts.size (Nat.le_refl _) with
  | .ok i => i
  | .error i => i - 1

/-- mirrors `LineIndex.position` -/
def position (index : LineIndex) (offset : Nat) : Position :=
  let line := index.lineAt offset
  let start := index.starts.getD line 0
  ⟨line + 1, ((slice? index.text start offset).elim 0 List.length) + 1⟩

end LineIndex

end GoGlue
