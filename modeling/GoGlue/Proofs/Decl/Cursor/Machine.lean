import GoGlue.Decl.Brackets
import GoGlue.Source

/-!
# A cursor over tokens

Parsing with a cursor: all tokens of a source stand in one list, behind them a mark for its end, and the cursor
is the index of the next one. It is moved by `bump` alone, which stays where it is at the end, so a loop that
does not look for the end would never leave it.

What can go wrong is watched while a program runs, and is a fault, which is neither a value nor a syntax error:
the last index of an empty list is asked for, the cursor leaves the list or moves back, a round of a loop or a
type consumes nothing, a counter falls below zero, or types are nested deeper than there are tokens.

* `loop_eq`: a loop goes on behind the tokens that a round consumes.
* `loop_leave`, `loop_ended`: how a loop ends.
-/
namespace GoGlue

/-- A token, or with none the end of the source, and where it begins. -/
structure Mark where
  token : Option Token
  pos : Position
  deriving DecidableEq, Repr

def Located.mark (t : Located) : Mark := ⟨some t.token, t.pos⟩

/-- The end of the source as a mark. -/
def Source.finish (s : Source) : Mark := ⟨none, s.stop⟩

/-- All tokens of the source with its end. -/
def Source.marks (s : Source) : List Mark := s.tokens.map Located.mark ++ [s.finish]

namespace Cursor

inductive Fault where
  /-- The last index of an empty list. -/
  | noTokens
  /-- An index behind the list. -/
  | outside
  /-- The cursor has left the list, or was moved back. -/
  | strayed
  /-- A round of a loop, or a type, has consumed nothing. -/
  | stuck
  /-- A counter below zero. -/
  | underflow
  /-- More types within one another than there are tokens. -/
  | tooDeep
  deriving DecidableEq, Repr

/-- What comes of running a program: a value and where the cursor is left, or why there is none. -/
inductive Outcome (α : Type) where
  | value (a : α) (pos : Nat)
  | error (e : SyntaxError)
  | fault (f : Fault)
  deriving Repr

end Cursor

/-- A program that runs on the marks of a source, from an index on. -/
def Cursor (α : Type) : Type := List Mark → Nat → Cursor.Outcome α

namespace Cursor

variable {α β σ : Type}

/-- After each step the cursor has to be where it was or behind that, at a mark of the list. -/
protected def bind (c : Cursor α) (d : α → Cursor β) : Cursor β := fun ms pos =>
  match c ms pos with
  | .error e => .error e
  | .fault f => .fault f
  | .value a next => if pos ≤ next ∧ next < ms.length then d a ms next else .fault .strayed

instance : Monad Cursor where
  pure a := fun _ pos => .value a pos
  bind := Cursor.bind

def raise (e : SyntaxError) : Cursor α := fun _ _ => .error e

def abort (f : Fault) : Cursor α := fun _ _ => .fault f

/-! ## Loops -/

/-- What a round of a loop ends with. -/
inductive Round (σ β : Type) where
  | again (s : σ)
  | leave (b : β)
  /-- The loop was over before the round, in which nothing happened. -/
  | ended (b : β)

/-- Rounds of a loop, until it is over or one leaves it. A round in which something happens has to consume
something, also the last one. -/
def loop (round : σ → Cursor (Round σ β)) (s : σ) : Cursor β := fun ms pos =>
  match round s ms pos with
  | .error e => .error e
  | .fault f => .fault f
  | .value (.ended b) next => .value b next
  | .value (.leave b) next => if pos < next then .value b next else .fault .stuck
  | .value (.again s') next =>
    if _ : pos < next ∧ next < ms.length then loop round s' ms next else .fault .stuck
termination_by ms pos => ms.length - pos

/-- A program that has to consume something. -/
def moving (c : Cursor α) : Cursor α := fun ms pos =>
  match c ms pos with
  | .value a next => if pos < next then .value a next else .fault .stuck
  | o => o

theorem loop_eq {round : σ → Cursor (Round σ β)} {s s' : σ} {ms : List Mark} {pos next : Nat}
    (h : round s ms pos = .value (.again s') next) (moved : pos < next) (inside : next < ms.length) :
    loop round s ms pos = loop round s' ms next := by
  rw [loop, h]
  simp [moved, inside]

theorem loop_leave {round : σ → Cursor (Round σ β)} {s : σ} {b : β} {ms : List Mark} {pos next : Nat}
    (h : round s ms pos = .value (.leave b) next) (moved : pos < next) : loop round s ms pos = .value b next := by
  rw [loop, h]
  exact if_pos moved

theorem loop_ended {round : σ → Cursor (Round σ β)} {s : σ} {b : β} {ms : List Mark} {pos next : Nat}
    (h : round s ms pos = .value (.ended b) next) : loop round s ms pos = .value b next := by
  rw [loop, h]

theorem loop_error {round : σ → Cursor (Round σ β)} {s : σ} {e : SyntaxError} {ms : List Mark} {pos : Nat}
    (h : round s ms pos = .error e) : loop round s ms pos = .error e := by
  rw [loop, h]

/-! ## Marks -/

def position : Cursor Nat := fun _ pos => .value pos pos

def moveTo (next : Nat) : Cursor Unit := fun _ _ => .value () next

def allMarks : Cursor (List Mark) := fun ms pos => .value ms pos

/-- The index of the end of the source. -/
def lastIndex : Cursor Nat := fun ms pos =>
  match ms.length with
  | 0 => .fault .noTokens
  | n + 1 => .value n pos

def markAt (i : Nat) : Cursor Mark := fun ms pos =>
  match ms[i]? with
  | none => .fault .outside
  | some m => .value m pos

/-- The mark `n` places behind the cursor, or the end. -/
def ahead (n : Nat) : Cursor Mark := do
  markAt (min ((← position) + n) (← lastIndex))

def current : Cursor Mark := ahead 0

/-- Take the current token and move on, except at the end. -/
def bump : Cursor (Option Token) := do
  let m ← current
  let last ← lastIndex
  let pos ← position
  moveTo (if pos < last then pos + 1 else pos)
  return m.token

/-! ## Tokens -/

def fail (fault : SyntaxFault) : Cursor α := do
  raise ⟨(← current).pos, fault⟩

def unexpected (what : Expected) : Cursor α := do
  fail (.expected what (← current).token)

def isAt (t : Token) : Cursor Bool := do
  return (← current).token = some t

/-- Take the given token, if it is the current one. -/
def eat (t : Token) : Cursor Bool := do
  if ← isAt t then
    let _ ← bump
    return true
  else
    return false

def expect (t : Token) (what : Expected) : Cursor Unit := do
  if ← eat t then return () else unexpected what

def endOfStatement : Cursor Unit := do
  if (← current).token = none then return () else expect (.symbol .semi) .endOfStatement

def identifier (what : Expected) : Cursor String := do
  match (← current).token with
  | some (.ident name) =>
    let _ ← bump
    return name
  | _ => unexpected what

end Cursor

end GoGlue
