import GoGlue.SyntaxError

/-!
# Answers of a parser

A parser is given the tokens that are left and answers with a value and the tokens it leaves, or with a
syntax error. The answer carries the proof that no tokens are gained, which is why every parser built
from these pieces ends.

* `expect_eq`, `identifier_eq`: what the pieces do on tokens that fit.
-/
namespace GoGlue

abbrev Tokens := List Located

/-- An answer on the tokens `ts`; mirrors `PResult`. -/
abbrev Reply (α : Type) (ts : Tokens) :=
  Except SyntaxError { p : α × Tokens // p.2.length ≤ ts.length }

namespace Reply

variable {α β : Type} {ts : Tokens}

/-- Answer with a value and leave all tokens. -/
def done (a : α) (ts : Tokens) : Reply α ts := .ok ⟨(a, ts), Nat.le_refl _⟩

/-- Where the next token begins, or the source ends. -/
def here (stop : Position) : Tokens → Position
  | [] => stop
  | t :: _ => t.pos

/-- Fail at the next token; mirrors `error`. -/
def fail (stop : Position) (fault : SyntaxFault) (ts : Tokens) : Reply α ts :=
  .error ⟨here stop ts, fault⟩

/-- Fail because the next token is not what the grammar asks for; mirrors `unexpected`. -/
def unexpected (stop : Position) (what : Expected) (ts : Tokens) : Reply α ts :=
  fail stop (.expected what (ts.head?.map (·.token))) ts

/-- An answer on fewer tokens is one on more. -/
def widen {r : Tokens} (h : r.length ≤ ts.length) : Reply α r → Reply α ts
  | .error e => .error e
  | .ok ⟨p, hp⟩ => .ok ⟨p, Nat.le_trans hp h⟩

/-- An answer on the tokens after the first one. -/
def later (t : Located) (x : Reply α ts) : Reply α (t :: ts) := x.widen (Nat.le_succ _)

/-- Go on with the value and the tokens that are left. -/
def andThen (x : Reply α ts) (f : α → (r : Tokens) → r.length ≤ ts.length → Reply β r) :
    Reply β ts :=
  match x with
  | .error e => .error e
  | .ok ⟨(a, r), h⟩ => (f a r h).widen h

def map (f : α → β) (x : Reply α ts) : Reply β ts :=
  match x with
  | .error e => .error e
  | .ok ⟨(a, r), h⟩ => .ok ⟨(f a, r), h⟩

/-- The value and the tokens left, without the bound. -/
def value (x : Reply α ts) : Except SyntaxError (α × Tokens) :=
  match x with
  | .error e => .error e
  | .ok ⟨p, _⟩ => .ok p

/-- Take one token if it is the given one; mirrors `expect`. -/
def expect (stop : Position) (token : Token) (what : Expected) (ts : Tokens)
    (next : (r : Tokens) → r.length < ts.length → Reply α r) : Reply α ts :=
  match ts with
  | t :: r => if t.token = token then (next r (Nat.lt_succ_self _)).later t else unexpected stop what (t :: r)
  | [] => unexpected stop what []

/-- Take one identifier; mirrors `ident`. -/
def identifier (stop : Position) (what : Expected) (ts : Tokens)
    (next : String → (r : Tokens) → r.length < ts.length → Reply α r) : Reply α ts :=
  match ts with
  | ⟨.ident name, pos⟩ :: r => (next name r (Nat.lt_succ_self _)).later ⟨.ident name, pos⟩
  | ts => unexpected stop what ts

theorem expect_eq (stop : Position) (what : Expected) (t : Located) (r : Tokens)
    (next : (r' : Tokens) → r'.length < (t :: r).length → Reply α r') :
    expect stop t.token what (t :: r) next = (next r (Nat.lt_succ_self _)).later t := by
  simp [expect]

theorem identifier_eq (stop : Position) (what : Expected) (name : String) (pos : Position)
    (r : Tokens)
    (next : String → (r' : Tokens) → r'.length < (Located.mk (.ident name) pos :: r).length →
      Reply α r') :
    identifier stop what (⟨.ident name, pos⟩ :: r) next
      = (next name r (Nat.lt_succ_self _)).later ⟨.ident name, pos⟩ := rfl

/-- The end of a statement: a semicolon, or the end of the source; mirrors `expect_semi`. -/
def endOfStatement (stop : Position) (ts : Tokens) : Reply Unit ts :=
  match ts with
  | [] => done () []
  | ⟨.symbol .semi, pos⟩ :: r => (done () r).later ⟨.symbol .semi, pos⟩
  | ts => unexpected stop .endOfStatement ts

end Reply

end GoGlue
