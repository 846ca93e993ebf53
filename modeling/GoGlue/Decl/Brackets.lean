import GoGlue.Decl.Reply

/-!
# Brackets

Skipping and finding bracketed groups. The three kinds of brackets are counted alike. `depth` is the
number of groups that are open inside the outermost one.

* `groupEnd_length`, `lengthEnd_length`, `interfaceEnd_length`: what follows a group is shorter.
-/
namespace GoGlue.Parse

open Reply

/-- The tokens after the bracket that closes the group in which these tokens stand. -/
def groupEnd (depth : Nat) : Tokens → Option Tokens
  | [] => none
  | t :: r =>
    if t.token.isOpening then groupEnd (depth + 1) r
    else if t.token.isClosing then
      match depth with
      | 0 => some r
      | d + 1 => groupEnd d r
    else groupEnd depth r

theorem groupEnd_length (depth : Nat) (ts r : Tokens) (h : groupEnd depth ts = some r) :
    r.length < ts.length := by
  fun_induction groupEnd depth ts <;> simp_all <;> omega

/-- How many tokens stand before the bracket that closes the group in which these tokens stand; mirrors `matching`. -/
def closeOffset (depth : Nat) : Tokens → Option Nat
  | [] => none
  | t :: r =>
    if t.token.isOpening then (closeOffset (depth + 1) r).map (· + 1)
    else if t.token.isClosing then
      match depth with
      | 0 => some 0
      | d + 1 => (closeOffset d r).map (· + 1)
    else (closeOffset depth r).map (· + 1)

/-- Take the bracketed group that the next token opens; mirrors `skip_group`. -/
def skipGroup (stop : Position) (ts : Tokens) : Reply Unit ts :=
  match ts with
  | [] => fail stop .unclosedDelimiter []
  | t :: r =>
    match h : groupEnd 0 r with
    | some r' => .ok ⟨((), r'), by have := groupEnd_length 0 r r' h; simp; omega⟩
    | none => .error ⟨t.pos, .unclosedDelimiter⟩

/-- A token with which a type can begin; mirrors `starts_type`. -/
def startsType : Token → Bool
  | .ident _ => true
  | .symbol s => (s matches .star | .lbrack | .lparen | .arrow)
  | .keyword k => (k matches .map | .chan | .func | .interface | .struct)
  | _ => false

/-- After a name and an opening square bracket, given the tokens behind the bracket: the bracket begins a
slice or array type, not the arguments of the name. It does when the group is empty or a type follows;
mirrors `brackets_start_type`. -/
def beginsArray (r : Tokens) : Bool :=
  match closeOffset 0 r with
  | none => false
  | some 0 => true
  | some (n + 1) =>
    match r[n + 2]? with
    | some t => startsType t.token
    | none => false

/-! ## Array lengths -/

/-- The tokens after the square bracket that ends an array length which is no literal. -/
def lengthEnd (depth : Nat) : Tokens → Option Tokens
  | [] => none
  | t :: r =>
    if t.token.isOpening then lengthEnd (depth + 1) r
    else if depth = 0 ∧ t.token = .symbol .rbrack then some r
    else if t.token.isClosing then lengthEnd (depth - 1) r
    else lengthEnd depth r

theorem lengthEnd_length (depth : Nat) (ts r : Tokens) (h : lengthEnd depth ts = some r) :
    r.length < ts.length := by
  fun_induction lengthEnd depth ts <;> simp_all <;> omega

/-- The length that a number token gives: decimal digits of a value below 2^64. -/
def literalLength (text : String) : Option UInt64 :=
  let cs := text.toList
  if cs ≠ [] ∧ cs.all Char.isDigit then
    let n : Nat := cs.foldl (fun n c => n * 10 + (c.toNat - 0x30)) 0
    if h : n < UInt64.size then some (.ofNatLT n h) else none
  else none

/-- The length of an array type after its opening bracket, up to and with the closing one. Only a single
number gives a length; mirrors `array_len`. -/
def arrayLength (stop : Position) (ts : Tokens) : Reply (Option UInt64) ts :=
  match ts with
  | ⟨.number text, _⟩ :: ⟨.symbol .rbrack, _⟩ :: r =>
    .ok ⟨(literalLength text, r), by simp; omega⟩
  | ts =>
    match h : lengthEnd 0 ts with
    | some r => .ok ⟨(none, r), Nat.le_of_lt (lengthEnd_length 0 ts r h)⟩
    | none => .error ⟨stop, .unterminatedLength⟩

/-! ## Interfaces -/

/-- The rest of an interface body: whether it is empty up to its closing brace, and the tokens after
that. -/
def interfaceEnd (depth : Nat) (empty : Bool) : Tokens → Option (Bool × Tokens)
  | [] => none
  | t :: r =>
    if t.token.isOpening then interfaceEnd (depth + 1) false r
    else if t.token.isClosing then
      match depth with
      | 0 => some (empty, r)
      | d + 1 => interfaceEnd d empty r
    else interfaceEnd depth (empty && t.token = .symbol .semi) r

theorem interfaceEnd_length (depth : Nat) (empty e : Bool) (ts r : Tokens)
    (h : interfaceEnd depth empty ts = some (e, r)) : r.length < ts.length := by
  fun_induction interfaceEnd depth empty ts <;> simp_all <;> omega

/-- An interface body after its opening brace; mirrors `interface_body`. -/
def interfaceBody (stop : Position) (ts : Tokens) : Reply Bool ts :=
  match h : interfaceEnd 0 true ts with
  | some (empty, r) => .ok ⟨(empty, r), Nat.le_of_lt (interfaceEnd_length 0 true empty ts r h)⟩
  | none => .error ⟨stop, .unterminatedInterface⟩

end GoGlue.Parse
