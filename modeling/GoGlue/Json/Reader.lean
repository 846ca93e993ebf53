import GoGlue.Json

/-!
# Reading JSON

A text is cut into tokens, and the tokens are run through a machine that holds the arrays and objects
still open. Nothing is accepted besides the grammar: no comments, no trailing commas, no control
characters or lone surrogates in strings, and at most `maxDepth` arrays and objects around a value.

* `readString_length`: a string token takes at least its closing quote from the input.
-/
namespace GoGlue.Json

/-! ## Tokens -/

inductive Token where
  | openArray | closeArray | openObject | closeObject | comma | colon
  | scalar (j : Json)

def hexDigit? (c : Char) : Option Nat :=
  if c.isDigit then some (c.toNat - 0x30)
  else if 'a' ≤ c ∧ c ≤ 'f' then some (c.toNat - 0x61 + 10)
  else if 'A' ≤ c ∧ c ≤ 'F' then some (c.toNat - 0x41 + 10)
  else none

/-- The value of four hexadecimal digits. -/
def hexUnit? (a b c d : Char) : Option Nat := do
  return (((← hexDigit? a) * 16 + (← hexDigit? b)) * 16 + (← hexDigit? c)) * 16 + (← hexDigit? d)

def shortEscape? (c : Char) : Option Char :=
  match c with
  | '"' => some '"'
  | '\\' => some '\\'
  | '/' => some '/'
  | 'b' => some '\x08'
  | 'f' => some '\x0c'
  | 'n' => some '\n'
  | 'r' => some '\r'
  | 't' => some '\t'
  | _ => none

/-- The rest of a string after its opening quote, and the input after the closing one. A code point above
U+FFFF is written as a pair of surrogates, which stand for nothing alone. -/
def readString (acc : List Char) : List Char → Option (String × List Char)
  | [] => none
  | '"' :: rest => some (String.ofList acc.reverse, rest)
  | '\\' :: 'u' :: a :: b :: c :: d :: rest =>
    match hexUnit? a b c d with
    | none => none
    | some u =>
      if 0xdc00 ≤ u && u < 0xe000 then none
      else if 0xd800 ≤ u && u < 0xdc00 then
        match rest with
        | '\\' :: 'u' :: a' :: b' :: c' :: d' :: rest' =>
          match hexUnit? a' b' c' d' with
          | none => none
          | some v =>
            if 0xdc00 ≤ v && v < 0xe000 then
              readString (Char.ofNat (0x10000 + (u - 0xd800) * 0x400 + (v - 0xdc00)) :: acc) rest'
            else none
        | _ => none
      else readString (Char.ofNat u :: acc) rest
  | '\\' :: e :: rest =>
    match shortEscape? e with
    | some c => readString (c :: acc) rest
    | none => none
  | c :: rest => if c.toNat < 0x20 || c == '\\' then none else readString (c :: acc) rest

theorem readString_length (acc s : List Char) (text : String) (rest : List Char)
    (h : readString acc s = some (text, rest)) : rest.length < s.length := by
  fun_induction readString acc s <;> simp_all <;> omega

/-- Split a number into its parts: sign, digits, fraction with point, exponent with mark. -/
def number? (cs : List Char) : Option Json :=
  let (negative, body) := match cs with
    | '-' :: r => (true, r)
    | r => (false, r)
  let digits := body.takeWhile Char.isDigit
  let afterDigits := body.dropWhile Char.isDigit
  let (fraction, afterFraction) := match afterDigits with
    | '.' :: r => (some (r.takeWhile Char.isDigit), r.dropWhile Char.isDigit)
    | r => (none, r)
  let power := match afterFraction with
    | 'e' :: '+' :: r | 'e' :: '-' :: r | 'E' :: '+' :: r | 'E' :: '-' :: r => some r
    | 'e' :: r | 'E' :: r => some r
    | _ => none
  let wholeOk := !digits.isEmpty && (digits.head? != some '0' || digits.length == 1)
  let fractionOk := fraction != some []
  let powerOk := match power with
    | some ds => !ds.isEmpty && ds.all Char.isDigit
    | none => afterFraction.isEmpty
  if wholeOk && fractionOk && powerOk then
    let n : Nat := digits.foldl (fun n c => n * 10 + (c.toNat - 0x30)) 0
    if fraction.isSome || power.isSome || negative && n == 0 then some (.real (String.ofList cs))
    else some (.integer (if negative then -(n : Int) else n))
  else none

def isNumberChar (c : Char) : Bool :=
  c.isDigit || c == '-' || c == '+' || c == '.' || c == 'e' || c == 'E'

def word? (cs : List Char) : Option Json :=
  if cs = ['n', 'u', 'l', 'l'] then some .null
  else if cs = ['t', 'r', 'u', 'e'] then some (.bool true)
  else if cs = ['f', 'a', 'l', 's', 'e'] then some (.bool false)
  else none

theorem length_dropWhile_le (p : Char → Bool) (s : List Char) : (s.dropWhile p).length ≤ s.length := by
  induction s with
  | nil => simp
  | cons c r ih => simp only [List.dropWhile]; split <;> simp; omega

/-- The tokens of a text. -/
def tokens (s : List Char) : Option (List Token) :=
  match s with
  | [] => some []
  | c :: r =>
    if c == ' ' || c == '\n' || c == '\r' || c == '\t' then tokens r
    else if c == '[' then (tokens r).map (.openArray :: ·)
    else if c == ']' then (tokens r).map (.closeArray :: ·)
    else if c == '\x7b' then (tokens r).map (.openObject :: ·)
    else if c == '\x7d' then (tokens r).map (.closeObject :: ·)
    else if c == ',' then (tokens r).map (.comma :: ·)
    else if c == ':' then (tokens r).map (.colon :: ·)
    else if c == '"' then
      match h : readString [] r with
      | none => none
      | some (text, rest) =>
        have : rest.length < r.length := readString_length _ _ _ _ h
        (tokens rest).map (.scalar (.string text) :: ·)
    else if c == '-' || c.isDigit then
      have := length_dropWhile_le isNumberChar r
      match number? (c :: r.takeWhile isNumberChar) with
      | none => none
      | some j => (tokens (r.dropWhile isNumberChar)).map (.scalar j :: ·)
    else if c.isAlpha then
      have := length_dropWhile_le Char.isAlpha r
      match word? (c :: r.takeWhile Char.isAlpha) with
      | none => none
      | some j => (tokens (r.dropWhile Char.isAlpha)).map (.scalar j :: ·)
    else none
termination_by s.length

/-! ## Values -/

/-- An array or object that is still open, with its items so far in reverse. -/
inductive Frame where
  | array (items : List Json)
  | object (members : List (String × Json)) (key : String)

/-- What may come next. -/
inductive Reading where
  | value (stack : List Frame)
  | firstItem (stack : List Frame)
  | firstKey (stack : List Frame)
  | key (members : List (String × Json)) (stack : List Frame)
  | colon (key : String) (members : List (String × Json)) (stack : List Frame)
  | next (stack : List Frame)
  | done (j : Json)

/-- The most arrays and objects around a value. -/
def maxDepth : Nat := 127

/-- A value is complete: it goes into the innermost open array or object. -/
def deliver (j : Json) : List Frame → Reading
  | [] => .done j
  | .array items :: stack => .next (.array (j :: items) :: stack)
  | .object members key :: stack => .next (.object ((key, j) :: members) "" :: stack)

def beginValue (stack : List Frame) : Token → Option Reading
  | .scalar j => some (deliver j stack)
  | .openArray => if stack.length < maxDepth then some (.firstItem stack) else none
  | .openObject => if stack.length < maxDepth then some (.firstKey stack) else none
  | _ => none

def step : Reading → Token → Option Reading
  | .value stack, t => beginValue stack t
  | .firstItem stack, .closeArray => some (deliver (.array []) stack)
  | .firstItem stack, t => beginValue (.array [] :: stack) t
  | .firstKey stack, .closeObject => some (deliver (.object []) stack)
  | .firstKey stack, .scalar (.string key) => some (.colon key [] stack)
  | .key members stack, .scalar (.string key) => some (.colon key members stack)
  | .colon key members stack, .colon => some (.value (.object members key :: stack))
  | .next (.array items :: stack), .comma => some (.value (.array items :: stack))
  | .next (.array items :: stack), .closeArray => some (deliver (.array items.reverse) stack)
  | .next (.object members _ :: stack), .comma => some (.key members stack)
  | .next (.object members _ :: stack), .closeObject =>
    some (deliver (.object members.reverse) stack)
  | _, _ => none

/-- The value a text is written for, if it is one. -/
def read? (text : String) : Option Json :=
  match tokens text.toList with
  | none => none
  | some ts =>
    match ts.foldlM step (.value []) with
    | some (.done j) => some j
    | _ => none

end GoGlue.Json
