import GoGlue.LineIndex
import GoGlue.SyntaxError
import GoGlue.Text.Letter
import GoGlue.Text.Digit

/-!
# Lexemes of a Go source

A source is cut into lexemes from left to right, each as long as its class allows: line breaks, comments
and tokens. Blanks between them are skipped. The scanner says how many characters a lexeme takes after
its first one, so the lexeme and what follows it always make up the source.

* `take_drop`: a lexeme and the rest are the source it was cut from.
-/
namespace GoGlue

/-- mirrors `RawTok` -/
inductive LexemeClass where
  | newline | lineComment | blockComment
  | word | number | string | rune
  | symbol (s : Symbol)
  | other
  deriving DecidableEq, Repr

/-- A stretch of source and where it begins. -/
structure Lexeme where
  cls : LexemeClass
  text : List Char
  pos : Position
  deriving DecidableEq, Repr

namespace Lexeme

/-! ## Classes of characters -/

/-- Blanks that separate lexemes: space, tab, form feed and the byte order mark. -/
def isSkipped (c : Char) : Bool := c == ' ' || c == '\t' || c == '\x0c' || c == '\ufeff'

def startsWord (c : Char) : Bool := c == '_' || Text.isLetter c

def continuesWord (c : Char) : Bool := startsWord c || Text.isDigit c

def continuesNumber (c : Char) : Bool := c.isDigit || c.isAlpha || c == '_'

def endsLine (c : Char) : Bool := c == '\n' || c == '\r'

/-! ## Lengths -/

/-- Characters of a number after its first digit: a second part may follow one point. -/
def numberLength (r : List Char) : Nat :=
  let whole := r.takeWhile continuesNumber
  match r.drop whole.length with
  | '.' :: fraction => whole.length + 1 + (fraction.takeWhile continuesNumber).length
  | _ => whole.length

/-- Characters of a block comment after its opening mark, if it is closed; mirrors `block_comment`. -/
def commentLength : List Char → Option Nat
  | '*' :: '/' :: _ => some 2
  | _ :: r => (commentLength r).map (· + 1)
  | [] => none

/-- The characters after an opening quote that belong to the literal, and whether the closing quote
follows them. A backslash takes the next character with it, unless that is a line feed. -/
def literalBody (quote : Char) : List Char → Nat × Bool
  | '\\' :: c :: r =>
    if c = '\n' then (0, false)
    else ((literalBody quote r).1 + 2, (literalBody quote r).2)
  | c :: r =>
    if c = quote then (0, true)
    else if c = '\\' ∨ endsLine c then (0, false)
    else ((literalBody quote r).1 + 1, (literalBody quote r).2)
  | [] => (0, false)

/-! ## One lexeme -/

/-- A literal that is opened but not closed: the quote alone is a token if nothing follows it, and the
text read so far is invalid otherwise. -/
def unclosedLiteral (quote : Char) (body : List Char) : Except SyntaxFault (LexemeClass × Nat) :=
  match body with
  | [] => .ok (.other, 0)
  | _ => .error (.invalidToken (String.ofList (quote :: body)))

def scanString (r : List Char) : Except SyntaxFault (LexemeClass × Nat) :=
  match literalBody '"' r with
  | (n, true) => .ok (.string, n + 1)
  | (n, false) => unclosedLiteral '"' (r.take n)

def scanRawString (r : List Char) : Except SyntaxFault (LexemeClass × Nat) :=
  let n := (r.takeWhile (· != '\x60')).length
  match r.drop n with
  | [] => unclosedLiteral '\x60' r
  | _ => .ok (.string, n + 1)

/-- A rune literal holds at least one element. -/
def scanRune (r : List Char) : Except SyntaxFault (LexemeClass × Nat) :=
  match literalBody '\'' r with
  | (0, _) => .ok (.other, 0)
  | (n, true) => .ok (.rune, n + 1)
  | (n, false) => unclosedLiteral '\'' (r.take n)

/-- Symbols and all characters without a meaning of their own. -/
def scanSymbol (c : Char) (r : List Char) : LexemeClass × Nat :=
  match c, r with
  | '.', '.' :: '.' :: _ => (.symbol .ellipsis, 2)
  | '+', '+' :: _ => (.symbol .inc, 1)
  | '-', '-' :: _ => (.symbol .dec, 1)
  | '<', '-' :: _ => (.symbol .arrow, 1)
  | '=', _ => (.symbol .assign, 0)
  | '*', _ => (.symbol .star, 0)
  | '(', _ => (.symbol .lparen, 0)
  | ')', _ => (.symbol .rparen, 0)
  | '[', _ => (.symbol .lbrack, 0)
  | ']', _ => (.symbol .rbrack, 0)
  | '\x7b', _ => (.symbol .lbrace, 0)
  | '\x7d', _ => (.symbol .rbrace, 0)
  | ',', _ => (.symbol .comma, 0)
  | ';', _ => (.symbol .semi, 0)
  | ':', _ => (.symbol .colon, 0)
  | '.', _ => (.symbol .dot, 0)
  | _, _ => (.other, 0)

/-- The lexeme that begins with `c`, which is no blank: its class and the number of characters it takes
from `r`. -/
def scan (c : Char) (r : List Char) : Except SyntaxFault (LexemeClass × Nat) :=
  if c = '\n' then .ok (.newline, 0)
  else if c = '\r' then .ok (.newline, if r.head? = some '\n' then 1 else 0)
  else if startsWord c then .ok (.word, (r.takeWhile continuesWord).length)
  else if c.isDigit then .ok (.number, numberLength r)
  else if Text.isDigit c then .error (.invalidToken c.toString)
  else if c = '"' then scanString r
  else if c = '\x60' then scanRawString r
  else if c = '\'' then scanRune r
  else
    match c, r with
    | '/', '/' :: body => .ok (.lineComment, 1 + (body.takeWhile (!endsLine ·)).length)
    | '/', '*' :: body =>
      match commentLength body with
      | some n => .ok (.blockComment, 1 + n)
      | none => .error .unterminatedComment
    | c, r => .ok (scanSymbol c r)

theorem take_drop (c : Char) (r : List Char) (n : Nat) : (c :: r.take n) ++ r.drop n = c :: r := by
  simp

/-! ## All lexemes -/

/-- The lexemes of an indexed source from the byte offset on, and where it ends; mirrors the loop of `tokenize` over
the raw tokens, their slices and their spans. -/
def lexemesAt (index : LineIndex) (offset : Nat) (s : List Char) :
    Except SyntaxError (List Lexeme × Position) :=
  match s with
  | [] => .ok ([], index.position offset)
  | c :: r =>
    if isSkipped c then lexemesAt index (offset + c.utf8Size) r
    else
      match scan c r with
      | .error fault => .error ⟨index.position offset, fault⟩
      | .ok (cls, n) =>
        match lexemesAt index (offset + LineIndex.bytes (c :: r.take n)) (r.drop n) with
        | .error e => .error e
        | .ok (rest, stop) => .ok (⟨cls, c :: r.take n, index.position offset⟩ :: rest, stop)
termination_by s.length
decreasing_by all_goals simp only [List.length_cons, List.length_drop]; omega

/-! ## Tokens -/

/-- The token that a lexeme is; line breaks and comments are none; mirrors `from_raw`. -/
def token? (l : Lexeme) : Option Token :=
  let text := String.ofList l.text
  match l.cls with
  | .newline | .lineComment | .blockComment => none
  | .word =>
    match Keyword.ofText? text with
    | some k => some (.keyword k)
    | none => some (.ident text)
  | .number => some (.number text)
  | .string => some (.string text)
  | .rune => some (.rune text)
  | .symbol s => some (.symbol s)
  | .other => l.text.head?.map .other

/-- The line on which a lexeme ends. -/
def endLine (l : Lexeme) : Nat := (l.pos.after l.text).line

end Lexeme

end GoGlue
