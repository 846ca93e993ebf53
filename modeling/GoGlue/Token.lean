import GoGlue.Position

/-!
# Go tokens

The tokens that declarations are made of. Keywords and symbols that no declaration uses are plain
identifiers and `other` characters.
-/
namespace GoGlue

inductive Keyword where
  | breakStmt | chan | const | continueStmt | fallthrough | func | importDecl | interface | map
  | package | returnStmt | struct | type | var
  deriving DecidableEq, Repr

namespace Keyword

def all : List Keyword :=
  [breakStmt, chan, const, continueStmt, fallthrough, func, importDecl, interface, map, package,
    returnStmt, struct, type, var]

def text : Keyword → String
  | breakStmt => "break"
  | chan => "chan"
  | const => "const"
  | continueStmt => "continue"
  | fallthrough => "fallthrough"
  | func => "func"
  | importDecl => "import"
  | interface => "interface"
  | map => "map"
  | package => "package"
  | returnStmt => "return"
  | struct => "struct"
  | type => "type"
  | var => "var"

/-- mirrors `keyword_or_ident` -/
def ofText? (s : String) : Option Keyword := all.find? (·.text == s)

end Keyword

inductive Symbol where
  | ellipsis | inc | dec | arrow | assign | star | lparen | rparen | lbrack | rbrack | lbrace | rbrace
  | comma | semi | colon | dot
  deriving DecidableEq, Repr

def Symbol.text : Symbol → String
  | ellipsis => "..."
  | inc => "++"
  | dec => "--"
  | arrow => "<-"
  | assign => "="
  | star => "*"
  | lparen => "("
  | rparen => ")"
  | lbrack => "["
  | rbrack => "]"
  | lbrace => "\x7b"
  | rbrace => "\x7d"
  | comma => ","
  | semi => ";"
  | colon => ":"
  | dot => "."

/-- mirrors `Tok` -/
inductive Token where
  | ident (name : String)
  | number (text : String)
  | string (text : String)
  | rune (text : String)
  | keyword (k : Keyword)
  | symbol (s : Symbol)
  | other (c : Char)
  deriving DecidableEq, Repr

namespace Token

/-- The spelling of a token. -/
def text : Token → String
  | ident s | number s | string s | rune s => s
  | keyword k => k.text
  | symbol s => s.text
  | other c => c.toString

/-- A line break after this token ends the statement; mirrors `ends_statement`. -/
def endsStatement : Token → Bool
  | ident _ | number _ | string _ | rune _ => true
  | keyword k => (k matches .breakStmt | .continueStmt | .fallthrough | .returnStmt)
  | symbol s => (s matches .inc | .dec | .rparen | .rbrack | .rbrace)
  | other _ => false

/-- An opening bracket of any of the three kinds. -/
def isOpening (t : Token) : Bool := t matches symbol .lparen | symbol .lbrack | symbol .lbrace

/-- A closing bracket of any of the three kinds. -/
def isClosing (t : Token) : Bool := t matches symbol .rparen | symbol .rbrack | symbol .rbrace

/-- How a message names what was found instead of something else; `none` is the end of the source;
mirrors `describe`. -/
def describe : Option Token → String
  | none => "EOF"
  | some (symbol .semi) => "newline"
  | some t => "'" ++ t.text ++ "'"

end Token

/-- A token and where it begins; mirrors `Token`. -/
structure Located where
  token : Token
  pos : Position
  deriving DecidableEq, Repr

end GoGlue
