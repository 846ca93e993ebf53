import GoGlue.Lexeme
import GoGlue.Comment

/-!
# Tokens and comments of a source

A line break after a token that can end a statement is a semicolon, and so is a block comment that spans
a line break, and the end of the source. Comments are set aside for the doc texts.
-/
namespace GoGlue

/-- A source cut into tokens and comments; it ends at `stop`; mirrors `Lexed`. -/
structure Source where
  tokens : List Located
  comments : List Comment
  stop : Position
  deriving Repr

namespace Source

/-- A semicolon at the given place, if one is due. -/
def dueSemi (due : Bool) (pos : Position) : List Located :=
  if due then [⟨.symbol .semi, pos⟩] else []

/-- The tokens of the lexemes up to the end at `stop`; `due` tells that a line break here would be a
semicolon. -/
def tokensFrom (stop : Position) (due : Bool) : List Lexeme → List Located
  | [] => dueSemi due stop
  | l :: rest =>
    match l.token? with
    | some t => ⟨t, l.pos⟩ :: tokensFrom stop t.endsStatement rest
    | none =>
      if l.cls = .newline ∨ l.cls = .blockComment ∧ l.pos.line < l.endLine then
        dueSemi due l.pos ++ tokensFrom stop false rest
      else tokensFrom stop due rest

/-- The comments among the lexemes; `line` is where the last token before them begins. -/
def commentsFrom (line : Nat) : List Lexeme → List Comment
  | [] => []
  | l :: rest =>
    match l.token? with
    | some _ => commentsFrom l.pos.line rest
    | none =>
      if l.cls = .newline then commentsFrom line rest
      else
        ⟨String.ofList l.text, l.pos.line, l.endLine, line == l.pos.line⟩ :: commentsFrom line rest

/-- Cut a source into tokens and comments: mirrors `tokenize`. -/
def read (text : String) : Except SyntaxError Source :=
  match Lexeme.lexemesAt (LineIndex.new text.toList) 0 text.toList with
  | .error e => .error e
  | .ok (lexemes, stop) =>
    .ok ⟨tokensFrom stop false lexemes, commentsFrom 0 lexemes, stop⟩

end Source

end GoGlue
