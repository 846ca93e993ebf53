import GoGlue.Text.Blank
import GoGlue.Text.Lines

/-!
# Doc comments

The doc text of a declaration is the text of the group of comments that ends on the line directly above
it. Comment marks and directives are dropped, trailing blanks are cut off, and runs of blank lines become
one.

* `collapse_head`: a doc text does not begin with a blank line.
-/
namespace GoGlue

/-- A comment with its marks, its first and last line, and whether a token begins before it on its first
line; mirrors `Comment`. -/
structure Comment where
  text : String
  line : Nat
  endLine : Nat
  trailing : Bool
  deriving DecidableEq, Repr

namespace Comment

/-! ## Groups of comments -/

/-- The comments of the group that ends with `c`, last one first; `earlier` holds the comments before it,
nearest first. -/
def groupBack (c : Comment) : List Comment → List Comment
  | [] => [c]
  | p :: earlier =>
    if p.trailing || p.endLine + 1 < c.line then [c] else c :: groupBack p earlier

/-- The comments that document a declaration on the given line, in order. -/
def docGroup (comments : List Comment) (line : Nat) : List Comment :=
  match comments.reverse.dropWhile (fun c => c.trailing || c.endLine + 1 != line) with
  | [] => []
  | c :: earlier => (groupBack c earlier).reverse

/-! ## Text of one comment -/

def isDirectiveChar (c : Char) : Bool := c.isLower || c.isDigit

/-- The text after the marks of a line comment is addressed to a tool: `line`, `extern` and `export`
directives, and `tool:directive` without a blank; mirrors `is_directive`. -/
def isDirective (body : List Char) : Bool :=
  "line ".toList.isPrefixOf body || "extern ".toList.isPrefixOf body
    || "export ".toList.isPrefixOf body
    || match body.span (· != ':') with
      | (tool, ':' :: first :: _) =>
        !tool.isEmpty && tool.all isDirectiveChar && isDirectiveChar first
      | _ => false

/-- The text between the marks of a block comment. -/
def blockBody (text : List Char) : List Char :=
  match text with
  | '/' :: '*' :: r =>
    match r.reverse with
    | '/' :: '*' :: body => body.reverse
    | _ => text
  | _ => text

/-- The lines a comment contributes: a line comment its text without marks and one leading space, unless
it is a directive; a block comment every line between its marks. -/
def docLines (c : Comment) : List (List Char) :=
  match c.text.toList with
  | '/' :: '/' :: body =>
    if isDirective body then []
    else
      match body with
      | ' ' :: rest => [rest]
      | _ => [body]
  | text => Text.lines (blockBody text)

/-! ## Doc text -/

/-- Keep one of several blank lines in a row; `blank` tells that a blank line would be one too many. -/
def collapse (blank : Bool) : List (List Char) → List (List Char)
  | [] => []
  | [] :: rest => if blank then collapse true rest else [] :: collapse true rest
  | line :: rest => line :: collapse false rest

theorem collapse_head (ls : List (List Char)) : (collapse true ls).head? ≠ some [] := by
  induction ls with
  | nil => simp [collapse]
  | cons l rest ih => cases l <;> simp [collapse, ih]

/-- The lines of a doc text: no blank line at either end and no two in a row. -/
def normalize (ls : List (List Char)) : List (List Char) :=
  ((collapse true (ls.map Text.trimEnd)).reverse.dropWhile List.isEmpty).reverse

/-- Each line with a line feed after it. -/
def joinLines (ls : List (List Char)) : String := String.ofList (ls.flatMap (· ++ ['\n']))

/-- The doc text for a declaration on the given line; mirrors `doc_comment`. -/
def docText (comments : List Comment) (line : Nat) : String :=
  joinLines (normalize ((docGroup comments line).flatMap docLines))

end Comment

end GoGlue
