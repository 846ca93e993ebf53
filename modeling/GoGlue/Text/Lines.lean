/-!
# Lines

Cutting a text into lines at LF, where a CR directly before the LF belongs to the line break. A CR
elsewhere is an ordinary character here, and a line break at the very end starts no further line.

* `lines_nil`: the empty text has no lines.
-/
namespace GoGlue.Text

/-- Drop the CR of a CRLF line break. -/
def dropCr (line : List Char) : List Char :=
  if line.getLast? = some '\r' then line.dropLast else line

/-- The lines of a text; `acc` holds the characters of the current line so far. -/
def linesFrom (acc : List Char) : List Char → List (List Char)
  | [] => if acc.isEmpty then [] else [acc]
  | '\n' :: rest => dropCr acc :: linesFrom [] rest
  | c :: rest => linesFrom (acc ++ [c]) rest

/-- The lines of a text, without their line breaks. -/
def lines (cs : List Char) : List (List Char) := linesFrom [] cs

theorem lines_nil : lines [] = [] := rfl

end GoGlue.Text
