import GoGlue.Text.Blank
import GoGlue.Text.Lines
import GoGlue.Writer

/-!
# Docstrings

A doc text as a Python string between triple quotes: backslashes and triple quotes are escaped, and a
blank keeps a quote at the end apart from the closing quotes.
-/
namespace GoGlue.Py

/-- Escape backslashes and triple quotes. -/
def escapeDoc : List Char → List Char
  | '\\' :: rest => '\\' :: '\\' :: escapeDoc rest
  | '"' :: '"' :: '"' :: rest => '\\' :: '"' :: '\\' :: '"' :: '\\' :: '"' :: escapeDoc rest
  | c :: rest => c :: escapeDoc rest
  | [] => []

/-- Keep a quote at the end apart from what follows. -/
def padQuote (cs : List Char) : List Char := if cs.getLast? = some '"' then cs ++ [' '] else cs

/-- The lines of a docstring; a blank doc has none; mirrors `docstring`. -/
def docstring (doc : String) : List Layout :=
  match Text.lines (padQuote (escapeDoc (Text.trim doc.toList))) with
  | [] => []
  | [only] => [.line ("\"\"\"" ++ String.ofList only ++ "\"\"\"")]
  | first :: rest =>
    .line ("\"\"\"" ++ String.ofList first)
      :: rest.map (fun l => .line (String.ofList (Text.trimEnd l))) ++ [.line "\"\"\""]

end GoGlue.Py
