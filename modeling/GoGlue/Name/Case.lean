import GoGlue.Text.Case
import GoGlue.Text.Uppercase

/-!
# Case of names

* `snakeCase`: every upper-case character after the first begins a new word.
* `capitalize`: only the first character changes.
-/
namespace GoGlue

/-- The characters of a name after the first in snake case. -/
def snakeTail (c : Char) : List Char :=
  if Text.isUppercase c then '_' :: Text.lower c else Text.lower c

/-- `helloWorld` becomes `hello_world`, and `HTTPServer` becomes `h_t_t_p_server`; mirrors `to_snake_case`. -/
def snakeCase (name : String) : String :=
  match name.toList with
  | [] => ""
  | c :: rest => String.ofList (Text.lower c ++ rest.flatMap snakeTail)

/-- `head` becomes `Head`; mirrors `capitalize`. -/
def capitalize (name : String) : String :=
  match name.toList with
  | [] => ""
  | c :: rest => String.ofList (Text.upper c ++ rest)

end GoGlue
