import GoGlue.Text.Hidden

/-!
# Quoted text

A text between double quotes, on one line and with nothing invisible in it: quotes, backslashes and the
usual controls are written as two characters, every other hidden or combining character by its code point
in hexadecimal.
-/
namespace GoGlue.Text

/-- How one character is written between the quotes. -/
def escape (c : Char) : List Char :=
  if c == '"' then ['\\', '"']
  else if c == '\\' then ['\\', '\\']
  else if c == '\n' then ['\\', 'n']
  else if c == '\r' then ['\\', 'r']
  else if c == '\t' then ['\\', 't']
  else if c == '\x00' then ['\\', '0']
  else if isHidden c then ['\\', 'u', '\x7b'] ++ Nat.toDigits 16 c.toNat ++ ['\x7d']
  else [c]

/-- The text between double quotes. -/
def quoted (s : String) : String :=
  String.ofList ('"' :: s.toList.flatMap escape ++ ['"'])

end GoGlue.Text
