import GoGlue.Json

/-!
# Writing JSON

Two layouts of a JSON value: `compact` on one line, and `pretty` with every item and member on a line of
its own, indented by two blanks a level. An empty array or object takes no line break in either.
-/
namespace GoGlue.Json

/-- Two hexadecimal digits. -/
def hexPair (n : Nat) : List Char :=
  [Nat.digitChar (n / 16), Nat.digitChar (n % 16)]

/-- How one character is written inside a JSON string: short escapes where there is one, `\u00xx` for the
other controls. -/
def escape (c : Char) : List Char :=
  if c == '"' then ['\\', '"']
  else if c == '\\' then ['\\', '\\']
  else if c == '\n' then ['\\', 'n']
  else if c == '\r' then ['\\', 'r']
  else if c == '\t' then ['\\', 't']
  else if c == '\x08' then ['\\', 'b']
  else if c == '\x0c' then ['\\', 'f']
  else if c.toNat < 0x20 then ['\\', 'u', '0', '0'] ++ hexPair c.toNat
  else [c]

def quote (s : String) : String :=
  String.ofList ('"' :: s.toList.flatMap escape ++ ['"'])

mutual
/-- The value on one line, without blanks. -/
def compact : Json → String
  | .null => "null"
  | .bool b => if b then "true" else "false"
  | .integer n => toString n
  | .real text => text
  | .string s => quote s
  | .array items => "[" ++ ",".intercalate (compactItems items) ++ "]"
  | .object members => "\x7b" ++ ",".intercalate (compactMembers members) ++ "\x7d"
def compactItems : List Json → List String
  | [] => []
  | j :: rest => j.compact :: compactItems rest
def compactMembers : List (String × Json) → List String
  | [] => []
  | (key, j) :: rest => (quote key ++ ":" ++ j.compact) :: compactMembers rest
end

/-- The entries of an array or object on lines of their own, between the two brackets. -/
def enclose (indent : String) (opening closing : String) : List String → String
  | [] => opening ++ closing
  | entries =>
    opening ++ "\n" ++ ",\n".intercalate (entries.map (indent ++ "  " ++ ·)) ++ "\n" ++ indent ++ closing

mutual
/-- The value over several lines, where `indent` stands before the lines after the first. -/
def prettyAt (indent : String) : Json → String
  | .array items => enclose indent "[" "]" (prettyItems (indent ++ "  ") items)
  | .object members => enclose indent "\x7b" "\x7d" (prettyMembers (indent ++ "  ") members)
  | j => j.compact
def prettyItems (indent : String) : List Json → List String
  | [] => []
  | j :: rest => prettyAt indent j :: prettyItems indent rest
def prettyMembers (indent : String) : List (String × Json) → List String
  | [] => []
  | (key, j) :: rest => (quote key ++ ": " ++ prettyAt indent j) :: prettyMembers indent rest
end

/-- The value over several lines, without a line break at the end. -/
def pretty (j : Json) : String := prettyAt "" j

end GoGlue.Json
