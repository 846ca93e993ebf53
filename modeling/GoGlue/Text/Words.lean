import GoGlue.Text.Alphabetic
import GoGlue.Text.Number

/-!
# Words

A word is a longest stretch of the characters that an identifier may have.
-/
namespace GoGlue.Text

/-- A character of identifiers. -/
def isWordChar (c : Char) : Bool := isAlphabetic c || isNumber c || c == '_'

/-- What stands between the other characters; two of them next to each other have nothing between them. -/
def pieces (cs : List Char) : List (List Char) := cs.splitOnP fun c => !isWordChar c

def wordsOf (cs : List Char) : List String := ((pieces cs).map String.ofList).filter (· ≠ "")

def words (s : String) : List String := wordsOf s.toList

end GoGlue.Text
