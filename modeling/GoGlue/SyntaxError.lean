import GoGlue.Token
import GoGlue.Text.Quoted

/-!
# Syntax errors

What can be wrong with a Go source on the level of tokens and declarations, where it is wrong, and the
wording for it.
-/
namespace GoGlue

/-- What the grammar asks for at some place. -/
inductive Expected where
  | endOfStatement | packageKeyword | packageName | functionName | typeName | selectedTypeName
  | fieldName | fieldOrEmbedded | typeExpr | chanKeyword
  | lparen | rparen | lbrack | rbrack | lbrace
  deriving DecidableEq, Repr

def Expected.text : Expected → String
  | endOfStatement => "';' or newline"
  | packageKeyword => "'package'"
  | packageName => "package name"
  | functionName => "function name"
  | typeName => "type name"
  | selectedTypeName => "type name after '.'"
  | fieldName => "field name"
  | fieldOrEmbedded => "field name or embedded type"
  | typeExpr => "type"
  | chanKeyword => "'chan'"
  | lparen => "'('"
  | rparen => "')'"
  | lbrack => "'['"
  | rbrack => "']'"
  | lbrace => "'\x7b'"

inductive SyntaxFault where
  | invalidToken (text : String)
  | unterminatedComment
  | expected (what : Expected) (found : Option Token)
  | notADeclaration (found : Token)
  | receiverCount
  | mixedParameters
  | unclosedDelimiter
  | unterminatedLength
  | unterminatedInterface
  deriving DecidableEq, Repr

def SyntaxFault.message : SyntaxFault → String
  | invalidToken text => "invalid token " ++ Text.quoted text
  | unterminatedComment => "comment not terminated"
  | expected what found => "expected " ++ what.text ++ ", found " ++ Token.describe found
  | notADeclaration found =>
    "non-declaration statement outside function body: " ++ Token.describe (some found)
  | receiverCount => "method must have exactly one receiver"
  | mixedParameters => "mixed named and unnamed parameters"
  | unclosedDelimiter => "unclosed delimiter"
  | unterminatedLength => "unterminated array length"
  | unterminatedInterface => "unterminated interface type"

/-- mirrors `SyntaxError` -/
structure SyntaxError where
  pos : Position
  fault : SyntaxFault
  deriving DecidableEq, Repr

end GoGlue
