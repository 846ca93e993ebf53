import GoGlue.Transfer.PyType
import GoGlue.Writer

/-!
# Python code of the module

The expressions, statements and definitions that the module is written in, as data, with their spelling.
The names of `ctypes` that a piece of code needs can be read off it.
-/
namespace GoGlue.Py

inductive Expr where
  | name (n : String)
  | none
  | number (n : Nat)
  | text (s : String)
  | emptyBytes
  | emptyList
  | ctypes (t : CtypesToken)
  | byref (e : Expr)
  | member (e : Expr) (n : String)
  /-- An entry point of the library. -/
  | entry (symbol : String)
  /-- The class of a struct. -/
  | cls (struct : String)
  | call (f : Expr) (args : List Expr)
  /-- An argument that is passed by name. -/
  | keyword (n : String) (e : Expr)
  /-- The first value, or the second one if that is empty. -/
  | either (a b : Expr)
  | isNone (e : Expr)
  | negation (e : Expr)
  | conditional (value cond alternative : Expr)
  /-- A list with one value for each item of another. -/
  | comprehension (value : Expr) (var : String) (items : Expr)
  deriving Repr

namespace Expr

mutual
def spelling : Expr → String
  | name n => n
  | none => "None"
  | number n => toString n
  | text s => "\"" ++ s ++ "\""
  | emptyBytes => "b\"\""
  | emptyList => "[]"
  | ctypes t => t.text
  | byref e => "byref(" ++ e.spelling ++ ")"
  | member e n => e.spelling ++ "." ++ n
  | entry symbol => "_lib." ++ symbol
  | cls struct => className struct
  | call f args => f.spelling ++ "(" ++ ", ".intercalate (spellings args) ++ ")"
  | keyword n e => n ++ "=" ++ e.spelling
  | either a b => a.spelling ++ " or " ++ b.spelling
  | isNone e => e.spelling ++ " is None"
  | negation e => "not " ++ e.spelling
  | conditional value cond alternative =>
    value.spelling ++ " if " ++ cond.spelling ++ " else " ++ alternative.spelling
  | comprehension value var items =>
    "[" ++ value.spelling ++ " for " ++ var ++ " in (" ++ items.spelling ++ ")]"
def spellings : List Expr → List String
  | [] => []
  | e :: rest => e.spelling :: spellings rest
end

mutual
/-- The names of `ctypes` that an expression uses. -/
def ctypesNames : Expr → List String
  | ctypes t => t.names
  | byref e => "byref" :: e.ctypesNames
  | call f args => f.ctypesNames ++ ctypesNamesAll args
  | member e _ | keyword _ e | isNone e | negation e => e.ctypesNames
  | either a b => a.ctypesNames ++ b.ctypesNames
  | conditional value cond alternative =>
    value.ctypesNames ++ cond.ctypesNames ++ alternative.ctypesNames
  | comprehension value _ items => value.ctypesNames ++ items.ctypesNames
  | name _ | none | number _ | text _ | emptyBytes | emptyList | entry _ | cls _ => []
def ctypesNamesAll : List Expr → List String
  | [] => []
  | e :: rest => e.ctypesNames ++ ctypesNamesAll rest
end

/-- A call of a function that is known by its bare name. -/
def calls (f : String) (args : List Expr) : Expr := call (name f) args

end Expr

/-! ## Statements -/

inductive Stmt where
  | expr (e : Expr)
  | assign (targets : List Expr) (e : Expr)
  | ret (values : List Expr)
  | pass
  | ifs (cond : Expr) (body : List Stmt)
  | attempt (body : List Stmt) (failure : String) (handler : List Stmt)
  deriving Repr

namespace Stmt

mutual
def layout : Stmt → List Layout
  | expr e => [.line e.spelling]
  | assign targets e => [.line (", ".intercalate (targets.map Expr.spelling) ++ " = " ++ e.spelling)]
  | ret values => [.line ("return " ++ ", ".intercalate (values.map Expr.spelling))]
  | pass => [.line "pass"]
  | ifs cond body => [.indented ("if " ++ cond.spelling ++ ":") (layouts body)]
  | attempt body failure handler =>
    [.indented "try:" (layouts body), .indented ("except " ++ failure ++ ":") (layouts handler)]
def layouts : List Stmt → List Layout
  | [] => []
  | s :: rest => s.layout ++ layouts rest
end

mutual
/-- The names of `ctypes` that a statement uses. -/
def ctypesNames : Stmt → List String
  | expr e => e.ctypesNames
  | assign targets e => Expr.ctypesNamesAll targets ++ e.ctypesNames
  | ret values => Expr.ctypesNamesAll values
  | pass => []
  | ifs cond body => cond.ctypesNames ++ ctypesNamesAll body
  | attempt body _ handler => ctypesNamesAll body ++ ctypesNamesAll handler
def ctypesNamesAll : List Stmt → List String
  | [] => []
  | s :: rest => s.ctypesNames ++ ctypesNamesAll rest
end

end Stmt

/-! ## Definitions -/

/-- What a function is declared to return. -/
inductive ReturnHint where
  | none
  | one (h : PyHint)
  | tuple (hs : List PyHint)
  deriving Repr

def ReturnHint.text : ReturnHint → String
  | none => "None"
  | one h => h.text
  | tuple hs => "Tuple[" ++ ", ".intercalate (hs.map PyHint.text) ++ "]"

structure Parameter where
  name : String
  hint : Option PyHint
  default : Option Expr
  /-- The parameter takes all further arguments. -/
  rest : Bool
  deriving Repr

namespace Parameter

def plain (name : String) : Parameter := ⟨name, none, none, false⟩

def typed (name : String) (hint : PyHint) : Parameter := ⟨name, some hint, none, false⟩

def text (p : Parameter) : String :=
  let hint := match p.hint with
    | some h => ": " ++ h.text
    | none => ""
  let default := match p.default with
    | some e => " = " ++ e.spelling
    | none => ""
  (if p.rest then "*" else "") ++ p.name ++ hint ++ default

end Parameter

/-- A function or a member of a class. -/
structure Def where
  decorators : List String
  name : String
  params : List Parameter
  returns : ReturnHint
  doc : String
  body : List Stmt
  deriving Repr

end GoGlue.Py
