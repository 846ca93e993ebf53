import GoGlue.Text.Quoted
import GoGlue.Transfer.CType
import GoGlue.Writer

/-!
# Go code of the glue

The types, expressions and statements that the glue is written in, as data, with their spelling. A
qualified name says whether it belongs to the wrapped package or to another one, so the imports of a file
can be read off the code.
-/
namespace GoGlue.Go

/-- Where a qualified name comes from. -/
inductive Qualifier where
  /-- The wrapped package. -/
  | own (package : String)
  | foreign (package : String)
  deriving DecidableEq, Repr

def Qualifier.text : Qualifier → String
  | own package | foreign package => package

/-! ## Types -/

inductive Ty where
  | any
  | name (n : String)
  | qualified (q : Qualifier) (n : String)
  | pointer (elem : Ty)
  | slice (elem : Ty)
  | array (len : UInt64) (elem : Ty)
  | map (key value : Ty)
  | c (t : CToken)
  deriving DecidableEq, Repr

namespace Ty

def text : Ty → String
  | any => "any"
  | name n => n
  | qualified q n => q.text ++ "." ++ n
  | pointer e => "*" ++ e.text
  | slice e => "[]" ++ e.text
  | array len e => "[" ++ toString len.toNat ++ "]" ++ e.text
  | map k v => "map[" ++ k.text ++ "]" ++ v.text
  | c t => t.text

def qualifiers : Ty → List Qualifier
  | qualified q _ => [q]
  | pointer e | slice e | array _ e => e.qualifiers
  | map k v => k.qualifiers ++ v.qualifiers
  | any | name _ | c _ => []

mutual
/-- The spelling of a type in a file that imports the package `own`; mirrors `go_type`. -/
def ofGoType (own : String) : GoType → Ty
  | ⟨kind, n, package, elem, key, size⟩ =>
    match kind with
    | .interface => any
    | .struct =>
      match package with
      | some path => qualified (.foreign path) n
      | none => qualified (.own own) n
    | .pointer => pointer (ofPart own elem)
    | .slice => slice (ofPart own elem)
    | .array => array (size.getD 0) (ofPart own elem)
    | .map => map (ofPart own key) (ofPart own elem)
    | _ => name n
/-- mirrors `go_elem` -/
def ofPart (own : String) : Option GoType → Ty
  | none => any
  | some t => ofGoType own t
end

end Ty

/-! ## Expressions -/

inductive Expr where
  | name (n : String)
  | number (n : Nat)
  | quote (s : String)
  /-- A name of a package of the language: `C` or `unsafe`. -/
  | library (package n : String)
  | qualified (q : Qualifier) (n : String)
  | member (e : Expr) (n : String)
  | type (t : Ty)
  /-- A generic function with its type argument. -/
  | applied (f : String) (t : Ty)
  | call (f : Expr) (args : List Expr)
  | index (e i : Expr)
  | deref (e : Expr)
  | address (e : Expr)
  /-- The zero value of a struct type. -/
  | empty (t : Ty)
  | isNil (e : Expr)
  | notNil (e : Expr)
  | both (a b : Expr)
  deriving Repr

namespace Expr

mutual
def text : Expr → String
  | name n => n
  | number n => toString n
  | quote s => Text.quoted s
  | library package n => package ++ "." ++ n
  | qualified q n => q.text ++ "." ++ n
  | member e n => e.text ++ "." ++ n
  | type t => t.text
  | applied f t => f ++ "[" ++ t.text ++ "]"
  | call f args => f.text ++ "(" ++ ", ".intercalate (texts args) ++ ")"
  | index e i => e.text ++ "[" ++ i.text ++ "]"
  | deref e => "*" ++ e.text
  | address e => "&" ++ e.text
  | empty t => t.text ++ "\x7b\x7d"
  | isNil e => e.text ++ " == nil"
  | notNil e => e.text ++ " != nil"
  | both a b => a.text ++ " && " ++ b.text
def texts : List Expr → List String
  | [] => []
  | e :: rest => e.text :: texts rest
end

mutual
/-- The qualifiers that an expression spells. -/
def qualifiers : Expr → List Qualifier
  | qualified q _ => [q]
  | type t | applied _ t | empty t => t.qualifiers
  | call f args => f.qualifiers ++ qualifiersAll args
  | member e _ | deref e | address e | isNil e | notNil e => e.qualifiers
  | index e i => e.qualifiers ++ i.qualifiers
  | both a b => a.qualifiers ++ b.qualifiers
  | name _ | number _ | quote _ | library _ _ => []
def qualifiersAll : List Expr → List Qualifier
  | [] => []
  | e :: rest => e.qualifiers ++ qualifiersAll rest
end

/-- A call of a function that is known by its bare name. -/
def calls (f : String) (args : List Expr) : Expr := call (name f) args

/-- A call of a function of the package `C`. -/
def ccall (f : String) (args : List Expr) : Expr := call (library "C" f) args

def nil : Expr := name "nil"

end Expr

/-! ## Statements -/

inductive Stmt where
  | expr (e : Expr)
  | define (vars : List String) (e : Expr)
  | assign (target e : Expr)
  | declare (var : String) (t : Ty)
  | ret (e : Option Expr)
  | ifs (cond : Expr) (body : List Stmt)
  | range (index value : String) (items : Expr) (body : List Stmt)
  deriving Repr

namespace Stmt

mutual
def layout : Stmt → Layout
  | expr e => .line e.text
  | define vars e => .line (", ".intercalate vars ++ " := " ++ e.text)
  | assign target e => .line (target.text ++ " = " ++ e.text)
  | declare var t => .line ("var " ++ var ++ " " ++ t.text)
  | ret none => .line "return"
  | ret (some e) => .line ("return " ++ e.text)
  | ifs cond body => .braced ("if " ++ cond.text) (layouts body)
  | range index value items body =>
    .braced ("for " ++ index ++ ", " ++ value ++ " := range " ++ items.text) (layouts body)
def layouts : List Stmt → List Layout
  | [] => []
  | s :: rest => s.layout :: layouts rest
end

mutual
/-- The qualifiers that a statement spells. -/
def qualifiers : Stmt → List Qualifier
  | expr e | define _ e | ret (some e) => e.qualifiers
  | assign target e => target.qualifiers ++ e.qualifiers
  | declare _ t => t.qualifiers
  | ret none => []
  | ifs cond body => cond.qualifiers ++ qualifiersAll body
  | range _ _ items body => items.qualifiers ++ qualifiersAll body
def qualifiersAll : List Stmt → List Qualifier
  | [] => []
  | s :: rest => s.qualifiers ++ qualifiersAll rest
end

end Stmt

end GoGlue.Go
