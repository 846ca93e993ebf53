/-!
# Declarations of a Go source file

What a source file declares at its top level: functions, methods and types, with the type expressions
written in them. Imports, constants, variables and bodies are not kept.
-/
namespace GoGlue

/-- mirrors `ChanDir` -/
inductive ChanDir where
  | both | send | recv
  deriving DecidableEq, Repr

mutual
/-- A type as it is written; mirrors `TypeExpr`. -/
inductive TypeExpr where
  | ident (name : String)
  | selector (package name : String)
  | pointer (elem : TypeExpr)
  | slice (elem : TypeExpr)
  | array (len : Option UInt64) (elem : TypeExpr)
  | map (key value : TypeExpr)
  | chan (dir : ChanDir) (elem : TypeExpr)
  | func (params results : List Field)
  | interface (empty : Bool)
  | struct (fields : List Field)
  | ellipsis (elem : TypeExpr)
  | generic (base : TypeExpr) (args : List TypeExpr)
  deriving Repr
/-- A parameter, result or struct field. There are no names for an unnamed parameter and for an embedded
field; only struct fields have tags; mirrors `Field`. -/
inductive Field where
  | mk (names : List String) (type : TypeExpr) (tag : Option String)
  deriving Repr
end

namespace Field

def names : Field → List String
  | mk names _ _ => names

def type : Field → TypeExpr
  | mk _ type _ => type

def tag : Field → Option String
  | mk _ _ tag => tag

/-- mirrors `unnamed` -/
def unnamed (type : TypeExpr) : Field := mk [] type none

def withTag (tag : Option String) : Field → Field
  | mk names type _ => mk names type tag

end Field

/-- The name of the base type: `Base` of `*pkg.Base`; mirrors `base_name`. -/
def TypeExpr.baseName : TypeExpr → Option String
  | ident name => some name
  | selector _ name => some name
  | pointer elem => elem.baseName
  | generic base _ => base.baseName
  | _ => none

/-- A function, or a method when it has a receiver. `generic` says that it has type parameters of its
own; mirrors `FuncDecl`. -/
structure FuncDecl where
  doc : String
  line : Nat
  recv : Option Field
  name : String
  generic : Bool
  params : List Field
  results : List Field
  deriving Repr

/-- One type of a type declaration. Only a spec inside a group has a doc of its own; mirrors `TypeSpec`. -/
structure TypeSpec where
  doc : String
  name : String
  generic : Bool
  isAlias : Bool
  type : TypeExpr
  deriving Repr

/-- mirrors `TypeDecl` -/
structure TypeDecl where
  doc : String
  specs : List TypeSpec
  deriving Repr

/-- mirrors `Decl` -/
inductive Decl where
  | func (f : FuncDecl)
  | type (t : TypeDecl)
  deriving Repr

/-- mirrors `SourceFile` -/
structure SourceFile where
  package : String
  decls : List Decl
  deriving Repr

end GoGlue
