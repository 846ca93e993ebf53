import GoGlue.Decl
import GoGlue.Decl.Reply

/-!
# Writing declarations as tokens

The tokens that a declaration is written with: parameter lists and results in parentheses, the element
of a channel in parentheses, a semicolon after every struct field, `[T any]` for type parameters,
`interface {}` or an interface with one method, an array length as a literal or one identifier, and
empty bodies. A name is an identifier token, which no keyword is. A tree says nothing about where its
tokens stand, so they are placed anywhere.

* `TypeExpr.Printable`: the types that have a spelling. A variadic type stands only directly as the type
  of a parameter, parameter lists are all named or all unnamed, an instantiation has arguments, and an
  embedded field is a type name or a pointer to one.
* `SourceFile.Written`: located tokens that spell a source file, with the docs and lines that their
  positions give.
-/
namespace GoGlue

/-! ## Located tokens -/

/-- The tokens, each where `pos` says. -/
def place (pos : Nat → Position) : List Token → Tokens
  | [] => []
  | t :: w => ⟨t, pos 0⟩ :: place (fun i => pos (i + 1)) w

@[simp] theorem place_nil (pos : Nat → Position) : place pos [] = [] := rfl

@[simp] theorem place_cons (pos : Nat → Position) (t : Token) (w : List Token) :
    place pos (t :: w) = ⟨t, pos 0⟩ :: place (fun i => pos (i + 1)) w := rfl

@[simp] theorem place_append (pos : Nat → Position) (v w : List Token) :
    place pos (v ++ w) = place pos v ++ place (fun i => pos (i + v.length)) w := by
  induction v generalizing pos with
  | nil => simp
  | cons t v ih =>
    rw [List.cons_append, place_cons, ih, place_cons, List.cons_append]
    simp only [List.length_cons, Nat.add_assoc]

@[simp] theorem length_place (pos : Nat → Position) (w : List Token) :
    (place pos w).length = w.length := by
  induction w generalizing pos with
  | nil => rfl
  | cons t w ih => simp [ih]

/-! ## Types -/

/-- The words of a list with a comma between any two of them. -/
def separated : List (List Token) → List Token
  | [] => []
  | [w] => w
  | w :: v :: ws => w ++ .symbol .comma :: separated (v :: ws)

/-- The words of a list, each with a semicolon behind it. -/
def terminated (ws : List (List Token)) : List Token := ws.flatMap (· ++ [.symbol .semi])

/-- An array length; a length that is not known is written as a constant. -/
def lengthToken : Option UInt64 → Token
  | some n => .number (toString n.toNat)
  | none => .ident "N"

/-- What stands before the element of a channel. -/
def chanTokens : ChanDir → List Token
  | .both => [.keyword .chan]
  | .send => [.keyword .chan, .symbol .arrow]
  | .recv => [.symbol .arrow, .keyword .chan]

/-- The body of an interface; one that is not empty has a method. -/
def methodTokens : Bool → List Token
  | true => []
  | false => [.ident "M", .symbol .lparen, .symbol .rparen]

/-- A list in parentheses. -/
def listTokens (ws : List (List Token)) : List Token :=
  .symbol .lparen :: (separated ws ++ [.symbol .rparen])

/-- Results: nothing, or a list in parentheses. -/
def resultTokens : List (List Token) → List Token
  | [] => []
  | w :: ws => listTokens (w :: ws)

def nameTokens (names : List String) : List Token :=
  separated (names.map fun name => [.ident name])

def tagTokens : Option String → List Token
  | some tag => [.string tag]
  | none => []

mutual
/-- The tokens of a type. -/
def TypeExpr.render : TypeExpr → List Token
  | .ident name => [.ident name]
  | .selector package name => [.ident package, .symbol .dot, .ident name]
  | .pointer elem => .symbol .star :: elem.render
  | .slice elem => .symbol .lbrack :: .symbol .rbrack :: elem.render
  | .array len elem => .symbol .lbrack :: lengthToken len :: .symbol .rbrack :: elem.render
  | .map key value =>
    .keyword .map :: .symbol .lbrack :: (key.render ++ .symbol .rbrack :: value.render)
  | .chan dir elem => chanTokens dir ++ .symbol .lparen :: (elem.render ++ [.symbol .rparen])
  | .func params results =>
    .keyword .func :: (listTokens (renderFields params) ++ resultTokens (renderFields results))
  | .interface empty =>
    .keyword .interface :: .symbol .lbrace :: (methodTokens empty ++ [.symbol .rbrace])
  | .struct fields =>
    .keyword .struct :: .symbol .lbrace ::
      (terminated (renderFields fields) ++ [.symbol .rbrace])
  | .ellipsis elem => .symbol .ellipsis :: elem.render
  | .generic base args =>
    base.render ++ .symbol .lbrack :: (separated (renderTypes args) ++ [.symbol .rbrack])

/-- The tokens of a parameter or struct field. -/
def Field.render : Field → List Token
  | .mk names type tag => nameTokens names ++ (type.render ++ tagTokens tag)

def renderFields : List Field → List (List Token)
  | [] => []
  | f :: fields => f.render :: renderFields fields

def renderTypes : List TypeExpr → List (List Token)
  | [] => []
  | t :: types => t.render :: renderTypes types
end

theorem renderFields_eq (fields : List Field) : renderFields fields = fields.map Field.render := by
  induction fields with
  | nil => rw [renderFields, List.map_nil]
  | cons f fields ih => rw [renderFields, List.map_cons, ih]

theorem renderTypes_eq (types : List TypeExpr) : renderTypes types = types.map TypeExpr.render := by
  induction types with
  | nil => rw [renderTypes, List.map_nil]
  | cons t types ih => rw [renderTypes, List.map_cons, ih]

/-- A name that type arguments can follow. -/
def TypeExpr.isBase : TypeExpr → Bool
  | ident _ | selector _ _ => true
  | _ => false

theorem TypeExpr.isBase_cases {t : TypeExpr} (h : t.isBase) :
    (∃ name, t = .ident name) ∨ ∃ package name, t = .selector package name := by
  cases t with
  | ident name => exact .inl ⟨name, rfl⟩
  | selector package name => exact .inr ⟨package, name, rfl⟩
  | _ => exact absurd h Bool.false_ne_true

/-- A name with or without type arguments. -/
def TypeExpr.isTypeName : TypeExpr → Bool
  | ident _ | selector _ _ | generic _ _ => true
  | _ => false

/-- What can be embedded in a struct. -/
def TypeExpr.isEmbeddable : TypeExpr → Bool
  | pointer elem => elem.isTypeName
  | t => t.isTypeName

/-- The type that a variadic parameter repeats; any other type is itself. -/
def TypeExpr.repeated : TypeExpr → TypeExpr
  | ellipsis elem => elem
  | t => t

/-- Parameters without tags that are all named or all unnamed. -/
structure ParamShape (params : List Field) : Prop where
  untagged : ∀ f ∈ params, f.tag = none
  uniform : (∀ f ∈ params, f.names ≠ []) ∨ ∀ f ∈ params, f.names = []

/-- The types that have a spelling. -/
inductive TypeExpr.Printable : TypeExpr → Prop
  | ident (name : String) : Printable (.ident name)
  | selector (package name : String) : Printable (.selector package name)
  | pointer {elem : TypeExpr} : Printable elem → Printable (.pointer elem)
  | slice {elem : TypeExpr} : Printable elem → Printable (.slice elem)
  | array (len : Option UInt64) {elem : TypeExpr} : Printable elem → Printable (.array len elem)
  | map {key value : TypeExpr} : Printable key → Printable value → Printable (.map key value)
  | chan (dir : ChanDir) {elem : TypeExpr} : Printable elem → Printable (.chan dir elem)
  | func {params results : List Field} : ParamShape params → ParamShape results →
      (∀ f ∈ params, Printable f.type.repeated) → (∀ f ∈ results, Printable f.type.repeated) →
      Printable (.func params results)
  | interface (empty : Bool) : Printable (.interface empty)
  | struct {fields : List Field} : (∀ f ∈ fields, f.names = [] → f.type.isEmbeddable) →
      (∀ f ∈ fields, Printable f.type) → Printable (.struct fields)
  | generic {base : TypeExpr} {args : List TypeExpr} : base.isBase → args ≠ [] →
      (∀ a ∈ args, Printable a) → Printable (.generic base args)

/-! ## Declarations -/

/-- A parameter list that has a spelling. -/
structure ParamList (params : List Field) : Prop extends ParamShape params where
  types : ∀ f ∈ params, f.type.repeated.Printable

structure FuncDecl.Printable (f : FuncDecl) : Prop where
  recv : ∀ r, f.recv = some r → ParamList [r]
  params : ParamList f.params
  results : ParamList f.results

def Decl.Printable : Decl → Prop
  | .func f => f.Printable
  | .type t => ∀ spec ∈ t.specs, spec.type.Printable

/-- A source file that has a spelling. -/
def SourceFile.Printable (file : SourceFile) : Prop := ∀ d ∈ file.decls, d.Printable

def typeParamTokens : Bool → List Token
  | true => [.symbol .lbrack, .ident "T", .ident "any", .symbol .rbrack]
  | false => []

def aliasTokens : Bool → List Token
  | true => [.symbol .assign]
  | false => []

def recvTokens : Option Field → List Token
  | some r => listTokens [r.render]
  | none => []

/-- A function declaration after its keyword. -/
def FuncDecl.render (f : FuncDecl) : List Token :=
  recvTokens f.recv ++ .ident f.name :: (typeParamTokens f.generic ++
    (listTokens (renderFields f.params) ++ (resultTokens (renderFields f.results) ++
      [.symbol .lbrace, .symbol .rbrace, .symbol .semi])))

/-- One type of a type declaration. -/
def TypeSpec.render (s : TypeSpec) : List Token :=
  .ident s.name :: (typeParamTokens s.generic ++ (aliasTokens s.isAlias ++ s.type.render))

variable (docAt : Nat → String)

/-- Located tokens that spell the types of a group, each with the doc of the line it begins on. -/
inductive WrittenSpecs : List TypeSpec → Tokens → Prop
  | nil : WrittenSpecs [] []
  | cons {s : TypeSpec} {specs : List TypeSpec} {rest : Tokens} (pos : Nat → Position)
      (hdoc : docAt (pos 0).line = s.doc) (written : WrittenSpecs specs rest) :
      WrittenSpecs (s :: specs) (place pos (s.render ++ [.symbol .semi]) ++ rest)

/-- Located tokens that spell a declaration: a function with the line and the doc of its keyword, one
type, or a group of types. -/
inductive Decl.Written : Decl → Tokens → Prop
  | func {f : FuncDecl} (p : Position) (pos : Nat → Position) (hline : p.line = f.line)
      (hdoc : docAt p.line = f.doc) :
      Written (.func f) (⟨.keyword .func, p⟩ :: place pos f.render)
  | single {doc : String} {s : TypeSpec} (p : Position) (pos : Nat → Position)
      (hdoc : docAt p.line = doc) (plain : s.doc = "") :
      Written (.type ⟨doc, [s]⟩)
        (⟨.keyword .type, p⟩ :: place pos (s.render ++ [.symbol .semi]))
  | group {doc : String} {specs : List TypeSpec} {ts : Tokens} (p q : Position)
      (pos : Nat → Position) (hdoc : docAt p.line = doc) (written : WrittenSpecs docAt specs ts) :
      Written (.type ⟨doc, specs⟩)
        (⟨.keyword .type, p⟩ :: ⟨.symbol .lparen, q⟩ ::
          (ts ++ place pos [.symbol .rparen, .symbol .semi]))

/-- Located tokens that spell declarations one after the other. -/
inductive WrittenDecls : List Decl → Tokens → Prop
  | nil : WrittenDecls [] []
  | cons {d : Decl} {decls : List Decl} {ts rest : Tokens} (head : d.Written docAt ts)
      (tail : WrittenDecls decls rest) : WrittenDecls (d :: decls) (ts ++ rest)

/-- Located tokens that spell a source file: the package clause, then the declarations. -/
inductive SourceFile.Written : SourceFile → Tokens → Prop
  | mk {package : String} {decls : List Decl} {rest : Tokens} (pos : Nat → Position)
      (written : WrittenDecls docAt decls rest) :
      Written ⟨package, decls⟩
        (place pos [.keyword .package, .ident package, .symbol .semi] ++ rest)

end GoGlue
