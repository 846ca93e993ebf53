import GoGlue.Decl.Parser
import GoGlue.Proofs.Decl.Cursor.Machine

/-!
# The grammar for a cursor

The productions of the grammar as programs that move a cursor. Lists are collected in loops, and brackets are
counted in loops or looked up from where the cursor stands. A production that holds types is given the program
that reads one, so all nesting goes through `parseType`, which counts how deep it may become and sees to it that
a type consumes something.
-/
namespace GoGlue.Cursor

open Parse (Entry EntryForm)

/-! ## Brackets -/

def groupRound (start : Position) (depth : Nat) : Cursor (Round Nat Unit) := do
  match ← bump with
  | none => raise ⟨start, .unclosedDelimiter⟩
  | some t =>
    if t.isOpening then return .again (depth + 1)
    else if t.isClosing then
      if depth - 1 = 0 then return .leave () else return .again (depth - 1)
    else return .again depth

/-- Take the bracketed group that the current token opens. -/
def skipGroup : Cursor Unit := do
  loop (groupRound (← current).pos) 0

/-- The index of the bracket that closes the first one of the marks, which begin at index `i`. -/
def matching (depth i : Nat) : List Mark → Option Nat
  | [] => none
  | m :: rest =>
    match m.token with
    | none => none
    | some t =>
      if t.isOpening then matching (depth + 1) (i + 1) rest
      else if t.isClosing then
        match depth with
        | 0 => none
        | 1 => some i
        | d + 2 => matching (d + 1) (i + 1) rest
      else matching depth (i + 1) rest

/-- With a name at the cursor and a square bracket behind it: the bracket begins a slice or array type. -/
def bracketsStartType : Cursor Bool := do
  let ms ← allMarks
  let pos ← position
  match matching 0 (pos + 1) (ms.drop (pos + 1)) with
  | none => return false
  | some close => return close == pos + 2 || (ms[close + 1]?.bind (·.token)).any Parse.startsType

def lengthRound (depth : Nat) : Cursor (Round Nat (Option UInt64)) := do
  match ← bump with
  | none => fail .unterminatedLength
  | some t =>
    if t.isOpening then return .again (depth + 1)
    else if depth = 0 ∧ t = .symbol .rbrack then return .leave none
    else if t.isClosing then return .again (depth - 1)
    else return .again depth

/-- The length of an array type behind its opening bracket. -/
def arrayLength : Cursor (Option UInt64) := do
  match (← current).token, (← ahead 1).token with
  | some (.number text), some (.symbol .rbrack) =>
    let _ ← bump
    let _ ← bump
    return Parse.literalLength text
  | _, _ => loop lengthRound 0

/-- The depth must not be counted down from zero. -/
def interfaceRound : Nat × Bool → Cursor (Round (Nat × Bool) Bool)
  | (depth, empty) => do
    match ← bump with
    | none => fail .unterminatedInterface
    | some t =>
      if t.isOpening then return .again (depth + 1, false)
      else if t.isClosing then
        match depth with
        | 0 => abort .underflow
        | 1 => return .leave empty
        | d + 2 => return .again (d + 1, empty)
      else if t = .symbol .semi then return .again (depth, empty)
      else return .again (depth, false)

/-- An interface body with its braces. -/
def interfaceBody : Cursor Bool := do
  expect (.symbol .lbrace) .lbrace
  loop interfaceRound (1, true)

/-! ## Lists -/

section

variable {α : Type} (item : Cursor α) (closing : Symbol)

def commaRound (items : List α) : Cursor (Round (List α) (List α)) := do
  if ← isAt (.symbol closing) then return .ended items
  else do
    let a ← item
    if ← eat (.symbol .comma) then return .again (items ++ [a]) else return .leave (items ++ [a])

/-- Items with commas between them, up to and with the closing token. -/
def commaList (what : Expected) : Cursor (List α) := do
  let items ← loop (commaRound item closing) []
  expect (.symbol closing) what
  return items

def semiRound (_ : Unit) : Cursor (Round Unit Unit) := do
  if ← eat (.symbol .semi) then return .again () else return .ended ()

/-- Take all semicolons at the cursor. -/
def skipSemis : Cursor Unit := loop semiRound ()

/-- Behind an item there is the closing token, which is left, or the end of the line. -/
def lineEnd (items : List α) : Cursor (Round (List α) (List α)) := do
  if ← isAt (.symbol closing) then return .again items
  else do
    expect (.symbol .semi) .endOfStatement
    return .again items

def lineRound (items : List α) : Cursor (Round (List α) (List α)) := do
  skipSemis
  if ← eat (.symbol closing) then return .leave items
  else do
    let a ← item
    lineEnd closing (items ++ [a])

/-- Items that end with their line, up to and with the closing token. -/
def lineList : Cursor (List α) := loop (lineRound item closing) []

end

/-! ## Types

`self` is the program that reads a type within another one. -/

section

variable (self : Cursor TypeExpr)

def entry : Cursor Entry := do
  match (← current).token with
  | some (.ident name) =>
    match (← ahead 1).token with
    | some (.symbol .dot) => return .type (← self)
    | some (.symbol .comma) | some (.symbol .rparen) =>
      let _ ← bump
      return .bare name
    | some (.symbol .lbrack) =>
      if ← bracketsStartType then
        let _ ← bump
        return .named name (← self)
      else return .type (← self)
    | _ =>
      let _ ← bump
      return .named name (← self)
  | _ => return .type (← self)

def parameters : Cursor (List Field) := do
  expect (.symbol .lparen) .lparen
  let entries ← commaList (entry self) .rparen .rparen
  match Parse.groupParameters entries with
  | some fields => return fields
  | none => fail .mixedParameters

def results : Cursor (List Field) := do
  if ← isAt (.symbol .lparen) then parameters self
  else if (← current).token.any Parse.startsType then return [.unnamed (← self)]
  else return []

def typeArgs : Cursor (List TypeExpr) := do
  expect (.symbol .lbrack) .lbrack
  commaList self .rbrack .rbrack

/-- A named type with its arguments, if any follow. -/
def instantiated (base : TypeExpr) : Cursor TypeExpr := do
  if ← isAt (.symbol .lbrack) then return .generic base (← typeArgs self) else return base

def nameRound (names : List String) : Cursor (Round (List String) (List String)) := do
  if ← eat (.symbol .comma) then return .again (names ++ [← identifier .fieldName])
  else return .ended names

/-- The names of a field, separated by commas. -/
def fieldNames : Cursor (List String) := do
  let name ← identifier .fieldName
  loop nameRound [name]

/-- A field that is no embedded one. -/
def namedField : Cursor Field := do
  let names ← fieldNames
  return .mk names (← self) none

def structField : Cursor Field := do
  match (← current).token with
  | some (.symbol .star) => return .unnamed (← self)
  | some (.ident _) =>
    match (← ahead 1).token with
    | some (.symbol .dot) | some (.symbol .semi) | some (.symbol .rbrace) | some (.string _) =>
      return .unnamed (← self)
    | some (.symbol .lbrack) =>
      if ← bracketsStartType then namedField self else return .unnamed (← self)
    | _ => namedField self
  | _ => unexpected .fieldOrEmbedded

def fieldTag : Cursor (Option String) := do
  match (← current).token with
  | some (.string tag) =>
    let _ ← bump
    return some tag
  | _ => return none

/-- A field with its tag. -/
def taggedField : Cursor Field := do
  let field ← structField self
  return field.withTag (← fieldTag)

def structBody : Cursor (List Field) := do
  expect (.symbol .lbrace) .lbrace
  lineList (taggedField self) .rbrace

/-- One type, with those within it read by `self`. -/
def typeForm : Cursor TypeExpr := do
  match (← current).token with
  | some (.ident name) =>
    let _ ← bump
    if ← eat (.symbol .dot) then do
      let selected ← identifier .selectedTypeName
      instantiated self (.selector name selected)
    else instantiated self (.ident name)
  | some (.symbol .star) =>
    let _ ← bump
    return .pointer (← self)
  | some (.symbol .lbrack) =>
    let _ ← bump
    if ← eat (.symbol .rbrack) then return .slice (← self)
    else do
      let len ← arrayLength
      return .array len (← self)
  | some (.keyword .map) =>
    let _ ← bump
    expect (.symbol .lbrack) .lbrack
    let key ← self
    expect (.symbol .rbrack) .rbrack
    return .map key (← self)
  | some (.keyword .chan) =>
    let _ ← bump
    if ← eat (.symbol .arrow) then return .chan .send (← self) else return .chan .both (← self)
  | some (.symbol .arrow) =>
    let _ ← bump
    expect (.keyword .chan) .chanKeyword
    return .chan .recv (← self)
  | some (.keyword .func) =>
    let _ ← bump
    let params ← parameters self
    return .func params (← results self)
  | some (.keyword .interface) =>
    let _ ← bump
    return .interface (← interfaceBody)
  | some (.keyword .struct) =>
    let _ ← bump
    return .struct (← structBody self)
  | some (.symbol .ellipsis) =>
    let _ ← bump
    return .ellipsis (← self)
  | some (.symbol .lparen) =>
    let _ ← bump
    let t ← self
    expect (.symbol .rparen) .rparen
    return t
  | _ => unexpected .typeExpr

end

/-- A type that holds others at most so deep. Whatever is read as a type consumes something. -/
def parseType : Nat → Cursor TypeExpr
  | 0 => abort .tooDeep
  | depth + 1 => moving (typeForm (parseType depth))

/-! ## Declarations -/

def valueRound (_ : Unit) : Cursor (Round Unit Unit) := do
  match (← current).token with
  | none => return .ended ()
  | some t =>
    if t = .symbol .semi then return .ended ()
    else if t.isOpening then do
      skipGroup
      return .again ()
    else if t.isClosing then unexpected .endOfStatement
    else do
      let _ ← bump
      return .again ()

/-- An import, constant or variable declaration behind its keyword. -/
def valueDecl : Cursor Unit := do
  if ← isAt (.symbol .lparen) then
    skipGroup
    endOfStatement
  else do
    loop valueRound ()
    endOfStatement

section

variable (docAt : Nat → String) (type : Cursor TypeExpr)

def receiver : Cursor (Option Field) := do
  if ← isAt (.symbol .lparen) then
    match ← parameters type with
    | [f] => return some f
    | _ => fail .receiverCount
  else return none

/-- A bracketed group, if the current token is the given bracket. -/
def optionalGroup (opening : Symbol) : Cursor Bool := do
  if ← isAt (.symbol opening) then
    skipGroup
    return true
  else return false

/-- A function declaration with its keyword. -/
def funcDecl : Cursor FuncDecl := do
  let line := (← current).pos.line
  let _ ← bump
  let recv ← receiver type
  let name ← identifier .functionName
  let generic ← optionalGroup .lbrack
  let params ← parameters type
  let res ← results type
  let _ ← optionalGroup .lbrace
  endOfStatement
  return ⟨docAt line, line, recv, name, generic, params, res⟩

/-- The bracket at the cursor opens type parameters, not an array length. -/
def opensTypeParams : Cursor Bool := do
  match (← ahead 1).token with
  | some (.ident _) =>
    match (← ahead 2).token with
    | some (.symbol .rbrack) | some (.symbol .star) | some (.symbol .dot) => return false
    | some (.other c) => return c == '~'
    | _ => return true
  | _ => return false

def typeParams : Cursor Bool := do
  if ← isAt (.symbol .lbrack) then
    if ← opensTypeParams then
      skipGroup
      return true
    else return false
  else return false

def typeSpec (doc : String) : Cursor TypeSpec := do
  let name ← identifier .typeName
  let generic ← typeParams
  let isAlias ← eat (.symbol .assign)
  return ⟨doc, name, generic, isAlias, ← type⟩

/-- A type of a group, with the doc text for its line. -/
def placedSpec : Cursor TypeSpec := do
  let line := (← current).pos.line
  typeSpec type (docAt line)

/-- A type declaration with its keyword. -/
def typeDecl : Cursor TypeDecl := do
  let line := (← current).pos.line
  let _ ← bump
  if ← eat (.symbol .lparen) then do
    let specs ← lineList (placedSpec docAt type) .rparen
    endOfStatement
    return ⟨docAt line, specs⟩
  else do
    let spec ← typeSpec type ""
    endOfStatement
    return ⟨docAt line, [spec]⟩

def declRound (decls : List Decl) : Cursor (Round (List Decl) (List Decl)) := do
  match (← current).token with
  | none => return .ended decls
  | some (.symbol .semi) =>
    let _ ← bump
    return .again decls
  | some (.keyword .importDecl) | some (.keyword .const) | some (.keyword .var) =>
    let _ ← bump
    valueDecl
    return .again decls
  | some (.keyword .func) => return .again (decls ++ [.func (← funcDecl docAt type)])
  | some (.keyword .type) => return .again (decls ++ [.type (← typeDecl docAt type)])
  | some t => fail (.notADeclaration t)

/-- All declarations up to the end of the source. -/
def declarations : Cursor (List Decl) := loop (declRound docAt type) []

/-- A source file. -/
def sourceFile : Cursor SourceFile := do
  skipSemis
  expect (.keyword .package) .packageKeyword
  let package ← identifier .packageName
  endOfStatement
  return ⟨package, ← declarations docAt type⟩

end

/-- Read one source file with a cursor. Types are nested at most as deep as there are marks. -/
def parseFile (text : String) : Outcome SourceFile :=
  match Source.read text with
  | .error e => .error e
  | .ok s =>
    sourceFile (Comment.docText s.comments) (parseType s.marks.length) s.marks 0

end GoGlue.Cursor
