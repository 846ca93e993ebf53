import GoGlue.Decl
import GoGlue.Decl.Brackets
import GoGlue.Source

/-!
# Reading declarations

From the tokens of a source file to its declarations. Bodies, imports, constants and variables are
skipped bracket by bracket, so only declaration syntax is checked. Where Go's grammar needs to look
ahead (a name or a type, an array or the arguments of a generic type, a named or an embedded field), the
decision is a function of its own on the tokens ahead.

* `groupParameters_unnamed`: a list without a named entry is a list of types.
-/
namespace GoGlue.Parse

open Reply

/-! ## Parameter lists -/

/-- One entry of a parameter list: a name or type alone, a name with its type, or a type; mirrors `Entry`. -/
inductive Entry where
  | bare (name : String)
  | named (name : String) (type : TypeExpr)
  | type (type : TypeExpr)

def Entry.isNamed : Entry → Bool
  | named _ _ => true
  | _ => false

def Entry.unnamed : Entry → Field
  | .bare name => .unnamed (.ident name)
  | .named _ t => .unnamed t
  | .type t => .unnamed t

/-- Names run until the next type; `pending` holds those still without one. -/
def groupNamed (pending : List String) : List Entry → Option (List Field)
  | [] => if pending.isEmpty then some [] else none
  | .bare name :: rest => groupNamed (pending ++ [name]) rest
  | .named name type :: rest =>
    (groupNamed [] rest).map (Field.mk (pending ++ [name]) type none :: ·)
  | .type _ :: _ => none

/-- Go's grouping rule: either every entry is a type, or every entry is a name, with or without a type
of its own; mirrors `group_params`. -/
def groupParameters (entries : List Entry) : Option (List Field) :=
  if entries.any Entry.isNamed then groupNamed [] entries else some (entries.map Entry.unnamed)

theorem groupParameters_unnamed (entries : List Entry) (h : ∀ e ∈ entries, e.isNamed = false) :
    groupParameters entries = some (entries.map Entry.unnamed) := by
  have : entries.any Entry.isNamed = false := by simpa using h
  simp [groupParameters, this]

/-! ## Looking ahead -/

inductive EntryForm where
  | bare | named | type

/-- What an entry is whose first token is a name, given the tokens behind the name. -/
def entryForm : Tokens → EntryForm
  | ⟨.symbol .dot, _⟩ :: _ => .type
  | ⟨.symbol .comma, _⟩ :: _ | ⟨.symbol .rparen, _⟩ :: _ => .bare
  | ⟨.symbol .lbrack, _⟩ :: r => if beginsArray r then .named else .type
  | _ => .named

/-- A struct field that begins with a name is embedded, given the tokens behind the name. -/
def isEmbedded : Tokens → Bool
  | ⟨.symbol .dot, _⟩ :: _ | ⟨.symbol .semi, _⟩ :: _ | ⟨.symbol .rbrace, _⟩ :: _ => true
  | ⟨.string _, _⟩ :: _ => true
  | ⟨.symbol .lbrack, _⟩ :: r => !beginsArray r
  | _ => false

/-- A square bracket after the name of a declared type opens type parameters, not an array length, given
the tokens behind the bracket; mirrors `opens_type_params`. -/
def opensTypeParams : Tokens → Bool
  | ⟨.ident _, _⟩ :: t :: _ =>
    match t.token with
    | .symbol .rbrack | .symbol .star | .symbol .dot => false
    | .other c => c == '~'
    | _ => true
  | ⟨.ident _, _⟩ :: [] => true
  | _ => false

/-! ## Pieces that hold no types -/

/-- The tag of a struct field, if there is one. -/
def fieldTag (ts : Tokens) : Reply (Option String) ts :=
  match ts with
  | ⟨.string tag, pos⟩ :: r => (done (some tag) r).later ⟨.string tag, pos⟩
  | ts => done none ts

/-- The names of a field, separated by commas. -/
def fieldNames (stop : Position) (ts : Tokens) : Reply (List String) ts :=
  identifier stop .fieldName ts fun name r _ =>
    match r with
    | ⟨.symbol .comma, pos⟩ :: r' =>
      ((fieldNames stop r').map (name :: ·)).later ⟨.symbol .comma, pos⟩
    | r => done [name] r
termination_by ts.length
decreasing_by simp_all; omega

/-! ## Types -/

mutual
/-- A type; mirrors `parse_type`. -/
def typeExpr (stop : Position) (ts : Tokens) : Reply TypeExpr ts :=
  match ts with
  | ⟨.ident package, p⟩ :: ⟨.symbol .dot, q⟩ :: r =>
    ((identifier stop .selectedTypeName r fun name r' _ =>
      instantiated stop (.selector package name) r').later ⟨.symbol .dot, q⟩).later ⟨.ident package, p⟩
  | ⟨.ident name, p⟩ :: r => (instantiated stop (.ident name) r).later ⟨.ident name, p⟩
  | ⟨.symbol .star, p⟩ :: r => ((typeExpr stop r).map .pointer).later ⟨.symbol .star, p⟩
  | ⟨.symbol .lbrack, p⟩ :: ⟨.symbol .rbrack, q⟩ :: r =>
    (((typeExpr stop r).map .slice).later ⟨.symbol .rbrack, q⟩).later ⟨.symbol .lbrack, p⟩
  | ⟨.symbol .lbrack, p⟩ :: r =>
    ((arrayLength stop r).andThen fun len r' _ =>
      (typeExpr stop r').map (.array len)).later ⟨.symbol .lbrack, p⟩
  | ⟨.keyword .map, p⟩ :: r =>
    (expect stop (.symbol .lbrack) .lbrack r fun r1 _ =>
      (typeExpr stop r1).andThen fun key r2 _ =>
        expect stop (.symbol .rbrack) .rbrack r2 fun r3 _ =>
          (typeExpr stop r3).map (.map key)).later ⟨.keyword .map, p⟩
  | ⟨.keyword .chan, p⟩ :: ⟨.symbol .arrow, q⟩ :: r =>
    (((typeExpr stop r).map (.chan .send)).later ⟨.symbol .arrow, q⟩).later ⟨.keyword .chan, p⟩
  | ⟨.keyword .chan, p⟩ :: r => ((typeExpr stop r).map (.chan .both)).later ⟨.keyword .chan, p⟩
  | ⟨.symbol .arrow, p⟩ :: r =>
    (expect stop (.keyword .chan) .chanKeyword r fun r' _ =>
      (typeExpr stop r').map (.chan .recv)).later ⟨.symbol .arrow, p⟩
  | ⟨.keyword .func, p⟩ :: r =>
    ((parameters stop r).andThen fun params r' _ =>
      (results stop r').map (.func params)).later ⟨.keyword .func, p⟩
  | ⟨.keyword .interface, p⟩ :: r =>
    (expect stop (.symbol .lbrace) .lbrace r fun r' _ =>
      (interfaceBody stop r').map .interface).later ⟨.keyword .interface, p⟩
  | ⟨.keyword .struct, p⟩ :: r =>
    (expect stop (.symbol .lbrace) .lbrace r fun r' _ =>
      (structFields stop r').map .struct).later ⟨.keyword .struct, p⟩
  | ⟨.symbol .ellipsis, p⟩ :: r => ((typeExpr stop r).map .ellipsis).later ⟨.symbol .ellipsis, p⟩
  | ⟨.symbol .lparen, p⟩ :: r =>
    ((typeExpr stop r).andThen fun t r' _ =>
      expect stop (.symbol .rparen) .rparen r' fun r'' _ => done t r'').later ⟨.symbol .lparen, p⟩
  | ts => unexpected stop .typeExpr ts
termination_by 3 * ts.length + 0

/-- A named type with its arguments, if any follow. -/
def instantiated (stop : Position) (base : TypeExpr) (ts : Tokens) : Reply TypeExpr ts :=
  match ts with
  | ⟨.symbol .lbrack, p⟩ :: r => ((typeArgs stop r).map (.generic base)).later ⟨.symbol .lbrack, p⟩
  | ts => done base ts
termination_by 3 * ts.length + 0

/-- The arguments of a generic type, up to and with the closing bracket; mirrors `type_args`. -/
def typeArgs (stop : Position) (ts : Tokens) : Reply (List TypeExpr) ts :=
  match ts with
  | ⟨.symbol .rbrack, p⟩ :: r => (done [] r).later ⟨.symbol .rbrack, p⟩
  | ts =>
    (typeExpr stop ts).andThen fun t r _ =>
      match r with
      | ⟨.symbol .comma, p⟩ :: r' => ((typeArgs stop r').map (t :: ·)).later ⟨.symbol .comma, p⟩
      | r => expect stop (.symbol .rbrack) .rbrack r fun r' _ => done [t] r'
termination_by 3 * ts.length + 1

/-- A parameter list in parentheses; mirrors `parameters`. -/
def parameters (stop : Position) (ts : Tokens) : Reply (List Field) ts :=
  expect stop (.symbol .lparen) .lparen ts fun r _ =>
    (entries stop r).andThen fun es r' _ =>
      match groupParameters es with
      | some fields => done fields r'
      | none => fail stop .mixedParameters r'
termination_by 3 * ts.length + 0

/-- The entries of a parameter list, up to and with the closing parenthesis. -/
def entries (stop : Position) (ts : Tokens) : Reply (List Entry) ts :=
  match ts with
  | ⟨.symbol .rparen, p⟩ :: r => (done [] r).later ⟨.symbol .rparen, p⟩
  | ts =>
    (entry stop ts).andThen fun e r _ =>
      match r with
      | ⟨.symbol .comma, p⟩ :: r' => ((entries stop r').map (e :: ·)).later ⟨.symbol .comma, p⟩
      | r => expect stop (.symbol .rparen) .rparen r fun r' _ => done [e] r'
termination_by 3 * ts.length + 2

/-- mirrors `param_entry` -/
def entry (stop : Position) (ts : Tokens) : Reply Entry ts :=
  match ts with
  | ⟨.ident name, p⟩ :: r =>
    match entryForm r with
    | .bare => (done (.bare name) r).later ⟨.ident name, p⟩
    | .named => ((typeExpr stop r).map (.named name)).later ⟨.ident name, p⟩
    | .type => (typeExpr stop (⟨.ident name, p⟩ :: r)).map .type
  | ts => (typeExpr stop ts).map .type
termination_by 3 * ts.length + 1

/-- The results of a function: a parameter list, one type, or nothing; mirrors `results`. -/
def results (stop : Position) (ts : Tokens) : Reply (List Field) ts :=
  match ts with
  | [] => done [] []
  | t :: r =>
    if t.token = .symbol .lparen then parameters stop (t :: r)
    else if startsType t.token then (typeExpr stop (t :: r)).map fun type => [.unnamed type]
    else done [] (t :: r)
termination_by 3 * ts.length + 1

/-- The fields of a struct, up to and with the closing brace; mirrors `struct_body`. -/
def structFields (stop : Position) (ts : Tokens) : Reply (List Field) ts :=
  match ts with
  | ⟨.symbol .semi, p⟩ :: r => (structFields stop r).later ⟨.symbol .semi, p⟩
  | ⟨.symbol .rbrace, p⟩ :: r => (done [] r).later ⟨.symbol .rbrace, p⟩
  | ts =>
    (structField stop ts).andThen fun f r _ =>
      (fieldTag r).andThen fun tag r' _ =>
        match r' with
        | ⟨.symbol .rbrace, p⟩ :: r'' => (done [f.withTag tag] r'').later ⟨.symbol .rbrace, p⟩
        | r' =>
          expect stop (.symbol .semi) .endOfStatement r' fun r'' _ =>
            (structFields stop r'').map (f.withTag tag :: ·)
termination_by 3 * ts.length + 2

/-- One field of a struct without its tag; mirrors `struct_field`. -/
def structField (stop : Position) (ts : Tokens) : Reply Field ts :=
  match ts with
  | ⟨.symbol .star, p⟩ :: r => (typeExpr stop (⟨.symbol .star, p⟩ :: r)).map .unnamed
  | ⟨.ident name, p⟩ :: r =>
    if isEmbedded r then (typeExpr stop (⟨.ident name, p⟩ :: r)).map .unnamed
    else
      (fieldNames stop (⟨.ident name, p⟩ :: r)).andThen fun names r' _ =>
        (typeExpr stop r').map fun type => .mk names type none
  | ts => unexpected stop .fieldOrEmbedded ts
termination_by 3 * ts.length + 1
decreasing_by all_goals simp_all only [List.length_cons]; omega
end

/-! ## Declarations -/

/-- The rest of an import, constant or variable declaration after its keyword, when it is no group. -/
def skipValue (stop : Position) (ts : Tokens) : Reply Unit ts :=
  match ts with
  | [] => done () []
  | t :: r =>
    if t.token = .symbol .semi then (done () r).later t
    else if t.token.isOpening then
      match h : groupEnd 0 r with
      | some r' =>
        have shorter := groupEnd_length 0 r r' h
        (skipValue stop r').widen (Nat.le_succ_of_le (Nat.le_of_lt shorter))
      | none => .error ⟨t.pos, .unclosedDelimiter⟩
    else if t.token.isClosing then unexpected stop .endOfStatement (t :: r)
    else (skipValue stop r).later t
termination_by ts.length
decreasing_by all_goals simp_wf <;> omega

/-- An import, constant or variable declaration after its keyword; mirrors `skip_value_decl`. -/
def valueDecl (stop : Position) (ts : Tokens) : Reply Unit ts :=
  match ts with
  | ⟨.symbol .lparen, p⟩ :: r =>
    (skipGroup stop (⟨.symbol .lparen, p⟩ :: r)).andThen fun _ r' _ => endOfStatement stop r'
  | ts => skipValue stop ts

/-- A bracketed group, if the next token is the given one. -/
def optionalGroup (stop : Position) (opening : Symbol) (ts : Tokens) : Reply Bool ts :=
  match ts with
  | [] => done false []
  | t :: r =>
    if t.token = .symbol opening then (skipGroup stop (t :: r)).map fun _ => true
    else done false (t :: r)

/-- The receiver of a method, if there is one. -/
def receiver (stop : Position) (ts : Tokens) : Reply (Option Field) ts :=
  match ts with
  | ⟨.symbol .lparen, p⟩ :: r =>
    (parameters stop (⟨.symbol .lparen, p⟩ :: r)).andThen fun fields r' _ =>
      match fields with
      | [f] => done (some f) r'
      | _ => fail stop .receiverCount r'
  | ts => done none ts

/-- A function declaration after its keyword, which stands on the given line; mirrors `func_decl`. -/
def funcDecl (stop : Position) (doc : String) (line : Nat) (ts : Tokens) : Reply FuncDecl ts :=
  (receiver stop ts).andThen fun recv r1 _ =>
    identifier stop .functionName r1 fun name r2 _ =>
      (optionalGroup stop .lbrack r2).andThen fun generic r3 _ =>
        (parameters stop r3).andThen fun params r4 _ =>
          (results stop r4).andThen fun res r5 _ =>
            (optionalGroup stop .lbrace r5).andThen fun _ r6 _ =>
              (endOfStatement stop r6).map fun _ =>
                ⟨doc, line, recv, name, generic, params, res⟩

/-- The type parameters of a declared type, if it has any. -/
def typeParams (stop : Position) (ts : Tokens) : Reply Bool ts :=
  match ts with
  | ⟨.symbol .lbrack, p⟩ :: r =>
    if opensTypeParams r then (skipGroup stop (⟨.symbol .lbrack, p⟩ :: r)).map fun _ => true
    else done false (⟨.symbol .lbrack, p⟩ :: r)
  | ts => done false ts

/-- The mark of an alias, if there is one. -/
def aliasMark (ts : Tokens) : Reply Bool ts :=
  match ts with
  | ⟨.symbol .assign, p⟩ :: r => (done true r).later ⟨.symbol .assign, p⟩
  | ts => done false ts

/-- One type of a type declaration; mirrors `type_spec`. -/
def typeSpec (stop : Position) (doc : String) (ts : Tokens) : Reply TypeSpec ts :=
  identifier stop .typeName ts fun name r1 _ =>
    (typeParams stop r1).andThen fun generic r2 _ =>
      (aliasMark r2).andThen fun isAlias r3 _ =>
        (typeExpr stop r3).map fun type => ⟨doc, name, generic, isAlias, type⟩

/-- The types of a group, up to and with the closing parenthesis. -/
def typeSpecs (stop : Position) (docAt : Nat → String) (ts : Tokens) : Reply (List TypeSpec) ts :=
  match ts with
  | ⟨.symbol .semi, p⟩ :: r => (typeSpecs stop docAt r).later ⟨.symbol .semi, p⟩
  | ⟨.symbol .rparen, p⟩ :: r => (done [] r).later ⟨.symbol .rparen, p⟩
  | ts =>
    (typeSpec stop (docAt (here stop ts).line) ts).andThen fun spec r _ =>
      match r with
      | ⟨.symbol .rparen, p⟩ :: r' => (done [spec] r').later ⟨.symbol .rparen, p⟩
      | r =>
        expect stop (.symbol .semi) .endOfStatement r fun r' _ =>
          (typeSpecs stop docAt r').map (spec :: ·)
termination_by ts.length

/-- A type declaration after its keyword; mirrors `type_decl`. -/
def typeDecl (stop : Position) (docAt : Nat → String) (doc : String) (ts : Tokens) :
    Reply TypeDecl ts :=
  match ts with
  | ⟨.symbol .lparen, p⟩ :: r =>
    ((typeSpecs stop docAt r).andThen fun specs r' _ =>
      (endOfStatement stop r').map fun _ => ⟨doc, specs⟩).later ⟨.symbol .lparen, p⟩
  | ts =>
    (typeSpec stop "" ts).andThen fun spec r _ =>
      (endOfStatement stop r).map fun _ => ⟨doc, [spec]⟩

/-- All declarations up to the end of the source. -/
def declarations (stop : Position) (docAt : Nat → String) (ts : Tokens) : Reply (List Decl) ts :=
  match ts with
  | [] => done [] []
  | ⟨.symbol .semi, p⟩ :: r => (declarations stop docAt r).later ⟨.symbol .semi, p⟩
  | ⟨.keyword .importDecl, p⟩ :: r =>
    ((valueDecl stop r).andThen fun _ r' _ =>
      declarations stop docAt r').later ⟨.keyword .importDecl, p⟩
  | ⟨.keyword .const, p⟩ :: r =>
    ((valueDecl stop r).andThen fun _ r' _ =>
      declarations stop docAt r').later ⟨.keyword .const, p⟩
  | ⟨.keyword .var, p⟩ :: r =>
    ((valueDecl stop r).andThen fun _ r' _ =>
      declarations stop docAt r').later ⟨.keyword .var, p⟩
  | ⟨.keyword .func, p⟩ :: r =>
    ((funcDecl stop (docAt p.line) p.line r).andThen fun f r' _ =>
      (declarations stop docAt r').map (.func f :: ·)).later ⟨.keyword .func, p⟩
  | ⟨.keyword .type, p⟩ :: r =>
    ((typeDecl stop docAt (docAt p.line) r).andThen fun t r' _ =>
      (declarations stop docAt r').map (.type t :: ·)).later ⟨.keyword .type, p⟩
  | t :: r => fail stop (.notADeclaration t.token) (t :: r)
termination_by ts.length

/-- A source file: the package clause, then the declarations; mirrors `source_file`. -/
def sourceFile (stop : Position) (docAt : Nat → String) (ts : Tokens) : Reply SourceFile ts :=
  match ts with
  | ⟨.symbol .semi, p⟩ :: r => (sourceFile stop docAt r).later ⟨.symbol .semi, p⟩
  | ts =>
    expect stop (.keyword .package) .packageKeyword ts fun r _ =>
      identifier stop .packageName r fun package r' _ =>
        (endOfStatement stop r').andThen fun _ r'' _ =>
          (declarations stop docAt r'').map fun decls => ⟨package, decls⟩

end GoGlue.Parse

namespace GoGlue

/-- The declarations of a source that is cut into tokens. -/
def SourceFile.ofSource (s : Source) : Except SyntaxError SourceFile :=
  match Parse.sourceFile s.stop (Comment.docText s.comments) s.tokens with
  | .error e => .error e
  | .ok ⟨(file, _), _⟩ => .ok file

/-- Read one Go source file; mirrors `parse_file`. -/
def SourceFile.parse (text : String) : Except SyntaxError SourceFile :=
  match Source.read text with
  | .error e => .error e
  | .ok s => SourceFile.ofSource s

end GoGlue
