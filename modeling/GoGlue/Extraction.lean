import GoGlue.Decl.Parser
import GoGlue.FileError
import GoGlue.GoType.Resolve
import GoGlue.Log
import GoGlue.Package

/-!
# Extracting a package

The exported surface of a package from its source files. Every declaration contributes items: functions,
structs, methods, and symbols that are dropped because they cannot cross the boundary. The items of all
files are put together into the package, each method with its struct wherever that is declared. Strict
extraction refuses the first dropped symbol.
-/
namespace GoGlue

/-- mirrors `ExtractError` -/
inductive ExtractError where
  | directoryNotFound (path : String)
  | io (path : String) (cause : FileError)
  | source (file : String) (cause : SyntaxError)
  | noPackage (location : String)
  | noNonTestPackage (location : String)
  | unsupported (symbol : String) (cause : Unsupported)
  deriving Repr

def ExtractError.message : ExtractError → String
  | directoryNotFound path => "package directory not found: " ++ path
  | io path cause => "I/O error reading " ++ path ++ ": " ++ cause.message
  | source file cause =>
    "syntax error in " ++ file ++ ":" ++ toString cause.pos.line ++ ":"
      ++ toString cause.pos.column ++ ": " ++ cause.fault.message
  | noPackage location => "no Go packages found in " ++ location
  | noNonTestPackage location => "no non-test packages found in " ++ location
  | unsupported symbol cause => "cannot expose " ++ symbol ++ ": " ++ cause.message

/-- mirrors `ExtractOptions` -/
structure ExtractOptions where
  /-- Dropped symbols are worth a warning. -/
  verbose : Bool
  /-- A dropped symbol is an error. -/
  strict : Bool
  deriving DecidableEq, Repr

/-- A symbol that is left out; mirrors `DroppedSymbol`. -/
structure Dropped where
  symbol : String
  cause : Unsupported
  deriving DecidableEq, Repr

/-- A package, the files it was read from and what had to be left out; mirrors `ExtractReport`. -/
structure Extraction where
  package : Package
  files : List String
  dropped : List Dropped
  deriving Repr

namespace Extraction

/-! ## Items of a declaration -/

/-- What a declaration contributes. -/
inductive Item where
  | func (f : Func)
  | struct (s : Struct)
  | method (m : Method)
  | dropped (d : Dropped)
  deriving Repr

/-- A field list as parameters, one for each name; mirrors `resolve_fields`. -/
def params (f : Field) : Except Unsupported (List Param) :=
  f.type.resolve.map fun t => if f.names = [] then [.unnamed t] else f.names.map (⟨·, t⟩)

def allParams : List Field → Except Unsupported (List Param)
  | [] => .ok []
  | f :: rest => do return (← params f) ++ (← allParams rest)

/-- A function is variadic if its last parameter is. -/
def isVariadic (fields : List Field) : Bool :=
  match fields.getLast? with
  | some (.mk _ (.ellipsis _) _) => true
  | _ => false

/-- mirrors `signature` -/
def signature (f : FuncDecl) : Except Unsupported Signature := do
  return ⟨← allParams f.params, ← allParams f.results, isVariadic f.params⟩

/-- The item of a function declaration without a receiver; mirrors `function`. -/
def funcItems (f : FuncDecl) : List Item :=
  if !isExported f.name then []
  else if f.generic then [.dropped ⟨f.name, .generic⟩]
  else
    match signature f with
    | .ok sig => [.func ⟨sig, f.name, f.doc⟩]
    | .error cause => [.dropped ⟨f.name, cause⟩]

/-- The type a receiver belongs to: its name, whether the receiver is a pointer, and whether the type has
arguments. -/
def receiverType : TypeExpr → Option (String × Bool × Bool)
  | .pointer (.ident name) => some (name, true, false)
  | .pointer (.generic base _) => some (base.baseName.getD "", true, true)
  | .ident name => some (name, false, false)
  | .generic base _ => some (base.baseName.getD "", false, true)
  | _ => none

/-- The item of a method declaration. A method of a type that is not exported cannot be reached; mirrors `method`. -/
def methodItems (recv : Field) (f : FuncDecl) : List Item :=
  match receiverType recv.type with
  | none => []
  | some (owner, byPointer, generic) =>
    if !isExported f.name || !isExported owner then []
    else if generic || f.generic then [.dropped ⟨owner ++ "." ++ f.name, .generic⟩]
    else
      match signature f with
      | .ok sig => [.method ⟨sig, f.name, f.doc, recv.names.head?.getD "", owner, byPointer⟩]
      | .error cause => [.dropped ⟨owner ++ "." ++ f.name, cause⟩]

/-- The exported names of a field; an embedded one is named after its base type. -/
def fieldNames (f : Field) : List String :=
  (if f.names = [] then f.type.baseName.toList else f.names).filter isExported

/-- The fields that a field declaration of the named struct contributes, and those it has to drop;
mirrors `fields`. -/
def structFields (owner : String) (f : Field) : List StructField × List Dropped :=
  match f.type.resolve with
  | .ok t => ((fieldNames f).map fun name => ⟨name, t, f.tag.getD "", true⟩, [])
  | .error cause => ([], (fieldNames f).map fun name => ⟨owner ++ "." ++ name, cause⟩)

/-- The items of one type of a type declaration: only exported structs count. -/
def specItems (doc : String) (s : TypeSpec) : List Item :=
  match s.type with
  | .struct fields =>
    if s.isAlias || !isExported s.name then []
    else if s.generic then [.dropped ⟨s.name, .generic⟩]
    else
      let parts := fields.map (structFields s.name)
      (parts.flatMap (·.2)).map .dropped
        ++ [.struct ⟨s.name, if doc = "" then s.doc else doc, parts.flatMap (·.1), []⟩]
  | _ => []

def declItems : Decl → List Item
  | .func f =>
    match f.recv with
    | some recv => methodItems recv f
    | none => funcItems f
  | .type t => t.specs.flatMap (specItems t.doc)

/-! ## Putting a package together -/

def Item.func? : Item → Option Func
  | .func f => some f
  | _ => none

def Item.struct? : Item → Option Struct
  | .struct s => some s
  | _ => none

def Item.method? : Item → Option Method
  | .method m => some m
  | _ => none

def Item.dropped? : Item → Option Dropped
  | .dropped d => some d
  | _ => none

/-- Each method goes to the first struct of its receiver's name; `taken` holds the names seen so far. -/
def attach (methods : List Method) (taken : List String) : List Struct → List Struct
  | [] => []
  | s :: rest =>
    let own := if s.name ∈ taken then [] else methods.filter (·.receiverType = s.name)
    { s with methods := own } :: attach methods (s.name :: taken) rest

/-- The records about methods of types that are no structs, one for each type. -/
def strayRecords (structs : List Struct) (methods : List Method) : List LogRecord :=
  let owners := (methods.map (·.receiverType)).eraseDups
  (owners.filter fun o => !structs.any (·.name = o)).map fun o =>
    let count := (methods.filter (·.receiverType = o)).length
    .debug ("ignoring " ++ toString count ++ " method(s) on non-struct type " ++ o)

/-- A Go source that is no test; mirrors `is_package_source`. -/
def isPackageSource (name : String) : Bool := name.endsWith ".go" && !name.endsWith "_test.go"

/-- Read the sources in order, without those that are tests or no Go files. -/
def readSources : List (String × String) → Except ExtractError (List (String × SourceFile))
  | [] => .ok []
  | (name, text) :: rest =>
    if isPackageSource name then
      match SourceFile.parse text with
      | .error e => .error (.source name e)
      | .ok file => (readSources rest).map ((name, file) :: ·)
    else readSources rest

/-- The package to extract: the first one that is no test package, and its files. -/
def selectPackage (location : String) (files : List (String × SourceFile)) :
    Except ExtractError (String × List (String × SourceFile)) :=
  if files = [] then .error (.noPackage location)
  else
    match files.find? fun f => !f.2.package.endsWith "_test" with
    | none => .error (.noNonTestPackage location)
    | some (_, file) => .ok (file.package, files.filter (·.2.package = file.package))

/-- Put together the items of all files of a package; mirrors `build`. -/
def ofItems (dir name : String) (files : List String) (items : List Item) : Extraction :=
  let structs := attach (items.filterMap Item.method?) [] (items.filterMap Item.struct?)
  ⟨⟨name, "", dir, items.filterMap Item.func?, structs⟩, files, items.filterMap Item.dropped?⟩

/-- mirrors `drop_symbol` -/
def droppedRecord (verbose : Bool) (d : Dropped) : LogRecord :=
  .skipping verbose ("skipping " ++ d.symbol ++ ": " ++ d.cause.message)

/-- Extract the package of a directory from its files, given as names and texts; mirrors `extract_sources`. -/
def extract (opts : ExtractOptions) (dir : String) (sources : List (String × String)) :
    Except ExtractError Extraction × List LogRecord :=
  match readSources sources with
  | .error e => (.error e, [])
  | .ok parsed =>
    match selectPackage dir parsed with
    | .error e => (.error e, [])
    | .ok (name, files) =>
      let items := files.flatMap fun f => f.2.decls.flatMap declItems
      let result := ofItems dir name (files.map (·.1)) items
      match opts.strict, result.dropped with
      | true, d :: _ => (.error (.unsupported d.symbol d.cause), [])
      | _, _ =>
        (.ok result, result.dropped.map (droppedRecord opts.verbose)
          ++ strayRecords result.package.structs (items.filterMap Item.method?))

end Extraction

end GoGlue
