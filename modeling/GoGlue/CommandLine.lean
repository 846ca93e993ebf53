/-!
# The command line

A command line names a command and gives it arguments: flags, options with a value, and at most one path.
Arguments are taken one by one. A value that follows its option as an argument of its own, and the path,
are only settled when the next argument is taken; what is wrong with them is said then, unless the next
argument is wrong itself.
-/
namespace GoGlue

/-- Why a command line is not run. -/
inductive Usage where
  | unknownArgument
  | invalidSubcommand
  /-- A value is missing, or it is empty where a path is expected. -/
  | invalidValue
  /-- An argument is given twice. -/
  | argumentConflict
  /-- A flag is given a value. -/
  | tooManyValues
  | missingSubcommand
  | help
  | version
  deriving DecidableEq, Repr

/-- Asking for help or for the version is no mistake. -/
def Usage.exitCode : Usage → Nat
  | help | version => 0
  | _ => 2

namespace CommandLine

/-! ## Arguments -/

/-- What an argument is about. -/
inductive Key where
  | path
  | plugin | output | importPath | libName | buildSystem | config
  | packaging | strict | verbose | json
  | help | version
  deriving DecidableEq, Repr

namespace Key

/-- The spelling after two dashes. -/
def long? : Key → Option String
  | path => none
  | plugin => some "plugin"
  | output => some "output"
  | importPath => some "import-path"
  | libName => some "lib-name"
  | buildSystem => some "build-system"
  | config => some "config"
  | packaging => some "packaging"
  | strict => some "strict"
  | verbose => some "verbose"
  | json => some "json"
  | help => some "help"
  | version => some "version"

/-- The letter after one dash. -/
def short? : Key → Option Char
  | plugin => some 'p'
  | output => some 'o'
  | importPath => some 'i'
  | verbose => some 'v'
  | help => some 'h'
  | version => some 'V'
  | _ => none

/-- The argument takes a value. -/
def hasValue : Key → Bool
  | path | plugin | output | importPath | libName | buildSystem | config => true
  | _ => false

/-- The value is a path, which cannot be empty. -/
def isPath : Key → Bool
  | path | output | config => true
  | _ => false

end Key

/-- The keys that a command knows. -/
structure Form where
  keys : List Key

namespace Form

def generate : Form :=
  ⟨[.path, .plugin, .output, .importPath, .libName, .buildSystem, .config, .packaging, .strict, .verbose,
    .help, .version]⟩

def inspect : Form := ⟨[.path, .json, .verbose, .help, .version]⟩

/-- The form of a command without arguments of its own, and of what stands before the command. -/
def bare : Form := ⟨[.help, .version]⟩

end Form

/-- How an argument is spelled. -/
inductive Shape where
  /-- Two dashes: only plain arguments follow. -/
  | divider
  | long (name : String) (value : Option String)
  | shorts (letters : List Char)
  | plain
  deriving DecidableEq, Repr

/-- What follows the first equals sign. -/
def afterEquals (cs : List Char) : Option String :=
  match cs.dropWhile (· ≠ '=') with
  | [] => none
  | _ :: value => some (String.ofList value)

def Shape.ofArgument (arg : String) : Shape :=
  match arg.toList with
  | ['-', '-'] => .divider
  | '-' :: '-' :: body => .long (String.ofList (body.takeWhile (· ≠ '='))) (afterEquals body)
  | '-' :: c :: letters => .shorts (c :: letters)
  | _ => .plain

/-! ## Taking arguments -/

/-- What has been taken so far. -/
structure Scan where
  /-- The arguments that are settled, with their values. -/
  given : List (Key × String)
  /-- The argument that is not settled, with its value if it has one yet. -/
  pending : Option (Key × Option String)
  /-- The divider was seen. -/
  divided : Bool
  /-- The path was seen. -/
  placed : Bool
  deriving Repr

namespace Scan

def new : Scan := ⟨[], none, false, false⟩

def has (s : Scan) (k : Key) : Bool := s.given.any (·.1 = k)

def value? (s : Scan) (k : Key) : Option String := (s.given.find? (·.1 = k)).map (·.2)

/-- Settle an argument. -/
def record (s : Scan) (k : Key) (value : String) : Except Usage Scan :=
  if s.has k then .error .argumentConflict
  else if k.isPath ∧ value = "" then .error .invalidValue
  else .ok { s with given := s.given ++ [(k, value)] }

/-- Settle what is pending. -/
def settle (s : Scan) : Except Usage Scan :=
  match s.pending with
  | none => .ok s
  | some (_, none) => .error .invalidValue
  | some (k, some value) => record { s with pending := none } k value

/-- Take a flag. -/
def flag (s : Scan) (k : Key) : Except Usage Scan := do
  let s ← s.settle
  match k with
  | .help => throw .help
  | .version => throw .version
  | k => s.record k ""

/-- Take an option, with its value if that is attached to it. -/
def option (s : Scan) (k : Key) (value : Option String) : Except Usage Scan := do
  let s ← s.settle
  match value with
  | some value => s.record k value
  | none => return { s with pending := some (k, none) }

def long (form : Form) (s : Scan) (name : String) (value : Option String) : Except Usage Scan :=
  match form.keys.find? (·.long? = some name) with
  | none => .error .unknownArgument
  | some k =>
    if k.hasValue then s.option k value
    else if value.isSome then .error .tooManyValues
    else s.flag k

/-- The value that is attached to an option after its letter. -/
def attached : List Char → Option String
  | [] => none
  | '=' :: value => some (String.ofList value)
  | value => some (String.ofList value)

/-- Take letters: flags, and possibly one option, to which the rest is attached. -/
def shorts (form : Form) (s : Scan) : List Char → Except Usage Scan
  | [] => .ok s
  | c :: rest =>
    match form.keys.find? (·.short? = some c) with
    | none => .error .unknownArgument
    | some k =>
      if k.hasValue then s.option k (attached rest)
      else
        match s.flag k with
        | .error e => .error e
        | .ok s => s.shorts form rest

/-- Take a plain argument that is not the value of an option. -/
def operand (form : Form) (s : Scan) (arg : String) : Except Usage Scan :=
  if form.keys.contains .path && !s.placed then do
    let s ← s.settle
    return { s with pending := some (.path, some arg), placed := true }
  else .error .unknownArgument

/-- Take one argument. -/
def take (form : Form) (s : Scan) (arg : String) : Except Usage Scan :=
  if s.divided then s.operand form arg
  else
    match Shape.ofArgument arg with
    | .divider => .ok { s with divided := true }
    | .long name value => s.long form name value
    | .shorts letters => s.shorts form letters
    | .plain =>
      match s.pending with
      | some (k, none) => .ok { s with pending := some (k, some arg) }
      | _ => s.operand form arg

/-- Take all arguments of a command. -/
def run (form : Form) (args : List String) : Except Usage Scan := do
  (← args.foldlM (take form) new).settle

end Scan

end CommandLine

/-! ## Commands -/

/-- mirrors `GenerateArgs` -/
structure GenerateArgs where
  path : String
  plugin : Option String
  output : Option String
  importPath : Option String
  libName : Option String
  buildSystem : Option String
  config : Option String
  packaging : Bool
  strict : Bool
  verbose : Bool
  deriving DecidableEq, Repr

structure InspectArgs where
  path : String
  json : Bool
  verbose : Bool
  deriving DecidableEq, Repr

/-- mirrors `Command` -/
inductive Command where
  | generate (args : GenerateArgs)
  | inspect (args : InspectArgs)
  | plugins
  deriving DecidableEq, Repr

namespace CommandLine

/-- The path of a command; it is the working directory if none is given. -/
def pathOf (s : Scan) : String := (s.value? .path).getD "."

def parseGenerate (args : List String) : Except Usage GenerateArgs := do
  let s ← Scan.run .generate args
  return {
    path := pathOf s
    plugin := s.value? .plugin
    output := s.value? .output
    importPath := s.value? .importPath
    libName := s.value? .libName
    buildSystem := s.value? .buildSystem
    config := s.value? .config
    packaging := s.has .packaging
    strict := s.has .strict
    verbose := s.has .verbose }

def parseInspect (args : List String) : Except Usage InspectArgs := do
  let s ← Scan.run .inspect args
  return ⟨pathOf s, s.has .json, s.has .verbose⟩

def subcommands : List String := ["generate", "inspect", "plugins", "help"]

/-- Help is asked for on a command, or on none. -/
def parseHelp : List String → Usage
  | [] => .help
  | [name] => if name ∈ subcommands then .help else .invalidSubcommand
  | _ => .invalidSubcommand

/-- After the divider, nothing can be a command. -/
def parseDivided : List String → Usage
  | [] => .missingSubcommand
  | arg :: _ => if arg ∈ subcommands then .unknownArgument else .invalidSubcommand

/-- The command of a command line; mirrors `Cli.parse`. -/
def parse : List String → Except Usage Command
  | [] => .error .missingSubcommand
  | "generate" :: args => (parseGenerate args).map .generate
  | "inspect" :: args => (parseInspect args).map .inspect
  | "plugins" :: args => (Scan.run .bare args).map fun _ => .plugins
  | "help" :: args => .error (parseHelp args)
  | arg :: args =>
    match Shape.ofArgument arg with
    | .divider => .error (parseDivided args)
    | .plain => .error .invalidSubcommand
    | .long name value =>
      match Scan.new.long .bare name value with
      | .error e => .error e
      | .ok _ => parse args
    | .shorts letters =>
      match Scan.new.shorts .bare letters with
      | .error e => .error e
      | .ok _ => parse args

end CommandLine

end GoGlue
