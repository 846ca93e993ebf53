import GoGlue.Config
import GoGlue.Extraction
import GoGlue.Plugin

/-!
# Attempts

A step of a command either succeeds or fails, or it never ends, and it shows something either way: lines for
the user, and log records. Steps are put together so that a failure ends the command and keeps what was shown
before, and behind a step that never ends there is nothing.

* `bind_error`: after a failure nothing else is done.
-/
namespace GoGlue

/-- Why a command fails. -/
inductive Failure where
  | config (e : ConfigError)
  | extract (path : String) (e : ExtractError)
  | plugin (e : CodegenError)
  | generate (name : String) (e : CodegenError)
  | noOutput
  | makeDirectory (path : String) (e : FileError)
  | write (path : String) (e : FileError)
  | writeProject (dir : String) (e : FileError)
  deriving Repr

namespace Failure

/-- An error with what caused it. Where the cause is an error of its own, it is told again. -/
def withCause (e : ExtractError) : String :=
  match e with
  | .unsupported _ cause => e.message ++ ": " ++ cause.message
  | _ => e.message

def message : Failure → String
  | config e => e.message
  | extract path e => "Failed to extract package at '" ++ path ++ "': " ++ withCause e
  | plugin e => e.message
  | generate name e => "Failed to generate " ++ name ++ " glue: " ++ e.message
  | noOutput => "plugin produced no output"
  | makeDirectory path e => "Failed to create directory '" ++ path ++ "': " ++ e.message
  | write path e => "Failed to write '" ++ path ++ "': " ++ e.message
  | writeProject dir e => "Failed to write to '" ++ dir ++ "': " ++ e.message

end Failure

/-- What a step comes to, and what it showed. -/
structure Attempt (α : Type) where
  /-- A step that never ends has no result. -/
  result : Option (Except Failure α)
  lines : List String
  log : List LogRecord

namespace Attempt

def succeed {α : Type} (a : α) : Attempt α := ⟨some (.ok a), [], []⟩

def fail {α : Type} (e : Failure) : Attempt α := ⟨some (.error e), [], []⟩

/-- A step that may fail or never end, and is logged. -/
def awaited {α ε : Type} (failure : ε → Failure) (step : Option (Except ε α) × List LogRecord) : Attempt α :=
  ⟨step.1.map (Except.mapError failure), [], step.2⟩

/-- A step that may fail and is logged. -/
def logged {α ε : Type} (failure : ε → Failure) (step : Except ε α × List LogRecord) : Attempt α :=
  awaited failure (some step.1, step.2)

/-- A step that may fail and shows nothing. -/
def silent {α ε : Type} (failure : ε → Failure) (step : Except ε α) : Attempt α :=
  logged failure (step, [])

def print (lines : List String) : Attempt Unit := ⟨some (.ok ()), lines, []⟩

def andThen {α β : Type} (x : Attempt α) (f : α → Attempt β) : Attempt β :=
  match x.result with
  | none => ⟨none, x.lines, x.log⟩
  | some (.error e) => ⟨some (.error e), x.lines, x.log⟩
  | some (.ok a) => ⟨(f a).result, x.lines ++ (f a).lines, x.log ++ (f a).log⟩

instance : Monad Attempt where
  pure := succeed
  bind := andThen

theorem bind_error {α β : Type} (x : Attempt α) (f : α → Attempt β) (e : Failure)
    (h : x.result = some (.error e)) : x >>= f = ⟨some (.error e), x.lines, x.log⟩ := by
  show andThen x f = _
  simp [andThen, h]

end Attempt

end GoGlue
