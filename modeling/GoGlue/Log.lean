/-!
# Log records

What an operation has to say besides its result. Operations answer with their records in order; whether
and how a record is shown is decided elsewhere.
-/
namespace GoGlue

inductive LogLevel where
  | error | warn | info | debug | trace
  deriving DecidableEq, Repr

namespace LogLevel

def name : LogLevel → String
  | error => "ERROR"
  | warn => "WARN"
  | info => "INFO"
  | debug => "DEBUG"
  | trace => "TRACE"

/-- Records of this level are shown; debugging records never are. -/
def isShown (verbose : Bool) : LogLevel → Bool
  | error | warn => true
  | info => verbose
  | debug | trace => false

end LogLevel

structure LogRecord where
  level : LogLevel
  message : String
  deriving DecidableEq, Repr

namespace LogRecord

def warn (message : String) : LogRecord := ⟨.warn, message⟩

def info (message : String) : LogRecord := ⟨.info, message⟩

def debug (message : String) : LogRecord := ⟨.debug, message⟩

/-- The record about a symbol that is left out: a warning on demand, for debugging otherwise. -/
def skipping (verbose : Bool) (message : String) : LogRecord :=
  if verbose then warn message else debug message

end LogRecord

end GoGlue
