import GoGlue.Extraction
import GoGlue.Json.Printer
import GoGlue.Package.Json

/-!
# Outlines

How a package is shown: as text, one line for each function, struct, field and method, or as JSON.
-/
namespace GoGlue

/-! ## Signatures -/

def Param.outline (p : Param) : String := if p.name = "" then p.type.name else p.name ++ " " ++ p.type.name

/-- mirrors `param_list` -/
def paramList (ps : List Param) : String := ", ".intercalate (ps.map Param.outline)

/-- The results with what separates them from the parameters; mirrors `result_list`. -/
def resultList (ps : List Param) : String :=
  match ps with
  | [] => ""
  | [p] => if p.name = "" then " " ++ p.type.name else " (" ++ paramList ps ++ ")"
  | ps => " (" ++ paramList ps ++ ")"

def Signature.outline (s : Signature) : String :=
  "(" ++ paramList s.params ++ ")" ++ resultList s.results

/-! ## Packages -/

namespace Extraction

/-- The lines about what was left out; mirrors `print_dropped`. -/
def droppedLines (x : Extraction) : List String :=
  x.dropped.map fun d => "  ! skipped " ++ d.symbol ++ ": " ++ d.cause.message

def functionLine (f : Func) : String :=
  "  " ++ f.name ++ f.toSignature.outline ++ if f.isVariadic then " (variadic)" else ""

def methodLine (m : Method) : String :=
  "    (" ++ (if m.receiverIsPtr then "*" else "") ++ m.receiverType ++ ") " ++ m.name
    ++ m.toSignature.outline

def structLines (s : Struct) : List String :=
  ["  " ++ s.name ++ " (" ++ toString s.exportedFields.length ++ " field(s), "
      ++ toString s.methods.length ++ " method(s))"]
    ++ s.exportedFields.map (fun f => "    " ++ f.name ++ " " ++ f.type.name)
    ++ s.methods.map methodLine

/-- A part of the text, which is left out if there is nothing in it. -/
def titled (title : String) (lines : List String) : List String :=
  if lines = [] then [] else "" :: title :: lines

/-- The text about a package, line by line. -/
def outline (x : Extraction) : List String :=
  ["Package", "  Name:        " ++ x.package.name,
      "  Import path: " ++ x.package.effectiveImportPath,
      "  Files:       " ++ ", ".intercalate x.files]
    ++ titled "Functions" (x.package.functions.map functionLine)
    ++ titled "Structs" (x.package.structs.flatMap structLines)
    ++ titled "Skipped" x.droppedLines

/-- The JSON about a package. -/
def toJson (x : Extraction) : Json :=
  .object [("package", x.package.toJson), ("files", .strings x.files),
    ("dropped", .array (x.dropped.map fun d =>
      .object [("symbol", .string d.symbol), ("reason", .string d.cause.message)]))]

end Extraction

end GoGlue
