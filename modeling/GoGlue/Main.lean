import GoGlue.Run

/-!
# The program

Reads the command line, loads the files and directories that the command can look at, runs the command on
them, and writes what it changed back to disk.
-/
namespace GoGlue.Disk

/-- The place of an absolute path. -/
def placeOf (path : String) : Place := (FileTree.segmentsOf path).filter (· ≠ "")

/-- Load a single file or directory that is no link, and the go.mod file of a directory. -/
def loadPlain (t : FileTree) (place : Place) : IO FileTree := do
  let path := (← IO.currentDir) / place.path
  if ← path.isDir then
    let goMod := path / "go.mod"
    let t := t.put place .directory
    if (← goMod.pathExists) && !(← goMod.isDir) then
      return t.put (goModPlace place) (.file (← IO.FS.readBinFile goMod))
    return t
  return t.put place (.file (← IO.FS.readBinFile path))

/-- Load what stands at a place, and find out where a path goes on from there. A link is loaded as one to where it
ends, and everything on the way there is loaded as well. One that ends nowhere is not loaded. -/
def loadNode (t : FileTree) (place : Place) : IO (FileTree × Place) := do
  let path := (← IO.currentDir) / place.path
  if !(← path.pathExists) then return (t, place)
  if (← path.symlinkMetadata).type == .symlink then
    let target := toString (← IO.FS.realPath path)
    let real := placeOf target
    let t ← (List.range (real.length + 1)).foldlM (fun t n => loadPlain t (real.take n)) t
    return (t.put place (.link target), real)
  return (← loadPlain t place, place)

/-- Load what stands right in a directory, with the contents of the files. -/
def loadListing (t : FileTree) (dir : Place) : IO FileTree := do
  let root ← IO.currentDir
  let mut t := t
  for entry in ← (root / dir.path).readDir do
    let place := dir ++ [entry.fileName]
    match (← (root / place.path).symlinkMetadata).type with
    | .file => t := t.put place (.file (← IO.FS.readBinFile (root / place.path)))
    | .dir => t := t.put place .directory
    | .symlink => t := (← loadNode t place).1
    | .other => pure ()
  return t

/-- Load what a path leads to, and everything that it leads through. -/
def loadAlong (t : FileTree) (path : String) : IO FileTree := do
  let mut t ← loadPlain t []
  let mut here := (t.start path).here
  for segment in FileTree.segmentsOf path do
    if segment = ".." then here := here.dropLast
    else if segment ≠ "" ∧ segment ≠ "." then here := here ++ [segment]
    (t, here) ← loadNode t here
  if t.node? here = some .directory then t ← loadListing t here
  return t

/-- The working directory and what a command can look at. -/
def load (command : Command) : IO FileTree := do
  let workDir := toString (← IO.currentDir)
  let t ← (workDir :: command.named).foldlM loadAlong ⟨∅, placeOf workDir⟩
  match command.output? t with
  | some path => loadAlong t path
  | none => return t

/-- Write to disk what is in the second tree and not in the first one. -/
def store (before after : FileTree) : IO Unit := do
  let root ← IO.currentDir
  for (place, node) in after.nodes.toList do
    if before.node? place ≠ some node then
      match node with
      | .directory => IO.FS.createDirAll (root / place.path)
      | .file content => IO.FS.writeBinFile (root / place.path) content
      | .link _ => pure ()

def usageText : String :=
  "Usage: gobridge <generate|inspect|plugins> [OPTIONS] [PATH]\n\n"
    ++ "  generate  Generate glue code for a Go package\n"
    ++ "  inspect   Show what is extracted from a Go package\n"
    ++ "  plugins   List registered plugins\n"

/-- What is printed instead of running a command. -/
def usageMessage : Usage → String
  | .unknownArgument => "error: unexpected argument\n\n" ++ usageText
  | .invalidSubcommand => "error: unrecognized subcommand\n\n" ++ usageText
  | .invalidValue => "error: a value is required\n\n" ++ usageText
  | .argumentConflict => "error: an argument cannot be used multiple times\n\n" ++ usageText
  | .tooManyValues => "error: unexpected value for a flag\n\n" ++ usageText
  | .missingSubcommand | .help => usageText
  | .version => "gobridge 0.1.0\n"

def reportUsage (u : Usage) : IO UInt32 := do
  if u.exitCode = 0 then IO.print (usageMessage u) else IO.eprint (usageMessage u)
  return u.exitCode.toUInt32

def runCommand (command : Command) : IO UInt32 := do
  let before ← load command
  let (attempt, after) := command.run before
  for record in attempt.log do
    if record.level.isShown command.isVerbose then
      IO.eprintln ("[" ++ record.level.name ++ "] " ++ record.message)
  store before after
  IO.print attempt.stdout
  if let some (.error failure) := attempt.result then IO.eprintln ("error: " ++ failure.message)
  match attempt.exitCode? with
  | some code => return code.toUInt32
  | none =>
    -- the command never ends
    repeat IO.sleep 1000
    return 0

end GoGlue.Disk

def main (args : List String) : IO UInt32 :=
  match GoGlue.CommandLine.parse args with
  | .error usage => GoGlue.Disk.reportUsage usage
  | .ok command => GoGlue.Disk.runCommand command
