import GoGlue.Generation

/-!
# Running a command

What a command does to a file tree, what it shows, and the code it exits with.
-/
namespace GoGlue

/-- mirrors `cmd_inspect` -/
def inspect (t : FileTree) (args : InspectArgs) : Attempt Unit := do
  let x ← readPackage t args.path ⟨args.verbose, false⟩ none
  .print (if args.json then [x.toJson.sorted.pretty] else x.outline)

/-- mirrors `cmd_plugins` -/
def listPlugins (registry : Registry) : Attempt Unit :=
  .print ("Plugins" :: registry.names.map ("  → " ++ ·))

namespace Command

/-- Run a command with the built-in plugins. -/
def run (t : FileTree) : Command → Attempt Unit × FileTree
  | generate args => GoGlue.generate t .builtin args
  | inspect args => (GoGlue.inspect t args, t)
  | plugins => (listPlugins .builtin, t)

/-- The paths that the command line names. -/
def named : Command → List String
  | generate args => args.path :: (args.config.toList ++ args.output.toList)
  | inspect args => [args.path]
  | plugins => []

/-- The file or directory that the command writes to, as far as its settings can be read. -/
def output? (t : FileTree) : Command → Option String
  | generate args =>
    match (Config.discover t args.path args.config).1 with
    | .ok config =>
      let settings := Settings.resolve args config
      some (settings.output.getD (Path.join args.path (settings.plugin ++ "_plugin")))
    | .error _ => none
  | _ => none

/-- The user wants to be told what the command does. -/
def isVerbose : Command → Bool
  | generate args => args.verbose
  | inspect args => args.verbose
  | plugins => false

end Command

namespace Attempt

/-- The code that a command exits with, if it ends; mirrors `main`. -/
def exitCode? {α : Type} (x : Attempt α) : Option Nat :=
  match x.result with
  | none => none
  | some (.ok _) => some 0
  | some (.error _) => some 1

/-- The lines as they are printed. -/
def stdout {α : Type} (x : Attempt α) : String := String.join (x.lines.map (· ++ "\n"))

end Attempt

end GoGlue
