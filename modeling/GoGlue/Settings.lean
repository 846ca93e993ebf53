import GoGlue.CommandLine
import GoGlue.Config
import GoGlue.Extraction
import GoGlue.Plugin

/-!
# Settings

What a run that generates code goes by: the command line, over the configuration file, over the defaults.
A flag that is set in either place is set.
-/
namespace GoGlue

/-- mirrors `Settings` -/
structure Settings where
  plugin : String
  importPath : Option String
  output : Option String
  packaging : Bool
  extract : ExtractOptions
  options : PluginOptions
  deriving Repr

namespace Settings

/-- mirrors `resolve` -/
def resolve (args : GenerateArgs) (config : Config) : Settings :=
  let verbose := args.verbose || config.verbose.getD false
  { plugin := (args.plugin <|> config.plugin).getD "cgo"
    importPath := args.importPath <|> config.importPath
    output := args.output <|> config.output
    packaging := args.packaging || config.packaging.getD false
    extract := ⟨verbose, args.strict || config.strict.getD false⟩
    options := {
      verbose
      libraryName := args.libName <|> config.libraryName
      buildSystem := ((args.buildSystem <|> config.buildSystem).map .ofName).getD .setuptools } }

end Settings

end GoGlue
