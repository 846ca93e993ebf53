import GoGlue.Attempt
import GoGlue.BuildSystem
import GoGlue.CallPlan
import GoGlue.CommandLine
import GoGlue.Comment
import GoGlue.Config
import GoGlue.Decl
import GoGlue.Decl.Brackets
import GoGlue.Decl.Parser
import GoGlue.Decl.Reply
import GoGlue.Extraction
import GoGlue.FileError
import GoGlue.FileTree
import GoGlue.FileTree.Change
import GoGlue.Generation
import GoGlue.Glue
import GoGlue.Glue.Code
import GoGlue.Glue.Convert
import GoGlue.Glue.Entry
import GoGlue.Glue.Prelude
import GoGlue.GoType
import GoGlue.GoType.Resolve
import GoGlue.ImportPath
import GoGlue.Json
import GoGlue.Json.Member
import GoGlue.Json.Printer
import GoGlue.Json.Reader
import GoGlue.Lexeme
import GoGlue.Log
import GoGlue.Main
import GoGlue.Name.Case
import GoGlue.Name.Claim
import GoGlue.Name.Go
import GoGlue.Name.Python
import GoGlue.Outline
import GoGlue.Package
import GoGlue.Package.Json
import GoGlue.Path
import GoGlue.Plugin
import GoGlue.Position
import GoGlue.Primitive
import GoGlue.Project
import GoGlue.Proofs.Abi.Agreement
import GoGlue.Proofs.Abi.Invocation
import GoGlue.Proofs.Abi.Passing
import GoGlue.Proofs.Abi.Places
import GoGlue.Proofs.Abi.Provenance
import GoGlue.Proofs.Abi.Role
import GoGlue.Proofs.CallPlan.Crossable
import GoGlue.Proofs.CallPlan.Definite
import GoGlue.Proofs.CallPlan.Slots
import GoGlue.Proofs.Code.Calls
import GoGlue.Proofs.Code.Flow
import GoGlue.Proofs.Code.Runs
import GoGlue.Proofs.Comment.Groups
import GoGlue.Proofs.Comment.NormalForm
import GoGlue.Proofs.Decl.Agreement
import GoGlue.Proofs.Decl.ArrayLength
import GoGlue.Proofs.Decl.Cursor.Brackets
import GoGlue.Proofs.Decl.Cursor.Closing
import GoGlue.Proofs.Decl.Cursor.Files
import GoGlue.Proofs.Decl.Cursor.Grammar
import GoGlue.Proofs.Decl.Cursor.Lists
import GoGlue.Proofs.Decl.Cursor.Machine
import GoGlue.Proofs.Decl.Cursor.Steps
import GoGlue.Proofs.Decl.Cursor.Types
import GoGlue.Proofs.Decl.Declarations
import GoGlue.Proofs.Decl.Docs
import GoGlue.Proofs.Decl.FileAgreement
import GoGlue.Proofs.Decl.Grouping
import GoGlue.Proofs.Decl.Identifiers
import GoGlue.Proofs.Decl.LookAhead
import GoGlue.Proofs.Decl.Places
import GoGlue.Proofs.Decl.Productions
import GoGlue.Proofs.Decl.Rendering
import GoGlue.Proofs.Decl.RoundTrip
import GoGlue.Proofs.Decl.Skipped
import GoGlue.Proofs.Decl.TypeAgreement
import GoGlue.Proofs.Extraction.Exported
import GoGlue.Proofs.Extraction.FileOrder
import GoGlue.Proofs.Extraction.LineBreaks
import GoGlue.Proofs.Extraction.Names
import GoGlue.Proofs.Extraction.Placement
import GoGlue.Proofs.Extraction.Sources
import GoGlue.Proofs.Extraction.Strict
import GoGlue.Proofs.Extraction.Types
import GoGlue.Proofs.Extraction.Walk
import GoGlue.Proofs.FileTree.Changing
import GoGlue.Proofs.FileTree.Confined
import GoGlue.Proofs.FileTree.Following
import GoGlue.Proofs.FileTree.Span
import GoGlue.Proofs.Generation.Delivery
import GoGlue.Proofs.Generation.Finishing
import GoGlue.Proofs.Generation.Preparation
import GoGlue.Proofs.Generation.Repetition
import GoGlue.Proofs.Generation.Rereading
import GoGlue.Proofs.Glue.Aside
import GoGlue.Proofs.Glue.Braces
import GoGlue.Proofs.Glue.Declared
import GoGlue.Proofs.Glue.Entries
import GoGlue.Proofs.Glue.ErrorFirst
import GoGlue.Proofs.Glue.ImportBlock
import GoGlue.Proofs.Glue.Imports
import GoGlue.Proofs.Glue.Legible
import GoGlue.Proofs.Glue.Lengths
import GoGlue.Proofs.Glue.Prototype
import GoGlue.Proofs.Glue.Renaming
import GoGlue.Proofs.Glue.Results
import GoGlue.Proofs.Glue.Scope
import GoGlue.Proofs.Glue.Selection
import GoGlue.Proofs.Glue.Selectors
import GoGlue.Proofs.Glue.Spelling
import GoGlue.Proofs.Glue.Visibility
import GoGlue.Proofs.GoType.WellFormed
import GoGlue.Proofs.ImportPath
import GoGlue.Proofs.Lexeme.LineBreaks
import GoGlue.Proofs.Lexeme.Tiling
import GoGlue.Proofs.Name.Claim
import GoGlue.Proofs.Name.Fewest
import GoGlue.Proofs.Ownership.Parameters
import GoGlue.Proofs.Ownership.Results
import GoGlue.Proofs.Package.RoundTrip
import GoGlue.Proofs.Path.Joining
import GoGlue.Proofs.Position.Lines
import GoGlue.Proofs.Project.Paths
import GoGlue.Proofs.PyModule.Closed
import GoGlue.Proofs.PyModule.Docstring
import GoGlue.Proofs.PyModule.Locals
import GoGlue.Proofs.PyModule.Lookups
import GoGlue.Proofs.PyModule.MemberNames
import GoGlue.Proofs.PyModule.Members
import GoGlue.Proofs.PyModule.ModuleNames
import GoGlue.Proofs.PyModule.Sources
import GoGlue.Proofs.PyModule.Suites
import GoGlue.Proofs.Registry.Runs
import GoGlue.Proofs.Related
import GoGlue.Proofs.Source.Leads
import GoGlue.Proofs.Source.Positions
import GoGlue.Proofs.Source.Semicolons
import GoGlue.Proofs.Surface.Accounting
import GoGlue.Proofs.Surface.Callables
import GoGlue.Proofs.Surface.Symbols
import GoGlue.Proofs.Text.Case
import GoGlue.Proofs.Text.Dots
import GoGlue.Proofs.Text.Ends
import GoGlue.Proofs.Text.Lines
import GoGlue.Proofs.Text.Words
import GoGlue.Proofs.Transfer.Representation
import GoGlue.Proofs.Writer.Blocks
import GoGlue.Proofs.Writer.Emission
import GoGlue.PyModule
import GoGlue.PyModule.Binding
import GoGlue.PyModule.Class
import GoGlue.PyModule.Code
import GoGlue.PyModule.Docstring
import GoGlue.PyModule.Prelude
import GoGlue.Pyproject
import GoGlue.Registry
import GoGlue.Registry.Shared
import GoGlue.Run
import GoGlue.Settings
import GoGlue.Source
import GoGlue.Surface
import GoGlue.SyntaxError
import GoGlue.Text.Alphabetic
import GoGlue.Text.Blank
import GoGlue.Text.Case
import GoGlue.Text.CodeSet
import GoGlue.Text.Digit
import GoGlue.Text.Hidden
import GoGlue.Text.Letter
import GoGlue.Text.Lines
import GoGlue.Text.Number
import GoGlue.Text.Quoted
import GoGlue.Text.Sorted
import GoGlue.Text.Uppercase
import GoGlue.Token
import GoGlue.Transfer
import GoGlue.Transfer.CType
import GoGlue.Transfer.PyType
import GoGlue.Writer
