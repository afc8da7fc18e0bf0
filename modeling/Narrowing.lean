import Narrowing.Build
import Narrowing.ClassSource.Declarations
import Narrowing.ClassSource.Expression
import Narrowing.ClassSource.Keyword
import Narrowing.ClassSource.Literal
import Narrowing.ClassSource.Pattern
import Narrowing.ClassSource.Statement
import Narrowing.ClassSource.Token
import Narrowing.ClassSource.Tree
import Narrowing.Code.Function
import Narrowing.Code.FunctionModule
import Narrowing.Code.Impl
import Narrowing.Code.ImplFile
import Narrowing.Code.Lifetime
import Narrowing.Code.MissingField
import Narrowing.CommandLine.Arguments
import Narrowing.CommandLine.Command
import Narrowing.CommandLine.Generate
import Narrowing.CommandLine.Inspect
import Narrowing.CommandLine.Output
import Narrowing.CommandLine.Run
import Narrowing.Config.Basic
import Narrowing.Config.Target
import Narrowing.Conversion
import Narrowing.Diagnostic
import Narrowing.Directive.Item
import Narrowing.Directive.Options
import Narrowing.Directive.Token
import Narrowing.KeyedList
import Narrowing.Language
import Narrowing.Location
import Narrowing.Main
import Narrowing.Mapping
import Narrowing.Marker
import Narrowing.Marking
import Narrowing.Path
import Narrowing.Progress
import Narrowing.Proofs.Generation
import Narrowing.Proofs.Request
import Narrowing.Reading.Reader
import Narrowing.Reading.Token
import Narrowing.Reference.Arguments
import Narrowing.Reference.Basic
import Narrowing.Reference.Parameters
import Narrowing.Reference.Reader
import Narrowing.Report
import Narrowing.Request
import Narrowing.Schema
import Narrowing.SourceError
import Narrowing.StructSource.Declarations
import Narrowing.StructSource.Expression
import Narrowing.StructSource.Item
import Narrowing.StructSource.Node
import Narrowing.StructSource.Pattern
import Narrowing.StructSource.PlainParser
import Narrowing.StructSource.Token
import Narrowing.StructSource.Tree
import Narrowing.StructSource.Type
import Narrowing.Text.Blank
import Narrowing.Text.CaseTable
import Narrowing.Text.CodeRanges
import Narrowing.Text.Identifier
import Narrowing.Text.IdentifierTable
import Narrowing.Text.Lines
import Narrowing.Text.LowerCase
import Narrowing.Text.Printable
import Narrowing.Text.Quoted
import Narrowing.Text.SnakeCase
import Narrowing.Text.Utf8
import Narrowing.Text.Word
import Narrowing.Tools
import Narrowing.Value
import Narrowing.Workspace
import Narrowing.Yaml.Document
import Narrowing.Yaml.Reader
import Narrowing.Yaml.Scalar
import Narrowing.Yaml.Token
import Narrowing.Proofs.Function
import Narrowing.Proofs.Agreement
import Narrowing.Proofs.Generics
import Narrowing.Proofs.Marking
import Narrowing.Proofs.Reference.Anonymous
import Narrowing.Proofs.Reference.Nesting
import Narrowing.Proofs.Report
import Narrowing.Proofs.Utf8
import Narrowing.Proofs.Workspace
import Narrowing.Proofs.Build
import Narrowing.Proofs.CommandLine.Turn
import Narrowing.Proofs.CommandLine.Isolation
import Narrowing.Proofs.CommandLine.Recheck
import Narrowing.Proofs.KeyedList
import Narrowing.Proofs.Names
import Narrowing.Proofs.Accesses
import Narrowing.Proofs.ClassSource.Argument
import Narrowing.Proofs.ClassSource.Positional
import Narrowing.Proofs.Placement
import Narrowing.Proofs.Opacity
import Narrowing.Proofs.Literal
import Narrowing.Proofs.ErrorMessage
import Narrowing.Proofs.StructSource.StringValue
import Narrowing.Proofs.ClassSource.StringValue
import Narrowing.Proofs.ClassSource.TripleQuoted
import Narrowing.Proofs.DocString
import Narrowing.Proofs.ClassSource.Declarations
import Narrowing.Proofs.StructSource.Declarations
import Narrowing.Proofs.StructSource.Token
import Narrowing.Proofs.StructSource.Type
import Narrowing.Proofs.StructSource.Item
import Narrowing.Proofs.StructSource.Expression
import Narrowing.Proofs.StructSource.Node
import Narrowing.Proofs.StructSource.PlainParser
import Narrowing.Proofs.StructSource.Generics
import Narrowing.Proofs.Stray
import Narrowing.Proofs.Reference.Parameters
import Narrowing.Proofs.Mapping
import Narrowing.Proofs.Directive.OptionSet
import Narrowing.Proofs.SnakeCase
import Narrowing.Proofs.Reference.Decomposition
import Narrowing.Proofs.FunctionModule
import Narrowing.Proofs.Config
import Narrowing.Proofs.CommandLine.Inspection
import Narrowing.Proofs.Directive.Coverage
import Narrowing.Proofs.ReadBack.Function
import Narrowing.Proofs.ReadBack.Impl
import Narrowing.Proofs.NormalForm
