import SchemaToJava.Bootstrap
import SchemaToJava.Calendar
import SchemaToJava.CommandLine.Commands
import SchemaToJava.CommandLine.Completion
import SchemaToJava.CommandLine.Console
import SchemaToJava.CommandLine.Help
import SchemaToJava.CommandLine.Options
import SchemaToJava.CommandLine.Program
import SchemaToJava.CommandLine.TimeStamp
import SchemaToJava.CommandLine.Usage
import SchemaToJava.Config.Arguments
import SchemaToJava.Config.File
import SchemaToJava.Config.Problem
import SchemaToJava.Config.Setting
import SchemaToJava.Decimal.Binary64
import SchemaToJava.Decimal.Shortest
import SchemaToJava.Emission.Constraint
import SchemaToJava.Emission.DataClass
import SchemaToJava.Emission.DataType
import SchemaToJava.Emission.Fetcher
import SchemaToJava.Emission.JavaType
import SchemaToJava.Entries
import SchemaToJava.Event
import SchemaToJava.Fault
import SchemaToJava.FileError
import SchemaToJava.FileTree
import SchemaToJava.Generation
import SchemaToJava.GraphQL.BlockString
import SchemaToJava.GraphQL.Cursor
import SchemaToJava.GraphQL.Document
import SchemaToJava.GraphQL.Excerpt
import SchemaToJava.GraphQL.Grammar
import SchemaToJava.GraphQL.Lexer
import SchemaToJava.GraphQL.Token
import SchemaToJava.GraphQL.TypeShape
import SchemaToJava.Java.Declaration
import SchemaToJava.Java.ImportScope
import SchemaToJava.Java.Literal
import SchemaToJava.Java.Name
import SchemaToJava.Java.Source
import SchemaToJava.Java.SourcePath
import SchemaToJava.Java.TypeRef
import SchemaToJava.Main
import SchemaToJava.Markup
import SchemaToJava.Path
import SchemaToJava.Proofs.Bootstrap
import SchemaToJava.Proofs.CommandLine.Commands
import SchemaToJava.Proofs.Config.File
import SchemaToJava.Proofs.Config.Setting
import SchemaToJava.Proofs.Emission.Artifacts
import SchemaToJava.Proofs.Emission.Contents
import SchemaToJava.Proofs.Emission.Faults
import SchemaToJava.Proofs.FileTree.Refusal
import SchemaToJava.Proofs.FileTree.Within
import SchemaToJava.Proofs.FileTree.WellFormed
import SchemaToJava.Proofs.FileTree.Writing
import SchemaToJava.Proofs.Generation.Again
import SchemaToJava.Proofs.Generation.Escape
import SchemaToJava.Proofs.Generation.Files
import SchemaToJava.Proofs.Generation.Operations
import SchemaToJava.Proofs.Generation.Plan
import SchemaToJava.Proofs.Generation.Steps
import SchemaToJava.Proofs.Generation.Writing
import SchemaToJava.Proofs.Java.AnnotationReader
import SchemaToJava.Proofs.Java.LiteralReader
import SchemaToJava.Proofs.Java.Name
import SchemaToJava.Proofs.Java.Outline
import SchemaToJava.Proofs.Java.Reader
import SchemaToJava.Proofs.Java.SourcePath
import SchemaToJava.Proofs.Java.SourceReader
import SchemaToJava.Proofs.Outcome
import SchemaToJava.Proofs.Run
import SchemaToJava.Proofs.SchemaFile
import SchemaToJava.Proofs.SchemaFile.Listing
import SchemaToJava.Run
import SchemaToJava.SchemaFile
import SchemaToJava.Text.Alphanumeric
import SchemaToJava.Text.Blank
import SchemaToJava.Text.Columns
import SchemaToJava.Text.Digit
import SchemaToJava.Text.Integer
import SchemaToJava.Text.Lines
import SchemaToJava.Text.LowerCase
import SchemaToJava.Text.Printable
import SchemaToJava.Text.Quoted
import SchemaToJava.Text.UpperCase
import SchemaToJava.Text.Utf8
import SchemaToJava.Text.Wide
import SchemaToJava.Traced
import SchemaToJava.Workspace
import SchemaToJava.Yaml.Base64
import SchemaToJava.Yaml.Composition
import SchemaToJava.Yaml.Document
import SchemaToJava.Yaml.Error
import SchemaToJava.Yaml.Load
import SchemaToJava.Yaml.Mark
import SchemaToJava.Yaml.Merge
import SchemaToJava.Yaml.Node
import SchemaToJava.Yaml.PlainKind
import SchemaToJava.Yaml.Scalar
import SchemaToJava.Yaml.ScalarText
import SchemaToJava.Yaml.Scan
import SchemaToJava.Yaml.Scanner
import SchemaToJava.Yaml.Source
import SchemaToJava.Yaml.Timestamp
import SchemaToJava.Yaml.Token
import SchemaToJava.Yaml.Value
import SchemaToJava.Proofs.Java.Naming
import SchemaToJava.Proofs.Java.SourceText
import SchemaToJava.Proofs.GraphQL.Cursor
import SchemaToJava.Proofs.GraphQL.Names
import SchemaToJava.Proofs.Emission.References
import SchemaToJava.Proofs.Emission.Written
import SchemaToJava.Proofs.Emission.SelfContained
import SchemaToJava.Proofs.Emission.LegalNames
import SchemaToJava.Proofs.Emission.Rendering
import SchemaToJava.Proofs.Emission.Resolution
import SchemaToJava.Proofs.Emission.Constraint
import SchemaToJava.Proofs.Emission.DataType
import SchemaToJava.Proofs.Emission.DataClass
import SchemaToJava.Proofs.Emission.Identifiers
import SchemaToJava.Proofs.Emission.Fetcher
import SchemaToJava.Proofs.Emission.Members
import SchemaToJava.Proofs.Generation.Reordering
import SchemaToJava.Proofs.Generation.Overwriting
import SchemaToJava.Proofs.CommandLine.EntryPoints
import SchemaToJava.Proofs.Generation.Placement
import SchemaToJava.Proofs.Java.Head
import SchemaToJava.Proofs.Agreement
import SchemaToJava.Proofs.Java.Spelling
import SchemaToJava.Proofs.Java.Repackaging
import SchemaToJava.Proofs.Emission.Wrappers
import SchemaToJava.Proofs.Emission.IgnoredContent
import SchemaToJava.Proofs.Emission.BasePackage
import SchemaToJava.Proofs.Java.StringToken
import SchemaToJava.Proofs.Java.IntegerLiteral
import SchemaToJava.Proofs.Emission.Metadata
import SchemaToJava.Proofs.Emission.IntegerMembers
import SchemaToJava.Proofs.Emission.InputRule
import SchemaToJava.Proofs.Java.MemberGroups
import SchemaToJava.Proofs.Text.Wide
import SchemaToJava.Proofs.Java.PackageName
import SchemaToJava.Proofs.Config.PackageName
import SchemaToJava.Proofs.Config.ExcludeFiles
import SchemaToJava.Proofs.SchemaFile.Discovery
import SchemaToJava.Proofs.Config.Fields
import SchemaToJava.Proofs.CommandLine.Precedence
import SchemaToJava.Proofs.Config.Problems
import SchemaToJava.Proofs.SchemaFile.Loading
import SchemaToJava.Proofs.FileTree.Beside
import SchemaToJava.Proofs.Generation.Beside
import SchemaToJava.Proofs.Bootstrap.Creation
import SchemaToJava.Proofs.Emission.Additions
import SchemaToJava.Proofs.Config.Arguments
