import UtilityClasses.ClassSet
import UtilityClasses.CommandLine.Arguments
import UtilityClasses.CommandLine.Generate
import UtilityClasses.CommandLine.Report
import UtilityClasses.CommandLine.Run
import UtilityClasses.Config.Basic
import UtilityClasses.Config.Discovery
import UtilityClasses.Config.Reader
import UtilityClasses.Decimal.Double
import UtilityClasses.Decimal.Shortest
import UtilityClasses.Descriptor.Basic
import UtilityClasses.Descriptor.OfValue
import UtilityClasses.Descriptor.Resolution
import UtilityClasses.Evaluation
import UtilityClasses.Extraction
import UtilityClasses.FileSystem.Access
import UtilityClasses.FileSystem.Disk
import UtilityClasses.FileSystem.Error
import UtilityClasses.FileSystem.Path
import UtilityClasses.FileSystem.Tree
import UtilityClasses.GeneratedModule
import UtilityClasses.Glob
import UtilityClasses.Json.Cursor
import UtilityClasses.Json.Error
import UtilityClasses.Json.Printer
import UtilityClasses.Json.Reader
import UtilityClasses.Json.Typed
import UtilityClasses.Json.Value
import UtilityClasses.Main
import UtilityClasses.Proofs.Aggregation
import UtilityClasses.Proofs.Arguments
import UtilityClasses.Proofs.Balanced
import UtilityClasses.Proofs.CallLists
import UtilityClasses.Proofs.CallSites
import UtilityClasses.Proofs.ClassMaps
import UtilityClasses.Proofs.ClassSets
import UtilityClasses.Proofs.ClassStrings
import UtilityClasses.Proofs.Collected
import UtilityClasses.Proofs.Compositional
import UtilityClasses.Proofs.Conservative
import UtilityClasses.Proofs.ConstantModules
import UtilityClasses.Proofs.Coverage
import UtilityClasses.Proofs.Discovery
import UtilityClasses.Proofs.Disks
import UtilityClasses.Proofs.Effects
import UtilityClasses.Proofs.Entries
import UtilityClasses.Proofs.Enumeration
import UtilityClasses.Proofs.ExactReduction
import UtilityClasses.Proofs.Fields
import UtilityClasses.Proofs.FileTrees
import UtilityClasses.Proofs.FurtherArguments
import UtilityClasses.Proofs.JsonText
import UtilityClasses.Proofs.LineEnds
import UtilityClasses.Proofs.LiteralCall
import UtilityClasses.Proofs.LiteralOperands
import UtilityClasses.Proofs.LiteralReading
import UtilityClasses.Proofs.LiteralTokens
import UtilityClasses.Proofs.LiteralValues
import UtilityClasses.Proofs.Locations
import UtilityClasses.Proofs.Meaning
import UtilityClasses.Proofs.NullEntries
import UtilityClasses.Proofs.Numerals
import UtilityClasses.Proofs.Occurrences
import UtilityClasses.Proofs.OpenCalls
import UtilityClasses.Proofs.ParseRuns
import UtilityClasses.Proofs.PathOrder
import UtilityClasses.Proofs.Paths
import UtilityClasses.Proofs.Positions
import UtilityClasses.Proofs.Quotation
import UtilityClasses.Proofs.Regeneration
import UtilityClasses.Proofs.Runtime
import UtilityClasses.Proofs.Scans
import UtilityClasses.Proofs.SingleExpressions
import UtilityClasses.Proofs.SourceFiles
import UtilityClasses.Proofs.Spacing
import UtilityClasses.Proofs.Spans
import UtilityClasses.Proofs.TemplateText
import UtilityClasses.Proofs.TypedForm
import UtilityClasses.Proofs.Utf8
import UtilityClasses.Proofs.Walks
import UtilityClasses.Proofs.WordBoundary
import UtilityClasses.Proofs.Words
import UtilityClasses.Proofs.Wrappers
import UtilityClasses.Scan
import UtilityClasses.Script.Access
import UtilityClasses.Script.Binding
import UtilityClasses.Script.Class
import UtilityClasses.Script.Collection
import UtilityClasses.Script.Cursor
import UtilityClasses.Script.Declaration
import UtilityClasses.Script.Error
import UtilityClasses.Script.Expr
import UtilityClasses.Script.Function
import UtilityClasses.Script.Group
import UtilityClasses.Script.Literal
import UtilityClasses.Script.Markup
import UtilityClasses.Script.ModuleItem
import UtilityClasses.Script.Name
import UtilityClasses.Script.ObjectType
import UtilityClasses.Script.Operator
import UtilityClasses.Script.Primary
import UtilityClasses.Script.Reading
import UtilityClasses.Script.Signature
import UtilityClasses.Script.Statement
import UtilityClasses.Script.Template
import UtilityClasses.Script.Token
import UtilityClasses.Script.Type
import UtilityClasses.Source.CallSite
import UtilityClasses.Source.Code
import UtilityClasses.Text.Identifier
import UtilityClasses.Text.Letter
import UtilityClasses.Text.Quoted
import UtilityClasses.Text.Snippet
import UtilityClasses.Text.Utf8
import UtilityClasses.Text.Whitespace
import UtilityClasses.Warning
import UtilityClasses.Proofs.ByteReading
import UtilityClasses.Proofs.ByteAgreement
import UtilityClasses.Proofs.Slices
import UtilityClasses.Proofs.Snippets
