import EntitySchema.Casing
import EntitySchema.Casing.Words
import EntitySchema.Code.Expression
import EntitySchema.Code.Layout
import EntitySchema.Code.Literal
import EntitySchema.Code.Module
import EntitySchema.Code.Printer
import EntitySchema.CommandLine.Arguments
import EntitySchema.CommandLine.Failure
import EntitySchema.CommandLine.Run
import EntitySchema.CommandLine.Session
import EntitySchema.Configuration
import EntitySchema.Configuration.Choices
import EntitySchema.Configuration.Key
import EntitySchema.Configuration.Printer
import EntitySchema.Configuration.Reader
import EntitySchema.DataModel
import EntitySchema.DataModel.Printer
import EntitySchema.DataModel.Reader
import EntitySchema.Document
import EntitySchema.Document.Fault
import EntitySchema.Document.Record
import EntitySchema.Documentation
import EntitySchema.Documentation.Segment
import EntitySchema.FileError
import EntitySchema.FileTree
import EntitySchema.Generation
import EntitySchema.Generation.EntityModule
import EntitySchema.Generation.FieldSchema
import EntitySchema.Generation.HelperSchemas
import EntitySchema.Generation.Imports
import EntitySchema.Generation.References
import EntitySchema.Generation.Relations
import EntitySchema.Json
import EntitySchema.Json.Numeral
import EntitySchema.Json.Printer
import EntitySchema.Json.Reader
import EntitySchema.Main
import EntitySchema.Manifest
import EntitySchema.Number.Binary64
import EntitySchema.Number.Shortest
import EntitySchema.Path
import EntitySchema.Proofs.BlockComments
import EntitySchema.Proofs.BlockScalars
import EntitySchema.Proofs.CasedForms
import EntitySchema.Proofs.CasedNames
import EntitySchema.Proofs.CommandEffects
import EntitySchema.Proofs.CompanionNames
import EntitySchema.Proofs.ConfigurationDocuments
import EntitySchema.Proofs.DeclaredNames
import EntitySchema.Proofs.Decomposition
import EntitySchema.Proofs.EmptyLines
import EntitySchema.Proofs.EntryValues
import EntitySchema.Proofs.EnumLinking
import EntitySchema.Proofs.FieldShapes
import EntitySchema.Proofs.FileNames
import EntitySchema.Proofs.FileTrees
import EntitySchema.Proofs.FilledLines
import EntitySchema.Proofs.Formatting
import EntitySchema.Proofs.Fragments
import EntitySchema.Proofs.ImportOrder
import EntitySchema.Proofs.ImportUse
import EntitySchema.Proofs.ImportedNames
import EntitySchema.Proofs.Independence
import EntitySchema.Proofs.JsonPrinting
import EntitySchema.Proofs.LexicalResolution
import EntitySchema.Proofs.LineDiscipline
import EntitySchema.Proofs.Linking
import EntitySchema.Proofs.Lists
import EntitySchema.Proofs.MadeDirectories
import EntitySchema.Proofs.ModelDocuments
import EntitySchema.Proofs.NameClashes
import EntitySchema.Proofs.NameSets
import EntitySchema.Proofs.Nesting
import EntitySchema.Proofs.NormalForms
import EntitySchema.Proofs.Numerals
import EntitySchema.Proofs.OneLineTexts
import EntitySchema.Proofs.Outline
import EntitySchema.Proofs.PlainScalars
import EntitySchema.Proofs.QuotedScalars
import EntitySchema.Proofs.Records
import EntitySchema.Proofs.RelativePaths
import EntitySchema.Proofs.Relocation
import EntitySchema.Proofs.Reports
import EntitySchema.Proofs.Scope
import EntitySchema.Proofs.SegmentOffsets
import EntitySchema.Proofs.Segments
import EntitySchema.Proofs.SeparateLines
import EntitySchema.Proofs.Separators
import EntitySchema.Proofs.SpecifierSegments
import EntitySchema.Proofs.Specifiers
import EntitySchema.Proofs.StringLiterals
import EntitySchema.Proofs.ValidatorNesting
import EntitySchema.Proofs.WrittenDocumentation
import EntitySchema.Proofs.WrittenModules
import EntitySchema.Proofs.YamlEntries
import EntitySchema.SchemaNames
import EntitySchema.Specifier
import EntitySchema.Text.Alphanumeric
import EntitySchema.Text.CaseMapping
import EntitySchema.Text.CaseMapping.Context
import EntitySchema.Text.CaseMapping.Shifts
import EntitySchema.Text.CodePointRanges
import EntitySchema.Text.Grapheme
import EntitySchema.Text.Grapheme.BreakClass
import EntitySchema.Text.Lines
import EntitySchema.Text.NameSet
import EntitySchema.Text.Printable
import EntitySchema.Text.Quoted
import EntitySchema.Text.WhiteSpace
import EntitySchema.Yaml.Character
import EntitySchema.Yaml.Cursor
import EntitySchema.Yaml.Format
import EntitySchema.Yaml.Lexer
import EntitySchema.Yaml.Node
import EntitySchema.Yaml.PlainScalar
import EntitySchema.Yaml.Scalar
import EntitySchema.Yaml.ScalarText
import EntitySchema.Yaml.Tag
import EntitySchema.Yaml.Token
