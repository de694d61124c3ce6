import StubSource.Text.Alphanumeric
import StubSource.Text.Blank
import StubSource.Text.Piece
import StubSource.Name
import StubSource.Version
import StubSource.Document.Value
import StubSource.Metadata.TypeRef
import StubSource.Metadata.Member
import StubSource.Metadata.TypeDef
import StubSource.Metadata.AssemblyRef
import StubSource.Metadata.Graph
import StubSource.Document.TypeRef
import StubSource.Document.Member
import StubSource.Document.Graph
import StubSource.Alias
import StubSource.Naming
import StubSource.Draft
import StubSource.Dialect.Basic
import StubSource.Dialect.CSharp
import StubSource.Dialect.VisualBasic
import StubSource.Dialect.Document
import StubSource.Dialect.Defect
import StubSource.Document.Span
import StubSource.Document.Toml.Scan
import StubSource.Document.Toml.Scalar
import StubSource.Document.Toml.Tree
import StubSource.Document.Toml.Moment
import StubSource.Document.Toml.Reader
import StubSource.Dialect.Load
import StubSource.Writing.Fault
import StubSource.Writing.Scope
import StubSource.Writing.Declaration
import StubSource.Writing.Sheet
import StubSource.Writing.Line
import StubSource.Writing.Method
import StubSource.Writing.Element
import StubSource.Writing.Stub
import StubSource.Writing.Source
import StubSource.Renderer
import StubSource.Sample.Calculator
import StubSource.Proofs.Lines
import StubSource.Proofs.Writing
import StubSource.Proofs.LineTexts
import StubSource.Proofs.Bodies
import StubSource.Proofs.SourceLayout
import StubSource.Proofs.Growth
import StubSource.Proofs.NamePieces
import StubSource.Proofs.Answers
import StubSource.Proofs.Stubs
import StubSource.Proofs.Agreement
import StubSource.Proofs.AliasOrder
import StubSource.Proofs.Nesting
import StubSource.Proofs.GrowthElsewhere
import StubSource.Proofs.Template
import StubSource.Proofs.Appending
import StubSource.Proofs.VersionText
import StubSource.Proofs.Documents
import StubSource.Proofs.Unwritten
import StubSource.Proofs.NestingChain
import StubSource.Proofs.Resolution
import StubSource.Proofs.Defects
import StubSource.Proofs.Passages
import StubSource.Proofs.Collections
import StubSource.Proofs.Confirmed
import StubSource.Proofs.VersionSyntax
import StubSource.Proofs.UsedNames
import StubSource.Proofs.ConstructorNames
import StubSource.Proofs.Escaping
import StubSource.Proofs.KeyPlaces
import StubSource.Proofs.MetadataNames
