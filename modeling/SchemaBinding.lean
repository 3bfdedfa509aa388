import SchemaBinding.Action
import SchemaBinding.CSharp.Source
import SchemaBinding.Catalog
import SchemaBinding.CommandLine.Arguments
import SchemaBinding.CommandLine.Declaration
import SchemaBinding.CommandLine.Invocation
import SchemaBinding.CommandLine.Parameter
import SchemaBinding.CommandLine.Program
import SchemaBinding.CommandLine.Reconstruction
import SchemaBinding.Configuration
import SchemaBinding.Emission
import SchemaBinding.Failure
import SchemaBinding.FilePath
import SchemaBinding.FileTree
import SchemaBinding.Generator
import SchemaBinding.Json.Double
import SchemaBinding.Json.Reading
import SchemaBinding.Json.Value
import SchemaBinding.Loader
import SchemaBinding.Locator
import SchemaBinding.Log
import SchemaBinding.Model.Definition
import SchemaBinding.Model.TypeRef
import SchemaBinding.NamespaceTable
import SchemaBinding.Output
import SchemaBinding.Proofs.Assurance
import SchemaBinding.Proofs.ClassModel
import SchemaBinding.Proofs.Closure
import SchemaBinding.Proofs.Coverage
import SchemaBinding.Proofs.Emission
import SchemaBinding.Proofs.Folding
import SchemaBinding.Proofs.Graph
import SchemaBinding.Proofs.Loading
import SchemaBinding.Proofs.Model
import SchemaBinding.Proofs.Paths
import SchemaBinding.Proofs.Reading
import SchemaBinding.Proofs.References
import SchemaBinding.Proofs.Registration
import SchemaBinding.Proofs.Resolution
import SchemaBinding.Proofs.Tables
import SchemaBinding.Proofs.Traversal
import SchemaBinding.Registry
import SchemaBinding.Resolution
import SchemaBinding.Schema.Construct
import SchemaBinding.Schema.Definition
import SchemaBinding.Schema.Merged
import SchemaBinding.Schema.Reading
import SchemaBinding.Text.Blank
import SchemaBinding.Text.CodePage.Basic
import SchemaBinding.Text.CodePage.Charset
import SchemaBinding.Text.CodePage.Table
import SchemaBinding.Text.CodePoint
import SchemaBinding.Text.Division
import SchemaBinding.Text.Identifier
import SchemaBinding.Text.Lowercase.Basic
import SchemaBinding.Text.Lowercase.Table
import SchemaBinding.Text.Numeral
import SchemaBinding.Text.Printable
import SchemaBinding.Text.Quoted
import SchemaBinding.Text.Utf8
import SchemaBinding.Text.Word.Basic
import SchemaBinding.Text.Word.Table
import SchemaBinding.Xml.Character
import SchemaBinding.Xml.Content
import SchemaBinding.Xml.Declaration
import SchemaBinding.Xml.Document
import SchemaBinding.Xml.DocumentType.Basic
import SchemaBinding.Xml.DocumentType.Token
import SchemaBinding.Xml.Element
import SchemaBinding.Xml.Encoding
import SchemaBinding.Xml.Name
import SchemaBinding.Xml.NameTable
import SchemaBinding.Xml.Reference
import SchemaBinding.Xml.Value
import SchemaBinding.Main
import SchemaBinding.Proofs.Declaring
import SchemaBinding.Proofs.Namespaces
import SchemaBinding.Proofs.Names
import SchemaBinding.Proofs.Order
import SchemaBinding.Proofs.Printing
import SchemaBinding.Proofs.Rendering
import SchemaBinding.Proofs.Decoding
import SchemaBinding.Proofs.Storage
import SchemaBinding.Proofs.Agreement
import SchemaBinding.Proofs.Alphabets
import SchemaBinding.Proofs.Files
import SchemaBinding.Proofs.FieldTypes
import SchemaBinding.Proofs.Inheritance
import SchemaBinding.Proofs.Correspondence
import SchemaBinding.Proofs.Rereading
import SchemaBinding.Proofs.SpelledSchemas
import SchemaBinding.Proofs.Spelling
import SchemaBinding.Proofs.Annotations
import SchemaBinding.Proofs.Readings
import SchemaBinding.Proofs.AlikeCatalogs
import SchemaBinding.Proofs.AlikeModels
import SchemaBinding.Proofs.DefaultNamespace
import SchemaBinding.Proofs.Generation
import SchemaBinding.Proofs.FileNames
import SchemaBinding.Proofs.FileTrees
import SchemaBinding.Proofs.Writing
import SchemaBinding.Proofs.Reports
import SchemaBinding.Proofs.Artifacts
import SchemaBinding.Proofs.AlikeTrees
import SchemaBinding.Proofs.InertOptions
import SchemaBinding.Proofs.Comments
import SchemaBinding.Proofs.TreeChanges
import SchemaBinding.Proofs.Overwriting
import SchemaBinding.Proofs.Reloading
import SchemaBinding.Proofs.Invocations
import SchemaBinding.Proofs.Regeneration
import SchemaBinding.Proofs.Repetition
import SchemaBinding.Proofs.Histories
import SchemaBinding.Proofs.Completion
import SchemaBinding.Proofs.Caches
import SchemaBinding.Proofs.Rebuilding
import SchemaBinding.Proofs.Sessions
import SchemaBinding.Proofs.Attempts
import SchemaBinding.Proofs.FreshNames
import SchemaBinding.Proofs.Fields
import SchemaBinding.Proofs.Precedence
import SchemaBinding.Proofs.Restatement
import SchemaBinding.Proofs.Locations
import SchemaBinding.Proofs.RootElements
import SchemaBinding.Proofs.FileLocators
import SchemaBinding.Proofs.Visits
import SchemaBinding.Proofs.Flattening
import SchemaBinding.Proofs.Regrouping
import SchemaBinding.Proofs.Scopes
import SchemaBinding.Proofs.ScopedSchemas
import SchemaBinding.Proofs.Literals
import SchemaBinding.Proofs.Enumerations
import SchemaBinding.Proofs.Numerals
import SchemaBinding.Proofs.Occurrences
import SchemaBinding.Proofs.Counting
import SchemaBinding.Proofs.Replacement
import SchemaBinding.Proofs.Confinement
import SchemaBinding.Proofs.WritingModes
import SchemaBinding.Proofs.Settings
import SchemaBinding.Proofs.Discovery
import SchemaBinding.Proofs.NameRequests
import SchemaBinding.Proofs.Sanitizing
import SchemaBinding.Proofs.ListStores
import SchemaBinding.Proofs.SharedCatalogs
import SchemaBinding.Proofs.Workspaces
import SchemaBinding.Proofs.WorkspaceEmission
import SchemaBinding.Proofs.HeldCatalogs
import SchemaBinding.Proofs.WorkspaceMerging
import SchemaBinding.Proofs.WorkspaceModels
import SchemaBinding.Proofs.WorkspaceBuilding
