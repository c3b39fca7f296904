import Cratewright.CommandLine
import Cratewright.Config.Generator
import Cratewright.Config.Interceptors
import Cratewright.Config.Parameter
import Cratewright.Config.Section
import Cratewright.Config.TokenProvider
import Cratewright.Crate.Dependency
import Cratewright.Crate.DependencySet
import Cratewright.Crate.Known
import Cratewright.Crate.Manifest
import Cratewright.Decimal.Binary64
import Cratewright.Decimal.Positional
import Cratewright.Decimal.Shortest
import Cratewright.Digest.Sha256
import Cratewright.Error
import Cratewright.Files.Access
import Cratewright.Files.Tree
import Cratewright.Generation
import Cratewright.Inspect
import Cratewright.Json.Fault
import Cratewright.Json.Numeral
import Cratewright.Json.Printer
import Cratewright.Json.Reader
import Cratewright.Json.Record
import Cratewright.Json.Value
import Cratewright.LogFilter
import Cratewright.LogFilter.Directive
import Cratewright.LogFilter.Value
import Cratewright.Main
import Cratewright.Model
import Cratewright.Model.Draft
import Cratewright.Model.Format
import Cratewright.Outcome
import Cratewright.Path
import Cratewright.Pipeline
import Cratewright.Proofs.Config.Agreement
import Cratewright.Proofs.Config.Code
import Cratewright.Proofs.Config.Documentation
import Cratewright.Proofs.Config.Insertion
import Cratewright.Proofs.Config.Names
import Cratewright.Proofs.Config.Scripts
import Cratewright.Proofs.Config.StorageModes
import Cratewright.Proofs.Crate.DevelopmentFeatures
import Cratewright.Proofs.Crate.LocalPaths
import Cratewright.Proofs.Crate.Manifest
import Cratewright.Proofs.Crate.Merge
import Cratewright.Proofs.Files.Ancestors
import Cratewright.Proofs.Files.Effects
import Cratewright.Proofs.Files.Listing
import Cratewright.Proofs.Files.Locations
import Cratewright.Proofs.Files.Making
import Cratewright.Proofs.Files.Places
import Cratewright.Proofs.Files.Reading
import Cratewright.Proofs.Files.Trees
import Cratewright.Proofs.Generation.Assembly
import Cratewright.Proofs.Generation.Layout
import Cratewright.Proofs.Generation.Newtypes
import Cratewright.Proofs.Generation.Outcome
import Cratewright.Proofs.Generation.ProtocolNames
import Cratewright.Proofs.Generation.Slots
import Cratewright.Proofs.Generation.Soundness
import Cratewright.Proofs.Json.Components
import Cratewright.Proofs.Json.Records
import Cratewright.Proofs.Json.Tokens
import Cratewright.Proofs.Json.Values
import Cratewright.Proofs.Json.Views
import Cratewright.Proofs.Model.DocumentTraits
import Cratewright.Proofs.Model.Documents
import Cratewright.Proofs.Model.DraftDocuments
import Cratewright.Proofs.Model.DraftMeaning
import Cratewright.Proofs.Model.Drafts
import Cratewright.Proofs.Model.Listings
import Cratewright.Proofs.Model.Operations
import Cratewright.Proofs.Model.Parts
import Cratewright.Proofs.Model.Reachability
import Cratewright.Proofs.Model.RoundTrip
import Cratewright.Proofs.Model.Tokens
import Cratewright.Proofs.Model.Traits
import Cratewright.Proofs.Pipeline.Confinement
import Cratewright.Proofs.Pipeline.CrateNames
import Cratewright.Proofs.Pipeline.Isolation
import Cratewright.Proofs.Pipeline.ReadBack
import Cratewright.Proofs.Pipeline.Room
import Cratewright.Proofs.Pipeline.Runs
import Cratewright.Proofs.Pipeline.Writing
import Cratewright.Proofs.Protocol.Scripts
import Cratewright.Proofs.Protocol.Selection
import Cratewright.Proofs.Settings.RoundTrip
import Cratewright.Proofs.ShapeId.Grammar
import Cratewright.Proofs.ShapeId.Order
import Cratewright.Proofs.SortedMap
import Cratewright.Proofs.Source.Closure
import Cratewright.Proofs.Source.CommitOrder
import Cratewright.Proofs.Source.Composition
import Cratewright.Proofs.Source.CrateRoots
import Cratewright.Proofs.Source.Dedenting
import Cratewright.Proofs.Source.Embedding
import Cratewright.Proofs.Source.History
import Cratewright.Proofs.Source.Insertion
import Cratewright.Proofs.Source.Layout
import Cratewright.Proofs.Source.Lines
import Cratewright.Proofs.Source.Placement
import Cratewright.Proofs.Source.Printing
import Cratewright.Proofs.Source.Registration
import Cratewright.Proofs.Source.Scripts
import Cratewright.Proofs.Source.Shallow
import Cratewright.Proofs.Source.States
import Cratewright.Proofs.Source.Takes
import Cratewright.Proofs.Source.Verbatim
import Cratewright.Proofs.Text.Gaps
import Cratewright.Proofs.Text.Lines
import Cratewright.Proofs.Text.Margins
import Cratewright.Proofs.Text.Sequence
import Cratewright.Proofs.Text.Words
import Cratewright.Protocol.Customizations
import Cratewright.Protocol.Family
import Cratewright.Protocol.Generator
import Cratewright.Protocol.Loader
import Cratewright.Protocol.Section
import Cratewright.Regex.Reader
import Cratewright.Regex.Support
import Cratewright.Regex.Syntax
import Cratewright.Settings
import Cratewright.Settings.Format
import Cratewright.ShapeId
import Cratewright.SortedMap
import Cratewright.Source.Ending
import Cratewright.Source.Fragment
import Cratewright.Source.Module
import Cratewright.Source.Reach
import Cratewright.Source.Registry
import Cratewright.Source.Resource
import Cratewright.Source.Run
import Cratewright.Source.Script
import Cratewright.Source.Template
import Cratewright.Source.Writer
import Cratewright.Text.Alphanumeric
import Cratewright.Text.Blank
import Cratewright.Text.LetterCase
import Cratewright.Text.Lines
import Cratewright.Text.Quoted
import Cratewright.Text.Search
import Cratewright.Text.Words
import Cratewright.Toml
