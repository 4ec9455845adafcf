import BeanAtlas.Analysis.File
import BeanAtlas.Analysis.Settings
import BeanAtlas.Bean.Discovery
import BeanAtlas.Command.Arguments
import BeanAtlas.Command.Layout
import BeanAtlas.Command.Outcome
import BeanAtlas.Command.Run
import BeanAtlas.Config.Basic
import BeanAtlas.Config.Inline
import BeanAtlas.Config.Setting
import BeanAtlas.Config.Variables
import BeanAtlas.Extract.Annotation
import BeanAtlas.Extract.Class
import BeanAtlas.Extract.Member
import BeanAtlas.FilePath
import BeanAtlas.FileTree
import BeanAtlas.Glob.Basic
import BeanAtlas.Glob.Reader
import BeanAtlas.Ignore.Rule
import BeanAtlas.Ignore.Scope
import BeanAtlas.Injection.Refine
import BeanAtlas.Injection.Sites
import BeanAtlas.Java.Declarations
import BeanAtlas.Java.Parse
import BeanAtlas.Java.Token
import BeanAtlas.Java.Types
import BeanAtlas.Json.Config
import BeanAtlas.Json.Printer
import BeanAtlas.Json.Reader
import BeanAtlas.Json.Records
import BeanAtlas.Json.Results
import BeanAtlas.Json.Value
import BeanAtlas.Lombok.Simulation
import BeanAtlas.Main
import BeanAtlas.Model.Annotation
import BeanAtlas.Model.Bean
import BeanAtlas.Model.Class
import BeanAtlas.Proofs.Registry.Live
import BeanAtlas.Proofs.SortedMap
import BeanAtlas.Registry.Basic
import BeanAtlas.Registry.Resolution
import BeanAtlas.SortedMap
import BeanAtlas.Source.Failure
import BeanAtlas.Source.Locate
import BeanAtlas.Source.Position
import BeanAtlas.Source.Text
import BeanAtlas.SourceRoot
import BeanAtlas.Text.Alphanumeric
import BeanAtlas.Text.Blank
import BeanAtlas.Text.Bytes
import BeanAtlas.Text.Capital
import BeanAtlas.Text.LetterCase
import BeanAtlas.Text.Lines
import BeanAtlas.Text.Search
import BeanAtlas.Toml.Document
import BeanAtlas.Toml.Number
import BeanAtlas.Toml.Text
import BeanAtlas.Tree.Document
import BeanAtlas.Tree.Node
import BeanAtlas.Tree.Outline
import BeanAtlas.Tree.Warning
import BeanAtlas.TypeText
import BeanAtlas.Watch.Event
import BeanAtlas.Watch.Report
import BeanAtlas.Workspace
import BeanAtlas.Proofs.Registry.Lookup
import BeanAtlas.Proofs.Analysis.Origin
import BeanAtlas.Proofs.Workspace.Edits
import BeanAtlas.Proofs.Workspace.Current
import BeanAtlas.Proofs.Workspace.Orphans
import BeanAtlas.Proofs.Workspace.Rebuild
import BeanAtlas.Proofs.Registry.Scan
import BeanAtlas.Proofs.Registry.NameTier
import BeanAtlas.Proofs.Registry.Order
import BeanAtlas.Proofs.Registry.Cardinality
import BeanAtlas.Proofs.Extract.Walk
import BeanAtlas.Proofs.FilePath
import BeanAtlas.Proofs.Json.RoundTrip
import BeanAtlas.Proofs.SourceRoot.Walk
import BeanAtlas.Proofs.Workspace.Batch
import BeanAtlas.Proofs.Workspace.Frame
import BeanAtlas.Proofs.SourceRoot.Inclusion
import BeanAtlas.Proofs.Workspace.Resave
import BeanAtlas.Proofs.ElementType
import BeanAtlas.Proofs.Registry.Spacing
import BeanAtlas.Proofs.Extract.Comments
import BeanAtlas.Proofs.Text.Search
import BeanAtlas.Proofs.Injection.FieldPlace
import BeanAtlas.Proofs.Glob
import BeanAtlas.Proofs.TypeSyntax
import BeanAtlas.Proofs.SourceRoot.Discovery
import BeanAtlas.Proofs.Analysis.Switches
import BeanAtlas.Proofs.Lombok.Agreement
import BeanAtlas.Proofs.Text.LetterCase
import BeanAtlas.Proofs.Registry.DefaultName
import BeanAtlas.Proofs.Registry.OwnName
import BeanAtlas.Proofs.Injection.Wiring
import BeanAtlas.Proofs.Lombok.Extracted
import BeanAtlas.Proofs.Registry.Unrelated
import BeanAtlas.Proofs.Registry.Varargs
import BeanAtlas.Proofs.Command.Verdict
import BeanAtlas.Proofs.Command.Views
import BeanAtlas.Proofs.Tree.Visit
import BeanAtlas.Proofs.Tree.Warning
import BeanAtlas.Proofs.Extract.Argument
import BeanAtlas.Proofs.Source.Place
import BeanAtlas.Proofs.Extract.Layout
import BeanAtlas.Proofs.SourceRoot.Ignored
import BeanAtlas.Proofs.Bean.Arrays
import BeanAtlas.Proofs.Watch.Classification
import BeanAtlas.Proofs.Config.Layers
import BeanAtlas.Proofs.Config.Variables
import BeanAtlas.Proofs.Config.Load
