import IndexSnapshot.Bytes.Basic
import IndexSnapshot.Bytes.Field
import IndexSnapshot.Bytes.Utf8
import IndexSnapshot.Bytes.Word
import IndexSnapshot.Calendar.Date
import IndexSnapshot.Calendar.Timestamp
import IndexSnapshot.CommandLine.Arguments
import IndexSnapshot.CommandLine.Grammar
import IndexSnapshot.CommandLine.Run
import IndexSnapshot.Config.Basic
import IndexSnapshot.Config.Switch
import IndexSnapshot.Decimal.Double
import IndexSnapshot.Decimal.Nearest
import IndexSnapshot.Decimal.Notation
import IndexSnapshot.Decimal.Places
import IndexSnapshot.Decimal.Shortest
import IndexSnapshot.Diff.Alignment
import IndexSnapshot.Diff.Unified
import IndexSnapshot.Digest.Md5
import IndexSnapshot.Docids.Basic
import IndexSnapshot.Docids.Grid
import IndexSnapshot.Docids.Layout
import IndexSnapshot.Docids.Portable
import IndexSnapshot.Failure
import IndexSnapshot.Files.Fault
import IndexSnapshot.Files.Stream
import IndexSnapshot.Files.Tree
import IndexSnapshot.Fixture.Comparison
import IndexSnapshot.Fixture.Location
import IndexSnapshot.Fixture.Record
import IndexSnapshot.Log.Entry
import IndexSnapshot.Log.Layout
import IndexSnapshot.Log.Logged
import IndexSnapshot.Log.Moment
import IndexSnapshot.Log.Problem
import IndexSnapshot.Log.Sink
import IndexSnapshot.Log.Template
import IndexSnapshot.Main
import IndexSnapshot.Path.Basic
import IndexSnapshot.Pattern.Finder
import IndexSnapshot.Pattern.Parser
import IndexSnapshot.Pattern.Search
import IndexSnapshot.Pattern.Syntax
import IndexSnapshot.Proofs.Actions
import IndexSnapshot.Proofs.Agreement
import IndexSnapshot.Proofs.AppliedDifferences
import IndexSnapshot.Proofs.ByteOrder
import IndexSnapshot.Proofs.CheckMode
import IndexSnapshot.Proofs.Columns
import IndexSnapshot.Proofs.ConfigurationPrecedence
import IndexSnapshot.Proofs.Containers
import IndexSnapshot.Proofs.Digits
import IndexSnapshot.Proofs.DocidLayouts
import IndexSnapshot.Proofs.DocumentEntries
import IndexSnapshot.Proofs.EarlyFailures
import IndexSnapshot.Proofs.FacetLayouts
import IndexSnapshot.Proofs.FacetRoundTrip
import IndexSnapshot.Proofs.FieldHistory
import IndexSnapshot.Proofs.FieldObjects
import IndexSnapshot.Proofs.FixtureFiles
import IndexSnapshot.Proofs.FixtureHistory
import IndexSnapshot.Proofs.FixturePaths
import IndexSnapshot.Proofs.Flaws
import IndexSnapshot.Proofs.GappedSort
import IndexSnapshot.Proofs.IndexAssertion
import IndexSnapshot.Proofs.InlineTexts
import IndexSnapshot.Proofs.InsertionOrder
import IndexSnapshot.Proofs.Isolation
import IndexSnapshot.Proofs.KeptTexts
import IndexSnapshot.Proofs.KeyOrder
import IndexSnapshot.Proofs.KeyRoundTrip
import IndexSnapshot.Proofs.LocatingTests
import IndexSnapshot.Proofs.LongestBlocks
import IndexSnapshot.Proofs.LossyKeys
import IndexSnapshot.Proofs.NaturalOrder
import IndexSnapshot.Proofs.NumberOrder
import IndexSnapshot.Proofs.NumericKeyOrder
import IndexSnapshot.Proofs.NumericSnapshots
import IndexSnapshot.Proofs.PathFolding
import IndexSnapshot.Proofs.PendingFiles
import IndexSnapshot.Proofs.PlainNumerals
import IndexSnapshot.Proofs.PortableBitmap
import IndexSnapshot.Proofs.PositionalNumerals
import IndexSnapshot.Proofs.RefusedConfigurations
import IndexSnapshot.Proofs.RenderReports
import IndexSnapshot.Proofs.RepairedFixtures
import IndexSnapshot.Proofs.Requests
import IndexSnapshot.Proofs.SettingLines
import IndexSnapshot.Proofs.ShortestDecimals
import IndexSnapshot.Proofs.SnapshotContents
import IndexSnapshot.Proofs.SnapshotRoot
import IndexSnapshot.Proofs.SoundFiles
import IndexSnapshot.Proofs.Steps
import IndexSnapshot.Proofs.StoreHistory
import IndexSnapshot.Proofs.StoreTables
import IndexSnapshot.Proofs.StrictText
import IndexSnapshot.Proofs.TableTexts
import IndexSnapshot.Proofs.TestDirectories
import IndexSnapshot.Proofs.Transactions
import IndexSnapshot.Proofs.UnambiguousTexts
import IndexSnapshot.Proofs.UpdateThenCheck
import IndexSnapshot.Proofs.VisibleStrings
import IndexSnapshot.Record.FacetKey
import IndexSnapshot.Record.FacetValue
import IndexSnapshot.Record.Flaw
import IndexSnapshot.Record.Reader
import IndexSnapshot.Record.StringFacet
import IndexSnapshot.Record.WordKey
import IndexSnapshot.Session.Assertion
import IndexSnapshot.Session.Basic
import IndexSnapshot.Session.Binding
import IndexSnapshot.Snapshot.Line
import IndexSnapshot.Snapshot.Name
import IndexSnapshot.Snapshot.Row
import IndexSnapshot.Snapshot.Settings
import IndexSnapshot.Snapshot.Text
import IndexSnapshot.Store.Basic
import IndexSnapshot.Store.Entries
import IndexSnapshot.Store.Fields
import IndexSnapshot.Store.Heap
import IndexSnapshot.Store.Objects
import IndexSnapshot.Store.Table
import IndexSnapshot.Store.World
import IndexSnapshot.Text.Blank
import IndexSnapshot.Text.Column
import IndexSnapshot.Text.Dedent
import IndexSnapshot.Text.Digit
import IndexSnapshot.Text.Lines
import IndexSnapshot.Text.Printable
import IndexSnapshot.Text.Quoted
import IndexSnapshot.Value.Basic
import IndexSnapshot.Value.Display
import IndexSnapshot.Value.Literal
import IndexSnapshot.Value.Order
import IndexSnapshot.Yaml.Document
import IndexSnapshot.Yaml.Fault
import IndexSnapshot.Yaml.Node
import IndexSnapshot.Yaml.Reader
import IndexSnapshot.Yaml.Scalar
import IndexSnapshot.Yaml.Time
import IndexSnapshot.Yaml.Token
import IndexSnapshot.Yaml.Tree
