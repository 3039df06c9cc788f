import BlockCoverage.CommandLine.Options
import BlockCoverage.CommandLine.Reading
import BlockCoverage.Config
import BlockCoverage.Corpus
import BlockCoverage.Digest.Checksum
import BlockCoverage.Digest.Md5
import BlockCoverage.Digest.Sha
import BlockCoverage.Fault
import BlockCoverage.Files.Cause
import BlockCoverage.Files.Inode
import BlockCoverage.Files.Tree
import BlockCoverage.Found
import BlockCoverage.FunctionId
import BlockCoverage.Json.Fault
import BlockCoverage.Json.Reader
import BlockCoverage.Json.Record
import BlockCoverage.Json.Scan
import BlockCoverage.Json.Skip
import BlockCoverage.Json.Writer
import BlockCoverage.Listing
import BlockCoverage.Main
import BlockCoverage.Model.Basic
import BlockCoverage.Model.Index
import BlockCoverage.Model.Lines
import BlockCoverage.Model.Lookup
import BlockCoverage.Model.Merge
import BlockCoverage.Model.Summary
import BlockCoverage.Number.Binary
import BlockCoverage.Number.Natural
import BlockCoverage.Number.Nearest
import BlockCoverage.Number.Octets
import BlockCoverage.Number.Percent
import BlockCoverage.Number.Shortest
import BlockCoverage.Ordered.Map
import BlockCoverage.Ordered.Set
import BlockCoverage.Path
import BlockCoverage.Program
import BlockCoverage.Proofs.Json.Fields
import BlockCoverage.Proofs.Json.Inverse
import BlockCoverage.Proofs.Json.Lines
import BlockCoverage.Proofs.Json.Numeral
import BlockCoverage.Proofs.Json.Text
import BlockCoverage.Proofs.Model.Aggregate
import BlockCoverage.Proofs.Model.Blocks
import BlockCoverage.Proofs.Model.HitState
import BlockCoverage.Proofs.Model.Skeleton
import BlockCoverage.Proofs.Model.Strict
import BlockCoverage.Proofs.Model.Visits
import BlockCoverage.Proofs.Ordered.Lookup
import BlockCoverage.Proofs.Snapshot.Document
import BlockCoverage.Proofs.Snapshot.RoundTrip
import BlockCoverage.Proofs.Text.Utf8
import BlockCoverage.Proofs.Trace.Delivery
import BlockCoverage.Proofs.Trace.RoundTrip
import BlockCoverage.Proofs.Trace.Scan
import BlockCoverage.Proofs.Trace.Truncation
import BlockCoverage.Report
import BlockCoverage.Run.Ending
import BlockCoverage.Run.Executor
import BlockCoverage.Run.Host
import BlockCoverage.Run.Observer
import BlockCoverage.Run.Platform
import BlockCoverage.Run.Status
import BlockCoverage.Run.TargetCommand
import BlockCoverage.Run.TraceFile
import BlockCoverage.Script.Arithmetic
import BlockCoverage.Script.Builtin.Control
import BlockCoverage.Script.Builtin.Output
import BlockCoverage.Script.Builtin.Places
import BlockCoverage.Script.Builtin.Variables
import BlockCoverage.Script.Command
import BlockCoverage.Script.Condition
import BlockCoverage.Script.Expand
import BlockCoverage.Script.Find
import BlockCoverage.Script.Format
import BlockCoverage.Script.Grammar
import BlockCoverage.Script.Launch
import BlockCoverage.Script.Machine
import BlockCoverage.Script.Numeral
import BlockCoverage.Script.Pattern
import BlockCoverage.Script.Permissions
import BlockCoverage.Script.Process
import BlockCoverage.Script.Programs
import BlockCoverage.Script.Redirection
import BlockCoverage.Script.Run
import BlockCoverage.Script.Source
import BlockCoverage.Script.Starters
import BlockCoverage.Script.Switches
import BlockCoverage.Script.Token
import BlockCoverage.Script.Utility.Basic
import BlockCoverage.Script.Utility.Blocks
import BlockCoverage.Script.Utility.Characters
import BlockCoverage.Script.Utility.Columns
import BlockCoverage.Script.Utility.Contents
import BlockCoverage.Script.Utility.Dump
import BlockCoverage.Script.Utility.Edit
import BlockCoverage.Script.Utility.Encodings
import BlockCoverage.Script.Utility.Ends
import BlockCoverage.Script.Utility.Identity
import BlockCoverage.Script.Utility.Listing
import BlockCoverage.Script.Utility.Matching
import BlockCoverage.Script.Utility.Names
import BlockCoverage.Script.Utility.Order
import BlockCoverage.Script.Utility.Paths
import BlockCoverage.Script.Utility.Search
import BlockCoverage.Script.Utility.Sequences
import BlockCoverage.Script.Utility.Times
import BlockCoverage.Script.Utility.Versions
import BlockCoverage.Script.World
import BlockCoverage.Session
import BlockCoverage.Shell.Command
import BlockCoverage.Shell.Loop
import BlockCoverage.Snapshot
import BlockCoverage.Source
import BlockCoverage.StaticMap
import BlockCoverage.Text.Blank
import BlockCoverage.Text.Invisible
import BlockCoverage.Text.Letter.Case
import BlockCoverage.Text.Letter.Lower
import BlockCoverage.Text.Lines
import BlockCoverage.Text.Octets
import BlockCoverage.Text.Pieces
import BlockCoverage.Text.Quoted
import BlockCoverage.Text.Ranges
import BlockCoverage.Text.Regex
import BlockCoverage.Text.Utf8
import BlockCoverage.Toml.Assembly
import BlockCoverage.Toml.Document
import BlockCoverage.Toml.Number
import BlockCoverage.Toml.Quoted
import BlockCoverage.Toml.Scan
import BlockCoverage.Toml.Shape
import BlockCoverage.Toml.Value
import BlockCoverage.Trace.Decode
import BlockCoverage.Trace.Layout
import BlockCoverage.Trace.Mode
import BlockCoverage.Trace.Record
import BlockCoverage.Trace.Stream
import BlockCoverage.Proofs.Model.Attribution
import BlockCoverage.Proofs.Files.Walk
import BlockCoverage.Proofs.Model.Gains
import BlockCoverage.Proofs.Model.Order
import BlockCoverage.Proofs.Run.Course
import BlockCoverage.Proofs.Run.TraceFile
import BlockCoverage.Proofs.Snapshot.Resumption
import BlockCoverage.Proofs.Session.Run
import BlockCoverage.Proofs.Session.Entries
import BlockCoverage.Proofs.Session.Order
import BlockCoverage.Proofs.Corpus.Loading
import BlockCoverage.Proofs.Session.Duplicates
import BlockCoverage.Proofs.Files.Numbering
import BlockCoverage.Proofs.Run.Alike
import BlockCoverage.Proofs.Session.Leftovers
import BlockCoverage.Proofs.Session.Accounting
import BlockCoverage.Proofs.Snapshot.History
import BlockCoverage.Proofs.Trace.Endings
import BlockCoverage.Proofs.Session.Saved
import BlockCoverage.Proofs.Model.Fitting
import BlockCoverage.Proofs.Model.Faults
import BlockCoverage.Proofs.Model.Lenient
import BlockCoverage.Proofs.Model.LineClasses
import BlockCoverage.Proofs.Shell.Script
import BlockCoverage.Proofs.Ordered.Members
import BlockCoverage.Proofs.Model.Modes
import BlockCoverage.Proofs.Model.Partition
import BlockCoverage.Proofs.Model.NameIndex
import BlockCoverage.Proofs.Model.Addressing
import BlockCoverage.Proofs.Model.Views
import BlockCoverage.Proofs.Text.Lines
import BlockCoverage.Proofs.Model.Resolution
import BlockCoverage.Proofs.Listing.Colours
import BlockCoverage.Proofs.Run.Protocol
import BlockCoverage.Proofs.Corpus.Invariant
import BlockCoverage.Proofs.Snapshot.Regrouping
import BlockCoverage.Proofs.Listing.Rows
import BlockCoverage.Proofs.Shell.Spelling
import BlockCoverage.Proofs.StaticMap.Rendering
import BlockCoverage.Proofs.Trace.Requests
import BlockCoverage.Proofs.Trace.Bounds
import BlockCoverage.Proofs.Path.Spelling
import BlockCoverage.Proofs.Path.Matching
import BlockCoverage.Proofs.Files.Start
import BlockCoverage.Proofs.Run.TracePath
import BlockCoverage.Proofs.Run.InputFile
