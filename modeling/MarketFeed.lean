import MarketFeed.CommandError
import MarketFeed.CommandLine.Argument
import MarketFeed.CommandLine.Command
import MarketFeed.CommandLine.Given
import MarketFeed.CommandLine.Invocation
import MarketFeed.CommandLine.Parameter
import MarketFeed.CommandLine.Reading
import MarketFeed.CommandLine.Rejection
import MarketFeed.CommandLine.Usage
import MarketFeed.Context.Basic
import MarketFeed.Context.Root
import MarketFeed.DataService
import MarketFeed.Environment
import MarketFeed.Event
import MarketFeed.ExitStatus
import MarketFeed.Fault
import MarketFeed.FileTree.Basic
import MarketFeed.FileTree.Change
import MarketFeed.FileTree.Walk
import MarketFeed.IoError
import MarketFeed.Location
import MarketFeed.LogLevel
import MarketFeed.Logger
import MarketFeed.Main
import MarketFeed.Path
import MarketFeed.Program
import MarketFeed.Registry
import MarketFeed.RegistryError
import MarketFeed.Request
import MarketFeed.RuntimeLog
import MarketFeed.ServiceError
import MarketFeed.Services
import MarketFeed.Session
import MarketFeed.Settings.Basic
import MarketFeed.Settings.Load
import MarketFeed.Settings.Text
import MarketFeed.Shell
import MarketFeed.Source.Basic
import MarketFeed.Source.Counting
import MarketFeed.Source.Probe
import MarketFeed.SourceError
import MarketFeed.Terminal.Colour
import MarketFeed.Terminal.LogLine
import MarketFeed.Terminal.Message
import MarketFeed.Terminal.Plain
import MarketFeed.Terminal.Style
import MarketFeed.Terminal.Transcript
import MarketFeed.Text.Alphanumeric
import MarketFeed.Text.Blank
import MarketFeed.Text.Case
import MarketFeed.Text.CodeRanges
import MarketFeed.Text.Expansion
import MarketFeed.Text.Hidden
import MarketFeed.Text.Quoted
import MarketFeed.Text.Utf8
import MarketFeed.Text.Word
import MarketFeed.Toml.Document
import MarketFeed.Toml.Quoting
import MarketFeed.Toml.Scalar
import MarketFeed.Toml.Table
import MarketFeed.Toml.Token
import MarketFeed.ValueError
import MarketFeed.Proofs.FileTree.Growth
import MarketFeed.Proofs.Path.Ancestors
import MarketFeed.Proofs.FileTree.Children
import MarketFeed.Proofs.CommandLine.Invariant
import MarketFeed.Proofs.Session.Running
import MarketFeed.Proofs.Services.Data
import MarketFeed.Proofs.CommandLine.Sources
import MarketFeed.Proofs.Program.Outcome
import MarketFeed.Proofs.Program.Frame
import MarketFeed.Proofs.Settings.Layers
import MarketFeed.Proofs.Toml.Strings
import MarketFeed.Proofs.Toml.Lines
import MarketFeed.Proofs.Settings.RoundTrip
import MarketFeed.Proofs.Settings.StandardHome
import MarketFeed.Proofs.Program.Status
import MarketFeed.Proofs.Path.Components
import MarketFeed.Proofs.Location.Directories
import MarketFeed.Proofs.Location.Addresses
import MarketFeed.Proofs.Location.UniqueNames
import MarketFeed.Proofs.Location.Parts
import MarketFeed.Proofs.Registry.Entries
import MarketFeed.Proofs.Registry.FirstWins
import MarketFeed.Proofs.Session.Journal
import MarketFeed.Proofs.Context.Grove
import MarketFeed.Proofs.Services.Getting
import MarketFeed.Proofs.Services.Dispatch
import MarketFeed.Proofs.Services.Course
import MarketFeed.Proofs.RuntimeLog.Markings
import MarketFeed.Proofs.FileTree.Existing
import MarketFeed.Proofs.Program.Reset
import MarketFeed.Proofs.Session.Levels
import MarketFeed.Proofs.Services.Levels
import MarketFeed.Proofs.Text.Encoding
import MarketFeed.Proofs.Text.IllFormed
import MarketFeed.Proofs.Text.Shown
import MarketFeed.Proofs.Settings.LiteralHome
import MarketFeed.Proofs.Settings.Tilde
import MarketFeed.Proofs.RuntimeLog.Confined
import MarketFeed.Proofs.Program.Creation
import MarketFeed.Proofs.Terminal.Shown
import MarketFeed.Proofs.Program.Verbosity
import MarketFeed.Proofs.CommandLine.Walk
import MarketFeed.Proofs.CommandLine.Besides
import MarketFeed.Proofs.CommandLine.Globals
import MarketFeed.Proofs.CommandLine.Positions
import MarketFeed.Proofs.CommandLine.Loudness
import MarketFeed.Proofs.Settings.LevelReaders
import MarketFeed.Proofs.Program.Catalogue
import MarketFeed.Proofs.Errors.Causes
