import ProverLink.Act
import ProverLink.Bridge
import ProverLink.Child.Basic
import ProverLink.CommandLine.Options
import ProverLink.CommandLine.Run
import ProverLink.Config.Basic
import ProverLink.Config.Load
import ProverLink.Config.Timeout
import ProverLink.Editor.Event
import ProverLink.Editor.Position
import ProverLink.Fault
import ProverLink.File.Path
import ProverLink.File.Tree
import ProverLink.Json.Compact
import ProverLink.Json.Display
import ProverLink.Json.Reader
import ProverLink.Json.Value
import ProverLink.Limits
import ProverLink.Log.Level
import ProverLink.Log.Notice
import ProverLink.Main
import ProverLink.Message.Basic
import ProverLink.Message.Checked
import ProverLink.Message.Tag
import ProverLink.Message.Validation
import ProverLink.Number.Binary64
import ProverLink.Number.Decimal
import ProverLink.Number.Shortest
import ProverLink.Proofs.Acts
import ProverLink.Proofs.Decoding
import ProverLink.Proofs.Lines
import ProverLink.Query
import ProverLink.Registry.Basic
import ProverLink.Registry.Threads
import ProverLink.Server
import ProverLink.Session.Basic
import ProverLink.Session.Dispatch
import ProverLink.Text.Blank
import ProverLink.Text.CodePoint
import ProverLink.Text.Digit
import ProverLink.Text.LineBuffer
import ProverLink.Text.Printable
import ProverLink.Text.Quoted
import ProverLink.Text.Scan
import ProverLink.Text.Utf8
import ProverLink.Toml.Document
import ProverLink.Toml.Moment
import ProverLink.Toml.Reader
import ProverLink.Toml.Value
import ProverLink.Uri.Host
import ProverLink.Uri.Location
import ProverLink.Proofs.Dispatch
import ProverLink.Proofs.Registry
import ProverLink.Proofs.Framing
import ProverLink.Proofs.LostLines
import ProverLink.Proofs.Moves
import ProverLink.Proofs.Operations
import ProverLink.Proofs.Courses
import ProverLink.Proofs.EditorView
import ProverLink.Proofs.Numbers
import ProverLink.Proofs.Checks
import ProverLink.Proofs.Erasure
import ProverLink.Proofs.Supersession
import ProverLink.Proofs.Encoding
import ProverLink.Proofs.Rereading
import ProverLink.Proofs.Endings
import ProverLink.Proofs.Exchanges
import ProverLink.Proofs.Callbacks
import ProverLink.Proofs.Pipes
import ProverLink.Proofs.Transcripts
import ProverLink.Proofs.Ownership
import ProverLink.Proofs.Reports
import ProverLink.Proofs.UnexpectedExits
import ProverLink.Proofs.Grammar
import ProverLink.Proofs.LineEffects
import ProverLink.Proofs.Conversations
import ProverLink.Proofs.Upkeep
import ProverLink.Proofs.Mirrors
import ProverLink.Proofs.Isolation
import ProverLink.Proofs.QueryLines
import ProverLink.Proofs.Openings
import ProverLink.Proofs.Trails
import ProverLink.Proofs.Listening
import ProverLink.Proofs.TomlTexts
import ProverLink.Proofs.TomlNumbers
import ProverLink.Proofs.ConfigFiles
import ProverLink.Proofs.Rounding
import ProverLink.Proofs.ShortestDecimals
import ProverLink.Proofs.NumberTexts
import ProverLink.Proofs.TomlValues
import ProverLink.Proofs.Blanks
import ProverLink.Proofs.TimeoutTexts
import ProverLink.Proofs.Settings
import ProverLink.Proofs.Tags
import ProverLink.Proofs.ServerRuns
import ProverLink.Proofs.PercentEncoding
import ProverLink.Proofs.Reassembly
