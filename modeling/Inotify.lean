import Inotify.Text.Utf8
import Inotify.Text.Numeral
import Inotify.Mask
import Inotify.Word
import Inotify.Record
import Inotify.Record.Decode
import Inotify.Json
import Inotify.Line
import Inotify.Errno
import Inotify.Failure
import Inotify.Path
import Inotify.Sink
import Inotify.Channel
import Inotify.SignalState
import Inotify.Session
import Inotify.Loop
import Inotify.Monitor
import Inotify.Text.CodePoints
import Inotify.Text.Blank
import Inotify.Text.Alphanumeric
import Inotify.Text.Hidden
import Inotify.Text.Diagnostic
import Inotify.Filter
import Inotify.Binary64
import Inotify.Toml.Value
import Inotify.Toml.Text
import Inotify.Toml.Scalar
import Inotify.Toml.Members
import Inotify.Toml.Statement
import Inotify.Toml.Document
import Inotify.Config
import Inotify.Config.Source
import Inotify.Config.File
import Inotify.Text.Unsigned
import Inotify.CommandLine
import Inotify.CommandLine.Help
import Inotify.FileTree
import Inotify.Launch
import Inotify.Main
import Inotify.Proofs.Record.Packing
import Inotify.Proofs.Record.Reading
import Inotify.Proofs.Record.RoundTrip
import Inotify.Proofs.Record.Bounds
import Inotify.Proofs.Record.Resumption
import Inotify.Proofs.Record.Reencoding
import Inotify.Proofs.Session.Writing
import Inotify.Proofs.Session.Release
import Inotify.Proofs.Loop.Frame
import Inotify.Proofs.Loop.Script
import Inotify.Proofs.Monitor.Bracket
import Inotify.Proofs.Monitor.BufferSize
import Inotify.Proofs.Loop.Cutoff
import Inotify.Proofs.Monitor.Delivery
import Inotify.Proofs.Monitor.ExitCode
import Inotify.Proofs.Path.Spelling
import Inotify.Proofs.Loop.AfterClose
import Inotify.Proofs.Session.Registrations
import Inotify.Proofs.Loop.Interleaving
import Inotify.Proofs.Signal.History
import Inotify.Proofs.Loop.Leftovers
import Inotify.Proofs.Text.Numeral
import Inotify.Proofs.Text.Utf8
import Inotify.Proofs.Json.Reading
import Inotify.Proofs.Record.Kinds
import Inotify.Proofs.Line.Text
import Inotify.Proofs.Line.Json
import Inotify.Proofs.Line.Breaks
import Inotify.Proofs.Line.Kinds
import Inotify.Proofs.Toml.Spelling
import Inotify.Proofs.Toml.Lines
import Inotify.Proofs.Config.Loading
import Inotify.Proofs.Config.Precedence
import Inotify.Proofs.Sink.Attempts
import Inotify.Proofs.Session.Lines
