import Noughts.Config
import Noughts.Disk
import Noughts.Duration
import Noughts.Event
import Noughts.Grid
import Noughts.Identity
import Noughts.Journal
import Noughts.Json.Basic
import Noughts.Json.Fault
import Noughts.Json.Node
import Noughts.Json.Reader
import Noughts.Json.Token
import Noughts.Main
import Noughts.MoveRange
import Noughts.MoveRange.Cover
import Noughts.Outbox
import Noughts.Outbox.RetryPolicy
import Noughts.Outbox.Timeline
import Noughts.Outcome
import Noughts.Registry
import Noughts.Service.CommandLine
import Noughts.Service.EnvFile
import Noughts.Service.LogFilter
import Noughts.Service.Loop
import Noughts.Service.Program
import Noughts.Service.Request
import Noughts.Session
import Noughts.Text.Alphanumeric
import Noughts.Text.Blank
import Noughts.Text.Located
import Noughts.Toml.Document
import Noughts.Toml.Scalar
import Noughts.Toml.Table
import Noughts.Toml.Token
import Noughts.Wire.Board
import Noughts.Wire.Event
import Noughts.Wire.Registry
import Noughts.Proofs.Grid.Line
import Noughts.Proofs.Journal.Pieces
import Noughts.Proofs.Journal.Whole
import Noughts.Proofs.Json.Reads
import Noughts.Proofs.Json.Tokens
import Noughts.Proofs.Json.Tree
import Noughts.Proofs.MoveRange.Exact
import Noughts.Proofs.MoveRange.Greedy
import Noughts.Proofs.MoveRange.Partition
import Noughts.Proofs.MoveRange.Quadruple
import Noughts.Proofs.MoveRange.Views
import Noughts.Proofs.Outbox.Backoff
import Noughts.Proofs.Outbox.Drain
import Noughts.Proofs.Outbox.Feed
import Noughts.Proofs.Outbox.Relay
import Noughts.Proofs.Outbox.Stall
import Noughts.Proofs.Outbox.Standstill
import Noughts.Proofs.Registry.Announced
import Noughts.Proofs.Registry.Answers
import Noughts.Proofs.Registry.Apart
import Noughts.Proofs.Registry.Chronicle
import Noughts.Proofs.Registry.Final
import Noughts.Proofs.Registry.Idle
import Noughts.Proofs.Registry.Offer
import Noughts.Proofs.Registry.Once
import Noughts.Proofs.Registry.Replay
import Noughts.Proofs.Service.InOrder
import Noughts.Proofs.Service.Lines
import Noughts.Proofs.Service.Shutdown
import Noughts.Proofs.Service.Success
import Noughts.Proofs.Service.Transport
import Noughts.Proofs.Session.Bounds
import Noughts.Proofs.Session.InPlace
import Noughts.Proofs.Session.Marks
import Noughts.Proofs.Session.Play
import Noughts.Proofs.Session.Turns
import Noughts.Proofs.Session.Verdict
import Noughts.Proofs.Text.Lines
import Noughts.Proofs.Wire.Board
import Noughts.Proofs.Wire.Messages
import Noughts.Proofs.Word
