import TimeServer.Packet
import TimeServer.Text.Blank
import TimeServer.Text.Decimal
import TimeServer.Packet.Stream
import TimeServer.Packet.Text
import TimeServer.Address
import TimeServer.Access
import TimeServer.Connection.Error
import TimeServer.Lifecycle
import TimeServer.Server.Error
import TimeServer.Settings
import TimeServer.Stats
import TimeServer.Connection
import TimeServer.Connection.Session
import TimeServer.Pool
import TimeServer.Pool.Session
import TimeServer.Network
import TimeServer.Network.Rules
import TimeServer.Server
import TimeServer.Server.Task
import TimeServer.Server.Schedule
import TimeServer.Server.Session
import TimeServer.Toml.Datetime
import TimeServer.Toml.Document.Reader
import TimeServer.Toml.Document.Writer
import TimeServer.Config
import TimeServer.Config.Document
import TimeServer.Config.Error
import TimeServer.Config.Validity
import TimeServer.Config.Storage
import TimeServer.Log.Filter
import TimeServer.Log.Record
import TimeServer.CommandLine
import TimeServer.CommandLine.Reader
import TimeServer.Daemon
import TimeServer.Daemon.Scene
import TimeServer.Daemon.Logging
import TimeServer.Program
import TimeServer.Main
import TimeServer.Proofs.Stats
import TimeServer.Proofs.Counters
import TimeServer.Proofs.Packet.Format
import TimeServer.Proofs.Packet.Transfer
import TimeServer.Proofs.Connection.Lifetime
import TimeServer.Proofs.Address.Text
import TimeServer.Proofs.Address.Client
import TimeServer.Proofs.Connection.Release
import TimeServer.Proofs.Connection.Operation
import TimeServer.Proofs.Connection.Framing
import TimeServer.Proofs.Connection.Sending
import TimeServer.Proofs.Connection.Reception
import TimeServer.Proofs.Connection.Exchange
import TimeServer.Proofs.Config.Clients
import TimeServer.Proofs.Pool.Step
import TimeServer.Proofs.Pool.Visitor
import TimeServer.Proofs.Pool.Progress
import TimeServer.Proofs.Pool.Conservation
import TimeServer.Proofs.Pool.Trace
import TimeServer.Proofs.Pool.Placement
import TimeServer.Proofs.Pool.Serial
import TimeServer.Proofs.Pool.Company
import TimeServer.Proofs.Pool.Endings
import TimeServer.Proofs.Network
import TimeServer.Proofs.Network.Available
import TimeServer.Proofs.Network.Arrivals
import TimeServer.Proofs.Server.Acceptor
import TimeServer.Proofs.Server.Call
import TimeServer.Proofs.Server.Schedule
import TimeServer.Proofs.Server.Lifecycle
import TimeServer.Proofs.Server.Run
import TimeServer.Proofs.Server.Runs
import TimeServer.Proofs.Server.Gauge
import TimeServer.Proofs.Server.Accounts
import TimeServer.Proofs.Server.Booking
import TimeServer.Proofs.Server.Graceful
import TimeServer.Proofs.Server.Forsaken
import TimeServer.Proofs.Server.Progress
import TimeServer.Proofs.Server.Alone
import TimeServer.Proofs.Server.Start
import TimeServer.Proofs.Server.Observers
import TimeServer.Proofs.Server.Latest
import TimeServer.Proofs.Server.Waking
import TimeServer.Proofs.Connection.Interruption
import TimeServer.Proofs.Settings.Admission
import TimeServer.Proofs.Time.Calendar
import TimeServer.Proofs.Time.Grammar
import TimeServer.Proofs.Time.RoundTrip
import TimeServer.Proofs.Time.Order
import TimeServer.Proofs.Connection.Refusal
import TimeServer.Proofs.Toml.Strings
import TimeServer.Proofs.Toml.Scalars
import TimeServer.Proofs.Config.RoundTrip
import TimeServer.Proofs.Config.Storage
import TimeServer.Proofs.Config.ListenAddress
import TimeServer.Proofs.Connection.Loops
import TimeServer.Proofs.Log.Filter
import TimeServer.Proofs.Daemon.Ending
