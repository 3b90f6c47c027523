import AgentIntake.Text.Utf8
import AgentIntake.Text.Blank
import AgentIntake.Text.Digits
import AgentIntake.Text.Hex
import AgentIntake.Text.Unprintable
import AgentIntake.Text.Quoted
import AgentIntake.Decimal.Double
import AgentIntake.Decimal.Shortest
import AgentIntake.Json.Basic
import AgentIntake.Json.Byte
import AgentIntake.Json.Printer
import AgentIntake.Json.Fault
import AgentIntake.Json.Lexical
import AgentIntake.Json.Reader
import AgentIntake.Json.Skip
import AgentIntake.Json.Value
import AgentIntake.Json.Schema
import AgentIntake.Json.Record
import AgentIntake.Envelope
import AgentIntake.Handshake.Properties
import AgentIntake.Handshake.Gate
import AgentIntake.Frame.Basic
import AgentIntake.Frame.Reader
import AgentIntake.Frame.Line
import AgentIntake.Net.Address
import AgentIntake.Net.Numeric
import AgentIntake.Probe
import AgentIntake.Config.LogFormat
import AgentIntake.Config.Basic
import AgentIntake.Config.Document
import AgentIntake.Diagnostic
import AgentIntake.Attempt
import AgentIntake.Work
import AgentIntake.Log.Record
import AgentIntake.Pool.Error
import AgentIntake.Transport.Error
import AgentIntake.Transport.Packet
import AgentIntake.Dispatch.Error
import AgentIntake.Liveness.Error
import AgentIntake.Receiver.Error
import AgentIntake.Bootstrap.Error
import AgentIntake.Health
import AgentIntake.Pool.Basic
import AgentIntake.Pool.Schedule
import AgentIntake.Pool.Wait
import AgentIntake.Receiver.Drain
import AgentIntake.Dispatch.Basic
import AgentIntake.Liveness.Basic
import AgentIntake.Receiver.Basic
import AgentIntake.Connection.Basic
import AgentIntake.Acceptor.Basic
import AgentIntake.Acceptor.Traffic
import AgentIntake.Intake
import AgentIntake.Toml.Basic
import AgentIntake.Toml.Lexical
import AgentIntake.Toml.Document
import AgentIntake.Toml.Json
import AgentIntake.Config.Layer
import AgentIntake.Config.Environment
import AgentIntake.Config.CommandLine
import AgentIntake.Config.Load
import AgentIntake.Log.Filter
import AgentIntake.Log.Line
import AgentIntake.Bootstrap.Basic
import AgentIntake.Placeholder
import AgentIntake.Service
import AgentIntake.Main
import AgentIntake.Proofs.Text.RoundTrip
import AgentIntake.Proofs.Json.Lexical
import AgentIntake.Proofs.Json.RoundTrip
import AgentIntake.Proofs.Json.Extension
import AgentIntake.Proofs.Json.Envelope
import AgentIntake.Proofs.Frame.RoundTrip
import AgentIntake.Proofs.Frame.Stream
import AgentIntake.Proofs.Frame.Cut
import AgentIntake.Proofs.Frame.Size
import AgentIntake.Proofs.Pool.History
import AgentIntake.Proofs.Pool.Fate
import AgentIntake.Proofs.Pool.View
import AgentIntake.Proofs.Pool.Crew
import AgentIntake.Proofs.Connection.Story
import AgentIntake.Proofs.Connection.LifeCycle
import AgentIntake.Proofs.Connection.Answers
import AgentIntake.Proofs.Connection.Reception
import AgentIntake.Proofs.Connection.Delivery
import AgentIntake.Proofs.Acceptor.Share
import AgentIntake.Proofs.Acceptor.Life
import AgentIntake.Proofs.Acceptor.Binding
import AgentIntake.Proofs.Acceptor.Table
import AgentIntake.Proofs.Dispatch.Ways
import AgentIntake.Proofs.Dispatch.Trace
import AgentIntake.Proofs.Dispatch.Containment
import AgentIntake.Proofs.Dispatch.Mishaps
import AgentIntake.Proofs.Receiver.Course
import AgentIntake.Proofs.Receiver.Accounting
import AgentIntake.Proofs.Receiver.Calls
import AgentIntake.Proofs.Receiver.StartStop
import AgentIntake.Proofs.Exchange.Basic
import AgentIntake.Proofs.Exchange.Parts
import AgentIntake.Proofs.Exchange.Invariant
import AgentIntake.Proofs.Exchange.Growth
import AgentIntake.Proofs.Exchange.Fidelity
import AgentIntake.Proofs.Exchange.Correlation
import AgentIntake.Proofs.Exchange.Schedule
import AgentIntake.Proofs.Exchange.Isolation
import AgentIntake.Proofs.Exchange.Size
import AgentIntake.Proofs.Pool.Bench
import AgentIntake.Proofs.Pool.Admission
import AgentIntake.Proofs.Receiver.Independence
import AgentIntake.Proofs.Intake.Ignored
import AgentIntake.Proofs.Config.Setting
import AgentIntake.Proofs.Config.Layers
import AgentIntake.Proofs.Config.Flags
import AgentIntake.Proofs.Config.Sources
import AgentIntake.Proofs.Config.Layering
import AgentIntake.Proofs.Service.Supervision
import AgentIntake.Proofs.Pool.Draining
import AgentIntake.Proofs.Drain.Coordination
import AgentIntake.Proofs.Drain.Outcome
import AgentIntake.Proofs.Liveness.Tracking
import AgentIntake.Proofs.Frame.Splitting
import AgentIntake.Proofs.Text.Hex
import AgentIntake.Proofs.Json.Layout
import AgentIntake.Proofs.Json.Depth
import AgentIntake.Proofs.Json.Exact
import AgentIntake.Proofs.Json.Integer
import AgentIntake.Proofs.Json.Members
import AgentIntake.Proofs.Json.Slots
import AgentIntake.Proofs.Json.Places
import AgentIntake.Proofs.Envelope.Codec
import AgentIntake.Proofs.Handshake.Properties
import AgentIntake.Proofs.Handshake.Bindings
import AgentIntake.Proofs.Frame.Members
import AgentIntake.Proofs.Frame.Grammar
import AgentIntake.Proofs.Receiver.Construction
import AgentIntake.Proofs.Text.Blank
import AgentIntake.Proofs.Text.Digits
import AgentIntake.Proofs.Net.Address
import AgentIntake.Proofs.Probe.Resolution
import AgentIntake.Proofs.Probe.Texts
import AgentIntake.Proofs.Bootstrap.Sequence
import AgentIntake.Proofs.Json.Passing
import AgentIntake.Proofs.Json.Taking
import AgentIntake.Proofs.Json.Kinds
import AgentIntake.Proofs.Config.Document
