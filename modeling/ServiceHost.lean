import ServiceHost.Binding.Message
import ServiceHost.Binding.Rule
import ServiceHost.Binding.Table
import ServiceHost.Binding.Template
import ServiceHost.Call.Client
import ServiceHost.Call.Code
import ServiceHost.Call.Envelope
import ServiceHost.Call.Framing
import ServiceHost.Call.Registry
import ServiceHost.Call.Server
import ServiceHost.Call.Service
import ServiceHost.Call.Status
import ServiceHost.Connections.Listener
import ServiceHost.Connections.ReplayedStream
import ServiceHost.Connections.Routing
import ServiceHost.Connections.Sniffing
import ServiceHost.Decimal.Double
import ServiceHost.Decimal.Integer
import ServiceHost.Decimal.Shortest
import ServiceHost.Gateway.Forwarding
import ServiceHost.Gateway.Serve
import ServiceHost.Host.Arguments
import ServiceHost.Host.Context
import ServiceHost.Host.Module
import ServiceHost.Host.Operation
import ServiceHost.Host.Pages
import ServiceHost.Host.Ping
import ServiceHost.Host.Reload
import ServiceHost.Http.Headers
import ServiceHost.Http.Response
import ServiceHost.Http.SocketAddress
import ServiceHost.Http.Target
import ServiceHost.Http.WebAddress
import ServiceHost.Http2.FieldTable
import ServiceHost.Http2.Frame
import ServiceHost.Http2.HeaderBlock
import ServiceHost.Http2.Huffman
import ServiceHost.Json.Basic
import ServiceHost.Json.Path
import ServiceHost.Json.Reader
import ServiceHost.Json.Record
import ServiceHost.Json.Writer
import ServiceHost.Lifecycle.Shutdown
import ServiceHost.Lifecycle.Signal
import ServiceHost.Lifecycle.Stage
import ServiceHost.Lifecycle.Startup
import ServiceHost.Lifecycle.Stop
import ServiceHost.Lifecycle.StopGroup
import ServiceHost.Lifecycle.Wakeup
import ServiceHost.Log
import ServiceHost.Main
import ServiceHost.Metrics.Endpoint
import ServiceHost.Metrics.Sample
import ServiceHost.Octets
import ServiceHost.Opening.Classify
import ServiceHost.Opening.Preface
import ServiceHost.Opening.RequestLine
import ServiceHost.Opening.Verdict
import ServiceHost.Proofs.Http2.Frames
import ServiceHost.Proofs.Opening.FrameWalk
import ServiceHost.Proofs.Opening.RequestLines
import ServiceHost.Proofs.Opening.Finality
import ServiceHost.Proofs.Octets
import ServiceHost.Report
import ServiceHost.Services.Health
import ServiceHost.Services.Ping
import ServiceHost.Services.Stock
import ServiceHost.Session.Body
import ServiceHost.Session.ChunkChannel
import ServiceHost.Session.Frame
import ServiceHost.Session.Sink
import ServiceHost.Session.Timeline
import ServiceHost.Session.Writer
import ServiceHost.Settings.Decode
import ServiceHost.Settings.Encode
import ServiceHost.Settings.Load
import ServiceHost.Settings.LogFilter
import ServiceHost.Settings.Node
import ServiceHost.Settings.Schema
import ServiceHost.Settings.Validation
import ServiceHost.Shipping.Record
import ServiceHost.Shipping.Shipper
import ServiceHost.Text.Base64
import ServiceHost.Text.Blank
import ServiceHost.Text.Percent
import ServiceHost.Text.Printable
import ServiceHost.Text.Split
import ServiceHost.Text.Utf8
import ServiceHost.Toml.Document
import ServiceHost.Toml.Scalar
import ServiceHost.Toml.Tree
import ServiceHost.Proofs.Opening.HeaderFraming
import ServiceHost.Proofs.Connections.Replay
import ServiceHost.Proofs.Connections.SniffedOpening
import ServiceHost.Proofs.Binding.PathParameters
import ServiceHost.Proofs.Session.Steps
import ServiceHost.Proofs.Session.Output
import ServiceHost.Proofs.Session.Handovers
import ServiceHost.Proofs.Text.Utf8
import ServiceHost.Proofs.Decimal.Integers
import ServiceHost.Proofs.Call.FailureStatus
import ServiceHost.Proofs.Json.Numbers
import ServiceHost.Proofs.Json.Strings
import ServiceHost.Proofs.Json.WellFormed
import ServiceHost.Proofs.Json.ReadBack
import ServiceHost.Proofs.Binding.ReadableMessage
import ServiceHost.Proofs.Session.Ends
import ServiceHost.Proofs.Call.Registry
import ServiceHost.Proofs.Host.Registration
import ServiceHost.Proofs.Host.Feasibility
import ServiceHost.Proofs.Call.StatusOnWire
import ServiceHost.Proofs.Call.Exchange
import ServiceHost.Proofs.Http.MethodPaths
import ServiceHost.Proofs.Binding.Lookup
import ServiceHost.Proofs.Gateway.Transparency
import ServiceHost.Proofs.Counting
import ServiceHost.Proofs.Lifecycle.Wakeups
import ServiceHost.Proofs.Connections.Conservation
import ServiceHost.Proofs.Lifecycle.StopCalls
import ServiceHost.Proofs.Call.ServedCalls
import ServiceHost.Proofs.Shipping.Batches
import ServiceHost.Proofs.Lifecycle.StageOrder
import ServiceHost.Proofs.Lifecycle.OrderlyShutdown
import ServiceHost.Proofs.Host.LiveReload
import ServiceHost.Proofs.Call.BuiltStatuses
import ServiceHost.Proofs.Binding.Filling
import ServiceHost.Proofs.Binding.QueryParameters
import ServiceHost.Proofs.Opening.RequestGrammar
import ServiceHost.Proofs.Opening.AckRemoval
import ServiceHost.Proofs.Decimal.Shortest
import ServiceHost.Proofs.Json.NumberTexts
import ServiceHost.Proofs.Json.DistinctTexts
import ServiceHost.Proofs.Session.EventStream
import ServiceHost.Proofs.Session.Bodies
import ServiceHost.Proofs.Session.Settling
import ServiceHost.Proofs.Session.Timetable
import ServiceHost.Proofs.Json.AllOrNothing
import ServiceHost.Proofs.Gateway.MetadataOfCalls
import ServiceHost.Proofs.Http.MountedTargets
import ServiceHost.Proofs.Connections.BufferBound
