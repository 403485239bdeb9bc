import WorkflowRuns.Binary64
import WorkflowRuns.Binary64.Shortest
import WorkflowRuns.Cli.Complaint
import WorkflowRuns.Cli.Directory
import WorkflowRuns.Cli.Invocation
import WorkflowRuns.Cli.Option
import WorkflowRuns.Cli.Program
import WorkflowRuns.Cli.Report
import WorkflowRuns.Client
import WorkflowRuns.Config
import WorkflowRuns.Config.File
import WorkflowRuns.Display.GraphTree
import WorkflowRuns.Display.Inspection
import WorkflowRuns.Display.Markup
import WorkflowRuns.Display.Monitor
import WorkflowRuns.Display.NodeTable
import WorkflowRuns.Display.Plain
import WorkflowRuns.Display.Quantity
import WorkflowRuns.Display.Renderable
import WorkflowRuns.Display.RunPanel
import WorkflowRuns.Display.Status
import WorkflowRuns.Failure
import WorkflowRuns.Following
import WorkflowRuns.Graph
import WorkflowRuns.Graph.Cycle
import WorkflowRuns.Graph.File
import WorkflowRuns.Graph.Levels
import WorkflowRuns.Graph.Payload
import WorkflowRuns.Graph.Reader
import WorkflowRuns.Graph.Validation
import WorkflowRuns.Json.Document
import WorkflowRuns.Json.Reader
import WorkflowRuns.Json.Writer
import WorkflowRuns.Log
import WorkflowRuns.Machine
import WorkflowRuns.Main
import WorkflowRuns.Overlay
import WorkflowRuns.Poller
import WorkflowRuns.Progress
import WorkflowRuns.Proofs.Binary64.Bounds
import WorkflowRuns.Proofs.Binary64.Canonical
import WorkflowRuns.Proofs.Binary64.Decimal
import WorkflowRuns.Proofs.Binary64.Monotone
import WorkflowRuns.Proofs.Binary64.Nearest
import WorkflowRuns.Proofs.Binary64.Rounding
import WorkflowRuns.Proofs.Binary64.Shortest
import WorkflowRuns.Proofs.Cli.Escaping
import WorkflowRuns.Proofs.Cli.Exit
import WorkflowRuns.Proofs.Cli.Monitoring
import WorkflowRuns.Proofs.Client.Addresses
import WorkflowRuns.Proofs.Client.Embedding
import WorkflowRuns.Proofs.Client.Failures
import WorkflowRuns.Proofs.Client.Requests
import WorkflowRuns.Proofs.Config.Backoff
import WorkflowRuns.Proofs.Config.Delays
import WorkflowRuns.Proofs.Config.Loading
import WorkflowRuns.Proofs.Config.Rebuilding
import WorkflowRuns.Proofs.Config.Settings
import WorkflowRuns.Proofs.Config.Version
import WorkflowRuns.Proofs.Display.Drawing
import WorkflowRuns.Proofs.Display.Escaping
import WorkflowRuns.Proofs.Display.Markup
import WorkflowRuns.Proofs.Display.Paths
import WorkflowRuns.Proofs.Display.Rendering
import WorkflowRuns.Proofs.Display.Templates
import WorkflowRuns.Proofs.Display.Walks
import WorkflowRuns.Proofs.Graph.Cycle
import WorkflowRuns.Proofs.Graph.Duration
import WorkflowRuns.Proofs.Graph.Levels
import WorkflowRuns.Proofs.Graph.Parameters
import WorkflowRuns.Proofs.Graph.Payload
import WorkflowRuns.Proofs.Graph.Validation
import WorkflowRuns.Proofs.Json.Documents
import WorkflowRuns.Proofs.Json.Floats
import WorkflowRuns.Proofs.Json.Literals
import WorkflowRuns.Proofs.Json.Numbers
import WorkflowRuns.Proofs.Json.Records
import WorkflowRuns.Proofs.Json.RoundTrip
import WorkflowRuns.Proofs.Json.Strings
import WorkflowRuns.Proofs.Log.Keys
import WorkflowRuns.Proofs.Log.Menu
import WorkflowRuns.Proofs.Log.Partition
import WorkflowRuns.Proofs.Overlay
import WorkflowRuns.Proofs.Polling.Accord
import WorkflowRuns.Proofs.Polling.Agenda
import WorkflowRuns.Proofs.Polling.Arrival
import WorkflowRuns.Proofs.Polling.Cadence
import WorkflowRuns.Proofs.Polling.Chronicle
import WorkflowRuns.Proofs.Polling.Clockwork
import WorkflowRuns.Proofs.Polling.Company
import WorkflowRuns.Proofs.Polling.Concluding
import WorkflowRuns.Proofs.Polling.Course
import WorkflowRuns.Proofs.Polling.Deeds
import WorkflowRuns.Proofs.Polling.Ending
import WorkflowRuns.Proofs.Polling.Exclusion
import WorkflowRuns.Proofs.Polling.Execution
import WorkflowRuns.Proofs.Polling.Flight
import WorkflowRuns.Proofs.Polling.Halting
import WorkflowRuns.Proofs.Polling.Lifecycle
import WorkflowRuns.Proofs.Polling.Loops
import WorkflowRuns.Proofs.Polling.Lulls
import WorkflowRuns.Proofs.Polling.Modes
import WorkflowRuns.Proofs.Polling.Moves
import WorkflowRuns.Proofs.Polling.Needs
import WorkflowRuns.Proofs.Polling.Observers
import WorkflowRuns.Proofs.Polling.Onlookers
import WorkflowRuns.Proofs.Polling.Ownership
import WorkflowRuns.Proofs.Polling.Pairing
import WorkflowRuns.Proofs.Polling.Recurrence
import WorkflowRuns.Proofs.Polling.Requests
import WorkflowRuns.Proofs.Polling.Results
import WorkflowRuns.Proofs.Polling.Solo
import WorkflowRuns.Proofs.Polling.Stopping
import WorkflowRuns.Proofs.Polling.Submitting
import WorkflowRuns.Proofs.Polling.Summary
import WorkflowRuns.Proofs.Polling.Superseded
import WorkflowRuns.Proofs.Polling.Tickets
import WorkflowRuns.Proofs.Polling.Ticking
import WorkflowRuns.Proofs.Polling.Tracking
import WorkflowRuns.Proofs.Polling.Transaction
import WorkflowRuns.Proofs.Polling.Undisturbed
import WorkflowRuns.Proofs.Polling.Unobserved
import WorkflowRuns.Proofs.Progress
import WorkflowRuns.Proofs.Schema.Agreement
import WorkflowRuns.Proofs.Snapshot.Figures
import WorkflowRuns.Proofs.Snapshot.Leniency
import WorkflowRuns.Proofs.Snapshot.Reading
import WorkflowRuns.Proofs.Text.Lowering
import WorkflowRuns.Proofs.Text.Trimming
import WorkflowRuns.Proofs.Url.Encoding
import WorkflowRuns.Recording
import WorkflowRuns.Schema.Checked
import WorkflowRuns.Schema.Fault
import WorkflowRuns.Schema.Scalar
import WorkflowRuns.Script
import WorkflowRuns.Session
import WorkflowRuns.Snapshot
import WorkflowRuns.Snapshot.Reader
import WorkflowRuns.Text.Base64
import WorkflowRuns.Text.Case
import WorkflowRuns.Text.Classes
import WorkflowRuns.Text.CodePoint
import WorkflowRuns.Text.Digits
import WorkflowRuns.Text.Encoding
import WorkflowRuns.Text.Number
import WorkflowRuns.Text.Path
import WorkflowRuns.Text.Quoted
import WorkflowRuns.Text.Similarity
import WorkflowRuns.Url
import WorkflowRuns.Url.Encoded
import WorkflowRuns.Url.Host
import WorkflowRuns.Url.Punycode
import WorkflowRuns.Value
import WorkflowRuns.Value.Literal
import WorkflowRuns.View
import WorkflowRuns.Yaml.Block
import WorkflowRuns.Yaml.Cursor
import WorkflowRuns.Yaml.Node
import WorkflowRuns.Yaml.Plain
import WorkflowRuns.Yaml.Quoted
import WorkflowRuns.Yaml.Reader
import WorkflowRuns.Yaml.Scalar
import WorkflowRuns.Yaml.Token
