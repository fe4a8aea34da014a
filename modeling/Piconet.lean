import Piconet.Address
import Piconet.Bench.Basic
import Piconet.Bench.Report
import Piconet.Bench.Session
import Piconet.Bench.Step
import Piconet.Bench.Wire
import Piconet.Bus.ObjectPath
import Piconet.Bus.Value
import Piconet.Capability
import Piconet.Device
import Piconet.Discovery
import Piconet.Error
import Piconet.Event
import Piconet.Feed
import Piconet.Gate
import Piconet.Generation
import Piconet.Host.Advance
import Piconet.Host.Basic
import Piconet.Host.Command
import Piconet.Host.Credit
import Piconet.Host.Discovery
import Piconet.Host.Measure
import Piconet.Host.Monitoring
import Piconet.Host.Notification
import Piconet.Host.Progress
import Piconet.Host.Settle
import Piconet.Host.Signal
import Piconet.Host.Step
import Piconet.Json.Basic
import Piconet.Json.Printer
import Piconet.Json.Reader
import Piconet.Monitor
import Piconet.Operation
import Piconet.Profile
import Piconet.Profile.Json
import Piconet.Profile.Settings
import Piconet.Proofs.Core
import Piconet.Proofs.Device
import Piconet.Proofs.Run
import Piconet.Proofs.Simulation.Basic
import Piconet.Proofs.Simulation.Command
import Piconet.Proofs.Simulation.Duty
import Piconet.Proofs.Table
import Piconet.Properties
import Piconet.Registry
import Piconet.Role
import Piconet.ServiceClass
import Piconet.Session
import Piconet.Stage
import Piconet.Table
import Piconet.Text.Fields
import Piconet.Text.Hex
import Piconet.Timeouts
import Piconet.Transport.Adapter
import Piconet.Transport.Calls
import Piconet.Transport.Peer
import Piconet.Transport.Stub
import Piconet.Uuid
import Piconet.Watcher
import Piconet.Proofs.Simulation.Discovery
import Piconet.Proofs.Simulation.Move
import Piconet.Proofs.Identifiers
import Piconet.Proofs.Agenda
import Piconet.Proofs.Usability
import Piconet.Proofs.Provisioning
import Piconet.Proofs.Listening
import Piconet.Proofs.Registry
import Piconet.Proofs.Layers
import Piconet.Proofs.Notices
import Piconet.Proofs.Synchrony
import Piconet.Proofs.Staleness
import Piconet.Proofs.Dangling
import Piconet.Proofs.Redundancy
import Piconet.Proofs.Sessions
import Piconet.Proofs.Streams
import Piconet.Proofs.DroppedDevices
import Piconet.Proofs.DiscoveryVerdicts
import Piconet.Proofs.Failure
import Piconet.Proofs.Initialization
import Piconet.Proofs.Remote
import Piconet.Proofs.MonitorPaths
import Piconet.Proofs.Attempts
import Piconet.Proofs.OperationSteps
import Piconet.Proofs.CancelledOperations
import Piconet.Proofs.Notification
import Piconet.Proofs.DeliveryLedger
import Piconet.Proofs.Sightings
import Piconet.Proofs.Updates
import Piconet.Proofs.Interleaving
import Piconet.Proofs.DroppedDeviceOperations
import Piconet.Proofs.SuppressedAdditions
import Piconet.Proofs.Bookkeeping
import Piconet.Proofs.DeedsOfMoves
import Piconet.Proofs.Isolation
import Piconet.Proofs.Address
import Piconet.Proofs.Merging
import Piconet.Proofs.SessionRecord
import Piconet.Proofs.UsabilityChanges
import Piconet.Proofs.EventBurst
import Piconet.Proofs.Services
import Piconet.Proofs.Entries
import Piconet.Proofs.Signals
import Piconet.Proofs.Storage
import Piconet.Proofs.Compatibility
import Piconet.Proofs.Candidates
import Piconet.Proofs.RequestsReturn
import Piconet.Proofs.Sessionless.Basic
import Piconet.Proofs.Sessionless.Command
import Piconet.Proofs.Sessionless.Discovery
import Piconet.Proofs.Sessionless.Move
import Piconet.Proofs.Noninterference
