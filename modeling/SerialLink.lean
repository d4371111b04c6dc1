import SerialLink.Bytes
import SerialLink.Channel
import SerialLink.Command
import SerialLink.Command.Decode
import SerialLink.Command.Encode
import SerialLink.Command.Field
import SerialLink.Command.Form
import SerialLink.Command.Table
import SerialLink.Command.Value
import SerialLink.Device
import SerialLink.Event
import SerialLink.Event.Subscribers
import SerialLink.Fault
import SerialLink.Frame
import SerialLink.Frame.Receiver
import SerialLink.Link
import SerialLink.Link.Shared
import SerialLink.Metric
import SerialLink.Port
import SerialLink.Scheduler
import SerialLink.Scheduler.Inbound
import SerialLink.Scheduler.PendingRing
import SerialLink.Scheduler.Run
import SerialLink.Scheduler.SendQueue
import SerialLink.Scheduler.Service
import SerialLink.Scheduler.Session
import SerialLink.Scheduler.Submit
import SerialLink.Settings
import SerialLink.Settings.Document
import SerialLink.Text.Extending
import SerialLink.Text.Printable
import SerialLink.Text.Quoted
import SerialLink.Text.Unassigned
import SerialLink.Text.Utf8
import SerialLink.Transport
import SerialLink.Transport.Banner
import SerialLink.Transport.Bench
import SerialLink.Transport.ByteRing
import SerialLink.Transport.Logged
import SerialLink.Transport.Port
import SerialLink.Transport.PortSession
import SerialLink.Transport.Simulated
import SerialLink.Yaml.Node
import SerialLink.Yaml.Scalar
import SerialLink.Yaml.Spot
import SerialLink.Yaml.Tag
import SerialLink.Yaml.Text
import SerialLink.Yaml.Token
import SerialLink.Proofs.Frame.Receiving
import SerialLink.Proofs.Frame.Stream
import SerialLink.Proofs.Command.Reading
import SerialLink.Proofs.Command.Registered
import SerialLink.Proofs.Command.Writing
import SerialLink.Proofs.Command.RoundTrip
import SerialLink.Proofs.Scheduler.Numbering
import SerialLink.Proofs.Scheduler.Step
import SerialLink.Proofs.Scheduler.Effects
import SerialLink.Proofs.Scheduler.Calls
import SerialLink.Proofs.Scheduler.Callbacks
import SerialLink.Proofs.Scheduler.Sequence
import SerialLink.Proofs.Scheduler.Tick
import SerialLink.Proofs.Scheduler.InFlight
import SerialLink.Proofs.Scheduler.Ring
import SerialLink.Proofs.Scheduler.Requests
import SerialLink.Proofs.Scheduler.Deadline
import SerialLink.Proofs.Scheduler.Settling
import SerialLink.Proofs.Frame.Damage
import SerialLink.Proofs.Scheduler.History
import SerialLink.Proofs.Scheduler.Order
import SerialLink.Proofs.Scheduler.Attempts
import SerialLink.Proofs.Scheduler.Confirm
import SerialLink.Proofs.Frame.Overflow
import SerialLink.Proofs.Frame.Corruption
import SerialLink.Proofs.Scheduler.Sessions
import SerialLink.Proofs.Scheduler.Lifecycle
import SerialLink.Proofs.Scheduler.Pairing
import SerialLink.Proofs.Command.Grammar
import SerialLink.Proofs.Text.Utf8Reading
import SerialLink.Proofs.Command.Reencoding
import SerialLink.Proofs.Channel
import SerialLink.Proofs.Scheduler.Reuse
import SerialLink.Proofs.Scheduler.Ledger
import SerialLink.Proofs.Frame.Counts
import SerialLink.Proofs.Metric
import SerialLink.Proofs.Scheduler.Tallies
import SerialLink.Proofs.Scheduler.Metering
import SerialLink.Proofs.Event.Subscribers
import SerialLink.Proofs.Link.Interleaving
import SerialLink.Proofs.Transport.Moves
import SerialLink.Proofs.Transport.Wakeup
import SerialLink.Proofs.Transport.Conservation
import SerialLink.Proofs.Transport.Reports
import SerialLink.Proofs.Scheduler.Teardown
import SerialLink.Proofs.Scheduler.Refusals
import SerialLink.Proofs.Scheduler.Bypass
import SerialLink.Proofs.Scheduler.Sendable
import SerialLink.Proofs.Scheduler.Confirmable
import SerialLink.Proofs.Transport.Banner
import SerialLink.Proofs.Command.Size
import SerialLink.Proofs.Scheduler.OwnTraffic
import SerialLink.Proofs.Scheduler.Inbound
import SerialLink.Proofs.Scheduler.DeviceStatus
import SerialLink.Proofs.Calling
import SerialLink.Proofs.Command.Descriptor
import SerialLink.Proofs.Command.Registrations
import SerialLink.Proofs.Event.Delivery
import SerialLink.Proofs.Scheduler.Fifo
import SerialLink.Proofs.Scheduler.Holding
import SerialLink.Proofs.Scheduler.Allocation
import SerialLink.Proofs.Transport.Buffering
