import Courier.Agent.Describe
import Courier.Json.Forms
import Courier.Main
import Courier.Network
import Courier.Transport.Record
import Courier.Transport.Script
import Courier.Proofs.Run
import Courier.Proofs.Payload
import Courier.Proofs.Assembly.Acts
import Courier.Proofs.Assembly.Transmission
import Courier.Proofs.Assembly.History
import Courier.Proofs.Task
import Courier.Proofs.Agent.Record
import Courier.Proofs.Relay.Turn
import Courier.Proofs.Relay.Reading
import Courier.Proofs.Relay.Worker
import Courier.Proofs.Relay.History
import Courier.Proofs.Relay.Outbound
import Courier.Proofs.Relay.Inbound
import Courier.Proofs.Agent.OnHub
import Courier.Proofs.Relay.OnHub
import Courier.Proofs.Network.History
import Courier.Proofs.Relay.Ledger
import Courier.Proofs.Network.Delivery
import Courier.Proofs.Agent.Cover
import Courier.Proofs.Frame.Length
import Courier.Proofs.Frame.Grammar
import Courier.Proofs.Frame.RoundTrip
import Courier.Proofs.Letter.RoundTrip
import Courier.Proofs.Agent.Topics
import Courier.Proofs.Lines
import Courier.Proofs.Network.Topics
import Courier.Proofs.Relay.Provenance
import Courier.Proofs.Relay.Sessions
import Courier.Proofs.Hub.Inboxes
import Courier.Proofs.Hub.Ownership
import Courier.Proofs.Agent.Sessions
import Courier.Proofs.Network.Commands
import Courier.Proofs.Agent.Outages
import Courier.Proofs.Agent.KeepAlive
import Courier.Proofs.Network.Stopped
import Courier.Proofs.Relay.Kill
import Courier.Proofs.Relay.WayOut
import Courier.Proofs.Relay.Stop
import Courier.Proofs.CutPoints
import Courier.Proofs.Message.RoundTrip
import Courier.Proofs.Frame.Refusal
import Courier.Proofs.Frame.Parts
import Courier.Proofs.Frame.Safety
import Courier.Proofs.Agent.Naming
import Courier.Proofs.Network.Healing
import Courier.Proofs.Letter.BodyName
import Courier.Proofs.Relay.Acceptance
import Courier.Proofs.Relay.Rest
import Courier.Proofs.Letter.Size
import Courier.Proofs.Letter.NormalForm
import Courier.Proofs.ClientName.Attempts
import Courier.Proofs.Window
