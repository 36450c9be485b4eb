import Vpsman.Gateway.Rollback
import Vpsman.Gateway.Precision
import Vpsman.Gateway.Abort
import Vpsman.Security.Batch
import Vpsman.Forward.Order
import Vpsman.Forward.OneTarget
import Vpsman.Agent.Isolation
import Vpsman.Agent.Resume
import Vpsman.Agent.AcceptedConfig
import Vpsman.Protocol.Compression
import Vpsman.Protocol.Connection
import Vpsman.Forward.Wakeup
import Vpsman.Forward.Accounting
import Vpsman.Policy.Confirmations
import Vpsman.Selector.Truth
import Vpsman.PortForward.Receipts
import Vpsman.PortForward.Delivery
import Vpsman.Transfer.Acceptance
import Vpsman.Selector.AlertEvents
import Vpsman.Agent.Replay
import Vpsman.Schedule.CatchUp
import Vpsman.Template.JobOutput
import Vpsman.Selector.Globs
import Vpsman.Config.ByteSize
import Vpsman.PortForward.Weights
import Vpsman.PortForward.Overlap
import Vpsman.Template.Literal
import Vpsman.JobSearch.Filter
import Vpsman.Template.Argv
import Vpsman.Agent.Supervisor
import Vpsman.ObjectStore.Dates
import Vpsman.Traffic.Frontier
import Vpsman.Webhook.Dependency
