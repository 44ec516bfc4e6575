import Sake.Proofs.Attachment
import Sake.Proofs.Broadcast
import Sake.Proofs.CapEnd
import Sake.Proofs.CapReq
import Sake.Proofs.Capabilities
import Sake.Proofs.CaseMappingMap
import Sake.Proofs.ChangeNetwork
import Sake.Proofs.ChannelModes
import Sake.Proofs.ChannelNames
import Sake.Proofs.ChatHistory
import Sake.Proofs.ClientCerts
import Sake.Proofs.Deadlock
import Sake.Proofs.Delivery
import Sake.Proofs.DetachTimers
import Sake.Proofs.EventLoop
import Sake.Proofs.Expiry
import Sake.Proofs.FsBacklog
import Sake.Proofs.FsHandles
import Sake.Proofs.HandleMessage
import Sake.Proofs.Highlight
import Sake.Proofs.Identd
import Sake.Proofs.Ignore
import Sake.Proofs.InactiveUsers
import Sake.Proofs.Labels
import Sake.Proofs.ListTargets
import Sake.Proofs.Live
import Sake.Proofs.Login
import Sake.Proofs.MemoryStore
import Sake.Proofs.Memberships
import Sake.Proofs.Metadata
import Sake.Proofs.Migrations
import Sake.Proofs.MonitorRuns
import Sake.Proofs.NetworkLimit
import Sake.Proofs.NetworkNames
import Sake.Proofs.Nicks
import Sake.Proofs.Pending
import Sake.Proofs.PushTargets
import Sake.Proofs.SqlDelete
import Sake.Proofs.UserRun
import Sake.Proofs.Whox
import Sake.Proofs.UpstreamSASL
import Sake.Proofs.LabelRouting
import Sake.Proofs.MsgIds
import Sake.Proofs.LocalAddr
import Sake.Proofs.Modes
import Sake.Proofs.Backoff
