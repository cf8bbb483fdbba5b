import HarborGate.Lib.Text
import HarborGate.Lib.Result
import HarborGate.Lib.Interleave
import HarborGate.Lib.Crash
import HarborGate.Models
import HarborGate.Store.Ledger
import HarborGate.Store.LedgerSpec
import HarborGate.Store.Steps
import HarborGate.Store.Terminal
import HarborGate.Fleet.Directory
import HarborGate.Fleet.Retired
import HarborGate.Fleet.Moves
import HarborGate.Fleet.Proofs
import HarborGate.Fleet.Updates
import HarborGate.Fleet.Status
import HarborGate.Gateway.Delivery
import HarborGate.Gateway.Notification
import HarborGate.Gateway.Machine
import HarborGate.Gateway.Protocol
import HarborGate.Gateway.Calls
import HarborGate.Gateway.Effects
import HarborGate.Gateway.Grants
import HarborGate.Gateway.Recorded
import HarborGate.Gateway.Items
import HarborGate.Gateway.Split
import HarborGate.Gateway.Attachments
import HarborGate.Gateway.Canonical
import HarborGate.Gateway.Settled
import HarborGate.Gateway.Fencing
import HarborGate.Gateway.Clearance
import HarborGate.Gateway.Notified
import HarborGate.Gateway.Once
import HarborGate.Gateway.Exclusive
import HarborGate.Gateway.Replay
import HarborGate.Gateway.Relay
import HarborGate.Gateway.Identity
import HarborGate.Gateway.Adapters
import HarborGate.Server.Inbox
import HarborGate.Server.InboxAdmission
import HarborGate.Store.Sessions
import HarborGate.Lib.Url
import HarborGate.Lib.Utf8
import HarborGate.Lib.Printing
import HarborGate.Lib.Base64
import HarborGate.Lib.FileTree
import HarborGate.Server.Proxy
import HarborGate.Server.CameraPath
import HarborGate.Server.CameraScope
import HarborGate.Server.ProxyGuard
import HarborGate.Server.DeviceSession
import HarborGate.Credentials.Modes
import HarborGate.Credentials.Journal
import HarborGate.Credentials.Recovery
import HarborGate.Credentials.Commit
import HarborGate.Credentials.Atomic
import HarborGate.Gateway.Reporting
import HarborGate.Gateway.Inbound
import HarborGate.Gateway.Identifiers
import HarborGate.Gateway.SessionUpdates
import HarborGate.Gateway.Accepted
import HarborGate.Gateway.Exchange
import HarborGate.Gateway.MediaTransfer
import HarborGate.Gateway.CameraConsent
import HarborGate.Gateway.RouteOwners
import HarborGate.Store.Planned
import HarborGate.Gateway.Recovery
import HarborGate.Gateway.Receipts
import HarborGate.Server.InboxBatch
import HarborGate.Weixin.Isolation
import HarborGate.Weixin.Durable
import HarborGate.Server.DlnaGuard
import HarborGate.Server.QueryFilter
import HarborGate.Server.Upstream
import HarborGate.Gateway.DlnaTurns
import HarborGate.Gateway.FeishuPolicy
import HarborGate.Gateway.AttachmentCache
import HarborGate.Gateway.CacheCleaning
import HarborGate.Gateway.CacheRemoval
import HarborGate.Gateway.Materializing
import HarborGate.Gateway.History
import HarborGate.FeishuMail.Rotation
import HarborGate.FeishuMail.Lifetimes
import HarborGate.Weixin.Splitting
import HarborGate.Weixin.Redaction
import HarborGate.Weixin.Lease
import HarborGate.Gateway.StageMedia
import HarborGate.Weixin.TokenOrder
import HarborGate.Gateway.Poll
import HarborGate.Weixin.Messages
import HarborGate.Weixin.Batches
import HarborGate.Weixin.Resends
import HarborGate.Feishu.Websocket
import HarborGate.Setup.Login
import HarborGate.Setup.Confirmed
import HarborGate.Lib.Attempts
import HarborGate.Store.Files
import HarborGate.Store.Crashes
import HarborGate.Store.Histories
