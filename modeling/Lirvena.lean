import Lirvena.Lib.AddressBlock
import Lirvena.Lib.Broadcast
import Lirvena.Lib.Bytes
import Lirvena.Lib.Chain
import Lirvena.Lib.Distinct
import Lirvena.Lib.Encoding
import Lirvena.Lib.Framing
import Lirvena.Lib.Grammar
import Lirvena.Lib.HexPairs
import Lirvena.Lib.Interval
import Lirvena.Lib.Json
import Lirvena.Lib.KeyedMap
import Lirvena.Lib.Ledger
import Lirvena.Lib.Mailbox
import Lirvena.Lib.Newest
import Lirvena.Lib.Paging
import Lirvena.Lib.Probe
import Lirvena.Lib.Proto3
import Lirvena.Lib.ProtoRead
import Lirvena.Lib.Protobuf
import Lirvena.Lib.RecentKeys
import Lirvena.Lib.Result
import Lirvena.Lib.Run
import Lirvena.Lib.Separated
import Lirvena.Lib.Substring
import Lirvena.Lib.Text
import Lirvena.Lib.TextSlice
import Lirvena.Lib.Tiling
import Lirvena.Wire.Fixed
import Lirvena.Wire.InPlace
import Lirvena.Wire.Layout
import Lirvena.Wire.Tlv
import Lirvena.Wire.WireReader
import Lirvena.Wire.WireWriter
import Lirvena.Domain.Device
import Lirvena.Domain.DeviceSnapshot
import Lirvena.Domain.OnlineFencing
import Lirvena.Domain.OnlineGates
import Lirvena.Domain.OnlineHistory
import Lirvena.Domain.OnlineMachine
import Lirvena.Domain.OnlinePlan
import Lirvena.Domain.OnlineRejection
import Lirvena.Domain.OnlineRun
import Lirvena.Domain.OnlineSchedule
import Lirvena.Envelope.Marked
import Lirvena.Envelope.Service
import Lirvena.Envelope.Session
import Lirvena.Envelope.SessionRequest
import Lirvena.Envelope.Sso
import Lirvena.Envelope.TeaBlock
import Lirvena.Envelope.TeaCodec
import Lirvena.Transport.ReadFrame
import Lirvena.Transport.ReadFrameRun
import Lirvena.Session.LateAnswer
import Lirvena.Session.Runtime
import Lirvena.Ceylith.Action
import Lirvena.Ceylith.Binding
import Lirvena.Ceylith.Connection
import Lirvena.Ceylith.Frame
import Lirvena.Ceylith.Handshake
import Lirvena.Ceylith.Inner
import Lirvena.Ceylith.Installation
import Lirvena.Ceylith.Opaque
import Lirvena.Ceylith.Proto
import Lirvena.Ceylith.RequestSize
import Lirvena.Ceylith.Requests
import Lirvena.Ceylith.Schema
import Lirvena.Ceylith.SecureSession
import Lirvena.Ceylith.Slots
import Lirvena.Ceylith.Tcp
import Lirvena.Ceylith.TopLevel
import Lirvena.Ceylith.ValidateInner
import Lirvena.Ceylith.Watch
import Lirvena.Ceylith.WireScan
import Lirvena.Message.DedupWindow
import Lirvena.Message.Duplicates
import Lirvena.Message.Envelope
import Lirvena.Message.ForwardEntry
import Lirvena.Message.ForwardSchema
import Lirvena.Message.History
import Lirvena.Message.LongMessage
import Lirvena.Message.Notices
import Lirvena.Message.Outbound
import Lirvena.Message.OutboundDecode
import Lirvena.Message.ReadableRichText
import Lirvena.Message.RichText
import Lirvena.Message.RichTextSchema
import Lirvena.Online.InfoSync
import Lirvena.Online.InfoSyncMerge
import Lirvena.Online.InfoSyncRun
import Lirvena.Online.Jce
import Lirvena.Online.JceEnvelope
import Lirvena.Online.JceSkip
import Lirvena.Online.OnlinePackets
import Lirvena.Online.PushAcks
import Lirvena.Online.PushPlan
import Lirvena.Online.PushProcessor
import Lirvena.OneBot.Coordinate
import Lirvena.OneBot.CoordinateRun
import Lirvena.OneBot.CqCode
import Lirvena.OneBot.CqWriting
import Lirvena.OneBot.FlagText
import Lirvena.OneBot.Forward
import Lirvena.OneBot.ForwardGrammar
import Lirvena.OneBot.Fragment
import Lirvena.OneBot.Projection
import Lirvena.OneBot.RawMessage
import Lirvena.OneBot.RequestFlag
import Lirvena.Store.MessageStore
import Lirvena.Store.Record
import Lirvena.Store.Retention
import Lirvena.Store.Row
import Lirvena.Account.AccountStore
import Lirvena.Account.AccountStoreRun
import Lirvena.Account.Writer
import Lirvena.Highway.Acknowledgement
import Lirvena.Highway.Frame
import Lirvena.Highway.HeadSize
import Lirvena.Highway.Partition
import Lirvena.Highway.Session
import Lirvena.Highway.Upload
import Lirvena.Login.Credential
import Lirvena.Login.QrFlow
import Lirvena.Login.QrPoll
import Lirvena.Login.QrTransaction
import Lirvena.Login.Usable
import Lirvena.Profile.LinuxManifest
import Lirvena.Profile.OnlinePacketManifest
import Lirvena.Profile.OnlinePlanManifest
import Lirvena.Profile.PushManifest
import Lirvena.Media.Address
import Lirvena.Media.Record
import Lirvena.Media.Resolver
import Lirvena.Media.UploadPlan
import Lirvena.Media.UploadSize
import Lirvena.Config.DeviceFile
import Lirvena.Config.DeviceGenerator
import Lirvena.Config.DeviceStore
import Lirvena.Directory.FriendPage
import Lirvena.Directory.MemberPage
import Lirvena.Notify.NotificationStore
import Lirvena.Notify.NotificationStoreRun
import Lirvena.Notify.Worker
import Lirvena.Notify.WorkerProgress
import Lirvena.Notify.WorkerRun
import Lirvena.Telemetry.ActivityRun
import Lirvena.Telemetry.ActivityStatements
import Lirvena.Telemetry.CommunityStore
import Lirvena.Telemetry.DailyReport
import Lirvena.Telemetry.IntervalSplit
import Lirvena.Telemetry.ReportRun
import Lirvena.Telemetry.Worker
import Lirvena.Telemetry.WorkerRun
import Lirvena.Daemon.AccountTask
import Lirvena.Daemon.GrantLaws
import Lirvena.Daemon.GrantPlanner
import Lirvena.Daemon.Supervise
import Lirvena.Runtime.AccountEvent
import Lirvena.Runtime.ActionRuntime
import Lirvena.Runtime.Clock
import Lirvena.Runtime.CompileSegments
import Lirvena.Runtime.DirectoryPages
import Lirvena.Runtime.ForwardUpload
import Lirvena.Runtime.FreeId
import Lirvena.Runtime.HandledMessages
import Lirvena.Runtime.InboundPreparation
import Lirvena.Runtime.MessageRegistry
import Lirvena.Runtime.OnlineRuntime
import Lirvena.Runtime.OnlineRuntimeLog
import Lirvena.Runtime.OnlineRuntimeRun
import Lirvena.Runtime.PacketRuntime
import Lirvena.Runtime.PublishMessage
import Lirvena.Runtime.PushLoop
import Lirvena.Runtime.PushQueue
import Lirvena.Runtime.PushRuntime
import Lirvena.Runtime.QuotedReply
import Lirvena.Runtime.RegistryRun
import Lirvena.Runtime.ReplyResolution
import Lirvena.Runtime.SendSegments
import Lirvena.Dispatch.Action
import Lirvena.Dispatch.Dispatcher
import Lirvena.Dispatch.DispatcherProgress
import Lirvena.Dispatch.DispatcherRun
import Lirvena.Dispatch.Fanout
import Lirvena.Dispatch.FanoutRun
import Lirvena.Dispatch.QuickOperation
import Lirvena.Dispatch.Sessions
