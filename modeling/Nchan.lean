import Nchan.BodyBuffer
import Nchan.ClientMsgId
import Nchan.Ipc.WritebufFifo
import Nchan.Memstore.AccountingConserved
import Nchan.Memstore.CatchUp
import Nchan.Memstore.Expiry
import Nchan.Memstore.GroupDelete
import Nchan.Memstore.GroupRequests
import Nchan.Memstore.IpcAttachment
import Nchan.Memstore.MessageLimits
import Nchan.Memstore.MultiFetch
import Nchan.Memstore.OutsideRefcount
import Nchan.Memstore.PublishIds
import Nchan.Memstore.PublishReports
import Nchan.Memstore.Refcount
import Nchan.Memstore.SubscriberInfo
import Nchan.Memstore.WorkerSlots
import Nchan.Origin
import Nchan.Output.EventSource
import Nchan.Output.FileBuffers
import Nchan.Output.PartHeaders
import Nchan.Output.Unchanged
import Nchan.Redis.Blacklist
import Nchan.Redis.Deletion
import Nchan.Redis.Fakesubs
import Nchan.Redis.InfoText
import Nchan.Redis.Isolation
import Nchan.Redis.Keepalive
import Nchan.Redis.KeepaliveDuty
import Nchan.Redis.LiveDelivery
import Nchan.Redis.NostorePayload
import Nchan.Redis.Operations
import Nchan.Redis.PeerGraph
import Nchan.Redis.ReconnectCallback
import Nchan.Spool.MultiRange
import Nchan.Spool.RangeWalk
import Nchan.Subscriber.Authorization
import Nchan.Subscriber.Presence
import Nchan.Subscriber.Reconnect
import Nchan.Websocket.FrameHeader
import Nchan.Websocket.Splitting
import Nchan.Websocket.Unmask
