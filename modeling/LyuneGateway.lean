import LyuneGateway.Lib.BigEndian
import LyuneGateway.Lib.Scanner
import LyuneGateway.Lib.Run
import LyuneGateway.Protocol.Frame
import LyuneGateway.Protocol.Codec
import LyuneGateway.Protocol.Framing
import LyuneGateway.Protocol.Reassembly
import LyuneGateway.Protocol.Body
import LyuneGateway.Foundation.Quota
import LyuneGateway.Backend.Pool
import LyuneGateway.Backend.Direct
import LyuneGateway.Backend.Stale
import LyuneGateway.Backend.Reconnect
import LyuneGateway.Foundation.Placement
import LyuneGateway.Io.Handoff
import LyuneGateway.Lib.Table
import LyuneGateway.Session.Transport
import LyuneGateway.Worker.Inflight
import LyuneGateway.Worker.Connection
import LyuneGateway.Worker.PeerLink
import LyuneGateway.Worker.PushSession
import LyuneGateway.Worker.State
import LyuneGateway.Worker.Lifecycle
import LyuneGateway.Worker.Auth
import LyuneGateway.Worker.Routes
import LyuneGateway.Worker.Egress
import LyuneGateway.Worker.Streaming
import LyuneGateway.Worker.Push
import LyuneGateway.Worker.Ingress
import LyuneGateway.Worker.Drain
import LyuneGateway.Worker.Step
import LyuneGateway.Worker.Effect
import LyuneGateway.Worker.ClientEffect
import LyuneGateway.Worker.Address
import LyuneGateway.Worker.Permit
import LyuneGateway.Worker.Reach
import LyuneGateway.Worker.Calm
import LyuneGateway.Worker.Clients
import LyuneGateway.Worker.Channels
import LyuneGateway.Worker.Revocation
import LyuneGateway.App.AllOrNothing
import LyuneGateway.App.Config
import LyuneGateway.App.Registrar
import LyuneGateway.App.Reload
import LyuneGateway.Backend.Catalog
import LyuneGateway.Control.Agreement
import LyuneGateway.Control.Coordinator
import LyuneGateway.Foundation.Realm
import LyuneGateway.Lib.Slab
import LyuneGateway.Worker.DoubleLookup
import LyuneGateway.Worker.Redirect
import LyuneGateway.Worker.Rehome
import LyuneGateway.Worker.Silence
import LyuneGateway.Worker.Exchanges
import LyuneGateway.Worker.HalfOpen
import LyuneGateway.Worker.Aloof
import LyuneGateway.Worker.Discipline
import LyuneGateway.Worker.Tidy
import LyuneGateway.Worker.Origins
import LyuneGateway.Worker.Turn
import LyuneGateway.Worker.Vigil
import LyuneGateway.Worker.Kick
import LyuneGateway.Worker.Reader
import LyuneGateway.Lib.Faulty
import LyuneGateway.Membership.Gossip
import LyuneGateway.Membership.Race
import LyuneGateway.Membership.Swim
import LyuneGateway.Membership.Table
import LyuneGateway.Membership.Standing
import LyuneGateway.Membership.Piggyback
import LyuneGateway.Membership.Upkeep
import LyuneGateway.Membership.Rounds
import LyuneGateway.Membership.Lifetime
import LyuneGateway.Membership.Merge
import LyuneGateway.Worker.Ledger
import LyuneGateway.Worker.Tenancy
import LyuneGateway.Worker.PeerNumbering
import LyuneGateway.Worker.Footprint
import LyuneGateway.Lib.Tally
import LyuneGateway.Backend.Idle
import LyuneGateway.Backend.Arena
import LyuneGateway.Backend.Integrity
import LyuneGateway.Worker.Presence
import LyuneGateway.Worker.Announcements
import LyuneGateway.Wss.Envelope
import LyuneGateway.Wss.Websocket
import LyuneGateway.Wss.Upgrade
import LyuneGateway.Wss.OutputQueue
import LyuneGateway.Wss.Listener
import LyuneGateway.Wss.Pump
import LyuneGateway.Wss.Tls
import LyuneGateway.Wss.Closing
import LyuneGateway.Lib.Cursor
import LyuneGateway.Backend.Registry
import LyuneGateway.Worker.Telling
import LyuneGateway.Io.Forward
import LyuneGateway.Lib.Bitmap
import LyuneGateway.Protocol.Roundtrip
import LyuneGateway.Io.RingQueue
import LyuneGateway.Membership.Wire
import LyuneGateway.Membership.Sending
import LyuneGateway.Membership.Replay
import LyuneGateway.Reactor.ReturnPath
import LyuneGateway.Reactor.Server
import LyuneGateway.Reactor.Grants
import LyuneGateway.Wss.Moves
import LyuneGateway.Wss.Numbering
import LyuneGateway.Wss.Lockstep
import LyuneGateway.Wss.ClientFrames
import LyuneGateway.Wss.Receiving
import LyuneGateway.Membership.Chunks
import LyuneGateway.Membership.AntiEntropy
import LyuneGateway.Membership.Sessions
import LyuneGateway.Membership.Suspicions
import LyuneGateway.Membership.Verdicts
import LyuneGateway.Foundation.Homes
import LyuneGateway.Foundation.Shares
import LyuneGateway.Lib.Layout
import LyuneGateway.Wss.Canonical
import LyuneGateway.Protocol.Prefixes
import LyuneGateway.Lib.Ring
import LyuneGateway.Wss.ByteRing
import LyuneGateway.Io.TunnelCodec
import LyuneGateway.Worker.Memberships
import LyuneGateway.Membership.Upserts
import LyuneGateway.Backend.Handles
import LyuneGateway.Backend.Notices
import LyuneGateway.Membership.Witnesses
import LyuneGateway.Worker.Recipients
import LyuneGateway.Wss.Handshake
import LyuneGateway.Io.Reuseport
import LyuneGateway.Lib.ClassicBpf
import LyuneGateway.Membership.Budget
import LyuneGateway.Lib.Probing
import LyuneGateway.Worker.Indexes
import LyuneGateway.Lib.Spreading
import LyuneGateway.Worker.Fanout
import LyuneGateway.Worker.Spread
import LyuneGateway.Worker.Inward
import LyuneGateway.Worker.PeerFrames
import LyuneGateway.Worker.Handover
import LyuneGateway.Worker.RegistryWalk
import LyuneGateway.Reactor.Cluster
import LyuneGateway.Reactor.Steering
import LyuneGateway.Clients.Agent
import LyuneGateway.Clients.Browser
import LyuneGateway.Clients.Records
import LyuneGateway.Clients.Streams
import LyuneGateway.Clients.Responses
import LyuneGateway.Clients.Pushes
import LyuneGateway.Membership.Candor
import LyuneGateway.Membership.Cluster
import LyuneGateway.Membership.CatchUp
import LyuneGateway.Lib.Chain
import LyuneGateway.Worker.HeadChains
import LyuneGateway.Worker.SlotPool
import LyuneGateway.Worker.SlotPoolEdges
import LyuneGateway.Worker.SlotPoolView
import LyuneGateway.Worker.SlotPoolRuns
import LyuneGateway.Worker.SlotQuotas
