import LyuneGateway.Lib.Run
import LyuneGateway.Worker.Drain

/-!
# Steps of a worker

A worker runs in one thread: it takes in connections and drops them, handles one
frame after the other, and sweeps over its connections from time to time. A
chunk of bytes is handled in several steps, one for each frame that it completes.
-/

namespace LyuneGateway.Worker

open Foundation Io Protocol Session

def rehomePerTick : Nat := 16
def placementGraceUs : Nat := 30000000
def defaultRealm : RealmId := 0

/-- What a worker is set up with. -/
structure Config where
  self : Location
  incarnation : Nat := 0
  workerCount : Nat := 1
  maxConnections : Nat := 1024
  strategy : Strategy := .broadcast
  policy : Policy := {}
  maxPeerLinks : Option Nat := none
  maxDatagramFrameSize : Nat := 1200

namespace GatewayWorker

/-- A worker that has not done anything yet. -/
def init (config : Config) (router : MessageRouter) (fate : Nat → Bool) : GatewayWorker where
  placement := {
    strategy := config.strategy
    self := config.self
    workerCount := config.workerCount
    nodes := [config.self.nodeId] }
  conns := .init config.maxConnections config.self.nodeId config.self.workerId config.incarnation
  egress := { sessions := { workerId := config.self.workerId } }
  links := config.maxPeerLinks.map PeerLinks.init
  router := router
  policy := config.policy
  maxDatagramFrameSize := config.maxDatagramFrameSize
  fate := fate

/-- Give a new connection a slot; it is refused when there is none. -/
def addConnection (worker : GatewayWorker) (kind : TransportKind) (realm : RealmId)
    (peerNode : Bool) : GatewayWorker :=
  let worker := { worker with nextTransport := worker.nextTransport + 1 }
  match worker.conns.addSession { kind := kind, ptr := worker.nextTransport } realm peerNode
      worker.now with
  | .error _ => worker
  | .ok (_, conns) => { worker with conns := conns }

/-- A client connection, whose realm the name it asked for has decided. -/
def acceptClientSession (worker : GatewayWorker) (kind : TransportKind) (accepting : Bool)
    (resolved : Option RealmId) : GatewayWorker :=
  match accepting, resolved with
  | true, some realm => worker.addConnection kind realm false
  | _, _ => worker

/-- A connection of a peer node, which has no realm of its own. -/
def handlePeerConnection (worker : GatewayWorker) (accepting : Bool) : GatewayWorker :=
  if accepting then worker.addConnection .rawQuic defaultRealm true else worker

def finishOpenExchanges (worker : GatewayWorker) (ctx : ConnectionContext) : GatewayWorker :=
  ctx.inboundExchanges.entries.foldl (fun worker entry =>
    match entry.2.backend with
    | none => worker
    | some stream => worker.finishBackendStream stream) worker

def closeClientSession (worker : GatewayWorker) (handle : SessionHandle) (reason : SessionReason) :
    GatewayWorker :=
  match worker.conns.slotFor handle with
  | none => worker
  | some slot =>
      match worker.context slot with
      | none => worker
      | some ctx =>
          let worker := worker.publishOffline slot (ctx.offlineReason.getD reason)
          let worker := worker.finishOpenExchanges ctx
          { worker with
            inflight := worker.inflight.purge handle
            conns := worker.conns.removeSession handle }

/-- Visit connections from a position on, up to a limit; the position to go on from is kept, and
at the end of the connections it goes back to the start. -/
def sweep (visit : GatewayWorker → Nat → GatewayWorker) :
    Nat → Nat → GatewayWorker → Nat × GatewayWorker
  | 0, cursor, worker => (cursor, worker)
  | checks + 1, cursor, worker =>
      match worker.conns.nextLive cursor with
      | none => (0, worker)
      | some slot => sweep visit checks (slot + 1) (visit worker slot)

/-- An admission that has run out is revoked; the connection stays open. -/
def expireAdmission (now : Nat) (worker : GatewayWorker) (slot : Nat) : GatewayWorker :=
  match worker.context slot with
  | none => worker
  | some ctx =>
      if ctx.peerNode = true ∨ ctx.authenticated = false ∨ ctx.authExpiresAt = 0 then worker
      else if now < ctx.authExpiresAt then worker
      else worker.revokeAdmission slot .admissionExpired

def expireAdmissions (worker : GatewayWorker) (now : Nat) : GatewayWorker :=
  let (cursor, worker) := sweep (expireAdmission now) rehomePerTick worker.admissionCursor worker
  { worker with admissionCursor := cursor }

def refreshLease (now : Nat) (worker : GatewayWorker) (slot : Nat) : GatewayWorker :=
  if (worker.context slot).any ConnectionContext.peerNode then worker
  else worker.refreshOnline slot now

def refreshLifecycleLeases (worker : GatewayWorker) (now : Nat) : GatewayWorker :=
  let (cursor, worker) := sweep (refreshLease now) rehomePerTick worker.lifecycleCursor worker
  { worker with lifecycleCursor := cursor }

/-- A connection whose destination has its home elsewhere by now is sent there. -/
def rehome (worker : GatewayWorker) (slot : Nat) : GatewayWorker :=
  match worker.context slot with
  | none => worker
  | some ctx =>
      if ctx.peerNode = true ∨ ctx.destId = 0 then worker
      else if worker.placement.isHomeNode ctx.realm ctx.destId then worker
      else (worker.redirectToHome slot ctx.destId none).2

def rehomeDrifted (worker : GatewayWorker) : GatewayWorker :=
  if worker.placement.strategy ≠ .affinity ∨ worker.placement.prevNodes ≠ [] then worker
  else
    let (cursor, worker) := sweep rehome rehomePerTick worker.rehomeCursor worker
    { worker with rehomeCursor := cursor }

/-- Take over the nodes of the cluster. After a change the previous view stays valid for a
while. -/
def refreshPlacement (worker : GatewayWorker) (fresh : List Nat) (now : Nat) : GatewayWorker :=
  let view := worker.placement
  if view.nodes ≠ fresh then
    { worker with
      placement := { view with
        prevNodes := if view.prevNodes = [] then view.nodes else view.prevNodes
        nodes := fresh }
      placementGraceUntil := now + placementGraceUs }
  else if view.prevNodes ≠ [] ∧ worker.placementGraceUntil ≤ now then
    { worker with placement := { view with prevNodes := [] } }
  else worker

/-- Deliver the oldest message that waits for this worker. -/
def popHandoff (worker : GatewayWorker) : GatewayWorker :=
  match worker.router.pop worker.placement.self.workerId with
  | none => worker
  | some (message, router) =>
      { worker with router := router }.deliverHandoff message.realm message.session message.bytes

end GatewayWorker

/-- What changes around a worker without its doing. -/
inductive Outside where
  | clock (now : Nat)
  | registry (registry : ScopedRoute → Option Nat)
  | addresses (addresses : Nat → Option Bytes)
  | links (links : PeerLinks)
  | router (router : MessageRouter)

/-- The steps of a worker. -/
inductive Event where
  | accept (kind : TransportKind) (accepting : Bool) (resolved : Option RealmId)
  | acceptPeer (accepting : Bool)
  | close (handle : SessionHandle) (reason : SessionReason)
  | frame (slot streamId : Nat) (parsed : Frame)
  | frameSpill (slot streamId : Nat) (known : Bool) (spill : Bytes)
  | violate (slot : Nat)
  | finish (slot streamId : Nat)
  | closeIfRequested (slot : Nat)
  | reset (slot streamId : Nat)
  | stop (slot streamId : Nat)
  | datagram (handle : SessionHandle) (data : Bytes)
  | pushFrame (key : StreamKey) (realm : RealmId) (parsed : Frame)
  | pushSpill (key : StreamKey) (known : Bool) (spill : Bytes)
  | pushDrop (key : StreamKey)
  | pushEnd (key : StreamKey)
  | authResponse (key : StreamKey) (data : Bytes) (isFin : Bool)
  | response (key : StreamKey) (data : Bytes) (isFin : Bool)
  | streamControl (key : StreamKey) (reason : String) (peerInitiated : Bool)
  | transportFailed (transport : Nat) (selector : StreamSelector)
  | expireInflight (now : Nat)
  | handoff
  | purgeSessions (now : Nat)
  | expireAdmission (slot now : Nat)
  | refreshLease (slot now : Nat)
  | rehome (slot : Nat)
  | placement (nodes : List Nat) (now : Nat)
  | outside (change : Outside)

namespace GatewayWorker

def changeOutside (worker : GatewayWorker) : Outside → GatewayWorker
  | .clock now => { worker with now := now }
  | .registry registry => { worker with registry := registry }
  | .addresses addresses => { worker with addresses := addresses }
  | .links links => { worker with links := some links }
  | .router router => { worker with router := router }

def step (worker : GatewayWorker) : Event → GatewayWorker
  | .accept kind accepting resolved => worker.acceptClientSession kind accepting resolved
  | .acceptPeer accepting => worker.handlePeerConnection accepting
  | .close handle reason => worker.closeClientSession handle reason
  | .frame slot streamId parsed => (worker.dispatchFrame slot streamId parsed).2
  | .frameSpill slot streamId known spill =>
      (worker.keepFrameSpill slot streamId known spill).getD (worker.ask.2.violate slot)
  | .violate slot => worker.violate slot
  | .finish slot streamId => worker.finishClientStream slot streamId
  | .closeIfRequested slot => worker.closeIfRequested slot
  | .reset slot streamId => worker.resetClientInput slot streamId
  | .stop slot streamId => worker.stopClientOutput slot streamId
  | .datagram handle data => worker.handleEphemeral handle data
  | .pushFrame key realm parsed => (onPushFrame key realm worker parsed).1
  | .pushSpill key known spill => (worker.keepPush key known spill).getD worker.ask.2
  | .pushDrop key => worker.dropPush key
  | .pushEnd key => worker.abortBackendPush key
  | .authResponse key data isFin => worker.collectAuthResponse key data isFin
  | .response key data isFin =>
      match worker.inflight.lookupRoute key with
      | none => worker
      | some route => worker.relayResponse key route data isFin
  | .streamControl key reason peerInitiated =>
      worker.handleBackendStreamControl key reason peerInitiated
  | .transportFailed transport selector => worker.failTransportRequests transport selector
  | .expireInflight now => worker.expireInflight now
  | .handoff => worker.popHandoff
  | .purgeSessions now => worker.purgeExpiredSessions now
  | .expireAdmission slot now => expireAdmission now worker slot
  | .refreshLease slot now => refreshLease now worker slot
  | .rehome slot => worker.rehome slot
  | .placement nodes now => worker.refreshPlacement nodes now
  | .outside change => worker.changeOutside change

/-- The worker after a list of steps. -/
def run (worker : GatewayWorker) (events : List Event) : GatewayWorker :=
  Run.final step worker events

end GatewayWorker

end LyuneGateway.Worker
