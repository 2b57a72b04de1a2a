import LyuneGateway.Foundation.Placement
import LyuneGateway.Io.Handoff
import LyuneGateway.Protocol.Framing
import LyuneGateway.Worker.PushSession

/-!
# The state of a worker

A worker owns its connections, the requests in flight, the push streams of its
backends and its links to peer nodes, and shares the message router with the
other workers of its node. Whatever the outside decides, such as whether a write
is taken, is asked for in order; every call to the outside is recorded.
-/

namespace LyuneGateway.Worker

open Foundation Io Protocol Session

structure Policy where
  required : Bool := false
  route : Option RouteId := none
  lifecycleRoute : Option RouteId := none
  deriving DecidableEq, Repr

structure Egress where
  pushes : Table StreamKey Bytes := ∅
  sessions : PushSessions

/-- Who made the bytes of a response. -/
inductive Author where
  | gateway
  | backend
  deriving DecidableEq, Repr

inductive EventKind where
  | online
  | offline
  deriving DecidableEq, Repr

/-- What a lifecycle event says of its connection. -/
structure Notice where
  handle : SessionHandle
  realm : RealmId
  destId : Nat
  sequence : Nat
  deriving DecidableEq, Repr

/-- What a worker does to the world around it. -/
inductive Action where
  | write (client stream : Nat) (data : Bytes) (isFin : Bool) (author : Author) (accepted : Bool)
  | resetSend (client stream : Nat)
  | ephemeral (client : Nat) (data : Bytes) (accepted : Bool)
  | close (client code : Nat)
  | backendSend (key : StreamKey) (data : Bytes) (isFin accepted : Bool)
  | backendDiscard (key : StreamKey)
  | handoff (workerId : Nat) (realm : RealmId) (session : Nat) (bytes : Bytes) (accepted : Bool)
  | peerSend (nodeId : Nat) (realm : RealmId) (bytes : Bytes) (streaming : Bool)
      (taken : Option (PeerStream × Bytes))
  | peerSendOn (stream : PeerStream) (bytes : Bytes) (isLast accepted : Bool)
  | peerReset (stream : PeerStream) (accepted : Bool)
  | dispatched (key : StreamKey) (frame : Frame) (continues : Bool)
  | published (client : Nat) (kind : EventKind) (reason : SessionReason) (notice : Notice)
  deriving DecidableEq, Repr

/-- The error codes of a connection that the gateway closes. -/
inductive AppError where
  | noError
  | protocolViolation
  | kicked
  | redirected
  deriving DecidableEq, Repr

def AppError.code : AppError → Nat
  | noError => 0
  | protocolViolation => 1
  | kicked => 2
  | redirected => 3

/-- `fate` answers the questions a worker asks the outside, of which `asked` have been put. -/
structure GatewayWorker where
  placement : Placement.View
  conns : ConnectionManager
  inflight : Tables := .init
  egress : Egress
  links : Option PeerLinks := none
  router : MessageRouter
  registry : ScopedRoute → Option Nat := fun _ => none
  policy : Policy := {}
  addresses : Nat → Option Bytes := fun _ => none
  maxDatagramFrameSize : Nat := 1200
  rehomeCursor : Nat := 0
  admissionCursor : Nat := 0
  lifecycleCursor : Nat := 0
  placementGraceUntil : Nat := 0
  now : Nat := 0
  nextTransport : Nat := 0
  nextBackendStream : Nat := 0
  fate : Nat → Bool := fun _ => true
  asked : Nat := 0
  log : List Action := []

namespace GatewayWorker

def record (worker : GatewayWorker) (action : Action) : GatewayWorker :=
  { worker with log := worker.log ++ [action] }

/-- The next answer of the outside. -/
def ask (worker : GatewayWorker) : Bool × GatewayWorker :=
  (worker.fate worker.asked, { worker with asked := worker.asked + 1 })

def context (worker : GatewayWorker) (slot : Nat) : Option ConnectionContext := worker.conns.context slot

def modifyConn (worker : GatewayWorker) (slot : Nat) (change : ConnectionContext → ConnectionContext) :
    GatewayWorker :=
  { worker with conns := worker.conns.modify slot change }

def setSessions (worker : GatewayWorker) (sessions : PushSessions) : GatewayWorker :=
  { worker with egress := { worker.egress with sessions := sessions } }

def modifySession (worker : GatewayWorker) (slot : Nat) (change : PushSession → PushSession) : GatewayWorker :=
  worker.setSessions (worker.egress.sessions.modify slot change)

def closeSession (worker : GatewayWorker) (slot : Nat) : GatewayWorker :=
  worker.setSessions (worker.egress.sessions.close slot)

def session (worker : GatewayWorker) (slot : Nat) : Option PushSession :=
  worker.egress.sessions.slots slot

/-- Write on a stream of a client. -/
def writeClient (worker : GatewayWorker) (client streamId : Nat) (data : Bytes) (isFin : Bool)
    (author : Author) : Bool × GatewayWorker :=
  let (accepted, worker) := worker.ask
  (accepted, worker.record (.write client streamId data isFin author accepted))

/-- Write on a new stream of a client, whose id is used up in any case. -/
def openClient (worker : GatewayWorker) (slot : Nat) (data : Bytes) (isFin : Bool) (author : Author) :
    Option Nat × GatewayWorker :=
  match worker.context slot with
  | none => (none, worker)
  | some ctx =>
      let streamId := ctx.transport.nextOutboundExchangeId
      let (accepted, worker) :=
        (worker.modifyConn slot .reserveStream).writeClient ctx.transport.ptr streamId data isFin
          author
      (if accepted then some streamId else none, worker)

/-- Write on a new stream of a backend transport. The streams that the gateway opens have even
handles, those that the backend opens odd ones. -/
def openBackend (worker : GatewayWorker) (transport : Nat) (data : Bytes) (isFin : Bool) :
    Option Nat × GatewayWorker :=
  let stream := 2 * worker.nextBackendStream
  let (accepted, worker) := { worker with nextBackendStream := worker.nextBackendStream + 1 }.ask
  (if accepted then some stream else none,
    worker.record (.backendSend ⟨transport, stream⟩ data isFin accepted))

def writeBackend (worker : GatewayWorker) (key : StreamKey) (data : Bytes) (isFin : Bool) :
    Bool × GatewayWorker :=
  let (accepted, worker) := worker.ask
  (accepted, worker.record (.backendSend key data isFin accepted))

/-- Hand a message to another worker of the node. -/
def deliver (worker : GatewayWorker) (workerId : Nat) (realm : RealmId) (session : Nat) (bytes : Bytes) :
    Bool × GatewayWorker :=
  match worker.router.deliver workerId bytes realm session with
  | .error _ => (false, worker.record (.handoff workerId realm session bytes false))
  | .ok router =>
      (true, { worker with router := router }.record (.handoff workerId realm session bytes true))

def linkAnswers (worker : GatewayWorker) : LinkAnswers × GatewayWorker :=
  let (connects, worker) := worker.ask
  let (accepts, worker) := worker.ask
  (⟨connects, accepts⟩, worker)

/-- Send a frame to a peer node on a stream of its own. -/
def sendPeer (worker : GatewayWorker) (nodeId : Nat) (realm : RealmId) (bytes : Bytes)
    (streaming : Bool) : Option PeerStream × GatewayWorker :=
  match worker.links with
  | none => (none, worker)
  | some links =>
      let (answers, worker) := worker.linkAnswers
      let (links, taken) := links.send nodeId realm bytes worker.now answers
      (taken.map Prod.fst,
        { worker with links := some links }.record (.peerSend nodeId realm bytes streaming taken))

/-- Continue a stream to a peer node. -/
def sendPeerOn (worker : GatewayWorker) (stream : PeerStream) (bytes : Bytes) (isLast : Bool) :
    Bool × GatewayWorker :=
  match worker.links with
  | none => (false, worker)
  | some links =>
      let (answers, worker) := worker.linkAnswers
      let (links, accepted) := links.sendOn stream worker.now answers
      (accepted, { worker with links := some links }.record
        (.peerSendOn stream bytes isLast accepted))

def resetPeer (worker : GatewayWorker) (stream : PeerStream) : GatewayWorker :=
  match worker.links with
  | none => worker
  | some links =>
      let (links, accepted) := links.resetSession stream
      { worker with links := some links }.record (.peerReset stream accepted)

/-- A frame made by the gateway, which ends the response. -/
def replyControl (worker : GatewayWorker) (session : SessionHandle) (streamId : Nat) (kind : ControlType)
    (body : Bytes) : GatewayWorker :=
  match worker.conns.getByHandle session with
  | none => worker
  | some ctx =>
      match encodeControlFrame 1024 kind body with
      | .error _ => worker
      | .ok data => (worker.writeClient ctx.transport.ptr streamId data true .gateway).2

def finishResponseWithoutPayload (worker : GatewayWorker) (session : SessionHandle) (streamId : Nat) :
    GatewayWorker :=
  match worker.conns.getByHandle session with
  | none => worker
  | some ctx => (worker.writeClient ctx.transport.ptr streamId [] true .gateway).2

/-- End the gateway's side of a backend stream. -/
def finishBackendStream (worker : GatewayWorker) (stream : BackendStream) : GatewayWorker :=
  match worker.registry stream.scope with
  | none => worker
  | some _ => (worker.writeBackend stream.key [] true).2

def resetClient (worker : GatewayWorker) (ctx : ConnectionContext) (streamId : Nat) : GatewayWorker :=
  worker.record (.resetSend ctx.transport.ptr streamId)

def closeClient (worker : GatewayWorker) (ctx : ConnectionContext) (error : AppError) : GatewayWorker :=
  worker.record (.close ctx.transport.ptr error.code)

end GatewayWorker

/-- The text of a reply or of a notice. -/
def text (message : String) : Bytes := message.toUTF8.toList

end LyuneGateway.Worker
