import LyuneGateway.Worker.Ingress
import LyuneGateway.Worker.Push

/-!
# Responses of backends

Whatever a backend transport delivers belongs to a pending authentication, to a
request in flight, or to a push stream of the backend; the tables of the gateway
decide which. A request that its backend fails, or does not answer in time, is
answered by the gateway.
-/

namespace LyuneGateway.Worker

open Protocol Session

/-- The streams that a failure of a transport affects. -/
structure StreamSelector where
  mask : Nat := 0
  value : Nat := 0
  deriving DecidableEq, Repr

def StreamSelector.covers (selector : StreamSelector) (stream : Nat) : Bool :=
  stream &&& selector.mask = selector.value

namespace GatewayWorker

/-- Answer the client of a request in the backend's place. -/
def failRoute (worker : GatewayWorker) (message : String) (route : Route) : GatewayWorker :=
  match route.target with
  | .client response => worker.reject response.session response.streamId message
  | .discard => worker

def failAuth (worker : GatewayWorker) (message : String) (pending : PendingAuth) : GatewayWorker :=
  if pending.responseSuppressed then worker
  else worker.replyControl pending.clientSession pending.clientStreamId .authFailure (text message)

/-- Nothing of a stream is wanted any more, and the backend is told so. Transports stay
registered, so it is always found. -/
def invalidateStream (worker : GatewayWorker) (key : StreamKey) : GatewayWorker :=
  worker.record (.backendDiscard key)

/-- Take requests off the tables and answer each; the routes first. `release` is what becomes of
the backend stream of each. -/
def failRequests (worker : GatewayWorker) (message authMessage : String)
    (release : GatewayWorker → StreamKey → GatewayWorker)
    (pickRoutes : Tables → List (StreamKey × Route) × Tables)
    (pickAuths : Tables → List (StreamKey × PendingAuth) × Tables) : GatewayWorker :=
  let routes := pickRoutes worker.inflight
  let worker := routes.1.foldl (fun worker entry =>
    release (worker.failRoute message entry.2) entry.1) { worker with inflight := routes.2 }
  let auths := pickAuths worker.inflight
  auths.1.foldl (fun worker entry =>
    release (worker.failAuth authMessage entry.2) entry.1) { worker with inflight := auths.2 }

/-- Requests that have waited too long are answered and forgotten. -/
def expireInflight (worker : GatewayWorker) (now : Nat) : GatewayWorker :=
  if worker.inflight.expirationDue now = false then worker
  else
    let worker := worker.failRequests "backend response timeout" "authentication backend timeout"
      invalidateStream (fun tables => tables.takeExpiredRoutes now) (fun tables => tables.takeExpiredAuths now)
    { worker with inflight := worker.inflight.refreshExpiryDeadline }

/-- The requests that a broken backend connection leaves behind. -/
def failTransportRequests (worker : GatewayWorker) (transport : Nat) (selector : StreamSelector) :
    GatewayWorker :=
  worker.failRequests "backend connection failed" "authentication backend failed"
    (fun worker _ => worker) (fun tables => tables.takeFailedRoutes transport selector.covers)
    (fun tables => tables.takeFailedAuths transport selector.covers)

/-- A backend has ended one stream abnormally; the others of its connection go on. -/
def handleBackendStreamControl (worker : GatewayWorker) (key : StreamKey) (reason : String)
    (peerInitiated : Bool) : GatewayWorker :=
  match worker.inflight.lookupAuth key with
  | some pending =>
      { worker with inflight := worker.inflight.takeAuth key }.failAuth reason pending
  | none =>
      match worker.inflight.lookupRoute key with
      | some route =>
          let worker := worker.failRoute reason route
          { worker with inflight := worker.inflight.closeRoute key }
      | none => if peerInitiated then worker.abortBackendPush key else worker

/-- A response goes to its client unchanged; the route lives as long as it is written. -/
def relayResponse (worker : GatewayWorker) (key : StreamKey) (route : Route) (data : Bytes)
    (isFin : Bool) : GatewayWorker :=
  let finish (worker : GatewayWorker) : GatewayWorker :=
    if isFin then { worker with inflight := worker.inflight.closeRoute key }
    else { worker with inflight := worker.inflight.touchRoute key worker.now }
  match route.target with
  | .discard => finish worker
  | .client response =>
      match worker.conns.getByHandle response.session with
      | none => { worker with inflight := worker.inflight.closeRoute key }
      | some ctx =>
          match worker.writeClient ctx.transport.ptr response.streamId data isFin .backend with
          | (false, worker) => { worker with inflight := worker.inflight.closeRoute key }
          | (true, worker) => finish worker

/-- One delivery of a backend transport that is registered for a realm. -/
def drainTransport (worker : GatewayWorker) (transport : Nat) (realm : RealmId)
    (event : TransportRecv) (memory : Nat → Bool) : GatewayWorker :=
  let key : StreamKey := { transport := transport, stream := event.streamId }
  match event.kind with
  | .streamReset =>
      worker.handleBackendStreamControl key "backend reset stream" event.peerInitiated
  | .stopSending =>
      worker.handleBackendStreamControl key "backend stopped request stream" event.peerInitiated
  | .data =>
      if (worker.inflight.lookupAuth key).isSome then
        worker.collectAuthResponse key event.data event.isFin
      else
        match worker.inflight.lookupRoute key with
        | some route => worker.relayResponse key route event.data event.isFin
        | none =>
            if event.peerInitiated then worker.handlePush transport realm event memory else worker

end GatewayWorker

end LyuneGateway.Worker
