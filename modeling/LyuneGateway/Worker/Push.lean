import LyuneGateway.Worker.Streaming

/-!
# Push streams of backends

The bytes of a push stream are cut into frames, which are dispatched one by one.
A frame that is refused ends the handling of its chunk, and what was left of the
chunk is dropped together with the partial frame that was kept.
-/

namespace LyuneGateway.Worker

open Protocol

def maxPushStreams : Nat := 256

inductive RecvKind where
  | data
  | streamReset
  | stopSending
  deriving DecidableEq, Repr

/-- What a backend transport delivers for one of its streams, and who opened that stream. -/
structure TransportRecv where
  streamId : Nat
  data : Bytes
  isFin : Bool
  kind : RecvKind := .data
  peerInitiated : Bool := false
  deriving DecidableEq, Repr

namespace GatewayWorker

/-- One frame of a push stream. The answer says whether the stream goes on. -/
def dispatchPush (worker : GatewayWorker) (key : StreamKey) (realm : RealmId) (parsed : Frame) :
    Bool × GatewayWorker :=
  match worker.egress.sessions.findByOrigin key with
  | some slot =>
      if parsed.header.isOpen then (false, worker.abortSession slot)
      else (true, worker.writeSessionFrame slot parsed)
  | none =>
      if parsed.header.isOpen = false then (false, worker)
      else
        match parsed.header.destKind with
        | .gateway => worker.dispatchBackendControl key realm parsed
        | .multicast => worker.dispatchMulticast key realm parsed
        | .service => (false, worker)
        | .peer =>
            if parsed.header.isLast = false then worker.openStreamingPush key realm parsed
            else
              match TargetList.decode parsed.body with
              | .error _ => (false, worker)
              | .ok list =>
                  (true, worker.fanOut key realm list parsed.bytes parsed.header.flags.report)

/-- The handler that `handlePush` gives to the framing. -/
def onPushFrame (key : StreamKey) (realm : RealmId) (worker : GatewayWorker) (parsed : Frame) :
    GatewayWorker × Bool :=
  let (continues, worker) := worker.dispatchPush key realm parsed
  (worker.record (.dispatched key parsed continues), continues)

def setPushes (worker : GatewayWorker) (pushes : Table StreamKey Bytes) : GatewayWorker :=
  { worker with egress := { worker.egress with pushes := pushes } }

def dropPush (worker : GatewayWorker) (key : StreamKey) : GatewayWorker :=
  worker.setPushes (worker.egress.pushes.erase key)

/-- The session that a push stream started dies with it. -/
def abortBackendPush (worker : GatewayWorker) (key : StreamKey) : GatewayWorker :=
  let worker := worker.dropPush key
  match worker.egress.sessions.findByOrigin key with
  | none => worker
  | some slot => worker.abortSession slot

/-- Keep the partial frame of a push stream for its next chunk. `none` when there is no memory
for a stream that had none. -/
def keepPush (worker : GatewayWorker) (key : StreamKey) (known : Bool) (spill : Bytes) :
    Option GatewayWorker :=
  if known then
    some (if spill = [] then worker.dropPush key
      else worker.setPushes (worker.egress.pushes.insert key spill))
  else if spill = [] then some worker
  else
    match worker.ask with
    | (false, _) => none
    | (true, worker) => some (worker.setPushes (worker.egress.pushes.insert key spill))

/-- A chunk of a push stream. `memory` says which sizes a partial frame can grow to. -/
def handlePush (worker : GatewayWorker) (transport : Nat) (realm : RealmId)
    (event : TransportRecv) (memory : Nat → Bool) : GatewayWorker :=
  let key : StreamKey := { transport := transport, stream := event.streamId }
  let existing := worker.egress.pushes.lookup key
  if existing.isNone ∧ maxPushStreams ≤ worker.egress.pushes.size then worker
  else
    match Framing.drainFrames (onPushFrame key realm) memory maxFrameSize worker
        (existing.getD []) event.data with
    | (worker, spill, drained) =>
        match worker.keepPush key existing.isSome spill with
        | none => worker.ask.2
        | some worker =>
            match drained with
            | .error _ => worker.dropPush key
            | .ok () => if event.isFin then worker.abortBackendPush key else worker

end GatewayWorker

end LyuneGateway.Worker
