import LyuneGateway.Worker.Auth
import LyuneGateway.Worker.Streaming

/-!
# Frames from clients

An OPEN frame starts an exchange on a client stream. One for the gateway is a
control request and is answered at once; one for a service is forwarded to its
backend, and the frames that follow are appended to the backend's stream. On a
link from a peer node the frames are pushes for this node instead.
-/

namespace LyuneGateway.Worker

open Protocol Session

def maxInboundExchanges : Nat := 64

/-- What becomes of a client stream after a frame. -/
inductive FrameOutcome where
  | continueStream
  | stopStream
  | closeConnection
  deriving DecidableEq, Repr

inductive BindOutcome where
  | bound
  | malformed
  | notAdmitted
  | notAMember
  deriving DecidableEq, Repr

namespace ConnectionContext

def adjustExchange (ctx : ConnectionContext) (streamId : Nat)
    (change : InboundExchange → InboundExchange) : ConnectionContext :=
  { ctx with inboundExchanges := ctx.inboundExchanges.adjust streamId change }

/-- The client asked to be disconnected, which happens once its frames are done with. -/
def requestClose (ctx : ConnectionContext) : ConnectionContext :=
  { ctx with offlineReason := some .clientDisconnect, closeRequested := true }

end ConnectionContext

/-- The client sent the last frame of its request. -/
def InboundExchange.complete (active : InboundExchange) : InboundExchange :=
  { active with backend := none, inputComplete := true }

/-- The peer node sent the last frame of its push. -/
def InboundExchange.completePush (active : InboundExchange) : InboundExchange :=
  { active with pushSession := 0, inputComplete := true }

namespace GatewayWorker

/-- Reply with an error of the gateway. -/
def reject (worker : GatewayWorker) (handle : SessionHandle) (streamId : Nat)
    (message : String) : GatewayWorker :=
  worker.replyControl handle streamId .gatewayError (text message)

/-- Whether the connection may use services now. -/
def notAdmitted (worker : GatewayWorker) (ctx : ConnectionContext) : Bool :=
  worker.policy.required && !ctx.isAdmitted worker.now

def resolveBind (worker : GatewayWorker) (slot : Nat) (ctx : ConnectionContext)
    (parsed : Frame) : BindOutcome × GatewayWorker :=
  if worker.notAdmitted ctx then (.notAdmitted, worker)
  else
    match ChannelBinding.decode parsed.body with
    | .error _ => (.malformed, worker)
    | .ok binding =>
        if worker.conns.isGroupMember ctx.sessionHandle binding.groupId = false then
          (.notAMember, worker)
        else (.bound, worker.modifyConn slot fun ctx =>
          ctx.bindChannel binding.channel binding.groupId)

def bindChannel (worker : GatewayWorker) (slot : Nat) (ctx : ConnectionContext)
    (streamId : Nat) (parsed : Frame) : GatewayWorker :=
  match worker.resolveBind slot ctx parsed with
  | (.bound, worker) => worker.replyControl ctx.sessionHandle streamId .bindChannel parsed.body
  | (.malformed, worker) => worker.reject ctx.sessionHandle streamId "malformed channel binding"
  | (.notAdmitted, worker) => worker.reject ctx.sessionHandle streamId "authentication required"
  | (.notAMember, worker) =>
      worker.reject ctx.sessionHandle streamId "not a member of that group"

def unbindChannel (worker : GatewayWorker) (slot : Nat) (ctx : ConnectionContext)
    (streamId : Nat) (parsed : Frame) : GatewayWorker :=
  match decodeChannel parsed.body with
  | .error _ => worker.reject ctx.sessionHandle streamId "malformed channel number"
  | .ok channel =>
      (worker.modifyConn slot fun ctx => ctx.unbindChannel channel).replyControl
        ctx.sessionHandle streamId .unbindChannel parsed.body

/-- Disconnecting is not answered; every other control request is. -/
def expectedMode (control : ControlType) : ResponseMode :=
  if control = .disconnect then .none else .required

/-- The gateway's own requests; authentication is left to a service. -/
def handleControlFrame (worker : GatewayWorker) (slot : Nat) (ctx : ConnectionContext)
    (streamId : Nat) (parsed : Frame) : GatewayWorker :=
  let handle := ctx.sessionHandle
  match parsed.header.controlType with
  | none => worker.reject handle streamId "unknown control type"
  | some control =>
      if parsed.header.responseMode ≠ expectedMode control then
        worker.reject handle streamId (if expectedMode control = .none then
          "control requires response_mode=none" else "control requires response_mode=required")
      else
        match control with
        | .heartbeat => worker.replyControl handle streamId .heartbeatAck []
        | .ping => worker.replyControl handle streamId .pong parsed.body
        | .disconnect => worker.modifyConn slot .requestClose
        | .bindChannel => worker.bindChannel slot ctx streamId parsed
        | .unbindChannel => worker.unbindChannel slot ctx streamId parsed
        | .authRequest => worker.delegateAuth handle streamId parsed
        | _ => worker.reject handle streamId "unsupported control type"

def openGatewayExchange (worker : GatewayWorker) (slot : Nat) (ctx : ConnectionContext)
    (streamId : Nat) (parsed : Frame) : FrameOutcome × GatewayWorker :=
  if parsed.header.isLast = false then
    (.continueStream,
      worker.reject ctx.sessionHandle streamId "streaming control exchange not supported")
  else
    match worker.ask with
    | (false, worker) =>
        (.continueStream, worker.reject ctx.sessionHandle streamId "gateway busy")
    | (true, worker) =>
        let worker := (worker.modifyConn slot fun ctx => ctx.registerInboundExchange streamId
          { responseMode := parsed.header.responseMode, inputComplete := true }).handleControlFrame
            slot ctx streamId parsed
        (if (worker.context slot).any ConnectionContext.closeRequested then .stopStream
          else .continueStream, worker)

/-- Track a request that a backend has taken; without the memory for it the client is told. -/
def trackExchange (worker : GatewayWorker) (slot : Nat) (ctx : ConnectionContext) (streamId : Nat)
    (backend : BackendStream) (header : FrameHeader) : GatewayWorker :=
  match worker.ask with
  | (false, worker) =>
      (worker.finishBackendStream backend).reject ctx.sessionHandle streamId "gateway busy"
  | (true, worker) =>
      let worker := { worker with inflight := worker.inflight.openRoute backend.key {
        target := match header.responseMode with
          | .required => .client { session := ctx.sessionHandle, streamId := streamId }
          | .none => .discard
        realm := ctx.realm
        lastActiveAt := worker.now } }
      match worker.ask with
      | (false, worker) =>
          let worker := worker.finishBackendStream backend
          { worker with inflight := worker.inflight.closeRoute backend.key }.reject
            ctx.sessionHandle streamId "gateway busy"
      | (true, worker) =>
          let worker := worker.modifyConn slot fun ctx => ctx.registerInboundExchange streamId {
            backend := if header.isLast then none else some backend
            responseMode := header.responseMode
            inputComplete := header.isLast }
          if header.isLast ∧ header.responseMode = .none then
            worker.finishResponseWithoutPayload ctx.sessionHandle streamId
          else worker

def openServiceExchange (worker : GatewayWorker) (slot : Nat) (ctx : ConnectionContext)
    (streamId : Nat) (parsed : Frame) : FrameOutcome × GatewayWorker :=
  let fail (worker : GatewayWorker) (message : String) : FrameOutcome × GatewayWorker :=
    (.continueStream, worker.reject ctx.sessionHandle streamId message)
  if worker.notAdmitted ctx then fail worker "authentication required"
  else
    match parsed.header.routeId with
    | none => (.continueStream, worker)
    | some route =>
        let scope : ScopedRoute := { realm := ctx.realm, route := route }
        match worker.registry scope with
        | none => fail worker "route not found"
        | some transport =>
            match worker.inflight.reserveRoute ctx.realm with
            | .tableFull => fail worker "too many in-flight requests"
            | .realmOverShare => fail worker "realm in-flight quota exceeded"
            | .ok =>
                match worker.openBackend transport parsed.bytes parsed.header.isLast with
                | (none, worker) => fail worker "backend unavailable"
                | (some stream, worker) => (.continueStream, worker.trackExchange slot ctx streamId
                    { key := { transport := transport, stream := stream }, scope := scope }
                    parsed.header)

def openPeerSession (worker : GatewayWorker) (slot : Nat) (ctx : ConnectionContext)
    (streamId : Nat) (realm : RealmId) (parsed : Frame) : GatewayWorker :=
  if maxInboundExchanges ≤ ctx.inboundExchanges.size then worker
  else
    match worker.beginPeerSession realm parsed with
    | (none, worker) => worker
    | (some sessionId, worker) =>
        match worker.ask with
        | (false, worker) => worker.abortSessionById sessionId
        | (true, worker) => worker.modifyConn slot fun ctx => ctx.registerInboundExchange streamId
            { pushSession := sessionId, responseMode := parsed.header.responseMode }

/-- A peer node may push, and only without asking for a response. -/
def openPeerNodeExchange (worker : GatewayWorker) (slot : Nat) (ctx : ConnectionContext)
    (streamId : Nat) (parsed : Frame) : FrameOutcome × GatewayWorker :=
  if parsed.header.responseMode ≠ .none then (.closeConnection, worker)
  else if parsed.header.destKind ≠ .peer ∧ parsed.header.destKind ≠ .multicast then
    (.closeConnection, worker)
  else
    match parsed.header.realmHint with
    | none => (.closeConnection, worker)
    | some realm =>
        if parsed.header.isLast = false then
          (.continueStream, worker.openPeerSession slot ctx streamId realm parsed)
        else (.continueStream, worker.deliverFromPeer realm parsed.bytes)

/-- QUIC does not let a client use a stream twice; another transport is asked. -/
def claimInboundExchange (worker : GatewayWorker) (kind : TransportKind) : Bool × GatewayWorker :=
  match kind with
  | .rawQuic => (true, worker)
  | .wss => worker.ask

def openInboundExchange (worker : GatewayWorker) (slot : Nat) (ctx : ConnectionContext)
    (streamId : Nat) (parsed : Frame) : FrameOutcome × GatewayWorker :=
  if ctx.peerNode then worker.openPeerNodeExchange slot ctx streamId parsed
  else
    match worker.claimInboundExchange ctx.transport.kind with
    | (false, worker) => (.closeConnection, worker)
    | (true, worker) =>
        match parsed.header.destKind with
        | .peer | .multicast => (.closeConnection, worker)
        | .gateway | .service =>
            if maxInboundExchanges ≤ ctx.inboundExchanges.size then
              (.continueStream,
                worker.reject ctx.sessionHandle streamId "too many concurrent exchanges")
            else if parsed.header.destKind = .gateway then
              worker.openGatewayExchange slot ctx streamId parsed
            else worker.openServiceExchange slot ctx streamId parsed

def continueSessionFrame (worker : GatewayWorker) (slot streamId : Nat)
    (active : InboundExchange) (parsed : Frame) : GatewayWorker :=
  let worker := worker.continuePeerSession active.pushSession parsed
  if parsed.header.isLast then
    worker.modifyConn slot fun ctx => ctx.adjustExchange streamId .completePush
  else worker

/-- A further frame of a request goes to the backend stream that the request has. -/
def appendToExchange (worker : GatewayWorker) (slot : Nat) (ctx : ConnectionContext)
    (streamId : Nat) (active : InboundExchange) (parsed : Frame) : GatewayWorker :=
  let forget (worker : GatewayWorker) : GatewayWorker :=
    worker.modifyConn slot fun ctx => ctx.removeInboundExchange streamId
  match active.backend with
  | none => forget (worker.reject ctx.sessionHandle streamId "unsupported exchange continuation")
  | some backend =>
      match worker.registry backend.scope with
      | none =>
          (forget { worker with inflight := worker.inflight.closeRoute backend.key }).reject
            ctx.sessionHandle streamId "backend unavailable"
      | some _ =>
          if (worker.inflight.lookupRoute backend.key).isNone then forget worker
          else
            let worker :=
              { worker with inflight := worker.inflight.touchRoute backend.key worker.now }
            match worker.writeBackend backend.key parsed.bytes parsed.header.isLast with
            | (false, worker) =>
                let worker := worker.finishBackendStream backend
                (forget { worker with inflight := worker.inflight.closeRoute backend.key }).reject
                  ctx.sessionHandle streamId "backend unavailable"
            | (true, worker) =>
                if parsed.header.isLast = false then worker
                else
                  let worker :=
                    worker.modifyConn slot fun ctx => ctx.adjustExchange streamId .complete
                  if active.responseMode = .none then
                    worker.finishResponseWithoutPayload ctx.sessionHandle streamId
                  else worker

/-- One frame of a client stream. -/
def dispatchFrame (worker : GatewayWorker) (slot streamId : Nat) (parsed : Frame) :
    FrameOutcome × GatewayWorker :=
  match worker.context slot with
  | none => (.continueStream, worker)
  | some ctx =>
      match ctx.inboundExchanges.lookup streamId with
      | some active =>
          if active.inputComplete then (.closeConnection, worker)
          else if parsed.header.isOpen then (.closeConnection, worker)
          else if active.pushSession ≠ 0 then
            (.continueStream, worker.continueSessionFrame slot streamId active parsed)
          else (.continueStream, worker.appendToExchange slot ctx streamId active parsed)
      | none =>
          if parsed.header.isOpen then worker.openInboundExchange slot ctx streamId parsed
          else (.continueStream, worker)

/-- The backend of a request gets no more of it. -/
def finishInput (worker : GatewayWorker) (active : InboundExchange) : GatewayWorker :=
  match active.backend with
  | none => worker
  | some backend => worker.finishBackendStream backend

/-- The same, and its response is not waited for. -/
def abandonInput (worker : GatewayWorker) (active : InboundExchange) : GatewayWorker :=
  match active.backend with
  | none => worker
  | some backend =>
      let worker := worker.finishBackendStream backend
      { worker with inflight := worker.inflight.closeRoute backend.key }

/-- A push of a peer node that its stream cuts off. -/
def abortPeerPush (worker : GatewayWorker) (active : InboundExchange) : GatewayWorker :=
  if active.pushSession ≠ 0 then worker.abortSessionById active.pushSession else worker

/-- The client has finished its side of a stream. -/
def finishClientStream (worker : GatewayWorker) (slot streamId : Nat) : GatewayWorker :=
  match worker.context slot with
  | none => worker
  | some ctx =>
      let worker := worker.modifyConn slot fun ctx => ctx.dropFrameSpill streamId
      match ctx.inboundExchanges.lookup streamId with
      | none => worker
      | some active =>
          let worker := worker.finishInput active
          let worker := if active.inputComplete = false ∧ active.responseMode = .none then
              worker.finishResponseWithoutPayload ctx.sessionHandle streamId
            else worker
          (worker.abortPeerPush active).modifyConn slot fun ctx =>
            ctx.removeInboundExchange streamId

/-- The client has abandoned its side of a stream. -/
def resetClientInput (worker : GatewayWorker) (slot streamId : Nat) : GatewayWorker :=
  match worker.context slot with
  | none => worker
  | some ctx =>
      let worker := worker.modifyConn slot fun ctx => ctx.dropFrameSpill streamId
      match ctx.inboundExchanges.lookup streamId with
      | none => worker.resetClient ctx streamId
      | some active =>
          let worker := if active.inputComplete then worker
            else ((worker.abandonInput active).abortPeerPush active).resetClient ctx streamId
          worker.modifyConn slot fun ctx => ctx.removeInboundExchange streamId

/-- The client no longer reads a stream. -/
def stopClientOutput (worker : GatewayWorker) (slot streamId : Nat) : GatewayWorker :=
  match worker.context slot with
  | none => worker
  | some ctx =>
      let tables := worker.inflight.suppressClientResponse ctx.sessionHandle streamId
      let tables := tables.suppressAuthResponse ctx.sessionHandle streamId
      { worker with inflight := tables }.resetClient ctx streamId

/-- A datagram of a client goes to the group that its channel is bound to. -/
def handleEphemeral (worker : GatewayWorker) (handle : SessionHandle) (data : Bytes) :
    GatewayWorker :=
  match worker.conns.getByHandle handle with
  | none => worker
  | some ctx =>
      if worker.notAdmitted ctx then worker
      else
        match Datagram.decode data with
        | .error _ => worker
        | .ok datagram =>
            match ctx.channelGroup datagram.channel with
            | none => worker
            | some groupId => worker.fanOutUnreliable ctx groupId datagram.payload

/-- The connection broke the protocol. -/
def violate (worker : GatewayWorker) (slot : Nat) : GatewayWorker :=
  match worker.context slot with
  | none => worker
  | some ctx => worker.closeClient ctx .protocolViolation

end GatewayWorker

/-- A worker that reads a chunk of a client stream, and whether a frame broke the protocol. -/
structure FrameDispatcher where
  worker : GatewayWorker
  violation : Bool := false

namespace FrameDispatcher

def onFrame (slot streamId : Nat) (dispatcher : FrameDispatcher) (parsed : Frame) :
    FrameDispatcher × Bool :=
  match dispatcher.worker.dispatchFrame slot streamId parsed with
  | (.continueStream, worker) => ({ dispatcher with worker := worker }, true)
  | (.stopStream, worker) => ({ dispatcher with worker := worker }, false)
  | (.closeConnection, worker) => ({ worker := worker, violation := true }, false)

end FrameDispatcher

namespace GatewayWorker

/-- Keep the partial frame of a client stream; `none` when there is no memory for it. -/
def keepFrameSpill (worker : GatewayWorker) (slot streamId : Nat) (known : Bool) (spill : Bytes) :
    Option GatewayWorker :=
  if known then
    some (worker.modifyConn slot fun ctx =>
      if spill = [] then ctx.dropFrameSpill streamId else ctx.storeFrameSpill streamId spill)
  else if spill = [] then some worker
  else
    match worker.ask with
    | (false, _) => none
    | (true, worker) => some (worker.modifyConn slot fun ctx => ctx.storeFrameSpill streamId spill)

/-- The connection goes down if a frame has asked for it. -/
def closeIfRequested (worker : GatewayWorker) (slot : Nat) : GatewayWorker :=
  match worker.context slot with
  | none => worker
  | some ctx => if ctx.closeRequested then worker.closeClient ctx .noError else worker

/-- A chunk of a client stream. `memory` says which sizes a partial frame can grow to. -/
def handleSessionData (worker : GatewayWorker) (handle : SessionHandle) (streamId : Nat)
    (data : Bytes) (isFin : Bool) (memory : Nat → Bool) : GatewayWorker :=
  match worker.conns.slotFor handle with
  | none => worker
  | some slot =>
      match StreamType.fromStreamId streamId with
      | .serverBidi => if data = [] then worker else worker.violate slot
      | .clientUni | .serverUni => worker.violate slot
      | .clientBidi =>
          let existing := (worker.context slot).bind fun ctx => ctx.frameSpills.lookup streamId
          match Framing.drainFrames (FrameDispatcher.onFrame slot streamId) memory maxFrameSize
              { worker := worker } (existing.getD []) data with
          | (dispatcher, spill, drained) =>
              match dispatcher.worker.keepFrameSpill slot streamId existing.isSome spill with
              | none => dispatcher.worker.ask.2.violate slot
              | some worker =>
                  match drained with
                  | .error _ => worker.violate slot
                  | .ok () =>
                      if dispatcher.violation then worker.violate slot
                      else
                        (if isFin then worker.finishClientStream slot streamId
                          else worker).closeIfRequested slot

/-- What a client can do to a stream besides sending on it. -/
inductive StreamControl where
  | reset
  | stop
  deriving DecidableEq, Repr

def handleSessionControl (worker : GatewayWorker) (handle : SessionHandle) (streamId : Nat)
    (event : StreamControl) : GatewayWorker :=
  match worker.conns.slotFor handle with
  | none => worker
  | some slot =>
      match event with
      | .reset => worker.resetClientInput slot streamId
      | .stop => worker.stopClientOutput slot streamId

end GatewayWorker

end LyuneGateway.Worker
