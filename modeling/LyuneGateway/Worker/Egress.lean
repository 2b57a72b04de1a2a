import LyuneGateway.Worker.Lifecycle
import LyuneGateway.Worker.Routes

/-!
# Frames from backends

A backend pushes to destinations and to groups, and commands the gateway to kick
connections or to change the members of a group. What a worker cannot do itself
it sends to other workers and nodes; what was handed to it, it only does locally.
-/

namespace LyuneGateway.Worker

open Foundation Protocol Session

/-- A report to a backend: the entries that were not reached, as one DATA frame. -/
def reportFrame (width : Nat) (entries : List Nat) : Bytes :=
  let kept := entries.take (EntryList.maxEntries width)
  (FrameHeader.initData Flags.last (EntryList.byteSize width kept.length)).wire ++
    (BigEndian.write 2 kept.length ++ kept.flatMap (BigEndian.write width))

/-- The frame that carries a client datagram to the other workers and nodes. -/
def encodeUnreliableGroupFrame (groupId : Nat) (payload : Bytes) : Bytes :=
  let body := BigEndian.write 2 1 ++ (BigEndian.write 8 groupId ++ payload)
  (FrameHeader.initOpen .multicast {} .none { eof := true, unreliable := true }
    body.length).wire ++ body

/-- The bytes of a multicast body behind its group list. -/
def groupPayload (parsed : Frame) : Bytes :=
  match TargetList.decode parsed.body with
  | .error _ => []
  | .ok list => parsed.body.drop list.prefixLen

namespace GatewayWorker

def isLocal (worker : GatewayWorker) (token : ConnToken) : Bool :=
  token.nodeId = worker.placement.self.nodeId && token.workerId = worker.placement.self.workerId

def tokenHome (token : ConnToken) : Location := { nodeId := token.nodeId, workerId := token.workerId }

def pushToClient (worker : GatewayWorker) (slot : Nat) (bytes : Bytes) : Bool × GatewayWorker :=
  match worker.openClient slot bytes true .backend with
  | (some _, worker) => (true, worker)
  | (none, worker) => (false, worker)

/-- Count the connections for which something succeeds. -/
def countSlots (each : GatewayWorker → Nat → Bool × GatewayWorker) (slots : List Nat)
    (worker : GatewayWorker) : Nat × GatewayWorker :=
  slots.foldl (fun state slot =>
    let answer := each state.2 slot
    (if answer.1 then state.1 + 1 else state.1, answer.2)) (0, worker)

/-- Do something for every entry of a list, and collect those that it fails for. -/
def collectMissed (each : GatewayWorker → Nat → Bool × GatewayWorker) (entries : List Nat)
    (worker : GatewayWorker) : List Nat × GatewayWorker :=
  entries.foldl (fun state entry =>
    let answer := each state.2 entry
    (if answer.1 then state.1 else state.1 ++ [entry], answer.2)) ([], worker)

/-- The number of connections of a destination that were pushed to. -/
def deliverLocalPeer (worker : GatewayWorker) (realm : RealmId) (destId : Nat) (bytes : Bytes) :
    Nat × GatewayWorker :=
  countSlots (fun worker slot => worker.pushToClient slot bytes)
    (worker.conns.destConnections realm destId) worker

/-- One datagram to one member, on the channel that the member has bound to the group. -/
def sendDatagram (groupId : Nat) (payload : Bytes) (skip : Option SessionHandle)
    (worker : GatewayWorker) (slot : Nat) : Bool × GatewayWorker :=
  match worker.context slot with
  | none => (false, worker)
  | some ctx =>
      if skip = some ctx.sessionHandle then (false, worker)
      else
        match ctx.channelFor groupId with
        | none => (false, worker)
        | some channel =>
            let data := FrameType.datagram.toByte :: UInt8.ofNat channel :: payload
            let (accepted, worker) := worker.ask
            (accepted, worker.record (.ephemeral ctx.transport.ptr data accepted))

def deliverLocalGroupDatagram (worker : GatewayWorker) (realm : RealmId) (groupId : Nat)
    (payload : Bytes) (skip : Option SessionHandle) : Nat × GatewayWorker :=
  if worker.maxDatagramFrameSize < payload.length then (0, worker)
  else countSlots (sendDatagram groupId payload skip)
    (worker.conns.groupConnections realm groupId) worker

def deliverLocalGroup (worker : GatewayWorker) (realm : RealmId) (groupId : Nat)
    (parsed : Frame) : Nat × GatewayWorker :=
  if parsed.header.flags.unreliable then
    worker.deliverLocalGroupDatagram realm groupId (groupPayload parsed) none
  else countSlots (fun worker slot => worker.pushToClient slot parsed.bytes)
    (worker.conns.groupConnections realm groupId) worker

/-- A datagram of a client, to its group on this worker and on all others. -/
def fanOutUnreliable (worker : GatewayWorker) (sender : ConnectionContext) (groupId : Nat)
    (payload : Bytes) : GatewayWorker :=
  let worker := (worker.deliverLocalGroupDatagram sender.realm groupId payload
    (some sender.sessionHandle)).2
  if worker.maxDatagramFrameSize < payload.length then worker
  else (((RouteSet.markAll {} worker.placement).flush worker sender.realm
    (encodeUnreliableGroupFrame groupId payload))).2

/-- A membership change of one connection; only a connection of the same realm is changed. -/
def applyGroupChange (worker : GatewayWorker) (realm : RealmId) (join : Bool) (groupId : Nat)
    (token : ConnToken) : Bool × GatewayWorker :=
  match worker.conns.byToken token with
  | none => (false, worker)
  | some slot =>
      match worker.context slot with
      | none => (false, worker)
      | some ctx =>
          if ctx.realm ≠ realm then (false, worker)
          else if join then
            match worker.conns.joinGroup ctx.sessionHandle groupId with
            | .error _ => (false, worker)
            | .ok conns => (true, { worker with conns := conns })
          else (true, { worker with conns := worker.conns.leaveGroup ctx.sessionHandle groupId })

def applyGroupBinding (worker : GatewayWorker) (realm : RealmId) (join : Bool)
    (payload : Bytes) : GatewayWorker :=
  match GroupBinding.decode payload with
  | .error _ => worker
  | .ok binding => binding.members.toList.foldl (fun worker raw =>
      (worker.applyGroupChange realm join binding.groupId (.decode raw)).2) worker

/-- Revoke a connection's admission, tell the client, and close it. -/
def kickOne (worker : GatewayWorker) (realm : RealmId) (token : ConnToken) :
    Bool × GatewayWorker :=
  match worker.conns.byToken token with
  | none => (false, worker)
  | some slot =>
      match worker.context slot with
      | none => (false, worker)
      | some ctx =>
          if ctx.realm ≠ realm then (false, worker)
          else
            let worker := worker.revokeAdmission slot .kicked
            let worker := match encodeControlFrame 128 .kickOff (text "kicked") with
              | .error _ => worker
              | .ok notice => (worker.openClient slot notice true .gateway).2
            (true, worker.closeClient ctx .kicked)

/-- Whether a connection was kicked, here or by whoever took the command for it. -/
def kickOrAccepted (realm : RealmId) (routes : RouteSet) (worker : GatewayWorker) (raw : Nat) :
    Bool × GatewayWorker :=
  let token := ConnToken.decode raw
  if worker.isLocal token then worker.kickOne realm token
  else (routes.accepted worker.placement (tokenHome token), worker)

/-- Where the connections of a list live that are not here. -/
def tokenRoutes (worker : GatewayWorker) (tokens : List Nat) : RouteSet :=
  tokens.foldl (fun routes raw =>
    if worker.isLocal (.decode raw) then routes
    else routes.mark worker.placement (tokenHome (.decode raw))) {}

/-- Kick the connections of a list. The command is sent on for those that live elsewhere, also
when it was itself handed over. The result has the tokens that were missed. -/
def kickTokens (worker : GatewayWorker) (realm : RealmId) (tokens : List Nat) (bytes : Bytes) :
    List Nat × GatewayWorker :=
  let sent := (worker.tokenRoutes tokens).flush worker realm bytes
  collectMissed (kickOrAccepted realm sent.1) tokens sent.2

/-- `origin` is the backend stream of a command that came from a backend. -/
def kickAll (worker : GatewayWorker) (origin : Option StreamKey) (realm : RealmId)
    (list : TokenList) (bytes : Bytes) (wantReport : Bool) : GatewayWorker :=
  let kicked := worker.kickTokens realm list.toList bytes
  match wantReport, origin with
  | true, some key => (kicked.2.writeBackend key (reportFrame connTokenSize kicked.1) true).2
  | _, _ => kicked.2

/-- A message that another worker of the node handed over. -/
def deliverOneShot (worker : GatewayWorker) (realm : RealmId) (bytes : Bytes) : GatewayWorker :=
  match parseExactFrame bytes with
  | .error _ => worker
  | .ok parsed =>
      if parsed.header.isOpen = false ∨ parsed.header.isLast = false then worker
      else
        match parsed.header.destKind with
        | .peer =>
            match TargetList.decode parsed.body with
            | .error _ => worker
            | .ok list => list.toList.foldl (fun worker destId =>
                (worker.deliverLocalPeer realm destId bytes).2) worker
        | .multicast =>
            match TargetList.decode parsed.body with
            | .error _ => worker
            | .ok list => list.toList.foldl (fun worker groupId =>
                (worker.deliverLocalGroup realm groupId parsed).2) worker
        | .gateway =>
            match parsed.header.controlType with
            | some .kickOff =>
                match TokenList.decode parsed.body with
                | .error _ => worker
                | .ok list => worker.kickAll none realm list bytes false
            | some .joinGroup => worker.applyGroupBinding realm true parsed.body
            | some .leaveGroup => worker.applyGroupBinding realm false parsed.body
            | _ => worker
        | .service => worker

/-- A frame from a peer node goes to this worker and to the others of this node only. -/
def deliverFromPeer (worker : GatewayWorker) (realm : RealmId) (bytes : Bytes) : GatewayWorker :=
  match parseExactFrame bytes with
  | .error _ => worker
  | .ok parsed =>
      match TargetList.decode parsed.body with
      | .error _ => worker
      | .ok list =>
          let routes : RouteSet := { localOnly := true }
          match parsed.header.destKind with
          | .peer =>
              let routes := if 0 < list.count then routes.markAllWorkers worker.placement else routes
              list.toList.foldl (fun worker destId =>
                (worker.deliverLocalPeer realm destId bytes).2) (routes.flush worker realm bytes).2
          | .multicast =>
              list.toList.foldl (fun worker groupId =>
                (worker.deliverLocalGroup realm groupId parsed).2)
                ((routes.markAll worker.placement).flush worker realm bytes).2
          | .gateway | .service => worker

/-- Where the destinations of a list may live: everywhere, or on every worker of this node and at
their homes. -/
def targetRoutes (view : Placement.View) (realm : RealmId) (list : TargetList)
    (everywhere : Bool) : RouteSet :=
  if everywhere then RouteSet.markAll {} view
  else
    list.toList.foldl (fun routes destId => routes.markHome view realm destId)
      (if 0 < list.count then RouteSet.markAllWorkers {} view else {})

/-- Push to every destination of a list, here and elsewhere, and report who was not reached. -/
def fanOut (worker : GatewayWorker) (key : StreamKey) (realm : RealmId) (list : TargetList)
    (bytes : Bytes) (wantReport : Bool) : GatewayWorker :=
  let view := worker.placement
  let sent := (targetRoutes view realm list (view.strategy = .broadcast)).flush worker realm bytes
  let delivered := collectMissed (fun worker destId =>
    let answer := worker.deliverLocalPeer realm destId bytes
    (0 < answer.1 || sent.1.acceptedPeer view realm destId, answer.2)) list.toList sent.2
  if wantReport then (delivered.2.writeBackend key (reportFrame destIdSize delivered.1) true).2
  else delivered.2

/-- Change the group for one token, or note where its connection lives. -/
def bindOrMark (view : Placement.View) (realm : RealmId) (join : Bool) (groupId : Nat)
    (state : RouteSet × GatewayWorker) (raw : Nat) : RouteSet × GatewayWorker :=
  let token := ConnToken.decode raw
  if state.2.isLocal token then (state.1, (state.2.applyGroupChange realm join groupId token).2)
  else (state.1.mark view (tokenHome token), state.2)

def dispatchGroupBinding (worker : GatewayWorker) (realm : RealmId) (join : Bool)
    (parsed : Frame) : Bool × GatewayWorker :=
  match GroupBinding.decode parsed.body with
  | .error _ => (false, worker)
  | .ok binding =>
      let bound := binding.members.toList.foldl
        (bindOrMark worker.placement realm join binding.groupId) (({} : RouteSet), worker)
      (true, (bound.1.flush bound.2 realm parsed.bytes).2)

/-- A command to the gateway: one frame that kicks connections or changes a group. -/
def dispatchBackendControl (worker : GatewayWorker) (key : StreamKey) (realm : RealmId)
    (parsed : Frame) : Bool × GatewayWorker :=
  match parsed.header.controlType with
  | some .kickOff =>
      if parsed.header.isLast = false then (false, worker)
      else
        match TokenList.decode parsed.body with
        | .error _ => (false, worker)
        | .ok list =>
            (true, worker.kickAll (some key) realm list parsed.bytes parsed.header.flags.report)
  | some .joinGroup =>
      if parsed.header.isLast = false then (false, worker)
      else worker.dispatchGroupBinding realm true parsed
  | some .leaveGroup =>
      if parsed.header.isLast = false then (false, worker)
      else worker.dispatchGroupBinding realm false parsed
  | _ => (false, worker)

end GatewayWorker

end LyuneGateway.Worker
