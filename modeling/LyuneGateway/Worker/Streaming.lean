import LyuneGateway.Worker.Egress

/-!
# Streaming pushes

The OPEN frame of a streaming push opens a stream on every local target and
enlists the workers and nodes that take it. Every later frame is offered to
these, and ending or aborting the session is passed on to them.
-/

namespace LyuneGateway.Worker

open Foundation Protocol Session

inductive Attach where
  | attached
  | skipped
  | full
  deriving DecidableEq, Repr

def decodeStreamingTargets (parsed : Frame) : Option TargetList :=
  match TargetList.decode parsed.body with
  | .error _ => none
  | .ok list => if maxListTargets < list.count then none else some list

namespace GatewayWorker

/-- Write a frame of a session on one of its client streams, if the client is still there. -/
def writeLocal (worker : GatewayWorker) (bytes : Bytes) (isLast : Bool) (target : LocalTarget) :
    GatewayWorker :=
  match (worker.conns.byToken target.token).bind worker.context with
  | none => worker
  | some ctx =>
      (worker.writeClient ctx.transport.ptr target.streamId bytes isLast .backend).2

def resetLocal (worker : GatewayWorker) (target : LocalTarget) : GatewayWorker :=
  match (worker.conns.byToken target.token).bind worker.context with
  | none => worker
  | some ctx => worker.resetClient ctx target.streamId

/-- Offer a message of a session to the workers that took its OPEN frame. -/
def deliverSession (worker : GatewayWorker) (session : PushSession) (bytes : Bytes) :
    GatewayWorker :=
  (List.range maxWorkers).foldl (fun worker workerId =>
    if session.workers workerId then
      (worker.deliver workerId session.realm session.id bytes).2
    else worker) worker

/-- A further frame of a session. A target that does not take it stays in the session. -/
def writeSessionFrame (worker : GatewayWorker) (slot : Nat) (parsed : Frame) : GatewayWorker :=
  match worker.session slot with
  | none => worker
  | some session =>
      let isLast := parsed.header.isLast
      let bytes := parsed.bytes
      let worker := worker.deliverSession session bytes
      let worker := session.nodes.foldl (fun worker stream =>
        (worker.sendPeerOn stream bytes isLast).2) worker
      let worker := session.locals.foldl (fun worker target =>
        worker.writeLocal bytes isLast target) worker
      let worker := worker.modifySession slot fun session => session.touch worker.now
      if isLast then worker.closeSession slot else worker

/-- End a session without finishing it: its client streams are reset, and the workers and nodes
that take part are told that it is void. -/
def abortSession (worker : GatewayWorker) (slot : Nat) : GatewayWorker :=
  match worker.session slot with
  | none => worker
  | some session =>
      let worker := session.locals.foldl (fun worker target => worker.resetLocal target) worker
      let worker := worker.deliverSession session []
      let worker := session.nodes.foldl (fun worker stream => worker.resetPeer stream) worker
      worker.closeSession slot

/-- Open a session's stream on one connection. -/
def attachOne (worker : GatewayWorker) (slot target : Nat) (bytes : Bytes) :
    Attach × GatewayWorker :=
  match worker.session slot, worker.context target with
  | none, _ => (.skipped, worker)
  | _, none => (.skipped, worker)
  | some session, some ctx =>
      if maxLocalTargets ≤ session.locals.length then (.full, worker)
      else
        match worker.conns.tokenFor ctx.sessionHandle with
        | none => (.skipped, worker)
        | some token =>
            match worker.openClient target bytes false .backend with
            | (none, worker) => (.skipped, worker)
            | (some streamId, worker) =>
                (.attached, worker.modifySession slot fun session =>
                  session.addLocal { token := token, streamId := streamId })

/-- Attach connections until the session is full; the result counts those attached. -/
def attachAll (worker : GatewayWorker) (slot : Nat) (bytes : Bytes) :
    List Nat → Nat → Nat × GatewayWorker
  | [], count => (count, worker)
  | target :: targets, count =>
      match worker.attachOne slot target bytes with
      | (.attached, worker) => worker.attachAll slot bytes targets (count + 1)
      | (.skipped, worker) => worker.attachAll slot bytes targets count
      | (.full, worker) => (count, worker)

/-- Attach the connections of every target; the result counts those attached for each. -/
def attachTargets (slot : Nat) (bytes : Bytes) (members : GatewayWorker → Nat → List Nat)
    (targets : List Nat) (worker : GatewayWorker) : List Nat × GatewayWorker :=
  targets.foldl (fun state target =>
    let answer := attachAll state.2 slot bytes (members state.2 target) 0
    (state.1 ++ [answer.1], answer.2)) ([], worker)

/-- Attach the connections of every target of the list. The result says how many connections each
target reached; `none` means that the frame has no such list. -/
def attachSessionTargets (worker : GatewayWorker) (slot : Nat) (parsed : Frame) :
    Option (List Nat) × GatewayWorker :=
  match decodeStreamingTargets parsed, worker.session slot with
  | none, _ => (none, worker)
  | _, none => (none, worker)
  | some list, some session =>
      let attach (members : GatewayWorker → Nat → List Nat) : Option (List Nat) × GatewayWorker :=
        let attached := attachTargets slot parsed.bytes members list.toList worker
        (some attached.1, attached.2)
      match parsed.header.destKind with
      | .peer => attach fun worker target => worker.conns.destConnections session.realm target
      | .multicast => attach fun worker target => worker.conns.groupConnections session.realm target
      | .gateway | .service => if list.count = 0 then (some [], worker) else (none, worker)

/-- Take a session's slot, under a fresh id if none is given. -/
def openSession (worker : GatewayWorker) (id : Option Nat) (realm : RealmId)
    (origin : Option StreamKey) : Option (Nat × PushSession) × GatewayWorker :=
  let (id, sessions) := match id with
    | some id => (id, worker.egress.sessions)
    | none => worker.egress.sessions.nextId
  let session : PushSession := {
    id := id
    realm := realm
    origin := origin
    lastActive := worker.now }
  match sessions.openSession session with
  | none => (none, worker.setSessions sessions)
  | some (slot, sessions) => (some (slot, session), worker.setSessions sessions)

theorem openSession_eq_some {worker after : GatewayWorker} {id : Option Nat} {realm : RealmId}
    {origin : Option StreamKey} {slot : Nat} {session : PushSession}
    (opened : worker.openSession id realm origin = (some (slot, session), after)) :
    session = {
      id := id.getD worker.egress.sessions.nextId.1
      realm := realm
      origin := origin
      lastActive := worker.now } := by
  cases id <;> unfold openSession at opened <;> simp only at opened <;> split at opened <;>
    cases opened <;> rfl

/-- A message of a session that another worker of the node handed over; an empty one voids it. -/
def deliverStreamingHandoff (worker : GatewayWorker) (realm : RealmId) (sessionId : Nat)
    (bytes : Bytes) : GatewayWorker :=
  if bytes = [] then
    match worker.egress.sessions.findById sessionId with
    | none => worker
    | some slot => worker.abortSession slot
  else
    match parseExactFrame bytes with
    | .error _ => worker
    | .ok parsed =>
        if parsed.header.isOpen then
          if (worker.egress.sessions.findById sessionId).isSome then worker
          else
            match worker.openSession (some sessionId) realm none with
            | (none, worker) => worker
            | (some (slot, _), worker) =>
                match worker.attachSessionTargets slot parsed with
                | (none, worker) => worker.closeSession slot
                | (some counts, worker) =>
                    if counts.sum = 0 then worker.closeSession slot else worker
        else
          match worker.egress.sessions.findById sessionId with
          | none => worker
          | some slot => worker.writeSessionFrame slot parsed

/-- A message popped from this worker's queue is delivered here and nowhere else. -/
def deliverHandoff (worker : GatewayWorker) (realm : RealmId) (sessionId : Nat) (bytes : Bytes) :
    GatewayWorker :=
  if sessionId ≠ 0 then worker.deliverStreamingHandoff realm sessionId bytes
  else worker.deliverOneShot realm bytes

/-- A streaming push that a peer node opens; the result is the id of its session. -/
def beginPeerSession (worker : GatewayWorker) (realm : RealmId) (parsed : Frame) :
    Option Nat × GatewayWorker :=
  match parsed.header.destKind, decodeStreamingTargets parsed with
  | .gateway, _ | .service, _ => (none, worker)
  | _, none => (none, worker)
  | _, some list =>
      match worker.openSession none realm none with
      | (none, worker) => (none, worker)
      | (some (slot, session), worker) =>
          let routes : RouteSet := { localOnly := true }
          let routes := if 0 < list.count then routes.markAllWorkers worker.placement else routes
          let sent := routes.flushSession worker slot session parsed.bytes
          match sent.2.attachSessionTargets slot parsed with
          | (none, worker) => (none, worker.abortSession slot)
          | (some _, worker) => (some session.id, worker)

def continuePeerSession (worker : GatewayWorker) (sessionId : Nat) (parsed : Frame) :
    GatewayWorker :=
  match worker.egress.sessions.findById sessionId with
  | none => worker
  | some slot => worker.writeSessionFrame slot parsed

def abortSessionById (worker : GatewayWorker) (sessionId : Nat) : GatewayWorker :=
  match worker.egress.sessions.findById sessionId with
  | none => worker
  | some slot => worker.abortSession slot

def purgeSessions (now : Nat) : Nat → GatewayWorker → GatewayWorker
  | 0, worker => worker
  | rounds + 1, worker =>
      match worker.egress.sessions.expired now with
      | none => worker
      | some slot => purgeSessions now rounds (worker.abortSession slot)

def purgeExpiredSessions (worker : GatewayWorker) (now : Nat) : GatewayWorker :=
  purgeSessions now maxSessions worker

/-- Open a streaming push of a backend. -/
def openStreamingPush (worker : GatewayWorker) (key : StreamKey) (realm : RealmId)
    (parsed : Frame) : Bool × GatewayWorker :=
  match decodeStreamingTargets parsed with
  | none => (false, worker)
  | some list =>
      match worker.openSession none realm (some key) with
      | (none, worker) => (false, worker)
      | (some (slot, session), worker) =>
          let view := worker.placement
          let everywhere : Bool :=
            parsed.header.destKind = .multicast ∨ view.strategy = .broadcast
          let sent :=
            (targetRoutes view realm list everywhere).flushSession worker slot session parsed.bytes
          match sent.2.attachSessionTargets slot parsed with
          | (none, worker) => (false, worker.abortSession slot)
          | (some counts, worker) =>
              if parsed.header.flags.report = false then (true, worker)
              else
                let missed := (list.toList.zip counts).filter fun entry =>
                  entry.2 = 0 &&
                    !(parsed.header.destKind = .peer && sent.1.acceptedPeer view realm entry.1)
                (true, (worker.writeBackend key
                  (reportFrame destIdSize (missed.map Prod.fst)) true).2)

def dispatchMulticast (worker : GatewayWorker) (key : StreamKey) (realm : RealmId)
    (parsed : Frame) : Bool × GatewayWorker :=
  if parsed.header.isLast = false then worker.openStreamingPush key realm parsed
  else
    match TargetList.decode parsed.body with
    | .error _ => (false, worker)
    | .ok list =>
        let delivered := collectMissed (fun worker groupId =>
          let answer := worker.deliverLocalGroup realm groupId parsed
          (0 < answer.1, answer.2)) list.toList worker
        let worker := ((RouteSet.markAll {} delivered.2.placement).flush delivered.2 realm
          parsed.bytes).2
        if parsed.header.flags.report = false then (true, worker)
        else (true, (worker.writeBackend key (reportFrame destIdSize delivered.1) true).2)

end GatewayWorker

end LyuneGateway.Worker
