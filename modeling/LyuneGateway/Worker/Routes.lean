import LyuneGateway.Worker.State

/-!
# Where a message has to go

A route set collects the other workers and the peer nodes that a message is for,
sends it to each of them once, and remembers who took it.
-/

namespace LyuneGateway.Worker

open Foundation

def maxWorkers : Nat := 256
def maxRoutableNodes : Nat := 1024

structure RouteSet where
  workerPending : Nat → Bool := fun _ => false
  workerAccepted : Nat → Bool := fun _ => false
  nodePending : Nat → Bool := fun _ => false
  nodeAccepted : Nat → Bool := fun _ => false
  localOnly : Bool := false

namespace RouteSet

/-- A place on another node counts for the node, one on this node for the worker. -/
def mark (routes : RouteSet) (view : Placement.View) (home : Location) : RouteSet :=
  if home.nodeId ≠ view.self.nodeId then
    if routes.localOnly then routes
    else if home.nodeId < maxRoutableNodes then
      { routes with nodePending := Function.update routes.nodePending home.nodeId true }
    else routes
  else if home.workerId ≠ view.self.workerId then
    { routes with workerPending := Function.update routes.workerPending home.workerId true }
  else routes

def markHome (routes : RouteSet) (view : Placement.View) (realm : RealmId) (destId : Nat) :
    RouteSet :=
  (view.candidates realm destId).foldl (fun routes home => routes.mark view home) routes

def markAllWorkers (routes : RouteSet) (view : Placement.View) : RouteSet :=
  { routes with workerPending := fun workerId =>
      routes.workerPending workerId ||
        (workerId < view.workerCount && workerId ≠ view.self.workerId) }

def markAllNodes (routes : RouteSet) (view : Placement.View) : RouteSet :=
  if routes.localOnly then routes
  else { routes with nodePending := fun nodeId =>
      routes.nodePending nodeId ||
        (nodeId ∈ view.nodes && nodeId ≠ view.self.nodeId && nodeId < maxRoutableNodes) }

def markAll (routes : RouteSet) (view : Placement.View) : RouteSet :=
  (routes.markAllWorkers view).markAllNodes view

def acceptWorker (routes : RouteSet) (workerId : Nat) : RouteSet :=
  { routes with workerAccepted := Function.update routes.workerAccepted workerId true }

def acceptNode (routes : RouteSet) (nodeId : Nat) : RouteSet :=
  { routes with nodeAccepted := Function.update routes.nodeAccepted nodeId true }

def flushWorker (realm : RealmId) (bytes : Bytes) (state : RouteSet × GatewayWorker)
    (workerId : Nat) : RouteSet × GatewayWorker :=
  if state.1.workerPending workerId then
    match state.2.deliver workerId realm 0 bytes with
    | (true, worker) => (state.1.acceptWorker workerId, worker)
    | (false, worker) => (state.1, worker)
  else state

def flushNode (realm : RealmId) (bytes : Bytes) (state : RouteSet × GatewayWorker)
    (nodeId : Nat) : RouteSet × GatewayWorker :=
  if state.1.nodePending nodeId then
    match state.2.sendPeer nodeId realm bytes false with
    | (some _, worker) => (state.1.acceptNode nodeId, worker)
    | (none, worker) => (state.1, worker)
  else state

/-- Send a one-shot message to everyone marked. -/
def flush (routes : RouteSet) (worker : GatewayWorker) (realm : RealmId) (bytes : Bytes) :
    RouteSet × GatewayWorker :=
  (List.range maxRoutableNodes).foldl (flushNode realm bytes)
    ((List.range maxWorkers).foldl (flushWorker realm bytes) (routes, worker))

def flushSessionWorker (slot : Nat) (session : PushSession) (bytes : Bytes)
    (state : RouteSet × GatewayWorker) (workerId : Nat) : RouteSet × GatewayWorker :=
  if state.1.workerPending workerId then
    match state.2.deliver workerId session.realm session.id bytes with
    | (true, worker) =>
        (state.1.acceptWorker workerId, worker.modifySession slot fun own => own.addWorker workerId)
    | (false, worker) => (state.1, worker)
  else state

/-- Open a stream to each node marked. The first one beyond the limit ends the loop, with its
stream left behind. -/
def flushSessionNodes (slot : Nat) (session : PushSession) (bytes : Bytes) :
    List Nat → RouteSet × GatewayWorker → RouteSet × GatewayWorker
  | [], state => state
  | nodeId :: nodeIds, state =>
      if state.1.nodePending nodeId then
        match state.2.sendPeer nodeId session.realm bytes true with
        | (none, worker) => flushSessionNodes slot session bytes nodeIds (state.1, worker)
        | (some stream, worker) =>
            if (worker.session slot).any fun own => maxNodes ≤ own.nodes.length then
              (state.1, worker)
            else
              flushSessionNodes slot session bytes nodeIds
                (state.1.acceptNode nodeId,
                  worker.modifySession slot fun own => own.addNode stream)
      else flushSessionNodes slot session bytes nodeIds state

/-- Send the OPEN frame of a session to everyone marked; who takes it belongs to the session. -/
def flushSession (routes : RouteSet) (worker : GatewayWorker) (slot : Nat)
    (session : PushSession) (bytes : Bytes) : RouteSet × GatewayWorker :=
  flushSessionNodes slot session bytes (List.range maxRoutableNodes)
    ((List.range maxWorkers).foldl (flushSessionWorker slot session bytes) (routes, worker))

/-- Whether the place of a connection took the message. -/
def accepted (routes : RouteSet) (view : Placement.View) (home : Location) : Bool :=
  if home.nodeId ≠ view.self.nodeId then
    home.nodeId < maxRoutableNodes && routes.nodeAccepted home.nodeId
  else if home.workerId = view.self.workerId then false
  else routes.workerAccepted home.workerId

def acceptedHome (routes : RouteSet) (view : Placement.View) (realm : RealmId) (destId : Nat) :
    Bool :=
  (view.candidates realm destId).any fun home => routes.accepted view home

def acceptedByAnyWorker (routes : RouteSet) : Bool :=
  (List.range maxWorkers).any routes.workerAccepted

def acceptedPeer (routes : RouteSet) (view : Placement.View) (realm : RealmId) (destId : Nat) :
    Bool :=
  routes.acceptedByAnyWorker || routes.acceptedHome view realm destId

end RouteSet

end LyuneGateway.Worker
