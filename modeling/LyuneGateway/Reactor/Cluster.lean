import LyuneGateway.Io.TunnelCodec
import LyuneGateway.Lib.Run
import LyuneGateway.Lib.Tally
import LyuneGateway.Reactor.Server

/-!
# The nodes of a cluster

A node has workers, each with a queue of packets that others hand to it, and a
tunnel to the other nodes. Packets come from outside to any worker; datagrams
come to a tunnel in any order, more than once, or not at all.
-/

namespace LyuneGateway.Io.Forward

open LyuneGateway.Membership (Address Mac)
open LyuneGateway.Reactor (TunnelKind)

/-- The key before the current one is still good for what comes in. -/
def decodeWithFallback (mac : Mac) (bytes current previous : Bytes) : Except CodecError Datagram :=
  match decode mac bytes current with
  | .error .invalidTag => if previous = [] then .error .invalidTag else decode mac bytes previous
  | answer => answer

/-- The end of the tunnel on a node. -/
structure TunnelEnd extends Tunnel where
  sessionId : Nat
  secret : Bytes
  previousSecret : Bytes := []
  nextSequence : Nat := 1

namespace TunnelEnd

/-- The session id is a random number. -/
def init (nodeId random : Nat) (secret previousSecret : Bytes) : Option TunnelEnd :=
  if nodeId = 0 then none
  else if secret.length < minSecretSize then none
  else if previousSecret ≠ [] ∧ previousSecret.length < minSecretSize then none
  else some { Tunnel.init nodeId with
    sessionId := if random = 0 then 1 else random
    secret := secret
    previousSecret := previousSecret }

/-- A packet as the datagram with the next number. -/
def datagram (tunnel : TunnelEnd) (kind : TunnelKind)
    (targetNodeId targetWorkerId sourceWorkerId : Nat) (payload : Bytes) (client : Address) :
    Datagram where
  sourceNodeId := tunnel.nodeId
  targetNodeId := targetNodeId
  sessionId := tunnel.sessionId
  sequence := tunnel.nextSequence
  kind := kind
  sourceWorkerId := sourceWorkerId
  targetWorkerId := targetWorkerId
  clientAddress := client
  payload := payload

/-- A number is used up even if nothing is sent. -/
def sendTo (mac : Mac) (tunnel : TunnelEnd) (kind : TunnelKind)
    (targetNodeId targetWorkerId sourceWorkerId : Nat) (payload : Bytes) (client : Address) :
    Option Datagram × TunnelEnd :=
  let after := { tunnel with nextSequence := (tunnel.nextSequence + 1) % 2 ^ 64 }
  if tunnel.nextSequence = 0 then (none, after)
  else
    let datagram := tunnel.datagram kind targetNodeId targetWorkerId sourceWorkerId payload client
    match encode mac tunnel.secret maxDatagramSize datagram with
    | .error _ => (none, after)
    | .ok _ => (some datagram, after)

/-- A datagram that has come to the socket, if it is in order. -/
def receive (mac : Mac) (tunnel : TunnelEnd) (bytes : Bytes) : Option Datagram × TunnelEnd :=
  match decodeWithFallback mac (bytes.take maxDatagramSize) tunnel.secret tunnel.previousSecret with
  | .error _ => (none, tunnel)
  | .ok datagram =>
      let (accepted, judged) := tunnel.toTunnel.acceptReplay datagram.toDecoded
      (if accepted then some datagram else none, { tunnel with toTunnel := judged })

end TunnelEnd

end LyuneGateway.Io.Forward

namespace LyuneGateway.Reactor

open LyuneGateway.Membership (Address Mac)
open LyuneGateway.Io.Forward

namespace ForwardPacket

def init (packet : Bytes) (addrFrom : Address) (receivedTime : Nat) : Option ForwardPacket :=
  if maxPacketSize < packet.length then none
  else some { bytes := packet, addrFrom := addrFrom, receivedTime := receivedTime }

def initTunnel (packet : Bytes) (addrFrom : Address) (metadata : TunnelMetadata) :
    Option ForwardPacket :=
  (init packet addrFrom 0).map fun packet => { packet with tunnel := some metadata }

/-- Which way a packet goes: to a connection, or to a client. -/
def kind (packet : ForwardPacket) : TunnelKind :=
  (packet.tunnel.map TunnelMetadata.kind).getD .request

end ForwardPacket

/-- The queues of the workers, the oldest packet first. -/
structure LocalPacketRouter where
  workerCount : Nat
  capacity : Nat
  queues : Nat → List ForwardPacket := fun _ => []

namespace LocalPacketRouter

def init (workerCount queueCapacity : Nat) : Option LocalPacketRouter :=
  if workerCount = 0 ∨ 256 < workerCount ∨ queueCapacity = 0 then none
  else some { workerCount := workerCount, capacity := queueCapacity }

def push (router : LocalPacketRouter) (workerId : Nat) (packet : Option ForwardPacket) :
    Option LocalPacketRouter :=
  if router.workerCount ≤ workerId then none
  else
    match packet with
    | none => none
    | some packet =>
        if (router.queues workerId).length = router.capacity then none
        else some { router with
          queues := Function.update router.queues workerId (router.queues workerId ++ [packet]) }

def forward (router : LocalPacketRouter) (workerId : Nat) (packet : Bytes) (addrFrom : Address)
    (receivedTime : Nat) : Option LocalPacketRouter :=
  router.push workerId (ForwardPacket.init packet addrFrom receivedTime)

def forwardTunnel (router : LocalPacketRouter) (workerId : Nat) (packet : Bytes)
    (addrFrom : Address) (metadata : TunnelMetadata) : Option LocalPacketRouter :=
  router.push workerId (ForwardPacket.initTunnel packet addrFrom metadata)

def pop (router : LocalPacketRouter) (workerId : Nat) :
    Option (ForwardPacket × LocalPacketRouter) :=
  if router.workerCount ≤ workerId then none
  else
    match router.queues workerId with
    | [] => none
    | packet :: rest =>
        some (packet, { router with queues := Function.update router.queues workerId rest })

end LocalPacketRouter

structure Node where
  drivers : Nat → ServerDriver
  router : LocalPacketRouter
  tunnel : Option TunnelEnd := none

/-- What becomes of a datagram: the node may not be known or not reachable, the socket may refuse
it. -/
inductive Carriage where
  | unavailable
  | refused
  | posted
  deriving DecidableEq, Repr

/-- A packet that a worker has received from its socket. -/
structure Arrival where
  nodeId : Nat
  workerId : Nat
  data : Bytes
  source : Address
  deriving DecidableEq

/-- What a worker has put out. -/
structure Entry where
  nodeId : Nat
  workerId : Nat
  output : Output
  deriving DecidableEq

/-- The nodes, and what has happened so far: the packets that have come from outside, the datagrams
that have been posted and those that have been accepted, and what the workers have put out. -/
structure Cluster where
  members : Finset Nat
  nodes : Nat → Node
  received : List Arrival := []
  posted : List Datagram := []
  accepted : List Datagram := []
  log : List Entry := []

namespace Cluster

/-- Send a packet through the tunnel, if the node that it is for can be reached. -/
def sendForward (mac : Mac) (cluster : Cluster) (nodeId : Nat) (carriage : Carriage)
    (kind : TunnelKind) (targetNodeId targetWorkerId sourceWorkerId : Nat) (payload : Bytes)
    (client : Address) : Cluster :=
  let node := cluster.nodes nodeId
  match node.tunnel with
  | none => cluster
  | some tunnel =>
      if carriage = .unavailable then cluster
      else
        let (datagram, tunnel) := tunnel.sendTo mac kind targetNodeId targetWorkerId sourceWorkerId
          payload client
        { cluster with
          nodes := Function.update cluster.nodes nodeId { node with tunnel := some tunnel }
          posted := cluster.posted ++
            if carriage = .posted then datagram.toList else [] }

/-- Hand a packet to another worker of the node; a packet that its queue does not take is lost. -/
def handOver (cluster : Cluster) (nodeId : Nat) (router : Option LocalPacketRouter) : Cluster :=
  match router with
  | none => cluster
  | some router =>
      { cluster with nodes :=
          Function.update cluster.nodes nodeId { cluster.nodes nodeId with router := router } }

def record (cluster : Cluster) (entry : Entry) : Cluster :=
  { cluster with log := cluster.log ++ [entry] }

/-- Do what a worker has put out. -/
def perform (mac : Mac) (nodeId workerId : Nat) (cluster : Cluster) (put : Output × Carriage) :
    Cluster :=
  let cluster := cluster.record ⟨nodeId, workerId, put.1⟩
  match put.1 with
  | .handoff target data source receivedTime =>
      cluster.handOver nodeId
        ((cluster.nodes nodeId).router.forward target data source receivedTime)
  | .sendRequest targetNode targetWorker sourceWorker data client =>
      cluster.sendForward mac nodeId put.2 .request targetNode targetWorker sourceWorker data client
  | .sendResponse targetNode targetWorker sourceWorker data client =>
      cluster.sendForward mac nodeId put.2 .response targetNode targetWorker sourceWorker data
        client
  | .incoming .. | .batch .. | .send .. => cluster

/-- What a driver does, and all that it puts out. -/
def drive (mac : Mac) (cluster : Cluster) (nodeId workerId : Nat) (carriage : Nat → Carriage)
    (event : Event) : Cluster :=
  let node := cluster.nodes nodeId
  let (outputs, driver) := (node.drivers workerId).react event
  let cluster := { cluster with
    nodes := Function.update cluster.nodes nodeId
      { node with drivers := Function.update node.drivers workerId driver } }
  (outputs.zipIdx.map fun put => (put.1, carriage put.2)).foldl (perform mac nodeId workerId) cluster

/-- A tunnel has judged a datagram. -/
def judge (cluster : Cluster) (nodeId : Nat) (tunnel : TunnelEnd) (datagram : Option Datagram) :
    Cluster :=
  { cluster with
    nodes := Function.update cluster.nodes nodeId
      { cluster.nodes nodeId with tunnel := some tunnel }
    accepted := cluster.accepted ++ datagram.toList }

/-- Hand what has come by the tunnel to the worker that it is for. -/
def deliver (cluster : Cluster) (nodeId : Nat) (datagram : Datagram) : Cluster :=
  cluster.handOver nodeId ((cluster.nodes nodeId).router.forwardTunnel datagram.targetWorkerId
    datagram.payload datagram.clientAddress {
      kind := datagram.kind
      sourceNodeId := datagram.sourceNodeId
      sourceWorkerId := datagram.sourceWorkerId })

inductive Move where
  | udp (nodeId workerId : Nat) (outside : Outside) (data : Bytes) (source : Address) (now : Nat)
      (carriage : Nat → Carriage)
  | handoff (nodeId workerId : Nat) (outside : Outside) (now : Nat)
  | flush (nodeId workerId : Nat) (data : Bytes) (segmentSize : Nat) (dest : Address) (now : Nat)
      (carriage : Nat → Carriage)
  | datagram (nodeId : Nat) (bytes : Bytes)

def Move.nodeId : Move → Nat
  | .udp nodeId .. | .handoff nodeId .. | .flush nodeId .. | .datagram nodeId _ => nodeId

def move (mac : Mac) (cluster : Cluster) : Move → Cluster
  | .udp nodeId workerId outside data source now carriage =>
      if (cluster.nodes nodeId).router.workerCount ≤ workerId then cluster
      else
        let cluster := { cluster with
          received := cluster.received ++ [Arrival.mk nodeId workerId data source] }
        cluster.drive mac nodeId workerId carriage (.udp outside data source now)
  | .handoff nodeId workerId outside now =>
      match (cluster.nodes nodeId).router.pop workerId with
      | none => cluster
      | some (packet, router) =>
          (cluster.handOver nodeId (some router)).drive mac nodeId workerId
            (fun _ => .unavailable) (.handoff outside packet now)
  | .flush nodeId workerId data segmentSize dest now carriage =>
      if (cluster.nodes nodeId).router.workerCount ≤ workerId then cluster
      else cluster.drive mac nodeId workerId carriage (.flush data segmentSize dest now)
  | .datagram nodeId bytes =>
      match (cluster.nodes nodeId).tunnel with
      | none => cluster
      | some tunnel =>
          match tunnel.receive mac bytes with
          | (none, tunnel) => cluster.judge nodeId tunnel none
          | (some datagram, tunnel) =>
              (cluster.judge nodeId tunnel (some datagram)).deliver nodeId datagram

/-- A step at a node that is not there changes nothing. -/
def step (mac : Mac) (cluster : Cluster) (event : Move) : Cluster :=
  if event.nodeId ∈ cluster.members then cluster.move mac event else cluster

/-- Nobody without a secret makes a right tag: what is decoded has been posted. -/
def Authentic (mac : Mac) (cluster : Cluster) : Move → Prop
  | .datagram nodeId bytes =>
      ∀ tunnel ∈ (cluster.nodes nodeId).tunnel,
        ∀ datagram ∈ (decodeWithFallback mac (bytes.take maxDatagramSize) tunnel.secret
          tunnel.previousSecret).toOption, datagram ∈ cluster.posted
  | _ => True

instance (mac : Mac) (cluster : Cluster) : ∀ event, Decidable (cluster.Authentic mac event)
  | .datagram .. => inferInstanceAs (Decidable (∀ tunnel ∈ _, ∀ datagram ∈ _, _))
  | .udp .. | .handoff .. | .flush .. => inferInstanceAs (Decidable True)

/-- A node that has just been set up. -/
structure Node.Starts (node : Node) (nodeId : Nat) : Prop where
  drivers : ∀ workerId, ∃ sender, ServerDriver.init nodeId workerId sender =
    some (node.drivers workerId)
  router : LocalPacketRouter.init node.router.workerCount node.router.capacity = some node.router
  tunnel : ∀ tunnel, node.tunnel = some tunnel → ∃ random secret previousSecret,
    TunnelEnd.init nodeId random secret previousSecret = some tunnel

/-- The nodes of the cluster have just been set up. -/
structure Starts (cluster : Cluster) : Prop where
  nodes : ∀ nodeId ∈ cluster.members, Node.Starts (cluster.nodes nodeId) nodeId
  absent : ∀ nodeId, nodeId ∉ cluster.members →
    (cluster.nodes nodeId).router.queues = fun _ => []
  received : cluster.received = []
  posted : cluster.posted = []
  accepted : cluster.accepted = []
  log : cluster.log = []

end Cluster

end LyuneGateway.Reactor
