import Mathlib.Data.Nat.Log
import LyuneGateway.Membership.Gossip

/-!
# The membership protocol

Every period a node pings one member, asks others to do so if there is no answer,
and suspects the member if there is still none. What it learns about a member it
tells on with its next messages. A member that is suspected refutes that with a
higher incarnation, or is taken for dead after a while. Time, random numbers, and
memory come from outside; messages wait in an outbox.
-/

namespace LyuneGateway.Membership

open Control (NodeStatus)

structure Params where
  protocolPeriodMs : Nat := 1000
  probeTimeoutMs : Nat := 500
  indirectProbes : Nat := 3
  suspicionMult : Nat := 4
  retransmitMult : Nat := 4
  maxPiggyback : Nat := 6
  lhmMaxMultiplier : Nat := 8
  syncIntervalMs : Nat := 30000
  suspicionConfirmations : Nat := 4

def Params.validate (params : Params) : Bool :=
  params.protocolPeriodMs ≠ 0 && params.probeTimeoutMs ≠ 0 &&
    params.probeTimeoutMs < params.protocolPeriodMs && params.suspicionMult ≠ 0 &&
    params.retransmitMult ≠ 0 && params.maxPiggyback ≠ 0 && params.maxPiggyback ≤ maxEvents &&
    params.lhmMaxMultiplier ≠ 0 && params.suspicionConfirmations ≠ 0 &&
    params.suspicionConfirmations ≤ 8

structure Config where
  nodeId : Nat
  address : Address
  maxNodes : Nat := 1024
  narrow : maxNodes < 2 ^ 16 := by decide
  secret : Bytes := []
  previousSecret : Bytes := []
  params : Params := {}

/-- A message that waits to be sent. -/
structure Outgoing where
  recipient : Address
  message : Message

structure IdentityConflict where
  nodeId : Nat
  expectedAddress : Address
  observedAddress : Address

/-- The member that is probed in the current period. -/
structure Probe where
  target : Nat
  seq : Nat
  directDeadline : Nat
  periodDeadline : Nat
  indirectSent : Bool := false

/-- A probe that another node asked for. -/
structure Relay where
  requesterAddress : Address
  target : Nat
  originalSeq : Nat
  relaySeq : Nat
  deadline : Nat

structure GossipEntry where
  event : Event
  transmitsLeft : Nat

structure Suspicion where
  startedAt : Nat
  deadline : Nat
  confirmations : Nat := 0
  sources : List Nat := []

structure SyncSession where
  peer : Nat
  nextId : Nat := 1
  deadline : Nat

def maxIndirectProbes : Nat := 8
def relayCapacity : Nat := 16
def replayCacheCapacity : Nat := 128
def maxSources : Nat := 8

/-- `random` gives the random numbers, `memory` says whether an allocation is granted; `notified`
has what the listener was told. -/
structure Swim where
  config : Config
  mac : Mac
  table : Table
  incarnation : Nat := 0
  hasLeft : Bool := false
  identityConflict : Option IdentityConflict := none
  seqCounter : Nat := 0
  outbox : List Outgoing := []
  gossipQueue : List GossipEntry := []
  probeOrder : List Nat := []
  probe : Option Probe := none
  relays : Nat → Option Relay := fun _ => none
  relayNext : Nat := 0
  suspicions : Nat → Option Suspicion := fun _ => none
  healthMultiplier : Nat := 1
  nextSyncAt : Nat
  sync : Option SyncSession := none
  replayCache : List (Nat × Bytes) := []
  nextPeriodAt : Nat := 0
  random : Nat → Nat
  drawn : Nat := 0
  memory : Nat → Bool
  allocations : Nat := 0
  notified : List Member := []

/-- A step of the protocol. -/
abbrev Act := Faulty Fault Swim

/-- The entry at a position goes, and the last one takes its place. -/
def swapRemove {α : Type} (items : List α) (index : Nat) : List α :=
  match items.getLast? with
  | none => []
  | some last => (items.set index last).dropLast

namespace Swim

open Faulty

def onTable {α : Type} (act : Faulty Fault Table α) : Act α :=
  zoom table (fun table swim => { swim with table := table }) act

def get (nodeId : Nat) : Act (Option Member) := read fun swim => swim.table.get nodeId

/-- Room for one more item, which may be refused. -/
def allocate : Act Unit := fun swim =>
  let granted := swim.memory swim.allocations
  let swim := { swim with allocations := swim.allocations + 1 }
  if granted then .done () swim else .failed swim

/-- A random number below a bound. -/
def roll (bound : Nat) : Act Nat := do
  require .range (0 < bound)
  let drawn ← read fun swim => swim.random swim.drawn
  modify fun swim => { swim with drawn := swim.drawn + 1 }
  pure (drawn % bound)

def add64 (a b : Nat) : Act Nat := do
  require .range (a + b < 2 ^ 64)
  pure (a + b)

def mul64 (a b : Nat) : Act Nat := do
  require .range (a * b < 2 ^ 64)
  pure (a * b)

/-! ## What is derived from the parameters -/

/-- The logarithm of a number of nodes, rounded up. -/
def logScaleOf (nodes : Nat) : Nat := max 1 (Nat.clog 2 nodes)

def logScale (swim : Swim) : Nat := logScaleOf (swim.table.activeCount + 1)

def scaledProbeTimeout : Act Nat := do
  let swim ← self
  mul64 swim.config.params.probeTimeoutMs swim.healthMultiplier

def scaledProtocolPeriod : Act Nat := do
  let swim ← self
  mul64 swim.config.params.protocolPeriodMs swim.healthMultiplier

def transmitLimit : Act Nat := do
  let swim ← self
  require .range (swim.config.params.retransmitMult * swim.logScale < 2 ^ 32)
  pure (swim.config.params.retransmitMult * swim.logScale)

def suspicionTimeout : Act Nat := do
  let swim ← self
  let scaled ← mul64 swim.config.params.suspicionMult swim.logScale
  let time ← mul64 scaled swim.config.params.protocolPeriodMs
  mul64 time swim.healthMultiplier

def selfEvent (swim : Swim) (status : NodeStatus) : Event where
  nodeId := swim.config.nodeId
  status := status
  incarnation := swim.incarnation
  address := swim.config.address

def currentSelfEvent (swim : Swim) : Event :=
  swim.selfEvent (if swim.hasLeft then .left else .alive)

def penalizeHealth : Act Unit :=
  modify fun swim =>
    if swim.healthMultiplier < swim.config.params.lhmMaxMultiplier then
      { swim with healthMultiplier := swim.healthMultiplier + 1 }
    else swim

def recoverHealth : Act Unit :=
  modify fun swim =>
    if 1 < swim.healthMultiplier then { swim with healthMultiplier := swim.healthMultiplier - 1 }
    else swim

def notifyListener (member : Member) : Act Unit :=
  modify fun swim => { swim with notified := swim.notified ++ [member] }

/-! ## The queue of events to tell on, and sending -/

/-- An event takes the place of the older one about the same node. -/
def enqueue (entry : GossipEntry) : List GossipEntry → List GossipEntry
  | [] => [entry]
  | other :: queue =>
      if other.event.nodeId = entry.event.nodeId then entry :: queue
      else other :: enqueue entry queue

def queueGossip (event : Event) : Act Unit := do
  let transmits ← transmitLimit
  let queue ← read gossipQueue
  when (queue.all fun entry => entry.event.nodeId ≠ event.nodeId) allocate
  modify fun swim => { swim with
    gossipQueue := enqueue { event := event, transmitsLeft := transmits } swim.gossipQueue }

/-- The first of the entries with the most transmits left that have not been picked. -/
def best (queue : List GossipEntry) (picked : List Nat) : Option Nat :=
  ((List.range queue.length).filter fun index => index ∉ picked).foldl
    (fun best index =>
      match best with
      | none => some index
      | some found =>
          if (queue[found]?.map GossipEntry.transmitsLeft).getD 0 <
              (queue[index]?.map GossipEntry.transmitsLeft).getD 0 then some index
          else some found) none

def spend (queue : List GossipEntry) (index : Nat) : List GossipEntry :=
  queue.modify index fun entry => { entry with transmitsLeft := entry.transmitsLeft - 1 }

/-- Pick events, and take one transmit from each. -/
def pick : Nat → List Nat → Act (List Event)
  | 0, _ => pure []
  | want + 1, picked => do
      let queue ← read gossipQueue
      match best queue picked with
      | none => pure []
      | some index =>
          match queue[index]? with
          | none => pure []
          | some entry =>
              require .range (0 < entry.transmitsLeft)
              modify fun swim => { swim with gossipQueue := spend swim.gossipQueue index }
              let events ← pick want (picked ++ [index])
              pure (entry.event :: events)

/-- Remove the entries without transmits left, from a position downwards. -/
def discard : Nat → List GossipEntry → List GossipEntry
  | 0, queue => queue
  | index + 1, queue =>
      discard index
        (if queue[index]?.any fun entry => entry.transmitsLeft = 0 then swapRemove queue index
        else queue)

def pickPiggyback : Act (List Event) := do
  let swim ← self
  let events ← pick (min swim.config.params.maxPiggyback swim.gossipQueue.length) []
  modify fun swim => { swim with
    gossipQueue := discard swim.gossipQueue.length swim.gossipQueue }
  pure events

def post (recipient : Address) (message : Message) : Act Unit := do
  allocate
  modify fun swim => { swim with outbox := swim.outbox ++ [{ recipient := recipient, message := message }] }

/-- Send a message, and events with it. -/
def send (type : MessageType) (sender seq target : Nat) (recipient : Address) : Act Unit := do
  let events ← pickPiggyback
  post recipient { type := type, sender := sender, seq := seq, target := target, events := events }

/-- The next number of a probe, which may start over. -/
def nextSeq : Act Nat := do
  modify fun swim => { swim with seqCounter := (swim.seqCounter + 1) % 2 ^ 32 }
  read seqCounter

def sendBuddyNotification (member : Member) : Act Unit := do
  let swim ← self
  post member.address {
    type := .ping
    sender := swim.config.nodeId
    seq := 0
    target := member.nodeId
    events := [{
      nodeId := member.nodeId
      status := .suspect
      incarnation := member.incarnation
      address := member.address }] }

def sendSyncRequest (recipient : Address) (cursor : Nat) : Act Unit := do
  let own ← read currentSelfEvent
  let seq ← nextSeq
  let swim ← self
  post recipient {
    type := .sync
    sender := swim.config.nodeId
    seq := seq
    target := cursor
    flags := syncRequestFlag
    events := [own] }

/-! ## Merging -/

/-- What has been learned about the node itself. -/
def handleSelfEvent (event : Event) : Act Unit := do
  let swim ← self
  if swim.hasLeft then pure ()
  else
    when (event.status ≠ .alive) penalizeHealth
    when (if event.status = .alive then swim.incarnation < event.incarnation
        else swim.incarnation ≤ event.incarnation) do
      require .range (event.incarnation + 1 < 2 ^ 32)
      modify fun swim => { swim with incarnation := event.incarnation + 1 }
      let swim ← self
      queueGossip (swim.selfEvent .alive)

/-- One more source for a suspicion; the more there are, the sooner it is decided. -/
def confirmSuspicion (now nodeId source : Nat) : Act Unit := do
  let suspicions ← read suspicions
  match suspicions nodeId with
  | none => trap .absent
  | some suspicion =>
      if source ∈ suspicion.sources then pure ()
      else
        let swim ← self
        let sources :=
          if suspicion.sources.length < maxSources then suspicion.sources ++ [source]
          else suspicion.sources
        let confirmations :=
          if suspicion.confirmations < swim.config.params.suspicionConfirmations then
            suspicion.confirmations + 1
          else suspicion.confirmations
        let total ← suspicionTimeout
        require .range (0 < confirmations)
        let limit ← add64 now (max 1 (total / confirmations))
        modify fun swim => { swim with
          suspicions := Function.update swim.suspicions nodeId (some { suspicion with
            sources := sources
            confirmations := confirmations
            deadline := min suspicion.deadline limit }) }

/-- Whether an event is news about a member. -/
def accepts (current : Option Member) (event : Event) : Bool :=
  match event.status, current with
  | .alive, none => true
  | .alive, some member => member.incarnation < event.incarnation
  | .suspect, none => true
  | .suspect, some member =>
      member.incarnation < event.incarnation ||
        event.incarnation = member.incarnation && member.status = .alive
  | .dead, none | .left, none => false
  | .dead, some member | .left, some member =>
      member.status ≠ event.status && member.incarnation ≤ event.incarnation

/-- Two nodes claim the same id. -/
def noteIdentityConflict (nodeId : Nat) (expected observed : Address) : Act Bool := do
  if expected = observed then pure false
  else
    modify fun swim =>
      if swim.identityConflict.isNone then
        { swim with identityConflict := some {
          nodeId := nodeId
          expectedAddress := expected
          observedAddress := observed } }
      else swim
    pure true

/-- The suspicion of a member begins and ends with its status. -/
def trackSuspicion (now nodeId : Nat) (status : NodeStatus) (source : Nat) : Act Unit := do
  if status = .suspect then
    let suspicions ← read suspicions
    when ((suspicions nodeId).isNone = true) do
      let timeout ← suspicionTimeout
      let deadline ← add64 now timeout
      modify fun swim => { swim with
        suspicions := Function.update swim.suspicions nodeId
          (some { startedAt := now, deadline := deadline }) }
    confirmSuspicion now nodeId source
  else
    modify fun swim => { swim with suspicions := Function.update swim.suspicions nodeId none }

/-- Take over an event that is news about a member. -/
def adopt (now : Nat) (current : Option Member) (event : Event) (source : Option Nat) :
    Act Unit := do
  let member : Member := {
    nodeId := event.nodeId
    address := (current.map Member.address).getD event.address
    status := event.status
    incarnation := event.incarnation }
  let _ ← onTable (Table.upsert member)
  let own ← read fun swim => swim.config.nodeId
  trackSuspicion now event.nodeId event.status (source.getD own)
  queueGossip { event with address := member.address }
  notifyListener member

/-- An event that is no news may still confirm a suspicion. -/
def confirmFrom (now : Nat) (current : Option Member) (event : Event) (source : Option Nat) :
    Act Unit :=
  match source, current with
  | some source, some member =>
      when (event.status = .suspect ∧ member.status = .suspect ∧
          member.incarnation = event.incarnation)
        (confirmSuspicion now event.nodeId source)
  | _, _ => pure ()

/-- The event is about another node, and names another address for it than is known. -/
def contradicts (current : Option Member) (event : Event) : Act Bool :=
  match current with
  | none => pure false
  | some member => noteIdentityConflict event.nodeId member.address event.address

def applyEventFrom (now : Nat) (event : Event) (source : Option Nat) : Act Unit := do
  let swim ← self
  if event.nodeId = swim.config.nodeId then
    let conflict ← noteIdentityConflict event.nodeId swim.config.address event.address
    if conflict then pure () else handleSelfEvent event
  else if event.nodeId = 0 ∨ swim.config.maxNodes ≤ event.nodeId then pure ()
  else
    let current ← get event.nodeId
    let conflict ← contradicts current event
    if conflict then pure ()
    else if accepts current event then adopt now current event source
    else confirmFrom now current event source

def applyEvent (now : Nat) (event : Event) : Act Unit := applyEventFrom now event none

/-- What the node itself says about a member. -/
def assert (now : Nat) (member : Member) (status : NodeStatus) : Act Unit :=
  applyEvent now {
    nodeId := member.nodeId
    status := status
    incarnation := member.incarnation
    address := member.address }

/-! ## Time -/

/-- Members whose suspicion has run out are dead. -/
def expireSuspicion (now nodeId : Nat) : Act Unit := do
  let suspicions ← read suspicions
  match suspicions nodeId with
  | none => pure ()
  | some suspicion =>
      if now < suspicion.deadline then pure ()
      else
        modify fun swim => { swim with
          suspicions := Function.update swim.suspicions nodeId none }
        match ← get nodeId with
        | none => pure ()
        | some member => when (member.status = .suspect) (assert now member .dead)

def expireSuspicions (now : Nat) : Act Unit := do
  let swim ← self
  each (expireSuspicion now) (List.range swim.config.maxNodes)

/-- Choose helpers out of the active members, each of them with the same chance. -/
def sample (room : Nat) : List Member → List Member → Nat → Act (List Member)
  | [], chosen, _ => pure chosen
  | member :: members, chosen, seen =>
      if chosen.length < room then sample room members (chosen ++ [member]) (seen + 1)
      else do
        let place ← roll (seen + 1)
        sample room members (if place < room then chosen.set place member else chosen) (seen + 1)

def sendIndirectProbes (target seq : Nat) : Act Unit := do
  let swim ← self
  let helpers := swim.table.members.filter fun member =>
    member.nodeId ≠ target && Active member.status
  let chosen ← sample swim.config.params.indirectProbes helpers [] 0
  each (fun helper => send .pingReq swim.config.nodeId seq target helper.address) chosen

def driveProbe (now : Nat) : Act Unit := do
  match ← read probe with
  | none => pure ()
  | some probe =>
      when (probe.indirectSent = false ∧ probe.directDeadline ≤ now) do
        modify fun swim => { swim with probe := some { probe with indirectSent := true } }
        sendIndirectProbes probe.target probe.seq
      when (probe.periodDeadline ≤ now) do
        modify fun swim => { swim with probe := none }
        penalizeHealth
        match ← get probe.target with
        | none => pure ()
        | some member =>
            when (member.status = .alive) do
              assert now member .suspect
              sendBuddyNotification member

/-- Put a list into random order. -/
def shuffle : Nat → List Nat → Act (List Nat)
  | 0, items => pure items
  | _ + 1, [] => pure []
  | fuel + 1, first :: rest => do
      let place ← roll (rest.length + 1)
      let items := first :: rest
      let others ← shuffle fuel ((items.set place first).drop 1)
      pure (items.getD place first :: others)

def appendOrder (nodeId : Nat) : Act Unit := do
  allocate
  modify fun swim => { swim with probeOrder := swim.probeOrder ++ [nodeId] }

def rebuildProbeOrder : Act Unit := do
  modify fun swim => { swim with probeOrder := [] }
  let swim ← self
  each appendOrder
    ((swim.table.members.filter fun member => Active member.status).map Member.nodeId)
  let order ← read probeOrder
  let shuffled ← shuffle order.length order
  modify fun swim => { swim with probeOrder := shuffled }

/-- The next active member of the order, and what comes after it. -/
def nextActive (table : Table) : List Nat → Option (Member × List Nat)
  | [] => none
  | nodeId :: order =>
      match table.get nodeId with
      | none => nextActive table order
      | some member =>
          if Active member.status then some (member, order) else nextActive table order

/-- The next member to probe; the order is made anew when it is used up. -/
def nextProbeTarget : Nat → Act (Option Member)
  | 0 => pure none
  | rounds + 1 => do
      let swim ← self
      match nextActive swim.table swim.probeOrder with
      | some (member, order) =>
          modify fun swim => { swim with probeOrder := order }
          pure (some member)
      | none =>
          rebuildProbeOrder
          let order ← read probeOrder
          if order = [] then pure none else nextProbeTarget rounds

def startProbe (now : Nat) : Act Unit := do
  match ← nextProbeTarget 2 with
  | none => pure ()
  | some member =>
      let seq ← nextSeq
      let directDeadline ← add64 now (← scaledProbeTimeout)
      let periodDeadline ← add64 now (← scaledProtocolPeriod)
      modify fun swim => { swim with
        probe := some {
          target := member.nodeId
          seq := seq
          directDeadline := directDeadline
          periodDeadline := periodDeadline } }
      let swim ← self
      send .ping swim.config.nodeId seq 0 member.address

/-- One of the members that have not left, each of them with the same chance. -/
def choosePeer : List Member → Option Member → Nat → Act (Option Member)
  | [], chosen, _ => pure chosen
  | member :: members, chosen, seen => do
      let place ← roll (seen + 1)
      choosePeer members (if place = 0 then some member else chosen) (seen + 1)

def randomSyncPeer : Act (Option Member) := do
  let swim ← self
  choosePeer (swim.table.members.filter fun member => member.status ≠ .left) none 0

def startSync (now : Nat) : Act Unit := do
  match ← randomSyncPeer with
  | none => pure ()
  | some peer =>
      let deadline ← add64 now (← scaledProtocolPeriod)
      modify fun swim => { swim with
        sync := some { peer := peer.nodeId, deadline := deadline } }
      let swim ← self
      let next ← add64 now swim.config.params.syncIntervalMs
      modify fun swim => { swim with nextSyncAt := next }
      sendSyncRequest peer.address 1

def driveAntiEntropy (now : Nat) : Act Unit := do
  let swim ← self
  if swim.config.params.syncIntervalMs = 0 then pure ()
  else if swim.sync.any fun session => now < session.deadline then pure ()
  else
    modify fun swim => { swim with sync := none }
    if now < swim.nextSyncAt then pure () else startSync now

def tick (now : Nat) : Act Unit := do
  expireSuspicions now
  driveProbe now
  driveAntiEntropy now
  let swim ← self
  when (swim.probe.isNone = true ∧ swim.nextPeriodAt ≤ now) do
    let next ← add64 now (← scaledProtocolPeriod)
    modify fun swim => { swim with nextPeriodAt := next }
    startProbe now

/-! ## Messages -/

/-- A tag that has been seen lately is not accepted again. -/
def acceptReplay (sender : Nat) (tag : Bytes) : Act Bool := do
  let cache ← read replayCache
  if (sender, tag) ∈ cache then pure false
  else
    modify fun swim => { swim with
      replayCache := (cache ++ [(sender, tag)]).drop (cache.length + 1 - replayCacheCapacity) }
    pure true

/-- The first empty place from the next one on, else the first one whose time is over, else the
next one. -/
def relaySlot (relays : Nat → Option Relay) (start now : Nat) : Nat :=
  let places := (List.range relayCapacity).map fun offset => (start + offset) % relayCapacity
  (places.find? fun place => (relays place).isNone).getD
    ((places.find? fun place => (relays place).any fun relay => relay.deadline < now).getD start)

def handlePingReq (now : Nat) (source : Address) (message : Message) : Act Unit := do
  match ← get message.target with
  | none => pure ()
  | some target =>
      let seq ← nextSeq
      let swim ← self
      let place := relaySlot swim.relays swim.relayNext now
      let deadline ← add64 now swim.config.params.probeTimeoutMs
      modify fun swim => { swim with
        relayNext := (place + 1) % relayCapacity
        relays := Function.update swim.relays place (some {
          requesterAddress := source
          target := message.target
          originalSeq := message.seq
          relaySeq := seq
          deadline := deadline }) }
      send .ping swim.config.nodeId seq 0 target.address

/-- The relay that an acknowledgement is meant for. -/
def findRelay (relays : Nat → Option Relay) (message : Message) : Option (Nat × Relay) :=
  (List.range relayCapacity).findSome? fun place =>
    (relays place).bind fun relay =>
      if relay.relaySeq = message.seq ∧ relay.target = message.sender then some (place, relay)
      else none

def handleAck (now : Nat) (message : Message) : Act Unit := do
  let swim ← self
  if swim.probe.any fun probe => probe.seq = message.seq ∧ probe.target = message.sender then
    modify fun swim => { swim with probe := none }
    recoverHealth
  else
    match findRelay swim.relays message with
    | none => pure ()
    | some (place, relay) =>
        modify fun swim => { swim with relays := Function.update swim.relays place none }
        if relay.deadline < now then pure ()
        else send .ack message.sender relay.originalSeq 0 relay.requesterAddress

/-- The events of one part of the whole view, and where the next part begins. -/
def syncChunk : Nat → Nat → List Event → Act (List Event × Nat)
  | 0, cursor, events => pure (events, cursor)
  | fuel + 1, cursor, events => do
      let swim ← self
      if cursor < swim.config.maxNodes ∧ events.length < maxEvents then
        let events := match swim.table.get cursor with
          | none => events
          | some member => events ++ [{
              nodeId := member.nodeId
              status := member.status
              incarnation := member.incarnation
              address := member.address }]
        require .range (cursor + 1 < 2 ^ 16)
        syncChunk fuel (cursor + 1) events
      else pure (events, cursor)

def answerSync (source : Address) (message : Message) : Act Unit := do
  let swim ← self
  let (events, cursor) ←
    syncChunk (swim.config.maxNodes + 1) message.target [swim.currentSelfEvent]
  post source {
    type := .sync
    sender := swim.config.nodeId
    seq := message.seq
    target := cursor
    flags := if cursor < swim.config.maxNodes then syncMoreFlag else 0
    events := events }

/-- A part of the view of another node, after which the next one is asked for. -/
def continueSync (now : Nat) (source : Address) (message : Message) (session : SyncSession) :
    Act Unit := do
  let session := if session.peer = 0 then { session with peer := message.sender } else session
  let deadline ← add64 now (← scaledProtocolPeriod)
  if message.flags / syncMoreFlag % 2 = 1 then
    modify fun swim => { swim with
      sync := some { session with deadline := deadline, nextId := message.target } }
    sendSyncRequest source message.target
  else modify fun swim => { swim with sync := none }

def handleSync (now : Nat) (source : Address) (message : Message) : Act Unit := do
  if message.flags % 2 = 1 then answerSync source message
  else
    match ← read sync with
    | none => pure ()
    | some session =>
        if session.peer ≠ 0 ∧ message.sender ≠ session.peer then pure ()
        else continueSync now source message session

/-- What is left of a message that is well-formed, authenticated, and new. -/
def receive (bytes : Bytes) : Act (Option Message) := do
  let swim ← self
  if swim.config.secret = [] then
    match decode bytes with
    | .error _ => pure none
    | .ok message => pure (some message)
  else
    match decodeAuthenticatedWithFallback swim.mac bytes swim.config.secret
        swim.config.previousSecret with
    | .error _ => pure none
    | .ok message =>
        if ← acceptReplay message.sender (bytes.drop (bytes.length - authTagSize)) then
          pure (some message)
        else pure none

/-- The message comes from the node itself, or from a node that has another address. -/
def misplaced (swim : Swim) (source : Address) (message : Message) : Prop :=
  message.sender = swim.config.nodeId ∨ message.type ≠ .ack ∧
    (swim.table.get message.sender).any (fun member => member.address ≠ source) = true

instance (swim : Swim) (source : Address) (message : Message) :
    Decidable (swim.misplaced source message) := inferInstanceAs (Decidable (_ ∨ _))

def answer (now : Nat) (source : Address) (message : Message) : Act Unit := do
  let swim ← self
  match message.type with
  | .ping => send .ack swim.config.nodeId message.seq 0 source
  | .pingReq => handlePingReq now source message
  | .ack => handleAck now message
  | .sync => handleSync now source message

def handleMessage (now : Nat) (source : Address) (bytes : Bytes) : Act Unit := do
  match ← receive bytes with
  | none => pure ()
  | some message =>
      let swim ← self
      if swim.misplaced source message then pure ()
      else
        each (fun event => applyEventFrom now event (some message.sender)) message.events
        answer now source message

/-! ## Commands -/

def addPeer (nodeId : Nat) (address : Address) : Act Unit := do
  let swim ← self
  if nodeId = swim.config.nodeId then fail
  else
    let member : Member := {
      nodeId := nodeId
      address := address
      status := .alive
      incarnation := 0 }
    let _ ← onTable (Table.upsert member)
    notifyListener member

def joinSeed (address : Address) : Act Unit := do
  let deadline ← scaledProtocolPeriod
  modify fun swim => { swim with sync := some { peer := 0, deadline := deadline } }
  sendSyncRequest address 1

/-- Tell all members that the node leaves; the incarnation may start over. -/
def leave : Act Unit := do
  let swim ← self
  if swim.hasLeft then pure ()
  else
    modify fun swim => { swim with
      hasLeft := true
      incarnation := (swim.incarnation + 1) % 2 ^ 32 }
    let swim ← self
    queueGossip (swim.selfEvent .left)
    each (fun member => send .ack swim.config.nodeId 0 0 member.address)
      (swim.table.members.filter fun member => member.status ≠ .left)

/-- The transport has taken what was to be sent. -/
def clearOutgoing : Act Unit := modify fun swim => { swim with outbox := [] }

/-- A node that has not done anything yet; none if it is not set up properly. -/
def init (config : Config) (mac : Mac) (random : Nat → Nat) (memory : Nat → Bool) : Option Swim :=
  if config.params.validate = false ∨ config.nodeId = 0 ∨ config.maxNodes ≤ config.nodeId ∨
      maxIndirectProbes < config.params.indirectProbes then none
  else
    let swim : Swim := {
      config := config
      mac := mac
      table := { capacity := config.maxNodes }
      nextSyncAt := config.params.syncIntervalMs
      random := random
      memory := memory }
    match queueGossip (swim.selfEvent .alive) swim with
    | .done _ swim => some swim
    | _ => none

/-- The node before it has said that it is alive. -/
def blank (config : Config) (mac : Mac) (random : Nat → Nat) (memory : Nat → Bool) : Swim where
  config := config
  mac := mac
  table := { capacity := config.maxNodes }
  nextSyncAt := config.params.syncIntervalMs
  random := random
  memory := memory

theorem init_eq_some {config : Config} {mac : Mac} {random : Nat → Nat} {memory : Nat → Bool}
    {swim : Swim} : init config mac random memory = some swim ↔
      (config.params.validate = true ∧ config.nodeId ≠ 0 ∧ config.nodeId < config.maxNodes ∧
        config.params.indirectProbes ≤ maxIndirectProbes) ∧
      ∃ value, queueGossip ((blank config mac random memory).selfEvent .alive)
        (blank config mac random memory) = .done value swim := by
  unfold init
  split
  · rename_i wrong
    refine iff_of_false (fun starts => by cases starts) ?_
    rintro ⟨⟨valid, named, below, few⟩, -⟩
    simp [valid, named, not_le.mpr below, not_lt.mpr few] at wrong
  · rename_i proper
    simp only [not_or, Bool.not_eq_false, not_le, not_lt] at proper
    simp only [blank, ne_eq, proper, not_false_eq_true, and_self, true_and]
    split <;> rename_i queued
    · simp [queued]
    · refine iff_of_false (fun starts => by cases starts) ?_
      rintro ⟨value, done⟩
      exact queued value swim done

end Swim

end LyuneGateway.Membership
