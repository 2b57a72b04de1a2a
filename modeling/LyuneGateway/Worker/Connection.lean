import LyuneGateway.Protocol.Body
import LyuneGateway.Worker.Inflight

/-!
# Client connections of a worker

Connections live in slots that are reused. Two indexes tell who can be addressed:
the destination index lists the connections bound to a destination, the group
edges list the members of a group. Both are searched newest first. The channels
a connection has bound are kept with the connection itself.
-/

namespace LyuneGateway.Worker

open Foundation Protocol Session

/-- A route within a realm. -/
structure ScopedRoute where
  realm : RealmId
  route : RouteId
  deriving DecidableEq, Repr

structure BackendStream where
  key : StreamKey
  scope : ScopedRoute
  deriving DecidableEq, Repr

/-- What a client stream is connected to: a backend stream, a push session of a peer node, or
nothing any more. -/
structure InboundExchange where
  backend : Option BackendStream := none
  pushSession : Nat := 0
  responseMode : ResponseMode := .required
  inputComplete : Bool := false
  deriving DecidableEq, Repr

/-- The name of a connection that backends use, sixteen bytes on the wire. -/
structure ConnToken where
  generation : Nat
  slot : Nat
  workerId : Nat
  nodeId : Nat
  incarnation : Nat
  deriving DecidableEq, Repr

namespace ConnToken

def encode (token : ConnToken) : Nat :=
  token.generation + token.slot * 2 ^ 16 + token.workerId * 2 ^ 40 + token.nodeId * 2 ^ 48 +
    token.incarnation * 2 ^ 64

def decode (raw : Nat) : ConnToken where
  generation := raw % 2 ^ 16
  slot := raw / 2 ^ 16 % 2 ^ 24
  workerId := raw / 2 ^ 40 % 2 ^ 8
  nodeId := raw / 2 ^ 48 % 2 ^ 16
  incarnation := raw / 2 ^ 64 % 2 ^ 64

end ConnToken

/-- One client connection. `revoked` records that its admission was revoked and not granted
again. -/
structure ConnectionContext where
  sessionHandle : SessionHandle
  transport : TransportSession
  realm : RealmId
  authenticated : Bool := false
  peerNode : Bool := false
  destId : Nat := 0
  authExpiresAt : Nat := 0
  channels : List Nat := List.replicate maxChannels 0
  connectedAt : Nat
  lifecycleSequence : Nat := 0
  lifecycleRefreshedAt : Nat := 0
  frameSpills : Table Nat Bytes := ∅
  inboundExchanges : Table Nat InboundExchange := ∅
  closeRequested : Bool := false
  offlineReason : Option SessionReason := none
  revoked : Bool := false

namespace ConnectionContext

def isAdmitted (ctx : ConnectionContext) (now : Nat) : Bool :=
  ctx.authenticated && (ctx.authExpiresAt = 0 || now < ctx.authExpiresAt)

/-- The group that a channel is bound to; zero stands for none. -/
def channelGroup (ctx : ConnectionContext) (channel : Nat) : Option Nat :=
  if ctx.channels.length ≤ channel then none
  else if ctx.channels.getD channel 0 = 0 then none
  else some (ctx.channels.getD channel 0)

/-- The first channel that is bound to a group. -/
def channelFor (ctx : ConnectionContext) (groupId : Nat) : Option Nat :=
  if groupId = 0 then none else ctx.channels.findIdx? fun bound => bound = groupId

def bindChannel (ctx : ConnectionContext) (channel groupId : Nat) : ConnectionContext :=
  { ctx with channels := ctx.channels.set channel groupId }

def unbindChannel (ctx : ConnectionContext) (channel : Nat) : ConnectionContext :=
  { ctx with channels := ctx.channels.set channel 0 }

def clearChannels (ctx : ConnectionContext) : ConnectionContext :=
  { ctx with channels := ctx.channels.map fun _ => 0 }

def setDest (ctx : ConnectionContext) (destId : Nat) : ConnectionContext :=
  { ctx with destId := destId }

def storeFrameSpill (ctx : ConnectionContext) (streamId : Nat) (spill : Bytes) :
    ConnectionContext :=
  { ctx with frameSpills := ctx.frameSpills.insert streamId spill }

def dropFrameSpill (ctx : ConnectionContext) (streamId : Nat) : ConnectionContext :=
  { ctx with frameSpills := ctx.frameSpills.erase streamId }

def registerInboundExchange (ctx : ConnectionContext) (streamId : Nat) (entry : InboundExchange) :
    ConnectionContext :=
  { ctx with inboundExchanges := ctx.inboundExchanges.insert streamId entry }

def removeInboundExchange (ctx : ConnectionContext) (streamId : Nat) : ConnectionContext :=
  { ctx with inboundExchanges := ctx.inboundExchanges.erase streamId }

def reserveStream (ctx : ConnectionContext) : ConnectionContext :=
  { ctx with transport := ctx.transport.reserveOutboundExchange }

end ConnectionContext

/-- One link of a destination's chain. -/
structure DestEntry where
  realm : RealmId
  destId : Nat
  slot : Nat
  deriving DecidableEq, Repr

/-- The membership of one connection in one group. -/
structure Edge where
  realm : RealmId
  groupId : Nat
  slot : Nat
  deriving DecidableEq, Repr

inductive ConnectionError where
  | tooManyConnections
  | realmQuotaExceeded
  | tooManyGroupMemberships
  deriving DecidableEq, Repr

def maxGroupsPerConnection : Nat := 8

structure Slot where
  ctx : Option ConnectionContext := none
  generation : Nat := 0

/-- The connections of a worker. A slot is in use when it holds a context; `free` lists the
others in the order they will be taken. -/
structure ConnectionManager where
  nodeId : Nat
  workerId : Nat
  incarnation : Nat
  capacity : Nat
  slots : Nat → Slot
  free : List Nat
  destIndex : List DestEntry
  edges : List Edge
  connQuota : Quota
  groupQuota : Quota

namespace ConnectionManager

def init (maxConnections nodeId workerId incarnation : Nat) : ConnectionManager where
  nodeId := nodeId
  workerId := workerId
  incarnation := incarnation
  capacity := max maxConnections 1
  slots := fun _ => {}
  free := List.range (max maxConnections 1)
  destIndex := []
  edges := []
  connQuota := Quota.init maxTrackedRealms (max maxConnections 1) defaultWatermarkPercent
  groupQuota := Quota.init maxTrackedRealms (max maxConnections 1 * maxGroupsPerConnection)
    defaultWatermarkPercent

def edgeCapacity (manager : ConnectionManager) : Nat := manager.capacity * maxGroupsPerConnection

/-- The context in a slot that is in use. -/
def context (manager : ConnectionManager) (slot : Nat) : Option ConnectionContext :=
  (manager.slots slot).ctx

def modify (manager : ConnectionManager) (slot : Nat)
    (change : ConnectionContext → ConnectionContext) : ConnectionManager :=
  { manager with
    slots := Function.update manager.slots slot
      { manager.slots slot with ctx := (manager.slots slot).ctx.map change } }

def slotFor (manager : ConnectionManager) (handle : SessionHandle) : Option Nat :=
  if manager.capacity ≤ handle.slot then none
  else if (manager.context handle.slot).isNone then none
  else if (manager.slots handle.slot).generation ≠ handle.generation then none
  else some handle.slot

def getByHandle (manager : ConnectionManager) (handle : SessionHandle) :
    Option ConnectionContext :=
  (manager.slotFor handle).bind manager.context

/-- Take a slot for a new connection. Its generation outdates earlier handles of the slot. -/
def addSession (manager : ConnectionManager) (transport : TransportSession) (realm : RealmId)
    (peerNode : Bool) (now : Nat) : Except ConnectionError (SessionHandle × ConnectionManager) :=
  match manager.free with
  | [] => .error .tooManyConnections
  | slot :: free =>
      if manager.connQuota.allows realm = false then .error .realmQuotaExceeded
      else
        let generation := ((manager.slots slot).generation + 1) % 2 ^ 16
        let handle : SessionHandle := { slot := slot, generation := generation }
        .ok (handle, { manager with
          free := free
          slots := Function.update manager.slots slot {
            ctx := some {
              sessionHandle := handle
              transport := transport
              realm := realm
              peerNode := peerNode
              connectedAt := now }
            generation := generation }
          connQuota := manager.connQuota.acquire realm })

/-- Take a connection out of the chain of its destination. -/
def unbindDest (manager : ConnectionManager) (slot : Nat) : ConnectionManager :=
  match manager.context slot with
  | none => manager
  | some ctx =>
      if ctx.destId = 0 then manager
      else { manager.modify slot fun ctx => ctx.setDest 0 with
        destIndex := manager.destIndex.erase {
          realm := ctx.realm
          destId := ctx.destId
          slot := slot } }

/-- Bind a connection to a destination; zero makes it unaddressable. -/
def bindDest (manager : ConnectionManager) (handle : SessionHandle) (destId : Nat) :
    ConnectionManager :=
  match manager.slotFor handle with
  | none => manager
  | some slot =>
      match manager.context slot with
      | none => manager
      | some ctx =>
          if ctx.destId = destId then manager
          else
            let bound := (manager.unbindDest slot).modify slot fun ctx => ctx.setDest destId
            if destId = 0 then bound
            else { bound with
              destIndex := { realm := ctx.realm, destId := destId, slot := slot } ::
                bound.destIndex }

/-- The slots of the connections bound to a destination, the last bound first. -/
def destConnections (manager : ConnectionManager) (realm : RealmId) (destId : Nat) : List Nat :=
  if destId = 0 then []
  else (manager.destIndex.filter fun entry =>
    entry.realm = realm && entry.destId = destId).map DestEntry.slot

def isGroupMember (manager : ConnectionManager) (handle : SessionHandle) (groupId : Nat) : Bool :=
  if groupId = 0 then false
  else
    match manager.slotFor handle with
    | none => false
    | some slot =>
        (manager.context slot).any fun ctx =>
          decide ({ realm := ctx.realm, groupId := groupId, slot := slot } ∈ manager.edges)

def joinGroup (manager : ConnectionManager) (handle : SessionHandle) (groupId : Nat) :
    Except ConnectionError ConnectionManager :=
  if groupId = 0 then .ok manager
  else
    match manager.getByHandle handle with
    | none => .ok manager
    | some ctx =>
        if manager.isGroupMember handle groupId then .ok manager
        else if manager.edgeCapacity ≤ manager.edges.length then .error .tooManyGroupMemberships
        else if manager.groupQuota.allows ctx.realm = false then .error .realmQuotaExceeded
        else .ok { manager with
          edges := { realm := ctx.realm, groupId := groupId, slot := handle.slot } :: manager.edges
          groupQuota := manager.groupQuota.acquire ctx.realm }

def leaveGroup (manager : ConnectionManager) (handle : SessionHandle) (groupId : Nat) :
    ConnectionManager :=
  match manager.getByHandle handle with
  | none => manager
  | some ctx =>
      if { realm := ctx.realm, groupId := groupId, slot := handle.slot } ∈ manager.edges then
        { manager with
          edges := manager.edges.erase {
            realm := ctx.realm
            groupId := groupId
            slot := handle.slot }
          groupQuota := manager.groupQuota.release ctx.realm }
      else manager

def leaveAllGroups (manager : ConnectionManager) (slot : Nat) : ConnectionManager :=
  { manager with
    edges := manager.edges.filter fun edge => edge.slot ≠ slot
    groupQuota := (manager.edges.filter fun edge => edge.slot = slot).foldl
      (fun quota edge => quota.release edge.realm) manager.groupQuota }

/-- The slots of the members of a group, the last to join first. -/
def groupConnections (manager : ConnectionManager) (realm : RealmId) (groupId : Nat) : List Nat :=
  if groupId = 0 then []
  else (manager.edges.filter fun edge =>
    edge.realm = realm && edge.groupId = groupId).map Edge.slot

/-- Give a connection's slot back, out of every index. -/
def releaseSlot (manager : ConnectionManager) (slot : Nat) : ConnectionManager :=
  match manager.context slot with
  | none => manager
  | some ctx =>
      let manager := (manager.unbindDest slot).leaveAllGroups slot
      { manager with
        slots := Function.update manager.slots slot { manager.slots slot with ctx := none }
        free := slot :: manager.free
        connQuota := manager.connQuota.release ctx.realm }

def removeSession (manager : ConnectionManager) (handle : SessionHandle) : ConnectionManager :=
  match manager.slotFor handle with
  | none => manager
  | some slot => manager.releaseSlot slot

def tokenFor (manager : ConnectionManager) (handle : SessionHandle) : Option ConnToken :=
  (manager.getByHandle handle).map fun ctx => {
    nodeId := manager.nodeId
    workerId := manager.workerId
    slot := handle.slot
    generation := ctx.sessionHandle.generation
    incarnation := manager.incarnation }

/-- The slot of the connection that a token names. -/
def byToken (manager : ConnectionManager) (token : ConnToken) : Option Nat :=
  if token.nodeId ≠ manager.nodeId ∨ token.workerId ≠ manager.workerId ∨
      token.incarnation ≠ manager.incarnation then none
  else manager.slotFor { slot := token.slot, generation := token.generation }

/-- The first slot in use from a position on. -/
def nextLive (manager : ConnectionManager) (start : Nat) : Option Nat :=
  (List.range' start (manager.capacity - start)).find? fun slot => (manager.context slot).isSome

end ConnectionManager

end LyuneGateway.Worker
