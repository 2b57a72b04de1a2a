import LyuneGateway.Worker.HeadChains
import LyuneGateway.Worker.Connection

/-!
# The slots of a worker's connections

All connections lie in one array of slots, and all group memberships in one array
of edges. What is free is chained; the connections of a destination are chained
through their slots, the members of a group and the groups of a connection through
the edges. Nothing is allocated after the start. A loop that does not end within
the size of its array, and a field that was never written, make the result `none`.
-/

namespace LyuneGateway.Worker.SlotPool

open Foundation Session

/-- `ctx` is undefined until the slot is first taken, and left over when it is free again. -/
structure Slot where
  ctx : Option ConnectionContext := none
  nextFree : Option Nat := none
  nextByDest : Option Nat := none
  groupHead : Option Nat := none
  generation : Nat := 0
  inUse : Bool := false

structure Edge where
  realm : RealmId := 0
  groupId : UInt64 := 0
  slot : Nat := 0
  nextInGroup : Option Nat := none
  nextOfSlot : Option Nat := none
  nextFree : Option Nat := none
  inUse : Bool := false

structure GroupIndex where
  edges : Nat → Edge
  capacity : Nat
  table : HeadTable
  freeHead : Option Nat

def GroupIndex.init (maxConnections : Nat) : GroupIndex :=
  let capacity := maxConnections * maxGroupsPerConnection
  { edges := fun i => { nextFree := if i + 1 < capacity then some (i + 1) else none }
    capacity := capacity
    table := .init capacity
    freeHead := if capacity = 0 then none else some 0 }

structure ConnectionManager where
  nodeId : Nat
  workerId : Nat
  incarnation : Nat
  slots : Nat → Slot
  capacity : Nat
  callbackIndex : IndexTable
  destIndex : HeadTable
  groups : GroupIndex
  connQuota : Quota
  groupQuota : Quota
  freeHead : Option Nat
  live : Nat

namespace ConnectionManager

def init (maxConnections nodeId workerId incarnation : Nat) : ConnectionManager :=
  let effective := max maxConnections 1
  let groups := GroupIndex.init effective
  { nodeId := nodeId
    workerId := workerId
    incarnation := incarnation
    slots := fun i => { nextFree := if i + 1 < effective then some (i + 1) else none }
    capacity := effective
    callbackIndex := .init effective
    destIndex := .init effective
    groups := groups
    connQuota := .init maxTrackedRealms effective defaultWatermarkPercent
    groupQuota := .init maxTrackedRealms groups.capacity defaultWatermarkPercent
    freeHead := some 0
    live := 0 }

/-! ## The fields of slots and edges -/

def setSlot (manager : ConnectionManager) (slotIndex : Nat) (slot : Slot) : ConnectionManager :=
  { manager with slots := Function.update manager.slots slotIndex slot }

def setCtx (manager : ConnectionManager) (slotIndex : Nat) (ctx : ConnectionContext) :
    ConnectionManager :=
  manager.setSlot slotIndex { manager.slots slotIndex with ctx := some ctx }

def nextByDest (manager : ConnectionManager) (slotIndex : Nat) : Option Nat :=
  (manager.slots slotIndex).nextByDest

def nextInGroup (manager : ConnectionManager) (edgeIndex : Nat) : Option Nat :=
  (manager.groups.edges edgeIndex).nextInGroup

def nextOfSlot (manager : ConnectionManager) (edgeIndex : Nat) : Option Nat :=
  (manager.groups.edges edgeIndex).nextOfSlot

/-- A new destination table, and new links between the slots. -/
def setDests (manager : ConnectionManager) (destIndex : HeadTable) (next : Nat → Option Nat) :
    ConnectionManager :=
  { manager with
    destIndex := destIndex
    slots := fun i => { manager.slots i with nextByDest := next i } }

/-- A new group table, and new links between the members of groups. -/
def setMembers (manager : ConnectionManager) (table : HeadTable) (next : Nat → Option Nat) :
    ConnectionManager :=
  { manager with
    groups := { manager.groups with
      table := table
      edges := fun i => { manager.groups.edges i with nextInGroup := next i } } }

/-- A new first edge of a slot, and new links between the edges of slots. -/
def setGroupsOf (manager : ConnectionManager) (slotIndex : Nat) (head : Option Nat)
    (next : Nat → Option Nat) : ConnectionManager :=
  { manager.setSlot slotIndex { manager.slots slotIndex with groupHead := head } with
    groups := { manager.groups with
      edges := fun i => { manager.groups.edges i with nextOfSlot := next i } } }

/-! ## Finding connections -/

def slotFor (manager : ConnectionManager) (handle : SessionHandle) : Option Nat :=
  if manager.capacity ≤ handle.slot then none
  else if (manager.slots handle.slot).inUse = false ∨
      (manager.slots handle.slot).generation ≠ handle.generation then none
  else some handle.slot

/-- The slot of the QUIC connection with a pointer. -/
def getByRawQuic (manager : ConnectionManager) (ptr : UInt64) : Option (Option Nat) :=
  (manager.callbackIndex.get IndexTable.hashKey ptr).map fun found =>
    (found.map UInt32.toNat).filter fun slotIndex => (manager.slots slotIndex).inUse

/-- The slot of the connection that a token names. -/
def byToken (manager : ConnectionManager) (token : ConnToken) : Option Nat :=
  if token.nodeId ≠ manager.nodeId ∨ token.workerId ≠ manager.workerId ∨
      token.incarnation ≠ manager.incarnation then none
  else if manager.capacity ≤ token.slot then none
  else if (manager.slots token.slot).inUse = false then none
  else if (manager.slots token.slot).generation ≠ token.generation then none
  else some token.slot

/-- The slots that a loop over the connections of a destination meets. -/
def destConnections (manager : ConnectionManager) (realm : RealmId) (destId : UInt64) :
    Option (List Nat) :=
  if destId = 0 then some []
  else (manager.destIndex.find HeadTable.hashKey realm destId).bind fun
    | none => some []
    | some place =>
        Chain.walk manager.nextByDest manager.capacity (some (manager.destIndex.headAt place))

/-- The slots that a loop over the members of a group meets. -/
def groupConnections (manager : ConnectionManager) (realm : RealmId) (groupId : UInt64) :
    Option (List Nat) :=
  if groupId = 0 then some []
  else (manager.groups.table.find HeadTable.hashKey realm groupId).bind fun
    | none => some []
    | some place =>
        (Chain.walk manager.nextInGroup manager.groups.capacity
          (some (manager.groups.table.headAt place))).map
            (List.map fun edgeIndex => (manager.groups.edges edgeIndex).slot)

/-- The edge of a connection in a group: the groups of a connection are few, the members of a
group may be many. -/
def edgeOf (manager : ConnectionManager) (slotIndex : Nat) (realm : RealmId) (groupId : UInt64) :
    Option (Option Nat) :=
  Chain.seek manager.nextOfSlot
    (fun edgeIndex => decide ((manager.groups.edges edgeIndex).groupId = groupId) &&
      decide ((manager.groups.edges edgeIndex).realm = realm))
    manager.groups.capacity (manager.slots slotIndex).groupHead

def isGroupMember (manager : ConnectionManager) (handle : SessionHandle) (groupId : UInt64) :
    Option Bool :=
  if groupId = 0 then some false
  else
    match manager.slotFor handle with
    | none => some false
    | some slotIndex => do
        let ctx ← (manager.slots slotIndex).ctx
        let edge ← manager.edgeOf slotIndex ctx.realm groupId
        some edge.isSome

/-! ## Changes -/

/-- The callback index once the pointer of a QUIC connection leads to a slot. -/
def publish (manager : ConnectionManager) (transport : TransportSession) (slotIndex : Nat) :
    Option IndexTable :=
  match transport.callbackKey with
  | none => some manager.callbackIndex
  | some key => manager.callbackIndex.put IndexTable.hashKey (.ofNat key) (.ofNat slotIndex)

/-- Take the first free slot for a connection. -/
def addSession (manager : ConnectionManager) (transport : TransportSession) (realm : RealmId)
    (peerNode : Bool) (now : Nat) :
    Option (Except ConnectionError SessionHandle × ConnectionManager) :=
  match manager.freeHead with
  | none => some (.error .tooManyConnections, manager)
  | some slotIndex =>
      if manager.connQuota.allows realm = false then some (.error .realmQuotaExceeded, manager)
      else
        let generation := ((manager.slots slotIndex).generation + 1) % 2 ^ 16
        let handle : SessionHandle := { slot := slotIndex, generation := generation }
        (manager.publish transport slotIndex).map fun callbackIndex => (.ok handle, {
          manager.setSlot slotIndex {
            ctx := some {
              sessionHandle := handle
              transport := transport
              realm := realm
              peerNode := peerNode
              connectedAt := now }
            generation := generation
            inUse := true } with
          freeHead := (manager.slots slotIndex).nextFree
          callbackIndex := callbackIndex
          connQuota := manager.connQuota.acquire realm
          live := manager.live + 1 })

/-- Take a connection out of the chain of its destination. -/
def unbindDest (manager : ConnectionManager) (slotIndex : Nat) : Option ConnectionManager := do
  let ctx ← (manager.slots slotIndex).ctx
  if ctx.destId = 0 then some manager
  else
    let key := UInt64.ofNat ctx.destId
    let manager := manager.setCtx slotIndex (ctx.setDest 0)
    match ← manager.destIndex.find HeadTable.hashKey ctx.realm key with
    | none => some manager
    | some place => do
        let (table, next) ← manager.destIndex.unlink manager.nextByDest manager.capacity place
          ctx.realm key slotIndex
        some (manager.setDests table (Function.update next slotIndex none))

def bindDest (manager : ConnectionManager) (handle : SessionHandle) (destId : UInt64) :
    Option ConnectionManager :=
  match manager.slotFor handle with
  | none => some manager
  | some slotIndex => do
      let ctx ← (manager.slots slotIndex).ctx
      if ctx.destId = destId.toNat then some manager
      else
        let manager ← manager.unbindDest slotIndex
        let unbound ← (manager.slots slotIndex).ctx
        let manager := manager.setCtx slotIndex (unbound.setDest destId.toNat)
        if destId = 0 then some manager
        else do
          let (table, next) ← manager.destIndex.link manager.nextByDest ctx.realm destId slotIndex
          some (manager.setDests table next)

/-- Take an edge out of the chain of its group. -/
def unlinkMember (manager : ConnectionManager) (edgeIndex : Nat) : Option ConnectionManager := do
  let edge := manager.groups.edges edgeIndex
  match ← manager.groups.table.find HeadTable.hashKey edge.realm edge.groupId with
  | none => some manager
  | some place => do
      let (table, next) ← manager.groups.table.unlink manager.nextInGroup manager.groups.capacity
        place edge.realm edge.groupId edgeIndex
      some (manager.setMembers table next)

/-- Take an edge out of the chain of its slot. -/
def unlinkGroup (manager : ConnectionManager) (slotIndex edgeIndex : Nat) :
    Option ConnectionManager :=
  let head := (manager.slots slotIndex).groupHead
  if head = some edgeIndex then
    some (manager.setGroupsOf slotIndex (manager.nextOfSlot edgeIndex) manager.nextOfSlot)
  else
    match head with
    | none => some manager
    | some first =>
        (Chain.skip manager.nextOfSlot edgeIndex manager.groups.capacity first).map fun next =>
          manager.setGroupsOf slotIndex head next

/-- Give an edge back, out of both of its chains. -/
def releaseGroupEdge (manager : ConnectionManager) (slotIndex edgeIndex : Nat) :
    Option ConnectionManager := do
  let realm := (manager.groups.edges edgeIndex).realm
  let manager ← manager.unlinkMember edgeIndex
  let manager ← manager.unlinkGroup slotIndex edgeIndex
  some { manager with
    groups := { manager.groups with
      edges := Function.update manager.groups.edges edgeIndex { nextFree := manager.groups.freeHead }
      freeHead := some edgeIndex }
    groupQuota := manager.groupQuota.release realm }

/-- The first free edge, for a connection and a group, put first in both of their chains. -/
def takeEdge (manager : ConnectionManager) (slotIndex edgeIndex : Nat) (realm : RealmId)
    (groupId : UInt64) : Option ConnectionManager := do
  let slot := manager.slots slotIndex
  let manager := { manager.setSlot slotIndex { slot with groupHead := some edgeIndex } with
    groups := { manager.groups with
      edges := Function.update manager.groups.edges edgeIndex {
        realm := realm
        groupId := groupId
        slot := slotIndex
        nextOfSlot := slot.groupHead
        inUse := true }
      freeHead := (manager.groups.edges edgeIndex).nextFree }
    groupQuota := manager.groupQuota.acquire realm }
  let (table, next) ← manager.groups.table.link manager.nextInGroup realm groupId edgeIndex
  some (manager.setMembers table next)

def joinGroup (manager : ConnectionManager) (handle : SessionHandle) (groupId : UInt64) :
    Option (Except ConnectionError Unit × ConnectionManager) :=
  if groupId = 0 then some (.ok (), manager)
  else
    match manager.slotFor handle with
    | none => some (.ok (), manager)
    | some slotIndex => do
        let ctx ← (manager.slots slotIndex).ctx
        if ← manager.isGroupMember handle groupId then some (.ok (), manager)
        else
          match manager.groups.freeHead with
          | none => some (.error .tooManyGroupMemberships, manager)
          | some edgeIndex =>
              if manager.groupQuota.allows ctx.realm = false then
                some (.error .realmQuotaExceeded, manager)
              else
                (manager.takeEdge slotIndex edgeIndex ctx.realm groupId).map fun manager =>
                  (.ok (), manager)

def leaveGroup (manager : ConnectionManager) (handle : SessionHandle) (groupId : UInt64) :
    Option ConnectionManager :=
  match manager.slotFor handle with
  | none => some manager
  | some slotIndex => do
      let ctx ← (manager.slots slotIndex).ctx
      match ← manager.edgeOf slotIndex ctx.realm groupId with
      | none => some manager
      | some edgeIndex => manager.releaseGroupEdge slotIndex edgeIndex

/-- Give back the first edge of a slot until there is none. -/
def leaveAllGroups (slotIndex : Nat) : Nat → ConnectionManager → Option ConnectionManager
  | 0, manager => if (manager.slots slotIndex).groupHead = none then some manager else none
  | fuel + 1, manager =>
      match (manager.slots slotIndex).groupHead with
      | none => some manager
      | some edgeIndex =>
          (manager.releaseGroupEdge slotIndex edgeIndex).bind (leaveAllGroups slotIndex fuel)

/-- A slot that is given back is the next to be taken. -/
def freeSlot (manager : ConnectionManager) (slotIndex : Nat) (realm : RealmId) :
    ConnectionManager :=
  let slot := manager.slots slotIndex
  { manager.setSlot slotIndex { slot with inUse := false, nextFree := manager.freeHead } with
    connQuota := manager.connQuota.release realm
    freeHead := some slotIndex
    live := manager.live - 1 }

/-- Give a slot back, out of every index. -/
def releaseSlot (manager : ConnectionManager) (slotIndex : Nat) : Option ConnectionManager := do
  let manager ← manager.unbindDest slotIndex
  let manager ← leaveAllGroups slotIndex manager.groups.capacity manager
  let ctx ← (manager.slots slotIndex).ctx
  some (manager.freeSlot slotIndex ctx.realm)

/-- A QUIC connection is closed. -/
def remove (manager : ConnectionManager) (ptr : UInt64) : Option ConnectionManager := do
  let (removed, callbackIndex) ← manager.callbackIndex.remove IndexTable.hashKey ptr
  let manager := { manager with callbackIndex := callbackIndex }
  match removed with
  | none => some manager
  | some slotIndex => manager.releaseSlot slotIndex.toNat

def removeSession (manager : ConnectionManager) (handle : SessionHandle) :
    Option ConnectionManager :=
  match manager.slotFor handle with
  | none => some manager
  | some slotIndex => do
      let ctx ← (manager.slots slotIndex).ctx
      match ctx.transport.callbackKey with
      | none => manager.releaseSlot slotIndex
      | some key => do
          let (_, callbackIndex) ← manager.callbackIndex.remove IndexTable.hashKey (.ofNat key)
          { manager with callbackIndex := callbackIndex }.releaseSlot slotIndex

end ConnectionManager

end LyuneGateway.Worker.SlotPool
