import LyuneGateway.Foundation.Quota

/-!
# The shared backend pool

One pool per worker holds what all backend connections share: the receive
slots, the index from a QUIC connection to the backend connection that
registered it, and the connection ids. Slots are shared, queues are not: every
backend connection keeps its own queue of filled slots.
-/

namespace LyuneGateway.Backend

open Foundation

/-- A QUIC connection, never reused for another one. -/
abbrev Cnx := Nat

def slotBytes : Nat := 2048

inductive RecvKind where
  | data
  | streamReset
  | stopSending
  deriving DecidableEq, Repr

/-- A filled receive slot. `origin` is the QUIC connection the bytes arrived on. -/
structure Slot where
  index : Nat
  streamId : Nat
  data : Bytes
  isFin : Bool
  kind : RecvKind
  realm : RealmId
  origin : Cnx
  deriving DecidableEq, Repr

structure SlotList where
  queue : List Slot := []
  realm : RealmId := 0

structure SlotArena where
  size : Nat
  free : List Nat
  maxPerConn : Nat
  quota : Quota

namespace SlotArena

def init (count maxPerConn : Nat) : SlotArena :=
  let effective := max count 1
  { size := effective
    free := List.range effective
    maxPerConn := max (min maxPerConn effective) 1
    quota := Quota.init maxTrackedRealms effective defaultWatermarkPercent }

/-- The number of slots a callback of `length` bytes takes; an empty one takes one. -/
def chunks (length : Nat) : Nat := max ((length + slotBytes - 1) / slotBytes) 1

/-- The slots one callback fills, `indices` being the free slots it takes. -/
def fill (streamId : Nat) (data : Bytes) (isFin : Bool) (kind : RecvKind) (realm : RealmId)
    (origin : Cnx) (indices : List Nat) : List Slot :=
  indices.zipIdx.map fun (index, i) =>
    { index := index
      streamId := streamId
      data := (data.drop (i * slotBytes)).take slotBytes
      isFin := isFin && i + 1 = chunks data.length
      kind := kind
      realm := realm
      origin := origin }

/-- All of a callback goes into the queue, or none of it. -/
def enqueueEvent (arena : SlotArena) (list : SlotList) (streamId : Nat) (data : Bytes)
    (isFin : Bool) (kind : RecvKind) (origin : Cnx) : Option (SlotArena × SlotList) :=
  let needed := chunks data.length
  if arena.free.length < needed then none
  else if arena.maxPerConn < list.queue.length + needed then none
  else if arena.quota.allows list.realm = false then none
  else some (
    { arena with
      free := arena.free.drop needed
      quota := (List.range needed).foldl (fun quota _ => quota.acquire list.realm) arena.quota },
    { list with
      queue := list.queue ++
        fill streamId data isFin kind list.realm origin (arena.free.take needed) })

def release (arena : SlotArena) (slot : Slot) : SlotArena :=
  { arena with free := slot.index :: arena.free, quota := arena.quota.release slot.realm }

/-- Everything one callback adds to a queue carries its stream handle and its connection. -/
theorem mem_queue_of_enqueueEvent {arena after : SlotArena} {list filled : SlotList}
    {streamId : Nat} {data : Bytes} {isFin : Bool} {kind : RecvKind} {origin : Cnx}
    (done : arena.enqueueEvent list streamId data isFin kind origin = some (after, filled))
    {slot : Slot} (member : slot ∈ filled.queue) :
    slot ∈ list.queue ∨ slot.streamId = streamId ∧ slot.origin = origin := by
  unfold enqueueEvent at done
  simp only at done
  split at done
  · simp at done
  split at done
  · simp at done
  split at done
  · simp at done
  cases done
  rcases List.mem_append.mp member with old | new
  · exact .inl old
  · simp only [fill, List.mem_map] at new
    obtain ⟨⟨index, i⟩, -, rfl⟩ := new
    exact .inr ⟨rfl, rfl⟩

end SlotArena

structure BackendPool where
  index : Cnx → Option Nat
  live : Nat
  maxConns : Nat
  nextConnId : Nat
  pendingFailures : Nat
  arena : SlotArena

namespace BackendPool

def init (maxConns recvSlots maxSlotsPerConn : Nat) : BackendPool where
  index := fun _ => none
  live := 0
  maxConns := maxConns
  nextConnId := 0
  pendingFailures := 0
  arena := SlotArena.init recvSlots maxSlotsPerConn

/-- A connection id that is unique within the worker; `none` once they are used up. -/
def allocConnId (pool : BackendPool) : Option (Nat × BackendPool) :=
  if pool.nextConnId = 65535 then none
  else some (pool.nextConnId, { pool with nextConnId := pool.nextConnId + 1 })

def register (pool : BackendPool) (cnx : Cnx) (conn : Nat) : Option BackendPool :=
  if pool.index cnx = none then
    if pool.maxConns ≤ pool.live then none
    else some { pool with
      live := pool.live + 1
      index := Function.update pool.index cnx (some conn) }
  else some { pool with index := Function.update pool.index cnx (some conn) }

def unregister (pool : BackendPool) (cnx : Cnx) : BackendPool :=
  if pool.index cnx = none then pool
  else { pool with
    index := Function.update pool.index cnx none
    live := pool.live - 1 }

theorem register_index {pool after : BackendPool} {cnx : Cnx} {conn : Nat}
    (done : pool.register cnx conn = some after) :
    after.index = Function.update pool.index cnx (some conn) := by
  unfold register at done
  split at done
  · split at done
    · simp at done
    · cases done
      rfl
  · cases done
    rfl

theorem register_nextConnId {pool after : BackendPool} {cnx : Cnx} {conn : Nat}
    (done : pool.register cnx conn = some after) : after.nextConnId = pool.nextConnId := by
  unfold register at done
  split at done
  · split at done
    · simp at done
    · cases done
      rfl
  · cases done
    rfl

theorem allocConnId_eq_some {pool after : BackendPool} {id : Nat}
    (done : pool.allocConnId = some (id, after)) :
    id = pool.nextConnId ∧ after = { pool with nextConnId := pool.nextConnId + 1 } := by
  unfold allocConnId at done
  split at done
  · simp at done
  · cases done
    exact ⟨rfl, rfl⟩

theorem unregister_nextConnId (pool : BackendPool) (cnx : Cnx) :
    (pool.unregister cnx).nextConnId = pool.nextConnId := by
  unfold unregister
  split <;> rfl

theorem unregister_index (pool : BackendPool) (cnx : Cnx) :
    (pool.unregister cnx).index = Function.update pool.index cnx none := by
  unfold unregister
  split
  · rename_i absent
    exact (Function.update_eq_self_iff.mpr absent.symm).symm
  · rfl

end BackendPool

end LyuneGateway.Backend
