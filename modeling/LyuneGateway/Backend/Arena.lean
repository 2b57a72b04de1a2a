import Mathlib.Data.List.Perm.Basic
import LyuneGateway.Backend.Pool
import LyuneGateway.Lib.Run

/-!
# The linked slots of the receive arena

The slots of the arena are linked: those that are free form one list, those that
wait on a connection form its queue. A slot that has been taken is in no list
until it is given back. Read off as lists of slots, the links behave as the
arena of the pool does.
-/

namespace LyuneGateway.Backend

open Foundation

/-- A slot and its link; the bytes are those of its buffer that are in use. -/
structure LinkedSlot where
  streamId : Nat := 0
  data : Bytes := []
  isFin : Bool := false
  kind : RecvKind := .data
  realm : RealmId := 0
  next : Option Nat := none
  deriving DecidableEq

structure LinkedArena where
  slots : Nat → LinkedSlot
  size : Nat
  freeHead : Option Nat
  freeCount : Nat
  maxPerConn : Nat
  quota : Quota

/-- The queue of a connection. -/
structure LinkedList where
  head : Option Nat := none
  tail : Option Nat := none
  count : Nat := 0
  realm : RealmId := 0
  deriving DecidableEq

namespace LinkedArena

def init (count maxPerConn : Nat) : LinkedArena :=
  let effective := max count 1
  { slots := fun i => { next := if i + 1 < effective then some (i + 1) else none }
    size := effective
    freeHead := some 0
    freeCount := effective
    maxPerConn := max (min maxPerConn effective) 1
    quota := Quota.init maxTrackedRealms effective defaultWatermarkPercent }

def modify (arena : LinkedArena) (index : Nat) (change : LinkedSlot → LinkedSlot) : LinkedArena :=
  { arena with slots := Function.update arena.slots index (change (arena.slots index)) }

/-- Take the first free slot; there must be one. -/
def take (arena : LinkedArena) (realm : RealmId) : Option (LinkedArena × Nat) :=
  match arena.freeHead with
  | none => none
  | some index =>
      some ({ arena.modify index fun slot => { slot with next := none, realm := realm } with
        freeHead := (arena.slots index).next
        freeCount := arena.freeCount - 1
        quota := arena.quota.acquire realm }, index)

/-- One slot at the end of a queue. -/
def push (arena : LinkedArena) (list : LinkedList) (streamId : Nat) (chunk : Bytes) (isFin : Bool)
    (kind : RecvKind) : Option (LinkedArena × LinkedList) :=
  match arena.take list.realm with
  | none => none
  | some (arena, index) =>
      let arena := arena.modify index fun slot =>
        { slot with streamId := streamId, data := chunk, isFin := isFin, kind := kind }
      match list.tail with
      | some tail =>
          some (arena.modify tail fun slot => { slot with next := some index },
            { list with tail := some index, count := list.count + 1 })
      | none =>
          some (arena, { list with
            head := some index
            tail := some index
            count := list.count + 1 })

/-- Copy the data from an offset on into slots, one after the other. -/
def copy (streamId : Nat) (data : Bytes) (isFin : Bool) (kind : RecvKind) :
    Nat → Nat → LinkedArena → LinkedList → Option (LinkedArena × LinkedList)
  | 0, _, arena, list => some (arena, list)
  | remaining + 1, offset, arena, list =>
      let stop := min (offset + slotBytes) data.length
      match arena.push list streamId ((data.take stop).drop offset) (isFin && remaining = 0) kind with
      | none => none
      | some (arena, list) => copy streamId data isFin kind remaining stop arena list

/-- All of a callback goes into the queue, or none of it; the result says which. There is none if a
free slot was missing after all. -/
def enqueueEvent (arena : LinkedArena) (list : LinkedList) (streamId : Nat) (data : Bytes)
    (isFin : Bool) (kind : RecvKind) : Option (LinkedArena × LinkedList × Bool) :=
  let needed := SlotArena.chunks data.length
  if arena.freeCount < needed then some (arena, list, false)
  else if arena.maxPerConn < list.count + needed then some (arena, list, false)
  else if arena.quota.allows list.realm = false then some (arena, list, false)
  else
    (copy streamId data isFin kind needed 0 arena list).map fun (arena, list) => (arena, list, true)

def enqueue (arena : LinkedArena) (list : LinkedList) (streamId : Nat) (data : Bytes)
    (isFin : Bool) : Option (LinkedArena × LinkedList × Bool) :=
  arena.enqueueEvent list streamId data isFin .data

def enqueueControl (arena : LinkedArena) (list : LinkedList) (streamId : Nat) (kind : RecvKind) :
    Option (LinkedArena × LinkedList × Bool) :=
  arena.enqueueEvent list streamId [] true kind

def pop (arena : LinkedArena) (list : LinkedList) : Option (LinkedArena × LinkedList × Nat) :=
  match list.head with
  | none => none
  | some index =>
      let next := (arena.slots index).next
      some (arena.modify index fun slot => { slot with next := none },
        { list with
          head := next
          tail := if next = none then none else list.tail
          count := list.count - 1 }, index)

def release (arena : LinkedArena) (index : Nat) : LinkedArena :=
  { arena with
    slots := Function.update arena.slots index { next := arena.freeHead }
    freeHead := some index
    freeCount := arena.freeCount + 1
    quota := arena.quota.release (arena.slots index).realm }

/-- Give back what a queue holds, as often as it can be popped. -/
def drop : Nat → LinkedArena → LinkedList → LinkedArena × LinkedList
  | 0, arena, list => (arena, list)
  | fuel + 1, arena, list =>
      match arena.pop list with
      | none => (arena, list)
      | some (arena, list, index) => drop fuel (arena.release index) list

end LinkedArena

/-- Following the links from here visits these slots and ends. -/
def Chain (slots : Nat → LinkedSlot) : Option Nat → List Nat → Prop
  | head, [] => head = none
  | head, index :: rest => head = some index ∧ Chain slots (slots index).next rest

namespace Chain

variable {slots after : Nat → LinkedSlot} {head : Option Nat} {indices : List Nat}

/-- A chain depends on its own links only. -/
theorem frame (chain : Chain slots head indices)
    (same : ∀ index ∈ indices, (after index).next = (slots index).next) :
    Chain after head indices := by
  induction indices generalizing head with
  | nil => exact chain
  | cons index rest ih =>
      refine ⟨chain.1, ?_⟩
      rw [same index List.mem_cons_self]
      exact ih chain.2 fun other listed => same other (List.mem_cons_of_mem index listed)

/-- The last slot of a chain is linked to a new one. -/
theorem push {index last : Nat} (chain : Chain slots head indices) (distinct : indices.Nodup)
    (ends : indices.getLast? = some last) (fresh : index ∉ indices)
    (linked : (after last).next = some index) (closed : (after index).next = none)
    (same : ∀ other ∈ indices, other ≠ last → (after other).next = (slots other).next) :
    Chain after head (indices ++ [index]) := by
  induction indices generalizing head with
  | nil => cases ends
  | cons first rest ih =>
      refine ⟨chain.1, ?_⟩
      cases rest with
      | nil =>
          obtain rfl : first = last := by simpa using ends
          exact ⟨linked, closed⟩
      | cons second rest =>
          have ends : (second :: rest).getLast? = some last := by simpa using ends
          have later : last ∈ second :: rest := List.mem_of_getLast? ends
          have differs : first ≠ last := by
            rintro rfl
            exact (List.nodup_cons.mp distinct).1 later
          have kept := same first List.mem_cons_self differs
          have rest' := ih chain.2 (List.nodup_cons.mp distinct).2 ends
            (fun listed => fresh (List.mem_cons_of_mem first listed))
            fun other listed => same other (List.mem_cons_of_mem first listed)
          rwa [← kept] at rest'

end Chain

/-- What a slot holds. -/
def LinkedSlot.Shows (linked : LinkedSlot) (slot : Slot) : Prop :=
  linked.streamId = slot.streamId ∧ linked.data = slot.data ∧ linked.isFin = slot.isFin ∧
    linked.kind = slot.kind ∧ linked.realm = slot.realm

def SlotList.indices (list : SlotList) : List Nat := list.queue.map Slot.index

/-- The links of a queue visit the slots of the list, which hold what they should. -/
structure LinkedList.Reads (linked : LinkedList) (slots : Nat → LinkedSlot) (list : SlotList) :
    Prop where
  chain : Chain slots linked.head list.indices
  tail : linked.tail = list.indices.getLast?
  count : linked.count = list.queue.length
  realm : linked.realm = list.realm
  shows : ∀ slot ∈ list.queue, (slots slot.index).Shows slot

theorem LinkedList.Reads.frame {linked : LinkedList} {slots after : Nat → LinkedSlot}
    {list : SlotList} (reads : linked.Reads slots list)
    (same : ∀ index ∈ list.indices, after index = slots index) : linked.Reads after list where
  chain := reads.chain.frame fun index listed => by rw [same index listed]
  tail := reads.tail
  count := reads.count
  realm := reads.realm
  shows := fun slot queued => by
    rw [same slot.index (List.mem_map_of_mem queued)]
    exact reads.shows slot queued

/-- The links of the arena visit the free slots. -/
structure LinkedArena.Reads (linked : LinkedArena) (arena : SlotArena) : Prop where
  size : linked.size = arena.size
  free : Chain linked.slots linked.freeHead arena.free
  freeCount : linked.freeCount = arena.free.length
  maxPerConn : linked.maxPerConn = arena.maxPerConn
  quota : linked.quota = arena.quota

namespace LinkedArena

variable {linked : LinkedArena} {arena : SlotArena} {queue : LinkedList} {list : SlotList}

/-- What one slot at the end of a queue changes. -/
theorem push_reads (reads : linked.Reads arena) (queued : queue.Reads linked.slots list)
    {index : Nat} {rest : List Nat} (free : arena.free = index :: rest)
    (distinct : (index :: rest ++ list.indices).Nodup) (streamId : Nat) (chunk : Bytes)
    (isFin : Bool) (kind : RecvKind) :
    ∃ after longer, linked.push queue streamId chunk isFin kind = some (after, longer) ∧
      after.Reads { arena with free := rest, quota := arena.quota.acquire list.realm } ∧
      longer.Reads after.slots { list with queue := list.queue ++ [{
        index := index
        streamId := streamId
        data := chunk
        isFin := isFin
        kind := kind
        realm := list.realm
        origin := 0 }] } ∧
      ∀ other, other ≠ index → other ∉ list.indices → after.slots other = linked.slots other := by
  have chain := reads.free
  rw [free] at chain
  obtain ⟨head, chained⟩ := chain
  simp only [List.cons_append, List.nodup_cons, List.mem_append, not_or, List.nodup_append] at distinct
  obtain ⟨⟨unfree, unqueued⟩, -, once, apart⟩ := distinct
  have count : linked.freeCount - 1 = rest.length := by
    rw [reads.freeCount, free]
    rfl
  cases last : queue.tail with
  | none =>
      have empty : list.queue = [] := by
        have tail := queued.tail
        rw [last] at tail
        exact List.map_eq_nil_iff.mp (List.getLast?_eq_none_iff.mp tail.symm)
      simp only [push, take, head, last, Option.some.injEq, Prod.mk.injEq]
      refine ⟨_, _, ⟨rfl, rfl⟩, ?_, ?_, ?_⟩
      · refine ⟨reads.size, ?_, count, reads.maxPerConn, ?_⟩
        · refine chained.frame fun other listed => ?_
          have differs : other ≠ index := fun same => unfree (same ▸ listed)
          simp [modify, differs]
        · simp only [modify, reads.quota, queued.realm]
      · constructor
        · simp [SlotList.indices, empty, Chain, modify]
        · simp [SlotList.indices, empty]
        · simp [empty, queued.count]
        · exact queued.realm
        · intro slot member
          rw [empty] at member
          obtain rfl := List.mem_singleton.mp member
          simp [LinkedSlot.Shows, modify, queued.realm]
      · intro other differs _
        simp [modify, differs]
  | some tail =>
      have ends : list.indices.getLast? = some tail := by rw [← queued.tail, last]
      have member : tail ∈ list.indices := List.mem_of_getLast? ends
      have differs : tail ≠ index := fun same => unqueued (same ▸ member)
      simp only [push, take, head, last, Option.some.injEq, Prod.mk.injEq]
      refine ⟨_, _, ⟨rfl, rfl⟩, ?_, ?_, ?_⟩
      · refine ⟨reads.size, ?_, count, reads.maxPerConn, ?_⟩
        · refine chained.frame fun other listed => ?_
          have one : other ≠ index := fun same => unfree (same ▸ listed)
          have two : other ≠ tail := fun same => apart other listed tail member same
          simp [modify, one, two]
        · simp only [modify, reads.quota, queued.realm]
      · constructor
        · rw [SlotList.indices, List.map_append]
          refine queued.chain.push once ends unqueued ?_ ?_ fun other listed unlike => ?_
          · simp [modify]
          · simp [modify, differs.symm]
          · have one : other ≠ index := fun same => unqueued (same ▸ listed)
            simp [modify, one, unlike]
        · simp [SlotList.indices]
        · simp [queued.count]
        · exact queued.realm
        · intro slot listed
          rcases List.mem_append.mp listed with old | new
          · have shows := queued.shows slot old
            have listed : slot.index ∈ list.indices := List.mem_map_of_mem old
            have one : slot.index ≠ index := fun same => unqueued (same ▸ listed)
            by_cases two : slot.index = tail
            · simpa [LinkedSlot.Shows, modify, one, two, differs] using two ▸ shows
            · simpa [LinkedSlot.Shows, modify, one, two] using shows
          · obtain rfl := List.mem_singleton.mp new
            simp [LinkedSlot.Shows, modify, differs.symm, queued.realm]
      · intro other one unlisted
        have two : other ≠ tail := fun same => unlisted (same ▸ member)
        simp [modify, one, two]

/-- The bytes between two offsets that are kept within the data. -/
theorem slice_eq (data : Bytes) (done : Nat) :
    (data.take (min (min (done * slotBytes) data.length + slotBytes) data.length)).drop
      (min (done * slotBytes) data.length) = (data.drop (done * slotBytes)).take slotBytes := by
  rcases Nat.le_total (done * slotBytes) data.length with inside | outside
  · rw [Nat.min_eq_left inside, List.drop_take]
    rcases Nat.le_total (done * slotBytes + slotBytes) data.length with full | short
    · rw [Nat.min_eq_left full, Nat.add_sub_cancel_left]
    · rw [Nat.min_eq_right short, List.take_of_length_le (by simp), List.take_of_length_le]
      rw [List.length_drop]
      omega
  · rw [Nat.min_eq_right outside, List.drop_eq_nil_of_le outside, List.take_nil]
    exact List.drop_eq_nil_of_le (by simp)

theorem acquire_succ (quota : Quota) (realm : RealmId) (count : Nat) :
    (List.range (count + 1)).foldl (fun quota _ => quota.acquire realm) quota =
      (List.range count).foldl (fun quota _ => quota.acquire realm) (quota.acquire realm) := by
  rw [List.range_succ_eq_map, List.foldl_cons, List.foldl_map]

/-- One slot after the other takes its part of the data. -/
theorem copy_reads (streamId : Nat) (data : Bytes) (isFin : Bool) (kind : RecvKind)
    {indices rest : List Nat} {done : Nat}
    (total : done + indices.length = SlotArena.chunks data.length)
    (reads : linked.Reads arena) (queued : queue.Reads linked.slots list)
    (free : arena.free = indices ++ rest) (distinct : (indices ++ rest ++ list.indices).Nodup) :
    ∃ after longer, copy streamId data isFin kind indices.length
        (min (done * slotBytes) data.length) linked queue = some (after, longer) ∧
      after.Reads { arena with
        free := rest
        quota := (List.range indices.length).foldl (fun quota _ => quota.acquire list.realm)
          arena.quota } ∧
      longer.Reads after.slots { list with
        queue := list.queue ++ (indices.zipIdx done).map fun (index, i) => {
          index := index
          streamId := streamId
          data := (data.drop (i * slotBytes)).take slotBytes
          isFin := isFin && i + 1 = SlotArena.chunks data.length
          kind := kind
          realm := list.realm
          origin := 0 } } ∧
      ∀ other, other ∉ indices → other ∉ list.indices →
        after.slots other = linked.slots other := by
  induction indices generalizing done linked arena queue list with
  | nil =>
      refine ⟨linked, queue, rfl, ?_, ?_, fun _ _ _ => rfl⟩
      · rw [List.nil_append] at free
        subst free
        exact reads
      · simpa using queued
  | cons index indices ih =>
      have differs : (index :: (indices ++ rest) ++ list.indices).Nodup := distinct
      obtain ⟨after, longer, pushed, arena', list', kept⟩ := push_reads reads queued free differs
        streamId ((data.drop (done * slotBytes)).take slotBytes)
        (isFin && decide (indices.length = 0)) kind
      have last : decide (indices.length = 0) =
          decide (done + 1 = SlotArena.chunks data.length) := by
        rw [List.length_cons] at total
        exact decide_eq_decide.mpr ⟨fun none => by omega, fun same => by omega⟩
      have moved : (indices ++ rest ++ (list.indices ++ [index])).Nodup := by
        refine (List.Perm.nodup_iff ?_).mpr differs
        simp only [List.cons_append, ← List.append_assoc]
        exact List.perm_append_singleton _ _
      obtain ⟨final, longest, copied, arena'', list'', others⟩ := @ih after _ longer _ (done + 1)
        (by rw [List.length_cons] at total; omega) arena' list' rfl (by
          simpa [SlotList.indices] using moved)
      refine ⟨final, longest, ?_, ?_, ?_, ?_⟩
      · rw [List.length_cons, copy, slice_eq, pushed]
        have stop : min (min (done * slotBytes) data.length + slotBytes) data.length =
            min ((done + 1) * slotBytes) data.length := by
          rw [Nat.succ_mul]
          omega
        simp only
        rw [stop]
        exact copied
      · rw [List.length_cons, acquire_succ]
        exact arena''
      · rw [last] at list''
        rw [List.zipIdx_cons, List.map_cons]
        simpa only [List.append_assoc, List.singleton_append] using list''
      · intro other unlisted unqueued
        rw [List.mem_cons, not_or] at unlisted
        rw [others other unlisted.2 ?_]
        · exact kept other unlisted.1 unqueued
        · simp only [SlotList.indices, List.map_append, List.mem_append, not_or]
          exact ⟨unqueued, by simpa using unlisted.1⟩

/-- A callback is taken or refused as the arena of the pool does it, and a free slot is there for
every part. -/
theorem enqueueEvent_reads (reads : linked.Reads arena) (queued : queue.Reads linked.slots list)
    (distinct : (arena.free ++ list.indices).Nodup) (streamId : Nat) (data : Bytes) (isFin : Bool)
    (kind : RecvKind) :
    (arena.enqueueEvent list streamId data isFin kind 0 = none ∧
      linked.enqueueEvent queue streamId data isFin kind = some (linked, queue, false)) ∨
    ∃ arena' list' after longer,
      arena.enqueueEvent list streamId data isFin kind 0 = some (arena', list') ∧
      linked.enqueueEvent queue streamId data isFin kind = some (after, longer, true) ∧
      after.Reads arena' ∧ longer.Reads after.slots list' ∧
      ∀ other, other ∉ arena.free.take (SlotArena.chunks data.length) → other ∉ list.indices →
        after.slots other = linked.slots other := by
  unfold enqueueEvent SlotArena.enqueueEvent
  simp only [reads.freeCount, reads.maxPerConn, reads.quota, queued.count, queued.realm]
  split
  · exact .inl ⟨rfl, rfl⟩
  rename_i room
  split
  · exact .inl ⟨rfl, rfl⟩
  split
  · exact .inl ⟨rfl, rfl⟩
  have taken : (arena.free.take (SlotArena.chunks data.length)).length =
      SlotArena.chunks data.length := by
    rw [List.length_take]
    omega
  obtain ⟨after, longer, copied, arena', list', kept⟩ := @copy_reads linked arena queue list streamId
    data isFin kind (arena.free.take (SlotArena.chunks data.length))
    (arena.free.drop (SlotArena.chunks data.length)) 0 (by rw [taken, Nat.zero_add]) reads queued
    (List.take_append_drop _ _).symm (by rwa [List.take_append_drop])
  rw [taken, Nat.zero_mul, Nat.zero_min] at copied
  rw [taken] at arena'
  refine .inr ⟨_, _, after, longer, rfl, ?_, arena', list', kept⟩
  rw [copied]
  rfl

/-- The first slot of a queue leaves it and keeps what it holds. -/
theorem pop_reads {slot : Slot} {rest : List Slot} (reads : linked.Reads arena)
    (queued : queue.Reads linked.slots list) (first : list.queue = slot :: rest)
    (distinct : (arena.free ++ list.indices).Nodup) :
    ∃ after shorter, linked.pop queue = some (after, shorter, slot.index) ∧
      after.Reads arena ∧ shorter.Reads after.slots { list with queue := rest } ∧
      (after.slots slot.index).Shows slot ∧
      ∀ other, other ≠ slot.index → after.slots other = linked.slots other := by
  have indices : list.indices = slot.index :: rest.map Slot.index := by
    rw [SlotList.indices, first]
    rfl
  have chain := queued.chain
  rw [indices] at chain distinct
  obtain ⟨head, chained⟩ := chain
  have kept (other : Nat) (differs : other ≠ slot.index) :
      (linked.modify slot.index fun slot => { slot with next := none }).slots other =
        linked.slots other := by
    simp [modify, differs]
  have unfree : slot.index ∉ arena.free := by
    intro listed
    exact (List.nodup_append.mp distinct).2.2 _ listed _ List.mem_cons_self rfl
  have unqueued : slot.index ∉ rest.map Slot.index :=
    (List.nodup_cons.mp (List.nodup_append.mp distinct).2.1).1
  simp only [pop, head, Option.some.injEq, Prod.mk.injEq, and_true]
  refine ⟨_, _, ⟨rfl, rfl⟩, ⟨reads.size, ?_, reads.freeCount, reads.maxPerConn, reads.quota⟩, ?_, ?_,
    kept⟩
  · refine reads.free.frame fun other listed => ?_
    rw [kept other fun same => unfree (same ▸ listed)]
  · constructor
    · refine chained.frame fun other listed => ?_
      rw [kept other fun same => unqueued (same ▸ listed)]
    · cases rest with
      | nil =>
          have ends : (linked.slots slot.index).next = none := chained
          simp [ends, SlotList.indices]
      | cons second rest =>
          have goes : (linked.slots slot.index).next = some second.index := chained.1
          simp [goes, queued.tail, SlotList.indices, first]
    · simp [queued.count, first]
    · exact queued.realm
    · intro other member
      have listed : other.index ∈ rest.map Slot.index := List.mem_map_of_mem member
      rw [kept other.index fun same => unqueued (same ▸ listed)]
      exact queued.shows other (first ▸ List.mem_cons_of_mem slot member)
  · have shows := queued.shows slot (first ▸ List.mem_cons_self)
    simpa [modify, LinkedSlot.Shows] using shows

theorem pop_eq_none (queued : queue.Reads linked.slots list) (empty : list.queue = []) :
    linked.pop queue = none := by
  have head : queue.head = none := by simpa [SlotList.indices, empty, Chain] using queued.chain
  rw [pop, head]

/-- A slot that is given back is the first free one. -/
theorem release_reads {slot : Slot} (reads : linked.Reads arena)
    (shows : (linked.slots slot.index).Shows slot) (out : slot.index ∉ arena.free) :
    (linked.release slot.index).Reads (arena.release slot) ∧
      ∀ other, other ≠ slot.index →
        (linked.release slot.index).slots other = linked.slots other := by
  have kept (other : Nat) (differs : other ≠ slot.index) :
      (linked.release slot.index).slots other = linked.slots other := by
    simp [release, differs]
  refine ⟨⟨reads.size, ⟨rfl, ?_⟩, ?_, reads.maxPerConn, ?_⟩, kept⟩
  · have next : ((linked.release slot.index).slots slot.index).next = linked.freeHead := by
      simp [release]
    rw [next]
    refine reads.free.frame fun other listed => ?_
    rw [kept other fun same => out (same ▸ listed)]
  · simp [release, SlotArena.release, reads.freeCount]
  · simp only [release, SlotArena.release, reads.quota, shows.2.2.2.2]

/-- A queue that is dropped is empty, and its slots are free. -/
theorem drop_reads (reads : linked.Reads arena) (queued : queue.Reads linked.slots list)
    (distinct : (arena.free ++ list.indices).Nodup) :
    (drop queue.count linked queue).1.Reads (list.queue.foldl SlotArena.release arena) ∧
      (drop queue.count linked queue).2.Reads (drop queue.count linked queue).1.slots
        { list with queue := [] } ∧
      ∀ other, other ∉ list.indices →
        (drop queue.count linked queue).1.slots other = linked.slots other := by
  generalize slots : list.queue = waiting
  induction waiting generalizing linked arena queue list with
  | nil =>
      have none : queue.count = 0 := by rw [queued.count, slots]; rfl
      rw [none]
      refine ⟨reads, ?_, fun _ _ => rfl⟩
      rw [← slots]
      exact queued
  | cons slot rest ih =>
      obtain ⟨after, shorter, popped, arena', list', shows, kept⟩ :=
        pop_reads reads queued slots distinct
      have indices : list.indices = slot.index :: rest.map Slot.index := by
        rw [SlotList.indices, slots]
        rfl
      rw [indices] at distinct ⊢
      have out : slot.index ∉ arena.free := by
        intro listed
        exact (List.nodup_append.mp distinct).2.2 _ listed _ List.mem_cons_self rfl
      obtain ⟨freed, others⟩ := release_reads arena' shows out
      have unqueued : slot.index ∉ rest.map Slot.index :=
        (List.nodup_cons.mp (List.nodup_append.mp distinct).2.1).1
      have again : ((arena.release slot).free ++
          SlotList.indices { list with queue := rest }).Nodup := by
        refine (List.Perm.nodup_iff ?_).mp distinct
        exact List.perm_middle
      obtain ⟨arena'', list'', unchanged⟩ := ih freed (list'.frame fun other listed =>
        others other fun same => unqueued (same ▸ listed)) again rfl
      have count : queue.count = shorter.count + 1 := by
        rw [queued.count, slots, list'.count]
        rfl
      rw [count, drop, popped]
      refine ⟨arena'', list'', fun other unlisted => ?_⟩
      rw [List.mem_cons, not_or] at unlisted
      rw [unchanged other unlisted.2, others other unlisted.1, kept other unlisted.1]

end LinkedArena

end LyuneGateway.Backend
