import LyuneGateway.Worker.Address
import LyuneGateway.Worker.SlotPoolEdges

/-!
# What a slot pool stands for

A slot pool is read as the connections of a worker with a list of free slots, a
destination index and a list of memberships. Each operation on the pool ends, does
to these what it does there, and gives the same answer.
-/

namespace LyuneGateway.Worker.SlotPool

open Foundation Session

def Slot.view (slot : Slot) : Worker.Slot where
  ctx := if slot.inUse then slot.ctx else none
  generation := slot.generation

def dests (entries : List DestEntry) : List ((RealmId × UInt64) × Nat) :=
  entries.map fun entry => ((entry.realm, .ofNat entry.destId), entry.slot)

/-- What joining a group answers, and the connections after it. -/
def joined (view : Worker.ConnectionManager) (handle : SessionHandle) (groupId : Nat) :
    Except ConnectionError Unit × Worker.ConnectionManager :=
  match view.joinGroup handle groupId with
  | .ok after => (.ok (), after)
  | .error error => (.error error, view)

/-- What a new connection is answered, and the connections after it. -/
def added (view : Worker.ConnectionManager) (transport : TransportSession) (realm : RealmId)
    (peerNode : Bool) (now : Nat) :
    Except ConnectionError SessionHandle × Worker.ConnectionManager :=
  match view.addSession transport realm peerNode now with
  | .ok (handle, after) => (.ok handle, after)
  | .error error => (.error error, view)

/-- The pool and its chains stand for the connections, and its edges for the memberships. -/
structure Represents (pool : ConnectionManager) (view : Worker.ConnectionManager) (held : Held)
    (index : Table UInt64 UInt32) : Prop where
  nodeId : pool.nodeId = view.nodeId
  workerId : pool.workerId = view.workerId
  incarnation : pool.incarnation = view.incarnation
  capacity : pool.capacity = view.capacity
  connQuota : pool.connQuota = view.connQuota
  groupQuota : pool.groupQuota = view.groupQuota
  slots : view.slots = fun i => (pool.slots i).view
  written : ∀ i, (pool.slots i).inUse = true → (pool.slots i).ctx ≠ none
  free : Chain.Links (fun i => (pool.slots i).nextFree) pool.freeHead view.free
  unused : ∀ i < view.capacity, view.context i = none → i ∈ view.free
  live : pool.live + view.free.length = view.capacity
  callbacks : IndexTable.Refines IndexTable.hashKey view.capacity pool.callbackIndex index
  dest : HeadTable.Chained view.capacity pool.destIndex (fun i => (pool.slots i).nextByDest)
    (dests view.destIndex)
  narrow : ∀ entry ∈ view.destIndex, entry.destId < 2 ^ 64
  groups : Threaded pool.groups (fun i => (pool.slots i).groupHead) held
  edges : view.edges = held.map Prod.fst
  edgeCapacity : pool.groups.capacity = view.edgeCapacity
  small : view.edgeCapacity ≤ 2 ^ 32

namespace Represents

variable {pool : ConnectionManager} {view : Worker.ConnectionManager} {held : Held} {i : Nat}
  {ctx : ConnectionContext} {index : Table UInt64 UInt32}

theorem context (represents : Represents pool view held index) (i : Nat) :
    view.context i = if (pool.slots i).inUse then (pool.slots i).ctx else none := by
  rw [Worker.ConnectionManager.context, represents.slots]
  rfl

theorem generation (represents : Represents pool view held index) (i : Nat) :
    (view.slots i).generation = (pool.slots i).generation := by
  rw [represents.slots]
  rfl

theorem slot_of_context (represents : Represents pool view held index)
    (found : view.context i = some ctx) :
    (pool.slots i).inUse = true ∧ (pool.slots i).ctx = some ctx := by
  rw [represents.context] at found
  split at found
  · exact ⟨‹_›, found⟩
  · cases found

theorem context_isNone (represents : Represents pool view held index) (i : Nat) :
    (view.context i).isNone = !(pool.slots i).inUse := by
  rw [represents.context]
  cases used : (pool.slots i).inUse with
  | false => rfl
  | true => simpa [Option.isNone_eq_false_iff, Option.isSome_iff_ne_none]
      using represents.written i used

theorem slotFor (represents : Represents pool view held index) (handle : SessionHandle) :
    pool.slotFor handle = view.slotFor handle := by
  unfold ConnectionManager.slotFor Worker.ConnectionManager.slotFor
  rw [represents.capacity, represents.context_isNone, represents.generation]
  cases (pool.slots handle.slot).inUse <;> simp

theorem byToken (represents : Represents pool view held index) (token : ConnToken) :
    pool.byToken token = view.byToken token := by
  unfold ConnectionManager.byToken Worker.ConnectionManager.byToken
    Worker.ConnectionManager.slotFor
  rw [represents.nodeId, represents.workerId, represents.incarnation, represents.capacity,
    represents.context_isNone, represents.generation]
  cases (pool.slots token.slot).inUse <;> simp

theorem slot_le (represents : Represents pool view held index) : view.capacity ≤ 2 ^ 32 := by
  have enough : view.capacity ≤ view.edgeCapacity :=
    Nat.le_mul_of_pos_right _ (by decide)
  exact enough.trans represents.small

/-! ## Destinations -/

theorem mem_dests {entries : List DestEntry} {entry : DestEntry} (listed : entry ∈ entries) :
    ((entry.realm, UInt64.ofNat entry.destId), entry.slot) ∈ dests entries :=
  List.mem_map.mpr ⟨_, listed, rfl⟩

/-- The slots of a destination's chain. -/
theorem cells_dests (represents : Represents pool view held index) (realm : RealmId) (destId : UInt64) :
    Chain.cells (realm, destId) (dests view.destIndex) =
      (view.destIndex.filter fun entry =>
        entry.realm = realm && entry.destId = destId.toNat).map DestEntry.slot := by
  simp only [Chain.cells, dests, List.filter_map, List.map_map, Function.comp_def]
  congr 1
  refine List.filter_congr fun entry listed => ?_
  have same : UInt64.ofNat entry.destId = destId ↔ entry.destId = destId.toNat := by
    rw [← UInt64.toNat_inj, UInt64.toNat_ofNat_of_lt' (represents.narrow entry listed)]
  rw [← Bool.decide_and, decide_eq_decide, Prod.mk.injEq, same]

theorem destConnections (represents : Represents pool view held index) (realm : RealmId)
    (destId : UInt64) :
    pool.destConnections realm destId = some (view.destConnections realm destId.toNat) := by
  unfold ConnectionManager.destConnections Worker.ConnectionManager.destConnections
  by_cases none_ : destId = 0
  · rw [if_pos none_, if_pos (by simp [none_])]
  rw [if_neg none_, if_neg (by simpa [← UInt64.toNat_inj] using none_), ← represents.cells_dests]
  rcases represents.dest.find realm destId with ⟨found, empty⟩ | ⟨place, rest, found, -⟩
  · rw [found, empty]
    rfl
  · rw [found, Option.bind_some]
    exact represents.dest.walk found (represents.capacity ▸ represents.dest.few)

/-! ## Groups -/

/-- The edges of a group's chain. -/
theorem cells_members (represents : Represents pool view held index) (realm : RealmId)
    (groupId : UInt64) :
    Chain.cells (realm, groupId) held.members = (held.filter fun entry =>
      entry.1.realm = realm && entry.1.groupId = groupId.toNat).map Prod.snd := by
  simp only [Chain.cells, Held.members, List.filter_map, List.map_map, Function.comp_def]
  congr 1
  refine List.filter_congr fun entry listed => ?_
  have records := represents.groups.records entry listed
  have same : UInt64.ofNat entry.1.groupId = groupId ↔ entry.1.groupId = groupId.toNat := by
    rw [records.key, ← records.groupId, UInt64.toNat_inj]
  rw [← Bool.decide_and, decide_eq_decide, Prod.mk.injEq, same]

theorem groupConnections (represents : Represents pool view held index) (realm : RealmId)
    (groupId : UInt64) :
    pool.groupConnections realm groupId = some (view.groupConnections realm groupId.toNat) := by
  unfold ConnectionManager.groupConnections Worker.ConnectionManager.groupConnections
  by_cases none_ : groupId = 0
  · rw [if_pos none_, if_pos (by simp [none_])]
  rw [if_neg none_, if_neg (by simpa [← UInt64.toNat_inj] using none_), represents.edges,
    List.filter_map, List.map_map]
  have listed := represents.cells_members realm groupId
  rcases represents.groups.members.find realm groupId with ⟨found, empty⟩ | ⟨place, rest, found, -⟩
  · rw [empty, eq_comm, List.map_eq_nil_iff] at listed
    rw [found, Option.bind_some]
    simp only [Function.comp_def, listed, List.map_nil]
  · rw [found, Option.bind_some]
    have walked := represents.groups.members.walk found
      (held.length_members ▸ represents.groups.length_le)
    change Option.map _ (Chain.walk (fun i => (pool.groups.edges i).nextInGroup) _ _) = _
    rw [walked, listed, Option.map_some, List.map_map]
    refine congrArg some (List.map_congr_left fun entry member => ?_)
    exact (represents.groups.records entry (List.mem_filter.mp member).1).slot

theorem edgeOf (represents : Represents pool view held index) (i : Nat) (realm : RealmId)
    (groupId : UInt64) :
    ∃ found, pool.edgeOf i realm groupId = some found ∧
      (∀ place, found = some place →
        ({ realm := realm, groupId := groupId.toNat, slot := i }, place) ∈ held) ∧
      (found.isSome = true ↔
        { realm := realm, groupId := groupId.toNat, slot := i } ∈ view.edges) := by
  obtain ⟨found, searched, held_, absent⟩ := ConnectionManager.edgeOf_eq represents.groups i realm
    groupId
  refine ⟨found, searched, held_, ?_⟩
  rw [represents.edges]
  cases found with
  | none => simpa using absent rfl
  | some place => exact iff_of_true rfl (List.mem_map_of_mem (held_ place rfl))

theorem isGroupMember (represents : Represents pool view held index) (handle : SessionHandle)
    (groupId : UInt64) :
    pool.isGroupMember handle groupId = some (view.isGroupMember handle groupId.toNat) := by
  unfold ConnectionManager.isGroupMember Worker.ConnectionManager.isGroupMember
  by_cases none_ : groupId = 0
  · rw [if_pos none_, if_pos (by simp [none_])]
  rw [if_neg none_, if_neg (by simpa [← UInt64.toNat_inj] using none_), represents.slotFor]
  cases resolved : view.slotFor handle with
  | none => rfl
  | some slot =>
      obtain ⟨-, -, ctx, found⟩ := Worker.ConnectionManager.slotFor_eq_some resolved
      obtain ⟨-, written⟩ := represents.slot_of_context found
      obtain ⟨edge, searched, -, iff⟩ := represents.edgeOf slot ctx.realm groupId
      simp only [written, searched, found, Option.bind_eq_bind, Option.bind_some, Option.any_some,
        Option.some.injEq]
      rw [Bool.eq_iff_iff, iff, decide_eq_true_eq]

/-- Other memberships, and nothing else. -/
theorem setGroups (represents : Represents pool view held index) {heads : Nat → Option Nat}
    {groups : GroupIndex} {others : Held} (quota : Quota)
    (capacity : groups.capacity = pool.groups.capacity)
    (threaded : Threaded groups heads others) :
    Represents (pool.setGroups heads groups quota)
      { view with edges := others.map Prod.fst, groupQuota := quota } others index :=
  { represents with
    groupQuota := rfl
    groups := threaded
    edges := rfl
    edgeCapacity := capacity.trans represents.edgeCapacity }

theorem leaveAllGroups (represents : Represents pool view held index) (i : Nat) :
    ∃ after, ConnectionManager.leaveAllGroups i pool.groups.capacity pool = some after ∧
      Represents after (view.leaveAllGroups i) (held.others i) index := by
  have short : (held.ofSlot i).length ≤ pool.groups.capacity :=
    (List.length_filter_le _ _).trans represents.groups.length_le
  obtain ⟨heads, groups, left, capacity, threaded⟩ :=
    ConnectionManager.leaveAllGroups_eq represents.groups short
  refine ⟨_, left, ?_⟩
  have kept := represents.setGroups ((held.ofSlot i).foldl
    (fun quota entry => quota.release entry.1.realm) pool.groupQuota) capacity threaded
  unfold Worker.ConnectionManager.leaveAllGroups
  rw [represents.edges, List.filter_map, List.filter_map, List.foldl_map, ← represents.groupQuota]
  exact kept

theorem leaveGroup (represents : Represents pool view held index) (indexed : view.Indexed)
    (handle : SessionHandle) (groupId : UInt64) :
    ∃ after others, pool.leaveGroup handle groupId = some after ∧
      Represents after (view.leaveGroup handle groupId.toNat) others index := by
  unfold ConnectionManager.leaveGroup Worker.ConnectionManager.leaveGroup
  rw [represents.slotFor, Worker.ConnectionManager.getByHandle]
  cases resolved : view.slotFor handle with
  | none => exact ⟨pool, held, rfl, represents⟩
  | some slot =>
      obtain ⟨same, -, ctx, found⟩ := Worker.ConnectionManager.slotFor_eq_some resolved
      obtain ⟨-, written⟩ := represents.slot_of_context found
      obtain ⟨edge, searched, listed, iff⟩ := represents.edgeOf slot ctx.realm groupId
      simp only [written, searched, found, Option.bind_eq_bind, Option.bind_some, ← same]
      cases edge with
      | none =>
          rw [if_neg (by simpa using iff)]
          exact ⟨pool, held, rfl, represents⟩
      | some place =>
          rw [if_pos (iff.mp rfl)]
          have member := listed place rfl
          obtain ⟨heads, groups, released, capacity, threaded⟩ :=
            ConnectionManager.releaseGroupEdge_eq represents.groups member
          refine ⟨_, held.drop place, released, ?_⟩
          have kept := represents.setGroups (pool.groupQuota.release ctx.realm) capacity threaded
          rw [represents.groups.edges_drop (represents.edges ▸ indexed.edgeOnce) member,
            ← represents.edges] at kept
          rw [← represents.groupQuota]
          exact kept

theorem joinGroup (represents : Represents pool view held index) (handle : SessionHandle)
    (groupId : UInt64) :
    ∃ after others, pool.joinGroup handle groupId =
        some ((joined view handle groupId.toNat).1, after) ∧
      Represents after (joined view handle groupId.toNat).2 others index := by
  unfold ConnectionManager.joinGroup joined Worker.ConnectionManager.joinGroup
  by_cases none_ : groupId = 0
  · rw [if_pos none_, if_pos (by simp [none_])]
    exact ⟨_, held, rfl, represents⟩
  rw [if_neg none_, if_neg (by simpa [← UInt64.toNat_inj] using none_), represents.slotFor,
    represents.isGroupMember, Worker.ConnectionManager.getByHandle]
  cases resolved : view.slotFor handle with
  | none => exact ⟨_, held, rfl, represents⟩
  | some slot =>
      obtain ⟨same, -, ctx, found⟩ := Worker.ConnectionManager.slotFor_eq_some resolved
      obtain ⟨-, written⟩ := represents.slot_of_context found
      have full := represents.groups.freeHead_eq_none
      have lengths : (held.map Prod.fst).length = held.length := List.length_map _
      rw [represents.edgeCapacity, ← lengths, ← represents.edges] at full
      simp only [written, found, Option.bind_eq_bind, Option.bind_some, ← same]
      cases view.isGroupMember handle groupId.toNat with
      | true => exact ⟨_, held, rfl, represents⟩
      | false =>
          simp only [Bool.false_eq_true, ↓reduceIte]
          cases free : pool.groups.freeHead with
          | none =>
              rw [if_pos (full.mp free)]
              exact ⟨_, held, rfl, represents⟩
          | some place =>
              have room : ¬ view.edgeCapacity ≤ view.edges.length := by
                intro most
                cases free.symm.trans (full.mpr most)
              rw [if_neg room]
              cases allowed : view.groupQuota.allows ctx.realm with
              | false =>
                  simp only [represents.groupQuota, allowed, ↓reduceIte]
                  exact ⟨_, held, rfl, represents⟩
              | true =>
                  obtain ⟨heads, groups, taken, capacity, threaded⟩ :=
                    ConnectionManager.takeEdge_eq represents.groups free
                      (represents.edgeCapacity ▸ represents.small) slot ctx.realm none_
                  have grown := represents.setGroups (pool.groupQuota.acquire ctx.realm) capacity
                    threaded
                  rw [List.map_cons, ← represents.edges, represents.groupQuota] at grown
                  simp only [represents.groupQuota, allowed, Bool.true_eq_false, ↓reduceIte,
                    taken, Option.map_some]
                  exact ⟨_, _, rfl, grown⟩

/-! ## Binding -/

/-- A new slot in the place of one that has the same field. -/
theorem update_field {α : Type} (field : Slot → α) {slots : Nat → Slot} {new : Slot}
    (same : field new = field (slots i)) :
    (fun j => field (Function.update slots i new j)) = fun j => field (slots j) :=
  (Function.comp_update field slots i new).trans (Function.update_eq_self_iff.mpr same)

/-- The context of a connection is written in place. -/
theorem setCtx (represents : Represents pool view held index) (found : view.context i = some ctx)
    (change : ConnectionContext → ConnectionContext) :
    Represents (pool.setCtx i (change ctx)) (view.modify i change) held index := by
  obtain ⟨used, written⟩ := represents.slot_of_context found
  let new : Slot := { pool.slots i with ctx := some (change ctx) }
  have fields {α : Type} (field : Slot → α) (same : field new = field (pool.slots i)) :=
    update_field field same
  refine { represents with
    slots := ?_, written := ?_, free := ?_, unused := ?_, dest := ?_, groups := ?_ }
  · funext j
    by_cases here : j = i
    · subst here
      simp [ConnectionManager.setCtx, ConnectionManager.setSlot, Worker.ConnectionManager.modify,
        represents.slots, Slot.view, used, written]
    · simp [ConnectionManager.setCtx, ConnectionManager.setSlot, Worker.ConnectionManager.modify,
        represents.slots, here]
  · intro j busy
    by_cases here : j = i
    · subst here
      simp [ConnectionManager.setCtx, ConnectionManager.setSlot]
    · have kept : (pool.setCtx i (change ctx)).slots j = pool.slots j := by
        simp [ConnectionManager.setCtx, ConnectionManager.setSlot, here]
      rw [kept] at busy ⊢
      exact represents.written j busy
  · exact fields Slot.nextFree rfl ▸ represents.free
  · intro j bound none_
    refine represents.unused j bound ?_
    rw [Worker.ConnectionManager.context_modify] at none_
    by_cases here : j = i
    · subst here
      simp [found] at none_
    · rwa [Function.update_of_ne here] at none_
  · exact fields Slot.nextByDest rfl ▸ represents.dest
  · exact fields Slot.groupHead rfl ▸ represents.groups

/-- Other destinations, and nothing else. -/
theorem setDests (represents : Represents pool view held index) {table : HeadTable}
    {next : Nat → Option Nat} {entries : List DestEntry}
    (chained : HeadTable.Chained view.capacity table next (dests entries))
    (narrow : ∀ entry ∈ entries, entry.destId < 2 ^ 64) :
    Represents (pool.setDests table next) { view with destIndex := entries } held index :=
  { represents with
    dest := chained
    narrow := narrow }

theorem context_unbindDest (found : view.context i = some ctx) :
    (view.unbindDest i).context = Function.update view.context i (some (ctx.setDest 0)) := by
  unfold Worker.ConnectionManager.unbindDest
  simp only [found]
  split
  · rename_i none_
    have same : ctx.setDest 0 = ctx := by
      rw [← none_]
      rfl
    rw [same, Function.update_eq_self_iff.mpr found.symm]
  · change (view.modify i _).context = _
    rw [Worker.ConnectionManager.context_modify, found]
    rfl

/-- The destination index has no other entry of the slot. -/
theorem dests_erase (indexed : view.Indexed) (found : view.context i = some ctx) :
    dests (view.destIndex.erase { realm := ctx.realm, destId := ctx.destId, slot := i }) =
      Chain.without i (dests view.destIndex) := by
  rw [indexed.destOnce.erase_eq_filter]
  simp only [dests, Chain.without, List.filter_map, Function.comp_def]
  congr 1
  refine List.filter_congr fun entry listed => ?_
  have same : entry = { realm := ctx.realm, destId := ctx.destId, slot := i } ↔ entry.slot = i := by
    refine ⟨fun equal => congrArg DestEntry.slot equal, fun here => ?_⟩
    obtain ⟨-, own, live, realm, dest⟩ := (indexed.dest entry).mp listed
    rw [here, found, Option.some.injEq] at live
    subst live
    cases entry
    simp_all
  by_cases here : entry.slot = i
  · simp [same.mpr here]
  · simp [here, mt same.mp here]

theorem unbindDest (represents : Represents pool view held index) (indexed : view.Indexed)
    (found : view.context i = some ctx) :
    ∃ after, pool.unbindDest i = some after ∧
      Represents after (view.unbindDest i) held index := by
  obtain ⟨-, written⟩ := represents.slot_of_context found
  unfold ConnectionManager.unbindDest Worker.ConnectionManager.unbindDest
  simp only [written, found, Option.bind_eq_bind, Option.bind_some]
  by_cases unaddressed : ctx.destId = 0
  · rw [if_pos unaddressed, if_pos unaddressed]
    exact ⟨pool, rfl, represents⟩
  rw [if_neg unaddressed, if_neg unaddressed]
  have listed : { realm := ctx.realm, destId := ctx.destId, slot := i } ∈ view.destIndex :=
    (indexed.dest _).mpr ⟨unaddressed, ctx, found, rfl, rfl⟩
  have cleared := represents.setCtx found fun ctx => ctx.setDest 0
  rcases cleared.dest.find ctx.realm (.ofNat ctx.destId) with ⟨-, empty⟩ | ⟨place, rest, at_, -⟩
  · have inside := Chain.mem_cells.mpr (mem_dests listed)
    have none_ : i ∈ ([] : List Nat) := empty ▸ inside
    simp at none_
  obtain ⟨table, next, unlinked, chained, -, -⟩ := cleared.dest.unlink (mem_dests listed) at_
    (represents.capacity ▸ represents.dest.few)
  have ended : HeadTable.Chained view.capacity table (Function.update next i none)
      (dests (view.destIndex.erase { realm := ctx.realm, destId := ctx.destId, slot := i })) := by
    rw [dests_erase indexed found]
    refine chained.congr fun entry kept => ?_
    rw [Function.update_of_ne (Chain.mem_without.mp kept).2]
  refine ⟨(pool.setCtx i (ctx.setDest 0)).setDests table (Function.update next i none), ?_,
    cleared.setDests ended fun entry kept => represents.narrow entry (List.mem_of_mem_erase kept)⟩
  exact Option.bind_eq_some_iff.mpr ⟨some place, at_,
    Option.bind_eq_some_iff.mpr ⟨(table, next), unlinked, rfl⟩⟩

/-- Slots that do not repeat and leave one out are fewer than there are. -/
theorem length_lt {slots : List Nat} {capacity : Nat} (outside : i ∉ slots) (once : slots.Nodup)
    (bound : i < capacity) (bounds : ∀ slot ∈ slots, slot < capacity) :
    slots.length < capacity := by
  have within : i :: slots ⊆ List.range capacity :=
    List.cons_subset.mpr ⟨List.mem_range.mpr bound, fun slot listed =>
      List.mem_range.mpr (bounds slot listed)⟩
  have short := (List.subperm_of_subset (List.nodup_cons.mpr ⟨outside, once⟩) within).length_le
  rwa [List.length_cons, List.length_range] at short

/-- Once a connection has left its chain there is room for it in another. -/
theorem room_unbindDest (indexed : view.Indexed) (found : view.context i = some ctx)
    (once : ((dests (view.unbindDest i).destIndex).map Prod.snd).Nodup) :
    i ∉ (dests (view.unbindDest i).destIndex).map Prod.snd ∧
      (dests (view.unbindDest i).destIndex).length < view.capacity := by
  have others := Worker.ConnectionManager.mem_destIndex_unbindDest indexed found
  have outside : i ∉ (dests (view.unbindDest i).destIndex).map Prod.snd := by
    intro inside
    obtain ⟨_, listed, rfl⟩ := List.mem_map.mp inside
    obtain ⟨entry, listed, same⟩ := List.mem_map.mp listed
    exact ((others entry).mp listed).1 (congrArg Prod.snd same)
  have bound := length_lt outside once (indexed.handle _ ctx found).1 fun slot listed => by
    obtain ⟨_, there, rfl⟩ := List.mem_map.mp listed
    obtain ⟨entry, kept, rfl⟩ := List.mem_map.mp there
    obtain ⟨-, own, live, -⟩ := (indexed.dest entry).mp ((others entry).mp kept).2
    exact (indexed.handle _ own live).1
  exact ⟨outside, by rwa [List.length_map] at bound⟩

theorem bindDest (represents : Represents pool view held index) (indexed : view.Indexed)
    (handle : SessionHandle) (destId : UInt64) :
    ∃ after, pool.bindDest handle destId = some after ∧
      Represents after (view.bindDest handle destId.toNat) held index := by
  unfold ConnectionManager.bindDest Worker.ConnectionManager.bindDest
  rw [represents.slotFor]
  cases resolved : view.slotFor handle with
  | none => exact ⟨pool, rfl, represents⟩
  | some slot =>
      obtain ⟨-, -, ctx, found⟩ := Worker.ConnectionManager.slotFor_eq_some resolved
      obtain ⟨-, written⟩ := represents.slot_of_context found
      simp only [written, found, Option.bind_eq_bind, Option.bind_some]
      by_cases same : ctx.destId = destId.toNat
      · rw [if_pos same, if_pos same]
        exact ⟨pool, rfl, represents⟩
      rw [if_neg same, if_neg same]
      obtain ⟨unbound, cleared, middle⟩ := represents.unbindDest indexed found
      have freed : (view.unbindDest slot).context slot = some (ctx.setDest 0) := by
        rw [context_unbindDest found, Function.update_self]
      obtain ⟨-, left⟩ := middle.slot_of_context freed
      have bound := middle.setCtx freed fun ctx => ctx.setDest destId.toNat
      simp only [cleared, left, Option.bind_some]
      by_cases none_ : destId = 0
      · rw [if_pos none_, if_pos (by simp [none_])]
        exact ⟨_, rfl, bound⟩
      rw [if_neg none_, if_neg (by simpa [← UInt64.toNat_inj] using none_)]
      obtain ⟨fresh, room⟩ := room_unbindDest indexed found middle.dest.once
      have bounds := (indexed.handle slot ctx found).1.trans_le represents.slot_le
      have same : (view.unbindDest slot).capacity = view.capacity :=
        Worker.ConnectionManager.capacity_unbindDest slot
      rw [← same] at room
      obtain ⟨table, next, linked, chained, -⟩ :=
        bound.dest.link ctx.realm none_ bounds room fresh
      refine ⟨(unbound.setCtx slot ((ctx.setDest 0).setDest destId.toNat)).setDests table next,
        Option.bind_eq_some_iff.mpr ⟨(table, next), linked, rfl⟩, ?_⟩
      refine bound.setDests ?_ ?_
      · simpa [dests] using chained
      · exact List.forall_mem_cons.mpr ⟨destId.toNat_lt, bound.narrow⟩

/-! ## Slots -/

theorem length_free_lt (indexed : view.Indexed) (found : view.context i = some ctx) :
    i ∉ view.free ∧ view.free.length < view.capacity := by
  have busy : i ∉ view.free := by
    intro unused
    rw [(indexed.free i unused).1] at found
    cases found
  exact ⟨busy, length_lt busy indexed.freeOnce (indexed.handle i ctx found).1
    fun slot listed => (indexed.free slot listed).2⟩

theorem freeSlot (represents : Represents pool view held index)
    (found : view.context i = some ctx) (busy : i ∉ view.free)
    (room : view.free.length < view.capacity) :
    Represents (pool.freeSlot i ctx.realm) {
      view with
      slots := Function.update view.slots i { view.slots i with ctx := none }
      free := i :: view.free
      connQuota := view.connQuota.release ctx.realm } held index := by
  let new : Slot := { pool.slots i with
    inUse := false
    nextFree := pool.freeHead }
  have fields {α : Type} (field : Slot → α) (same : field new = field (pool.slots i)) :=
    update_field field same
  refine { represents with
    connQuota := congrArg (·.release ctx.realm) represents.connQuota
    slots := ?_, written := ?_, free := ?_, unused := ?_, live := ?_, dest := ?_, groups := ?_ }
  · funext j
    by_cases here : j = i
    · subst here
      simp [ConnectionManager.freeSlot, ConnectionManager.setSlot, represents.slots, Slot.view]
    · simp [ConnectionManager.freeSlot, ConnectionManager.setSlot, represents.slots, here]
  · intro j used
    by_cases here : j = i
    · subst here
      simp [ConnectionManager.freeSlot, ConnectionManager.setSlot] at used
    · simp only [ConnectionManager.freeSlot, ConnectionManager.setSlot,
        Function.update_of_ne here] at used ⊢
      exact represents.written j used
  · refine ⟨rfl, ?_⟩
    simp only [ConnectionManager.freeSlot, ConnectionManager.setSlot, Function.update_self]
    refine represents.free.congr fun other listed => ?_
    rw [Function.update_of_ne (ne_of_mem_of_not_mem listed busy)]
  · intro j bound none_
    by_cases here : j = i
    · exact here ▸ List.mem_cons_self
    · refine List.mem_cons_of_mem i (represents.unused j bound ?_)
      simpa [Worker.ConnectionManager.context, here] using none_
  · have live := represents.live
    simp only [ConnectionManager.freeSlot, List.length_cons]
    omega
  · exact fields Slot.nextByDest rfl ▸ represents.dest
  · exact fields Slot.groupHead rfl ▸ represents.groups

theorem releaseSlot (represents : Represents pool view held index) (indexed : view.Indexed)
    (found : view.context i = some ctx) :
    ∃ after others, pool.releaseSlot i = some after ∧
      Represents after (view.releaseSlot i) others index := by
  obtain ⟨unbound, cleared, middle⟩ := represents.unbindDest indexed found
  obtain ⟨left, ended, alone⟩ := middle.leaveAllGroups i
  obtain ⟨busy, room⟩ := length_free_lt indexed found
  have freed : ((view.unbindDest i).leaveAllGroups i).context i = some (ctx.setDest 0) := by
    have same := context_unbindDest found
    change (view.unbindDest i).context i = _
    rw [same, Function.update_self]
  obtain ⟨-, written⟩ := alone.slot_of_context freed
  have free : (view.unbindDest i).free = view.free := Worker.ConnectionManager.free_unbindDest i
  have capacity : (view.unbindDest i).capacity = view.capacity :=
    Worker.ConnectionManager.capacity_unbindDest i
  rw [← free] at busy room
  rw [← capacity] at room
  have given := alone.freeSlot freed busy room
  refine ⟨left.freeSlot i ctx.realm, held.others i, ?_, ?_⟩
  · exact Option.bind_eq_some_iff.mpr ⟨unbound, cleared, Option.bind_eq_some_iff.mpr
      ⟨left, ended, Option.bind_eq_some_iff.mpr ⟨_, written, rfl⟩⟩⟩
  · unfold Worker.ConnectionManager.releaseSlot
    rw [found]
    exact given

/-- A free slot is taken by a connection. -/
theorem takeSlot (represents : Represents pool view held index) (indexed : view.Indexed)
    {rest : List Nat} (starts : view.free = i :: rest) (new : ConnectionContext)
    (generation : Nat) {callbackIndex : IndexTable} {grown : Table UInt64 UInt32}
    (callbacks : IndexTable.Refines IndexTable.hashKey view.capacity callbackIndex grown)
    (quota : Quota) :
    Represents {
      pool.setSlot i { ctx := some new, generation := generation, inUse := true } with
      freeHead := (pool.slots i).nextFree
      callbackIndex := callbackIndex
      connQuota := quota
      live := pool.live + 1 } {
      view with
      free := rest
      slots := Function.update view.slots i { ctx := some new, generation := generation }
      connQuota := quota } held grown := by
  obtain ⟨unused, -⟩ := indexed.free i (starts ▸ List.mem_cons_self)
  have once := starts ▸ indexed.freeOnce
  have links := starts ▸ represents.free
  have elsewhere {slot : Nat} {own : ConnectionContext} (live : view.context slot = some own) :
      slot ≠ i := by
    rintro rfl
    rw [unused] at live
    cases live
  refine { represents with
    connQuota := rfl
    slots := ?_, written := ?_, free := ?_, unused := ?_, live := ?_, callbacks := callbacks
    dest := ?_, groups := ?_ }
  · funext j
    by_cases here : j = i
    · subst here
      simp [ConnectionManager.setSlot, Slot.view]
    · simp [ConnectionManager.setSlot, represents.slots, here]
  · intro j used
    by_cases here : j = i
    · subst here
      simp [ConnectionManager.setSlot]
    · simp only [ConnectionManager.setSlot, Function.update_of_ne here] at used ⊢
      exact represents.written j used
  · refine links.2.congr fun other listed => ?_
    have differ := ne_of_mem_of_not_mem listed (List.nodup_cons.mp once).1
    simp [ConnectionManager.setSlot, differ]
  · intro j bound none_
    by_cases here : j = i
    · subst here
      simp [Worker.ConnectionManager.context] at none_
    · have before : view.context j = none := by
        simpa [Worker.ConnectionManager.context, here] using none_
      have listed := represents.unused j bound before
      rw [starts] at listed
      exact (List.mem_cons.mp listed).resolve_left here
  · have live := represents.live
    rw [starts, List.length_cons] at live
    simp only
    omega
  · refine represents.dest.congr fun entry listed => ?_
    obtain ⟨own, there, rfl⟩ := List.mem_map.mp listed
    obtain ⟨-, ctx, live, -⟩ := (indexed.dest own).mp there
    simp [ConnectionManager.setSlot, elsewhere live]
  · have headless : (pool.slots i).groupHead = none := by
      rw [represents.groups.bySlot.head_eq_none]
      intro entry listed
      obtain ⟨own, there, rfl⟩ := List.mem_map.mp listed
      have member : own.1 ∈ view.edges := represents.edges ▸ List.mem_map_of_mem there
      obtain ⟨-, ctx, live, -⟩ := indexed.edge own.1 member
      exact elsewhere live
    have heads := @update_field i _ Slot.groupHead pool.slots
      { ctx := some new, generation := generation, inUse := true } headless.symm
    exact heads ▸ represents.groups

end Represents

/-- The pointers that lead to slots once a connection is in one. -/
def published (index : Table UInt64 UInt32) (transport : TransportSession) (slot : Nat) :
    Table UInt64 UInt32 :=
  match transport.callbackKey with
  | none => index
  | some key => index.insert (.ofNat key) (.ofNat slot)

/-- A pointer is not null, and has no more than 64 bits. -/
def Pointer (key : Nat) : Prop := 0 < key ∧ key < 2 ^ 64

instance (key : Nat) : Decidable (Pointer key) := inferInstanceAs (Decidable (_ ∧ _))

theorem Pointer.ne_zero {key : Nat} (pointer : Pointer key) : UInt64.ofNat key ≠ 0 := by
  intro zero
  have same := congrArg UInt64.toNat zero
  rw [UInt64.toNat_ofNat_of_lt' pointer.2] at same
  exact pointer.1.ne' same

namespace Represents

variable {pool : ConnectionManager} {view : Worker.ConnectionManager} {held : Held}
  {index : Table UInt64 UInt32}

theorem publish (represents : Represents pool view held index)
    (few : index.size ≤ view.capacity) {transport : TransportSession}
    (pointer : ∀ key, transport.callbackKey = some key → Pointer key) (i : Nat) :
    ∃ callbackIndex, pool.publish transport i = some callbackIndex ∧
      IndexTable.Refines IndexTable.hashKey view.capacity callbackIndex
        (published index transport i) := by
  unfold ConnectionManager.publish published
  cases named : transport.callbackKey with
  | none => exact ⟨_, rfl, represents.callbacks⟩
  | some key =>
      have known : (IndexTable.shape IndexTable.hashKey pool.callbackIndex.bits).key?
          ⟨.ofNat key, .ofNat i⟩ = some (.ofNat key) := if_neg (pointer key named).ne_zero
      obtain ⟨entries, written, implements⟩ :=
        represents.callbacks.implements.put (represents.callbacks.few few) known
      refine ⟨{ pool.callbackIndex with entries := entries }, ?_, represents.callbacks.bits,
        implements⟩
      simp [IndexTable.put, written]

/-- The callback index is written when the slot is taken, and only then. -/
theorem addSession (represents : Represents pool view held index) (indexed : view.Indexed)
    (few : index.size ≤ view.capacity) {transport : TransportSession}
    (pointer : ∀ key, transport.callbackKey = some key → Pointer key) (realm : RealmId)
    (peerNode : Bool) (now : Nat) :
    ∃ after, pool.addSession transport realm peerNode now =
        some ((added view transport realm peerNode now).1, after) ∧
      ((∃ error, (added view transport realm peerNode now).1 = .error error ∧
          (added view transport realm peerNode now).2 = view ∧ after = pool) ∨
        ∃ handle, view.addSession transport realm peerNode now =
            .ok (handle, (added view transport realm peerNode now).2) ∧
          Represents after (added view transport realm peerNode now).2 held
            (published index transport handle.slot)) := by
  unfold ConnectionManager.addSession added Worker.ConnectionManager.addSession
  have free := represents.free
  cases starts : view.free with
  | nil =>
      rw [starts] at free
      have ends : pool.freeHead = none := free
      rw [ends]
      exact ⟨pool, rfl, .inl ⟨_, rfl, rfl, rfl⟩⟩
  | cons i rest =>
      rw [starts] at free
      rw [free.1, represents.connQuota]
      cases allowed : view.connQuota.allows realm with
      | false => exact ⟨pool, rfl, .inl ⟨_, rfl, rfl, rfl⟩⟩
      | true =>
          simp only [Bool.true_eq_false, ↓reduceIte, represents.generation]
          obtain ⟨callbackIndex, put, callbacks⟩ := represents.publish few pointer i
          rw [put]
          exact ⟨_, rfl, .inr ⟨_, rfl, represents.takeSlot indexed starts _ _ callbacks _⟩⟩

end Represents

end LyuneGateway.Worker.SlotPool
