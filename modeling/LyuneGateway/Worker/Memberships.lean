import LyuneGateway.Lib.Run
import LyuneGateway.Worker.Address

/-!
# The groups of one connection

Every membership takes an edge out of one pool, which has as many edges as the
connections together may have groups. A connection that has all the groups it
may have still gets another one as long as the pool and its realm have room.
-/

namespace LyuneGateway.Worker

open Foundation Session

/-- What is done with connections and their groups. -/
inductive Operation where
  | add (transport : TransportSession) (realm : RealmId) (peerNode : Bool) (now : Nat)
  | remove (handle : SessionHandle)
  | joinGroup (handle : SessionHandle) (groupId : Nat)
  | leaveGroup (handle : SessionHandle) (groupId : Nat)

namespace ConnectionManager

variable {manager next : ConnectionManager} {handle : SessionHandle} {groupId : Nat}
  {ctx : ConnectionContext}

def perform (manager : ConnectionManager) : Operation → Except ConnectionError ConnectionManager
  | .add transport realm peerNode now =>
      (manager.addSession transport realm peerNode now).map Prod.snd
  | .remove handle => .ok (manager.removeSession handle)
  | .joinGroup handle groupId => manager.joinGroup handle groupId
  | .leaveGroup handle groupId => .ok (manager.leaveGroup handle groupId)

/-- Where an operation fails, nothing has been changed. -/
def after (manager : ConnectionManager) (operation : Operation) : ConnectionManager :=
  match manager.perform operation with
  | .ok next => next
  | .error _ => manager

/-- The edges of a connection, the last one first. -/
def memberships (manager : ConnectionManager) (slot : Nat) : List Edge :=
  manager.edges.filter fun edge => edge.slot = slot

/-- Look for a group among the edges of a connection: whether it is there, and at how many edges
was looked. -/
def findEdge (realm : RealmId) (groupId : Nat) : List Edge → Bool × Nat
  | [] => (false, 0)
  | edge :: rest =>
      if edge.groupId = groupId ∧ edge.realm = realm then (true, 1)
      else ((findEdge realm groupId rest).1, (findEdge realm groupId rest).2 + 1)

/-- The edges that are looked at to find out whether a connection is a member. -/
def memberSteps (manager : ConnectionManager) (handle : SessionHandle) (groupId : Nat) : Nat :=
  match manager.getByHandle handle with
  | none => 0
  | some ctx => (findEdge ctx.realm groupId (manager.memberships handle.slot)).2

theorem findEdge_fst {realm : RealmId} {slot : Nat} {edges : List Edge}
    (own : ∀ edge ∈ edges, edge.slot = slot) : (findEdge realm groupId edges).1 =
      decide ({ realm := realm, groupId := groupId, slot := slot } ∈ edges) := by
  induction edges with
  | nil => rfl
  | cons edge rest ih =>
      have here := own edge List.mem_cons_self
      have rest := ih fun other listed => own other (List.mem_cons_of_mem edge listed)
      rw [findEdge]
      split
      · rename_i found
        obtain ⟨rfl, rfl⟩ := found
        subst here
        simp
      · rename_i other
        have different : ({ realm := realm, groupId := groupId, slot := slot } : Edge) ≠ edge := by
          rintro rfl
          exact other ⟨rfl, rfl⟩
        simp only [rest, List.mem_cons, different, false_or]

theorem findEdge_snd (realm : RealmId) (edges : List Edge) :
    (findEdge realm groupId edges).2 ≤ edges.length := by
  induction edges with
  | nil => exact le_rfl
  | cons edge rest ih =>
      rw [findEdge]
      split
      · exact Nat.succ_le_succ (Nat.zero_le _)
      · exact Nat.succ_le_succ ih

/-- The walk finds what the connection is a member of. -/
theorem isGroupMember_eq_findEdge (found : manager.getByHandle handle = some ctx)
    (grouped : groupId ≠ 0) : manager.isGroupMember handle groupId =
      (findEdge ctx.realm groupId (manager.memberships handle.slot)).1 := by
  obtain ⟨resolved, held⟩ := getByHandle_eq_some found
  rw [@findEdge_fst _ _ handle.slot]
  · simp [isGroupMember, grouped, resolved, held, memberships]
  · intro edge listed
    simpa using (List.mem_filter.mp listed).2

theorem memberSteps_le (manager : ConnectionManager) (handle : SessionHandle) (groupId : Nat) :
    manager.memberSteps handle groupId ≤ (manager.memberships handle.slot).length := by
  rw [memberSteps]
  split
  · exact Nat.zero_le _
  · exact findEdge_snd _ _

/-! ## One operation -/

/-- A connection that has as many groups as it may have joins another one, and there is room. -/
def Overfills (manager : ConnectionManager) : Operation → Prop
  | .joinGroup handle groupId => ∃ ctx, manager.getByHandle handle = some ctx ∧ groupId ≠ 0 ∧
      manager.isGroupMember handle groupId = false ∧
      maxGroupsPerConnection ≤ (manager.memberships handle.slot).length ∧
      manager.edges.length < manager.edgeCapacity ∧ manager.groupQuota.allows ctx.realm = true
  | _ => False

/-- What is to hold of an operation and of the state that it leaves. -/
structure Capped (manager : ConnectionManager) (operation : Operation) : Prop where
  few : ∀ slot, ((manager.after operation).memberships slot).length ≤ maxGroupsPerConnection
  refuses : ∀ handle groupId ctx, operation = .joinGroup handle groupId →
    manager.getByHandle handle = some ctx → groupId ≠ 0 →
    manager.isGroupMember handle groupId = false →
    maxGroupsPerConnection ≤ (manager.memberships handle.slot).length →
    (∃ error, manager.perform operation = .error error) ∧ manager.after operation = manager
  once : (manager.after operation).edges.Nodup ∧
    ∀ handle groupId next, operation = .joinGroup handle groupId →
      manager.perform operation = .ok next → next.joinGroup handle groupId = .ok next
  short : ∀ handle groupId,
    (manager.after operation).memberSteps handle groupId ≤ maxGroupsPerConnection

/-- A membership that is new needs room in the pool and in the quota, and takes both. -/
theorem joinGroup_new (found : manager.getByHandle handle = some ctx) (grouped : groupId ≠ 0)
    (outside : manager.isGroupMember handle groupId = false)
    (roomy : manager.edges.length < manager.edgeCapacity)
    (allowed : manager.groupQuota.allows ctx.realm = true) :
    manager.joinGroup handle groupId = .ok { manager with
      edges := { realm := ctx.realm, groupId := groupId, slot := handle.slot } :: manager.edges
      groupQuota := manager.groupQuota.acquire ctx.realm } := by
  simp [joinGroup, grouped, found, outside, not_le.mpr roomy, allowed]

theorem joinGroup_eq_ok (joined : manager.joinGroup handle groupId = .ok next) :
    next = manager ∧ (groupId = 0 ∨ manager.getByHandle handle = none ∨
        manager.isGroupMember handle groupId = true) ∨
      ∃ ctx, manager.getByHandle handle = some ctx ∧ groupId ≠ 0 ∧
      manager.isGroupMember handle groupId = false ∧
      manager.edges.length < manager.edgeCapacity ∧
      manager.groupQuota.allows ctx.realm = true ∧
      next = { manager with
        edges := { realm := ctx.realm, groupId := groupId, slot := handle.slot } :: manager.edges
        groupQuota := manager.groupQuota.acquire ctx.realm } := by
  unfold joinGroup at joined
  split at joined
  · exact .inl ⟨(Except.ok.inj joined).symm, .inl ‹_›⟩
  rename_i grouped
  split at joined
  · exact .inl ⟨(Except.ok.inj joined).symm, .inr (.inl ‹_›)⟩
  rename_i ctx found
  split at joined
  · exact .inl ⟨(Except.ok.inj joined).symm, .inr (.inr ‹_›)⟩
  rename_i outside
  split at joined
  · cases joined
  rename_i roomy
  split at joined
  · cases joined
  rename_i allowed
  exact .inr ⟨ctx, found, grouped, by simpa using outside, not_le.mp roomy, by simpa using allowed,
    (Except.ok.inj joined).symm⟩

/-- Whoever has joined a group joins it again without a change. -/
theorem joinGroup_again (joined : manager.joinGroup handle groupId = .ok next) :
    next.joinGroup handle groupId = .ok next := by
  obtain ⟨rfl, -⟩ | ⟨ctx, found, grouped, -, -, -, rfl⟩ := joinGroup_eq_ok joined
  · exact joined
  · obtain ⟨resolved, held⟩ := getByHandle_eq_some found
    rw [joinGroup, if_neg grouped]
    split
    · rfl
    · rename_i own again
      cases found.symm.trans again
      rw [if_pos]
      rw [isGroupMember, if_neg grouped]
      split
      · rename_i nothing
        cases resolved.symm.trans nothing
      · rename_i slot known
        obtain rfl := Option.some.inj (resolved.symm.trans known)
        change ((manager.context handle.slot).any _) = true
        simp [held]

/-- The edges of a connection get more by a new membership only. -/
theorem length_memberships_after (operation : Operation) (slot : Nat) :
    ((manager.after operation).memberships slot).length ≤ (manager.memberships slot).length ∨
      ∃ handle groupId ctx, operation = .joinGroup handle groupId ∧ handle.slot = slot ∧
        manager.getByHandle handle = some ctx ∧ groupId ≠ 0 ∧
        manager.isGroupMember handle groupId = false ∧
        manager.edges.length < manager.edgeCapacity ∧
        manager.groupQuota.allows ctx.realm = true ∧
        ((manager.after operation).memberships slot).length =
          (manager.memberships slot).length + 1 := by
  have fewer : ∀ next : ConnectionManager, next.edges.Sublist manager.edges →
      (next.memberships slot).length ≤ (manager.memberships slot).length :=
    fun _ fewer => (fewer.filter _).length_le
  cases operation with
  | add transport realm peerNode now =>
      left
      apply fewer
      rw [after, perform]
      cases added : manager.addSession transport realm peerNode now with
      | error error => exact List.Sublist.refl _
      | ok both =>
          obtain ⟨-, -, -, -, -, -, -, -, -, edges⟩ := addSession_eq_ok added
          exact edges ▸ List.Sublist.refl _
  | remove handle =>
      left
      apply fewer
      change (manager.removeSession handle).edges.Sublist manager.edges
      rw [removeSession]
      split
      · exact List.Sublist.refl _
      · rename_i slot resolved
        obtain ⟨-, -, ctx, held⟩ := slotFor_eq_some resolved
        rw [edges_releaseSlot held]
        exact List.filter_sublist
  | leaveGroup handle groupId =>
      left
      apply fewer
      change (manager.leaveGroup handle groupId).edges.Sublist manager.edges
      rw [leaveGroup]
      split
      · exact List.Sublist.refl _
      split
      · exact List.erase_sublist
      · exact List.Sublist.refl _
  | joinGroup handle groupId =>
      rw [after, perform]
      cases joined : manager.joinGroup handle groupId with
      | error error => exact .inl le_rfl
      | ok next =>
          obtain ⟨rfl, -⟩ | ⟨ctx, found, grouped, outside, roomy, allowed, rfl⟩ :=
            joinGroup_eq_ok joined
          · exact .inl le_rfl
          by_cases same : handle.slot = slot
          · exact .inr ⟨handle, groupId, ctx, rfl, same, found, grouped, outside, roomy, allowed,
              by simp [memberships, same]⟩
          · left
            simp [memberships, same]

theorem Indexed.after (indexed : manager.Indexed) (operation : Operation) :
    (manager.after operation).Indexed := by
  cases operation with
  | add transport realm peerNode now =>
      rw [ConnectionManager.after, perform]
      cases added : manager.addSession transport realm peerNode now with
      | error error => exact indexed
      | ok both => exact indexed.addSession added
  | remove handle => exact indexed.removeSession handle
  | leaveGroup handle groupId => exact indexed.leaveGroup handle groupId
  | joinGroup handle groupId =>
      rw [ConnectionManager.after, perform]
      cases joined : manager.joinGroup handle groupId with
      | error error => exact indexed
      | ok next => exact indexed.joinGroup joined

/-- No connection has more groups than it may have. -/
def Few (manager : ConnectionManager) : Prop :=
  ∀ slot, (manager.memberships slot).length ≤ maxGroupsPerConnection

theorem Few.after {operation : Operation} (few : manager.Few)
    (spared : ¬ manager.Overfills operation) : (manager.after operation).Few := by
  intro slot
  obtain fewer | ⟨handle, groupId, ctx, rfl, rfl, found, grouped, outside, roomy, allowed, more⟩ :=
    @length_memberships_after manager operation slot
  · exact fewer.trans (few slot)
  · rw [more]
    by_contra beyond
    exact spared ⟨ctx, found, grouped, outside, Nat.lt_succ_iff.mp (not_le.mp beyond), roomy,
      allowed⟩

theorem capped_iff {operation : Operation} (indexed : manager.Indexed) (few : manager.Few) :
    manager.Capped operation ↔ ¬ manager.Overfills operation := by
  constructor
  · intro capped overfills
    cases operation with
    | joinGroup handle groupId =>
        obtain ⟨ctx, found, grouped, outside, full, roomy, allowed⟩ := overfills
        obtain ⟨⟨error, failed⟩, -⟩ := capped.refuses handle groupId ctx rfl found grouped outside
          full
        rw [perform, joinGroup_new found grouped outside roomy allowed] at failed
        cases failed
    | _ => exact overfills
  · intro spared
    refine ⟨few.after spared, ?_, ⟨(indexed.after operation).edgeOnce, ?_⟩, fun handle groupId =>
      (memberSteps_le _ handle groupId).trans (few.after spared handle.slot)⟩
    · rintro handle groupId ctx rfl found grouped outside full
      cases answer : manager.perform (.joinGroup handle groupId) with
      | error error => exact ⟨⟨error, rfl⟩, by rw [after, answer]⟩
      | ok next =>
          obtain ⟨rfl, none_ | gone | inside⟩ | ⟨ctx, found, grouped, outside, roomy, allowed, -⟩ :=
            joinGroup_eq_ok answer
          · exact absurd none_ grouped
          · cases found.symm.trans gone
          · cases outside.symm.trans inside
          · exact absurd ⟨ctx, found, grouped, outside, full, roomy, allowed⟩ spared
    · rintro handle groupId next rfl joined
      exact joinGroup_again joined

/-! ## Runs -/

theorem few_init (maxConnections nodeId workerId incarnation : Nat) :
    (init maxConnections nodeId workerId incarnation).Few :=
  fun _ => Nat.zero_le _

/-- With a single connection the pool has no room for more than it may have. -/
theorem spares_single {operation : Operation} (single : manager.capacity ≤ 1) :
    ¬ manager.Overfills operation := by
  cases operation with
  | joinGroup handle groupId =>
      rintro ⟨ctx, -, -, -, full, roomy, -⟩
      have fewer : (manager.memberships handle.slot).length ≤ manager.edges.length :=
        List.length_filter_le _ _
      have pool : manager.edgeCapacity ≤ 1 * maxGroupsPerConnection :=
        Nat.mul_le_mul_right _ single
      omega
  | _ => exact id

theorem capacity_after (operation : Operation) :
    (manager.after operation).capacity = manager.capacity := by
  cases operation with
  | add transport realm peerNode now =>
      rw [after, perform]
      cases added : manager.addSession transport realm peerNode now with
      | error error => rfl
      | ok both =>
          obtain ⟨-, -, -, -, -, -, -, capacity, -⟩ := addSession_eq_ok added
          exact capacity
  | remove handle =>
      change (manager.removeSession handle).capacity = manager.capacity
      rw [removeSession]
      split
      · rfl
      · rw [releaseSlot]
        split
        · rfl
        · exact capacity_unbindDest _
  | leaveGroup handle groupId =>
      change (manager.leaveGroup handle groupId).capacity = manager.capacity
      rw [leaveGroup]
      split
      · rfl
      split <;> rfl
  | joinGroup handle groupId =>
      rw [after, perform]
      cases joined : manager.joinGroup handle groupId with
      | error error => rfl
      | ok next =>
          obtain ⟨rfl, -⟩ | ⟨-, -, -, -, -, -, rfl⟩ := joinGroup_eq_ok joined <;> rfl

/-- A first connection joins a number of groups. -/
def flood (count : Nat) : List Operation :=
  .add { kind := .rawQuic, ptr := 0 } 0 false 0 ::
    (List.range count).map fun groupId =>
      .joinGroup { slot := 0, generation := 1 } (groupId + 1)

theorem flood_succ (count : Nat) : flood (count + 1) =
    flood count ++ [.joinGroup { slot := 0, generation := 1 } (count + 1)] := by
  simp [flood, List.range_succ]

/-- What there is when the first connection has joined a number of groups. -/
structure Flooded (maxConnections count : Nat) (manager : ConnectionManager) : Prop where
  live : ∃ ctx, manager.getByHandle { slot := 0, generation := 1 } = some ctx ∧ ctx.realm = 0
  edges : manager.edges = (List.range count).reverse.map fun groupId =>
    { realm := 0, groupId := groupId + 1, slot := 0 }
  capacity : manager.capacity = maxConnections
  total : manager.groupQuota.total ≤ count
  pool : manager.groupQuota.capacity = maxConnections * maxGroupsPerConnection
  watermark : manager.groupQuota.watermarkPercent = defaultWatermarkPercent

theorem Flooded.length {maxConnections count : Nat} (flooded : Flooded maxConnections count manager) :
    (manager.memberships 0).length = count := by
  rw [memberships, flooded.edges, List.filter_eq_self.mpr]
  · simp
  · simp

theorem Flooded.outside {maxConnections count : Nat} (flooded : Flooded maxConnections count manager) :
    manager.isGroupMember { slot := 0, generation := 1 } (count + 1) = false := by
  obtain ⟨ctx, found, realm⟩ := flooded.live
  obtain ⟨resolved, held⟩ := getByHandle_eq_some found
  rw [isGroupMember, if_neg (Nat.succ_ne_zero count), resolved]
  simp [held, flooded.edges]

theorem Flooded.roomy {maxConnections count : Nat} (flooded : Flooded maxConnections count manager)
    (several : 2 ≤ maxConnections) (few : count ≤ maxGroupsPerConnection) :
    manager.edges.length < manager.edgeCapacity ∧ manager.groupQuota.allows 0 = true := by
  have total := flooded.total
  constructor
  · rw [flooded.edges, edgeCapacity, flooded.capacity]
    simp only [List.length_map, List.length_reverse, List.length_range, maxGroupsPerConnection] at *
    omega
  · rw [Quota.allows]
    split
    · rfl
    rw [if_pos]
    rw [flooded.pool, flooded.watermark]
    simp only [maxGroupsPerConnection, defaultWatermarkPercent] at *
    omega

theorem flooded_zero (others nodeId workerId incarnation : Nat) : Flooded (others + 1) 0
    (Run.final after (init (others + 1) nodeId workerId incarnation) (flood 0)) := by
  let start := init (others + 1) nodeId workerId incarnation
  have positive : max (others + 1) 1 = others + 1 := Nat.max_eq_left (Nat.le_add_left 1 others)
  have free : start.free = 0 :: (List.range others).map Nat.succ := by
    change List.range (max (others + 1) 1) = _
    rw [positive, List.range_succ_eq_map]
  have allowed : start.connQuota.allows 0 = true := by
    rw [Quota.allows]
    split
    · rfl
    · rw [if_pos]
      change 0 * 100 < max (max (others + 1) 1) 1 * 70
      omega
  let ctx : ConnectionContext := {
    sessionHandle := { slot := 0, generation := 1 }
    transport := { kind := .rawQuic, ptr := 0 }
    realm := 0
    connectedAt := 0 }
  have entered : Run.final after start (flood 0) = { start with
      free := (List.range others).map Nat.succ
      slots := Function.update start.slots 0 { ctx := some ctx, generation := 1 }
      connQuota := start.connQuota.acquire 0 } := by
    simp only [flood, List.range_zero, List.map_nil, Run.final_cons, Run.final_nil, after, perform,
      addSession, free, allowed]
    rfl
  have capacity : start.capacity = others + 1 := positive
  rw [entered]
  exact {
    live := ⟨ctx, by simp [getByHandle, slotFor, context, capacity], rfl⟩
    edges := rfl
    capacity := capacity
    total := le_rfl
    pool := by
      change max (max (others + 1) 1 * maxGroupsPerConnection) 1 = _
      rw [positive]
      exact Nat.max_eq_left (Nat.mul_pos (Nat.succ_pos others) (by decide))
    watermark := rfl }

/-- The pool of several connections has room for all groups of the first one. -/
theorem flooded {maxConnections nodeId workerId incarnation count : Nat}
    (several : 2 ≤ maxConnections) (few : count ≤ maxGroupsPerConnection) :
    Flooded maxConnections count
      (Run.final after (init maxConnections nodeId workerId incarnation) (flood count)) := by
  induction count with
  | zero =>
      obtain ⟨others, rfl⟩ : ∃ others, maxConnections = others + 1 := ⟨maxConnections - 1, by omega⟩
      exact flooded_zero others nodeId workerId incarnation
  | succ count ih =>
      have flooded := ih (Nat.le_of_succ_le few)
      obtain ⟨roomy, allowed⟩ := flooded.roomy several (Nat.le_of_succ_le few)
      obtain ⟨ctx, found, realm⟩ := flooded.live
      have joined := joinGroup_new found (Nat.succ_ne_zero count) flooded.outside roomy
        (realm ▸ allowed)
      rw [flood_succ, Run.final_append, Run.final_cons, Run.final_nil, after, perform, joined]
      exact {
        live := ⟨ctx, found, realm⟩
        edges := by
          rw [List.range_succ, List.reverse_append, flooded.edges, realm]
          rfl
        capacity := flooded.capacity
        total := by
          have total := flooded.total
          simp only [Quota.acquire]
          split
          · exact Nat.le_succ_of_le total
          · exact Nat.succ_le_succ total
        pool := by
          rw [← flooded.pool]
          simp only [Quota.acquire]
          split <;> rfl
        watermark := by
          rw [← flooded.watermark]
          simp only [Quota.acquire]
          split <;> rfl }

/-- A run keeps to the cap if and only if nobody who has as many groups as a connection may have
joins another one while the pool and the realm have room. That is so of all runs if and only if
there is room for one connection only. -/
theorem groups_are_capped (maxConnections nodeId workerId incarnation : Nat) :
    let start := init maxConnections nodeId workerId incarnation
    (∀ operations, Run.Meets after Capped start operations ↔
      Run.Meets after (fun manager operation => ¬ manager.Overfills operation) start operations) ∧
    ((∀ operations, Run.Meets after Capped start operations) ↔ maxConnections ≤ 1) := by
  intro start
  have exact_ (operations : List Operation) : Run.Meets after Capped start operations ↔
      Run.Meets after (fun manager operation => ¬ manager.Overfills operation) start operations :=
    Run.meets_iff_of_invariant (fun manager => manager.Indexed ∧ manager.Few)
      ⟨Indexed.init _ _ _ _, few_init _ _ _ _⟩
      (fun manager operation holds capped => ⟨holds.1.after operation, capped.few⟩)
      fun manager operation holds => capped_iff holds.1 holds.2
  refine ⟨exact_, ⟨fun all => ?_, fun single operations => (exact_ operations).mpr ?_⟩⟩
  · by_contra several
    have several : 2 ≤ maxConnections := by omega
    have flooded := @flooded maxConnections nodeId workerId incarnation _ several le_rfl
    obtain ⟨roomy, allowed⟩ := flooded.roomy several le_rfl
    obtain ⟨ctx, found, realm⟩ := flooded.live
    have spared := (exact_ _).mp (all (flood (maxGroupsPerConnection + 1)))
    rw [flood_succ, Run.meets_append] at spared
    exact spared.2.1 ⟨ctx, found, Nat.succ_ne_zero _, flooded.outside, flooded.length.ge, roomy,
      realm ▸ allowed⟩
  · apply @Run.meets_of_invariant _ _ _ _ fun manager : ConnectionManager => manager.capacity ≤ 1
    · exact max_le single le_rfl
    · exact fun manager operation single _ => (capacity_after operation).trans_le single
    · exact fun manager operation single => spares_single single

/-- With room for two connections, the first one gets nine groups. -/
theorem nine_groups : ¬ Run.Meets after Capped (init 2 1 0 7) (flood 9) := by
  intro capped
  have few := Run.invariant (fun manager operation _ capped => capped.few)
    (few_init 2 1 0 7) capped
  have nine : ((Run.final after (init 2 1 0 7) (flood 9)).memberships 0).length = 9 := by
    decide +kernel
  exact absurd (nine ▸ few 0) (by decide)

end ConnectionManager

end LyuneGateway.Worker
