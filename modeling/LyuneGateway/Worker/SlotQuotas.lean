import LyuneGateway.Backend.Integrity
import LyuneGateway.Foundation.Shares
import LyuneGateway.Worker.Memberships
import LyuneGateway.Worker.SlotPoolRuns
import LyuneGateway.Worker.Tenancy

/-!
# The shares of a slot pool

A connection takes one unit of the share of its realm and a membership takes
another, and both come back with the slot whichever way it is given up. So what
a realm is refused for is what its connections hold, and never what is gone.
-/

namespace LyuneGateway.Worker

open Foundation Session

open Backend.Store.Shows (holds_acquire holds_release)

/-- Clearing one place takes one value from those that a function has over a list. -/
theorem perm_filterMap_update {α : Type} {places : List Nat} (once : places.Nodup) {place : Nat}
    (listed : place ∈ places) {f : Nat → Option α} {value : α} (found : f place = some value) :
    (places.filterMap f).Perm (value :: places.filterMap (Function.update f place none)) := by
  have apart : place ∉ places.erase place := once.not_mem_erase
  have first := (List.perm_cons_erase listed).filterMap f
  have rest := (List.perm_cons_erase listed).filterMap (Function.update f place none)
  rw [List.filterMap_cons_some found] at first
  rw [List.filterMap_cons_none (Function.update_self ..)] at rest
  have same : (places.erase place).filterMap (Function.update f place none) =
      (places.erase place).filterMap f := by
    refine List.filterMap_congr fun other member => ?_
    rw [Function.update_of_ne]
    rintro rfl
    exact apart member
  rw [same] at rest
  exact first.trans (rest.symm.cons value)

namespace ConnectionManager

/-- The realms of the connections, one for each slot in use. -/
def realms (manager : ConnectionManager) : List RealmId :=
  (List.range manager.capacity).filterMap fun slot => (manager.context slot).map (·.realm)

/-- Each quota counts what the connections hold, realm for realm. Realms past the tracked ones are
not counted. -/
structure Charged (manager : ConnectionManager) : Prop where
  connLimits : manager.connQuota.limits =
    (maxTrackedRealms, manager.capacity, defaultWatermarkPercent)
  groupLimits : manager.groupQuota.limits =
    (maxTrackedRealms, manager.edgeCapacity, defaultWatermarkPercent)
  connections : manager.connQuota.Holds (manager.realms.filter (· < maxTrackedRealms))
  memberships : manager.groupQuota.Holds
    ((manager.edges.map Edge.realm).filter (· < maxTrackedRealms))
  room : manager.edges.length ≤ manager.edgeCapacity

variable {manager after : ConnectionManager} {slot : Nat} {ctx : ConnectionContext}

/-- The realm of the connection in a slot that is cleared is the one that goes. -/
theorem realms_clear (found : manager.context slot = some ctx) (bound : slot < manager.capacity)
    (capacity : after.capacity = manager.capacity)
    (cleared : after.context = Function.update manager.context slot none) :
    manager.realms.Perm (ctx.realm :: after.realms) := by
  let realmOf (slot : Nat) : Option RealmId := (manager.context slot).map (·.realm)
  have named : realmOf slot = some ctx.realm := by simp [realmOf, found]
  have parted := perm_filterMap_update List.nodup_range (List.mem_range.mpr bound) named
  refine parted.trans (List.Perm.of_eq ?_)
  rw [realms, capacity, cleared]
  congr 1
  refine List.filterMap_congr fun other _ => ?_
  by_cases here : other = slot
  · rw [here, Function.update_self, Function.update_self, Option.map_none]
  · rw [Function.update_of_ne here, Function.update_of_ne here]

namespace Charged

theorem connTracked (charged : manager.Charged) :
    manager.connQuota.tracked = maxTrackedRealms := congrArg Prod.fst charged.connLimits

theorem groupTracked (charged : manager.Charged) :
    manager.groupQuota.tracked = maxTrackedRealms := congrArg Prod.fst charged.groupLimits

theorem connCapacity (charged : manager.Charged) :
    manager.connQuota.capacity = manager.capacity :=
  congrArg (fun limits => limits.2.1) charged.connLimits

theorem groupCapacity (charged : manager.Charged) :
    manager.groupQuota.capacity = manager.edgeCapacity :=
  congrArg (fun limits => limits.2.1) charged.groupLimits

/-- No more memberships are counted than there are. -/
theorem total_le (charged : manager.Charged) :
    manager.groupQuota.total ≤ manager.edges.length := by
  rw [charged.memberships.total]
  exact (List.length_filter_le ..).trans_eq (List.length_map ..)

/-- Whatever leaves the realms, the memberships and the quotas alone leaves the books alone. -/
theorem congr (charged : manager.Charged) (capacity : after.capacity = manager.capacity)
    (realms : ∀ slot, (after.context slot).map (·.realm) = (manager.context slot).map (·.realm))
    (edges : after.edges = manager.edges) (connQuota : after.connQuota = manager.connQuota)
    (groupQuota : after.groupQuota = manager.groupQuota) : after.Charged := by
  have same : after.realms = manager.realms := by
    simp only [ConnectionManager.realms, capacity, realms]
  constructor
  · rw [connQuota, capacity]
    exact charged.connLimits
  · rw [groupQuota, edgeCapacity, capacity]
    exact charged.groupLimits
  · rw [connQuota, same]
    exact charged.connections
  · rw [groupQuota, edges]
    exact charged.memberships
  · rw [edges, edgeCapacity, capacity]
    exact charged.room

theorem init (maxConnections nodeId workerId incarnation : Nat) :
    (ConnectionManager.init maxConnections nodeId workerId incarnation).Charged := by
  have empty : (ConnectionManager.init maxConnections nodeId workerId incarnation).realms = [] := by
    simp [realms, context, ConnectionManager.init]
  constructor
  · simp [Quota.limits, ConnectionManager.init, Quota.init, maxTrackedRealms,
      defaultWatermarkPercent]
  · simp [Quota.limits, ConnectionManager.init, Quota.init, edgeCapacity, maxTrackedRealms,
      maxGroupsPerConnection, defaultWatermarkPercent]
    omega
  · rw [empty]
    exact .init _ _ _
  · exact .init _ _ _
  · exact Nat.zero_le _

/-- The books once a connection has come. -/
theorem addSession (charged : manager.Charged) (indexed : manager.Indexed)
    {transport : TransportSession} {realm : RealmId} {peerNode : Bool} {now : Nat}
    {handle : SessionHandle}
    (added : manager.addSession transport realm peerNode now = .ok (handle, after)) :
    after.Charged := by
  obtain ⟨slot, rest, free, -, -, holds, -, capacity, -, edges⟩ := addSession_eq_ok added
  obtain ⟨unused, bound⟩ := indexed.free slot (free ▸ List.mem_cons_self)
  have quotas : after.connQuota = manager.connQuota.acquire realm ∧
      after.groupQuota = manager.groupQuota := by
    unfold ConnectionManager.addSession at added
    split at added
    · cases added
    split at added
    · cases added
    cases added
    exact ⟨rfl, rfl⟩
  have cleared : manager.context = Function.update after.context slot none := by
    rw [holds, Function.update_idem, eq_comm, Function.update_eq_self_iff, unused]
  have parted := realms_clear (by rw [holds, Function.update_self]) (bound.trans_eq capacity.symm)
    capacity.symm cleared
  constructor
  · rw [quotas.1, Quota.limits_acquire, capacity]
    exact charged.connLimits
  · rw [quotas.2, edgeCapacity, capacity]
    exact charged.groupLimits
  · rw [quotas.1]
    exact (holds_acquire 1 charged.connTracked charged.connections).perm
      (parted.symm.filter _)
  · rw [quotas.2, edges]
    exact charged.memberships
  · rw [edges, edgeCapacity, capacity]
    exact charged.room

theorem joinGroup (charged : manager.Charged) {handle : SessionHandle} {groupId : Nat}
    (joined : manager.joinGroup handle groupId = .ok after) : after.Charged := by
  obtain ⟨rfl, -⟩ | ⟨ctx, -, -, -, roomy, -, rfl⟩ := joinGroup_eq_ok joined
  · exact charged
  constructor
  · exact charged.connLimits
  · exact (Quota.limits_acquire _ _).trans charged.groupLimits
  · exact charged.connections
  · exact holds_acquire 1 charged.groupTracked charged.memberships
  · exact roomy

theorem leaveGroup (charged : manager.Charged) (handle : SessionHandle) (groupId : Nat) :
    (manager.leaveGroup handle groupId).Charged := by
  unfold ConnectionManager.leaveGroup
  split
  · exact charged
  rename_i ctx found
  split
  · rename_i member
    constructor
    · exact charged.connLimits
    · exact (Quota.limits_release _ _).trans charged.groupLimits
    · exact charged.connections
    · have parted := ((List.perm_cons_erase member).map Edge.realm).filter (· < maxTrackedRealms)
      exact holds_release charged.groupTracked (charged.memberships.perm parted)
    · exact List.length_erase_le.trans charged.room
  · exact charged

theorem holds_foldl_release (leaving : List Edge) {staying : List RealmId} {quota : Quota}
    (tracked : quota.tracked = maxTrackedRealms)
    (holds : quota.Holds ((leaving.map Edge.realm ++ staying).filter (· < maxTrackedRealms))) :
    (leaving.foldl (fun quota edge => quota.release edge.realm) quota).Holds
      (staying.filter (· < maxTrackedRealms)) := by
  induction leaving generalizing quota with
  | nil => exact holds
  | cons edge leaving ih =>
      have kept : (quota.release edge.realm).tracked = maxTrackedRealms :=
        (congrArg Prod.fst (Quota.limits_release quota edge.realm)).trans tracked
      exact ih kept (holds_release tracked holds)

theorem leaveAllGroups (charged : manager.Charged) (slot : Nat) :
    (manager.leaveAllGroups slot).Charged where
  connLimits := charged.connLimits
  groupLimits := (Quota.limits_foldl_release Edge.realm _ _).trans charged.groupLimits
  connections := charged.connections
  memberships := by
    have parted := ((List.filter_append_perm (fun edge : Edge => edge.slot = slot)
      manager.edges).symm.map Edge.realm).filter (· < maxTrackedRealms)
    rw [List.map_append] at parted
    have left := holds_foldl_release _ charged.groupTracked
      (charged.memberships.perm parted)
    simpa [ConnectionManager.leaveAllGroups] using left
  room := (List.length_filter_le ..).trans charged.room

theorem modify (charged : manager.Charged) (slot : Nat)
    {change : ConnectionContext → ConnectionContext} (same : ∀ ctx, (change ctx).realm = ctx.realm) :
    (manager.modify slot change).Charged := by
  refine charged.congr rfl (fun other => ?_) rfl rfl rfl
  rw [context_modify]
  by_cases here : other = slot
  · rw [here, Function.update_self, Option.map_map]
    congr 1
    exact funext same
  · rw [Function.update_of_ne here]

theorem unbindDest (charged : manager.Charged) (slot : Nat) :
    (manager.unbindDest slot).Charged := by
  unfold ConnectionManager.unbindDest
  split
  · exact charged
  split
  · exact charged
  · have changed : (manager.modify slot fun ctx => ctx.setDest 0).Charged :=
      charged.modify slot fun _ => rfl
    exact changed.congr rfl (fun _ => rfl) rfl rfl rfl

theorem bindDest (charged : manager.Charged) (handle : SessionHandle) (destId : Nat) :
    (manager.bindDest handle destId).Charged := by
  unfold ConnectionManager.bindDest
  split
  · exact charged
  rename_i slot _
  split
  · exact charged
  split
  · exact charged
  have changed : ((manager.unbindDest slot).modify slot fun ctx => ctx.setDest destId).Charged :=
    (charged.unbindDest slot).modify slot fun _ => rfl
  split
  · exact changed
  · exact changed.congr rfl (fun _ => rfl) rfl rfl rfl

theorem releaseSlot (charged : manager.Charged) (indexed : manager.Indexed) (slot : Nat) :
    (manager.releaseSlot slot).Charged := by
  cases found : manager.context slot with
  | none =>
      rw [ConnectionManager.releaseSlot, found]
      exact charged
  | some ctx =>
      have cleared := context_releaseSlot found
      have capacity := (releaseSlot_frame found).2.1
      have parted := realms_clear found (indexed.handle slot ctx found).1 capacity cleared
      have left := (charged.unbindDest slot).leaveAllGroups slot
      have unspent : ((manager.unbindDest slot).leaveAllGroups slot).connQuota =
          manager.connQuota := by
        unfold ConnectionManager.leaveAllGroups ConnectionManager.unbindDest
        simp only [found]
        split <;> rfl
      have body : (manager.releaseSlot slot).connQuota = manager.connQuota.release ctx.realm := by
        simp only [ConnectionManager.releaseSlot, found, unspent]
      constructor
      · rw [body, Quota.limits_release, capacity]
        exact charged.connLimits
      · simp only [ConnectionManager.releaseSlot, found]
        exact left.groupLimits
      · rw [body]
        exact holds_release charged.connTracked
          (charged.connections.perm (parted.filter _))
      · simp only [ConnectionManager.releaseSlot, found]
        exact left.memberships
      · simp only [ConnectionManager.releaseSlot, found]
        exact left.room

/-- While a slot is free, fewer connections are counted than there are slots. -/
theorem total_lt (charged : manager.Charged) (bound : slot < manager.capacity)
    (unused : manager.context slot = none) :
    manager.connQuota.total < manager.connQuota.capacity := by
  have listed := List.perm_cons_erase (List.mem_range.mpr bound)
  have others := (listed.filterMap fun slot => (manager.context slot).map (·.realm)).length_eq
  rw [List.filterMap_cons_none (by simp [unused])] at others
  have fewer : manager.realms.length ≤ ((List.range manager.capacity).erase slot).length :=
    others.trans_le (List.length_filterMap_le ..)
  have all := listed.length_eq
  rw [List.length_cons, List.length_range] at all
  rw [charged.connections.total, charged.connCapacity]
  refine (List.length_filter_le ..).trans_lt ?_
  omega

theorem fair (charged : manager.Charged) : manager.connQuota.Fair ∧ manager.groupQuota.Fair := by
  constructor
  · refine charged.connections.fair ?_
    rw [charged.connections.total, charged.connCapacity]
    refine (List.length_filter_le ..).trans ((List.length_filterMap_le ..).trans ?_)
    rw [List.length_range]
  · refine charged.memberships.fair ?_
    rw [charged.groupCapacity]
    exact charged.total_le.trans charged.room

end Charged

end ConnectionManager

namespace SlotPool

open Worker.ConnectionManager (Charged)

/-- A call leaves the books right. -/
theorem charged_step {view : Worker.ConnectionManager} (indexed : view.Indexed)
    (charged : view.Charged) {call : Call} (proper : Proper view call) :
    (step view call).Charged := by
  cases call with
  | addSession transport realm peerNode now =>
      rw [step, answer, added]
      cases taken : view.addSession transport realm peerNode now with
      | error error => exact charged
      | ok result => exact charged.addSession indexed taken
  | removeSession handle =>
      rw [step, answer, Worker.ConnectionManager.removeSession]
      cases view.slotFor handle with
      | none => exact charged
      | some slot => exact charged.releaseSlot indexed slot
  | remove ptr =>
      rw [step, answer]
      cases view.pointed ptr.toNat with
      | none => exact charged
      | some slot => exact charged.releaseSlot indexed slot
  | bindDest handle destId => exact charged.bindDest handle destId.toNat
  | joinGroup handle groupId =>
      rw [step, answer, joined]
      cases result : view.joinGroup handle groupId.toNat with
      | error error => exact charged
      | ok changed => exact charged.joinGroup result
  | leaveGroup handle groupId => exact charged.leaveGroup handle groupId.toNat
  | write handle change =>
      rw [step, answer]
      cases view.slotFor handle with
      | none => exact charged
      | some slot => exact charged.modify slot fun ctx => (proper ctx).2.1
  | destConnections realm destId => exact charged
  | groupConnections realm groupId => exact charged
  | isGroupMember handle groupId => exact charged
  | getByRawQuic ptr => exact charged
  | byToken token => exact charged

theorem charged_run {view : Worker.ConnectionManager} (indexed : view.Indexed)
    (charged : view.Charged) {pool : ConnectionManager} (mirrors : Mirrors pool view)
    {calls : List Call} (proper : Run.Meets step Proper view calls) :
    (Run.final step view calls).Charged := by
  induction calls generalizing pool view with
  | nil => exact charged
  | cons call calls ih =>
      obtain ⟨middle, -, mirrored⟩ := mirrors.perform proper.1
      exact ih mirrored.indexed (charged_step indexed charged proper.1) mirrored proper.2

/-- The realms of the connections in the pool, one for each slot in use. -/
def ConnectionManager.realms (pool : ConnectionManager) : List RealmId :=
  (List.range pool.capacity).filterMap fun i => (pool.context i).map (·.realm)

/-- The list has every membership in the pool, once. -/
structure Memberships (pool : ConnectionManager) (edges : List Worker.Edge) : Prop where
  once : edges.Nodup
  all : ∀ edge, edge ∈ edges ↔ ∃ ctx groupId, pool.context edge.slot = some ctx ∧
    ctx.realm = edge.realm ∧ edge.groupId = groupId.toNat ∧
    pool.isGroupMember ctx.sessionHandle groupId = some true

/-- The shares count what is held, are fair, and refuse only realms that hold their share. -/
structure Shared (pool : ConnectionManager) : Prop where
  connections : pool.connQuota.Holds (pool.realms.filter (· < maxTrackedRealms))
  memberships : ∃ edges, Memberships pool edges ∧
    pool.groupQuota.Holds ((edges.map (·.realm)).filter (· < maxTrackedRealms))
  fair : pool.connQuota.Fair ∧ pool.groupQuota.Fair
  refusedSession : ∀ transport realm peerNode now after,
    pool.addSession transport realm peerNode now = some (.error .realmQuotaExceeded, after) →
    after = pool ∧ pool.connQuota.Refuses realm ∧ pool.connQuota.counts realm ≠ 0
  refusedGroup : ∀ handle groupId after,
    pool.joinGroup handle groupId = some (.error .realmQuotaExceeded, after) →
    ∃ ctx, pool.context handle.slot = some ctx ∧ pool.groupQuota.Refuses ctx.realm ∧
      pool.groupQuota.counts ctx.realm ≠ 0

namespace Mirrors

variable {pool : ConnectionManager} {view : Worker.ConnectionManager}

theorem memberships (mirrors : Mirrors pool view) : Memberships pool view.edges := by
  obtain ⟨indexed, held, index, represents, -⟩ := mirrors
  refine ⟨indexed.edgeOnce, fun edge => ?_⟩
  constructor
  · intro listed
    obtain ⟨-, ctx, found, same⟩ := indexed.edge edge listed
    obtain ⟨entry, stored, rfl⟩ := List.mem_map.mp (represents.edges ▸ listed)
    have number := (represents.groups.records entry stored).groupId
    refine ⟨ctx, (pool.groups.edges entry.2).groupId, (represents.context _).symm.trans found, same,
      number.symm, ?_⟩
    rw [represents.isGroupMember, Option.some.injEq, indexed.isGroupMember_iff found, number, same]
    exact listed
  · rintro ⟨ctx, groupId, found, same, number, member⟩
    have live : view.context edge.slot = some ctx := (represents.context _).trans found
    rw [represents.isGroupMember, Option.some.injEq, indexed.isGroupMember_iff live, ← number,
      same] at member
    exact member

theorem refusedSession (mirrors : Mirrors pool view) (charged : view.Charged)
    {transport : TransportSession} {realm : RealmId} {peerNode : Bool} {now : Nat}
    {after : ConnectionManager}
    (refused : pool.addSession transport realm peerNode now =
      some (.error .realmQuotaExceeded, after)) :
    after = pool ∧ pool.connQuota.Refuses realm ∧ pool.connQuota.counts realm ≠ 0 := by
  obtain ⟨indexed, held, index, represents, -⟩ := mirrors
  unfold ConnectionManager.addSession at refused
  split at refused
  · cases refused
  rename_i slot starts
  split at refused
  · rename_i disallowed
    cases refused
    obtain ⟨rest, free⟩ : ∃ rest, view.free = slot :: rest := by
      have chain := represents.free
      rw [starts] at chain
      cases listed : view.free with
      | nil =>
          rw [listed] at chain
          cases chain
      | cons first rest =>
          rw [listed] at chain
          rw [Option.some.inj chain.1]
          exact ⟨rest, rfl⟩
    obtain ⟨unused, bound⟩ := indexed.free slot (free ▸ List.mem_cons_self)
    rw [represents.connQuota] at disallowed ⊢
    exact ⟨rfl, charged.connections.refuses (charged.total_lt bound unused) disallowed⟩
  · obtain ⟨_, -, same⟩ := Option.map_eq_some_iff.mp refused
    cases same

theorem refusedGroup (mirrors : Mirrors pool view) (charged : view.Charged)
    {handle : SessionHandle} {groupId : UInt64} {after : ConnectionManager}
    (refused : pool.joinGroup handle groupId = some (.error .realmQuotaExceeded, after)) :
    ∃ ctx, pool.context handle.slot = some ctx ∧ pool.groupQuota.Refuses ctx.realm ∧
      pool.groupQuota.counts ctx.realm ≠ 0 := by
  obtain ⟨indexed, held, index, represents, -⟩ := mirrors
  obtain ⟨_, _, ran, -⟩ := represents.joinGroup handle groupId
  have answered : (joined view handle groupId.toNat).1 = .error .realmQuotaExceeded :=
    congrArg Prod.fst (Option.some.inj (ran.symm.trans refused))
  unfold joined Worker.ConnectionManager.joinGroup at answered
  split at answered
  · cases answered
  rename_i error rejected
  cases answered
  split at rejected
  · cases rejected
  split at rejected
  · cases rejected
  rename_i ctx found
  split at rejected
  · cases rejected
  split at rejected
  · cases rejected
  rename_i roomy
  split at rejected
  · rename_i disallowed
    have live := (Worker.ConnectionManager.getByHandle_eq_some found).2
    have room : view.groupQuota.total < view.groupQuota.capacity := by
      rw [charged.groupCapacity]
      exact charged.total_le.trans_lt (not_le.mp roomy)
    refine ⟨ctx, (represents.context _).symm.trans live, ?_⟩
    rw [represents.groupQuota]
    exact charged.memberships.refuses room disallowed
  · cases rejected

theorem shared (mirrors : Mirrors pool view) (charged : view.Charged) : Shared pool where
  connections := by
    obtain ⟨indexed, held, index, represents, -⟩ := mirrors
    have same : pool.realms = view.realms := by
      rw [ConnectionManager.realms, Worker.ConnectionManager.realms, represents.capacity]
      refine List.filterMap_congr fun i _ => ?_
      rw [represents.context]
      rfl
    rw [same, represents.connQuota]
    exact charged.connections
  memberships := by
    refine ⟨view.edges, mirrors.memberships, ?_⟩
    obtain ⟨indexed, held, index, represents, -⟩ := mirrors
    rw [represents.groupQuota]
    exact charged.memberships
  fair := by
    obtain ⟨indexed, held, index, represents, -⟩ := mirrors
    rw [represents.connQuota, represents.groupQuota]
    exact charged.fair
  refusedSession _ _ _ _ _ := mirrors.refusedSession charged
  refusedGroup _ _ _ := mirrors.refusedGroup charged

end Mirrors

/-- After any run both shares count what the connections hold then, and a realm that is refused
holds its share at that time. -/
theorem shares_count_what_is_held {maxConnections nodeId workerId incarnation : Nat}
    (small : max maxConnections 1 * maxGroupsPerConnection ≤ 2 ^ 32) {calls : List Call}
    (proper : Run.Meets step Proper (.init maxConnections nodeId workerId incarnation) calls) :
    ∃ given pool, (ConnectionManager.init maxConnections nodeId workerId incarnation).run calls =
      some (given, pool) ∧ Shared pool := by
  have start := init_mirrors maxConnections nodeId workerId incarnation small
  obtain ⟨pool, ran, mirrors⟩ := start.run proper
  have charged := charged_run start.indexed (Charged.init _ _ _ _) start proper
  exact ⟨_, pool, ran, mirrors.shared charged⟩

theorem shares_count_what_is_held_visit :
    ∃ given pool, (ConnectionManager.init 2 1 0 5).run visit = some (given, pool) ∧ Shared pool :=
  shares_count_what_is_held (by decide) visit_proper

end SlotPool

end LyuneGateway.Worker
