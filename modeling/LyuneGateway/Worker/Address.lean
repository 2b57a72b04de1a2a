import LyuneGateway.Worker.ClientEffect

/-!
# The indexes of a worker's connections

The destination index lists a connection exactly when the connection is bound to
the destination, and every group edge belongs to a connection of its realm. The
operations on connections keep both in step with the connections themselves.
-/

namespace LyuneGateway.Worker

open Foundation Io Protocol Session

namespace ConnectionManager

variable {manager : ConnectionManager}

@[simp] theorem context_modify (slot : Nat) (change : ConnectionContext → ConnectionContext) :
    (manager.modify slot change).context =
      Function.update manager.context slot ((manager.context slot).map change) := by
  funext other
  by_cases same : other = slot
  · subst same
    simp [context, modify]
  · simp [context, modify, same]

theorem context_modify_eq_some {slot other : Nat} {change : ConnectionContext → ConnectionContext}
    {ctx : ConnectionContext} (found : (manager.modify slot change).context other = some ctx) :
    ∃ old, manager.context other = some old ∧ (ctx = old ∨ other = slot ∧ ctx = change old) := by
  rw [context_modify] at found
  by_cases same : other = slot
  · subst same
    rw [Function.update_self, Option.map_eq_some_iff] at found
    obtain ⟨old, held, rfl⟩ := found
    exact ⟨old, held, .inr ⟨rfl, rfl⟩⟩
  · rw [Function.update_of_ne same] at found
    exact ⟨ctx, found, .inl rfl⟩

@[simp] theorem generation_modify (slot other : Nat)
    (change : ConnectionContext → ConnectionContext) :
    ((manager.modify slot change).slots other).generation = (manager.slots other).generation := by
  by_cases same : other = slot
  · subst same
    simp [modify]
  · simp [modify, same]

@[simp] theorem byToken_modify (slot : Nat) (change : ConnectionContext → ConnectionContext)
    (token : ConnToken) : (manager.modify slot change).byToken token = manager.byToken token := by
  have live (other : Nat) : ((manager.modify slot change).context other).isNone =
      (manager.context other).isNone := by
    rw [context_modify]
    by_cases here : other = slot
    · subst here
      simp
    · simp [here]
  simp only [byToken, slotFor, live, generation_modify]
  rfl

/-- No change of a destination gives anyone another name. -/
theorem byToken_bindDest (handle : SessionHandle) (destId : Nat) (token : ConnToken) :
    (manager.bindDest handle destId).byToken token = manager.byToken token := by
  have unbound (slot : Nat) : (manager.unbindDest slot).byToken token = manager.byToken token := by
    unfold unbindDest
    split
    · rfl
    split
    · rfl
    · change (manager.modify slot fun ctx => ctx.setDest 0).byToken token = _
      exact byToken_modify slot _ token
  unfold bindDest
  split
  · rfl
  split
  · rfl
  split
  · rfl
  rename_i slot _ _ ctx _ _
  have bound : ((manager.unbindDest slot).modify slot fun ctx => ctx.setDest destId).byToken token =
      manager.byToken token := (byToken_modify slot _ token).trans (unbound slot)
  simp only
  split <;> exact bound

/-- The indexes agree with the connections. -/
structure Indexed (manager : ConnectionManager) : Prop where
  handle : ∀ slot ctx, manager.context slot = some ctx → slot < manager.capacity ∧
    ctx.sessionHandle = { slot := slot, generation := (manager.slots slot).generation }
  free : ∀ slot ∈ manager.free, manager.context slot = none ∧ slot < manager.capacity
  freeOnce : manager.free.Nodup
  dest : ∀ entry, entry ∈ manager.destIndex ↔ entry.destId ≠ 0 ∧
    ∃ ctx, manager.context entry.slot = some ctx ∧ ctx.realm = entry.realm ∧
      ctx.destId = entry.destId
  destOnce : manager.destIndex.Nodup
  edge : ∀ edge ∈ manager.edges, edge.groupId ≠ 0 ∧
    ∃ ctx, manager.context edge.slot = some ctx ∧ ctx.realm = edge.realm
  edgeOnce : manager.edges.Nodup

theorem slotFor_eq_some {handle : SessionHandle} {slot : Nat}
    (found : manager.slotFor handle = some slot) :
    slot = handle.slot ∧ (manager.slots slot).generation = handle.generation ∧
      ∃ ctx, manager.context slot = some ctx := by
  unfold slotFor at found
  split at found
  · cases found
  split at found
  · cases found
  split at found
  · cases found
  · rename_i live current
    cases found
    refine ⟨rfl, by simpa using current, ?_⟩
    exact Option.ne_none_iff_exists'.mp (by simpa using live)

theorem getByHandle_eq_some {handle : SessionHandle} {ctx : ConnectionContext}
    (found : manager.getByHandle handle = some ctx) :
    manager.slotFor handle = some handle.slot ∧ manager.context handle.slot = some ctx := by
  obtain ⟨slot, resolved, held⟩ := Option.bind_eq_some_iff.mp found
  obtain ⟨rfl, -, -⟩ := slotFor_eq_some resolved
  exact ⟨resolved, held⟩

namespace Indexed

theorem slotFor (indexed : manager.Indexed) {slot : Nat} {ctx : ConnectionContext}
    (found : manager.context slot = some ctx) : manager.slotFor ctx.sessionHandle = some slot := by
  obtain ⟨bound, handle⟩ := indexed.handle slot ctx found
  simp [ConnectionManager.slotFor, handle, found, bound]

theorem getByHandle (indexed : manager.Indexed) {slot : Nat} {ctx : ConnectionContext}
    (found : manager.context slot = some ctx) :
    manager.getByHandle ctx.sessionHandle = some ctx := by
  simp [ConnectionManager.getByHandle, indexed.slotFor found, found]

theorem mem_destConnections (indexed : manager.Indexed) {realm : RealmId} {destId slot : Nat} :
    slot ∈ manager.destConnections realm destId ↔ destId ≠ 0 ∧
      ∃ ctx, manager.context slot = some ctx ∧ ctx.realm = realm ∧ ctx.destId = destId := by
  unfold destConnections
  split
  · simp [*]
  rename_i addressed
  simp only [List.mem_map, List.mem_filter, Bool.and_eq_true, decide_eq_true_eq]
  constructor
  · rintro ⟨entry, ⟨listed, rfl, rfl⟩, rfl⟩
    exact (indexed.dest entry).mp listed
  · rintro ⟨-, ctx, found, rfl, rfl⟩
    exact ⟨{ realm := ctx.realm, destId := ctx.destId, slot := slot },
      ⟨(indexed.dest _).mpr ⟨addressed, ctx, found, rfl, rfl⟩, rfl, rfl⟩, rfl⟩

theorem mem_groupConnections (indexed : manager.Indexed) {realm : RealmId} {groupId slot : Nat} :
    slot ∈ manager.groupConnections realm groupId ↔
      { realm := realm, groupId := groupId, slot := slot } ∈ manager.edges := by
  unfold groupConnections
  split
  · rename_i none_
    subst none_
    simp only [List.not_mem_nil, false_iff]
    intro listed
    exact (indexed.edge _ listed).1 rfl
  simp only [List.mem_map, List.mem_filter, Bool.and_eq_true, decide_eq_true_eq]
  constructor
  · rintro ⟨edge, ⟨listed, rfl, rfl⟩, rfl⟩
    exact listed
  · intro listed
    exact ⟨_, ⟨listed, rfl, rfl⟩, rfl⟩

theorem isGroupMember_iff (indexed : manager.Indexed) {slot groupId : Nat}
    {ctx : ConnectionContext} (found : manager.context slot = some ctx) :
    manager.isGroupMember ctx.sessionHandle groupId = true ↔
      { realm := ctx.realm, groupId := groupId, slot := slot } ∈ manager.edges := by
  unfold isGroupMember
  split
  · rename_i none_
    subst none_
    simp only [Bool.false_eq_true, false_iff]
    intro listed
    exact (indexed.edge _ listed).1 rfl
  · rw [indexed.slotFor found]
    simp [found]

theorem init (maxConnections nodeId workerId incarnation : Nat) :
    (ConnectionManager.init maxConnections nodeId workerId incarnation).Indexed where
  handle _ _ found := by simp [context, ConnectionManager.init] at found
  free slot listed := by
    refine ⟨rfl, ?_⟩
    simpa [ConnectionManager.init] using listed
  freeOnce := List.nodup_range
  dest entry := by simp [context, ConnectionManager.init]
  destOnce := List.nodup_nil
  edge _ listed := by simp [ConnectionManager.init] at listed
  edgeOnce := List.nodup_nil

/-- A change that leaves the name, the realm and the destination of a connection alone. -/
theorem modify (indexed : manager.Indexed) (slot : Nat)
    {change : ConnectionContext → ConnectionContext}
    (same : ∀ ctx, (change ctx).sessionHandle = ctx.sessionHandle ∧
      (change ctx).realm = ctx.realm ∧ (change ctx).destId = ctx.destId) :
    (manager.modify slot change).Indexed := by
  have back {other : Nat} {ctx : ConnectionContext}
      (found : (manager.modify slot change).context other = some ctx) :
      ∃ old, manager.context other = some old ∧ ctx.sessionHandle = old.sessionHandle ∧
        ctx.realm = old.realm ∧ ctx.destId = old.destId := by
    obtain ⟨old, held, rfl | ⟨-, rfl⟩⟩ := context_modify_eq_some found
    · exact ⟨_, held, rfl, rfl, rfl⟩
    · exact ⟨old, held, same old⟩
  have forth {other : Nat} {ctx : ConnectionContext} (found : manager.context other = some ctx) :
      ∃ new, (manager.modify slot change).context other = some new ∧ new.realm = ctx.realm ∧
        new.destId = ctx.destId := by
    rw [context_modify]
    by_cases here : other = slot
    · subst here
      exact ⟨change ctx, by simp [found], (same ctx).2⟩
    · exact ⟨ctx, by simp [here, found], rfl, rfl⟩
  constructor
  · intro other ctx found
    obtain ⟨old, held, sameHandle, -, -⟩ := back found
    rw [sameHandle, generation_modify]
    exact indexed.handle other old held
  · intro other listed
    obtain ⟨unused, bound⟩ := indexed.free other listed
    refine ⟨?_, bound⟩
    cases found : (manager.modify slot change).context other with
    | none => rfl
    | some ctx =>
        obtain ⟨old, held, -⟩ := back found
        rw [unused] at held
        cases held
  · exact indexed.freeOnce
  · intro entry
    refine (indexed.dest entry).trans (and_congr_right fun _ => ⟨?_, ?_⟩)
    · rintro ⟨ctx, found, realm, dest⟩
      obtain ⟨new, held, sameRealm, sameDest⟩ := forth found
      exact ⟨new, held, sameRealm.trans realm, sameDest.trans dest⟩
    · rintro ⟨ctx, found, realm, dest⟩
      obtain ⟨old, held, -, sameRealm, sameDest⟩ := back found
      exact ⟨old, held, sameRealm ▸ realm, sameDest ▸ dest⟩
  · exact indexed.destOnce
  · intro edge listed
    obtain ⟨grouped, ctx, found, sameRealm⟩ := indexed.edge edge listed
    obtain ⟨new, held, realm, -⟩ := forth found
    exact ⟨grouped, new, held, realm.trans sameRealm⟩
  · exact indexed.edgeOnce

end Indexed

/-- What the slots hold after a connection's destination has changed. -/
theorem context_bindDest (indexed : manager.Indexed) {slot : Nat} {ctx : ConnectionContext}
    (found : manager.context slot = some ctx) (destId : Nat) :
    (manager.bindDest ctx.sessionHandle destId).context =
      Function.update manager.context slot (some (ctx.setDest destId)) := by
  unfold bindDest
  rw [indexed.slotFor found]
  simp only [found]
  split
  · rename_i same
    rw [eq_comm, Function.update_eq_self_iff, found, ← same]
    rfl
  · have unbound : ((manager.unbindDest slot).modify slot fun ctx => ctx.setDest destId).context =
        Function.update manager.context slot (some (ctx.setDest destId)) := by
      unfold unbindDest
      simp only [found]
      split
      · simp [found]
      · rw [context_modify]
        change Function.update (manager.modify slot fun ctx => ctx.setDest 0).context slot
          (((manager.modify slot fun ctx => ctx.setDest 0).context slot).map _) = _
        simp [found, ConnectionContext.setDest]
    split <;> exact unbound

/-- Nothing but the context of one slot and the destination index differ. -/
structure Rebound (manager after : ConnectionManager) (slot : Nat) (ctx : ConnectionContext) :
    Prop where
  context : after.context = Function.update manager.context slot (some ctx)
  generation : ∀ other, (after.slots other).generation = (manager.slots other).generation
  capacity : after.capacity = manager.capacity
  free : after.free = manager.free
  edges : after.edges = manager.edges

theorem Rebound.indexed {after : ConnectionManager} {slot : Nat} {old ctx : ConnectionContext}
    (rebound : Rebound manager after slot ctx) (indexed : manager.Indexed)
    (found : manager.context slot = some old) (sameHandle : ctx.sessionHandle = old.sessionHandle)
    (sameRealm : ctx.realm = old.realm) (once : after.destIndex.Nodup)
    (listed : ∀ entry, entry ∈ after.destIndex ↔ entry.slot ≠ slot ∧ entry ∈ manager.destIndex ∨
      ctx.destId ≠ 0 ∧ entry = { realm := ctx.realm, destId := ctx.destId, slot := slot }) :
    after.Indexed where
  handle other own held := by
    rw [rebound.context] at held
    rw [rebound.capacity, rebound.generation]
    by_cases here : other = slot
    · subst here
      rw [Function.update_self, Option.some.injEq] at held
      rw [← held, sameHandle]
      exact indexed.handle other old found
    · rw [Function.update_of_ne here] at held
      exact indexed.handle other own held
  free other unused := by
    rw [rebound.free] at unused
    obtain ⟨empty, bound⟩ := indexed.free other unused
    refine ⟨?_, rebound.capacity ▸ bound⟩
    rw [rebound.context, Function.update_of_ne, empty]
    rintro rfl
    rw [empty] at found
    cases found
  freeOnce := rebound.free ▸ indexed.freeOnce
  dest entry := by
    rw [listed, rebound.context]
    by_cases here : entry.slot = slot
    · simp only [here, ne_eq, not_true_eq_false, false_and, false_or, Function.update_self,
        Option.some.injEq, exists_eq_left']
      constructor
      · rintro ⟨addressed, rfl⟩
        exact ⟨addressed, rfl, rfl⟩
      · rintro ⟨addressed, realm, dest⟩
        refine ⟨dest ▸ addressed, ?_⟩
        cases entry
        simp_all
    · simp only [here, ne_eq, not_false_eq_true, true_and, Function.update_of_ne]
      rw [indexed.dest]
      constructor
      · rintro (known | ⟨-, rfl⟩)
        · exact known
        · exact absurd rfl here
      · exact .inl
  destOnce := once
  edge edge member := by
    rw [rebound.edges] at member
    obtain ⟨grouped, own, held, realm⟩ := indexed.edge edge member
    refine ⟨grouped, ?_⟩
    rw [rebound.context]
    by_cases here : edge.slot = slot
    · rw [here, found, Option.some.injEq] at held
      exact ⟨ctx, by rw [here, Function.update_self], by rw [sameRealm, held, realm]⟩
    · exact ⟨own, by rw [Function.update_of_ne here, held], realm⟩
  edgeOnce := rebound.edges ▸ indexed.edgeOnce

/-- The destination index without a connection's own entry. -/
theorem mem_destIndex_unbindDest (indexed : manager.Indexed) {slot : Nat}
    {ctx : ConnectionContext} (found : manager.context slot = some ctx) (entry : DestEntry) :
    entry ∈ (manager.unbindDest slot).destIndex ↔
      entry.slot ≠ slot ∧ entry ∈ manager.destIndex := by
  have own (listed : entry ∈ manager.destIndex) (here : entry.slot = slot) :
      ctx.destId ≠ 0 ∧ entry = { realm := ctx.realm, destId := ctx.destId, slot := slot } := by
    obtain ⟨addressed, held, live, realm, dest⟩ := (indexed.dest entry).mp listed
    rw [here, found, Option.some.injEq] at live
    subst live
    refine ⟨dest ▸ addressed, ?_⟩
    cases entry
    simp_all
  unfold unbindDest
  simp only [found]
  split
  · rename_i unaddressed
    constructor
    · intro listed
      exact ⟨fun here => (own listed here).1 unaddressed, listed⟩
    · exact And.right
  · rw [indexed.destOnce.mem_erase_iff]
    constructor
    · rintro ⟨different, listed⟩
      exact ⟨fun here => different (own listed here).2, listed⟩
    · rintro ⟨elsewhere, listed⟩
      refine ⟨?_, listed⟩
      rintro rfl
      exact elsewhere rfl

theorem nodup_destIndex_unbindDest (indexed : manager.Indexed) (slot : Nat) :
    (manager.unbindDest slot).destIndex.Nodup := by
  unfold unbindDest
  split
  · exact indexed.destOnce
  split
  · exact indexed.destOnce
  · exact indexed.destOnce.erase _

@[simp] theorem capacity_unbindDest (slot : Nat) :
    (manager.unbindDest slot).capacity = manager.capacity := by
  unfold unbindDest
  split
  · rfl
  · split <;> rfl

@[simp] theorem free_unbindDest (slot : Nat) : (manager.unbindDest slot).free = manager.free := by
  unfold unbindDest
  split
  · rfl
  · split <;> rfl

@[simp] theorem edges_unbindDest (slot : Nat) :
    (manager.unbindDest slot).edges = manager.edges := by
  unfold unbindDest
  split
  · rfl
  · split <;> rfl

@[simp] theorem generation_unbindDest (slot other : Nat) :
    ((manager.unbindDest slot).slots other).generation = (manager.slots other).generation := by
  unfold unbindDest
  split
  · rfl
  split
  · rfl
  · exact generation_modify slot other _

/-- Binding takes the old entry away and puts a new one first. -/
theorem bindDest_eq (indexed : manager.Indexed) {slot destId : Nat} {ctx : ConnectionContext}
    (found : manager.context slot = some ctx) (different : ctx.destId ≠ destId) :
    manager.bindDest ctx.sessionHandle destId =
      { (manager.unbindDest slot).modify slot fun ctx => ctx.setDest destId with
        destIndex := if destId = 0 then (manager.unbindDest slot).destIndex
          else { realm := ctx.realm, destId := destId, slot := slot } ::
            (manager.unbindDest slot).destIndex } := by
  unfold bindDest
  rw [indexed.slotFor found]
  simp only [found, different, ↓reduceIte]
  split <;> rfl

theorem bindDest_same (indexed : manager.Indexed) {slot : Nat} {ctx : ConnectionContext}
    (found : manager.context slot = some ctx) :
    manager.bindDest ctx.sessionHandle ctx.destId = manager := by
  simp [bindDest, indexed.slotFor found, found]

theorem Indexed.bindDest (indexed : manager.Indexed) {slot : Nat} {ctx : ConnectionContext}
    (found : manager.context slot = some ctx) (destId : Nat) :
    (manager.bindDest ctx.sessionHandle destId).Indexed := by
  by_cases same : ctx.destId = destId
  · rw [← same, bindDest_same indexed found]
    exact indexed
  have index := mem_destIndex_unbindDest indexed found
  have once := nodup_destIndex_unbindDest indexed slot
  have rebound : Rebound manager (manager.bindDest ctx.sessionHandle destId) slot
      (ctx.setDest destId) := by
    refine ⟨context_bindDest indexed found destId, ?_, ?_, ?_, ?_⟩ <;>
      rw [bindDest_eq indexed found same]
    · intro other
      exact (generation_modify slot other _).trans (generation_unbindDest slot other)
    · exact capacity_unbindDest slot
    · exact free_unbindDest slot
    · exact edges_unbindDest slot
  refine rebound.indexed indexed found rfl rfl ?_ ?_ <;> rw [bindDest_eq indexed found same]
  · simp only
    split
    · exact once
    · refine List.nodup_cons.mpr ⟨fun listed => ?_, once⟩
      exact ((index _).mp listed).1 rfl
  · intro entry
    simp only [ConnectionContext.setDest]
    split
    · rename_i none_
      simp [index, none_]
    · rename_i addressed
      simp only [List.mem_cons, index]
      rw [or_comm]
      exact or_congr_right (by simp [addressed])

/-- Any handle is that of the connection it resolves to. -/
theorem Indexed.handle_of_slotFor (indexed : manager.Indexed) {handle : SessionHandle} {slot : Nat}
    {ctx : ConnectionContext} (resolved : manager.slotFor handle = some slot)
    (found : manager.context slot = some ctx) : ctx.sessionHandle = handle := by
  obtain ⟨rfl, generation, -⟩ := slotFor_eq_some resolved
  rw [(indexed.handle _ ctx found).2, generation]

theorem bindDest_of_slotFor_none {handle : SessionHandle} (gone : manager.slotFor handle = none)
    (destId : Nat) : manager.bindDest handle destId = manager := by
  simp [bindDest, gone]

theorem Indexed.bindHandle (indexed : manager.Indexed) (handle : SessionHandle) (destId : Nat) :
    (manager.bindDest handle destId).Indexed := by
  cases resolved : manager.slotFor handle with
  | none =>
      rw [bindDest_of_slotFor_none resolved]
      exact indexed
  | some slot =>
      obtain ⟨-, -, ctx, found⟩ := slotFor_eq_some resolved
      rw [← indexed.handle_of_slotFor resolved found]
      exact indexed.bindDest found destId

theorem edges_bindDest (handle : SessionHandle) (destId : Nat) :
    (manager.bindDest handle destId).edges = manager.edges := by
  unfold bindDest
  split
  · rfl
  split
  · rfl
  split
  · rfl
  · simp only
    split <;> exact edges_unbindDest _

theorem Indexed.joinGroup (indexed : manager.Indexed) {after : ConnectionManager}
    {handle : SessionHandle} {groupId : Nat} (joined : manager.joinGroup handle groupId = .ok after) :
    after.Indexed := by
  unfold ConnectionManager.joinGroup at joined
  split at joined
  · cases joined
    exact indexed
  rename_i grouped
  split at joined
  · cases joined
    exact indexed
  rename_i ctx found
  obtain ⟨resolved, held⟩ := getByHandle_eq_some found
  split at joined
  · cases joined
    exact indexed
  rename_i outside
  split at joined
  · cases joined
  split at joined
  · cases joined
  cases joined
  have absent : ({ realm := ctx.realm, groupId := groupId, slot := handle.slot } : Edge) ∉
      manager.edges := by
    simpa [isGroupMember, grouped, resolved, held] using outside
  exact { indexed with
    edge := fun edge member => by
      rcases List.mem_cons.mp member with rfl | member
      · exact ⟨grouped, ctx, held, rfl⟩
      · exact indexed.edge edge member
    edgeOnce := List.nodup_cons.mpr ⟨absent, indexed.edgeOnce⟩ }

/-- Joining changes nothing but memberships. -/
theorem joinGroup_frame {after : ConnectionManager} {handle : SessionHandle} {groupId : Nat}
    (joined : manager.joinGroup handle groupId = .ok after) :
    after.slots = manager.slots ∧ ∀ token, after.byToken token = manager.byToken token := by
  unfold joinGroup at joined
  split at joined
  · cases joined
    exact ⟨rfl, fun _ => rfl⟩
  split at joined
  · cases joined
    exact ⟨rfl, fun _ => rfl⟩
  split at joined
  · cases joined
    exact ⟨rfl, fun _ => rfl⟩
  split at joined
  · cases joined
  split at joined
  · cases joined
  · cases joined
    exact ⟨rfl, fun _ => rfl⟩

theorem Indexed.leaveGroup (indexed : manager.Indexed) (handle : SessionHandle) (groupId : Nat) :
    (manager.leaveGroup handle groupId).Indexed := by
  unfold ConnectionManager.leaveGroup
  split
  · exact indexed
  split
  · exact { indexed with
      edge := fun edge member => indexed.edge edge (List.mem_of_mem_erase member)
      edgeOnce := indexed.edgeOnce.erase _ }
  · exact indexed

theorem context_releaseSlot {slot : Nat} {ctx : ConnectionContext}
    (found : manager.context slot = some ctx) :
    (manager.releaseSlot slot).context = Function.update manager.context slot none := by
  have others : ∀ other, other ≠ slot →
      (manager.unbindDest slot).context other = manager.context other := by
    intro other different
    unfold unbindDest
    simp only [found]
    split
    · rfl
    · change (manager.modify slot _).context other = _
      rw [context_modify, Function.update_of_ne different]
  unfold releaseSlot
  simp only [found]
  funext other
  by_cases here : other = slot
  · subst here
    simp [context]
  · rw [Function.update_of_ne here, ← others other here]
    simp [context, leaveAllGroups, here]

theorem edges_releaseSlot {slot : Nat} {ctx : ConnectionContext}
    (found : manager.context slot = some ctx) :
    (manager.releaseSlot slot).edges = manager.edges.filter fun edge => edge.slot ≠ slot := by
  simp [releaseSlot, found, leaveAllGroups]

theorem Indexed.releaseSlot (indexed : manager.Indexed) (slot : Nat) :
    (manager.releaseSlot slot).Indexed := by
  cases found : manager.context slot with
  | none =>
      unfold ConnectionManager.releaseSlot
      rw [found]
      exact indexed
  | some ctx =>
      have holds := context_releaseSlot found
      have edges := edges_releaseSlot found
      have index := mem_destIndex_unbindDest indexed found
      have capacity : (manager.releaseSlot slot).capacity = manager.capacity := by
        simp [ConnectionManager.releaseSlot, found, leaveAllGroups]
      have free : (manager.releaseSlot slot).free = slot :: manager.free := by
        simp [ConnectionManager.releaseSlot, found, leaveAllGroups]
      have destIndex : (manager.releaseSlot slot).destIndex =
          (manager.unbindDest slot).destIndex := by
        simp [ConnectionManager.releaseSlot, found, leaveAllGroups]
      have generation (other : Nat) : ((manager.releaseSlot slot).slots other).generation =
          (manager.slots other).generation := by
        unfold ConnectionManager.releaseSlot
        simp only [found, leaveAllGroups]
        by_cases here : other = slot
        · subst here
          simp
        · simp [here]
      constructor
      · intro other own held
        rw [holds] at held
        by_cases here : other = slot
        · rw [here, Function.update_self] at held
          cases held
        · rw [Function.update_of_ne here] at held
          rw [capacity, generation]
          exact indexed.handle other own held
      · intro other unused
        rw [free] at unused
        rw [holds, capacity]
        by_cases here : other = slot
        · subst here
          exact ⟨Function.update_self .., (indexed.handle other ctx found).1⟩
        · rw [Function.update_of_ne here]
          exact indexed.free other ((List.mem_cons.mp unused).resolve_left here)
      · rw [free]
        refine List.nodup_cons.mpr ⟨fun unused => ?_, indexed.freeOnce⟩
        rw [(indexed.free slot unused).1] at found
        cases found
      · intro entry
        rw [destIndex, index, indexed.dest, holds]
        by_cases here : entry.slot = slot
        · simp [here]
        · simp [here]
      · rw [destIndex]
        exact nodup_destIndex_unbindDest indexed slot
      · intro edge member
        rw [edges, List.mem_filter] at member
        obtain ⟨member, elsewhere⟩ := member
        obtain ⟨grouped, own, held, realm⟩ := indexed.edge edge member
        refine ⟨grouped, own, ?_, realm⟩
        rw [holds, Function.update_of_ne (by simpa using elsewhere)]
        exact held
      · rw [edges]
        exact indexed.edgeOnce.filter _

theorem Indexed.removeSession (indexed : manager.Indexed) (handle : SessionHandle) :
    (manager.removeSession handle).Indexed := by
  unfold ConnectionManager.removeSession
  split
  · exact indexed
  · exact indexed.releaseSlot _

/-- A new connection takes a slot that is not in use, and starts with nothing. -/
theorem addSession_eq_ok {transport : TransportSession} {realm : RealmId} {peerNode : Bool}
    {now : Nat} {handle : SessionHandle} {after : ConnectionManager}
    (added : manager.addSession transport realm peerNode now = .ok (handle, after)) :
    ∃ slot rest, manager.free = slot :: rest ∧ after.free = rest ∧
      handle = { slot := slot, generation := (after.slots slot).generation } ∧
      after.context = Function.update manager.context slot (some {
        sessionHandle := handle
        transport := transport
        realm := realm
        peerNode := peerNode
        connectedAt := now }) ∧
      (∀ other, other ≠ slot → after.slots other = manager.slots other) ∧
      after.capacity = manager.capacity ∧ after.destIndex = manager.destIndex ∧
      after.edges = manager.edges := by
  unfold addSession at added
  split at added
  · cases added
  rename_i slot rest free
  split at added
  · cases added
  cases added
  refine ⟨slot, rest, free, rfl, by simp, ?_, fun other different => by simp [different],
    rfl, rfl, rfl⟩
  funext other
  by_cases here : other = slot
  · subst here
    simp [context]
  · simp [context, here]

theorem Indexed.addSession (indexed : manager.Indexed) {transport : TransportSession}
    {realm : RealmId} {peerNode : Bool} {now : Nat} {handle : SessionHandle}
    {after : ConnectionManager}
    (added : manager.addSession transport realm peerNode now = .ok (handle, after)) :
    after.Indexed := by
  obtain ⟨slot, rest, free, freeAfter, named, holds, others, capacity, destIndex, edges⟩ :=
    addSession_eq_ok added
  obtain ⟨unused, bound⟩ := indexed.free slot (free ▸ List.mem_cons_self)
  have once := indexed.freeOnce
  rw [free] at once
  have elsewhere {other : Nat} {own : ConnectionContext} (held : manager.context other = some own) :
      after.context other = some own := by
    rw [holds, Function.update_of_ne, held]
    rintro rfl
    rw [unused] at held
    cases held
  constructor
  · intro other own held
    rw [holds] at held
    rw [capacity]
    by_cases here : other = slot
    · subst here
      rw [Function.update_self, Option.some.injEq] at held
      subst held
      exact ⟨bound, named⟩
    · rw [Function.update_of_ne here] at held
      rw [others other here]
      exact indexed.handle other own held
  · intro other member
    rw [freeAfter] at member
    obtain ⟨empty, small⟩ := indexed.free other (free ▸ List.mem_cons_of_mem slot member)
    refine ⟨?_, capacity ▸ small⟩
    rw [holds, Function.update_of_ne, empty]
    rintro rfl
    exact (List.nodup_cons.mp once).1 member
  · rw [freeAfter]
    exact (List.nodup_cons.mp once).2
  · intro entry
    rw [destIndex, indexed.dest, holds]
    by_cases here : entry.slot = slot
    · simp only [here, unused, Function.update_self, reduceCtorEq, false_and, exists_false,
        and_false, Option.some.injEq, exists_eq_left', false_iff, not_and]
      exact fun addressed _ unaddressed => addressed unaddressed.symm
    · simp [here]
  · exact destIndex ▸ indexed.destOnce
  · intro edge member
    rw [edges] at member
    obtain ⟨grouped, own, held, realm⟩ := indexed.edge edge member
    exact ⟨grouped, own, elsewhere held, realm⟩
  · exact edges ▸ indexed.edgeOnce

end ConnectionManager

end LyuneGateway.Worker
