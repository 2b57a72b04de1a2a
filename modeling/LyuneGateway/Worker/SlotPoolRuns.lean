import LyuneGateway.Lib.Run
import LyuneGateway.Worker.SlotPoolView

/-!
# Runs of a slot pool

Whatever is asked of a slot pool, in any order, it ends and answers what the
connections it stands for answer. The pointer of a QUIC connection leads to its
slot as long as the connection is in it.
-/

namespace LyuneGateway.Worker

open Foundation Session

/-- The slot of the QUIC connection with a pointer. -/
def ConnectionManager.pointed (manager : ConnectionManager) (key : Nat) : Option Nat :=
  (List.range manager.capacity).find? fun slot =>
    (manager.context slot).any fun ctx => ctx.transport.callbackKey = some key

namespace SlotPool

/-- What is asked of a slot pool. `write` stands for what its users write to the context of a
connection. -/
inductive Call where
  | addSession (transport : TransportSession) (realm : RealmId) (peerNode : Bool) (now : Nat)
  | removeSession (handle : SessionHandle)
  | remove (ptr : UInt64)
  | bindDest (handle : SessionHandle) (destId : UInt64)
  | joinGroup (handle : SessionHandle) (groupId : UInt64)
  | leaveGroup (handle : SessionHandle) (groupId : UInt64)
  | write (handle : SessionHandle) (change : ConnectionContext → ConnectionContext)
  | destConnections (realm : RealmId) (destId : UInt64)
  | groupConnections (realm : RealmId) (groupId : UInt64)
  | isGroupMember (handle : SessionHandle) (groupId : UInt64)
  | getByRawQuic (ptr : UInt64)
  | byToken (token : ConnToken)

inductive Answer where
  | done
  | added (result : Except ConnectionError SessionHandle)
  | joined (result : Except ConnectionError Unit)
  | slots (slots : List Nat)
  | slot (slot : Option Nat)
  | member (member : Bool)

def ConnectionManager.perform (pool : ConnectionManager) :
    Call → Option (Answer × ConnectionManager)
  | .addSession transport realm peerNode now =>
      (pool.addSession transport realm peerNode now).map fun (result, after) =>
        (.added result, after)
  | .removeSession handle => (pool.removeSession handle).map fun after => (.done, after)
  | .remove ptr => (pool.remove ptr).map fun after => (.done, after)
  | .bindDest handle destId => (pool.bindDest handle destId).map fun after => (.done, after)
  | .joinGroup handle groupId =>
      (pool.joinGroup handle groupId).map fun (result, after) => (.joined result, after)
  | .leaveGroup handle groupId => (pool.leaveGroup handle groupId).map fun after => (.done, after)
  | .write handle change =>
      match pool.slotFor handle with
      | none => some (.done, pool)
      | some slot => (pool.slots slot).ctx.map fun ctx => (.done, pool.setCtx slot (change ctx))
  | .destConnections realm destId =>
      (pool.destConnections realm destId).map fun slots => (.slots slots, pool)
  | .groupConnections realm groupId =>
      (pool.groupConnections realm groupId).map fun slots => (.slots slots, pool)
  | .isGroupMember handle groupId =>
      (pool.isGroupMember handle groupId).map fun member => (.member member, pool)
  | .getByRawQuic ptr => (pool.getByRawQuic ptr).map fun slot => (.slot slot, pool)
  | .byToken token => some (.slot (pool.byToken token), pool)

/-- What the connections answer, and what they are afterwards. -/
def answer (view : Worker.ConnectionManager) : Call → Answer × Worker.ConnectionManager
  | .addSession transport realm peerNode now =>
      (.added (added view transport realm peerNode now).1,
        (added view transport realm peerNode now).2)
  | .removeSession handle => (.done, view.removeSession handle)
  | .remove ptr => (.done, ((view.pointed ptr.toNat).map view.releaseSlot).getD view)
  | .bindDest handle destId => (.done, view.bindDest handle destId.toNat)
  | .joinGroup handle groupId =>
      (.joined (joined view handle groupId.toNat).1, (joined view handle groupId.toNat).2)
  | .leaveGroup handle groupId => (.done, view.leaveGroup handle groupId.toNat)
  | .write handle change =>
      (.done, ((view.slotFor handle).map fun slot => view.modify slot change).getD view)
  | .destConnections realm destId => (.slots (view.destConnections realm destId.toNat), view)
  | .groupConnections realm groupId => (.slots (view.groupConnections realm groupId.toNat), view)
  | .isGroupMember handle groupId => (.member (view.isGroupMember handle groupId.toNat), view)
  | .getByRawQuic ptr => (.slot (view.pointed ptr.toNat), view)
  | .byToken token => (.slot (view.byToken token), view)

/-- A new QUIC connection has a pointer that no other has. Users of a context change neither who
the connection is nor what the indexes are about. -/
def Proper (view : Worker.ConnectionManager) : Call → Prop
  | .addSession transport .. =>
      ∀ key, transport.callbackKey = some key → Pointer key ∧ view.pointed key = none
  | .write _ change => ∀ ctx, (change ctx).sessionHandle = ctx.sessionHandle ∧
      (change ctx).realm = ctx.realm ∧ (change ctx).destId = ctx.destId ∧
      (change ctx).transport.callbackKey = ctx.transport.callbackKey
  | _ => True

/-- The pointers in the index are those of the connections. -/
structure Published (view : Worker.ConnectionManager) (index : Table UInt64 UInt32) : Prop where
  pointer : ∀ i ctx key, view.context i = some ctx → ctx.transport.callbackKey = some key →
    Pointer key
  lookup : ∀ ptr slot, index.lookup ptr = some slot ↔ ∃ ctx,
    view.context slot.toNat = some ctx ∧ ctx.transport.callbackKey = some ptr.toNat

namespace Published

variable {view after : Worker.ConnectionManager} {index : Table UInt64 UInt32} {i : Nat}
  {ctx : ConnectionContext}

theorem congr (published : Published view index)
    (same : ∀ i, (after.context i).bind (fun ctx => ctx.transport.callbackKey) =
      (view.context i).bind fun ctx => ctx.transport.callbackKey) : Published after index := by
  have forth (i : Nat) (key : Nat) :
      (∃ ctx, after.context i = some ctx ∧ ctx.transport.callbackKey = some key) ↔
        ∃ ctx, view.context i = some ctx ∧ ctx.transport.callbackKey = some key := by
    rw [← Option.bind_eq_some_iff, ← Option.bind_eq_some_iff, same]
  constructor
  · intro i ctx key found named
    obtain ⟨old, before, also⟩ := (forth i key).mp ⟨ctx, found, named⟩
    exact published.pointer i old key before also
  · intro ptr slot
    rw [published.lookup, forth]

theorem of_contexts (published : Published view index) (same : after.context = view.context) :
    Published after index := published.congr fun i => by rw [same]

/-- No two connections have one pointer. -/
theorem unique (published : Published view index) (indexed : view.Indexed)
    (small : view.capacity ≤ 2 ^ 32) {other key : Nat} {own : ConnectionContext}
    (found : view.context i = some ctx) (named : ctx.transport.callbackKey = some key)
    (also : view.context other = some own) (same : own.transport.callbackKey = some key) :
    other = i := by
  have bound := (published.pointer i ctx key found named).2
  have leads {slot : Nat} {ctx : ConnectionContext} (found : view.context slot = some ctx)
      (named : ctx.transport.callbackKey = some key) :
      index.lookup (.ofNat key) = some (.ofNat slot) := by
    rw [published.lookup, UInt64.toNat_ofNat_of_lt' bound,
      HeadTable.toNat_ofNat ((indexed.handle slot ctx found).1.trans_le small)]
    exact ⟨ctx, found, named⟩
  have equal := Option.some.inj ((leads also same).symm.trans (leads found named))
  have numbers := congrArg UInt32.toNat equal
  rwa [HeadTable.toNat_ofNat ((indexed.handle _ _ also).1.trans_le small),
    HeadTable.toNat_ofNat ((indexed.handle _ _ found).1.trans_le small)] at numbers

/-- The index leads where a search among all connections leads. -/
theorem lookup_eq (published : Published view index) (indexed : view.Indexed)
    (small : view.capacity ≤ 2 ^ 32) (ptr : UInt64) :
    (index.lookup ptr).map UInt32.toNat = view.pointed ptr.toNat := by
  unfold Worker.ConnectionManager.pointed
  have passes {slot : Nat} {ctx : ConnectionContext} (live : view.context slot = some ctx)
      (named : ctx.transport.callbackKey = some ptr.toNat) :
      ((view.context slot).any fun ctx => ctx.transport.callbackKey = some ptr.toNat) = true := by
    simp [live, named]
  have leads {slot : Nat} (hit : ((view.context slot).any fun ctx =>
      ctx.transport.callbackKey = some ptr.toNat) = true) :
      ∃ ctx, view.context slot = some ctx ∧ ctx.transport.callbackKey = some ptr.toNat := by
    cases live : view.context slot with
    | none => simp [live] at hit
    | some ctx => exact ⟨ctx, rfl, by simpa [live] using hit⟩
  cases found : index.lookup ptr with
  | none =>
      rw [Option.map_none, eq_comm, List.find?_eq_none]
      intro slot listed hit
      obtain ⟨ctx, live, named⟩ := leads hit
      have there : index.lookup ptr = some (.ofNat slot) := by
        rw [published.lookup, HeadTable.toNat_ofNat ((List.mem_range.mp listed).trans_le small)]
        exact ⟨ctx, live, named⟩
      rw [found] at there
      cases there
  | some slot =>
      obtain ⟨ctx, live, named⟩ := (published.lookup ptr slot).mp found
      cases hit : (List.range view.capacity).find? fun slot =>
          (view.context slot).any fun ctx => ctx.transport.callbackKey = some ptr.toNat with
      | none =>
          have misses := List.find?_eq_none.mp hit slot.toNat
            (List.mem_range.mpr (indexed.handle _ ctx live).1)
          exact absurd (passes live named) misses
      | some other =>
          have passed := List.find?_some hit
          obtain ⟨own, also, same⟩ := leads passed
          rw [Option.map_some, published.unique indexed small live named also same]

/-- There are no more pointers than slots. -/
theorem size_le (published : Published view index) (indexed : view.Indexed) :
    index.size ≤ view.capacity := by
  let place (ptr : UInt64) : Nat := ((index.lookup ptr).map UInt32.toNat).getD 0
  have held {ptr : UInt64} (listed : ptr ∈ index.keys) : ∃ ctx,
      view.context (place ptr) = some ctx ∧ ctx.transport.callbackKey = some ptr.toNat := by
    obtain ⟨slot, found⟩ := Option.ne_none_iff_exists'.mp
      (mt AList.lookup_eq_none.mp (not_not_intro listed))
    have here : place ptr = slot.toNat := by simp [place, found]
    rw [here]
    exact (published.lookup ptr slot).mp found
  have once : (index.keys.map place).Nodup := by
    refine List.Nodup.map_on (fun ptr listed other also same => ?_) index.keys_nodup
    obtain ⟨ctx, live, named⟩ := held listed
    obtain ⟨own, there, called⟩ := held also
    rw [← same, live, Option.some.injEq] at there
    subst there
    exact UInt64.toNat_inj.mp (Option.some.inj (named.symm.trans called))
  have within : index.keys.map place ⊆ List.range view.capacity := by
    intro slot listed
    obtain ⟨ptr, member, rfl⟩ := List.mem_map.mp listed
    obtain ⟨ctx, live, -⟩ := held member
    exact List.mem_range.mpr (indexed.handle _ ctx live).1
  have short := (List.subperm_of_subset once within).length_le
  simpa [Table.size, AList.keys, List.keys] using short

/-- A pointer goes with its connection. -/
theorem releaseSlot (published : Published view index) (indexed : view.Indexed)
    (small : view.capacity ≤ 2 ^ 32) (found : view.context i = some ctx)
    {cut : Table UInt64 UInt32}
    (left : ∀ ptr slot, cut.lookup ptr = some slot ↔
      ctx.transport.callbackKey ≠ some ptr.toNat ∧ index.lookup ptr = some slot) :
    Published (view.releaseSlot i) cut := by
  have holds := Worker.ConnectionManager.context_releaseSlot found
  constructor
  · intro other own key live named
    rw [holds] at live
    by_cases here : other = i
    · rw [here, Function.update_self] at live
      cases live
    · rw [Function.update_of_ne here] at live
      exact published.pointer other own key live named
  · intro ptr slot
    rw [left, published.lookup, holds]
    by_cases here : slot.toNat = i
    · rw [here, Function.update_self]
      simp only [found, Option.some.injEq, exists_eq_left', reduceCtorEq, false_and, exists_false,
        iff_false, not_and]
      exact fun differ same => differ same
    · rw [Function.update_of_ne here]
      refine and_iff_right_of_imp ?_
      rintro ⟨own, live, named⟩ same
      exact here (published.unique indexed small found same live named)

/-- A new connection brings its pointer. -/
theorem addSession (published : Published view index) (indexed : view.Indexed)
    (small : view.capacity ≤ 2 ^ 32) {transport : TransportSession} {realm : RealmId}
    {peerNode : Bool} {now : Nat} {handle : SessionHandle}
    (fresh : ∀ key, transport.callbackKey = some key → Pointer key ∧ view.pointed key = none)
    (taken : view.addSession transport realm peerNode now = .ok (handle, after)) :
    Published after (SlotPool.published index transport handle.slot) := by
  obtain ⟨slot, rest, free, -, named, holds, -⟩ := Worker.ConnectionManager.addSession_eq_ok taken
  obtain ⟨unused, bound⟩ := indexed.free slot (free ▸ List.mem_cons_self)
  have here : handle.slot = slot := by rw [named]
  rw [here, SlotPool.published]
  cases key : transport.callbackKey with
  | none =>
      refine published.congr fun other => ?_
      rw [holds]
      by_cases same : other = slot
      · subst same
        simp [unused, key]
      · rw [Function.update_of_ne same]
  | some own =>
      obtain ⟨pointer, unknown⟩ := fresh own key
      have foreign {other : Nat} {ctx : ConnectionContext} (live : view.context other = some ctx) :
          ctx.transport.callbackKey ≠ some own := by
        intro same
        have misses := List.find?_eq_none.mp unknown other
          (List.mem_range.mpr (indexed.handle other ctx live).1)
        exact misses (by simp [live, same])
      have narrow : (UInt64.ofNat own).toNat = own := UInt64.toNat_ofNat_of_lt' pointer.2
      have place : (UInt32.ofNat slot).toNat = slot :=
        HeadTable.toNat_ofNat (bound.trans_le small)
      constructor
      · intro other ctx number live called
        rw [holds] at live
        by_cases same : other = slot
        · rw [same, Function.update_self, Option.some.injEq] at live
          subst live
          obtain rfl := Option.some.inj (key.symm.trans called)
          exact pointer
        · rw [Function.update_of_ne same] at live
          exact published.pointer other ctx number live called
      · intro ptr target
        rw [holds]
        by_cases same : ptr = .ofNat own
        · subst same
          rw [AList.lookup_insert, narrow, Option.some.injEq]
          constructor
          · rintro rfl
            exact ⟨_, by rw [place, Function.update_self], key⟩
          · rintro ⟨ctx, live, called⟩
            by_cases at_ : target.toNat = slot
            · rw [← at_, UInt32.ofNat_toNat]
            · rw [Function.update_of_ne at_] at live
              exact absurd called (foreign live)
        · rw [AList.lookup_insert_ne same, published.lookup]
          by_cases at_ : target.toNat = slot
          · rw [at_, unused, Function.update_self]
            have differ : own ≠ ptr.toNat := by
              rintro rfl
              exact same UInt64.ofNat_toNat.symm
            simp [key, differ]
          · rw [Function.update_of_ne at_]

end Published

/-- The pool stands for the connections, its edges for their memberships, and its pointers lead to
their slots. -/
structure Mirrors (pool : ConnectionManager) (view : Worker.ConnectionManager) : Prop where
  indexed : view.Indexed
  represents : ∃ held index, Represents pool view held index ∧ Published view index

namespace Mirrors

variable {pool : ConnectionManager} {view : Worker.ConnectionManager}

theorem addSession (mirrors : Mirrors pool view) {transport : TransportSession}
    (fresh : ∀ key, transport.callbackKey = some key → Pointer key ∧ view.pointed key = none)
    (realm : RealmId) (peerNode : Bool) (now : Nat) :
    ∃ after, pool.addSession transport realm peerNode now =
        some ((added view transport realm peerNode now).1, after) ∧
      Mirrors after (added view transport realm peerNode now).2 := by
  obtain ⟨indexed, held, index, represents, published⟩ := mirrors
  have small := represents.slot_le
  obtain ⟨after, ran, ⟨error, -, same, rfl⟩ | ⟨handle, taken, represented⟩⟩ :=
    represents.addSession indexed (published.size_le indexed) (fun key named => (fresh key named).1)
      realm peerNode now
  · refine ⟨after, ran, ?_⟩
    rw [same]
    exact ⟨indexed, held, index, represents, published⟩
  · exact ⟨after, ran, indexed.addSession taken, held, _, represented,
      published.addSession indexed small fresh taken⟩

/-- A slot is given back once the pointer of its connection is out of the index. -/
theorem releaseSlot {held : Held} {index cut : Table UInt64 UInt32} {i : Nat}
    {ctx : ConnectionContext} (indexed : view.Indexed)
    (represents : Represents pool view held index) (published : Published view index)
    (found : view.context i = some ctx) {callbackIndex : IndexTable}
    (callbacks : IndexTable.Refines IndexTable.hashKey view.capacity callbackIndex cut)
    (left : ∀ ptr slot, cut.lookup ptr = some slot ↔
      ctx.transport.callbackKey ≠ some ptr.toNat ∧ index.lookup ptr = some slot) :
    ∃ after, { pool with callbackIndex := callbackIndex }.releaseSlot i = some after ∧
      Mirrors after (view.releaseSlot i) := by
  have cleared : Represents { pool with callbackIndex := callbackIndex } view held cut :=
    { represents with callbacks := callbacks }
  obtain ⟨after, others, released, represented⟩ := cleared.releaseSlot indexed found
  exact ⟨after, released, indexed.releaseSlot i, others, cut, represented,
    published.releaseSlot indexed represents.slot_le found left⟩

theorem remove (mirrors : Mirrors pool view) (ptr : UInt64) :
    ∃ after, pool.remove ptr = some after ∧
      Mirrors after (((view.pointed ptr.toNat).map view.releaseSlot).getD view) := by
  obtain ⟨indexed, held, index, represents, published⟩ := mirrors
  obtain ⟨callbackIndex, removed, callbacks⟩ := represents.callbacks.perform
    (published.size_le indexed) (.remove ptr) (by simp)
  have removed : pool.callbackIndex.remove IndexTable.hashKey ptr =
      some (index.lookup ptr, callbackIndex) := removed
  have leads := published.lookup_eq indexed represents.slot_le ptr
  unfold ConnectionManager.remove
  simp only [removed, Option.bind_eq_bind, Option.bind_some]
  rw [← leads]
  cases found : index.lookup ptr with
  | none =>
      refine ⟨_, rfl, indexed, held, index.erase ptr, { represents with callbacks := callbacks },
        published.pointer, fun other slot => ?_⟩
      refine (Table.lookup_erase_eq_some.trans ?_).trans (published.lookup other slot)
      refine and_iff_right_of_imp ?_
      rintro there rfl
      rw [found] at there
      cases there
  | some slot =>
      obtain ⟨ctx, live, named⟩ := (published.lookup ptr slot).mp found
      refine releaseSlot indexed represents published live callbacks fun other target => ?_
      rw [Probing.Call.onMap, Table.lookup_erase_eq_some, named]
      refine and_congr_left' (not_congr ?_)
      rw [Option.some.injEq, UInt64.toNat_inj, eq_comm]

theorem removeSession (mirrors : Mirrors pool view) (handle : SessionHandle) :
    ∃ after, pool.removeSession handle = some after ∧ Mirrors after (view.removeSession handle) := by
  obtain ⟨indexed, held, index, represents, published⟩ := mirrors
  unfold ConnectionManager.removeSession Worker.ConnectionManager.removeSession
  rw [represents.slotFor]
  cases resolved : view.slotFor handle with
  | none => exact ⟨pool, rfl, indexed, held, index, represents, published⟩
  | some slot =>
      obtain ⟨-, -, ctx, found⟩ := Worker.ConnectionManager.slotFor_eq_some resolved
      obtain ⟨-, written⟩ := represents.slot_of_context found
      simp only [written, Option.bind_eq_bind, Option.bind_some]
      cases key : ctx.transport.callbackKey with
      | none =>
          exact releaseSlot indexed represents published found represents.callbacks
            fun ptr target => by simp [key]
      | some own =>
          obtain ⟨callbackIndex, removed, callbacks⟩ := represents.callbacks.perform
            (published.size_le indexed) (.remove (.ofNat own)) (by simp)
          have removed : pool.callbackIndex.remove IndexTable.hashKey (.ofNat own) =
              some (index.lookup (.ofNat own), callbackIndex) := removed
          simp only [removed, Option.bind_some]
          refine releaseSlot indexed represents published found callbacks fun ptr target => ?_
          have narrow : (UInt64.ofNat own).toNat = own :=
            UInt64.toNat_ofNat_of_lt' (published.pointer slot ctx own found key).2
          rw [Probing.Call.onMap, Table.lookup_erase_eq_some, key]
          refine and_congr_left' (not_congr ?_)
          rw [Option.some.injEq, ← UInt64.toNat_inj, narrow, eq_comm]

theorem bindDest (mirrors : Mirrors pool view) (handle : SessionHandle) (destId : UInt64) :
    ∃ after, pool.bindDest handle destId = some after ∧
      Mirrors after (view.bindDest handle destId.toNat) := by
  obtain ⟨indexed, held, index, represents, published⟩ := mirrors
  obtain ⟨after, bound, represented⟩ := represents.bindDest indexed handle destId
  refine ⟨after, bound, indexed.bindHandle handle destId.toNat, held, index, represented, ?_⟩
  cases resolved : view.slotFor handle with
  | none =>
      rw [Worker.ConnectionManager.bindDest_of_slotFor_none resolved]
      exact published
  | some slot =>
      obtain ⟨-, -, ctx, found⟩ := Worker.ConnectionManager.slotFor_eq_some resolved
      rw [← indexed.handle_of_slotFor resolved found]
      refine published.congr fun other => ?_
      rw [Worker.ConnectionManager.context_bindDest indexed found]
      by_cases here : other = slot
      · subst here
        rw [Function.update_self, found]
        rfl
      · rw [Function.update_of_ne here]

theorem joinGroup (mirrors : Mirrors pool view) (handle : SessionHandle) (groupId : UInt64) :
    ∃ after, pool.joinGroup handle groupId = some ((joined view handle groupId.toNat).1, after) ∧
      Mirrors after (joined view handle groupId.toNat).2 := by
  obtain ⟨indexed, held, index, represents, published⟩ := mirrors
  obtain ⟨after, others, ran, represented⟩ := represents.joinGroup handle groupId
  refine ⟨after, ran, ?_⟩
  cases result : view.joinGroup handle groupId.toNat with
  | error error =>
      have same : (joined view handle groupId.toNat).2 = view := by simp [joined, result]
      rw [same] at represented ⊢
      exact ⟨indexed, others, index, represented, published⟩
  | ok changed =>
      have same : (joined view handle groupId.toNat).2 = changed := by simp [joined, result]
      rw [same] at represented ⊢
      have slots := (Worker.ConnectionManager.joinGroup_frame result).1
      refine ⟨indexed.joinGroup result, others, index, represented, published.of_contexts ?_⟩
      funext slot
      simp only [Worker.ConnectionManager.context, slots]

theorem leaveGroup (mirrors : Mirrors pool view) (handle : SessionHandle) (groupId : UInt64) :
    ∃ after, pool.leaveGroup handle groupId = some after ∧
      Mirrors after (view.leaveGroup handle groupId.toNat) := by
  obtain ⟨indexed, held, index, represents, published⟩ := mirrors
  obtain ⟨after, others, left, represented⟩ := represents.leaveGroup indexed handle groupId
  refine ⟨after, left, indexed.leaveGroup handle groupId.toNat, others, index, represented,
    published.of_contexts ?_⟩
  unfold Worker.ConnectionManager.leaveGroup
  split
  · rfl
  split <;> rfl

theorem getByRawQuic (mirrors : Mirrors pool view) (ptr : UInt64) :
    pool.getByRawQuic ptr = some (view.pointed ptr.toNat) := by
  obtain ⟨indexed, held, index, represents, published⟩ := mirrors
  obtain ⟨_, answered, -⟩ := represents.callbacks.perform (published.size_le indexed) (.get ptr)
    (by simp)
  obtain ⟨found, read, same⟩ := Option.map_eq_some_iff.mp answered
  obtain ⟨rfl, -⟩ := Prod.mk.inj same
  unfold ConnectionManager.getByRawQuic
  rw [read, Option.map_some, ← published.lookup_eq indexed represents.slot_le ptr]
  cases listed : index.lookup ptr with
  | none => simp [Probing.Call.onMap, listed]
  | some slot =>
      obtain ⟨ctx, live, -⟩ := (published.lookup ptr slot).mp listed
      simp [Probing.Call.onMap, listed, (represents.slot_of_context live).1]

/-- One call ends, with the answer of the connections. -/
theorem perform (mirrors : Mirrors pool view) {call : Call} (proper : Proper view call) :
    ∃ after, pool.perform call = some ((answer view call).1, after) ∧
      Mirrors after (answer view call).2 := by
  obtain ⟨held, index, represents, published⟩ := mirrors.represents
  cases call with
  | addSession transport realm peerNode now =>
      obtain ⟨after, ran, mirrored⟩ := mirrors.addSession proper realm peerNode now
      exact ⟨after, by rw [ConnectionManager.perform, ran]; rfl, mirrored⟩
  | removeSession handle =>
      obtain ⟨after, ran, mirrored⟩ := mirrors.removeSession handle
      exact ⟨after, by rw [ConnectionManager.perform, ran]; rfl, mirrored⟩
  | remove ptr =>
      obtain ⟨after, ran, mirrored⟩ := mirrors.remove ptr
      exact ⟨after, by rw [ConnectionManager.perform, ran]; rfl, mirrored⟩
  | bindDest handle destId =>
      obtain ⟨after, ran, mirrored⟩ := mirrors.bindDest handle destId
      exact ⟨after, by rw [ConnectionManager.perform, ran]; rfl, mirrored⟩
  | joinGroup handle groupId =>
      obtain ⟨after, ran, mirrored⟩ := mirrors.joinGroup handle groupId
      exact ⟨after, by rw [ConnectionManager.perform, ran]; rfl, mirrored⟩
  | leaveGroup handle groupId =>
      obtain ⟨after, ran, mirrored⟩ := mirrors.leaveGroup handle groupId
      exact ⟨after, by rw [ConnectionManager.perform, ran]; rfl, mirrored⟩
  | write handle change =>
      rw [ConnectionManager.perform, answer, represents.slotFor]
      cases resolved : view.slotFor handle with
      | none => exact ⟨pool, rfl, mirrors⟩
      | some slot =>
          obtain ⟨-, -, ctx, found⟩ := Worker.ConnectionManager.slotFor_eq_some resolved
          obtain ⟨-, written⟩ := represents.slot_of_context found
          have same : view.Indexed := mirrors.indexed
          refine ⟨pool.setCtx slot (change ctx), by simp [written], ?_, held, index,
            represents.setCtx found change, ?_⟩
          · exact same.modify slot fun ctx => ⟨(proper ctx).1, (proper ctx).2.1, (proper ctx).2.2.1⟩
          · refine published.congr fun other => ?_
            simp only [Option.map_some, Option.getD_some,
              Worker.ConnectionManager.context_modify]
            by_cases here : other = slot
            · subst here
              simp [found, (proper ctx).2.2.2]
            · rw [Function.update_of_ne here]
  | destConnections realm destId =>
      refine ⟨pool, ?_, mirrors⟩
      rw [ConnectionManager.perform, represents.destConnections]
      rfl
  | groupConnections realm groupId =>
      refine ⟨pool, ?_, mirrors⟩
      rw [ConnectionManager.perform, represents.groupConnections]
      rfl
  | isGroupMember handle groupId =>
      refine ⟨pool, ?_, mirrors⟩
      rw [ConnectionManager.perform, represents.isGroupMember]
      rfl
  | getByRawQuic ptr =>
      refine ⟨pool, ?_, mirrors⟩
      rw [ConnectionManager.perform, mirrors.getByRawQuic]
      rfl
  | byToken token =>
      refine ⟨pool, ?_, mirrors⟩
      rw [ConnectionManager.perform, represents.byToken]
      rfl

end Mirrors

/-! ## Runs -/

/-- Calls one after the other; there is no result if one of them does not end. -/
def ConnectionManager.run (pool : ConnectionManager) :
    List Call → Option (List Answer × ConnectionManager)
  | [] => some ([], pool)
  | call :: calls => do
      let (answer, pool) ← pool.perform call
      let (answers, pool) ← pool.run calls
      some (answer :: answers, pool)

/-- The connections after a call. -/
def step (view : Worker.ConnectionManager) (call : Call) : Worker.ConnectionManager :=
  (answer view call).2

/-- The answers of the connections to some calls. -/
def answers : Worker.ConnectionManager → List Call → List Answer
  | _, [] => []
  | view, call :: calls => (answer view call).1 :: answers (step view call) calls

theorem Mirrors.run {pool : ConnectionManager} {view : Worker.ConnectionManager}
    (mirrors : Mirrors pool view) {calls : List Call} (proper : Run.Meets step Proper view calls) :
    ∃ after, pool.run calls = some (answers view calls, after) ∧
      Mirrors after (Run.final step view calls) := by
  induction calls generalizing pool view with
  | nil => exact ⟨pool, rfl, mirrors⟩
  | cons call calls ih =>
      obtain ⟨middle, performed, mirrored⟩ := mirrors.perform proper.1
      obtain ⟨after, ran, ends⟩ := ih mirrored proper.2
      refine ⟨after, ?_, ends⟩
      simp [ConnectionManager.run, performed, ran, answers, step]

/-! ## The start -/

/-- Cells that each name the next one, from a first to the last. -/
theorem links_range' (next : Nat → Option Nat) (count start : Nat)
    (steps : ∀ i, next i = if i + 1 < start + count then some (i + 1) else none) :
    Chain.Links next (if 0 < count then some start else none) (List.range' start count) := by
  induction count generalizing start with
  | zero => rfl
  | succ count ih =>
      rw [List.range'_succ]
      refine ⟨rfl, ?_⟩
      have rest := ih (start + 1) fun i => by
        rw [steps i]
        congr 2
        omega
      rw [steps start]
      convert rest using 2
      omega

theorem init_mirrors (maxConnections nodeId workerId incarnation : Nat)
    (small : max maxConnections 1 * maxGroupsPerConnection ≤ 2 ^ 32) :
    Mirrors (.init maxConnections nodeId workerId incarnation)
      (.init maxConnections nodeId workerId incarnation) where
  indexed := .init _ _ _ _
  represents := by
    have slots : 0 < max maxConnections 1 := by omega
    have edges : 0 < max maxConnections 1 * maxGroupsPerConnection :=
      Nat.mul_pos slots (by decide)
    have free := links_range' (fun i =>
      if i + 1 < max maxConnections 1 then some (i + 1) else none) (max maxConnections 1) 0
      fun i => by rw [Nat.zero_add]
    have spare := links_range' (fun i => if i + 1 < max maxConnections 1 * maxGroupsPerConnection
      then some (i + 1) else none) (max maxConnections 1 * maxGroupsPerConnection) 0
      fun i => by rw [Nat.zero_add]
    rw [if_pos slots, ← List.range_eq_range'] at free
    rw [if_pos edges, ← List.range_eq_range'] at spare
    refine ⟨[], ∅, ?_, ?_, ?_⟩
    · exact {
        nodeId := rfl
        workerId := rfl
        incarnation := rfl
        capacity := rfl
        connQuota := rfl
        groupQuota := rfl
        slots := rfl
        written := by simp [ConnectionManager.init]
        free := free
        unused := fun i bound _ => List.mem_range.mpr bound
        live := by simp [ConnectionManager.init, Worker.ConnectionManager.init]
        callbacks := ⟨rfl, Probing.implements_blank _⟩
        dest := HeadTable.Chained.init _ _
        narrow := by simp [Worker.ConnectionManager.init]
        groups := {
          members := HeadTable.Chained.init _ _
          bySlot := Chain.Threads.empty
          records := by simp
          spare := by
            refine ⟨List.range (max maxConnections 1 * maxGroupsPerConnection), ?_, by
              rw [List.map_nil, List.append_nil]
              rfl⟩
            rw [ConnectionManager.init, GroupIndex.init, if_neg edges.ne']
            exact spare }
        edges := rfl
        edgeCapacity := rfl
        small := small }
    · intro i ctx key found
      cases found
    · intro ptr slot
      simp [Worker.ConnectionManager.context, Worker.ConnectionManager.init]

/-- Two connections of a realm with one destination and one group; the pointer of the first is used
again after it. -/
def visit : List Call := [
  .addSession { kind := .rawQuic, ptr := 4096 } 3 false 10,
  .addSession { kind := .wss, ptr := 1 } 3 false 11,
  .bindDest { slot := 0, generation := 1 } 7,
  .bindDest { slot := 1, generation := 1 } 7,
  .joinGroup { slot := 0, generation := 1 } 9,
  .joinGroup { slot := 1, generation := 1 } 9,
  .destConnections 3 7,
  .remove 4096,
  .groupConnections 3 9,
  .addSession { kind := .rawQuic, ptr := 4096 } 3 false 12]

theorem visit_proper : Run.Meets step Proper (.init 2 1 0 5) visit := by
  refine ⟨?_, ?_, trivial, trivial, trivial, trivial, trivial, trivial, trivial, ?_, trivial⟩
  · intro key named
    cases named
    exact ⟨by decide, rfl⟩
  · intro key named
    cases named
  · intro key named
    cases named
    exact ⟨by decide, rfl⟩

/-- Whatever is asked of a slot pool, in any order: every loop ends, no field is read that was never
written, and the answers are those of the connections with their lists. -/
theorem slot_pool_answers {maxConnections nodeId workerId incarnation : Nat}
    (small : max maxConnections 1 * maxGroupsPerConnection ≤ 2 ^ 32) {calls : List Call}
    (proper : Run.Meets step Proper (.init maxConnections nodeId workerId incarnation) calls) :
    ∃ pool, (ConnectionManager.init maxConnections nodeId workerId incarnation).run calls =
        some (answers (.init maxConnections nodeId workerId incarnation) calls, pool) ∧
      Mirrors pool (Run.final step (.init maxConnections nodeId workerId incarnation) calls) :=
  (init_mirrors maxConnections nodeId workerId incarnation small).run proper

theorem slot_pool_answers_visit :
    ∃ pool, (ConnectionManager.init 2 1 0 5).run visit =
        some (answers (.init 2 1 0 5) visit, pool) ∧
      Mirrors pool (Run.final step (.init 2 1 0 5) visit) :=
  slot_pool_answers (by decide) visit_proper

/-! ## Everyone once -/

/-- The context in a slot that is in use. -/
def ConnectionManager.context (pool : ConnectionManager) (i : Nat) : Option ConnectionContext :=
  if (pool.slots i).inUse then (pool.slots i).ctx else none

/-- The slots that are in use. -/
def ConnectionManager.taken (pool : ConnectionManager) : List Nat :=
  (List.range pool.capacity).filter fun i => (pool.slots i).inUse

/-- A loop along a chain meets everyone it is about, once, and nobody else; a chain without anyone
has no entry in its table. Every slot is free or in use. -/
structure Sound (pool : ConnectionManager) : Prop where
  free : ∃ free, Chain.walk (fun i => (pool.slots i).nextFree) pool.capacity pool.freeHead =
    some free ∧ (free ++ pool.taken).Perm (List.range pool.capacity)
  live : pool.live = pool.taken.length
  dest : ∀ realm destId, destId ≠ 0 → ∃ slots, pool.destConnections realm destId = some slots ∧
    slots.Nodup ∧
    (∀ i, i ∈ slots ↔ ∃ ctx, pool.context i = some ctx ∧ ctx.realm = realm ∧
      ctx.destId = destId.toNat) ∧
    (pool.destIndex.find HeadTable.hashKey realm destId = some none ↔ slots = [])
  group : ∀ realm groupId, groupId ≠ 0 → ∃ slots, pool.groupConnections realm groupId = some slots ∧
    slots.Nodup ∧
    (∀ i, i ∈ slots ↔ ∃ ctx, pool.context i = some ctx ∧ ctx.realm = realm ∧
      pool.isGroupMember ctx.sessionHandle groupId = some true) ∧
    (pool.groups.table.find HeadTable.hashKey realm groupId = some none ↔ slots = [])
  pointer : ∀ ptr i, pool.getByRawQuic ptr = some (some i) ↔ ∃ ctx, pool.context i = some ctx ∧
    ctx.transport.callbackKey = some ptr.toNat

namespace Mirrors

variable {pool : ConnectionManager} {view : Worker.ConnectionManager}

theorem dest (mirrors : Mirrors pool view) (realm : RealmId) {destId : UInt64}
    (proper : destId ≠ 0) :
    ∃ slots, pool.destConnections realm destId = some slots ∧ slots.Nodup ∧
      (∀ i, i ∈ slots ↔ ∃ ctx, pool.context i = some ctx ∧ ctx.realm = realm ∧
        ctx.destId = destId.toNat) ∧
      (pool.destIndex.find HeadTable.hashKey realm destId = some none ↔ slots = []) := by
  obtain ⟨indexed, held, index, represents, -⟩ := mirrors
  have addressed : destId.toNat ≠ 0 := by simpa [← UInt64.toNat_inj] using proper
  have cells := represents.cells_dests realm destId
  have listed : view.destConnections realm destId.toNat =
      Chain.cells (realm, destId) (dests view.destIndex) := by
    rw [Worker.ConnectionManager.destConnections, if_neg addressed, cells]
  refine ⟨_, represents.destConnections realm destId, ?_, fun i => ?_, ?_⟩
  · rw [listed]
    exact represents.dest.once.sublist (List.filter_sublist.map _)
  · rw [indexed.mem_destConnections]
    refine (and_iff_right addressed).trans ?_
    rw [represents.context]
    rfl
  · rw [listed]
    rcases represents.dest.find realm destId with ⟨found, empty⟩ | ⟨place, rest, found, more⟩
    · exact iff_of_true found empty
    · exact iff_of_false (by simp [found]) (by simp [more])

theorem group (mirrors : Mirrors pool view) (realm : RealmId) {groupId : UInt64}
    (proper : groupId ≠ 0) :
    ∃ slots, pool.groupConnections realm groupId = some slots ∧ slots.Nodup ∧
      (∀ i, i ∈ slots ↔ ∃ ctx, pool.context i = some ctx ∧ ctx.realm = realm ∧
        pool.isGroupMember ctx.sessionHandle groupId = some true) ∧
      (pool.groups.table.find HeadTable.hashKey realm groupId = some none ↔ slots = []) := by
  obtain ⟨indexed, held, index, represents, -⟩ := mirrors
  have grouped : groupId.toNat ≠ 0 := by simpa [← UInt64.toNat_inj] using proper
  refine ⟨_, represents.groupConnections realm groupId, ?_, fun i => ?_, ?_⟩
  · rw [Worker.ConnectionManager.groupConnections, if_neg grouped]
    refine List.Nodup.map_on (fun edge listed other also same => ?_) (indexed.edgeOnce.filter _)
    have first := (List.mem_filter.mp listed).2
    have second := (List.mem_filter.mp also).2
    simp only [Bool.and_eq_true, decide_eq_true_eq] at first second
    cases edge
    cases other
    simp_all
  · rw [indexed.mem_groupConnections]
    constructor
    · intro listed
      obtain ⟨-, ctx, found, same⟩ := indexed.edge _ listed
      refine ⟨ctx, (represents.context i).symm.trans found, same, ?_⟩
      rw [represents.isGroupMember, Option.some.injEq, indexed.isGroupMember_iff found, same]
      exact listed
    · rintro ⟨ctx, found, rfl, member⟩
      have live : view.context i = some ctx := (represents.context i).trans found
      rw [represents.isGroupMember, Option.some.injEq, indexed.isGroupMember_iff live] at member
      exact member
  · have cells := represents.cells_members realm groupId
    have listed : view.groupConnections realm groupId.toNat = [] ↔
        Chain.cells (realm, groupId) held.members = [] := by
      rw [Worker.ConnectionManager.groupConnections, if_neg grouped, cells, represents.edges,
        List.filter_map, List.map_eq_nil_iff, List.map_eq_nil_iff, List.map_eq_nil_iff]
      rfl
    rw [listed]
    rcases represents.groups.members.find realm groupId with
      ⟨found, empty⟩ | ⟨place, rest, found, more⟩
    · exact iff_of_true found empty
    · exact iff_of_false (by simp [found]) (by simp [more])

/-- The slots that are free and those that are in use are all slots. -/
theorem slots (mirrors : Mirrors pool view) :
    (∃ free, Chain.walk (fun i => (pool.slots i).nextFree) pool.capacity pool.freeHead =
      some free ∧ (free ++ pool.taken).Perm (List.range pool.capacity)) ∧
      pool.live = pool.taken.length := by
  obtain ⟨indexed, held, index, represents, -⟩ := mirrors
  have used (i : Nat) : (pool.slots i).inUse = true ↔ view.context i ≠ none := by
    have same := represents.context_isNone i
    cases busy : (pool.slots i).inUse with
    | false => exact iff_of_false (by simp) (not_not_intro (by simpa [busy] using same))
    | true =>
        exact iff_of_true rfl (Option.isSome_iff_ne_none.mp (by simpa [busy] using same))
  have all : (view.free ++ pool.taken).Perm (List.range pool.capacity) := by
    refine (List.perm_ext_iff_of_nodup ?_ List.nodup_range).mpr fun i => ?_
    · refine List.nodup_append.mpr
        ⟨indexed.freeOnce, List.nodup_range.filter _, fun i free j busy same => ?_⟩
      subst same
      exact (used i).mp (List.mem_filter.mp busy).2 (indexed.free i free).1
    · rw [List.mem_append, ConnectionManager.taken, List.mem_filter, List.mem_range,
        represents.capacity, used]
      constructor
      · rintro (free | ⟨bound, -⟩)
        · exact (indexed.free i free).2
        · exact bound
      · intro bound
        by_cases none_ : view.context i = none
        · exact .inl (represents.unused i bound none_)
        · exact .inr ⟨bound, none_⟩
  have lengths := all.length_eq
  have live := represents.live
  have capacity := represents.capacity
  rw [List.length_append, List.length_range] at lengths
  exact ⟨⟨view.free, represents.free.walk (by omega), all⟩, by omega⟩

theorem sound (mirrors : Mirrors pool view) : Sound pool where
  free := mirrors.slots.1
  live := mirrors.slots.2
  dest realm _ := mirrors.dest realm
  group realm _ := mirrors.group realm
  pointer ptr i := by
    rw [mirrors.getByRawQuic, Option.some.injEq]
    obtain ⟨indexed, held, index, represents, published⟩ := mirrors
    rw [← published.lookup_eq indexed represents.slot_le, Option.map_eq_some_iff]
    constructor
    · rintro ⟨slot, found, rfl⟩
      obtain ⟨ctx, live, named⟩ := (published.lookup ptr slot).mp found
      exact ⟨ctx, (represents.context _).symm.trans live, named⟩
    · rintro ⟨ctx, found, named⟩
      have live : view.context i = some ctx := (represents.context i).trans found
      have place : (UInt32.ofNat i).toNat = i :=
        HeadTable.toNat_ofNat ((indexed.handle i ctx live).1.trans_le represents.slot_le)
      refine ⟨.ofNat i, (published.lookup ptr _).mpr ⟨ctx, ?_, named⟩, place⟩
      rw [place, live]

end Mirrors

/-- After any run every connection is found once under its destination, once under each of its
groups and under its pointer, and no slot is lost. -/
theorem everyone_is_found_once {maxConnections nodeId workerId incarnation : Nat}
    (small : max maxConnections 1 * maxGroupsPerConnection ≤ 2 ^ 32) {calls : List Call}
    (proper : Run.Meets step Proper (.init maxConnections nodeId workerId incarnation) calls) :
    ∃ given pool, (ConnectionManager.init maxConnections nodeId workerId incarnation).run calls =
      some (given, pool) ∧ Sound pool := by
  obtain ⟨pool, ran, mirrors⟩ :=
    (init_mirrors maxConnections nodeId workerId incarnation small).run proper
  exact ⟨_, pool, ran, mirrors.sound⟩

theorem everyone_is_found_once_visit :
    ∃ given pool, (ConnectionManager.init 2 1 0 5).run visit = some (given, pool) ∧ Sound pool :=
  everyone_is_found_once (by decide) visit_proper

end SlotPool

end LyuneGateway.Worker
