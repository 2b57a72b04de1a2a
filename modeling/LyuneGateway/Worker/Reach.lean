import LyuneGateway.Worker.Address
import LyuneGateway.Worker.Permit

/-!
# What keeps everyone's address

A quiet operation leaves the addresses of all connections and both indexes as
they were. Only the operations that a step is expressly permitted change them.
-/

namespace LyuneGateway.Worker

open Foundation Io Protocol Session

/-- The part of a worker's connections that decides who can be reached. -/
structure Addressing where
  addresses : Nat → Option Address
  generations : Nat → Nat
  capacity : Nat
  free : List Nat
  destIndex : List DestEntry
  edges : List Edge
  groupQuota : Quota
  nodeId : Nat
  workerId : Nat
  incarnation : Nat

namespace ConnectionManager

variable {manager after : ConnectionManager}

def addressing (manager : ConnectionManager) : Addressing where
  addresses slot := (manager.context slot).map ConnectionContext.address
  generations slot := (manager.slots slot).generation
  capacity := manager.capacity
  free := manager.free
  destIndex := manager.destIndex
  edges := manager.edges
  groupQuota := manager.groupQuota
  nodeId := manager.nodeId
  workerId := manager.workerId
  incarnation := manager.incarnation

theorem addressing_modify (slot : Nat) {change : ConnectionContext → ConnectionContext}
    (keeps : ∀ ctx, (change ctx).address = ctx.address) :
    (manager.modify slot change).addressing = manager.addressing := by
  have addresses (other : Nat) : ((manager.modify slot change).context other).map
      ConnectionContext.address = (manager.context other).map ConnectionContext.address := by
    rw [context_modify]
    by_cases here : other = slot
    · subst here
      cases manager.context other <;> simp [keeps]
    · simp [here]
  simp only [addressing, generation_modify, addresses]
  rfl

theorem address_of_addressing (same : after.addressing = manager.addressing) {slot : Nat}
    {ctx : ConnectionContext} (found : after.context slot = some ctx) :
    ∃ old, manager.context slot = some old ∧ old.address = ctx.address := by
  have addresses := congrFun (congrArg Addressing.addresses same) slot
  simp only [addressing, found, Option.map_some] at addresses
  exact Option.map_eq_some_iff.mp addresses.symm

theorem context_isNone_of_addressing (same : after.addressing = manager.addressing) (slot : Nat) :
    (after.context slot).isNone = (manager.context slot).isNone := by
  have addresses := congrFun (congrArg Addressing.addresses same) slot
  simp only [addressing] at addresses
  cases held : after.context slot <;> cases found : manager.context slot <;>
    simp [held, found] at addresses ⊢

theorem slotFor_of_addressing (same : after.addressing = manager.addressing)
    (handle : SessionHandle) : after.slotFor handle = manager.slotFor handle := by
  have capacity : after.capacity = manager.capacity := congrArg Addressing.capacity same
  have generation : (after.slots handle.slot).generation =
      (manager.slots handle.slot).generation :=
    congrFun (congrArg Addressing.generations same) handle.slot
  simp only [slotFor, capacity, generation, context_isNone_of_addressing same]

theorem byToken_of_addressing (same : after.addressing = manager.addressing) (token : ConnToken) :
    after.byToken token = manager.byToken token := by
  have nodeId : after.nodeId = manager.nodeId := congrArg Addressing.nodeId same
  have workerId : after.workerId = manager.workerId := congrArg Addressing.workerId same
  have incarnation : after.incarnation = manager.incarnation :=
    congrArg Addressing.incarnation same
  simp only [byToken, nodeId, workerId, incarnation, slotFor_of_addressing same]

theorem Indexed.of_addressing (indexed : manager.Indexed)
    (same : after.addressing = manager.addressing) : after.Indexed := by
  have capacity : after.capacity = manager.capacity := congrArg Addressing.capacity same
  have free : after.free = manager.free := congrArg Addressing.free same
  have destIndex : after.destIndex = manager.destIndex := congrArg Addressing.destIndex same
  have edges : after.edges = manager.edges := congrArg Addressing.edges same
  have generation (slot : Nat) : (after.slots slot).generation = (manager.slots slot).generation :=
    congrFun (congrArg Addressing.generations same) slot
  constructor
  · intro slot ctx found
    obtain ⟨old, held, address⟩ := address_of_addressing same found
    have handle : old.sessionHandle = ctx.sessionHandle := congrArg Address.sessionHandle address
    rw [capacity, generation, ← handle]
    exact indexed.handle slot old held
  · intro slot unused
    rw [free] at unused
    obtain ⟨empty, bound⟩ := indexed.free slot unused
    refine ⟨?_, capacity ▸ bound⟩
    have none_ := context_isNone_of_addressing same slot
    rw [empty] at none_
    exact Option.isNone_iff_eq_none.mp none_
  · exact free ▸ indexed.freeOnce
  · intro entry
    rw [destIndex, indexed.dest]
    refine and_congr_right fun _ => ⟨?_, ?_⟩
    · rintro ⟨ctx, found, realm, dest⟩
      obtain ⟨new, held, address⟩ := address_of_addressing same.symm found
      exact ⟨new, held, (congrArg Address.realm address).trans realm,
        (congrArg Address.destId address).trans dest⟩
    · rintro ⟨ctx, found, realm, dest⟩
      obtain ⟨old, held, address⟩ := address_of_addressing same found
      exact ⟨old, held, (congrArg Address.realm address).trans realm,
        (congrArg Address.destId address).trans dest⟩
  · exact destIndex ▸ indexed.destOnce
  · intro edge listed
    rw [edges] at listed
    obtain ⟨grouped, ctx, found, realm⟩ := indexed.edge edge listed
    obtain ⟨new, held, address⟩ := address_of_addressing same.symm found
    exact ⟨grouped, new, held, (congrArg Address.realm address).trans realm⟩
  · exact edges ▸ indexed.edgeOnce

/-- Something holds for all connections that a list of tokens names in a realm. -/
def Named (manager : ConnectionManager) (realm : RealmId) (tokens : List Nat)
    (holds : Nat → ConnectionContext → Prop) : Prop :=
  ∀ raw ∈ tokens, ∀ slot ctx, manager.byToken (.decode raw) = some slot →
    manager.context slot = some ctx → ctx.realm = realm → holds slot ctx

def named (manager : ConnectionManager) (realm : RealmId) (tokens : List Nat)
    (check : Nat → ConnectionContext → Bool) : Bool :=
  tokens.all fun raw => (manager.byToken (.decode raw)).all fun slot =>
    (manager.context slot).all fun ctx => ctx.realm ≠ realm || check slot ctx

theorem named_eq_true {realm : RealmId} {tokens : List Nat}
    {check : Nat → ConnectionContext → Bool} : manager.named realm tokens check = true ↔
      manager.Named realm tokens fun slot ctx => check slot ctx = true := by
  simp only [named, Named, List.all_eq_true, Option.all_eq_true, ne_eq, decide_not,
    Bool.or_eq_true, Bool.not_eq_true', decide_eq_false_iff_not]
  refine forall₂_congr fun raw _ => ⟨?_, ?_⟩
  · intro all slot ctx resolved found own
    exact (all slot resolved ctx found).resolve_left (not_not.mpr own)
  · intro all slot resolved ctx found
    exact or_iff_not_imp_left.mpr fun own => all slot ctx resolved found (not_not.mp own)

theorem Named.imp {realm : RealmId} {tokens : List Nat}
    {holds later : Nat → ConnectionContext → Prop} (all : manager.Named realm tokens holds)
    (sameTokens : ∀ token, after.byToken token = manager.byToken token)
    (implies : ∀ slot ctx, after.context slot = some ctx → ∃ old,
      manager.context slot = some old ∧ old.realm = ctx.realm ∧
      (holds slot old → later slot ctx)) : after.Named realm tokens later := by
  intro raw listed slot ctx resolved found own
  rw [sameTokens] at resolved
  obtain ⟨old, held, sameRealm, gives⟩ := implies slot ctx found
  exact gives (all raw listed slot old resolved held (sameRealm.trans own))

end ConnectionManager

namespace Address

/-- What is left of an address whose admission is revoked. -/
def revoke (address : Address) : Address :=
  { address with
    authenticated := false
    destId := 0
    authExpiresAt := 0
    channels := address.channels.map fun _ => 0
    revoked := true }

end Address

namespace ConnectionManager

variable {manager after : ConnectionManager}

/-- One connection has another address; all the others and all memberships are as they were. -/
structure Readdressed (manager after : ConnectionManager) (slot : Nat)
    (change : Address → Address) : Prop where
  own : (after.context slot).map ConnectionContext.address =
    (manager.context slot).map fun ctx => change ctx.address
  others : ∀ other, other ≠ slot → (after.context other).map ConnectionContext.address =
    (manager.context other).map ConnectionContext.address
  edges : after.edges = manager.edges
  tokens : ∀ token, after.byToken token = manager.byToken token

namespace Readdressed

variable {middle : ConnectionManager} {slot : Nat} {first second : Address → Address}

theorem of_addressing (same : after.addressing = manager.addressing) (slot : Nat) :
    Readdressed manager after slot id where
  own := congrFun (congrArg Addressing.addresses same) slot
  others other _ := congrFun (congrArg Addressing.addresses same) other
  edges := congrArg Addressing.edges same
  tokens := byToken_of_addressing same

theorem trans (before : Readdressed manager middle slot first)
    (then_ : Readdressed middle after slot second) :
    Readdressed manager after slot fun address => second (first address) where
  own := by
    have own : ((middle.context slot).map ConnectionContext.address).map second =
        ((manager.context slot).map fun ctx => first ctx.address).map second :=
      congrArg _ before.own
    rw [Option.map_map, Option.map_map] at own
    exact then_.own.trans own
  others other different := (then_.others other different).trans (before.others other different)
  edges := then_.edges.trans before.edges
  tokens token := (then_.tokens token).trans (before.tokens token)

theorem modify (slot : Nat) {change : ConnectionContext → ConnectionContext}
    (changes : ∀ ctx, (change ctx).address = first ctx.address) :
    Readdressed manager (manager.modify slot change) slot first where
  own := by
    rw [context_modify, Function.update_self, Option.map_map]
    exact congrArg (fun view => (manager.context slot).map view) (funext changes)
  others other different := by rw [context_modify, Function.update_of_ne different]
  edges := rfl
  tokens := byToken_modify slot change

theorem bindDest (indexed : manager.Indexed) {handle : SessionHandle}
    (resolved : manager.slotFor handle = some slot) (destId : Nat) :
    Readdressed manager (manager.bindDest handle destId) slot
      fun address => { address with destId := destId } := by
  obtain ⟨-, -, ctx, found⟩ := slotFor_eq_some resolved
  obtain rfl := indexed.handle_of_slotFor resolved found
  have holds := context_bindDest indexed found destId
  refine ⟨?_, fun other different => ?_, edges_bindDest _ _, byToken_bindDest _ _⟩
  · rw [holds, Function.update_self, found]
    rfl
  · rw [holds, Function.update_of_ne different]

theorem of_eq_some (readdressed : Readdressed manager after slot first) {other : Nat}
    {ctx : ConnectionContext} (found : after.context other = some ctx) :
    ∃ old, manager.context other = some old ∧
      (other = slot ∧ ctx.address = first old.address ∨
        other ≠ slot ∧ ctx.address = old.address) := by
  by_cases here : other = slot
  · subst here
    have own := readdressed.own
    rw [found, Option.map_some] at own
    obtain ⟨old, held, address⟩ := Option.map_eq_some_iff.mp own.symm
    exact ⟨old, held, .inl ⟨rfl, address.symm⟩⟩
  · have same := readdressed.others other here
    rw [found, Option.map_some] at same
    obtain ⟨old, held, address⟩ := Option.map_eq_some_iff.mp same.symm
    exact ⟨old, held, .inr ⟨here, address.symm⟩⟩

end Readdressed

end ConnectionManager

/-- The operation leaves everyone's address and both indexes alone. -/
def Op.KeepsAddressing (op : Op) : Prop :=
  ∀ worker, (op.apply worker).conns.addressing = worker.conns.addressing

namespace GatewayWorker

variable {worker after : GatewayWorker}

theorem Via.addressing (via : Via Op.KeepsAddressing worker after) :
    after.conns.addressing = worker.conns.addressing :=
  via.preserves (fun worker => worker.conns.addressing) fun worker _ keeps => keeps worker

theorem addressing_openClient (slot : Nat) (data : Bytes) (isFin : Bool) (author : Author) :
    (worker.openClient slot data isFin author).2.conns.addressing = worker.conns.addressing := by
  unfold openClient
  split
  · rfl
  · exact ConnectionManager.addressing_modify slot fun _ => rfl

theorem conns_deliver (workerId : Nat) (realm : RealmId) (session : Nat) (bytes : Bytes) :
    (worker.deliver workerId realm session bytes).2.conns = worker.conns := by
  unfold deliver
  split <;> rfl

theorem conns_sendPeer (nodeId : Nat) (realm : RealmId) (bytes : Bytes) (streaming : Bool) :
    (worker.sendPeer nodeId realm bytes streaming).2.conns = worker.conns := by
  unfold sendPeer
  split <;> rfl

theorem conns_sendPeerOn (stream : PeerStream) (bytes : Bytes) (isLast : Bool) :
    (worker.sendPeerOn stream bytes isLast).2.conns = worker.conns := by
  unfold sendPeerOn
  split <;> rfl

theorem conns_resetPeer (stream : PeerStream) : (worker.resetPeer stream).conns = worker.conns := by
  unfold resetPeer
  split <;> rfl

theorem conns_writeLocal (bytes : Bytes) (isLast : Bool) (target : LocalTarget) :
    (worker.writeLocal bytes isLast target).conns = worker.conns := by
  unfold writeLocal
  split <;> rfl

theorem conns_resetLocal (target : LocalTarget) :
    (worker.resetLocal target).conns = worker.conns := by
  unfold resetLocal
  split <;> rfl

theorem addressing_writeSessionFrame (slot : Nat) (parsed : Frame) :
    (worker.writeSessionFrame slot parsed).conns.addressing = worker.conns.addressing := by
  cases found : worker.session slot with
  | none => simp [writeSessionFrame, found]
  | some session =>
      refine Via.addressing (writeSessionFrame_via found ?_ ?_ ?_ ?_)
      · exact fun workerId _ worker => congrArg _ (conns_deliver workerId _ _ _)
      · exact fun stream _ worker => congrArg _ (conns_sendPeerOn stream _ _)
      · exact fun target _ worker => congrArg _ (conns_writeLocal _ _ target)
      · exact fun _ _ _ _ => rfl

theorem addressing_abortSession (slot : Nat) :
    (worker.abortSession slot).conns.addressing = worker.conns.addressing := by
  cases found : worker.session slot with
  | none => simp [abortSession, found]
  | some session =>
      refine Via.addressing (abortSession_via found ?_ ?_ ?_ ?_)
      · exact fun target _ worker => congrArg _ (conns_resetLocal target)
      · exact fun workerId _ worker => congrArg _ (conns_deliver workerId _ _ _)
      · exact fun stream _ worker => congrArg _ (conns_resetPeer stream)
      · exact fun _ _ _ _ => rfl

theorem addressing_attachOne (slot target : Nat) (bytes : Bytes) :
    (worker.attachOne slot target bytes).2.conns.addressing = worker.conns.addressing := by
  unfold attachOne
  split
  · rfl
  · rfl
  split
  · rfl
  split
  · rfl
  have opened := @addressing_openClient worker target bytes false .backend
  split <;> rename_i answer <;> rw [answer] at opened <;> exact opened

theorem addressing_publish (slot : Nat) (kind : EventKind) (reason : SessionReason) :
    (worker.publish slot kind reason).conns.addressing = worker.conns.addressing := by
  refine Via.addressing (publish_via ⟨?_, ?_, ?_, ?_⟩ ?_)
  · exact fun now worker => ConnectionManager.addressing_modify slot fun _ => rfl
  · exact fun _ _ _ => rfl
  · exact fun _ => rfl
  · exact fun _ _ _ _ => rfl
  · exact fun _ _ _ => rfl

theorem conns_changeOutside (change : Outside) :
    (worker.changeOutside change).conns = worker.conns := by
  cases change <;> rfl

theorem conns_refreshPlacement (nodes : List Nat) (now : Nat) :
    (worker.refreshPlacement nodes now).conns = worker.conns := by
  unfold refreshPlacement
  simp only
  split
  · rfl
  · split <;> rfl

end GatewayWorker

open GatewayWorker in
theorem Op.Quiet.keepsAddressing {op : Op} (quiet : op.Quiet) : op.KeepsAddressing := by
  intro worker
  cases op with
  | openClient slot data isFin author => exact addressing_openClient slot data isFin author
  | writeLocal bytes isLast target => exact congrArg _ (conns_writeLocal bytes isLast target)
  | resetLocal target => exact congrArg _ (conns_resetLocal target)
  | attach slot target bytes => exact addressing_attachOne slot target bytes
  | writeSession slot parsed => exact addressing_writeSessionFrame slot parsed
  | abortSession slot => exact addressing_abortSession slot
  | deliver workerId realm session bytes => exact congrArg _ (conns_deliver workerId ..)
  | sendPeer nodeId realm bytes streaming => exact congrArg _ (conns_sendPeer nodeId ..)
  | sendPeerOn stream bytes isLast => exact congrArg _ (conns_sendPeerOn stream ..)
  | resetPeer stream => exact congrArg _ (conns_resetPeer stream)
  | conn slot change => exact ConnectionManager.addressing_modify slot fun ctx => (quiet ctx).1
  | publish slot kind reason => exact addressing_publish slot kind reason
  | accept | remove | bindDest | bind | group | kick | revoke | admitClient | placement | outside =>
      exact quiet.elim
  | _ => rfl

/-- The operation keeps both indexes in step with the connections. -/
def Op.KeepsIndexed (op : Op) : Prop :=
  ∀ worker : GatewayWorker, worker.conns.Indexed → (op.apply worker).conns.Indexed

namespace GatewayWorker

variable {worker after : GatewayWorker}

theorem Via.indexed (via : Via Op.KeepsIndexed worker after) (indexed : worker.conns.Indexed) :
    after.conns.Indexed :=
  @Run.Reaches.invariant _ _ _ _ _ _ (fun worker => worker.conns.Indexed)
    (fun worker _ indexed keeps => keeps worker indexed) via indexed

theorem indexed_publish (slot : Nat) (kind : EventKind) (reason : SessionReason) :
    (Op.publish slot kind reason).KeepsIndexed :=
  fun _ indexed => indexed.of_addressing (addressing_publish slot kind reason)

theorem indexed_conn (slot : Nat) {change : ConnectionContext → ConnectionContext}
    (same : ∀ ctx, (change ctx).sessionHandle = ctx.sessionHandle ∧
      (change ctx).realm = ctx.realm ∧ (change ctx).destId = ctx.destId) :
    (Op.conn slot change).KeepsIndexed :=
  fun _ indexed => indexed.modify slot same

theorem indexed_bindDest (handle : SessionHandle) (destId : Nat) :
    (Op.bindDest handle destId).KeepsIndexed :=
  fun _ indexed => indexed.bindHandle handle destId

theorem revokes_indexed (slot : Nat) (handle : SessionHandle) :
    Revokes Op.KeepsIndexed slot handle where
  publish reason := indexed_publish slot .offline reason
  revoke := indexed_conn slot fun _ => ⟨rfl, rfl, rfl⟩
  unbind := indexed_bindDest handle 0

theorem indexed_revokeAdmission (indexed : worker.conns.Indexed) (slot : Nat)
    (reason : SessionReason) : (worker.revokeAdmission slot reason).conns.Indexed := by
  cases found : worker.context slot with
  | none => simpa [revokeAdmission, found] using indexed
  | some ctx =>
      apply Via.indexed (revokeAdmission_via found (revokes_indexed slot ctx.sessionHandle))
      exact indexed

theorem indexed_kickOne (indexed : worker.conns.Indexed) (realm : RealmId) (token : ConnToken) :
    (worker.kickOne realm token).2.conns.Indexed := by
  refine Via.indexed (kickOne_via (fun slot ctx _ _ _ => revokes_indexed slot ctx.sessionHandle)
    (fun slot data worker indexed => ?_) (fun _ _ _ _ _ _ indexed => indexed)) indexed
  exact indexed.of_addressing (addressing_openClient slot data true .gateway)

theorem indexed_admitSession (indexed : worker.conns.Indexed) (slot : Nat)
    (ctx : ConnectionContext) (handle : SessionHandle) (grant : AuthGrant) :
    (worker.admitSession slot ctx handle grant).conns.Indexed := by
  refine Via.indexed (admitSession_via ⟨?_, ?_, ?_, ?_⟩) indexed
  · exact fun reason => indexed_publish slot .offline reason
  · exact indexed_publish slot .online .authenticated
  · exact fun _ => indexed_conn slot fun _ => ⟨rfl, rfl, rfl⟩
  · exact indexed_bindDest handle grant.destId

/-- A membership change does nothing, or it is one of the connection that the token names. -/
theorem applyGroupChange_cases (realm : RealmId) (join : Bool) (groupId : Nat)
    (token : ConnToken) :
    (worker.applyGroupChange realm join groupId token).2 = worker ∨
    ∃ slot ctx conns, worker.conns.byToken token = some slot ∧ worker.context slot = some ctx ∧
      ctx.realm = realm ∧
      (worker.applyGroupChange realm join groupId token).2 = { worker with conns := conns } ∧
      (join = true ∧ worker.conns.joinGroup ctx.sessionHandle groupId = .ok conns ∨
        join = false ∧ conns = worker.conns.leaveGroup ctx.sessionHandle groupId) := by
  unfold applyGroupChange
  split
  · exact .inl rfl
  rename_i slot resolved
  split
  · exact .inl rfl
  rename_i ctx found
  split
  · exact .inl rfl
  rename_i own
  split
  · rename_i joins
    split
    · exact .inl rfl
    · rename_i conns joined
      exact .inr ⟨slot, ctx, conns, resolved, found, not_not.mp own, rfl, .inl ⟨joins, joined⟩⟩
  · rename_i leaves
    exact .inr ⟨slot, ctx, _, resolved, found, not_not.mp own, rfl, .inr ⟨by simpa using leaves, rfl⟩⟩

theorem indexed_applyGroupChange (indexed : worker.conns.Indexed) (realm : RealmId) (join : Bool)
    (groupId : Nat) (token : ConnToken) :
    (worker.applyGroupChange realm join groupId token).2.conns.Indexed := by
  obtain same | ⟨slot, ctx, conns, -, -, -, changed, ⟨-, joined⟩ | ⟨-, rfl⟩⟩ :=
    worker.applyGroupChange_cases realm join groupId token
  · rw [same]
    exact indexed
  · rw [changed]
    exact indexed.joinGroup joined
  · rw [changed]
    exact indexed.leaveGroup _ _

theorem indexed_resolveBind (indexed : worker.conns.Indexed) (slot : Nat) (ctx : ConnectionContext)
    (parsed : Frame) : (worker.resolveBind slot ctx parsed).2.conns.Indexed := by
  unfold resolveBind
  split
  · exact indexed
  split
  · exact indexed
  split
  · exact indexed
  · exact indexed.modify slot fun _ => ⟨rfl, rfl, rfl⟩

theorem indexed_addConnection (indexed : worker.conns.Indexed) (kind : TransportKind)
    (realm : RealmId) (peerNode : Bool) :
    (worker.addConnection kind realm peerNode).conns.Indexed := by
  unfold addConnection
  simp only
  split
  · exact indexed
  · rename_i handle conns added
    exact indexed.addSession added

theorem addressing_publishOffline (slot : Nat) (reason : SessionReason) :
    (worker.publishOffline slot reason).conns.addressing = worker.conns.addressing := by
  unfold publishOffline
  split
  · rfl
  split
  · exact addressing_publish slot .offline reason
  · rfl

open ConnectionManager in
theorem readdressed_revokeAdmission (indexed : worker.conns.Indexed) (slot : Nat)
    (reason : SessionReason) :
    worker.conns.Readdressed (worker.revokeAdmission slot reason).conns slot Address.revoke := by
  cases found : worker.context slot with
  | none =>
      have gone : worker.conns.context slot = none := found
      rw [revokeAdmission, found]
      exact ⟨by simp [gone], fun _ _ => rfl, rfl, fun _ => rfl⟩
  | some ctx =>
      have quiet : (worker.publishOffline slot reason).conns.addressing = worker.conns.addressing :=
        addressing_publishOffline slot reason
      have revoked : (worker.publishOffline slot reason).conns.Readdressed
          ((worker.publishOffline slot reason).conns.modify slot .revoke) slot
          fun address => { address.revoke with destId := address.destId } :=
        .modify slot fun _ => rfl
      have kept : ((worker.publishOffline slot reason).conns.modify slot .revoke).Indexed :=
        (indexed.of_addressing quiet).modify slot fun _ => ⟨rfl, rfl, rfl⟩
      have resolved : ((worker.publishOffline slot reason).conns.modify slot .revoke).slotFor
          ctx.sessionHandle = some slot := by
        obtain ⟨old, held, address⟩ := address_of_addressing quiet.symm found
        have named : old.revoke.sessionHandle = ctx.sessionHandle :=
          congrArg Address.sessionHandle address
        rw [← named]
        apply kept.slotFor
        rw [context_modify, Function.update_self, held]
        rfl
      rw [revokeAdmission, found]
      exact ((Readdressed.of_addressing quiet slot).trans revoked).trans
        (.bindDest kept resolved 0)

open ConnectionManager in
theorem readdressed_admitSession (indexed : worker.conns.Indexed) (ctx : ConnectionContext)
    (handle : SessionHandle) (grant : AuthGrant) : ∃ (expiresAt : Nat) (destId : Address → Nat),
    worker.conns.Readdressed (worker.admitSession handle.slot ctx handle grant).conns handle.slot
      fun address => { address with
        authenticated := true
        destId := destId address
        authExpiresAt := expiresAt
        revoked := false } := by
  have first : (worker.endIdentity handle.slot ctx grant.destId).conns.addressing =
      worker.conns.addressing := by
    unfold endIdentity
    split
    · exact addressing_publishOffline _ _
    · rfl
  unfold admitSession
  simp only
  generalize worker.endIdentity handle.slot ctx grant.destId = before at first ⊢
  refine ⟨expiryFrom before.now grant.ttlSeconds, ?_⟩
  have last : (if ctx.authenticated = false ∨ ctx.destId ≠ grant.destId then
      ((before.modifyConn handle.slot fun ctx => ctx.admitClient (expiryFrom before.now
        grant.ttlSeconds)).bindDest handle grant.destId).publishOnline handle.slot
      else (before.modifyConn handle.slot fun ctx => ctx.admitClient (expiryFrom before.now
        grant.ttlSeconds)).bindDest handle grant.destId).conns.addressing =
      ((before.conns.modify handle.slot fun ctx => ctx.admitClient (expiryFrom before.now
        grant.ttlSeconds)).bindDest handle grant.destId).addressing := by
    split
    · exact addressing_publish _ _ _
    · rfl
  have granted : before.conns.Readdressed (before.conns.modify handle.slot fun ctx =>
      ctx.admitClient (expiryFrom before.now grant.ttlSeconds)) handle.slot fun address => { address with
        authenticated := true
        authExpiresAt := expiryFrom before.now grant.ttlSeconds
        revoked := false } := .modify handle.slot fun _ => rfl
  have admitted := (Readdressed.of_addressing first handle.slot).trans granted
  have kept : (before.conns.modify handle.slot fun ctx =>
      ctx.admitClient (expiryFrom before.now grant.ttlSeconds)).Indexed :=
    (indexed.of_addressing first).modify handle.slot fun _ => ⟨rfl, rfl, rfl⟩
  generalize before.conns.modify handle.slot _ = middle at admitted kept last
  cases resolved : middle.slotFor handle with
  | none =>
      rw [bindDest_of_slotFor_none resolved] at last
      exact ⟨Address.destId, admitted.trans (.of_addressing last _)⟩
  | some slot =>
      obtain ⟨rfl, -, -⟩ := slotFor_eq_some resolved
      exact ⟨fun _ => grant.destId,
        (admitted.trans (.bindDest kept resolved grant.destId)).trans (.of_addressing last _)⟩

/-- A kick does nothing, or it revokes the admission of the connection that the token names. -/
theorem kickOne_cases (realm : RealmId) (token : ConnToken) :
    worker.kickOne realm token = (false, worker) ∨
    ∃ slot ctx, worker.conns.byToken token = some slot ∧ worker.context slot = some ctx ∧
      ctx.realm = realm ∧ (worker.kickOne realm token).1 = true ∧
      (worker.kickOne realm token).2.conns.addressing =
        (worker.revokeAdmission slot .kicked).conns.addressing := by
  cases resolved : worker.conns.byToken token with
  | none => exact .inl (by simp [kickOne, resolved])
  | some slot =>
      cases found : worker.context slot with
      | none => exact .inl (by simp [kickOne, resolved, found])
      | some ctx =>
          by_cases own : ctx.realm = realm
          · refine .inr ⟨slot, ctx, rfl, found, own, ?_, ?_⟩
            · simp [kickOne, resolved, found, own]
            · simp only [kickOne, resolved, found, own, ne_eq, not_true_eq_false, ↓reduceIte]
              split
              · rfl
              · exact addressing_openClient slot _ true .gateway
          · exact .inl (by simp [kickOne, resolved, found, own])

end GatewayWorker

open GatewayWorker in
theorem Permits.indexed {worker : GatewayWorker} {event : Event} {op : Op} (permits : Permits worker event op) :
    op.KeepsIndexed := by
  intro current indexed
  cases permits with
  | quiet quiet => exact indexed.of_addressing (quiet.keepsAddressing current)
  | pushes | dispatched | turnAway | sendHome => exact indexed
  | accept | acceptPeer => exact indexed_addConnection indexed _ _ _
  | remove => exact indexed.removeSession _
  | bind found => exact indexed_resolveBind indexed _ _ _
  | unbind => exact indexed.modify _ fun _ => ⟨rfl, rfl, rfl⟩
  | admitClient => exact indexed_admitSession indexed _ _ _ _
  | revoke => exact indexed_revokeAdmission indexed _ _
  | renew => exact indexed_publish _ _ _ current indexed
  | placement => exact indexed.of_addressing (congrArg _ (conns_refreshPlacement _ _))
  | outside | popped => exact indexed.of_addressing (congrArg _ (conns_changeOutside _))
  | group => exact indexed_applyGroupChange indexed _ _ _ _
  | kick => exact indexed_kickOne indexed _ _

namespace GatewayWorker

variable {worker : GatewayWorker}

theorem step_indexed (indexed : worker.conns.Indexed) (event : Event) :
    (worker.step event).conns.Indexed :=
  Via.indexed ((step_via event).mono fun _ _ permits => permits.indexed) indexed

/-- A worker alone on its node, to whom the outside grants everything. -/
def alone : GatewayWorker :=
  .init { self := { nodeId := 0, workerId := 0 } } (.init 1 16) fun _ => true

/-- The command for the first connection to join or to leave the group. -/
def membershipCommand (kind : ControlType) : Frame :=
  controlFrame kind .none (BigEndian.write 8 5 ++ (BigEndian.write 2 1 ++ BigEndian.write 16 1))

/-- The command to kick the first connection. -/
def kickCommand : Frame := controlFrame .kickOff .none (BigEndian.write 2 1 ++ BigEndian.write 16 1)

theorem init_indexed (config : Config) (router : MessageRouter) (fate : Nat → Bool) :
    (GatewayWorker.init config router fate).conns.Indexed :=
  ConnectionManager.Indexed.init _ _ _ _

end GatewayWorker

end LyuneGateway.Worker
