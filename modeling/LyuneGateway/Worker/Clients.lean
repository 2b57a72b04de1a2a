import LyuneGateway.Worker.Calm

/-!
# Connections and their clients

A connection in a slot stays the connection of one client until it is removed,
and no two connections are of the same client. So what the log says of a client
it says of one connection.
-/

namespace LyuneGateway.Worker

open Foundation Io Protocol Session

namespace ConnectionManager

variable {manager middle after : ConnectionManager}

/-- Every connection was there, and was the same client's. -/
def SameClients (manager after : ConnectionManager) : Prop :=
  ∀ slot ctx, after.context slot = some ctx →
    ∃ old, manager.context slot = some old ∧ old.transport.ptr = ctx.transport.ptr

namespace SameClients

theorem refl : SameClients manager manager := fun _ ctx found => ⟨ctx, found, rfl⟩

theorem trans (first : SameClients manager middle) (second : SameClients middle after) :
    SameClients manager after := by
  intro slot ctx found
  obtain ⟨mid, held, same⟩ := second slot ctx found
  obtain ⟨old, known, earlier⟩ := first slot mid held
  exact ⟨old, known, earlier.trans same⟩

theorem of_addressing (same : after.addressing = manager.addressing) :
    SameClients manager after := by
  intro slot ctx found
  obtain ⟨old, held, address⟩ := address_of_addressing same found
  exact ⟨old, held, congrArg Address.client address⟩

theorem of_slots (same : after.slots = manager.slots) : SameClients manager after := by
  intro slot ctx found
  exact ⟨ctx, by simpa [context, same] using found, rfl⟩

theorem modify (slot : Nat) {change : ConnectionContext → ConnectionContext}
    (keeps : ∀ ctx, (change ctx).transport.ptr = ctx.transport.ptr) :
    SameClients manager (manager.modify slot change) := by
  intro other ctx found
  obtain ⟨old, held, rfl | ⟨-, rfl⟩⟩ := context_modify_eq_some found
  · exact ⟨ctx, held, rfl⟩
  · exact ⟨old, held, (keeps old).symm⟩

theorem bindDest (handle : SessionHandle) (destId : Nat) :
    SameClients manager (manager.bindDest handle destId) := by
  have unbound (slot : Nat) : SameClients manager (manager.unbindDest slot) := by
    unfold ConnectionManager.unbindDest
    split
    · exact refl
    split
    · exact refl
    · exact modify slot fun _ => rfl
  unfold ConnectionManager.bindDest
  split
  · exact refl
  split
  · exact refl
  split
  · exact refl
  rename_i slot _ _ ctx _ _
  have bound : SameClients manager
      ((manager.unbindDest slot).modify slot fun ctx => ctx.setDest destId) :=
    (unbound slot).trans (modify slot fun _ => rfl)
  simp only
  split <;> exact bound

theorem removeSession (handle : SessionHandle) :
    SameClients manager (manager.removeSession handle) := by
  unfold ConnectionManager.removeSession
  split
  · exact refl
  rename_i slot resolved
  obtain ⟨-, -, own, held⟩ := slotFor_eq_some resolved
  intro other ctx found
  rw [context_releaseSlot held] at found
  by_cases here : other = slot
  · rw [here, Function.update_self] at found
    cases found
  · rw [Function.update_of_ne here] at found
    exact ⟨ctx, found, rfl⟩

theorem leaveGroup (handle : SessionHandle) (groupId : Nat) :
    SameClients manager (manager.leaveGroup handle groupId) := by
  unfold ConnectionManager.leaveGroup
  split
  · exact refl
  split
  · exact of_slots rfl
  · exact refl

end SameClients

end ConnectionManager

def Op.KeepsClients (op : Op) : Prop :=
  ∀ worker : GatewayWorker, worker.conns.SameClients (op.apply worker).conns

namespace GatewayWorker

open ConnectionManager

variable {worker after : GatewayWorker}

theorem Via.sameClients (via : Via Op.KeepsClients worker after) :
    worker.conns.SameClients after.conns :=
  @Run.Reaches.invariant _ _ _ _ _ _ (fun other => worker.conns.SameClients other.conns)
    (fun other _ sofar keeps => sofar.trans (keeps other)) via .refl

theorem revokes_sameClients (slot : Nat) (handle : SessionHandle) :
    Revokes Op.KeepsClients slot handle where
  publish reason _ := .of_addressing (addressing_publish slot .offline reason)
  revoke _ := .modify slot fun _ => rfl
  unbind _ := .bindDest handle 0

theorem sameClients_revokeAdmission (slot : Nat) (reason : SessionReason) :
    worker.conns.SameClients (worker.revokeAdmission slot reason).conns := by
  cases found : worker.context slot with
  | none =>
      simp only [revokeAdmission, found]
      exact .refl
  | some ctx =>
      exact Via.sameClients (revokeAdmission_via found (revokes_sameClients slot ctx.sessionHandle))

theorem sameClients_kickOne (realm : RealmId) (token : ConnToken) :
    worker.conns.SameClients (worker.kickOne realm token).2.conns := by
  refine Via.sameClients (kickOne_via
    (fun slot ctx _ _ _ => revokes_sameClients slot ctx.sessionHandle) ?_ ?_)
  · exact fun slot data _ => .of_addressing (addressing_openClient slot data true .gateway)
  · exact fun _ _ _ _ _ _ => .refl

theorem sameClients_admitSession (slot : Nat) (ctx : ConnectionContext) (handle : SessionHandle)
    (grant : AuthGrant) :
    worker.conns.SameClients (worker.admitSession slot ctx handle grant).conns := by
  refine Via.sameClients (admitSession_via ⟨?_, ?_, ?_, ?_⟩)
  · exact fun reason _ => .of_addressing (addressing_publish slot .offline reason)
  · exact fun _ => .of_addressing (addressing_publish slot .online .authenticated)
  · exact fun _ _ => .modify slot fun _ => rfl
  · exact fun _ => .bindDest handle grant.destId

theorem sameClients_applyGroupChange (realm : RealmId) (join : Bool) (groupId : Nat)
    (token : ConnToken) :
    worker.conns.SameClients (worker.applyGroupChange realm join groupId token).2.conns := by
  obtain same | ⟨slot, ctx, conns, -, -, -, changed, ⟨-, joined⟩ | ⟨-, rfl⟩⟩ :=
    worker.applyGroupChange_cases realm join groupId token
  · rw [same]
    exact .refl
  · rw [changed]
    exact .of_slots (joinGroup_frame joined).1
  · rw [changed]
    exact .leaveGroup _ _

theorem sameClients_resolveBind (slot : Nat) (ctx : ConnectionContext) (parsed : Frame) :
    worker.conns.SameClients (worker.resolveBind slot ctx parsed).2.conns := by
  unfold resolveBind
  split
  · exact .refl
  split
  · exact .refl
  split
  · exact .refl
  · exact .modify slot fun _ => rfl

/-- The connection that goes online when an admission is granted is the admitted one. -/
theorem grows_admitSession (slot : Nat) (ctx : ConnectionContext) (handle : SessionHandle)
    (grant : AuthGrant) :
    Grows (fun action => action.Calm ∨ ∃ own notice, worker.context slot = some own ∧
      action = .published own.transport.ptr .online .authenticated notice) worker
      (worker.admitSession slot ctx handle grant) := by
  have replaced : Undisturbed worker (worker.endIdentity slot ctx grant.destId) := by
    unfold endIdentity
    split
    · exact .publishOffline slot _
    · exact .refl
  have clients : worker.conns.SameClients (worker.endIdentity slot ctx grant.destId).conns := by
    unfold endIdentity
    split
    · exact .of_addressing (addressing_publishOffline slot _)
    · exact .refl
  unfold admitSession
  simp only
  generalize worker.endIdentity slot ctx grant.destId = before at replaced clients ⊢
  have calm : Grows (fun action => action.Calm ∨ ∃ own notice, worker.context slot = some own ∧
      action = .published own.transport.ptr .online .authenticated notice) worker before :=
    replaced.log.mono fun _ => .inl
  have granted : before.conns.SameClients (before.conns.modify slot fun ctx =>
      ctx.admitClient (expiryFrom before.now grant.ttlSeconds)) := .modify slot fun _ => rfl
  have admitted : worker.conns.SameClients ((before.modifyConn slot fun ctx =>
      ctx.admitClient (expiryFrom before.now grant.ttlSeconds)).bindDest handle grant.destId).conns :=
    clients.trans (granted.trans (.bindDest handle grant.destId))
  split
  · refine calm.trans ?_
    refine (grows_publish slot .online .authenticated).mono ?_
    rintro action (calmly | ⟨own, found, rfl⟩)
    · exact .inl calmly
    · obtain ⟨old, held, same⟩ := admitted slot own found
      exact .inr ⟨old, _, held, by rw [same]⟩
  · exact calm

end GatewayWorker

/-- No two connections are of the same client, and no client is used again. -/
structure Distinct (worker : GatewayWorker) : Prop where
  issued : ∀ slot ctx, worker.context slot = some ctx →
    ctx.transport.ptr ≤ worker.nextTransport
  distinct : ∀ slot other ctx own, worker.context slot = some ctx →
    worker.context other = some own → ctx.transport.ptr = own.transport.ptr → slot = other
  logged : ∀ client code, ¬ (Action.close client code).Calm → .close client code ∈ worker.log →
    client ≤ worker.nextTransport

namespace Distinct

open ConnectionManager

variable {worker after before : GatewayWorker} {event : Event}

theorem of_sameClients (distinct : Distinct worker) (clients : worker.conns.SameClients after.conns)
    (next : after.nextTransport = worker.nextTransport)
    (logged : ∀ client code, ¬ (Action.close client code).Calm → .close client code ∈ after.log →
      .close client code ∈ worker.log ∨ client ≤ worker.nextTransport) : Distinct after where
  issued slot ctx found := by
    obtain ⟨old, held, same⟩ := clients slot ctx found
    rw [next, ← same]
    exact distinct.issued slot old held
  distinct slot other ctx own found alsoFound equal := by
    obtain ⟨old, held, same⟩ := clients slot ctx found
    obtain ⟨another, known, alike⟩ := clients other own alsoFound
    exact distinct.distinct slot other old another held known (by rw [same, alike, equal])
  logged client code serious listed := by
    rw [next]
    exact (logged client code serious listed).elim (distinct.logged client code serious) id

theorem of_undisturbed (distinct : Distinct worker)
    (clients : worker.conns.SameClients after.conns) (calm : Undisturbed worker after) :
    Distinct after := by
  refine distinct.of_sameClients clients (congrArg Standing.nextTransport calm.standing) ?_
  intro client code serious listed
  exact .inl ((calm.log.mem_log listed).resolve_right serious)

theorem addConnection (distinct : Distinct worker) (indexed : worker.conns.Indexed)
    (kind : TransportKind) (realm : RealmId) (peerNode : Bool) :
    Distinct (worker.addConnection kind realm peerNode) := by
  have later {client : Nat} (issued : client ≤ worker.nextTransport) :
      client ≤ worker.nextTransport + 1 := Nat.le_succ_of_le issued
  unfold GatewayWorker.addConnection
  simp only
  split
  · exact ⟨fun slot ctx found => later (distinct.issued slot ctx found), distinct.distinct,
      fun client code serious listed => later (distinct.logged client code serious listed)⟩
  rename_i handle conns added
  obtain ⟨slot, rest, free, -, -, holds, -, -, -, -⟩ := addSession_eq_ok added
  have unused : worker.context slot = none :=
    (indexed.free slot (free ▸ List.mem_cons_self)).1
  have fresh {other : Nat} {ctx : ConnectionContext} (found : conns.context other = some ctx) :
      other = slot ∧ ctx.transport.ptr = worker.nextTransport + 1 ∨
        other ≠ slot ∧ worker.context other = some ctx := by
    rw [holds] at found
    by_cases here : other = slot
    · rw [here, Function.update_self, Option.some.injEq] at found
      exact .inl ⟨here, found ▸ rfl⟩
    · rw [Function.update_of_ne here] at found
      exact .inr ⟨here, found⟩
  refine ⟨fun other ctx found => ?_, fun other another ctx own found alsoFound equal => ?_,
    fun client code serious listed => later (distinct.logged client code serious listed)⟩
  · obtain ⟨-, new⟩ | ⟨-, held⟩ := fresh found
    · exact new ▸ le_rfl
    · exact later (distinct.issued other ctx held)
  · obtain ⟨rfl, new⟩ | ⟨-, held⟩ := fresh found <;>
      obtain ⟨rfl, also⟩ | ⟨-, known⟩ := fresh alsoFound
    · rfl
    · have issued := distinct.issued another own known
      omega
    · have issued := distinct.issued other ctx held
      omega
    · exact distinct.distinct other another ctx own held known equal

/-- Every operation of a step keeps the clients distinct. -/
theorem op {op : Op} (started : Distinct before)
    (later : before.nextTransport ≤ worker.nextTransport) (indexed : worker.conns.Indexed)
    (distinct : Distinct worker) (permits : Permits before event op) :
    Distinct (op.apply worker) ∧ before.nextTransport ≤ (op.apply worker).nextTransport := by
  have keep {after : GatewayWorker} (clients : worker.conns.SameClients after.conns)
      (calm : Undisturbed worker after) :
      Distinct after ∧ before.nextTransport ≤ after.nextTransport := by
    refine ⟨distinct.of_undisturbed clients calm, ?_⟩
    rw [show after.nextTransport = _ from congrArg Standing.nextTransport calm.standing]
    exact later
  have stay {after : GatewayWorker} (clients : worker.conns.SameClients after.conns)
      (next : after.nextTransport = worker.nextTransport)
      (logged : ∀ client code, ¬ (Action.close client code).Calm → .close client code ∈ after.log →
        .close client code ∈ worker.log ∨ client ≤ worker.nextTransport) :
      Distinct after ∧ before.nextTransport ≤ after.nextTransport :=
    ⟨distinct.of_sameClients clients next logged, next ▸ later⟩
  have closed {slot : Nat} {ctx : ConnectionContext} {code : Nat}
      (found : before.context slot = some ctx) :
      Distinct (worker.record (.close ctx.transport.ptr code)) ∧
        before.nextTransport ≤ (worker.record (.close ctx.transport.ptr code)).nextTransport := by
    refine stay .refl rfl fun client other serious listed => ?_
    rcases List.mem_append.mp listed with earlier | new
    · exact .inl earlier
    · obtain ⟨rfl, -⟩ := Action.close.inj (List.mem_singleton.mp new)
      exact .inr ((started.issued slot ctx found).trans later)
  cases permits with
  | quiet quiet => exact keep (.of_addressing (quiet.keepsAddressing worker)) (quiet.calm worker)
  | pushes own => exact stay .refl rfl fun _ _ _ => .inl
  | dispatched =>
      refine stay .refl rfl fun client code _ listed => ?_
      rcases List.mem_append.mp listed with earlier | new
      · exact .inl earlier
      · cases List.mem_singleton.mp new
  | accept | acceptPeer =>
      refine ⟨distinct.addConnection indexed _ _ _, ?_⟩
      simp only [Op.apply, GatewayWorker.addConnection]
      split <;> exact Nat.le_succ_of_le later
  | remove => exact keep (.removeSession _) (.setConns _)
  | bind => exact keep (GatewayWorker.sameClients_resolveBind _ _ _) (.resolveBind _ _ _)
  | unbind => exact keep (.modify _ fun _ => rfl) (.modifyConn _ _)
  | admitClient =>
      refine stay (GatewayWorker.sameClients_admitSession _ _ _ _)
        (congrArg Standing.nextTransport (GatewayWorker.standing_admitSession _ _ _ _))
        fun client code serious listed => ?_
      rcases (GatewayWorker.grows_admitSession _ _ _ _).mem_log listed with
        earlier | calm | ⟨_, _, -, published⟩
      · exact .inl earlier
      · exact absurd calm serious
      · cases published
  | turnAway _ _ _ found => exact closed found
  | sendHome found => exact closed found
  | revoke =>
      exact keep (GatewayWorker.sameClients_revokeAdmission _ _) (.revokeAdmission _ _)
  | renew =>
      refine stay (.of_addressing (GatewayWorker.addressing_publish _ _ _))
        (congrArg Standing.nextTransport (GatewayWorker.standing_publish _ _ _))
        fun client code serious listed => ?_
      rcases (GatewayWorker.grows_publish _ _ _).mem_log listed with
        earlier | calm | ⟨_, -, published⟩
      · exact .inl earlier
      · exact absurd calm serious
      · cases published
  | placement =>
      obtain ⟨log, next, -⟩ := GatewayWorker.refreshPlacement_frame _ _
      exact stay (.of_addressing (congrArg _ (GatewayWorker.conns_refreshPlacement _ _))) next
        fun _ _ _ listed => .inl (log ▸ listed)
  | outside | popped =>
      obtain ⟨log, next, -⟩ := GatewayWorker.changeOutside_frame _
      exact stay (.of_addressing (congrArg _ (GatewayWorker.conns_changeOutside _))) next
        fun _ _ _ listed => .inl (log ▸ listed)
  | group =>
      exact keep (GatewayWorker.sameClients_applyGroupChange _ _ _ _) (.applyGroupChange _ _ _ _)
  | kick =>
      refine stay (GatewayWorker.sameClients_kickOne _ _)
        (congrArg Standing.nextTransport (GatewayWorker.standing_kickOne _ _))
        fun client code serious listed => ?_
      rcases (GatewayWorker.grows_kickOne _ _).mem_log listed with
        earlier | calm | ⟨slot, ctx, -, found, -, closes⟩
      · exact .inl earlier
      · exact absurd calm serious
      · obtain ⟨rfl, -⟩ := Action.close.inj closes
        exact .inr (distinct.issued slot ctx found)

/-- After a step no two connections are of the same client either. -/
theorem step (distinct : Distinct worker) (indexed : worker.conns.Indexed) (event : Event) :
    Distinct (worker.step event) ∧ worker.nextTransport ≤ (worker.step event).nextTransport := by
  have kept : (worker.step event).conns.Indexed ∧ Distinct (worker.step event) ∧
      worker.nextTransport ≤ (worker.step event).nextTransport := by
    refine @Run.Reaches.invariant _ _ _ _ _ _ (fun after => after.conns.Indexed ∧ Distinct after ∧
      worker.nextTransport ≤ after.nextTransport) ?_ (GatewayWorker.step_via event)
      ⟨indexed, distinct, le_rfl⟩
    rintro after op ⟨indexed, separate, later⟩ permits
    exact ⟨permits.indexed after indexed, Distinct.op distinct later indexed separate permits⟩
  exact kept.2

theorem init (config : Config) (router : MessageRouter) (fate : Nat → Bool) :
    Distinct (.init config router fate) where
  issued _ _ found := nomatch found
  distinct _ _ _ _ found := nomatch found
  logged _ _ _ listed := nomatch listed

end Distinct

end LyuneGateway.Worker
