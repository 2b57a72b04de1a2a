import LyuneGateway.Worker.Clients

/-!
# Clients out of service

A client that has been kicked or sent away stays connected for a while. It is
out of service as long as it is not admitted and bound to no destination, and
only a new admission ends that.
-/

namespace LyuneGateway.Worker

open Foundation Io Protocol Session

/-- The authentication that an event decides in favour of a connection. -/
def Event.answered (worker : GatewayWorker) : Event → Option (ConnectionContext × AuthGrant)
  | .authResponse key data true =>
      (worker.inflight.lookupAuth key).bind fun pending =>
        (worker.conns.getByHandle pending.clientSession).bind fun ctx =>
          if worker.ask.1 = true ∧ (classify (pending.buffer ++ data)).result = .success then
            some (ctx, (classify (pending.buffer ++ data)).grant)
          else none
  | _ => none

/-- The connection that an event admits. -/
def Event.admits (worker : GatewayWorker) (event : Event) : Option ConnectionContext :=
  ((event.answered worker).filter fun answer =>
    !worker.redirects answer.1.realm answer.2.destId).map Prod.fst

/-- The connection that an event sends away in answer to its authentication. -/
def Event.turnsAway (worker : GatewayWorker) (event : Event) : Option ConnectionContext :=
  ((event.answered worker).filter fun answer =>
    worker.redirects answer.1.realm answer.2.destId).map Prod.fst

namespace Permits

variable {worker : GatewayWorker} {event : Event}

theorem admits_eq_some {slot : Nat} {ctx : ConnectionContext} {handle : SessionHandle}
    {grant : AuthGrant} (permits : Permits worker event (.admitClient slot ctx handle grant)) :
    worker.context slot = some ctx ∧ event.admits worker = some ctx := by
  cases permits with
  | quiet quiet => exact quiet.elim
  | admitClient waiting granted resolved found success stays =>
      refine ⟨found, ?_⟩
      have held : worker.conns.context slot = some ctx := found
      simp [Event.admits, Event.answered, waiting, ConnectionManager.getByHandle, resolved, held,
        granted, success, stays]

end Permits

/-- None of the clients is admitted at a time, or bound to a destination. -/
def Silent (clients : Nat → Prop) (now : Nat) (conns : ConnectionManager) : Prop :=
  ∀ slot ctx, conns.context slot = some ctx → clients ctx.transport.ptr →
    ctx.isAdmitted now = false ∧ ctx.destId = 0

def Address.isAdmitted (address : Address) (now : Nat) : Bool :=
  address.authenticated && (address.authExpiresAt = 0 || now < address.authExpiresAt)

namespace Silent

variable {clients : Nat → Prop} {now : Nat} {conns after : ConnectionManager}

theorem of_slots (silent : Silent clients now conns) (same : after.slots = conns.slots) :
    Silent clients now after := by
  intro slot ctx found
  apply silent slot ctx
  simpa [ConnectionManager.context, same] using found

theorem later (silent : Silent clients now conns) {later : Nat} (passes : now ≤ later) :
    Silent clients later conns := by
  intro slot ctx found out
  obtain ⟨admitted, unbound⟩ := silent slot ctx found out
  refine ⟨?_, unbound⟩
  simp only [ConnectionContext.isAdmitted, Bool.and_eq_false_iff, Bool.or_eq_false_iff,
    decide_eq_false_iff_not] at admitted ⊢
  exact admitted.imp_right fun late => ⟨late.1, by omega⟩

theorem modify (silent : Silent clients now conns) (slot : Nat)
    {change : ConnectionContext → ConnectionContext}
    (keeps : ∀ ctx, (change ctx).transport.ptr = ctx.transport.ptr ∧
      (change ctx).isAdmitted now = ctx.isAdmitted now ∧ (change ctx).destId = ctx.destId) :
    Silent clients now (conns.modify slot change) := by
  intro other ctx found out
  obtain ⟨old, held, rfl | ⟨-, rfl⟩⟩ := ConnectionManager.context_modify_eq_some found
  · exact silent other ctx held out
  · obtain ⟨client, admitted, bound⟩ := keeps old
    rw [client] at out
    rw [admitted, bound]
    exact silent other old held out

/-- Another address of one connection matters only when it is not silent. -/
theorem readdressed (silent : Silent clients now conns) {slot : Nat} {change : Address → Address}
    (changed : conns.Readdressed after slot change)
    (quiet : ∀ ctx, conns.context slot = some ctx →
      (change ctx.address).client = ctx.transport.ptr ∧ (clients ctx.transport.ptr →
        (change ctx.address).isAdmitted now = false ∧ (change ctx.address).destId = 0)) :
    Silent clients now after := by
  intro other ctx found out
  obtain ⟨old, held, ⟨rfl, address⟩ | ⟨-, address⟩⟩ := changed.of_eq_some found
  · obtain ⟨client, silenced⟩ := quiet old held
    have same : ctx.transport.ptr = old.transport.ptr := (congrArg Address.client address).trans client
    obtain ⟨admitted, unbound⟩ := silenced (same ▸ out)
    exact ⟨(congrArg (Address.isAdmitted · now) address).trans admitted,
      (congrArg Address.destId address).trans unbound⟩
  · have same : ctx.transport.ptr = old.transport.ptr := congrArg Address.client address
    obtain ⟨admitted, unbound⟩ := silent other old held (same ▸ out)
    exact ⟨(congrArg (Address.isAdmitted · now) address).trans admitted,
      (congrArg Address.destId address).trans unbound⟩

theorem of_addressing (silent : Silent clients now conns)
    (same : after.addressing = conns.addressing) : Silent clients now after :=
  silent.readdressed (.of_addressing same 0) fun ctx found =>
    ⟨rfl, fun out => silent 0 ctx found out⟩

/-- A connection that is revoked is silent from then on. -/
theorem revoke (silent : Silent clients now conns) {slot : Nat}
    (changed : conns.Readdressed after slot Address.revoke) : Silent clients now after :=
  silent.readdressed changed fun _ _ => ⟨rfl, fun _ => ⟨rfl, rfl⟩⟩

theorem removeSession (silent : Silent clients now conns) (handle : SessionHandle) :
    Silent clients now (conns.removeSession handle) := by
  unfold ConnectionManager.removeSession
  split
  · exact silent
  rename_i slot resolved
  obtain ⟨-, -, own, held⟩ := ConnectionManager.slotFor_eq_some resolved
  intro other ctx found
  rw [ConnectionManager.context_releaseSlot held] at found
  by_cases here : other = slot
  · rw [here, Function.update_self] at found
    cases found
  · rw [Function.update_of_ne here] at found
    exact silent other ctx found

theorem addConnection {worker : GatewayWorker} (silent : Silent clients now worker.conns)
    (known : ∀ client, clients client → client ≤ worker.nextTransport) (kind : TransportKind)
    (realm : RealmId) (peerNode : Bool) :
    Silent clients now (worker.addConnection kind realm peerNode).conns := by
  unfold GatewayWorker.addConnection
  simp only
  split
  · exact silent
  rename_i handle conns added
  obtain ⟨slot, rest, -, -, -, holds, -, -, -, -⟩ := ConnectionManager.addSession_eq_ok added
  intro other ctx found out
  simp only [holds] at found
  by_cases here : other = slot
  · rw [here, Function.update_self, Option.some.injEq] at found
    have issued := known _ out
    rw [← found] at issued
    exact absurd issued (Nat.not_succ_le_self _)
  · rw [Function.update_of_ne here] at found
    exact silent other ctx found out

theorem admitSession {worker : GatewayWorker} (silent : Silent clients now worker.conns)
    (indexed : worker.conns.Indexed) {ctx : ConnectionContext} {handle : SessionHandle}
    {grant : AuthGrant}
    (outside : ∀ own, worker.context handle.slot = some own → ¬ clients own.transport.ptr) :
    Silent clients now (worker.admitSession handle.slot ctx handle grant).conns := by
  obtain ⟨expiresAt, destId, changed⟩ :=
    GatewayWorker.readdressed_admitSession indexed ctx handle grant
  exact silent.readdressed changed fun own found =>
    ⟨rfl, fun out => absurd out (outside own found)⟩

theorem kickOne {worker : GatewayWorker} (silent : Silent clients now worker.conns)
    (indexed : worker.conns.Indexed) (realm : RealmId) (token : ConnToken) :
    Silent clients now (worker.kickOne realm token).2.conns := by
  obtain same | ⟨slot, _, -, -, -, -, kicked⟩ := GatewayWorker.kickOne_cases realm token
  · rw [same]
    exact silent
  · have revoked := GatewayWorker.readdressed_revokeAdmission indexed slot .kicked
    exact (silent.revoke revoked).of_addressing kicked

theorem applyGroupChange {worker : GatewayWorker} (silent : Silent clients now worker.conns)
    (realm : RealmId) (join : Bool) (groupId : Nat) (token : ConnToken) :
    Silent clients now (worker.applyGroupChange realm join groupId token).2.conns := by
  obtain same | ⟨slot, ctx, conns, -, -, -, changed, ⟨-, joined⟩ | ⟨-, rfl⟩⟩ :=
    worker.applyGroupChange_cases realm join groupId token
  · rw [same]
    exact silent
  · rw [changed]
    exact silent.of_slots (ConnectionManager.joinGroup_frame joined).1
  · rw [changed]
    refine silent.of_slots ?_
    unfold ConnectionManager.leaveGroup
    split
    · rfl
    · split <;> rfl

theorem resolveBind {worker : GatewayWorker} (silent : Silent clients now worker.conns)
    (slot : Nat) (ctx : ConnectionContext) (parsed : Frame) :
    Silent clients now (worker.resolveBind slot ctx parsed).2.conns := by
  unfold GatewayWorker.resolveBind
  split
  · exact silent
  split
  · exact silent
  split
  · exact silent
  · exact silent.modify slot fun _ => ⟨rfl, rfl, rfl⟩

/-- Nobody who is silent can be found by a destination. -/
theorem not_mem_destConnections (silent : Silent clients now conns) (indexed : conns.Indexed)
    {slot : Nat} {ctx : ConnectionContext} (found : conns.context slot = some ctx)
    (out : clients ctx.transport.ptr) (realm : RealmId) (destId : Nat) :
    slot ∉ conns.destConnections realm destId := by
  intro listed
  obtain ⟨addressed, own, held, -, bound⟩ := indexed.mem_destConnections.mp listed
  rw [found, Option.some.injEq] at held
  exact addressed (bound ▸ held ▸ (silent slot ctx found out).2)

end Silent

/-- In the middle of a step that admits none of them, the clients are silent. -/
structure Silencing (clients : Nat → Prop) (now : Nat) (before : GatewayWorker) (event : Event)
    (worker : GatewayWorker) : Prop where
  indexed : worker.conns.Indexed
  silent : Silent clients now worker.conns
  known : ∀ client, clients client → client ≤ worker.nextTransport
  same : event.admits before ≠ none → before.conns.SameClients worker.conns

namespace Silencing

variable {clients : Nat → Prop} {now : Nat} {before worker : GatewayWorker} {event : Event}

theorem op {op : Op} (silencing : Silencing clients now before event worker)
    (outside : ∀ ctx, event.admits before = some ctx → ¬ clients ctx.transport.ptr)
    (permits : Permits before event op) : Silencing clients now before event (op.apply worker) := by
  have indexed := permits.indexed worker silencing.indexed
  have keep (silent : Silent clients now (op.apply worker).conns)
      (next : (op.apply worker).nextTransport = worker.nextTransport)
      (same : worker.conns.SameClients (op.apply worker).conns) :
      Silencing clients now before event (op.apply worker) :=
    ⟨indexed, silent, fun client out => next ▸ silencing.known client out,
      fun admits => (silencing.same admits).trans same⟩
  cases permits with
  | quiet quiet =>
      have kept := quiet.keepsAddressing worker
      exact keep (silencing.silent.of_addressing kept)
        (congrArg Standing.nextTransport (quiet.calm worker).standing) (.of_addressing kept)
  | pushes | dispatched | turnAway | sendHome => exact keep silencing.silent rfl .refl
  | accept | acceptPeer =>
      refine ⟨indexed, silencing.silent.addConnection silencing.known _ _ _, ?_, fun admits => ?_⟩
      · intro client out
        simp only [Op.apply, GatewayWorker.addConnection]
        split <;> exact Nat.le_succ_of_le (silencing.known client out)
      · exact absurd rfl admits
  | remove => exact keep (silencing.silent.removeSession _) rfl (.removeSession _)
  | bind =>
      exact keep (silencing.silent.resolveBind _ _ _)
        (congrArg Standing.nextTransport (Undisturbed.resolveBind _ _ _).standing)
        (GatewayWorker.sameClients_resolveBind _ _ _)
  | unbind =>
      exact keep (silencing.silent.modify _ fun _ => ⟨rfl, rfl, rfl⟩) rfl (.modify _ fun _ => rfl)
  | @admitClient key data pending slot ctx waiting granted resolved found success stays =>
      obtain ⟨-, admits⟩ :=
        Permits.admits_eq_some (.admitClient waiting granted resolved found success stays)
      obtain ⟨rfl, -, -⟩ := ConnectionManager.slotFor_eq_some resolved
      refine keep (silencing.silent.admitSession silencing.indexed fun own held => ?_)
        (congrArg Standing.nextTransport (GatewayWorker.standing_admitSession _ _ _ _))
        (GatewayWorker.sameClients_admitSession _ _ _ _)
      obtain ⟨old, known, client⟩ := silencing.same (by simp [admits]) _ own held
      have equal : ctx = old := Option.some.inj (found.symm.trans known)
      rw [← client, ← equal]
      exact outside ctx admits
  | revoke =>
      have revoked := GatewayWorker.readdressed_revokeAdmission silencing.indexed
      exact keep (silencing.silent.revoke (revoked _ _))
        (congrArg Standing.nextTransport (Undisturbed.revokeAdmission _ _).standing)
        (GatewayWorker.sameClients_revokeAdmission _ _)
  | renew =>
      exact keep (silencing.silent.of_addressing (GatewayWorker.addressing_publish _ _ _))
        (congrArg Standing.nextTransport (GatewayWorker.standing_publish _ _ _))
        (.of_addressing (GatewayWorker.addressing_publish _ _ _))
  | placement =>
      exact keep
        (silencing.silent.of_addressing (congrArg _ (GatewayWorker.conns_refreshPlacement _ _)))
        (GatewayWorker.refreshPlacement_frame _ _).2.1
        (.of_addressing (congrArg _ (GatewayWorker.conns_refreshPlacement _ _)))
  | outside | popped =>
      exact keep (silencing.silent.of_addressing (congrArg _ (GatewayWorker.conns_changeOutside _)))
        (GatewayWorker.changeOutside_frame _).2.1
        (.of_addressing (congrArg _ (GatewayWorker.conns_changeOutside _)))
  | group =>
      exact keep (silencing.silent.applyGroupChange _ _ _ _)
        (congrArg Standing.nextTransport (Undisturbed.applyGroupChange _ _ _ _).standing)
        (GatewayWorker.sameClients_applyGroupChange _ _ _ _)
  | kick =>
      exact keep (silencing.silent.kickOne silencing.indexed _ _)
        (congrArg Standing.nextTransport (GatewayWorker.standing_kickOne _ _))
        (GatewayWorker.sameClients_kickOne _ _)

/-- A step that admits none of the silent clients keeps them silent. -/
theorem step (indexed : worker.conns.Indexed) (silent : Silent clients now worker.conns)
    (known : ∀ client, clients client → client ≤ worker.nextTransport)
    (outside : ∀ ctx, event.admits worker = some ctx → ¬ clients ctx.transport.ptr) :
    Silencing clients now worker event (worker.step event) :=
  (GatewayWorker.step_via event).invariant (fun _ _ silencing permits => silencing.op outside permits)
    ⟨indexed, silent, known, fun _ => .refl⟩

end Silencing

end LyuneGateway.Worker
