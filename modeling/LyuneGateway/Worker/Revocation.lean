import LyuneGateway.Worker.Reach

/-!
# Revoked connections

Revoking an admission takes the destination of a connection away but not its
groups, and a backend may also put a connection into a group whose admission is
already revoked. A revoked connection is out of reach in runs in which neither
happens.
-/

namespace LyuneGateway.Worker

open Foundation Io Protocol Session

namespace ConnectionManager

variable {manager after : ConnectionManager}

/-- The same in terms of the connections and the edges. -/
def Withdrawn (manager : ConnectionManager) : Prop :=
  ∀ slot ctx, manager.context slot = some ctx → ctx.revoked = true →
    ctx.destId = 0 ∧ ∀ edge ∈ manager.edges, edge.slot ≠ slot

/-- Nobody is revoked who was not, and no edge is new. -/
theorem Withdrawn.of_fewer (withdrawn : manager.Withdrawn) (edges : after.edges ⊆ manager.edges)
    (contexts : ∀ slot ctx, after.context slot = some ctx → ctx.revoked = true →
      ∃ old, manager.context slot = some old ∧ old.revoked = true ∧ old.destId = ctx.destId) :
    after.Withdrawn := by
  intro slot ctx found revoked
  obtain ⟨old, held, wasRevoked, dest⟩ := contexts slot ctx found revoked
  obtain ⟨unbound, alone⟩ := withdrawn slot old held wasRevoked
  exact ⟨dest ▸ unbound, fun edge listed => alone edge (edges listed)⟩

theorem Withdrawn.of_addressing (withdrawn : manager.Withdrawn)
    (same : after.addressing = manager.addressing) : after.Withdrawn := by
  have edges : after.edges = manager.edges := congrArg Addressing.edges same
  refine withdrawn.of_fewer (edges ▸ List.Subset.refl _) fun slot ctx found revoked => ?_
  obtain ⟨old, held, address⟩ := address_of_addressing same found
  exact ⟨old, held, (congrArg Address.revoked address).trans revoked,
    congrArg Address.destId address⟩

theorem Withdrawn.modify (withdrawn : manager.Withdrawn) (slot : Nat)
    {change : ConnectionContext → ConnectionContext}
    (same : ∀ ctx, (change ctx).revoked = ctx.revoked ∧ (change ctx).destId = ctx.destId) :
    (manager.modify slot change).Withdrawn := by
  refine withdrawn.of_fewer (List.Subset.refl _) fun other ctx found revoked => ?_
  obtain ⟨old, held, rfl | ⟨-, rfl⟩⟩ := context_modify_eq_some found
  · exact ⟨ctx, held, revoked, rfl⟩
  · exact ⟨old, held, (same old).1.symm.trans revoked, (same old).2.symm⟩

/-- A connection outside all groups may be revoked. -/
theorem Withdrawn.revoke (withdrawn : manager.Withdrawn) {slot : Nat}
    (readdressed : Readdressed manager after slot Address.revoke)
    (alone : ∀ edge ∈ manager.edges, edge.slot ≠ slot) : after.Withdrawn := by
  intro other ctx found revoked
  rw [readdressed.edges]
  obtain ⟨old, held, ⟨rfl, address⟩ | ⟨-, address⟩⟩ := readdressed.of_eq_some found
  · exact ⟨congrArg Address.destId address, alone⟩
  · have dest : ctx.destId = old.destId := congrArg Address.destId address
    have wasRevoked : ctx.revoked = old.revoked := congrArg Address.revoked address
    rw [dest]
    exact withdrawn other old held (wasRevoked ▸ revoked)

/-- Any connection may be admitted. -/
theorem Withdrawn.admitClient (withdrawn : manager.Withdrawn) {slot : Nat} {change : Address → Address}
    (readdressed : Readdressed manager after slot change)
    (admits : ∀ address, (change address).revoked = false) : after.Withdrawn := by
  refine withdrawn.of_fewer (readdressed.edges ▸ List.Subset.refl _) fun other ctx found revoked => ?_
  obtain ⟨old, held, ⟨rfl, address⟩ | ⟨-, address⟩⟩ := readdressed.of_eq_some found
  · have admitted : ctx.revoked = false :=
      (congrArg Address.revoked address).trans (admits old.address)
    rw [admitted] at revoked
    cases revoked
  · exact ⟨old, held, (congrArg Address.revoked address).symm.trans revoked,
      (congrArg Address.destId address).symm⟩

/-- A new connection has not been revoked. -/
theorem Withdrawn.addSession (withdrawn : manager.Withdrawn) {transport : TransportSession}
    {realm : RealmId} {peerNode : Bool} {now : Nat} {handle : SessionHandle}
    (added : manager.addSession transport realm peerNode now = .ok (handle, after)) :
    after.Withdrawn := by
  obtain ⟨slot, -, -, -, -, holds, -, -, -, edges⟩ := addSession_eq_ok added
  refine withdrawn.of_fewer (edges ▸ List.Subset.refl _) fun other ctx found revoked => ?_
  rw [holds] at found
  by_cases here : other = slot
  · rw [here, Function.update_self, Option.some.injEq] at found
    subst found
    cases revoked
  · rw [Function.update_of_ne here] at found
    exact ⟨ctx, found, revoked, rfl⟩

theorem Withdrawn.removeSession (withdrawn : manager.Withdrawn) (handle : SessionHandle) :
    (manager.removeSession handle).Withdrawn := by
  unfold ConnectionManager.removeSession
  split
  · exact withdrawn
  rename_i slot resolved
  obtain ⟨-, -, own, held⟩ := slotFor_eq_some resolved
  refine withdrawn.of_fewer ?_ fun other ctx found revoked => ?_
  · rw [edges_releaseSlot held]
    exact List.filter_subset_self _
  · rw [context_releaseSlot held] at found
    by_cases here : other = slot
    · rw [here, Function.update_self] at found
      cases found
    · rw [Function.update_of_ne here] at found
      exact ⟨ctx, found, revoked, rfl⟩

theorem Withdrawn.leaveGroup (withdrawn : manager.Withdrawn) (handle : SessionHandle)
    (groupId : Nat) : (manager.leaveGroup handle groupId).Withdrawn := by
  unfold ConnectionManager.leaveGroup
  split
  · exact withdrawn
  split
  · exact withdrawn.of_fewer (List.erase_subset) fun _ ctx found revoked =>
      ⟨ctx, found, revoked, rfl⟩
  · exact withdrawn

/-- There is room for one more membership of the realm. -/
def hasRoom (manager : ConnectionManager) (realm : RealmId) : Bool :=
  manager.edges.length < manager.edgeCapacity && manager.groupQuota.allows realm

/-- A revoked connection does not get into a group that is none, or for which there is no room. -/
theorem Withdrawn.joinGroup (withdrawn : manager.Withdrawn) (indexed : manager.Indexed)
    {slot groupId : Nat} {ctx : ConnectionContext} (found : manager.context slot = some ctx)
    (joined : manager.joinGroup ctx.sessionHandle groupId = .ok after)
    (refused : groupId = 0 ∨ manager.hasRoom ctx.realm = false ∨ ctx.revoked = false) :
    after.Withdrawn := by
  unfold ConnectionManager.joinGroup at joined
  split at joined
  · cases joined
    exact withdrawn
  rename_i grouped
  rw [indexed.getByHandle found] at joined
  simp only at joined
  split at joined
  · cases joined
    exact withdrawn
  split at joined
  · cases joined
  rename_i roomy
  split at joined
  · cases joined
  rename_i allowed
  cases joined
  have admitted : ctx.revoked = false :=
    (refused.resolve_left grouped).resolve_left (by simp_all [hasRoom])
  have named : ctx.sessionHandle.slot = slot := congrArg SessionHandle.slot
    (indexed.handle slot ctx found).2
  intro other own held revoked
  obtain ⟨unbound, alone⟩ := withdrawn other own held revoked
  refine ⟨unbound, fun edge listed => ?_⟩
  rcases List.mem_cons.mp listed with rfl | earlier
  · rintro rfl
    change manager.context ctx.sessionHandle.slot = some own at held
    rw [named, found, Option.some.injEq] at held
    rw [← held, admitted] at revoked
    cases revoked
  · exact alone edge earlier

theorem hasRoom_of_addressing (same : after.addressing = manager.addressing) (realm : RealmId) :
    after.hasRoom realm = manager.hasRoom realm := by
  have edges : after.edges = manager.edges := congrArg Addressing.edges same
  have capacity : after.capacity = manager.capacity := congrArg Addressing.capacity same
  have quota : after.groupQuota = manager.groupQuota := congrArg Addressing.groupQuota same
  rw [hasRoom, hasRoom, edgeCapacity, edgeCapacity, edges, capacity, quota]

/-- Where there is no room, a membership more or less of the realm makes none. -/
theorem hasRoom_joinGroup {realm : RealmId} (full : manager.hasRoom realm = false)
    {handle : SessionHandle} {groupId : Nat} {ctx : ConnectionContext}
    (found : manager.getByHandle handle = some ctx) (own : ctx.realm = realm)
    (joined : manager.joinGroup handle groupId = .ok after) : after.hasRoom realm = false := by
  unfold joinGroup at joined
  rw [found] at joined
  simp only at joined
  split at joined
  · cases joined
    exact full
  split at joined
  · cases joined
    exact full
  split at joined
  · cases joined
  rename_i roomy
  split at joined
  · cases joined
  rename_i allowed
  cases joined
  rw [own] at allowed
  simp_all [hasRoom]

end ConnectionManager

namespace Event

/-- Whoever the event revokes is in no group. -/
def revokesOutside (worker : GatewayWorker) (event : Event) : Bool :=
  let outside (slot : Nat) : Bool := worker.conns.edges.all fun edge => edge.slot ≠ slot
  match event with
  | .expireAdmission slot now => (worker.context slot).all fun ctx =>
      ctx.peerNode || !ctx.authenticated || ctx.isAdmitted now || outside slot
  | _ => (event.kickCommand worker).all fun command =>
      worker.conns.named command.1 command.2.toList fun slot _ => outside slot

/-- Whoever the event makes join a group has not been revoked, unless nobody could join. -/
def joinsAdmitted (worker : GatewayWorker) (event : Event) : Bool :=
  (event.groupCommand worker .joinGroup).all fun command =>
    command.2.groupId = 0 || !worker.conns.hasRoom command.1 ||
      worker.conns.named command.1 command.2.members.toList fun _ ctx => !ctx.revoked

end Event

namespace GatewayWorker

/-- What the conditions on the event say at any moment of its step. -/
structure Withholding (before : GatewayWorker) (event : Event) (worker : GatewayWorker) : Prop where
  indexed : worker.conns.Indexed
  withdrawn : worker.conns.Withdrawn
  expires : ∀ slot now ctx, event = .expireAdmission slot now → before.context slot = some ctx →
    ctx.peerNode = false → ctx.authenticated = true → ctx.isAdmitted now = false →
    ∀ edge ∈ worker.conns.edges, edge.slot ≠ slot
  kicks : ∀ realm list, event.kickCommand before = some (realm, list) →
    worker.conns.Named realm list.toList fun slot _ => ∀ edge ∈ worker.conns.edges, edge.slot ≠ slot
  joins : ∀ realm binding, event.groupCommand before .joinGroup = some (realm, binding) →
    binding.groupId = 0 ∨ worker.conns.hasRoom realm = false ∨
      worker.conns.Named realm binding.members.toList fun _ ctx => ctx.revoked = false

variable {worker after before : GatewayWorker} {event : Event}

theorem Withholding.start (indexed : worker.conns.Indexed) (withdrawn : worker.conns.Withdrawn)
    (revokes : event.revokesOutside worker = true) (joins : event.joinsAdmitted worker = true) :
    Withholding worker event worker where
  indexed := indexed
  withdrawn := withdrawn
  expires := by
    rintro slot now ctx rfl found client online expired
    simp only [Event.revokesOutside, found, Option.all_some, client, online, expired,
      Bool.not_true, Bool.false_or, List.all_eq_true, decide_eq_true_eq] at revokes
    exact revokes
  kicks realm list command := by
    have named : worker.conns.named realm list.toList (fun slot _ =>
        worker.conns.edges.all fun edge => edge.slot ≠ slot) = true := by
      cases event <;> first | cases command | simpa [Event.revokesOutside, command] using revokes
    rw [ConnectionManager.named_eq_true] at named
    simpa only [List.all_eq_true, decide_eq_true_eq] using named
  joins realm binding command := by
    simp only [Event.joinsAdmitted, command, Option.all_some, Bool.or_eq_true, decide_eq_true_eq,
      Bool.not_eq_true', or_assoc, ConnectionManager.named_eq_true] at joins
    exact joins

theorem Withholding.of_addressing (holds : Withholding before event worker)
    (same : after.conns.addressing = worker.conns.addressing) : Withholding before event after where
  indexed := holds.indexed.of_addressing same
  withdrawn := holds.withdrawn.of_addressing same
  expires slot now ctx is found client online expired := by
    have edges : after.conns.edges = worker.conns.edges := congrArg Addressing.edges same
    rw [edges]
    exact holds.expires slot now ctx is found client online expired
  kicks realm list command := by
    have edges : after.conns.edges = worker.conns.edges := congrArg Addressing.edges same
    rw [edges]
    refine (holds.kicks realm list command).imp (ConnectionManager.byToken_of_addressing same)
      fun slot ctx found => ?_
    obtain ⟨old, held, address⟩ := ConnectionManager.address_of_addressing same found
    exact ⟨old, held, congrArg Address.realm address, id⟩
  joins realm binding command := by
    rw [ConnectionManager.hasRoom_of_addressing same]
    refine (holds.joins realm binding command).imp_right (Or.imp_right fun all =>
      all.imp (ConnectionManager.byToken_of_addressing same) fun slot ctx found => ?_)
    obtain ⟨old, held, address⟩ := ConnectionManager.address_of_addressing same found
    exact ⟨old, held, congrArg Address.realm address,
      fun admitted => (congrArg Address.revoked address).symm.trans admitted⟩

/-- A step that brings no command and does not look for expired admissions. -/
theorem Withholding.idle (indexed : after.conns.Indexed) (withdrawn : after.conns.Withdrawn)
    (command : event.command before = none) (sweeps : ∀ slot now, event ≠ .expireAdmission slot now) :
    Withholding before event after where
  indexed := indexed
  withdrawn := withdrawn
  expires slot now _ is := absurd is (sweeps slot now)
  kicks _ _ brought := by simp [Event.kickCommand, command] at brought
  joins _ _ brought := by simp [Event.groupCommand, command] at brought

theorem withdrawn_resolveBind (withdrawn : worker.conns.Withdrawn) (slot : Nat)
    (ctx : ConnectionContext) (parsed : Frame) :
    (worker.resolveBind slot ctx parsed).2.conns.Withdrawn := by
  unfold resolveBind
  split
  · exact withdrawn
  split
  · exact withdrawn
  split
  · exact withdrawn
  · exact withdrawn.modify slot fun _ => ⟨rfl, rfl⟩

theorem withdrawn_addConnection (withdrawn : worker.conns.Withdrawn) (kind : TransportKind)
    (realm : RealmId) (peerNode : Bool) :
    (worker.addConnection kind realm peerNode).conns.Withdrawn := by
  unfold addConnection
  simp only
  split
  · exact withdrawn
  · rename_i added
    exact withdrawn.addSession added

/-- One kick of a command whose connections are all in no group. -/
theorem Withholding.kickOne (holds : Withholding before event worker) {realm : RealmId}
    {list : TokenList} {raw : Nat} (command : event.kickCommand before = some (realm, list))
    (listed : raw ∈ list.toList) :
    Withholding before event (worker.kickOne realm (.decode raw)).2 := by
  obtain ⟨parsed, brought, kicks⟩ := Event.kickCommand_eq_some command
  have indexed := indexed_kickOne holds.indexed realm (.decode raw)
  obtain same | ⟨slot, ctx, resolved, found, own, -, kicked⟩ := kickOne_cases realm (.decode raw)
  · rw [same]
    exact holds
  have alone := holds.kicks realm list command raw listed slot ctx resolved found own
  have revoked := readdressed_revokeAdmission holds.indexed slot .kicked
  have readdressed := revoked.trans (.of_addressing kicked slot)
  refine ⟨indexed, holds.withdrawn.revoke readdressed alone, ?_, ?_, ?_⟩
  · rintro slot now ctx rfl
    cases brought
  · intro realm list command
    rw [readdressed.edges]
    refine (holds.kicks realm list command).imp readdressed.tokens fun slot ctx found => ?_
    obtain ⟨old, held, ⟨-, address⟩ | ⟨-, address⟩⟩ := readdressed.of_eq_some found
    · exact ⟨old, held, (congrArg Address.realm address).symm, id⟩
    · exact ⟨old, held, (congrArg Address.realm address).symm, id⟩
  · intro realm binding command
    obtain ⟨other, same, joins⟩ := Event.groupCommand_eq_some command
    rw [brought] at same
    cases same
    rw [kicks] at joins
    cases joins

/-- One change of a group by a command whose joins are all of connections not revoked. -/
theorem Withholding.groupChange (holds : Withholding before event worker) {realm : RealmId}
    {join : Bool} {binding : GroupBinding} {raw : Nat}
    (command : event.groupCommand before (if join then .joinGroup else .leaveGroup) =
      some (realm, binding)) (listed : raw ∈ binding.members.toList) : Withholding before event
    (worker.applyGroupChange realm join binding.groupId (.decode raw)).2 := by
  obtain ⟨parsed, brought, changes⟩ := Event.groupCommand_eq_some command
  have indexed := indexed_applyGroupChange holds.indexed realm join binding.groupId (.decode raw)
  have noKick : event.kickCommand before = none := by
    cases kicked : event.kickCommand before with
    | none => rfl
    | some kick =>
        obtain ⟨other, same, kicks⟩ := Event.kickCommand_eq_some kicked
        rw [brought] at same
        cases same
        rw [changes] at kicks
        cases join <;> cases kicks
  have noSweep : ∀ slot now, event ≠ .expireAdmission slot now := by
    rintro slot now rfl
    cases brought
  have others (conns : ConnectionManager) (kept : conns.Indexed) (withdrawn : conns.Withdrawn)
      (joins : ∀ realm binding, event.groupCommand before .joinGroup = some (realm, binding) →
        binding.groupId = 0 ∨ conns.hasRoom realm = false ∨
          conns.Named realm binding.members.toList fun _ ctx => ctx.revoked = false) :
      Withholding before event { worker with conns := conns } :=
    ⟨kept, withdrawn, fun slot now _ is => absurd is (noSweep slot now),
      fun _ _ kicked => by simp [noKick] at kicked, joins⟩
  obtain same | ⟨slot, ctx, conns, resolved, found, rfl, changed,
    ⟨rfl, joined⟩ | ⟨rfl, rfl⟩⟩ := worker.applyGroupChange_cases realm join binding.groupId
      (.decode raw)
  · rw [same]
    exact holds
  · have may := holds.joins _ binding command
    rw [changed] at indexed ⊢
    refine others conns indexed ?_ fun realm other brought => ?_
    · refine holds.withdrawn.joinGroup holds.indexed found joined ?_
      exact may.imp_right (Or.imp_right fun all => all raw listed slot ctx resolved found rfl)
    · rw [show event.groupCommand before .joinGroup = _ from command] at brought
      cases brought
      obtain ⟨slots, tokens⟩ := ConnectionManager.joinGroup_frame joined
      refine may.imp_right (Or.imp (fun full => ?_) fun all => all.imp tokens fun slot ctx held => ?_)
      · exact ConnectionManager.hasRoom_joinGroup full (holds.indexed.getByHandle found) rfl joined
      · exact ⟨ctx, by simpa [ConnectionManager.context, slots] using held, rfl, id⟩
  · rw [changed] at indexed ⊢
    refine others _ indexed (holds.withdrawn.leaveGroup _ _) fun realm other joins => ?_
    obtain ⟨again, same, joins⟩ := Event.groupCommand_eq_some joins
    rw [brought] at same
    cases same
    rw [changes] at joins
    cases joins

theorem Withholding.op {op : Op} (holds : Withholding before event worker) (permits : Permits before event op) :
    Withholding before event (op.apply worker) := by
  have indexed := permits.indexed worker holds.indexed
  have quiet : (op.apply worker).conns.addressing = worker.conns.addressing →
      Withholding before event (op.apply worker) := holds.of_addressing
  cases permits with
  | quiet keeps => exact quiet (keeps.keepsAddressing worker)
  | pushes | dispatched | turnAway | sendHome => exact quiet rfl
  | renew => exact quiet (addressing_publish _ _ _)
  | placement => exact quiet (congrArg _ (conns_refreshPlacement _ _))
  | outside | popped => exact quiet (congrArg _ (conns_changeOutside _))
  | accept | acceptPeer =>
      exact .idle indexed (withdrawn_addConnection holds.withdrawn _ _ _) rfl nofun
  | remove => exact .idle indexed (holds.withdrawn.removeSession _) rfl nofun
  | bind => exact .idle indexed (withdrawn_resolveBind holds.withdrawn _ _ _) rfl nofun
  | unbind => exact .idle indexed (holds.withdrawn.modify _ fun _ => ⟨rfl, rfl⟩) rfl nofun
  | @admitClient key data pending slot ctx waiting granted resolved found success stays =>
      obtain ⟨rfl, -, -⟩ := ConnectionManager.slotFor_eq_some resolved
      obtain ⟨_, _, readdressed⟩ := readdressed_admitSession holds.indexed ctx
        pending.clientSession (classify (pending.buffer ++ data)).grant
      exact .idle indexed (holds.withdrawn.admitClient readdressed fun _ => rfl) rfl nofun
  | @revoke slot now ctx found client online expired =>
      have alone := holds.expires slot now ctx rfl found client online expired
      have readdressed := readdressed_revokeAdmission holds.indexed slot .admissionExpired
      refine ⟨indexed, holds.withdrawn.revoke readdressed alone, ?_, nofun, nofun⟩
      rintro _ _ own same held peer admitted late
      cases same
      exact fun edge listed => alone edge (readdressed.edges ▸ listed)
  | kick command listed => exact holds.kickOne command listed
  | group command listed => exact holds.groupChange command listed

end GatewayWorker

end LyuneGateway.Worker
