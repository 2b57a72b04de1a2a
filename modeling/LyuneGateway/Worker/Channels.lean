import LyuneGateway.Worker.Reach

/-!
# Channels and membership

A channel may be bound to a group only by a member, and datagrams on a bound
channel are sent on without asking again. Leaving a group does not give up the
channels bound to it, so they follow the membership only in runs in which nobody
is made to leave a group that it has a channel for.
-/

namespace LyuneGateway.Worker

open Foundation Io Protocol Session

namespace ConnectionManager

variable {manager after : ConnectionManager}

/-- Every bound channel names a group that the connection is a member of. -/
def ChannelsFollow (manager : ConnectionManager) : Prop :=
  ∀ slot ctx channel groupId, manager.context slot = some ctx →
    ctx.channelGroup channel = some groupId →
    manager.isGroupMember ctx.sessionHandle groupId = true

/-- The same in terms of the edges. -/
def Backed (manager : ConnectionManager) : Prop :=
  ∀ slot ctx groupId, manager.context slot = some ctx → groupId ∈ ctx.channels → groupId ≠ 0 →
    { realm := ctx.realm, groupId := groupId, slot := slot } ∈ manager.edges

/-- Each connection is one that was there, with no other channels than it had. -/
structure Narrows (manager after : ConnectionManager) : Prop where
  tokens : ∀ token, after.byToken token = manager.byToken token
  context : ∀ slot ctx, after.context slot = some ctx →
    ∃ old, manager.context slot = some old ∧ old.realm = ctx.realm ∧
      ∀ groupId ∈ ctx.channels, groupId ≠ 0 → groupId ∈ old.channels

namespace Narrows

variable {middle : ConnectionManager}

theorem refl : Narrows manager manager where
  tokens _ := rfl
  context _ ctx found := ⟨ctx, found, rfl, fun _ bound _ => bound⟩

theorem trans (first : Narrows manager middle) (second : Narrows middle after) :
    Narrows manager after where
  tokens token := (second.tokens token).trans (first.tokens token)
  context slot ctx found := by
    obtain ⟨mid, held, sameRealm, bound⟩ := second.context slot ctx found
    obtain ⟨old, known, ownRealm, earlier⟩ := first.context slot mid held
    exact ⟨old, known, ownRealm.trans sameRealm, fun groupId listed grouped =>
      earlier groupId (bound groupId listed grouped) grouped⟩

theorem of_addressing (same : after.addressing = manager.addressing) : Narrows manager after where
  tokens := byToken_of_addressing same
  context slot ctx found := by
    obtain ⟨old, held, address⟩ := address_of_addressing same found
    refine ⟨old, held, congrArg Address.realm address, fun groupId listed _ => ?_⟩
    have channels : old.channels = ctx.channels := congrArg Address.channels address
    exact channels ▸ listed

theorem modify (slot : Nat) {change : ConnectionContext → ConnectionContext}
    (narrows : ∀ ctx, (change ctx).realm = ctx.realm ∧
      ∀ groupId ∈ (change ctx).channels, groupId ≠ 0 → groupId ∈ ctx.channels) :
    Narrows manager (manager.modify slot change) where
  tokens := byToken_modify slot change
  context other ctx found := by
    obtain ⟨old, held, rfl | ⟨-, rfl⟩⟩ := context_modify_eq_some found
    · exact ⟨ctx, held, rfl, fun _ bound _ => bound⟩
    · exact ⟨old, held, (narrows old).1.symm, (narrows old).2⟩

theorem unbindDest (slot : Nat) : Narrows manager (manager.unbindDest slot) := by
  have cleared : Narrows manager (manager.modify slot fun ctx => ctx.setDest 0) :=
    modify slot fun _ => ⟨rfl, fun _ bound _ => bound⟩
  unfold ConnectionManager.unbindDest
  split
  · exact refl
  split
  · exact refl
  · exact ⟨cleared.tokens, cleared.context⟩

theorem bindDest (handle : SessionHandle) (destId : Nat) :
    Narrows manager (manager.bindDest handle destId) := by
  unfold ConnectionManager.bindDest
  split
  · exact refl
  split
  · exact refl
  split
  · exact refl
  rename_i slot _ _ ctx _ _
  have bound : Narrows manager
      ((manager.unbindDest slot).modify slot fun ctx => ctx.setDest destId) :=
    (unbindDest slot).trans (modify slot fun _ => ⟨rfl, fun _ bound _ => bound⟩)
  simp only
  split
  · exact bound
  · exact ⟨bound.tokens, bound.context⟩

end Narrows

/-- The same, and nobody has lost a membership. -/
structure Restricts (manager after : ConnectionManager) : Prop extends Narrows manager after where
  edges : manager.edges ⊆ after.edges

namespace Restricts

variable {middle : ConnectionManager}

theorem refl : Restricts manager manager := ⟨.refl, List.Subset.refl _⟩

theorem trans (first : Restricts manager middle) (second : Restricts middle after) :
    Restricts manager after :=
  ⟨first.toNarrows.trans second.toNarrows, List.Subset.trans first.edges second.edges⟩

theorem of_addressing (same : after.addressing = manager.addressing) :
    Restricts manager after := by
  have edges : after.edges = manager.edges := congrArg Addressing.edges same
  exact ⟨.of_addressing same, edges ▸ List.Subset.refl _⟩

theorem modify (slot : Nat) {change : ConnectionContext → ConnectionContext}
    (narrows : ∀ ctx, (change ctx).realm = ctx.realm ∧
      ∀ groupId ∈ (change ctx).channels, groupId ≠ 0 → groupId ∈ ctx.channels) :
    Restricts manager (manager.modify slot change) :=
  ⟨.modify slot narrows, List.Subset.refl _⟩

theorem bindDest (handle : SessionHandle) (destId : Nat) :
    Restricts manager (manager.bindDest handle destId) :=
  ⟨.bindDest handle destId, edges_bindDest handle destId ▸ List.Subset.refl _⟩

theorem joinGroup {handle : SessionHandle} {groupId : Nat}
    (joined : manager.joinGroup handle groupId = .ok after) : Restricts manager after := by
  unfold ConnectionManager.joinGroup at joined
  split at joined
  · cases joined
    exact refl
  split at joined
  · cases joined
    exact refl
  split at joined
  · cases joined
    exact refl
  split at joined
  · cases joined
  split at joined
  · cases joined
  · cases joined
    exact ⟨⟨fun _ => rfl, fun _ ctx found => ⟨ctx, found, rfl, fun _ bound _ => bound⟩⟩,
      List.subset_cons_self _ _⟩

end Restricts

theorem Narrows.leaveGroup (handle : SessionHandle) (groupId : Nat) :
    Narrows manager (manager.leaveGroup handle groupId) := by
  unfold ConnectionManager.leaveGroup
  split
  · exact refl
  split
  · exact ⟨fun _ => rfl, fun _ ctx found => ⟨ctx, found, rfl, fun _ bound _ => bound⟩⟩
  · exact refl

theorem Backed.of_restricts (backed : manager.Backed) (restricts : Restricts manager after) :
    after.Backed := by
  intro slot ctx groupId found listed grouped
  obtain ⟨old, held, sameRealm, bound⟩ := restricts.context slot ctx found
  rw [← sameRealm]
  exact restricts.edges (backed slot old groupId held (bound groupId listed grouped) grouped)

/-- A new connection has no channels. -/
theorem Backed.addSession (backed : manager.Backed) {transport : TransportSession}
    {realm : RealmId} {peerNode : Bool} {now : Nat} {handle : SessionHandle}
    (added : manager.addSession transport realm peerNode now = .ok (handle, after)) :
    after.Backed := by
  obtain ⟨slot, -, -, -, -, holds, -, -, -, edges⟩ := addSession_eq_ok added
  intro other ctx groupId found listed grouped
  rw [edges]
  rw [holds] at found
  by_cases here : other = slot
  · rw [here, Function.update_self, Option.some.injEq] at found
    subst found
    exact absurd (List.eq_of_mem_replicate listed) grouped
  · rw [Function.update_of_ne here] at found
    exact backed other ctx groupId found listed grouped

theorem Backed.removeSession (backed : manager.Backed) (handle : SessionHandle) :
    (manager.removeSession handle).Backed := by
  unfold ConnectionManager.removeSession
  split
  · exact backed
  rename_i slot resolved
  obtain ⟨-, -, own, held⟩ := slotFor_eq_some resolved
  intro other ctx groupId found listed grouped
  rw [context_releaseSlot held] at found
  by_cases here : other = slot
  · rw [here, Function.update_self] at found
    cases found
  · rw [Function.update_of_ne here] at found
    rw [edges_releaseSlot held, List.mem_filter]
    exact ⟨backed other ctx groupId found listed grouped, by simpa using here⟩

/-- A channel may be bound to a group that its connection is a member of. -/
theorem Backed.bindChannel (backed : manager.Backed) {slot channel groupId : Nat}
    (member : ∀ ctx, manager.context slot = some ctx → groupId ≠ 0 →
      { realm := ctx.realm, groupId := groupId, slot := slot } ∈ manager.edges) :
    (manager.modify slot fun ctx => ctx.bindChannel channel groupId).Backed := by
  intro other ctx bound found listed grouped
  obtain ⟨old, held, rfl | ⟨rfl, rfl⟩⟩ := context_modify_eq_some found
  · exact backed other ctx bound held listed grouped
  · rcases List.mem_or_eq_of_mem_set listed with earlier | rfl
    · exact backed other old bound held earlier grouped
    · exact member old held grouped

/-- A member without a channel for the group may leave it. -/
theorem Backed.leaveGroup (backed : manager.Backed) (indexed : manager.Indexed) {slot groupId : Nat}
    {ctx : ConnectionContext} (found : manager.context slot = some ctx)
    (unbound : groupId = 0 ∨ groupId ∉ ctx.channels) :
    (manager.leaveGroup ctx.sessionHandle groupId).Backed := by
  have name := (indexed.handle slot ctx found).2
  unfold ConnectionManager.leaveGroup
  rw [indexed.getByHandle found]
  simp only
  split
  · intro other own bound held listed grouped
    change _ ∈ manager.edges.erase _
    rw [indexed.edgeOnce.mem_erase_iff]
    refine ⟨fun same => ?_, backed other own bound held listed grouped⟩
    obtain ⟨-, rfl, here⟩ := Edge.mk.inj same
    rw [name] at here
    obtain rfl : other = slot := here
    change manager.context other = some own at held
    obtain rfl : own = ctx := Option.some.inj (held.symm.trans found)
    exact unbound.elim grouped fun absent => absent listed
  · exact backed

theorem channelGroup_eq_some {ctx : ConnectionContext} {channel groupId : Nat}
    (bound : ctx.channelGroup channel = some groupId) : groupId ∈ ctx.channels ∧ groupId ≠ 0 := by
  unfold ConnectionContext.channelGroup at bound
  split at bound
  · cases bound
  rename_i small
  split at bound
  · cases bound
  rename_i grouped
  obtain rfl := Option.some.inj bound
  refine ⟨?_, grouped⟩
  rw [List.getD_eq_getElem?_getD, List.getElem?_eq_getElem (not_le.mp small)]
  exact List.getElem_mem _

theorem Backed.channelsFollow (backed : manager.Backed) (indexed : manager.Indexed) :
    manager.ChannelsFollow := by
  intro slot ctx channel groupId found bound
  obtain ⟨listed, grouped⟩ := channelGroup_eq_some bound
  exact (indexed.isGroupMember_iff found).mpr (backed slot ctx groupId found listed grouped)

theorem channelFor_eq_none {ctx : ConnectionContext} {groupId : Nat} :
    ctx.channelFor groupId = none ↔ groupId = 0 ∨ groupId ∉ ctx.channels := by
  unfold ConnectionContext.channelFor
  split
  · simp [*]
  · rename_i grouped
    simp only [List.findIdx?_eq_none_iff, decide_eq_false_iff_not, grouped, false_or]
    constructor
    · exact fun unbound listed => unbound groupId listed rfl
    · rintro absent bound listed rfl
      exact absent listed

theorem Narrows.named {realm : RealmId} {groupId : Nat} {tokens : List Nat}
    (narrows : Narrows manager after)
    (unbound : manager.Named realm tokens fun _ ctx => ctx.channelFor groupId = none) :
    after.Named realm tokens fun _ ctx => ctx.channelFor groupId = none := by
  refine unbound.imp narrows.tokens fun slot ctx found => ?_
  obtain ⟨old, held, sameRealm, bound⟩ := narrows.context slot ctx found
  refine ⟨old, held, sameRealm, fun earlier => ?_⟩
  rw [channelFor_eq_none] at earlier ⊢
  by_cases grouped : groupId = 0
  · exact .inl grouped
  · exact .inr fun present => earlier.resolve_left grouped (bound groupId present grouped)

end ConnectionManager

/-- Nobody that the event makes leave a group has a channel for it. -/
def Event.leavesUnbound (worker : GatewayWorker) (event : Event) : Bool :=
  (event.groupCommand worker .leaveGroup).all fun command =>
    worker.conns.named command.1 command.2.members.toList fun _ ctx =>
      (ctx.channelFor command.2.groupId).isNone

/-- The same at any moment of the step. -/
def Event.Leaves (before : GatewayWorker) (event : Event) (worker : GatewayWorker) : Prop :=
  ∀ realm binding, event.groupCommand before .leaveGroup = some (realm, binding) →
    worker.conns.Named realm binding.members.toList fun _ ctx =>
      ctx.channelFor binding.groupId = none

theorem Event.leaves_of_leavesUnbound {worker : GatewayWorker} {event : Event}
    (unbound : event.leavesUnbound worker = true) : event.Leaves worker worker := by
  intro realm binding command
  simp only [leavesUnbound, command, Option.all_some, ConnectionManager.named_eq_true,
    Option.isNone_iff_eq_none] at unbound
  exact unbound

/-- The operation gives no channels and takes no membership. -/
def Op.Restricts (op : Op) : Prop :=
  ∀ worker : GatewayWorker, worker.conns.Restricts (op.apply worker).conns

namespace GatewayWorker

variable {worker after before : GatewayWorker} {event : Event}

theorem Via.restricts (via : Via Op.Restricts worker after) :
    worker.conns.Restricts after.conns :=
  @Run.Reaches.invariant _ _ _ _ _ _ (fun other => worker.conns.Restricts other.conns)
    (fun other _ reached restricts => reached.trans (restricts other)) via .refl

theorem restricts_revoke (slot : Nat) (manager : ConnectionManager) :
    manager.Restricts (manager.modify slot .revoke) := by
  apply ConnectionManager.Restricts.modify
  intro ctx
  refine ⟨rfl, fun groupId listed grouped => absurd ?_ grouped⟩
  obtain ⟨_, -, rfl⟩ := List.mem_map.mp listed
  rfl

theorem revokes_restricts (slot : Nat) (handle : SessionHandle) :
    Revokes Op.Restricts slot handle where
  publish reason _ := .of_addressing (addressing_publish slot .offline reason)
  revoke worker := restricts_revoke slot worker.conns
  unbind _ := .bindDest handle 0

theorem restricts_revokeAdmission (slot : Nat) (reason : SessionReason) :
    worker.conns.Restricts (worker.revokeAdmission slot reason).conns := by
  cases found : worker.context slot with
  | none =>
      simp only [revokeAdmission, found]
      exact .refl
  | some ctx =>
      exact Via.restricts (revokeAdmission_via found (revokes_restricts slot ctx.sessionHandle))

theorem restricts_kickOne (realm : RealmId) (token : ConnToken) :
    worker.conns.Restricts (worker.kickOne realm token).2.conns := by
  refine Via.restricts (kickOne_via
    (fun slot ctx _ _ _ => revokes_restricts slot ctx.sessionHandle) ?_ ?_)
  · exact fun slot data _ => .of_addressing (addressing_openClient slot data true .gateway)
  · exact fun _ _ _ _ _ _ => .refl

theorem restricts_admitSession (slot : Nat) (ctx : ConnectionContext) (handle : SessionHandle)
    (grant : AuthGrant) :
    worker.conns.Restricts (worker.admitSession slot ctx handle grant).conns := by
  refine Via.restricts (admitSession_via ⟨?_, ?_, ?_, ?_⟩)
  · exact fun reason _ => .of_addressing (addressing_publish slot .offline reason)
  · exact fun _ => .of_addressing (addressing_publish slot .online .authenticated)
  · exact fun _ _ => .modify slot fun _ => ⟨rfl, fun _ bound _ => bound⟩
  · exact fun _ => .bindDest handle grant.destId

theorem narrows_applyGroupChange (realm : RealmId) (join : Bool) (groupId : Nat)
    (token : ConnToken) :
    worker.conns.Narrows (worker.applyGroupChange realm join groupId token).2.conns := by
  obtain same | ⟨slot, ctx, conns, -, -, -, changed, ⟨-, joined⟩ | ⟨-, rfl⟩⟩ :=
    worker.applyGroupChange_cases realm join groupId token
  · rw [same]
    exact .refl
  · rw [changed]
    exact (ConnectionManager.Restricts.joinGroup joined).toNarrows
  · rw [changed]
    exact .leaveGroup _ _

theorem backed_applyGroupChange (indexed : worker.conns.Indexed) (backed : worker.conns.Backed)
    {realm : RealmId} {join : Bool} {groupId raw : Nat} (unbound : join = false →
      worker.conns.Named realm [raw] fun _ ctx => ctx.channelFor groupId = none) :
    (worker.applyGroupChange realm join groupId (.decode raw)).2.conns.Backed := by
  obtain same | ⟨slot, ctx, conns, resolved, found, own, changed, ⟨-, joined⟩ | ⟨leaves, rfl⟩⟩ :=
    worker.applyGroupChange_cases realm join groupId (.decode raw)
  · rw [same]
    exact backed
  · rw [changed]
    exact backed.of_restricts (.joinGroup joined)
  · rw [changed]
    apply backed.leaveGroup indexed found
    apply ConnectionManager.channelFor_eq_none.mp
    exact unbound leaves raw List.mem_cons_self slot ctx resolved found own

theorem backed_resolveBind (indexed : worker.conns.Indexed) (backed : worker.conns.Backed)
    {slot : Nat} {ctx : ConnectionContext} (named : ctx.sessionHandle.slot = slot)
    (parsed : Frame) : (worker.resolveBind slot ctx parsed).2.conns.Backed := by
  unfold resolveBind
  split
  · exact backed
  split
  · exact backed
  rename_i binding _
  split
  · exact backed
  rename_i member
  apply backed.bindChannel
  intro own held grouped
  have isMember : worker.conns.isGroupMember ctx.sessionHandle binding.groupId = true := by
    simpa using member
  cases resolved : worker.conns.slotFor ctx.sessionHandle with
  | none => simp [ConnectionManager.isGroupMember, resolved] at isMember
  | some other =>
      obtain ⟨rfl, -, -⟩ := ConnectionManager.slotFor_eq_some resolved
      rw [named] at resolved
      rw [← indexed.handle_of_slotFor resolved held] at isMember
      exact (indexed.isGroupMember_iff held).mp isMember

/-- The indexes are right, the channels follow, and nobody who has to leave has a channel. -/
structure Following (before : GatewayWorker) (event : Event) (worker : GatewayWorker) : Prop where
  indexed : worker.conns.Indexed
  backed : worker.conns.Backed
  leaves : event.Leaves before worker

theorem Following.restricts (following : Following before event worker) (op : Op)
    (indexed : (op.apply worker).conns.Indexed)
    (restricts : worker.conns.Restricts (op.apply worker).conns) :
    Following before event (op.apply worker) where
  indexed := indexed
  backed := following.backed.of_restricts restricts
  leaves realm binding command :=
    restricts.toNarrows.named (following.leaves realm binding command)

theorem Following.op {op : Op} (started : before.conns.Indexed)
    (following : Following before event worker) (permits : Permits before event op) :
    Following before event (op.apply worker) := by
  have indexed := permits.indexed worker following.indexed
  have restricts := following.restricts op indexed
  cases permits with
  | quiet quiet => exact restricts (.of_addressing (quiet.keepsAddressing worker))
  | pushes | dispatched | turnAway | sendHome => exact restricts .refl
  | accept | acceptPeer =>
      refine ⟨indexed, ?_, fun _ _ command => by cases command⟩
      simp only [Op.apply, addConnection]
      split
      · exact following.backed
      · rename_i added
        exact following.backed.addSession added
  | remove =>
      refine ⟨indexed, ?_, fun _ _ command => by cases command⟩
      exact following.backed.removeSession _
  | bind found =>
      refine ⟨indexed, ?_, fun _ _ command => by cases command⟩
      apply backed_resolveBind following.indexed following.backed
      exact congrArg SessionHandle.slot (started.handle _ _ found).2
  | unbind =>
      apply restricts
      apply ConnectionManager.Restricts.modify
      refine fun ctx => ⟨rfl, fun groupId listed grouped => ?_⟩
      exact (List.mem_or_eq_of_mem_set listed).resolve_right grouped
  | admitClient => exact restricts (restricts_admitSession _ _ _ _)
  | revoke => exact restricts (restricts_revokeAdmission _ _)
  | renew => exact restricts (.of_addressing (addressing_publish _ _ _))
  | placement => exact restricts (.of_addressing (congrArg _ (conns_refreshPlacement _ _)))
  | outside | popped => exact restricts (.of_addressing (congrArg _ (conns_changeOutside _)))
  | kick => exact restricts (restricts_kickOne _ _)
  | @group _ realm join binding raw command listed =>
      refine ⟨indexed, ?_, fun realm binding command => (narrows_applyGroupChange _ _ _ _).named
        (following.leaves realm binding command)⟩
      apply backed_applyGroupChange following.indexed following.backed
      rintro rfl
      intro other same
      obtain rfl := List.mem_singleton.mp same
      exact following.leaves realm binding command other listed

theorem step_backed (indexed : worker.conns.Indexed) (backed : worker.conns.Backed)
    (unbound : event.leavesUnbound worker = true) : (worker.step event).conns.Backed := by
  have following : Following worker event (worker.step event) :=
    (step_via event).invariant (fun _ _ following permits => following.op indexed permits)
      ⟨indexed, backed, Event.leaves_of_leavesUnbound unbound⟩
  exact following.backed

/-- In every state reached by steps that take nobody out of a group with a channel for it, the
channels follow the membership, and a datagram goes to nobody but a group of its sender. -/
theorem channels_follow_membership {config : Config} {router : MessageRouter} {fate : Nat → Bool}
    (reached : Run.Reaches step (fun worker event => event.leavesUnbound worker = true)
      (GatewayWorker.init config router fate) after) :
    after.conns.ChannelsFollow ∧ ∀ handle data, after.handleEphemeral handle data = after ∨
      ∃ ctx groupId payload, after.conns.getByHandle handle = some ctx ∧
        after.conns.isGroupMember handle groupId = true ∧
        after.handleEphemeral handle data = after.fanOutUnreliable ctx groupId payload := by
  have kept : after.conns.Indexed ∧ after.conns.Backed := by
    refine @Run.Reaches.invariant _ _ _ _ _ _
      (fun worker => worker.conns.Indexed ∧ worker.conns.Backed) ?_ reached
      ⟨init_indexed config router fate, fun _ _ _ found => by
        simp [GatewayWorker.init, ConnectionManager.context, ConnectionManager.init] at found⟩
    rintro worker event ⟨indexed, backed⟩ unbound
    exact ⟨step_indexed indexed event, step_backed indexed backed unbound⟩
  obtain ⟨indexed, backed⟩ := kept
  have follow := backed.channelsFollow indexed
  refine ⟨follow, fun handle data => ?_⟩
  unfold handleEphemeral
  split
  · exact .inl rfl
  rename_i ctx found
  split
  · exact .inl rfl
  split
  · exact .inl rfl
  rename_i datagram _
  split
  · exact .inl rfl
  rename_i groupId bound
  obtain ⟨resolved, held⟩ := ConnectionManager.getByHandle_eq_some found
  refine .inr ⟨ctx, groupId, datagram.payload, found, ?_, rfl⟩
  rw [← indexed.handle_of_slotFor resolved held]
  exact follow handle.slot ctx datagram.channel groupId held bound

/-- A client that a backend puts into a group binds a channel to it. -/
def bindRun : List Event :=
  [.accept .rawQuic true (some 7), .pushFrame ⟨1, 1⟩ 7 (membershipCommand .joinGroup),
    .frame 0 0 (controlFrame .bindChannel .required (0 :: BigEndian.write 8 5))]

set_option maxRecDepth 10000 in
/-- The client gives the channel up before it is taken out of the group. -/
theorem channels_follow_membership_unbound :
    (alone.run (bindRun ++ [.frame 0 4 (controlFrame .unbindChannel .required [0]),
      .pushFrame ⟨1, 5⟩ 7 (membershipCommand .leaveGroup)])).conns.ChannelsFollow :=
  (channels_follow_membership ⟨_, by decide +kernel, rfl⟩).1

set_option maxRecDepth 10000 in
/-- A client that is taken out of the group keeps the channel. -/
theorem removed_member_keeps_channel :
    ¬ (alone.run (bindRun ++
      [.pushFrame ⟨1, 5⟩ 7 (membershipCommand .leaveGroup)])).conns.ChannelsFollow := by
  intro follow
  have kept : ((alone.run (bindRun ++
      [.pushFrame ⟨1, 5⟩ 7 (membershipCommand .leaveGroup)])).context 0).any (fun ctx =>
        ctx.channelGroup 0 = some 5 && !(alone.run (bindRun ++
          [.pushFrame ⟨1, 5⟩ 7 (membershipCommand .leaveGroup)])).conns.isGroupMember
            ctx.sessionHandle 5) = true := by
    decide +kernel
  obtain ⟨ctx, found, bound⟩ := (Option.any_eq_true _ _).mp kept
  simp only [Bool.and_eq_true, decide_eq_true_eq, Bool.not_eq_true'] at bound
  have member := follow 0 ctx 0 5 found bound.1
  rw [bound.2] at member
  cases member

end GatewayWorker

end LyuneGateway.Worker
