import LyuneGateway.Worker.Kick
import LyuneGateway.Worker.Presence

/-!
# A worker keeps its account

Most operations of a worker say nothing of anyone. The others are operations of
the account: an admission that is granted, taken away or renewed, and a
connection that comes or goes.
-/

namespace LyuneGateway.Worker

open Foundation Io Protocol Session

/-- What the action says of a client. -/
def Action.call (client : Nat) : Action → Option Call
  | .published own kind reason notice =>
      if own = client then some { kind := kind, reason := reason, notice := notice } else none
  | _ => none

def ConnectionContext.life (ctx : ConnectionContext) : Life where
  client := ctx.transport.ptr
  handle := ctx.sessionHandle
  realm := ctx.realm
  authenticated := ctx.authenticated
  destId := ctx.destId
  sequence := ctx.lifecycleSequence

/-- A change that keeps the address of a connection and is no event keeps its life. -/
theorem KeepsAddress.life {change : ConnectionContext → ConnectionContext}
    (keeps : KeepsAddress change)
    (events : ∀ ctx, (change ctx).lifecycleSequence = ctx.lifecycleSequence)
    (ctx : ConnectionContext) : (change ctx).life = ctx.life := by
  have address := (keeps ctx).1
  have client := congrArg Address.client address
  have handle := congrArg Address.sessionHandle address
  have realm := congrArg Address.realm address
  have authenticated := congrArg Address.authenticated address
  have destId := congrArg Address.destId address
  simp only [ConnectionContext.address] at client handle realm authenticated destId
  simp only [ConnectionContext.life, client, handle, realm, authenticated, destId, events]

namespace ConnectionManager

variable {manager after : ConnectionManager}

def lives (manager : ConnectionManager) (slot : Nat) : Option Life :=
  (manager.context slot).map ConnectionContext.life

theorem lives_of_slots (same : after.slots = manager.slots) : after.lives = manager.lives := by
  funext slot
  simp [lives, context, same]

theorem lives_eq_some {slot : Nat} {life : Life} (held : manager.lives slot = some life) :
    ∃ ctx, manager.context slot = some ctx ∧ ctx.life = life :=
  Option.map_eq_some_iff.mp held

theorem lives_update {slot : Nat} {own : Option ConnectionContext}
    (holds : after.context = Function.update manager.context slot own) :
    after.lives = Function.update manager.lives slot (own.map ConnectionContext.life) := by
  funext other
  unfold lives
  rw [holds]
  by_cases here : other = slot
  · rw [here, Function.update_self, Function.update_self]
  · rw [Function.update_of_ne here, Function.update_of_ne here]

theorem lives_modify (slot : Nat) {change : ConnectionContext → ConnectionContext}
    {own : Life → Life} (changes : ∀ ctx, (change ctx).life = own ctx.life) :
    (manager.modify slot change).lives =
      Function.update manager.lives slot ((manager.lives slot).map own) := by
  rw [lives_update (context_modify slot change), lives, Option.map_map, Option.map_map]
  exact congrArg (fun view => Function.update manager.lives slot
    ((manager.context slot).map view)) (funext changes)

theorem lives_modify_of_same (slot : Nat) {change : ConnectionContext → ConnectionContext}
    (same : ∀ ctx, (change ctx).life = ctx.life) :
    (manager.modify slot change).lives = manager.lives := by
  rw [@lives_modify manager slot change id same, Option.map_id_fun, id_eq,
    Function.update_eq_self]

theorem lives_leaveGroup (handle : SessionHandle) (groupId : Nat) :
    (manager.leaveGroup handle groupId).lives = manager.lives := by
  unfold leaveGroup
  split
  · rfl
  split
  · exact lives_of_slots rfl
  · rfl

end ConnectionManager

namespace GatewayWorker

variable {worker after : GatewayWorker}

/-- The lifecycle events of a client so far. -/
def calls (worker : GatewayWorker) (client : Nat) : List Call :=
  worker.log.filterMap (Action.call client)

/-- The account of a worker. -/
def presence (worker : GatewayWorker) : Presence where
  lives := worker.conns.lives
  calls := worker.calls
  lifecycleRoute := worker.policy.lifecycleRoute
  nextTransport := worker.nextTransport

theorem calls_record (action : Action) (client : Nat) :
    (worker.record action).calls client = worker.calls client ++ (action.call client).toList := by
  unfold calls record
  rw [List.filterMap_append]
  cases said : action.call client <;> simp [said]

theorem presence_record {action : Action} (silent : ∀ client, action.call client = none) :
    (worker.record action).presence = worker.presence := by
  have calls : (worker.record action).calls = worker.calls := by
    funext client
    rw [calls_record, silent, Option.toList_none, List.append_nil]
  simp only [presence, calls]
  rfl

theorem presence_setConns {conns : ConnectionManager} (same : conns.lives = worker.conns.lives) :
    ({ worker with conns := conns } : GatewayWorker).presence = worker.presence := by
  simp only [presence, same]
  rfl

theorem presence_modifyConn (slot : Nat) {change : ConnectionContext → ConnectionContext}
    (same : ∀ ctx, (change ctx).life = ctx.life) :
    (worker.modifyConn slot change).presence = worker.presence :=
  presence_setConns (ConnectionManager.lives_modify_of_same slot same)

theorem presence_writeClient (client streamId : Nat) (data : Bytes) (isFin : Bool)
    (author : Author) :
    (worker.writeClient client streamId data isFin author).2.presence = worker.presence :=
  presence_record fun _ => rfl

theorem presence_openClient (slot : Nat) (data : Bytes) (isFin : Bool) (author : Author) :
    (worker.openClient slot data isFin author).2.presence = worker.presence := by
  unfold openClient
  split
  · rfl
  · exact (presence_writeClient _ _ _ _ _).trans (presence_modifyConn slot fun _ => rfl)

theorem presence_openBackend (transport : Nat) (data : Bytes) (isFin : Bool) :
    (worker.openBackend transport data isFin).2.presence = worker.presence :=
  presence_record fun _ => rfl

theorem presence_writeBackend (key : StreamKey) (data : Bytes) (isFin : Bool) :
    (worker.writeBackend key data isFin).2.presence = worker.presence :=
  presence_record fun _ => rfl

theorem presence_deliver (workerId : Nat) (realm : RealmId) (session : Nat) (bytes : Bytes) :
    (worker.deliver workerId realm session bytes).2.presence = worker.presence := by
  unfold deliver
  split
  · exact presence_record fun _ => rfl
  · exact presence_record fun _ => rfl

theorem presence_sendPeer (nodeId : Nat) (realm : RealmId) (bytes : Bytes) (streaming : Bool) :
    (worker.sendPeer nodeId realm bytes streaming).2.presence = worker.presence := by
  unfold sendPeer
  split
  · rfl
  · exact presence_record fun _ => rfl

theorem presence_sendPeerOn (stream : PeerStream) (bytes : Bytes) (isLast : Bool) :
    (worker.sendPeerOn stream bytes isLast).2.presence = worker.presence := by
  unfold sendPeerOn
  split
  · rfl
  · exact presence_record fun _ => rfl

theorem presence_resetPeer (stream : PeerStream) :
    (worker.resetPeer stream).presence = worker.presence := by
  unfold resetPeer
  split
  · rfl
  · exact presence_record fun _ => rfl

theorem presence_writeLocal (bytes : Bytes) (isLast : Bool) (target : LocalTarget) :
    (worker.writeLocal bytes isLast target).presence = worker.presence := by
  unfold writeLocal
  split
  · rfl
  · exact presence_writeClient _ _ _ _ _

theorem presence_resetLocal (target : LocalTarget) :
    (worker.resetLocal target).presence = worker.presence := by
  unfold resetLocal
  split
  · rfl
  · exact presence_record fun _ => rfl

theorem Via.presence (via : Via (fun op => ∀ worker, (op.apply worker).presence = worker.presence)
    worker after) : after.presence = worker.presence :=
  via.preserves (fun worker => worker.presence) fun worker _ keeps => keeps worker

theorem presence_writeSessionFrame (slot : Nat) (parsed : Frame) :
    (worker.writeSessionFrame slot parsed).presence = worker.presence := by
  cases found : worker.session slot with
  | none => simp [writeSessionFrame, found]
  | some session =>
      refine Via.presence (writeSessionFrame_via found ?_ ?_ ?_ ?_)
      · exact fun workerId _ worker => presence_deliver workerId _ _ _
      · exact fun stream _ worker => presence_sendPeerOn stream _ _
      · exact fun target _ worker => presence_writeLocal _ _ target
      · exact fun _ _ _ _ => rfl

theorem presence_abortSession (slot : Nat) :
    (worker.abortSession slot).presence = worker.presence := by
  cases found : worker.session slot with
  | none => simp [abortSession, found]
  | some session =>
      refine Via.presence (abortSession_via found ?_ ?_ ?_ ?_)
      · exact fun target _ worker => presence_resetLocal target
      · exact fun workerId _ worker => presence_deliver workerId _ _ _
      · exact fun stream _ worker => presence_resetPeer stream
      · exact fun _ _ _ _ => rfl

theorem presence_attachOne (slot target : Nat) (bytes : Bytes) :
    (worker.attachOne slot target bytes).2.presence = worker.presence := by
  unfold attachOne
  split
  · rfl
  · rfl
  split
  · rfl
  split
  · rfl
  have opened := @presence_openClient worker target bytes false .backend
  split <;> rename_i answer <;> rw [answer] at opened <;> exact opened

theorem presence_applyGroupChange (realm : RealmId) (join : Bool) (groupId : Nat)
    (token : ConnToken) :
    (worker.applyGroupChange realm join groupId token).2.presence = worker.presence := by
  obtain same | ⟨slot, ctx, conns, -, -, -, changed, ⟨-, joined⟩ | ⟨-, rfl⟩⟩ :=
    worker.applyGroupChange_cases realm join groupId token
  · rw [same]
  · rw [changed]
    exact presence_setConns
      (ConnectionManager.lives_of_slots (ConnectionManager.joinGroup_frame joined).1)
  · rw [changed]
    exact presence_setConns (ConnectionManager.lives_leaveGroup _ _)

theorem presence_resolveBind (slot : Nat) (ctx : ConnectionContext) (parsed : Frame) :
    (worker.resolveBind slot ctx parsed).2.presence = worker.presence := by
  unfold resolveBind
  split
  · rfl
  split
  · rfl
  split
  · rfl
  · exact presence_modifyConn slot fun _ => rfl

theorem presence_refreshPlacement (nodes : List Nat) (now : Nat) :
    (worker.refreshPlacement nodes now).presence = worker.presence := by
  unfold refreshPlacement
  simp only
  split
  · rfl
  · split <;> rfl

theorem presence_changeOutside (change : Outside) :
    (worker.changeOutside change).presence = worker.presence := by
  cases change <;> rfl

end GatewayWorker

/-- The operation says nothing of anyone and changes no admission. -/
def Op.Mum : Op → Prop
  | .conn _ change => ∀ ctx, (change ctx).life = ctx.life
  | .record action => ∀ client, action.call client = none
  | .accept .. | .remove _ | .bindDest .. | .kick .. | .publish .. | .revoke .. | .admitClient .. =>
      False
  | _ => True

namespace Op.Mum

open GatewayWorker

theorem presence {op : Op} (mum : op.Mum) (worker : GatewayWorker) :
    (op.apply worker).presence = worker.presence := by
  cases op with
  | record action => exact presence_record mum
  | writeClient client streamId data isFin author =>
      exact presence_writeClient client streamId data isFin author
  | openClient slot data isFin author => exact presence_openClient slot data isFin author
  | sendEphemeral client data => exact presence_record fun _ => rfl
  | writeLocal bytes isLast target => exact presence_writeLocal bytes isLast target
  | resetLocal target => exact presence_resetLocal target
  | attach slot target bytes => exact presence_attachOne slot target bytes
  | writeSession slot parsed => exact presence_writeSessionFrame slot parsed
  | abortSession slot => exact presence_abortSession slot
  | openBackend transport data isFin => exact presence_openBackend transport data isFin
  | writeBackend key data isFin => exact presence_writeBackend key data isFin
  | deliver workerId realm session bytes => exact presence_deliver workerId realm session bytes
  | sendPeer nodeId realm bytes streaming => exact presence_sendPeer nodeId realm bytes streaming
  | sendPeerOn stream bytes isLast => exact presence_sendPeerOn stream bytes isLast
  | resetPeer stream => exact presence_resetPeer stream
  | conn slot change => exact presence_modifyConn slot mum
  | bind slot ctx parsed => exact presence_resolveBind slot ctx parsed
  | group realm join groupId token => exact presence_applyGroupChange realm join groupId token
  | placement nodes now => exact presence_refreshPlacement nodes now
  | outside change => exact presence_changeOutside change
  | accept | remove | bindDest | kick | publish | revoke | admitClient => exact mum.elim
  | _ => rfl

theorem keepsIndexed {op : Op} (mum : op.Mum) : op.KeepsIndexed := by
  intro worker indexed
  cases op with
  | conn slot change =>
      refine indexed_conn slot (fun ctx => ?_) worker indexed
      exact ⟨congrArg Life.handle (mum ctx), congrArg Life.realm (mum ctx),
        congrArg Life.destId (mum ctx)⟩
  | bind slot ctx parsed => exact indexed_resolveBind indexed slot ctx parsed
  | group realm join groupId token => exact indexed_applyGroupChange indexed realm join groupId token
  | placement nodes now => rwa [Op.apply, conns_refreshPlacement]
  | outside change => rwa [Op.apply, conns_changeOutside]
  | record action => exact indexed
  | pushes change => exact indexed
  | accept | remove | bindDest | kick | publish | revoke | admitClient => exact mum.elim
  | _ => exact indexed.of_addressing (Op.Quiet.keepsAddressing (by trivial) worker)

end Op.Mum

namespace GatewayWorker

variable {worker after : GatewayWorker} {slot : Nat} {ctx : ConnectionContext}

theorem lives_presence (slot : Nat) :
    worker.presence.lives slot = (worker.context slot).map ConnectionContext.life := rfl

theorem presence_said (client : Nat) (kind : EventKind) (reason : SessionReason)
    (notice : Notice) :
    (worker.record (.published client kind reason notice)).presence =
      { worker.presence with
        calls := Function.update worker.presence.calls client
          (worker.presence.calls client ++ [⟨kind, reason, notice⟩]) } := by
  have calls : (worker.record (.published client kind reason notice)).calls =
      Function.update worker.calls client (worker.calls client ++ [⟨kind, reason, notice⟩]) := by
    funext other
    rw [calls_record, Action.call]
    by_cases own : client = other
    · rw [if_pos own, own, Function.update_self, Option.toList_some]
    · rw [if_neg own, Function.update_of_ne (Ne.symm own), Option.toList_none, List.append_nil]
  simp only [presence, calls]
  rfl

theorem presence_publish (slot : Nat) (kind : EventKind) (reason : SessionReason) :
    (worker.publish slot kind reason).presence = worker.presence.publish slot kind reason := by
  cases configured : worker.policy.lifecycleRoute with
  | none =>
      have unrouted : worker.presence.lifecycleRoute = none := configured
      simp only [publish, configured, Presence.publish, unrouted]
  | some route =>
  have routed : worker.presence.lifecycleRoute = some route := configured
  cases found : worker.context slot with
  | none => simp only [publish, configured, found, Presence.publish, routed, lives_presence,
      Option.map_none]
  | some ctx =>
  have counted : ((worker.modifyConn slot fun ctx => ctx.countEvent kind worker.now).record
      (.published ctx.transport.ptr kind reason ctx.notice)).presence =
      worker.presence.publish slot kind reason := by
    have lives := @ConnectionManager.lives_modify worker.conns slot
      (fun ctx => ctx.countEvent kind worker.now) Life.count fun _ => rfl
    have held : worker.conns.lives slot = some ctx.life := congrArg _ found
    rw [held, Option.map_some] at lives
    rw [presence_said]
    simp only [Presence.publish, routed, lives_presence, found, Option.map_some]
    exact Presence.ext lives rfl configured rfl
  refine Eq.trans ?_ counted
  simp only [publish, configured, found]
  generalize GatewayWorker.record _ _ = middle
  split
  · rfl
  · rfl
  split
  · rfl
  split
  · rfl
  rename_i token transport _ _ _ _ data _
  have opened := @presence_openBackend middle transport data true
  split <;> rename_i answer <;> rw [answer] at opened
  · exact opened
  rename_i stream second
  split <;> rename_i remembered
  · exact (congrArg (fun asked => asked.2.presence) remembered).symm.trans opened
  · exact (congrArg (fun asked => asked.2.presence) remembered).symm.trans opened

theorem presence_publishOffline (slot : Nat) (reason : SessionReason) :
    (worker.publishOffline slot reason).presence =
      worker.presence.publishOffline slot reason := by
  cases found : worker.context slot with
  | none =>
      simp only [publishOffline, Presence.publishOffline, lives_presence, found, Option.map_none,
        Option.any_none, Bool.false_eq_true, if_false]
  | some ctx =>
      have same : ctx.life.authenticated = ctx.authenticated := rfl
      simp only [publishOffline, Presence.publishOffline, lives_presence, found, Option.map_some,
        Option.any_some, same]
      split
      · exact presence_publish slot .offline reason
      · rfl

/-- A change of a connection's admission with a change of its destination. -/
theorem presence_rebind (indexed : worker.conns.Indexed) (found : worker.context slot = some ctx)
    {change : ConnectionContext → ConnectionContext} {destId : Nat} {own : Life → Life}
    (keeps : ∀ ctx, (change ctx).sessionHandle = ctx.sessionHandle ∧
      (change ctx).realm = ctx.realm ∧ (change ctx).destId = ctx.destId)
    (changes : ∀ ctx, { (change ctx).life with destId := destId } = own ctx.life) :
    ((worker.modifyConn slot change).bindDest ctx.sessionHandle destId).presence =
      worker.presence.modify slot own := by
  have changed : (worker.conns.modify slot change).context slot = some (change ctx) := by
    rw [ConnectionManager.context_modify, Function.update_self,
      show worker.conns.context slot = some ctx from found, Option.map_some]
  have bound := ConnectionManager.context_bindDest (indexed.modify slot keeps) changed destId
  rw [(keeps ctx).1, ConnectionManager.context_modify, Function.update_idem] at bound
  have held : worker.conns.lives slot = some ctx.life := congrArg _ found
  refine Presence.ext ?_ rfl rfl rfl
  refine (ConnectionManager.lives_update bound).trans ?_
  simp only [Presence.modify, presence, held, Option.map_some, ← changes ctx]
  rfl

theorem presence_revokeAdmission (indexed : worker.conns.Indexed) (slot : Nat)
    (reason : SessionReason) :
    (worker.revokeAdmission slot reason).presence = worker.presence.revoke slot reason := by
  have published := @presence_publishOffline worker slot reason
  cases found : worker.context slot with
  | none =>
      have absent : worker.presence.lives slot = none := by rw [lives_presence, found]; rfl
      simp only [revokeAdmission, found, Presence.revoke, Presence.publishOffline, Presence.modify,
        absent, Option.any_none, Bool.false_eq_true, if_false, Option.map_none]
      rw [← absent, Function.update_eq_self]
  | some ctx =>
      have addressing := @addressing_publishOffline worker slot reason
      obtain ⟨middle, held, address⟩ :=
        ConnectionManager.address_of_addressing addressing.symm found
      have handle : middle.sessionHandle = ctx.sessionHandle :=
        congrArg Address.sessionHandle address
      simp only [revokeAdmission, found, Presence.revoke]
      rw [← handle, ← published]
      exact presence_rebind (indexed.of_addressing addressing) held (fun _ => ⟨rfl, rfl, rfl⟩)
        fun _ => rfl

theorem presence_kickOne (indexed : worker.conns.Indexed) (realm : RealmId) (token : ConnToken) :
    (worker.kickOne realm token).2.presence = worker.presence ∨
      ∃ slot ctx, worker.conns.byToken token = some slot ∧ worker.context slot = some ctx ∧
        ctx.realm = realm ∧
        (worker.kickOne realm token).2.presence = worker.presence.revoke slot .kicked := by
  unfold kickOne
  split
  · exact .inl rfl
  rename_i slot resolved
  split
  · exact .inl rfl
  rename_i ctx found
  split
  · exact .inl rfl
  rename_i own
  refine .inr ⟨slot, ctx, resolved, found, not_not.mp own, ?_⟩
  rw [← presence_revokeAdmission indexed slot .kicked]
  refine (presence_record fun _ => rfl).trans ?_
  split
  · rfl
  · exact presence_openClient _ _ _ _

/-- The admission of a connection under another identity ends the one it had. -/
theorem presence_admitSession (indexed : worker.conns.Indexed)
    (found : worker.context slot = some ctx) (grant : AuthGrant) :
    (worker.admitSession slot ctx ctx.sessionHandle grant).presence =
      worker.presence.enter slot grant.destId := by
  have held : worker.presence.lives slot = some ctx.life := by
    rw [lives_presence, found, Option.map_some]
  have entered (middle : GatewayWorker)
      (addressing : middle.conns.addressing = worker.conns.addressing) :
      ((middle.modifyConn slot fun ctx => ctx.admitClient
        (expiryFrom middle.now grant.ttlSeconds)).bindDest ctx.sessionHandle
          grant.destId).presence = middle.presence.modify slot fun life =>
            life.enter grant.destId := by
    obtain ⟨own, kept, address⟩ := ConnectionManager.address_of_addressing addressing.symm found
    have handle : own.sessionHandle = ctx.sessionHandle := congrArg Address.sessionHandle address
    rw [← handle]
    exact presence_rebind (indexed.of_addressing addressing) kept (fun _ => ⟨rfl, rfl, rfl⟩)
      fun _ => rfl
  simp only [admitSession, Presence.enter, held, Option.any_some, Bool.and_eq_true,
    decide_eq_true_eq]
  change _ = if ctx.authenticated = true ∧ ctx.destId = grant.destId then _ else _
  by_cases again : ctx.authenticated = true ∧ ctx.destId = grant.destId
  · have same : worker.endIdentity slot ctx grant.destId = worker :=
      if_neg fun replaced => replaced.2 again.2
    rw [if_pos again, same, if_neg (by simp [again])]
    exact entered worker rfl
  · have ended : (worker.endIdentity slot ctx grant.destId).presence =
        worker.presence.publishOffline slot .identityReplaced := by
      unfold endIdentity
      split
      · exact presence_publishOffline slot _
      · rename_i stays
        have out : ctx.life.authenticated = false := by
          have out : ctx.authenticated = false := by grind
          exact out
        simp only [Presence.publishOffline, held, Option.any_some, out, Bool.false_eq_true,
          if_false]
    have addressing : (worker.endIdentity slot ctx grant.destId).conns.addressing =
        worker.conns.addressing := by
      unfold endIdentity
      split
      · exact addressing_publishOffline slot _
      · rfl
    rw [if_neg again, if_pos (by grind), publishOnline, presence_publish,
      entered _ addressing, ended]

theorem lawful_addConnection (indexed : worker.conns.Indexed) (lawful : worker.presence.Lawful)
    (kind : TransportKind) (realm : RealmId) (peerNode : Bool) :
    (worker.addConnection kind realm peerNode).presence.Lawful := by
  unfold addConnection
  simp only
  split
  · exact lawful.skip
  rename_i handle conns added
  obtain ⟨slot, rest, free, -, -, holds, -⟩ := ConnectionManager.addSession_eq_ok added
  have unused : worker.presence.lives slot = none := by
    rw [lives_presence, show worker.context slot = none from
      (indexed.free slot (free ▸ List.mem_cons_self)).1]
    rfl
  have accepted : ({ worker with
      nextTransport := worker.nextTransport + 1, conns := conns } : GatewayWorker).presence =
      worker.presence.accept slot handle realm :=
    Presence.ext (ConnectionManager.lives_update holds) rfl rfl rfl
  rw [accepted]
  exact lawful.accept unused handle realm

theorem lawful_closeClientSession (lawful : worker.presence.Lawful) (handle : SessionHandle)
    (reason : SessionReason) : (worker.closeClientSession handle reason).presence.Lawful := by
  unfold closeClientSession
  split
  · exact lawful
  rename_i slot resolved
  split
  · exact lawful
  rename_i ctx found
  simp only
  generalize ctx.offlineReason.getD reason = why
  have said := @presence_publishOffline worker slot why
  have finished (worker : GatewayWorker) :
      (worker.finishOpenExchanges ctx).presence = worker.presence :=
    Via.presence (finishOpenExchanges_via fun key data _ => presence_writeBackend key data true)
  have addressing (worker : GatewayWorker) :
      (worker.finishOpenExchanges ctx).conns.addressing = worker.conns.addressing :=
    Via.addressing (finishOpenExchanges_via fun _ _ _ => rfl)
  have still := (addressing (worker.publishOffline slot why)).trans
    (addressing_publishOffline slot why)
  have account := (finished (worker.publishOffline slot why)).trans said
  generalize (worker.publishOffline slot why).finishOpenExchanges ctx = last at still account
  have removed : ({ last with
      inflight := last.inflight.purge handle
      conns := last.conns.removeSession handle } : GatewayWorker).presence =
      (worker.presence.publishOffline slot why).remove slot := by
    obtain ⟨own, kept, -⟩ := ConnectionManager.address_of_addressing still.symm found
    have same : last.conns.slotFor handle = some slot :=
      (ConnectionManager.slotFor_of_addressing still handle).trans resolved
    rw [← account]
    refine Presence.ext ?_ rfl rfl rfl
    simp only [presence, ConnectionManager.removeSession, same, Presence.remove]
    exact ConnectionManager.lives_update (ConnectionManager.context_releaseSlot kept)
  rw [removed]
  exact lawful.remove slot why

/-- The operation says nothing of anyone, or it is a kick. -/
def MumOrKick (op : Op) : Prop := op.Mum ∨ ∃ realm token, op = .kick realm token

namespace MumOrKick

theorem streams : Streams MumOrKick where
  sessions _ _ _ := .inl trivial
  attach _ _ _ := .inl trivial
  writeSession _ _ := .inl trivial
  abortSession _ := .inl trivial
  deliver _ _ _ _ := .inl trivial

theorem bystanders : Bystanders MumOrKick where
  locals := ⟨fun _ _ => .inl trivial, fun _ _ => .inl trivial⟩
  streams := streams
  forwards _ _ _ _ := ⟨fun _ => .inl trivial, fun _ => .inl trivial⟩
  commands _ _ := ⟨fun _ _ _ _ _ _ => .inl trivial, fun _ _ _ _ _ => .inr ⟨_, _, rfl⟩⟩
  completes := ⟨⟨.inl trivial, fun _ _ _ _ => .inl trivial, fun _ _ => .inl trivial⟩,
    fun _ => ⟨fun _ _ _ => .inl trivial, fun _ => .inl trivial⟩⟩
  close _ _ := .inl fun _ => rfl
  reset _ _ := .inl fun _ => rfl
  relay _ _ _ _ := .inl trivial
  pushes _ := .inl trivial
  placement _ _ := .inl trivial
  outside _ := .inl trivial

theorem relays (slot streamId : Nat) : Relays MumOrKick slot streamId (fun _ _ => True) where
  ask := .inl trivial
  reply _ _ := .inl trivial
  reset _ := .inl fun _ => rfl
  openBackend _ _ _ := .inl trivial
  tables _ _ := .inl trivial
  trackAuth _ _ _ := .inl trivial
  conn _ keeps exchanges := .inl (keeps.life exchanges.events)
  writeBackend _ _ _ := .inl trivial
  openRoute _ _ _ := .inl trivial
  register _ _ := .inl fun _ => rfl

theorem peerPushes (parsed : Frame) : PeerPushes MumOrKick parsed where
  locals := bystanders.locals
  streams := streams
  forwards realm := bystanders.forwards realm 0 parsed.bytes false
  sendPeer _ _ := .inl trivial

theorem lawful {worker after : GatewayWorker} (via : Via MumOrKick worker after)
    (indexed : worker.conns.Indexed) (lawful : worker.presence.Lawful) :
    after.presence.Lawful := by
  refine (@Run.Reaches.invariant _ _ _ _ _ _ (fun middle : GatewayWorker =>
    middle.conns.Indexed ∧ middle.presence.Lawful) ?_ via ⟨indexed, lawful⟩).2
  rintro middle op ⟨indexed, lawful⟩ (mum | ⟨realm, token, rfl⟩)
  · exact ⟨mum.keepsIndexed middle indexed, (mum.presence middle).symm ▸ lawful⟩
  · refine ⟨indexed_kickOne indexed realm token, ?_⟩
    change (middle.kickOne realm token).2.presence.Lawful
    obtain same | ⟨slot, _, -, -, -, same⟩ := presence_kickOne indexed realm token
    · exact same ▸ lawful
    · exact same ▸ lawful.revoke slot .kicked

end MumOrKick

theorem lawful_completeAuth (indexed : worker.conns.Indexed) (lawful : worker.presence.Lawful)
    (auth : PendingAuth) : (worker.completeAuth auth).presence.Lawful := by
  have completes := MumOrKick.bystanders.completes
  unfold completeAuth
  split
  · exact lawful
  rename_i slot resolved
  split
  · exact lawful
  rename_i ctx found
  have answered (middle : GatewayWorker) : (if auth.responseSuppressed then middle
      else (middle.writeClient ctx.transport.ptr auth.clientStreamId auth.buffer true
        .backend).2).presence = middle.presence := by
    split
    · rfl
    · exact presence_writeClient _ _ _ _ _
  simp only
  split
  · cases leaves : worker.redirects ctx.realm (classify auth.buffer).grant.destId with
    | true =>
        rw [redirectIfNotHome_of_redirects found leaves]
        exact MumOrKick.lawful (redirectToHome_via (completes.redirects slot)
          fun _ _ => .inl fun _ => rfl) indexed lawful
    | false =>
        rw [redirectIfNotHome_of_stays found leaves]
        simp only
        rw [answered, ← indexed.handle_of_slotFor resolved found,
          presence_admitSession indexed found]
        exact lawful.enter slot _
  · exact (answered worker).symm ▸ lawful
  · split
    · exact lawful
    · exact MumOrKick.lawful (replyControl_via fun _ _ => .inl trivial) indexed lawful

theorem lawful_step (indexed : worker.conns.Indexed) (lawful : worker.presence.Lawful)
    (event : Event) : (worker.step event).presence.Lawful := by
  have bystanders := MumOrKick.bystanders
  have quietly {after : GatewayWorker} (via : Via MumOrKick worker after) :
      after.presence.Lawful := MumOrKick.lawful via indexed lawful
  by_cases sidelined : event.isRequest = false ∧ event.changesAdmission = false
  · by_cases push : ∃ key realm parsed, event = .pushFrame key realm parsed
    · obtain ⟨key, realm, parsed, rfl⟩ := push
      exact quietly (onPushFrame_via bystanders.locals bystanders.streams
        (fun _ _ => .inl trivial) (bystanders.forwards ..) (fun _ => .inl trivial)
        (fun _ => .inl trivial) (fun _ _ _ => bystanders.commands realm parsed)
        fun _ => .inl fun _ => rfl)
    by_cases expiry : ∃ now, event = .expireInflight now
    · obtain ⟨now, rfl⟩ := expiry
      exact quietly (expireInflight_via bystanders.completes.answers fun _ => .inl fun _ => rfl)
    refine quietly (step_bystanders bystanders (fun changes => ?_) sidelined.1
      (fun key realm parsed same => push ⟨key, realm, parsed, same⟩)
      fun now same => expiry ⟨now, same⟩)
    exact absurd (changes.symm.trans sidelined.2) (by simp)
  cases event with
  | accept kind accepting resolved =>
      simp only [step, acceptClientSession]
      split
      · exact lawful_addConnection indexed lawful _ _ _
      · exact lawful
  | acceptPeer accepting =>
      simp only [step, handlePeerConnection]
      split
      · exact lawful_addConnection indexed lawful _ _ _
      · exact lawful
  | close handle reason => exact lawful_closeClientSession lawful handle reason
  | frame slot streamId parsed =>
      exact quietly (dispatchFrame_via (MumOrKick.relays slot streamId)
        (fun _ _ _ _ => trivial) (MumOrKick.peerPushes parsed) (fun _ _ => .inl trivial)
        (fun _ => .inl fun _ => rfl) (.inl fun _ => rfl))
  | frameSpill slot streamId known spill =>
      exact quietly (keepFrameSpill_via (MumOrKick.relays slot streamId).toRequests
        (.inl fun _ => rfl) fun _ => .inl fun _ => rfl)
  | finish slot streamId =>
      exact quietly (finishClientStream_via (MumOrKick.relays slot streamId) MumOrKick.streams)
  | reset slot streamId =>
      exact quietly (resetClientInput_via (MumOrKick.relays slot streamId) MumOrKick.streams)
  | authResponse key data isFin =>
      simp only [step, collectAuthResponse]
      split
      · exact lawful
      split <;> rename_i answer
      · exact (congrArg (fun asked => asked.2.presence) answer) ▸ lawful
      · obtain rfl : worker.ask.2 = _ := congrArg Prod.snd answer
        split
        · exact lawful
        · exact lawful_completeAuth (by exact indexed) (by exact lawful) _
  | expireAdmission slot now =>
      simp only [step, GatewayWorker.expireAdmission]
      split
      · exact lawful
      split
      · exact lawful
      split
      · exact lawful
      · exact (presence_revokeAdmission indexed slot _).symm ▸ lawful.revoke slot _
  | refreshLease slot now =>
      simp only [step, GatewayWorker.refreshLease, refreshOnline]
      split
      · exact lawful
      split
      · exact lawful
      rename_i ctx found
      split
      · exact lawful
      rename_i online
      split
      · exact lawful
      have admitted : (worker.presence.lives slot).any Life.authenticated = true := by
        rw [lives_presence, found]
        exact Bool.of_not_eq_false online
      have renewed := lawful.refresh slot
      rw [Presence.refresh, if_pos admitted] at renewed
      exact (presence_publish slot .online .leaseRefresh).symm ▸ renewed
  | _ => exact absurd ⟨rfl, rfl⟩ sidelined

theorem init_lawful (config : Config) (router : MessageRouter) (fate : Nat → Bool)
    (routed : config.policy.lifecycleRoute.isSome = true) :
    (init config router fate).presence.Lawful where
  routed := routed
  speaks _ _ held := nomatch held
  apart _ _ _ _ held := nomatch held
  issued _ _ held := nomatch held
  gone _ _ := ⟨.start, rfl, ⟨0, 0⟩, nofun⟩
  fresh _ _ := rfl

theorem run_lawful (indexed : worker.conns.Indexed) (lawful : worker.presence.Lawful)
    (events : List Event) :
    (worker.run events).conns.Indexed ∧ (worker.run events).presence.Lawful :=
  @Run.invariant _ _ step (fun _ _ => True)
    (fun worker => worker.conns.Indexed ∧ worker.presence.Lawful)
    (fun _ event inOrder _ =>
      ⟨step_indexed inOrder.1 event, lawful_step inOrder.1 inOrder.2 event⟩)
    _ _ ⟨indexed, lawful⟩ (Run.meets_of_forall (fun _ _ _ => trivial) _)

/-- An admission that has been taken away is not taken away again. -/
theorem calls_revoke_again (indexed : worker.conns.Indexed) (slot : Nat)
    (reason again : SessionReason) :
    ((worker.revokeAdmission slot reason).revokeAdmission slot again).calls =
      (worker.revokeAdmission slot reason).calls := by
  have out : ((worker.presence.revoke slot reason).lives slot).any Life.authenticated = false := by
    simp only [Presence.revoke, Presence.modify, Function.update_self]
    cases (worker.presence.publishOffline slot reason).lives slot <;> rfl
  have revoked := presence_revokeAdmission (indexed_revokeAdmission indexed slot reason) slot again
  rw [presence_revokeAdmission indexed slot reason, Presence.revoke, Presence.publishOffline, out,
    if_neg (by simp), ← presence_revokeAdmission indexed slot reason] at revoked
  exact congrArg Presence.calls revoked

/-- What has been said of a client is in order. If it is online, the notice is that of the event
that said so. -/
structure SaysInOrder (worker : GatewayWorker) (client : Nat) (begun : Option Notice) : Prop where
  paired : Paired (worker.calls client) begun
  increasing : (worker.calls client).length < 2 ^ 64 →
    ((worker.calls client).map fun call => call.notice.sequence).Pairwise (· < ·)
  named : ∃ handle, ∀ call ∈ worker.calls client, call.notice.handle = handle
  connected : ∀ slot ctx, worker.context slot = some ctx → ctx.transport.ptr = client →
    begun.isSome = ctx.authenticated ∧
      ∀ call ∈ worker.calls client, call.notice.handle = ctx.sessionHandle
  removed : (∀ slot ctx, worker.context slot = some ctx → ctx.transport.ptr ≠ client) →
    begun = none
  twice : ∀ slot reason again,
    ((worker.revokeAdmission slot reason).revokeAdmission slot again).calls client =
      (worker.revokeAdmission slot reason).calls client

theorem says_in_order (indexed : worker.conns.Indexed) (lawful : worker.presence.Lawful)
    (client : Nat) : ∃ begun, worker.SaysInOrder client begun := by
  have twice (slot : Nat) (reason again : SessionReason) :=
    congrFun (calls_revoke_again indexed slot reason again) client
  by_cases live : ∃ slot ctx, worker.context slot = some ctx ∧ ctx.transport.ptr = client
  · obtain ⟨slot, ctx, found, rfl⟩ := live
    have lives {other : Nat} {own : ConnectionContext} (known : worker.context other = some own) :
        worker.presence.lives other = some own.life := by
      rw [lives_presence, known, Option.map_some]
    have speaks := lawful.speaks slot ctx.life (lives found)
    have online (begun : Option Notice) (paired : Paired (worker.calls ctx.transport.ptr) begun)
        (same : begun.isSome = ctx.authenticated) :
        worker.SaysInOrder ctx.transport.ptr begun := by
      refine ⟨paired, speaks.numbered.increasing, ⟨_, speaks.named⟩, ?_, ?_, twice⟩
      · intro other own known equal
        obtain rfl := lawful.apart other slot own.life ctx.life (lives known) (lives found) equal
        obtain rfl := Option.some.inj (known.symm.trans found)
        exact ⟨same, speaks.named⟩
      · exact fun absent => absurd rfl (absent slot ctx found)
    cases admitted : ctx.authenticated with
    | true =>
        obtain ⟨begun, paired, -⟩ := speaks.online admitted
        exact ⟨some begun, online _ paired admitted.symm⟩
    | false => exact ⟨none, online none (speaks.offline admitted) admitted.symm⟩
  · simp only [not_exists, not_and] at live
    have said := lawful.gone client fun slot life held same => by
      obtain ⟨ctx, found, rfl⟩ := ConnectionManager.lives_eq_some held
      exact live slot ctx found same
    exact ⟨none, said.paired, said.numbered.increasing, said.named,
      fun slot ctx found same => absurd same (live slot ctx found), fun _ => rfl, twice⟩

/-- Whatever happens to a worker and its connections, each of them is said to be online and offline
in turn. -/
theorem lifecycle_events_are_paired (config : Config) (router : MessageRouter)
    (fate : Nat → Bool) (routed : config.policy.lifecycleRoute.isSome = true)
    (events : List Event) (client : Nat) :
    ∃ begun, ((init config router fate).run events).SaysInOrder client begun := by
  obtain ⟨indexed, lawful⟩ :=
    run_lawful (init_indexed config router fate) (init_lawful config router fate routed) events
  exact says_in_order indexed lawful client

/-- A configuration with a lifecycle route, beside the route of the authentication service. -/
def observed : Config where
  self := { nodeId := 0, workerId := 0 }
  policy := { route := some {}, lifecycleRoute := some {} }

set_option maxRecDepth 10000 in
/-- A connection is admitted, renews its lease and is closed. -/
theorem lifecycle_events_are_paired_closed :
    (∃ begun, ((init observed (.init 1 16) fun _ => true).run (askForAdmission ++ [grantFirst,
      .refreshLease 0 20000000, .close ⟨0, 1⟩ .transportClosed])).SaysInOrder 1 begun) ∧
    (((init observed (.init 1 16) fun _ => true).run (askForAdmission ++ [grantFirst,
      .refreshLease 0 20000000, .close ⟨0, 1⟩ .transportClosed])).calls 1).map
        (fun call => (call.kind, call.reason, call.notice.sequence, call.notice.destId)) =
      [(.online, .authenticated, 1, 5), (.online, .leaseRefresh, 2, 5),
        (.offline, .transportClosed, 3, 5)] :=
  ⟨lifecycle_events_are_paired observed (.init 1 16) (fun _ => true) rfl _ 1, by decide +kernel⟩

end GatewayWorker

end LyuneGateway.Worker
