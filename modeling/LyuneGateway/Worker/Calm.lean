import LyuneGateway.Worker.Reach

/-!
# What quiet operations leave alone

A quiet operation adds only such actions to the log as do not matter to who is
kicked, online or sent away, and leaves the view of the cluster and the partial
frames of push streams as they are.
-/

namespace LyuneGateway.Worker

open Foundation Io Protocol Session

/-- What a worker has been set up with and told, and the partial frames of its push streams. -/
structure Standing where
  placement : Placement.View
  policy : Policy
  addresses : Nat → Option Bytes
  registry : ScopedRoute → Option Nat
  now : Nat
  pushes : Table StreamKey Bytes
  nextTransport : Nat

def GatewayWorker.standing (worker : GatewayWorker) : Standing where
  placement := worker.placement
  policy := worker.policy
  addresses := worker.addresses
  registry := worker.registry
  now := worker.now
  pushes := worker.egress.pushes
  nextTransport := worker.nextTransport

/-- The log has grown by nothing but such actions. -/
def Grows (may : Action → Prop) (worker after : GatewayWorker) : Prop :=
  ∃ more, after.log = worker.log ++ more ∧ ∀ action ∈ more, may action

namespace Grows

variable {may : Action → Prop} {worker middle after : GatewayWorker}

theorem refl : Grows may worker worker := ⟨[], (List.append_nil _).symm, by simp⟩

theorem trans (first : Grows may worker middle) (second : Grows may middle after) :
    Grows may worker after := by
  obtain ⟨more, extends_, allowed⟩ := first
  obtain ⟨further, continues, permitted⟩ := second
  refine ⟨more ++ further, by rw [continues, extends_, List.append_assoc], fun action listed => ?_⟩
  exact (List.mem_append.mp listed).elim (allowed action) (permitted action)

theorem mono {weaker : Action → Prop} (grows : Grows may worker after)
    (implies : ∀ action, may action → weaker action) : Grows weaker worker after := by
  obtain ⟨more, extends_, allowed⟩ := grows
  exact ⟨more, extends_, fun action listed => implies action (allowed action listed)⟩

theorem of_log (same : after.log = worker.log) : Grows may worker after :=
  ⟨[], by rw [same, List.append_nil], by simp⟩

theorem record {action : Action} (allowed : may action) :
    Grows may worker (worker.record action) := ⟨[action], rfl, by simpa using allowed⟩

theorem of_via (via : Via (fun op => ∀ worker, Grows may worker (op.apply worker)) worker after) :
    Grows may worker after :=
  @Run.Reaches.invariant _ _ _ _ _ _ (fun other => Grows may worker other)
    (fun other _ sofar grows => sofar.trans (grows other)) via .refl

theorem mem_log {action : Action} (grows : Grows may worker after) :
    action ∈ after.log → action ∈ worker.log ∨ may action := by
  obtain ⟨more, extends_, allowed⟩ := grows
  rw [extends_, List.mem_append]
  exact Or.imp_right (allowed action)

theorem mem_log_of_mem {action : Action} (grows : Grows may worker after)
    (listed : action ∈ worker.log) : action ∈ after.log := by
  obtain ⟨more, extends_, -⟩ := grows
  rw [extends_]
  exact List.mem_append_left more listed

end Grows

/-- Nothing has happened but calm actions. -/
structure Undisturbed (worker after : GatewayWorker) : Prop where
  standing : after.standing = worker.standing
  log : Grows Action.Calm worker after

def Op.Calm (op : Op) : Prop := ∀ worker, Undisturbed worker (op.apply worker)

namespace Undisturbed

variable {worker middle after : GatewayWorker}

theorem refl : Undisturbed worker worker where
  standing := rfl
  log := .refl

theorem trans (first : Undisturbed worker middle) (second : Undisturbed middle after) :
    Undisturbed worker after where
  standing := second.standing.trans first.standing
  log := first.log.trans second.log

theorem of_via (via : Via Op.Calm worker after) : Undisturbed worker after :=
  @Run.Reaches.invariant _ _ _ _ _ _ (fun other => Undisturbed worker other)
    (fun other _ sofar calm => sofar.trans (calm other)) via .refl

theorem record {action : Action} (calm : action.Calm) :
    Undisturbed worker (worker.record action) :=
  ⟨rfl, .record calm⟩

theorem ask : Undisturbed worker worker.ask.2 := { @refl worker with }

theorem modifyConn (slot : Nat) (change : ConnectionContext → ConnectionContext) :
    Undisturbed worker (worker.modifyConn slot change) := { @refl worker with }

theorem setConns (conns : ConnectionManager) : Undisturbed worker { worker with conns := conns } :=
  { @refl worker with }

theorem setSessions (sessions : PushSessions) : Undisturbed worker (worker.setSessions sessions) :=
  { @refl worker with }

theorem writeClient (client streamId : Nat) (data : Bytes) (isFin : Bool) (author : Author) :
    Undisturbed worker (worker.writeClient client streamId data isFin author).2 :=
  ask.trans (record trivial)

theorem openClient (slot : Nat) (data : Bytes) (isFin : Bool) (author : Author) :
    Undisturbed worker (worker.openClient slot data isFin author).2 := by
  unfold GatewayWorker.openClient
  split
  · exact refl
  · exact (modifyConn slot _).trans (writeClient _ _ data isFin author)

theorem openBackend (transport : Nat) (data : Bytes) (isFin : Bool) :
    Undisturbed worker (worker.openBackend transport data isFin).2 := by
  have counted : Undisturbed worker
      { worker with nextBackendStream := worker.nextBackendStream + 1 } := { @refl worker with }
  exact counted.trans (ask.trans (record trivial))

theorem writeBackend (key : StreamKey) (data : Bytes) (isFin : Bool) :
    Undisturbed worker (worker.writeBackend key data isFin).2 :=
  ask.trans (record trivial)

theorem deliver (workerId : Nat) (realm : RealmId) (session : Nat) (bytes : Bytes) :
    Undisturbed worker (worker.deliver workerId realm session bytes).2 := by
  unfold GatewayWorker.deliver
  split
  · exact record trivial
  · rename_i router _
    have routed : Undisturbed worker { worker with router := router } := { @refl worker with }
    exact routed.trans (record trivial)

theorem setLinks (links : PeerLinks) (action : Action) (calm : action.Calm) :
    Undisturbed worker ({ worker with links := some links }.record action) := by
  have linked : Undisturbed worker { worker with links := some links } := { @refl worker with }
  exact linked.trans (record calm)

theorem linkAnswers : Undisturbed worker worker.linkAnswers.2 := ask.trans ask

theorem sendPeer (nodeId : Nat) (realm : RealmId) (bytes : Bytes) (streaming : Bool) :
    Undisturbed worker (worker.sendPeer nodeId realm bytes streaming).2 := by
  unfold GatewayWorker.sendPeer
  split
  · exact refl
  · exact linkAnswers.trans (setLinks _ _ trivial)

theorem sendPeerOn (stream : PeerStream) (bytes : Bytes) (isLast : Bool) :
    Undisturbed worker (worker.sendPeerOn stream bytes isLast).2 := by
  unfold GatewayWorker.sendPeerOn
  split
  · exact refl
  · exact linkAnswers.trans (setLinks _ _ trivial)

theorem resetPeer (stream : PeerStream) : Undisturbed worker (worker.resetPeer stream) := by
  unfold GatewayWorker.resetPeer
  split
  · exact refl
  · exact setLinks _ _ trivial

theorem writeLocal (bytes : Bytes) (isLast : Bool) (target : LocalTarget) :
    Undisturbed worker (worker.writeLocal bytes isLast target) := by
  unfold GatewayWorker.writeLocal
  split
  · exact refl
  · exact writeClient _ _ _ _ _

theorem resetLocal (target : LocalTarget) : Undisturbed worker (worker.resetLocal target) := by
  unfold GatewayWorker.resetLocal
  split
  · exact refl
  · exact record trivial

theorem track (key : StreamKey) (change : Tables → Tables) :
    Undisturbed worker (worker.track key change) := { @refl worker with }

theorem modifySession (slot : Nat) (change : PushSession → PushSession) :
    Undisturbed worker (worker.modifySession slot change) := setSessions _

theorem attachOne (slot target : Nat) (bytes : Bytes) :
    Undisturbed worker (worker.attachOne slot target bytes).2 := by
  unfold GatewayWorker.attachOne
  split
  · exact refl
  · exact refl
  split
  · exact refl
  split
  · exact refl
  have opened := @openClient worker target bytes false .backend
  split <;> rename_i answer <;> rw [answer] at opened
  · exact opened
  · exact opened.trans (modifySession slot _)

theorem writeSessionFrame (slot : Nat) (parsed : Frame) :
    Undisturbed worker (worker.writeSessionFrame slot parsed) := by
  cases found : worker.session slot with
  | none =>
      simp only [GatewayWorker.writeSessionFrame, found]
      exact refl
  | some session =>
      refine of_via (GatewayWorker.writeSessionFrame_via found ?_ ?_ ?_ ?_)
      · exact fun workerId _ _ => deliver workerId _ _ _
      · exact fun stream _ _ => sendPeerOn stream _ _
      · exact fun target _ _ => writeLocal _ _ target
      · exact fun _ _ _ _ => setSessions _

theorem abortSession (slot : Nat) : Undisturbed worker (worker.abortSession slot) := by
  cases found : worker.session slot with
  | none =>
      simp only [GatewayWorker.abortSession, found]
      exact refl
  | some session =>
      refine of_via (GatewayWorker.abortSession_via found ?_ ?_ ?_ ?_)
      · exact fun target _ _ => resetLocal target
      · exact fun workerId _ _ => deliver workerId _ _ _
      · exact fun stream _ _ => resetPeer stream
      · exact fun _ _ _ _ => setSessions _

theorem publishes (slot : Nat) (kind : EventKind) : GatewayWorker.Publishes Op.Calm slot kind where
  count _ _ := modifyConn slot _
  openBackend transport data _ := openBackend transport data true
  ask _ := ask
  track key route _ _ := track key fun tables => tables.openRoute key route

theorem publish (slot : Nat) (reason : SessionReason) :
    Undisturbed worker (worker.publish slot .offline reason) :=
  of_via (GatewayWorker.publish_via (publishes slot .offline) fun _ _ _ => record rfl)

theorem publishOffline (slot : Nat) (reason : SessionReason) :
    Undisturbed worker (worker.publishOffline slot reason) :=
  of_via (GatewayWorker.publishOffline_via fun _ => publish slot reason)

theorem revokes (slot : Nat) (handle : SessionHandle) :
    GatewayWorker.Revokes Op.Calm slot handle where
  publish reason _ := publish slot reason
  revoke _ := modifyConn slot _
  unbind _ := setConns _

theorem revokeAdmission (slot : Nat) (reason : SessionReason) :
    Undisturbed worker (worker.revokeAdmission slot reason) := by
  cases found : worker.context slot with
  | none =>
      simp only [GatewayWorker.revokeAdmission, found]
      exact refl
  | some ctx =>
      exact of_via (GatewayWorker.revokeAdmission_via found (revokes slot ctx.sessionHandle))

theorem applyGroupChange (realm : RealmId) (join : Bool) (groupId : Nat) (token : ConnToken) :
    Undisturbed worker (worker.applyGroupChange realm join groupId token).2 := by
  obtain same | ⟨slot, ctx, conns, -, -, -, changed, -⟩ :=
    worker.applyGroupChange_cases realm join groupId token
  · rw [same]
    exact refl
  · rw [changed]
    exact setConns conns

theorem resolveBind (slot : Nat) (ctx : ConnectionContext) (parsed : Frame) :
    Undisturbed worker (worker.resolveBind slot ctx parsed).2 := by
  unfold GatewayWorker.resolveBind
  split
  · exact refl
  split
  · exact refl
  split
  · exact refl
  · exact modifyConn slot _

end Undisturbed

open Undisturbed in
theorem Op.Quiet.calm {op : Op} (quiet : op.Quiet) : op.Calm := by
  intro worker
  cases op with
  | ask => exact .ask
  | record action => exact .record quiet
  | writeClient client streamId data isFin author =>
      exact Undisturbed.writeClient client streamId data isFin author
  | openClient slot data isFin author => exact Undisturbed.openClient slot data isFin author
  | sendEphemeral client data => exact Undisturbed.ask.trans (.record trivial)
  | writeLocal bytes isLast target => exact Undisturbed.writeLocal bytes isLast target
  | resetLocal target => exact Undisturbed.resetLocal target
  | attach slot target bytes => exact Undisturbed.attachOne slot target bytes
  | writeSession slot parsed => exact Undisturbed.writeSessionFrame slot parsed
  | abortSession slot => exact Undisturbed.abortSession slot
  | openBackend transport data isFin => exact Undisturbed.openBackend transport data isFin
  | writeBackend key data isFin => exact Undisturbed.writeBackend key data isFin
  | deliver workerId realm session bytes =>
      exact Undisturbed.deliver workerId realm session bytes
  | sendPeer nodeId realm bytes streaming =>
      exact Undisturbed.sendPeer nodeId realm bytes streaming
  | sendPeerOn stream bytes isLast => exact Undisturbed.sendPeerOn stream bytes isLast
  | resetPeer stream => exact Undisturbed.resetPeer stream
  | conn slot change => exact .modifyConn slot change
  | publish slot kind reason =>
      obtain rfl : kind = .offline := quiet
      exact Undisturbed.publish slot reason
  | tables change => exact { @Undisturbed.refl worker with }
  | track key change => exact .track key change
  | sessions change => exact .setSessions _
  | accept | remove | bindDest | bind | group | kick | revoke | admitClient | pushes | placement
  | outside => exact quiet.elim

/-- An operation keeps what a worker has been set up with and told. -/
def Op.KeepsStanding (op : Op) : Prop :=
  ∀ worker, (op.apply worker).standing = worker.standing

namespace GatewayWorker

variable {worker after : GatewayWorker}

theorem Via.standing (via : Via Op.KeepsStanding worker after) :
    after.standing = worker.standing :=
  via.preserves (fun worker => worker.standing) fun worker _ keeps => keeps worker

theorem standing_publish (slot : Nat) (kind : EventKind) (reason : SessionReason) :
    (worker.publish slot kind reason).standing = worker.standing := by
  refine Via.standing (publish_via ⟨?_, ?_, ?_, ?_⟩ fun _ _ _ => rfl)
  · exact fun _ _ => rfl
  · exact fun transport data _ => (Undisturbed.openBackend transport data true).standing
  · exact fun _ => rfl
  · exact fun _ _ _ _ => rfl

theorem standing_kickOne (realm : RealmId) (token : ConnToken) :
    (worker.kickOne realm token).2.standing = worker.standing := by
  refine Via.standing (kickOne_via (fun slot ctx _ _ _ => ⟨?_, ?_, ?_⟩) ?_ ?_)
  · exact fun reason _ => (Undisturbed.publish slot reason).standing
  · exact fun _ => rfl
  · exact fun _ => rfl
  · exact fun slot data _ => (Undisturbed.openClient slot data true .gateway).standing
  · exact fun _ _ _ _ _ _ => rfl

theorem standing_admitSession (slot : Nat) (ctx : ConnectionContext) (handle : SessionHandle)
    (grant : AuthGrant) : (worker.admitSession slot ctx handle grant).standing = worker.standing := by
  refine Via.standing (admitSession_via ⟨?_, ?_, ?_, ?_⟩)
  · exact fun reason _ => (Undisturbed.publish slot reason).standing
  · exact fun _ => standing_publish slot .online .authenticated
  · exact fun _ _ => rfl
  · exact fun _ => rfl

/-- A new view of the cluster is all that a refresh changes. -/
theorem refreshPlacement_frame (nodes : List Nat) (now : Nat) :
    (worker.refreshPlacement nodes now).log = worker.log ∧
      (worker.refreshPlacement nodes now).nextTransport = worker.nextTransport ∧
      (worker.refreshPlacement nodes now).egress = worker.egress := by
  unfold refreshPlacement
  simp only
  split
  · exact ⟨rfl, rfl, rfl⟩
  · split <;> exact ⟨rfl, rfl, rfl⟩

theorem changeOutside_frame (change : Outside) :
    (worker.changeOutside change).log = worker.log ∧
      (worker.changeOutside change).nextTransport = worker.nextTransport ∧
      (worker.changeOutside change).egress = worker.egress := by
  cases change <;> exact ⟨rfl, rfl, rfl⟩

/-- A lifecycle event is told of the connection in the slot. -/
theorem grows_publish (slot : Nat) (kind : EventKind) (reason : SessionReason) :
    Grows (fun action => action.Calm ∨ ∃ ctx, worker.context slot = some ctx ∧
      action = .published ctx.transport.ptr kind reason ctx.notice) worker
      (worker.publish slot kind reason) := by
  refine Grows.of_via (publish_via ⟨?_, ?_, ?_, ?_⟩ ?_)
  · exact fun _ _ => .refl
  · exact fun transport data _ =>
      (Undisturbed.openBackend transport data true).log.mono fun _ => .inl
  · exact fun _ => .refl
  · exact fun _ _ _ _ => .refl
  · exact fun ctx found _ => .record (.inr ⟨ctx, found, rfl⟩)

/-- What a worker has been set up with and told. -/
structure Setting where
  placement : Placement.View
  policy : Policy
  addresses : Nat → Option Bytes
  registry : ScopedRoute → Option Nat
  now : Nat

def setting (worker : GatewayWorker) : Setting where
  placement := worker.placement
  policy := worker.policy
  addresses := worker.addresses
  registry := worker.registry
  now := worker.now

theorem setting_of_standing {after : GatewayWorker} (same : after.standing = worker.standing) :
    after.setting = worker.setting :=
  congrArg (fun standing : Standing => (⟨standing.placement, standing.policy, standing.addresses,
    standing.registry, standing.now⟩ : Setting)) same

/-- No operation of a step changes what the worker has been told, except when it is told. -/
theorem Permits.setting_eq {event : Event} {op : Op} (permits : Permits worker event op)
    (other : ∀ nodes now, event ≠ .placement nodes now)
    (inside : ∀ change, event ≠ .outside change) (after : GatewayWorker) :
    (op.apply after).setting = after.setting := by
  cases permits with
  | quiet quiet => exact setting_of_standing (quiet.calm after).standing
  | pushes | dispatched | turnAway | sendHome | remove | unbind | popped => rfl
  | accept | acceptPeer =>
      simp only [Op.apply, addConnection]
      split <;> rfl
  | bind => exact setting_of_standing (Undisturbed.resolveBind _ _ _).standing
  | admitClient => exact setting_of_standing (standing_admitSession _ _ _ _)
  | revoke => exact setting_of_standing (Undisturbed.revokeAdmission _ _).standing
  | renew => exact setting_of_standing (standing_publish _ _ _)
  | placement => exact absurd rfl (other _ _)
  | outside => exact absurd rfl (inside _)
  | group => exact setting_of_standing (Undisturbed.applyGroupChange _ _ _ _).standing
  | kick => exact setting_of_standing (standing_kickOne _ _)

theorem setting_step (event : Event) (other : ∀ nodes now, event ≠ .placement nodes now)
    (inside : ∀ change, event ≠ .outside change) :
    (worker.step event).setting = worker.setting :=
  (step_via event).preserves (fun worker => worker.setting)
    fun after _ permits => Permits.setting_eq permits other inside after

/-- Only the connection that the token names is closed as kicked. -/
theorem grows_kickOne (realm : RealmId) (token : ConnToken) :
    Grows (fun action => action.Calm ∨ ∃ slot ctx, worker.conns.byToken token = some slot ∧
      worker.context slot = some ctx ∧ ctx.realm = realm ∧
      action = .close ctx.transport.ptr AppError.kicked.code) worker
      (worker.kickOne realm token).2 := by
  refine Grows.of_via (kickOne_via (fun slot ctx _ _ _ => ⟨?_, ?_, ?_⟩) ?_ ?_)
  · exact fun reason _ => (Undisturbed.publish slot reason).log.mono fun _ => .inl
  · exact fun _ => .refl
  · exact fun _ => .refl
  · exact fun slot data _ =>
      (Undisturbed.openClient slot data true .gateway).log.mono fun _ => .inl
  · exact fun slot ctx resolved found own _ =>
      .record (.inr ⟨slot, ctx, resolved, found, own, rfl⟩)

end GatewayWorker

end LyuneGateway.Worker
