import LyuneGateway.Worker.Calm

/-!
# What stays within a worker

A worker passes messages on to the other workers of its node, and frames to other
nodes. Everything else that it does stays between itself, its connections and its
backends.
-/

namespace LyuneGateway.Worker

open Foundation Io Protocol Session

/-- The action concerns neither another worker nor another node. -/
def Action.Inward : Action → Prop
  | .handoff .. | .peerSend .. | .peerSendOn .. | .peerReset .. => False
  | _ => True

/-- Nothing has gone to other workers or nodes, or come from them. -/
structure Inside (worker after : GatewayWorker) : Prop where
  router : after.router = worker.router
  log : Grows Action.Inward worker after

def Op.Inward : Op → Prop
  | .record action => action.Inward
  | .writeSession .. | .abortSession _ | .deliver .. | .sendPeer .. | .sendPeerOn ..
  | .resetPeer _ | .outside _ => False
  | _ => True

namespace Inside

variable {worker middle after : GatewayWorker}

theorem refl : Inside worker worker := ⟨rfl, .refl⟩

theorem trans (first : Inside worker middle) (second : Inside middle after) :
    Inside worker after :=
  ⟨second.router.trans first.router, first.log.trans second.log⟩

theorem of_via (via : Via (fun op => ∀ worker, Inside worker (op.apply worker)) worker after) :
    Inside worker after :=
  @Run.Reaches.invariant _ _ _ _ _ _ (fun other => Inside worker other)
    (fun other _ sofar inside => sofar.trans (inside other)) via .refl

theorem record {action : Action} (inward : action.Inward) : Inside worker (worker.record action) :=
  ⟨rfl, .record inward⟩

theorem ask : Inside worker worker.ask.2 := ⟨rfl, .refl⟩

theorem modifyConn (slot : Nat) (change : ConnectionContext → ConnectionContext) :
    Inside worker (worker.modifyConn slot change) := ⟨rfl, .refl⟩

theorem setConns (conns : ConnectionManager) : Inside worker { worker with conns := conns } :=
  ⟨rfl, .refl⟩

theorem setSessions (sessions : PushSessions) : Inside worker (worker.setSessions sessions) :=
  ⟨rfl, .refl⟩

theorem writeClient (client streamId : Nat) (data : Bytes) (isFin : Bool) (author : Author) :
    Inside worker (worker.writeClient client streamId data isFin author).2 :=
  ask.trans (record trivial)

theorem openClient (slot : Nat) (data : Bytes) (isFin : Bool) (author : Author) :
    Inside worker (worker.openClient slot data isFin author).2 := by
  unfold GatewayWorker.openClient
  split
  · exact refl
  · exact (modifyConn slot _).trans (writeClient _ _ data isFin author)

theorem writeBackend (key : StreamKey) (data : Bytes) (isFin : Bool) :
    Inside worker (worker.writeBackend key data isFin).2 :=
  ask.trans (record trivial)

theorem openBackend (transport : Nat) (data : Bytes) (isFin : Bool) :
    Inside worker (worker.openBackend transport data isFin).2 := by
  have counted : Inside worker
      { worker with nextBackendStream := worker.nextBackendStream + 1 } := ⟨rfl, .refl⟩
  exact counted.trans (ask.trans (record trivial))

theorem writeLocal (bytes : Bytes) (isLast : Bool) (target : LocalTarget) :
    Inside worker (worker.writeLocal bytes isLast target) := by
  unfold GatewayWorker.writeLocal
  split
  · exact refl
  · exact writeClient _ _ _ _ _

theorem resetLocal (target : LocalTarget) : Inside worker (worker.resetLocal target) := by
  unfold GatewayWorker.resetLocal
  split
  · exact refl
  · exact record trivial

theorem track (key : StreamKey) (change : Tables → Tables) :
    Inside worker (worker.track key change) := ⟨rfl, .refl⟩

theorem attachOne (slot target : Nat) (bytes : Bytes) :
    Inside worker (worker.attachOne slot target bytes).2 := by
  unfold GatewayWorker.attachOne
  split
  · exact refl
  · exact refl
  split
  · exact refl
  split
  · exact refl
  have opened := @openClient worker target bytes false .backend
  split <;> rename_i answer <;> rw [answer] at opened
  · exact opened
  · exact opened.trans (setSessions _)

theorem publish (slot : Nat) (kind : EventKind) (reason : SessionReason) :
    Inside worker (worker.publish slot kind reason) := by
  refine of_via (GatewayWorker.publish_via ⟨?_, ?_, ?_, ?_⟩ fun _ _ _ => record trivial)
  · exact fun _ _ => modifyConn slot _
  · exact fun transport data _ => openBackend transport data true
  · exact fun _ => ask
  · exact fun key route _ _ => track key fun tables => tables.openRoute key route

theorem revokes (slot : Nat) (handle : SessionHandle) : GatewayWorker.Revokes
    (fun op => ∀ worker, Inside worker (op.apply worker)) slot handle where
  publish reason _ := publish slot .offline reason
  revoke _ := modifyConn slot _
  unbind _ := setConns _

theorem revokeAdmission (slot : Nat) (reason : SessionReason) :
    Inside worker (worker.revokeAdmission slot reason) := by
  cases found : worker.context slot with
  | none =>
      simp only [GatewayWorker.revokeAdmission, found]
      exact refl
  | some ctx =>
      exact of_via (GatewayWorker.revokeAdmission_via found (revokes slot ctx.sessionHandle))

theorem kickOne (realm : RealmId) (token : ConnToken) :
    Inside worker (worker.kickOne realm token).2 := by
  refine of_via (GatewayWorker.kickOne_via (fun slot ctx _ _ _ => ?_) ?_ ?_)
  · exact revokes slot ctx.sessionHandle
  · exact fun slot data _ => openClient slot data true .gateway
  · exact fun _ _ _ _ _ _ => record trivial

theorem admitSession (slot : Nat) (ctx : ConnectionContext) (handle : SessionHandle)
    (grant : AuthGrant) : Inside worker (worker.admitSession slot ctx handle grant) := by
  refine of_via (GatewayWorker.admitSession_via ⟨?_, ?_, ?_, ?_⟩)
  · exact fun reason _ => publish slot .offline reason
  · exact fun _ => publish slot .online .authenticated
  · exact fun _ _ => modifyConn slot _
  · exact fun _ => setConns _

theorem applyGroupChange (realm : RealmId) (join : Bool) (groupId : Nat) (token : ConnToken) :
    Inside worker (worker.applyGroupChange realm join groupId token).2 := by
  obtain same | ⟨slot, ctx, conns, -, -, -, changed, -⟩ :=
    worker.applyGroupChange_cases realm join groupId token
  · rw [same]
    exact refl
  · rw [changed]
    exact setConns conns

theorem resolveBind (slot : Nat) (ctx : ConnectionContext) (parsed : Frame) :
    Inside worker (worker.resolveBind slot ctx parsed).2 := by
  unfold GatewayWorker.resolveBind
  split
  · exact refl
  split
  · exact refl
  split
  · exact refl
  · exact modifyConn slot _

theorem addConnection (kind : TransportKind) (realm : RealmId) (peerNode : Bool) :
    Inside worker (worker.addConnection kind realm peerNode) := by
  unfold GatewayWorker.addConnection
  simp only
  split <;> exact ⟨rfl, .refl⟩

theorem refreshPlacement (nodes : List Nat) (now : Nat) :
    Inside worker (worker.refreshPlacement nodes now) := by
  unfold GatewayWorker.refreshPlacement
  simp only
  split
  · exact ⟨rfl, .refl⟩
  · split <;> exact ⟨rfl, .refl⟩

end Inside

open Inside in
theorem Op.Inward.inside {op : Op} (inward : op.Inward) (worker : GatewayWorker) :
    Inside worker (op.apply worker) := by
  cases op with
  | ask => exact .ask
  | record action => exact .record inward
  | writeClient client streamId data isFin author =>
      exact Inside.writeClient client streamId data isFin author
  | openClient slot data isFin author => exact Inside.openClient slot data isFin author
  | sendEphemeral client data => exact Inside.ask.trans (.record trivial)
  | writeLocal bytes isLast target => exact Inside.writeLocal bytes isLast target
  | resetLocal target => exact Inside.resetLocal target
  | attach slot target bytes => exact Inside.attachOne slot target bytes
  | openBackend transport data isFin => exact Inside.openBackend transport data isFin
  | writeBackend key data isFin => exact Inside.writeBackend key data isFin
  | conn slot change => exact .modifyConn slot change
  | accept kind realm peerNode => exact Inside.addConnection kind realm peerNode
  | bind slot ctx parsed => exact Inside.resolveBind slot ctx parsed
  | group realm join groupId token => exact Inside.applyGroupChange realm join groupId token
  | kick realm token => exact Inside.kickOne realm token
  | publish slot kind reason => exact Inside.publish slot kind reason
  | revoke slot reason => exact Inside.revokeAdmission slot reason
  | admitClient slot ctx handle grant => exact Inside.admitSession slot ctx handle grant
  | placement nodes now => exact Inside.refreshPlacement nodes now
  | remove | bindDest | tables | track | sessions | pushes => exact ⟨rfl, .refl⟩
  | writeSession | abortSession | deliver | sendPeer | sendPeerOn | resetPeer | outside =>
      exact inward.elim

end LyuneGateway.Worker
