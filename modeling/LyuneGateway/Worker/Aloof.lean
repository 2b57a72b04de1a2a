import LyuneGateway.Worker.HalfOpen

/-!
# What has nothing to do with the streams of backends

Most operations neither write to a backend stream nor open one. They add no
entry to the tables of requests in flight and give none to another client, and no
client stream holds a backend stream after them that it did not hold before.
-/

namespace LyuneGateway.Worker

open Foundation Io Protocol Session

/-- The action is not about a backend stream. -/
def Action.Frontal (action : Action) : Prop :=
  action.writesTo = none ∧ ∀ key, action.ends key = false

/-- Nothing has happened to a backend stream. -/
structure Aloof (worker after : GatewayWorker) : Prop where
  log : Grows Action.Frontal worker after
  next : after.nextBackendStream = worker.nextBackendStream
  routes : worker.inflight.routes.Derives Route.Becomes after.inflight.routes
  auths : worker.inflight.auths.Derives PendingAuth.Becomes after.inflight.auths
  holds : ∀ slot streamId stream, after.holds slot streamId = some stream →
    worker.holds slot streamId = some stream

namespace Aloof

variable {worker middle after : GatewayWorker}

theorem trans (first : Aloof worker middle) (second : Aloof middle after) : Aloof worker after where
  log := first.log.trans second.log
  next := second.next.trans first.next
  routes := first.routes.trans .trans second.routes
  auths := first.auths.trans .trans second.auths
  holds slot streamId stream held :=
    first.holds slot streamId stream (second.holds slot streamId stream held)

/-- What touches neither the requests in flight nor what client streams are connected to. -/
theorem of_same (log : Grows Action.Frontal worker after)
    (next : after.nextBackendStream = worker.nextBackendStream)
    (inflight : after.inflight = worker.inflight)
    (exchange : after.conns.exchange = worker.conns.exchange) : Aloof worker after where
  log := log
  next := next
  routes := by
    rw [inflight]
    exact .refl .refl
  auths := by
    rw [inflight]
    exact .refl .refl
  holds slot streamId stream held := by
    rwa [← GatewayWorker.holds_of_exchange (congrFun (congrFun exchange slot) streamId)]

theorem refl : Aloof worker worker := of_same .refl rfl rfl rfl

theorem of_via (via : Via (fun op => ∀ worker, Aloof worker (op.apply worker)) worker after) :
    Aloof worker after :=
  @Run.Reaches.invariant _ _ _ _ _ _ (fun other => Aloof worker other)
    (fun other _ sofar aloof => sofar.trans (aloof other)) via refl

theorem ask : Aloof worker worker.ask.2 := of_same .refl rfl rfl rfl

theorem record {action : Action} (frontal : action.Frontal) :
    Aloof worker (worker.record action) := of_same (.record frontal) rfl rfl rfl

theorem setConns {conns : ConnectionManager} (exchange : conns.exchange = worker.conns.exchange) :
    Aloof worker { worker with conns := conns } := of_same .refl rfl rfl exchange

theorem setSessions (sessions : PushSessions) : Aloof worker (worker.setSessions sessions) :=
  of_same .refl rfl rfl rfl

theorem setPushes (pushes : Table StreamKey Bytes) : Aloof worker (worker.setPushes pushes) :=
  of_same .refl rfl rfl rfl

/-- A client stream is connected to no other backend stream than before. -/
theorem modifyConn (slot : Nat) {change : ConnectionContext → ConnectionContext}
    (less : ∀ ctx streamId stream, (change ctx).holds streamId = some stream →
      ctx.holds streamId = some stream) : Aloof worker (worker.modifyConn slot change) where
  log := .refl
  next := rfl
  routes := .refl .refl
  auths := .refl .refl
  holds other streamId stream held := by
    unfold GatewayWorker.holds at held ⊢
    rw [GatewayWorker.modifyConn, ConnectionManager.exchange_modify] at held
    split at held
    · rename_i same
      rw [same]
      unfold ConnectionManager.exchange
      cases found : worker.conns.context slot with
      | none => simp [found] at held
      | some ctx =>
          rw [found, Option.bind_some] at held
          exact less ctx streamId stream held
    · exact held

theorem tables {change : Tables → Tables} (narrows : Tables.Narrows change) :
    Aloof worker { worker with inflight := change worker.inflight } where
  log := .refl
  next := rfl
  routes := narrows.routes _
  auths := narrows.auths _
  holds _ _ _ held := held

theorem writeClient (client streamId : Nat) (data : Bytes) (isFin : Bool) (author : Author) :
    Aloof worker (worker.writeClient client streamId data isFin author).2 :=
  ask.trans (record ⟨rfl, fun _ => rfl⟩)

theorem openClient (slot : Nat) (data : Bytes) (isFin : Bool) (author : Author) :
    Aloof worker (worker.openClient slot data isFin author).2 := by
  unfold GatewayWorker.openClient
  split
  · exact refl
  · have reserved : Aloof worker (worker.modifyConn slot .reserveStream) :=
      modifyConn slot fun _ _ _ held => held
    exact reserved.trans (writeClient _ _ data isFin author)

theorem sendEphemeral (client : Nat) (data : Bytes) :
    Aloof worker (worker.ask.2.record (.ephemeral client data worker.ask.1)) :=
  ask.trans (record ⟨rfl, fun _ => rfl⟩)

theorem deliver (workerId : Nat) (realm : RealmId) (session : Nat) (bytes : Bytes) :
    Aloof worker (worker.deliver workerId realm session bytes).2 := by
  unfold GatewayWorker.deliver
  split
  · exact record ⟨rfl, fun _ => rfl⟩
  · exact of_same (.record ⟨rfl, fun _ => rfl⟩) rfl rfl rfl

theorem sendPeer (nodeId : Nat) (realm : RealmId) (bytes : Bytes) (streaming : Bool) :
    Aloof worker (worker.sendPeer nodeId realm bytes streaming).2 := by
  unfold GatewayWorker.sendPeer
  split
  · exact refl
  · exact of_same (.record ⟨rfl, fun _ => rfl⟩) rfl rfl rfl

theorem sendPeerOn (stream : PeerStream) (bytes : Bytes) (isLast : Bool) :
    Aloof worker (worker.sendPeerOn stream bytes isLast).2 := by
  unfold GatewayWorker.sendPeerOn
  split
  · exact refl
  · exact of_same (.record ⟨rfl, fun _ => rfl⟩) rfl rfl rfl

theorem resetPeer (stream : PeerStream) : Aloof worker (worker.resetPeer stream) := by
  unfold GatewayWorker.resetPeer
  split
  · exact refl
  · exact of_same (.record ⟨rfl, fun _ => rfl⟩) rfl rfl rfl

theorem writeLocal (bytes : Bytes) (isLast : Bool) (target : LocalTarget) :
    Aloof worker (worker.writeLocal bytes isLast target) := by
  unfold GatewayWorker.writeLocal
  split
  · exact refl
  · exact writeClient _ _ _ _ _

theorem resetLocal (target : LocalTarget) : Aloof worker (worker.resetLocal target) := by
  unfold GatewayWorker.resetLocal
  split
  · exact refl
  · exact record ⟨rfl, fun _ => rfl⟩

theorem attachOne (slot target : Nat) (bytes : Bytes) :
    Aloof worker (worker.attachOne slot target bytes).2 := by
  unfold GatewayWorker.attachOne
  split
  · exact refl
  · exact refl
  split
  · exact refl
  split
  · exact refl
  have opened := @openClient worker target bytes false .backend
  split <;> rename_i answer <;> rw [answer] at opened
  · exact opened
  · exact opened.trans (setSessions _)

theorem writeSessionFrame (slot : Nat) (parsed : Frame) :
    Aloof worker (worker.writeSessionFrame slot parsed) := by
  cases found : worker.session slot with
  | none =>
      simp only [GatewayWorker.writeSessionFrame, found]
      exact refl
  | some session =>
      refine of_via (GatewayWorker.writeSessionFrame_via found ?_ ?_ ?_ ?_)
      · exact fun workerId _ _ => deliver workerId _ _ _
      · exact fun stream _ _ => sendPeerOn stream _ _
      · exact fun target _ _ => writeLocal _ _ target
      · exact fun _ _ _ _ => setSessions _

theorem abortSession (slot : Nat) : Aloof worker (worker.abortSession slot) := by
  cases found : worker.session slot with
  | none =>
      simp only [GatewayWorker.abortSession, found]
      exact refl
  | some session =>
      refine of_via (GatewayWorker.abortSession_via found ?_ ?_ ?_ ?_)
      · exact fun target _ _ => resetLocal target
      · exact fun workerId _ _ => deliver workerId _ _ _
      · exact fun stream _ _ => resetPeer stream
      · exact fun _ _ _ _ => setSessions _

theorem applyGroupChange (realm : RealmId) (join : Bool) (groupId : Nat) (token : ConnToken) :
    Aloof worker (worker.applyGroupChange realm join groupId token).2 := by
  have exchange := ConnectionManager.exchange_of_traffic
    (@GatewayWorker.traffic_applyGroupChange worker realm join groupId token)
  obtain same | ⟨slot, ctx, conns, -, -, -, changed, -⟩ :=
    worker.applyGroupChange_cases realm join groupId token
  · rw [same]
    exact refl
  · rw [changed] at exchange ⊢
    exact setConns exchange

theorem resolveBind (slot : Nat) (ctx : ConnectionContext) (parsed : Frame) :
    Aloof worker (worker.resolveBind slot ctx parsed).2 := by
  unfold GatewayWorker.resolveBind
  split
  · exact refl
  split
  · exact refl
  split
  · exact refl
  · exact modifyConn slot fun _ _ _ held => held

theorem refreshPlacement (nodes : List Nat) (now : Nat) :
    Aloof worker (worker.refreshPlacement nodes now) := by
  unfold GatewayWorker.refreshPlacement
  simp only
  split
  · exact of_same .refl rfl rfl rfl
  · split <;> exact of_same .refl rfl rfl rfl

theorem changeOutside (change : Outside) : Aloof worker (worker.changeOutside change) := by
  cases change <;> exact of_same .refl rfl rfl rfl

theorem removeSession (handle : SessionHandle) :
    Aloof worker { worker with conns := worker.conns.removeSession handle } where
  log := .refl
  next := rfl
  routes := .refl .refl
  auths := .refl .refl
  holds slot streamId stream held := by
    unfold GatewayWorker.holds at held ⊢
    rw [ConnectionManager.exchange_removeSession] at held
    split at held
    · cases held
    · exact held

theorem addConnection (indexed : worker.conns.Indexed) (kind : TransportKind) (realm : RealmId)
    (peerNode : Bool) : Aloof worker (worker.addConnection kind realm peerNode) := by
  refine of_same ?_ ?_ ?_ (GatewayWorker.exchange_addConnection indexed kind realm peerNode) <;>
    unfold GatewayWorker.addConnection <;> simp only <;> split
  · exact .refl
  · exact .refl
  all_goals rfl

end Aloof

end LyuneGateway.Worker
