import LyuneGateway.Worker.Clients

/-!
# What client streams are connected to

Every exchange belongs to one client stream. The frames of the stream change it,
and it ends with the stream or with the connection. Nothing else touches it.
-/

namespace LyuneGateway.Worker

open Foundation Io Protocol Session

/-- What the client streams of a connection have under way. -/
structure Traffic where
  frameSpills : Table Nat Bytes
  inboundExchanges : Table Nat InboundExchange

def ConnectionContext.traffic (ctx : ConnectionContext) : Traffic where
  frameSpills := ctx.frameSpills
  inboundExchanges := ctx.inboundExchanges

namespace ConnectionManager

variable {manager after : ConnectionManager}

def traffic (manager : ConnectionManager) (slot : Nat) : Option Traffic :=
  (manager.context slot).map ConnectionContext.traffic

/-- The partial frame that is kept of a client stream. -/
def spill (manager : ConnectionManager) (slot streamId : Nat) : Option Bytes :=
  (manager.context slot).bind fun ctx => ctx.frameSpills.lookup streamId

def exchange (manager : ConnectionManager) (slot streamId : Nat) : Option InboundExchange :=
  (manager.context slot).bind fun ctx => ctx.inboundExchanges.lookup streamId

theorem exchange_of_context {slot : Nat} {ctx : ConnectionContext}
    (found : manager.context slot = some ctx) (streamId : Nat) :
    manager.exchange slot streamId = ctx.inboundExchanges.lookup streamId := by
  simp [exchange, found]

theorem exchange_of_traffic (same : after.traffic = manager.traffic) :
    after.exchange = manager.exchange := by
  have reads (manager : ConnectionManager) (slot streamId : Nat) :
      manager.exchange slot streamId =
        (manager.traffic slot).bind fun traffic => traffic.inboundExchanges.lookup streamId := by
    simp only [exchange, traffic, Option.bind_map]
    rfl
  funext slot streamId
  rw [reads, reads, same]

theorem spill_of_traffic (same : after.traffic = manager.traffic) :
    after.spill = manager.spill := by
  have reads (manager : ConnectionManager) (slot streamId : Nat) :
      manager.spill slot streamId =
        (manager.traffic slot).bind fun traffic => traffic.frameSpills.lookup streamId := by
    simp only [spill, traffic, Option.bind_map]
    rfl
  funext slot streamId
  rw [reads, reads, same]

theorem traffic_of_slots (same : after.slots = manager.slots) : after.traffic = manager.traffic := by
  funext slot
  simp [traffic, context, same]

theorem exchange_modify (slot other streamId : Nat)
    (change : ConnectionContext → ConnectionContext) :
    (manager.modify slot change).exchange other streamId =
      if other = slot then (manager.context slot).bind fun ctx =>
        (change ctx).inboundExchanges.lookup streamId
      else manager.exchange other streamId := by
  unfold exchange
  rw [context_modify]
  split
  · rename_i same
    rw [same, Function.update_self, Option.bind_map]
    rfl
  · rename_i different
    rw [Function.update_of_ne different]

theorem traffic_modify_of_same (slot : Nat) {change : ConnectionContext → ConnectionContext}
    (same : ∀ ctx, (change ctx).traffic = ctx.traffic) :
    (manager.modify slot change).traffic = manager.traffic := by
  funext other
  unfold traffic
  rw [context_modify]
  by_cases here : other = slot
  · subst here
    rw [Function.update_self, Option.map_map]
    exact congrFun (congrArg Option.map (funext same)) _
  · rw [Function.update_of_ne here]

theorem exchange_modify_of_same (slot : Nat) {change : ConnectionContext → ConnectionContext}
    (same : ∀ ctx, (change ctx).inboundExchanges = ctx.inboundExchanges) :
    (manager.modify slot change).exchange = manager.exchange := by
  funext other streamId
  rw [exchange_modify]
  split
  · rename_i here
    simp only [same, here, exchange]
  · rfl

theorem traffic_unbindDest (slot : Nat) :
    (manager.unbindDest slot).traffic = manager.traffic := by
  unfold unbindDest
  split
  · rfl
  split
  · rfl
  · exact (traffic_of_slots rfl).trans (traffic_modify_of_same slot fun _ => rfl)

theorem traffic_bindDest (handle : SessionHandle) (destId : Nat) :
    (manager.bindDest handle destId).traffic = manager.traffic := by
  unfold bindDest
  split
  · rfl
  split
  · rfl
  split
  · rfl
  rename_i slot _ _ _ _ _
  have bound : ((manager.unbindDest slot).modify slot fun ctx => ctx.setDest destId).traffic =
      manager.traffic :=
    (@traffic_modify_of_same _ slot (fun ctx => ctx.setDest destId) fun _ => rfl).trans
      (traffic_unbindDest slot)
  simp only
  split
  · exact bound
  · exact (traffic_of_slots rfl).trans bound

theorem traffic_leaveGroup (handle : SessionHandle) (groupId : Nat) :
    (manager.leaveGroup handle groupId).traffic = manager.traffic := by
  unfold leaveGroup
  split
  · rfl
  split
  · exact traffic_of_slots rfl
  · rfl

/-- The exchanges of a connection end with it. -/
theorem exchange_removeSession (handle : SessionHandle) (slot streamId : Nat) :
    (manager.removeSession handle).exchange slot streamId =
      if manager.slotFor handle = some slot then none else manager.exchange slot streamId := by
  unfold removeSession
  cases found : manager.slotFor handle with
  | none => rfl
  | some other =>
      simp only [Option.some.injEq]
      unfold releaseSlot
      split
      · rename_i gone
        split
        · rename_i same
          subst same
          simp [exchange, gone]
        · rfl
      simp only [exchange, context, leaveAllGroups]
      by_cases same : slot = other
      · subst same
        simp
      · have kept := congrFun (congrFun (exchange_of_traffic (@traffic_unbindDest manager other)) slot) streamId
        simp only [exchange, context] at kept
        simp [same, Ne.symm same, kept]

/-- A new connection has no exchanges, and nothing was in its slot before. -/
theorem exchange_addSession (indexed : manager.Indexed) {transport : TransportSession}
    {realm : RealmId} {peerNode : Bool} {now : Nat} {handle : SessionHandle}
    (added : manager.addSession transport realm peerNode now = .ok (handle, after)) :
    after.exchange = manager.exchange := by
  obtain ⟨own, rest, free, -, -, holds, -⟩ := addSession_eq_ok added
  have unused := (indexed.free own (free ▸ List.mem_cons_self)).1
  funext slot streamId
  unfold exchange
  rw [holds]
  by_cases same : slot = own
  · rw [same, Function.update_self, unused]
    rfl
  · rw [Function.update_of_ne same]

end ConnectionManager

/-- The operation leaves every exchange alone. -/
def Op.KeepsExchanges (op : Op) : Prop :=
  ∀ worker, (op.apply worker).conns.exchange = worker.conns.exchange

/-- The operation leaves the client streams alone. -/
def Op.KeepsTraffic (op : Op) : Prop :=
  ∀ worker, (op.apply worker).conns.traffic = worker.conns.traffic

namespace GatewayWorker

variable {worker after : GatewayWorker}

theorem Via.exchange (via : Via Op.KeepsExchanges worker after) :
    after.conns.exchange = worker.conns.exchange :=
  via.preserves (fun worker => worker.conns.exchange) fun worker _ keeps => keeps worker

theorem Via.traffic (via : Via Op.KeepsTraffic worker after) :
    after.conns.traffic = worker.conns.traffic :=
  via.preserves (fun worker => worker.conns.traffic) fun worker _ keeps => keeps worker

theorem traffic_openClient (slot : Nat) (data : Bytes) (isFin : Bool) (author : Author) :
    (worker.openClient slot data isFin author).2.conns.traffic = worker.conns.traffic := by
  unfold openClient
  split
  · rfl
  · exact ConnectionManager.traffic_modify_of_same slot fun _ => rfl

theorem traffic_attachOne (slot target : Nat) (bytes : Bytes) :
    (worker.attachOne slot target bytes).2.conns.traffic = worker.conns.traffic := by
  unfold attachOne
  split
  · rfl
  · rfl
  split
  · rfl
  split
  · rfl
  have opened := @traffic_openClient worker target bytes false .backend
  split <;> rename_i answer <;> rw [answer] at opened <;> exact opened

theorem traffic_writeSessionFrame (slot : Nat) (parsed : Frame) :
    (worker.writeSessionFrame slot parsed).conns.traffic = worker.conns.traffic := by
  cases found : worker.session slot with
  | none => simp [writeSessionFrame, found]
  | some session =>
      refine Via.traffic (writeSessionFrame_via found ?_ ?_ ?_ ?_)
      · exact fun workerId _ worker => congrArg _ (conns_deliver workerId _ _ _)
      · exact fun stream _ worker => congrArg _ (conns_sendPeerOn stream _ _)
      · exact fun target _ worker => congrArg _ (conns_writeLocal _ _ target)
      · exact fun _ _ _ _ => rfl

theorem traffic_abortSession (slot : Nat) :
    (worker.abortSession slot).conns.traffic = worker.conns.traffic := by
  cases found : worker.session slot with
  | none => simp [abortSession, found]
  | some session =>
      refine Via.traffic (abortSession_via found ?_ ?_ ?_ ?_)
      · exact fun target _ worker => congrArg _ (conns_resetLocal target)
      · exact fun workerId _ worker => congrArg _ (conns_deliver workerId _ _ _)
      · exact fun stream _ worker => congrArg _ (conns_resetPeer stream)
      · exact fun _ _ _ _ => rfl

theorem traffic_publish (slot : Nat) (kind : EventKind) (reason : SessionReason) :
    (worker.publish slot kind reason).conns.traffic = worker.conns.traffic := by
  refine Via.traffic (publish_via ⟨?_, ?_, ?_, ?_⟩ ?_)
  · exact fun now worker => ConnectionManager.traffic_modify_of_same slot fun _ => rfl
  · exact fun _ _ _ => rfl
  · exact fun _ => rfl
  · exact fun _ _ _ _ => rfl
  · exact fun _ _ _ => rfl

theorem revokes_traffic (slot : Nat) (handle : SessionHandle) :
    Revokes Op.KeepsTraffic slot handle where
  publish reason _ := traffic_publish slot .offline reason
  revoke _ := ConnectionManager.traffic_modify_of_same slot fun _ => rfl
  unbind _ := ConnectionManager.traffic_bindDest handle 0

theorem traffic_revokeAdmission (slot : Nat) (reason : SessionReason) :
    (worker.revokeAdmission slot reason).conns.traffic = worker.conns.traffic := by
  cases found : worker.context slot with
  | none => simp [revokeAdmission, found]
  | some ctx =>
      exact Via.traffic (revokeAdmission_via found (revokes_traffic slot ctx.sessionHandle))

theorem traffic_kickOne (realm : RealmId) (token : ConnToken) :
    (worker.kickOne realm token).2.conns.traffic = worker.conns.traffic := by
  refine Via.traffic (kickOne_via
    (fun slot ctx _ _ _ => revokes_traffic slot ctx.sessionHandle) ?_ ?_)
  · exact fun slot data _ => traffic_openClient slot data true .gateway
  · exact fun _ _ _ _ _ _ => rfl

theorem traffic_admitSession (slot : Nat) (ctx : ConnectionContext) (handle : SessionHandle)
    (grant : AuthGrant) :
    (worker.admitSession slot ctx handle grant).conns.traffic = worker.conns.traffic := by
  refine Via.traffic (admitSession_via ⟨?_, ?_, ?_, ?_⟩)
  · exact fun reason _ => traffic_publish slot .offline reason
  · exact fun _ => traffic_publish slot .online .authenticated
  · exact fun _ _ => ConnectionManager.traffic_modify_of_same slot fun _ => rfl
  · exact fun _ => ConnectionManager.traffic_bindDest handle grant.destId

theorem traffic_applyGroupChange (realm : RealmId) (join : Bool) (groupId : Nat)
    (token : ConnToken) :
    (worker.applyGroupChange realm join groupId token).2.conns.traffic = worker.conns.traffic := by
  obtain same | ⟨slot, ctx, conns, -, -, -, changed, ⟨-, joined⟩ | ⟨-, rfl⟩⟩ :=
    worker.applyGroupChange_cases realm join groupId token
  · rw [same]
  · rw [changed]
    exact ConnectionManager.traffic_of_slots (ConnectionManager.joinGroup_frame joined).1
  · rw [changed]
    exact ConnectionManager.traffic_leaveGroup _ _

theorem traffic_resolveBind (slot : Nat) (ctx : ConnectionContext) (parsed : Frame) :
    (worker.resolveBind slot ctx parsed).2.conns.traffic = worker.conns.traffic := by
  unfold resolveBind
  split
  · rfl
  split
  · rfl
  split
  · rfl
  · exact ConnectionManager.traffic_modify_of_same slot fun _ => rfl

end GatewayWorker

/-- The operation is none of a request's own: it neither takes a connection in or out, nor changes
it in a way of its own. -/
def Op.Aside : Op → Prop
  | .conn .. | .accept .. | .remove _ => False
  | _ => True

open GatewayWorker in
theorem Op.Aside.keepsTraffic {op : Op} (aside : op.Aside) : op.KeepsTraffic := by
  intro worker
  cases op with
  | openClient slot data isFin author => exact traffic_openClient slot data isFin author
  | writeLocal bytes isLast target => exact congrArg _ (conns_writeLocal bytes isLast target)
  | resetLocal target => exact congrArg _ (conns_resetLocal target)
  | attach slot target bytes => exact traffic_attachOne slot target bytes
  | writeSession slot parsed => exact traffic_writeSessionFrame slot parsed
  | abortSession slot => exact traffic_abortSession slot
  | deliver workerId realm session bytes => exact congrArg _ (conns_deliver workerId ..)
  | sendPeer nodeId realm bytes streaming => exact congrArg _ (conns_sendPeer nodeId ..)
  | sendPeerOn stream bytes isLast => exact congrArg _ (conns_sendPeerOn stream ..)
  | resetPeer stream => exact congrArg _ (conns_resetPeer stream)
  | bindDest handle destId => exact ConnectionManager.traffic_bindDest handle destId
  | bind slot ctx parsed => exact traffic_resolveBind slot ctx parsed
  | group realm join groupId token => exact traffic_applyGroupChange realm join groupId token
  | kick realm token => exact traffic_kickOne realm token
  | publish slot kind reason => exact traffic_publish slot kind reason
  | revoke slot reason => exact traffic_revokeAdmission slot reason
  | admitClient slot ctx handle grant => exact traffic_admitSession slot ctx handle grant
  | placement nodes now => exact congrArg _ (conns_refreshPlacement nodes now)
  | outside change => exact congrArg _ (conns_changeOutside change)
  | conn | accept | remove => exact aside.elim
  | _ => rfl

theorem Op.Aside.keepsExchanges {op : Op} (aside : op.Aside) : op.KeepsExchanges :=
  fun worker => ConnectionManager.exchange_of_traffic (aside.keepsTraffic worker)

namespace GatewayWorker

/-- The operations of the steps that no client stream is about and that change no admission, except
by a kick. -/
structure Bystanders (allowed : Op → Prop) : Prop where
  locals : Locals allowed
  streams : Streams allowed
  forwards : ∀ realm session bytes streaming, Forwards allowed realm session bytes streaming
  commands : ∀ realm parsed, Commands allowed realm parsed
  completes : Completes allowed
  close : ∀ client code, allowed (.record (.close client code))
  reset : ∀ client streamId, allowed (.record (.resetSend client streamId))
  relay : ∀ client streamId data isFin, allowed (.writeClient client streamId data isFin .backend)
  pushes : ∀ change, allowed (.pushes change)
  placement : ∀ nodes now, allowed (.placement nodes now)
  outside : ∀ change, allowed (.outside change)

/-- The operations of the steps that no client stream is about. -/
structure Sidelines (allowed : Op → Prop) : Prop extends Bystanders allowed where
  admitClient : ∀ slot ctx handle grant, allowed (.admitClient slot ctx handle grant)
  publish : ∀ slot kind reason, allowed (.publish slot kind reason)
  revoke : ∀ slot reason, allowed (.revoke slot reason)

end GatewayWorker

open GatewayWorker in
theorem Op.Aside.sidelines : Sidelines Op.Aside where
  locals := ⟨fun _ _ => trivial, fun _ _ => trivial⟩
  streams := ⟨fun _ _ _ => trivial, fun _ _ _ => trivial, fun _ _ => trivial, fun _ => trivial,
    fun _ _ _ _ => trivial⟩
  forwards _ _ _ _ := ⟨fun _ => trivial, fun _ => trivial⟩
  commands _ _ := ⟨fun _ _ _ _ _ _ => trivial, fun _ _ _ _ _ => trivial⟩
  completes := ⟨⟨trivial, fun _ _ _ _ => trivial, fun _ _ => trivial⟩,
    fun _ => ⟨fun _ _ _ => trivial, fun _ => trivial⟩⟩
  close _ _ := trivial
  reset _ _ := trivial
  relay _ _ _ _ := trivial
  admitClient _ _ _ _ := trivial
  publish _ _ _ := trivial
  revoke _ _ := trivial
  pushes _ := trivial
  placement _ _ := trivial
  outside _ := trivial

/-- The operation is about one client stream; the other exchanges stay as they are. -/
def Op.Only (slot streamId : Nat) : Op → Prop
  | .conn own change => own = slot ∧ ∀ ctx other, other ≠ streamId →
      (change ctx).inboundExchanges.lookup other = ctx.inboundExchanges.lookup other
  | .accept .. | .remove _ => False
  | _ => True

namespace Op.Only

open GatewayWorker

variable {slot streamId : Nat}

theorem cases {op : Op} (only : op.Only slot streamId) :
    op.Aside ∨ ∃ change, op = .conn slot change ∧ ∀ ctx other, other ≠ streamId →
      (change ctx).inboundExchanges.lookup other = ctx.inboundExchanges.lookup other := by
  cases op with
  | conn own change => exact .inr ⟨change, by rw [only.1], only.2⟩
  | _ => exact .inl only

theorem exchange {op : Op} (only : op.Only slot streamId) {other own : Nat}
    (different : other = slot → own ≠ streamId) (worker : GatewayWorker) :
    (op.apply worker).conns.exchange other own = worker.conns.exchange other own := by
  obtain aside | ⟨change, rfl, others⟩ := only.cases
  · rw [aside.keepsExchanges worker]
  · refine (ConnectionManager.exchange_modify slot other own change).trans ?_
    split
    · rename_i same
      simp only [others _ own (different same), same, ConnectionManager.exchange]
    · rfl

theorem relays : Relays (Op.Only slot streamId) slot streamId (fun _ _ => True) where
  ask := trivial
  reply _ _ := trivial
  reset _ := trivial
  openBackend _ _ _ := trivial
  tables _ _ := trivial
  trackAuth _ _ _ := trivial
  conn _ _ keeps := ⟨rfl, keeps.others⟩
  writeBackend _ _ _ := trivial
  openRoute _ _ _ := trivial
  register _ _ := ⟨rfl, fun _ _ different => AList.lookup_insert_ne different⟩

theorem streams : Streams (Op.Only slot streamId) where
  sessions _ _ _ := trivial
  attach _ _ _ := trivial
  writeSession _ _ := trivial
  abortSession _ := trivial
  deliver _ _ _ _ := trivial

theorem peerPushes (parsed : Frame) : PeerPushes (Op.Only slot streamId) parsed where
  locals := ⟨fun _ _ => trivial, fun _ _ => trivial⟩
  streams := streams
  forwards _ := ⟨fun _ => trivial, fun _ => trivial⟩
  sendPeer _ _ := trivial

end Op.Only

/-- The event is about one client stream or about a connection as a whole. -/
def Event.isRequest : Event → Bool
  | .accept .. | .acceptPeer _ | .close .. | .frame .. | .frameSpill .. | .finish .. | .reset .. =>
      true
  | _ => false

/-- The event is about the admission of a connection. -/
def Event.changesAdmission : Event → Bool
  | .authResponse .. | .expireAdmission .. | .refreshLease .. => true
  | _ => false

namespace GatewayWorker

variable {worker : GatewayWorker} {event : Event}

/-- A step that is about no client stream is made of operations on the side, unless it reports to a
backend or discards streams. -/
theorem step_bystanders {allowed : Op → Prop} (bystanders : Bystanders allowed)
    (sidelines : event.changesAdmission = true → Sidelines allowed)
    (other : event.isRequest = false) (push : ∀ key realm parsed, event ≠ .pushFrame key realm parsed)
    (expiry : ∀ now, event ≠ .expireInflight now) :
    Via allowed worker (worker.step event) := by
  have answers := bystanders.completes.answers
  cases event with
  | accept | acceptPeer | close | frame | frameSpill | finish | reset => cases other
  | pushFrame key realm parsed => exact absurd rfl (push key realm parsed)
  | expireInflight now => exact absurd rfl (expiry now)
  | violate slot => exact violate_via fun _ => bystanders.close _ _
  | closeIfRequested slot =>
      simp only [step, closeIfRequested]
      split
      · exact .refl
      split
      · exact Via.op (bystanders.close _ _) rfl
      · exact .refl
  | stop slot streamId =>
      simp only [step, stopClientOutput]
      split
      · exact .refl
      · exact (tables_via answers
          (.comp (.suppressClientResponse _ streamId) (.suppressAuthResponse _ streamId))).trans
          (Via.op (bystanders.reset _ streamId) rfl)
  | datagram handle data =>
      simp only [step, handleEphemeral]
      split
      · exact .refl
      split
      · exact .refl
      split
      · exact .refl
      split
      · exact .refl
      · exact fanOutUnreliable_via bystanders.locals (bystanders.forwards ..)
  | pushSpill key known spill => exact keepPush_via answers.ask bystanders.pushes
  | pushDrop key => exact Via.op (bystanders.pushes fun pushes => pushes.erase key) rfl
  | pushEnd key => exact abortBackendPush_via bystanders.streams bystanders.pushes
  | authResponse key data isFin =>
      exact collectAuthResponse_via bystanders.completes
        (fun _ _ _ _ _ _ _ _ _ _ => (sidelines rfl).admitClient _ _ _ _)
        fun _ _ _ _ _ _ _ _ _ _ => bystanders.close _ _
  | response key data isFin =>
      simp only [step]
      split
      · exact .refl
      · exact relayResponse_via answers bystanders.relay
  | streamControl key reason peerInitiated =>
      exact handleBackendStreamControl_via answers bystanders.streams bystanders.pushes
  | transportFailed transport selector => exact failTransportRequests_via answers
  | handoff =>
      simp only [step, popHandoff]
      split
      · exact .refl
      · rename_i message router popped
        refine Run.Reaches.trans (Via.op (bystanders.outside (.router router)) rfl) ?_
        unfold deliverHandoff
        split
        · exact deliverStreamingHandoff_via bystanders.streams
        · exact deliverOneShot_via bystanders.locals (bystanders.forwards ..)
            fun parsed _ _ _ => bystanders.commands message.realm parsed
  | purgeSessions now => exact purgeExpiredSessions_via bystanders.streams
  | expireAdmission slot now => exact expireAdmission_via fun _ _ _ _ _ => (sidelines rfl).revoke _ _
  | refreshLease slot now => exact refreshLease_via fun _ _ _ => (sidelines rfl).publish _ _ _
  | rehome slot =>
      exact rehome_via (bystanders.completes.redirects slot) fun _ _ _ _ _ => bystanders.close _ _
  | placement nodes now => exact Via.op (bystanders.placement nodes now) rfl
  | outside change => exact Via.op (bystanders.outside change) rfl

theorem step_sidelines {allowed : Op → Prop} (sidelines : Sidelines allowed)
    (other : event.isRequest = false) (push : ∀ key realm parsed, event ≠ .pushFrame key realm parsed)
    (expiry : ∀ now, event ≠ .expireInflight now) : Via allowed worker (worker.step event) :=
  step_bystanders sidelines.toBystanders (fun _ => sidelines) other push expiry

theorem step_aside (other : event.isRequest = false) :
    Via Op.Aside worker (worker.step event) := by
  have sidelines := Op.Aside.sidelines
  by_cases push : ∃ key realm parsed, event = .pushFrame key realm parsed
  · obtain ⟨key, realm, parsed, rfl⟩ := push
    exact onPushFrame_via sidelines.locals sidelines.streams (fun _ _ => trivial)
      (sidelines.forwards ..) (fun _ => trivial) (fun _ => trivial) (fun _ _ _ => sidelines.commands realm parsed)
      fun _ => trivial
  by_cases expiry : ∃ now, event = .expireInflight now
  · obtain ⟨now, rfl⟩ := expiry
    exact expireInflight_via sidelines.completes.answers fun _ => trivial
  · simp only [not_exists] at push expiry
    exact step_sidelines sidelines other push expiry

open Op.Only in
/-- A frame of a client stream, its end or its reset leaves the other streams alone. -/
theorem exchange_others {slot streamId : Nat}
    (about : (∃ parsed, event = .frame slot streamId parsed) ∨ event = .finish slot streamId ∨
      event = .reset slot streamId)
    {other own : Nat} (different : other = slot → own ≠ streamId) :
    (worker.step event).conns.exchange other own = worker.conns.exchange other own := by
  have via : Via (Op.Only slot streamId) worker (worker.step event) := by
    obtain ⟨parsed, rfl⟩ | rfl | rfl := about
    · exact dispatchFrame_via relays (fun _ _ _ _ => trivial) (peerPushes parsed) (fun _ _ => trivial)
        (fun _ => ⟨rfl, fun _ _ _ => rfl⟩)
        ⟨rfl, fun _ _ different => Table.lookup_adjust_ne different _⟩
    · exact finishClientStream_via relays streams
    · exact resetClientInput_via relays streams
  exact via.preserves (fun worker => worker.conns.exchange other own) fun worker _ only =>
    only.exchange different worker

theorem exchange_step (other : event.isRequest = false) :
    (worker.step event).conns.exchange = worker.conns.exchange :=
  Via.exchange ((step_aside other).mono fun _ _ => Op.Aside.keepsExchanges)

theorem exchange_addConnection (indexed : worker.conns.Indexed) (kind : TransportKind)
    (realm : RealmId) (peerNode : Bool) :
    (worker.addConnection kind realm peerNode).conns.exchange = worker.conns.exchange := by
  unfold addConnection
  simp only
  split
  · rfl
  · rename_i added
    exact ConnectionManager.exchange_addSession indexed added

theorem exchange_frameSpill (slot streamId : Nat) (known : Bool) (spill : Bytes) :
    (worker.step (.frameSpill slot streamId known spill)).conns.exchange =
      worker.conns.exchange := by
  have violated (worker : GatewayWorker) :
      (worker.violate slot).conns.exchange = worker.conns.exchange :=
    Via.exchange (@violate_via worker Op.KeepsExchanges slot fun _ _ => rfl)
  simp only [step, keepFrameSpill]
  split
  · refine ConnectionManager.exchange_modify_of_same slot fun ctx => ?_
    split <;> rfl
  split
  · rfl
  split <;> rename_i answer
  · exact violated worker.ask.2
  · obtain rfl : worker.ask.2 = _ := congrArg Prod.snd answer
    exact ConnectionManager.exchange_modify_of_same slot fun _ => rfl

/-- A connection that is closed has no exchanges any more; the others keep theirs. -/
theorem exchange_close (handle : SessionHandle) (reason : SessionReason) (slot streamId : Nat) :
    (worker.closeClientSession handle reason).conns.exchange slot streamId =
      if worker.conns.slotFor handle = some slot then none
      else worker.conns.exchange slot streamId := by
  unfold closeClientSession
  split
  · rename_i unknown
    rw [unknown, if_neg nofun]
  rename_i own known
  obtain ⟨-, -, ctx, found⟩ := ConnectionManager.slotFor_eq_some known
  have held : worker.context own = some ctx := found
  simp only [held]
  have published := @addressing_publishOffline worker own (ctx.offlineReason.getD reason)
  have apart := @Via.exchange worker _ ((@publishOffline_via Op.Aside worker own
    (ctx.offlineReason.getD reason) trivial).mono fun _ _ => Op.Aside.keepsExchanges)
  generalize worker.publishOffline own (ctx.offlineReason.getD reason) = offline
    at published apart ⊢
  have finished : (offline.finishOpenExchanges ctx).conns = offline.conns :=
    (@finishOpenExchanges_via (fun op => ∀ worker, (op.apply worker).conns = worker.conns) offline
      ctx fun _ _ _ => rfl).preserves (fun worker => worker.conns) fun worker _ same => same worker
  rw [finished, ConnectionManager.exchange_removeSession, apart,
    ConnectionManager.slotFor_of_addressing published, known]

end GatewayWorker

def ConnectionManager.SoundAt (manager : ConnectionManager) (slot streamId : Nat) : Prop :=
  ∀ active, manager.exchange slot streamId = some active → active.Sound

def ConnectionManager.Sound (manager : ConnectionManager) : Prop :=
  ∀ slot streamId, manager.SoundAt slot streamId

def Op.KeepsSound (slot streamId : Nat) (op : Op) : Prop :=
  ∀ worker, worker.conns.SoundAt slot streamId → (op.apply worker).conns.SoundAt slot streamId

namespace Op.KeepsSound

open GatewayWorker

variable {slot streamId : Nat}

theorem of_aside {op : Op} (aside : op.Aside) : op.KeepsSound slot streamId := by
  intro worker sound active found
  rw [aside.keepsExchanges worker] at found
  exact sound active found

theorem conn {change : ConnectionContext → ConnectionContext}
    (keeps : ∀ ctx, ctx.SoundAt streamId → (change ctx).SoundAt streamId) :
    (Op.conn slot change).KeepsSound slot streamId := by
  intro worker sound active found
  replace found := (ConnectionManager.exchange_modify slot slot streamId change).symm.trans found
  rw [if_pos rfl] at found
  obtain ⟨ctx, held, listed⟩ := Option.bind_eq_some_iff.mp found
  refine keeps ctx (fun own same => sound own ?_) active listed
  rw [ConnectionManager.exchange_of_context held, same]

theorem relays : Relays (Op.KeepsSound slot streamId) slot streamId (fun _ _ => True) where
  ask := of_aside trivial
  reply _ _ := of_aside trivial
  reset _ := of_aside trivial
  openBackend _ _ _ := of_aside trivial
  tables _ _ := of_aside trivial
  trackAuth _ _ _ := of_aside trivial
  conn _ _ keeps := conn keeps.sound
  writeBackend _ _ _ := of_aside trivial
  openRoute _ _ _ := of_aside trivial
  register entry sound := conn fun ctx _ active found => by
    simp only [ConnectionContext.registerInboundExchange, AList.lookup_insert,
      Option.some.injEq] at found
    exact found ▸ sound

theorem streams : Streams (Op.KeepsSound slot streamId) where
  sessions _ _ _ := of_aside trivial
  attach _ _ _ := of_aside trivial
  writeSession _ _ := of_aside trivial
  abortSession _ := of_aside trivial
  deliver _ _ _ _ := of_aside trivial

theorem peerPushes (parsed : Frame) : PeerPushes (Op.KeepsSound slot streamId) parsed where
  locals := ⟨fun _ _ => of_aside trivial, fun _ _ => of_aside trivial⟩
  streams := streams
  forwards _ := ⟨fun _ => of_aside trivial, fun _ => of_aside trivial⟩
  sendPeer _ _ := of_aside trivial

end Op.KeepsSound

namespace GatewayWorker

variable {worker : GatewayWorker}

theorem Via.soundAt {after : GatewayWorker} {slot streamId : Nat}
    (via : Via (Op.KeepsSound slot streamId) worker after)
    (sound : worker.conns.SoundAt slot streamId) : after.conns.SoundAt slot streamId :=
  @Run.Reaches.invariant _ _ _ _ _ _ (fun worker => worker.conns.SoundAt slot streamId)
    (fun worker _ sound keeps => keeps worker sound) via sound

/-- The exchange of a push has no backend stream, so its end leaves it sound. -/
theorem soundAt_continueSessionFrame {slot streamId : Nat} {active : InboundExchange}
    {parsed : Frame} (held : worker.conns.exchange slot streamId = some active)
    (push : active.pushSession ≠ 0) (sound : worker.conns.SoundAt slot streamId) :
    (worker.continueSessionFrame slot streamId active parsed).conns.SoundAt slot streamId := by
  have same : (worker.continuePeerSession active.pushSession parsed).conns.exchange =
      worker.conns.exchange :=
    Via.exchange ((continuePeerSession_via Op.Aside.sidelines.streams).mono fun _ _ =>
      Op.Aside.keepsExchanges)
  have free : active.backend = none :=
    (sound active held).resolve_right fun request => push request.2
  unfold continueSessionFrame
  generalize worker.continuePeerSession active.pushSession parsed = continued at same ⊢
  rw [← same] at held
  simp only
  intro own found
  split at found
  · replace found :=
      (ConnectionManager.exchange_modify slot slot streamId _).symm.trans found
    rw [if_pos rfl] at found
    obtain ⟨ctx, context, listed⟩ := Option.bind_eq_some_iff.mp found
    simp only [ConnectionContext.adjustExchange, Table.lookup_adjust,
      Option.map_eq_some_iff] at listed
    obtain ⟨old, known, rfl⟩ := listed
    rw [ConnectionManager.exchange_of_context context, known, Option.some.injEq] at held
    exact .inl (held ▸ free)
  · exact sound own (same ▸ found)

theorem soundAt_frame {slot streamId : Nat} (parsed : Frame)
    (sound : worker.conns.SoundAt slot streamId) :
    (worker.step (.frame slot streamId parsed)).conns.SoundAt slot streamId := by
  simp only [step, dispatchFrame]
  split
  · exact sound
  rename_i ctx found
  split
  · rename_i active listed
    split
    · exact sound
    split
    · exact sound
    split
    · rename_i push
      refine soundAt_continueSessionFrame ?_ push sound
      rw [ConnectionManager.exchange_of_context found, listed]
    · exact Via.soundAt (appendToExchange_via Op.KeepsSound.relays) sound
  split
  · exact Via.soundAt (openInboundExchange_via Op.KeepsSound.relays (fun _ _ => trivial)
      (Op.KeepsSound.peerPushes parsed) (.of_aside trivial) fun _ => .conn fun _ kept => kept) sound
  · exact sound

theorem step_sound (indexed : worker.conns.Indexed) (sound : worker.conns.Sound) (event : Event) :
    (worker.step event).conns.Sound := by
  have of_same {after : GatewayWorker} (same : after.conns.exchange = worker.conns.exchange) :
      after.conns.Sound := by
    intro slot streamId active found
    exact sound slot streamId active (same ▸ found)
  have of_own {slot streamId : Nat}
      (about : (∃ parsed, event = .frame slot streamId parsed) ∨ event = .finish slot streamId ∨
        event = .reset slot streamId)
      (own : (worker.step event).conns.SoundAt slot streamId) :
      (worker.step event).conns.Sound := by
    intro other stream
    by_cases same : other = slot ∧ stream = streamId
    · obtain ⟨rfl, rfl⟩ := same
      exact own
    · intro active found
      rw [exchange_others about fun here there => same ⟨here, there⟩] at found
      exact sound other stream active found
  cases requests : event.isRequest with
  | false => exact of_same (exchange_step requests)
  | true =>
      cases event with
      | accept kind accepting resolved =>
          simp only [step, acceptClientSession]
          split
          · exact of_same (exchange_addConnection indexed _ _ _)
          · exact sound
      | acceptPeer accepting =>
          simp only [step, handlePeerConnection]
          split
          · exact of_same (exchange_addConnection indexed _ _ _)
          · exact sound
      | close handle reason =>
          intro slot streamId active found
          rw [step, exchange_close] at found
          split at found
          · cases found
          · exact sound slot streamId active found
      | frame slot streamId parsed =>
          exact of_own (.inl ⟨parsed, rfl⟩) (soundAt_frame parsed (sound slot streamId))
      | frameSpill slot streamId known spill =>
          exact of_same (exchange_frameSpill slot streamId known spill)
      | finish slot streamId =>
          exact of_own (.inr (.inl rfl)) (Via.soundAt (finishClientStream_via
            Op.KeepsSound.relays Op.KeepsSound.streams) (sound slot streamId))
      | reset slot streamId =>
          exact of_own (.inr (.inr rfl)) (Via.soundAt (resetClientInput_via
            Op.KeepsSound.relays Op.KeepsSound.streams) (sound slot streamId))
      | _ => cases requests

theorem init_sound (config : Config) (router : MessageRouter) (fate : Nat → Bool) :
    (GatewayWorker.init config router fate).conns.Sound :=
  fun _ _ _ found => nomatch found

end GatewayWorker

end LyuneGateway.Worker
