import LyuneGateway.Worker.Aloof
import LyuneGateway.Worker.Channels

/-!
# Whom responses are for

An entry of the tables of requests in flight names the session that made the
request. Only a live session makes entries, on streams that are opened for it,
and a session is purged from the tables before its slot is given back. So whoever
waits for a response is there, and nobody gets the response of another.
-/

namespace LyuneGateway.Worker

open Foundation Io Protocol Session

namespace Tables

variable {tables after : Tables} {key other : StreamKey} {session : SessionHandle}

/-- A session waits for what a backend sends on a stream. -/
def Awaits (tables : Tables) (key : StreamKey) (session : SessionHandle) : Prop :=
  (∃ route response, tables.routes.lookup key = some route ∧
    route.target = .client response ∧ response.session = session) ∨
  ∃ pending, tables.auths.lookup key = some pending ∧ pending.clientSession = session

namespace Awaits

theorem of_derives (routes : tables.routes.Derives Route.Becomes after.routes)
    (auths : tables.auths.Derives PendingAuth.Becomes after.auths)
    (awaits : after.Awaits key session) : tables.Awaits key session := by
  obtain ⟨route, response, found, target, same⟩ | ⟨pending, found, same⟩ := awaits
  · obtain ⟨old, held, -, kept | lost⟩ := routes key route found
    · exact .inl ⟨old, response, held, kept ▸ target, same⟩
    · rw [lost] at target
      cases target
  · obtain ⟨old, held, kept, -⟩ := auths key pending found
    exact .inr ⟨old, held, kept ▸ same⟩

theorem of_openRoute {route : Route} (awaits : (tables.openRoute key route).Awaits other session) :
    tables.Awaits other session ∨ other = key ∧
      ∃ response, route.target = .client response ∧ response.session = session := by
  obtain ⟨found, response, listed, target, same⟩ | waiting := awaits
  · rw [openRoute_routes] at listed
    obtain ⟨here, rfl⟩ | ⟨-, earlier⟩ := Table.lookup_insert_cases listed
    · exact .inr ⟨here, response, target, same⟩
    · exact .inl (.inl ⟨found, response, earlier, target, same⟩)
  · rw [openRoute_auths] at waiting
    exact .inl (.inr waiting)

theorem of_trackAuth {pending : PendingAuth}
    (awaits : (tables.trackAuth key pending).Awaits other session) :
    tables.Awaits other session ∨ other = key ∧ pending.clientSession = session := by
  obtain waiting | ⟨found, listed, same⟩ := awaits
  · rw [trackAuth_routes] at waiting
    exact .inl (.inl waiting)
  · rw [trackAuth_auths] at listed
    obtain ⟨here, rfl⟩ | ⟨-, earlier⟩ := Table.lookup_insert_cases listed
    · exact .inr ⟨here, same⟩
    · exact .inl (.inr ⟨found, earlier, same⟩)

/-- Nobody waits under a handle that has been purged. -/
theorem of_purge {gone : SessionHandle} (awaits : (tables.purge gone).Awaits key session) :
    session ≠ gone ∧ tables.Awaits key session := by
  have narrows := Narrows.purge gone
  refine ⟨?_, awaits.of_derives (narrows.routes tables) (narrows.auths tables)⟩
  rintro rfl
  obtain ⟨route, response, found, target, rfl⟩ | ⟨pending, found, rfl⟩ := awaits
  · have kept := (Table.lookup_keep_eq_some.mp found).2
    simp [target] at kept
  · have kept := (Table.lookup_keep_eq_some.mp found).2
    simp at kept

end Awaits

theorem not_awaits_init : ¬ Tables.init.Awaits key session := by
  rintro (⟨route, response, found, -⟩ | ⟨pending, found, -⟩) <;> cases found

end Tables

namespace ConnectionManager

variable {manager after : ConnectionManager} {handle : SessionHandle}

/-- The client of a live session. -/
def client (manager : ConnectionManager) (handle : SessionHandle) : Option Nat :=
  (manager.getByHandle handle).map fun ctx => ctx.transport.ptr

/-- Whoever is live stays so, and is the same client. -/
def ClientsStay (manager after : ConnectionManager) : Prop :=
  ∀ handle client, manager.client handle = some client → after.client handle = some client

theorem ClientsStay.of_tokens (tokens : ∀ token, after.byToken token = manager.byToken token)
    (clients : manager.SameClients after) : manager.ClientsStay after := by
  intro handle client known
  obtain ⟨ctx, found, rfl⟩ := Option.map_eq_some_iff.mp known
  obtain ⟨resolved, held⟩ := getByHandle_eq_some found
  have named := tokens {
    nodeId := manager.nodeId
    workerId := manager.workerId
    slot := handle.slot
    generation := handle.generation
    incarnation := manager.incarnation }
  have own : after.slotFor handle = some handle.slot := by
    simp only [byToken, ne_eq, not_true_eq_false, or_self, ↓reduceIte] at named
    split at named
    · cases named.trans resolved
    · exact named.trans resolved
  obtain ⟨-, -, later, present⟩ := slotFor_eq_some own
  obtain ⟨old, known, same⟩ := clients handle.slot later present
  obtain rfl := Option.some.inj (held.symm.trans known)
  simp [ConnectionManager.client, getByHandle, own, present, same]

theorem client_eq_some (indexed : manager.Indexed) {client : Nat} :
    manager.client handle = some client ↔ ∃ ctx, manager.context handle.slot = some ctx ∧
      ctx.sessionHandle = handle ∧ ctx.transport.ptr = client := by
  constructor
  · intro known
    obtain ⟨ctx, found, same⟩ := Option.map_eq_some_iff.mp known
    obtain ⟨resolved, held⟩ := getByHandle_eq_some found
    exact ⟨ctx, held, indexed.handle_of_slotFor resolved held, same⟩
  · rintro ⟨ctx, held, rfl, rfl⟩
    rw [ConnectionManager.client, indexed.getByHandle held]
    rfl

theorem ClientsStay.addSession (indexed : manager.Indexed) {transport : TransportSession}
    {realm : RealmId} {peerNode : Bool} {now : Nat}
    (added : manager.addSession transport realm peerNode now = .ok (handle, after)) :
    manager.ClientsStay after := by
  intro own client known
  obtain ⟨ctx, held, name⟩ := (client_eq_some indexed).mp known
  refine (client_eq_some (indexed.addSession added)).mpr ⟨ctx, ?_, name⟩
  obtain ⟨slot, rest, free, -, -, holds, -⟩ := addSession_eq_ok added
  rw [holds, Function.update_of_ne, held]
  intro here
  rw [here, (indexed.free slot (free ▸ List.mem_cons_self)).1] at held
  cases held

/-- Taking out one session leaves the others alone. -/
theorem client_removeSession (indexed : manager.Indexed) {gone : SessionHandle} {client : Nat}
    (different : handle ≠ gone) (known : manager.client handle = some client) :
    (manager.removeSession gone).client handle = some client := by
  obtain ⟨ctx, held, name, same⟩ := (client_eq_some indexed).mp known
  refine (client_eq_some (indexed.removeSession gone)).mpr ⟨ctx, ?_, name, same⟩
  unfold removeSession
  split
  · exact held
  rename_i slot resolved
  obtain ⟨rfl, -, own, present⟩ := slotFor_eq_some resolved
  rw [context_releaseSlot present, Function.update_of_ne, held]
  intro here
  rw [here] at held
  exact different (name.symm.trans (indexed.handle_of_slotFor resolved held))

end ConnectionManager

namespace GatewayWorker

/-- Whoever is live stays so, and sessions that did not wait before do so only where `owns` holds,
on streams that have been opened. -/
structure Honours (owns : StreamKey → SessionHandle → Prop) (worker after : GatewayWorker) :
    Prop where
  clients : worker.conns.ClientsStay after.conns
  grows : worker.nextBackendStream ≤ after.nextBackendStream
  awaits : ∀ key session, after.inflight.Awaits key session →
    worker.inflight.Awaits key session ∨ owns key session ∧ ¬ after.Unopened key

namespace Honours

open ConnectionManager

variable {owns : StreamKey → SessionHandle → Prop} {worker middle after : GatewayWorker}

theorem refl : Honours owns worker worker where
  clients _ _ known := known
  grows := le_rfl
  awaits _ _ := .inl

theorem trans (first : Honours owns worker middle) (second : Honours owns middle after) :
    Honours owns worker after where
  clients handle client known := second.clients handle client (first.clients handle client known)
  grows := first.grows.trans second.grows
  awaits key session waits := by
    obtain earlier | new := second.awaits key session waits
    · refine (first.awaits key session earlier).imp_right fun ⟨own, opened⟩ => ⟨own, fun later => ?_⟩
      exact opened (le_trans (Nat.mul_le_mul_left 2 second.grows) later)
    · exact .inr new

theorem of_via (via : Via (fun op => ∀ worker, Honours owns worker (op.apply worker)) worker after) :
    Honours owns worker after :=
  @Run.Reaches.invariant _ _ _ _ _ _ (fun other => Honours owns worker other)
    (fun other _ sofar honours => sofar.trans (honours other)) via refl

theorem of_same (conns : after.conns = worker.conns) (inflight : after.inflight = worker.inflight)
    (grows : worker.nextBackendStream ≤ after.nextBackendStream) : Honours owns worker after where
  clients _ _ known := conns ▸ known
  grows := grows
  awaits _ _ waits := .inl (inflight ▸ waits)

theorem of_aloof (aloof : Aloof worker after) (clients : worker.conns.ClientsStay after.conns) :
    Honours owns worker after where
  clients := clients
  grows := aloof.next.ge
  awaits _ _ waits := .inl (waits.of_derives aloof.routes aloof.auths)

theorem of_addressing (aloof : Aloof worker after)
    (same : after.conns.addressing = worker.conns.addressing) : Honours owns worker after :=
  of_aloof aloof (.of_tokens (byToken_of_addressing same) (.of_addressing same))

theorem record (action : Action) : Honours owns worker (worker.record action) :=
  of_same rfl rfl le_rfl

theorem modifyConn (slot : Nat) {change : ConnectionContext → ConnectionContext}
    (keeps : ∀ ctx, (change ctx).transport.ptr = ctx.transport.ptr) :
    Honours owns worker (worker.modifyConn slot change) where
  clients := .of_tokens (byToken_modify slot change) (.modify slot keeps)
  grows := le_rfl
  awaits _ _ := .inl

theorem bindDest (handle : SessionHandle) (destId : Nat) :
    Honours owns worker (worker.bindDest handle destId) where
  clients := .of_tokens (byToken_bindDest handle destId) (.bindDest handle destId)
  grows := le_rfl
  awaits _ _ := .inl

/-- A new entry is for a stream that has been opened. -/
theorem track (key : StreamKey) (change : Tables → Tables)
    (may : ∀ tables other session, (change tables).Awaits other session →
      tables.Awaits other session ∨ other = key ∧ owns key session) :
    Honours owns worker (worker.track key change) where
  clients _ _ known := known
  grows := le_rfl
  awaits other session waits := by
    unfold GatewayWorker.track at waits
    simp only at waits
    split at waits
    · rename_i opened
      refine (may worker.inflight other session waits).imp_right ?_
      rintro ⟨rfl, own⟩
      exact ⟨own, not_le.mpr opened⟩
    · exact .inl waits

theorem publish (slot : Nat) (kind : EventKind) (reason : SessionReason) :
    Honours owns worker (worker.publish slot kind reason) := by
  refine of_via (publish_via ⟨?_, ?_, ?_, ?_⟩ ?_)
  · exact fun _ _ => modifyConn slot fun _ => rfl
  · exact fun _ _ _ => of_same rfl rfl (Nat.le_succ _)
  · exact fun _ => of_same rfl rfl le_rfl
  · refine fun key route discards worker =>
      track key (fun tables => tables.openRoute key route) fun tables other session waits => ?_
    refine waits.of_openRoute.imp_right ?_
    rintro ⟨-, response, target, -⟩
    rw [discards] at target
    cases target
  · exact fun _ _ _ => record _

theorem revokes (slot : Nat) (handle : SessionHandle) :
    Revokes (fun op => ∀ worker, Honours owns worker (op.apply worker)) slot handle
    where
  publish reason _ := publish slot .offline reason
  revoke _ := modifyConn slot fun _ => rfl
  unbind _ := bindDest handle 0

theorem revokeAdmission (slot : Nat) (reason : SessionReason) :
    Honours owns worker (worker.revokeAdmission slot reason) := by
  cases found : worker.context slot with
  | none =>
      simp only [GatewayWorker.revokeAdmission, found]
      exact refl
  | some ctx => exact of_via (revokeAdmission_via found (revokes slot ctx.sessionHandle))

theorem openClient (slot : Nat) (data : Bytes) (isFin : Bool) (author : Author) :
    Honours owns worker (worker.openClient slot data isFin author).2 :=
  of_addressing (.openClient slot data isFin author)
    (addressing_openClient slot data isFin author)

theorem kickOne (realm : RealmId) (token : ConnToken) :
    Honours owns worker (worker.kickOne realm token).2 := by
  refine of_via (kickOne_via
    (fun slot ctx _ _ _ => revokes slot ctx.sessionHandle) ?_ ?_)
  · exact fun slot data _ => openClient slot data true .gateway
  · exact fun _ _ _ _ _ _ => record _

theorem admitSession (slot : Nat) (ctx : ConnectionContext) (handle : SessionHandle)
    (grant : AuthGrant) : Honours owns worker (worker.admitSession slot ctx handle grant) := by
  refine of_via (admitSession_via ⟨?_, ?_, ?_, ?_⟩)
  · exact fun reason _ => publish slot .offline reason
  · exact fun _ => publish slot .online .authenticated
  · exact fun _ _ => modifyConn slot fun _ => rfl
  · exact fun _ => bindDest handle grant.destId

theorem resolveBind (slot : Nat) (ctx : ConnectionContext) (parsed : Frame) :
    Honours owns worker (worker.resolveBind slot ctx parsed).2 := by
  unfold GatewayWorker.resolveBind
  split
  · exact refl
  split
  · exact refl
  split
  · exact refl
  · exact modifyConn slot fun _ => rfl

end Honours

end GatewayWorker

/-- The operation takes no connection in or out, and makes entries only where `owns` holds. -/
def Op.Honours (owns : StreamKey → SessionHandle → Prop) : Op → Prop
  | .conn _ change => ∀ ctx, (change ctx).transport.ptr = ctx.transport.ptr
  | .tables change => Tables.Narrows change
  | .track key change => ∀ tables other session, (change tables).Awaits other session →
      tables.Awaits other session ∨ other = key ∧ owns key session
  | .accept .. | .remove _ => False
  | _ => True

open GatewayWorker ConnectionManager in
theorem Op.Honours.honours {owns : StreamKey → SessionHandle → Prop} {op : Op}
    (may : op.Honours owns) (worker : GatewayWorker) :
    GatewayWorker.Honours owns worker (op.apply worker) := by
  cases op with
  | openClient slot data isFin author => exact .openClient slot data isFin author
  | openBackend transport data isFin => exact .of_same rfl rfl (Nat.le_succ _)
  | writeLocal bytes isLast target =>
      exact .of_addressing (.writeLocal bytes isLast target)
        (congrArg _ (conns_writeLocal bytes isLast target))
  | resetLocal target => exact .of_addressing (.resetLocal target) (congrArg _ (conns_resetLocal target))
  | attach slot target bytes =>
      exact .of_addressing (.attachOne slot target bytes) (addressing_attachOne slot target bytes)
  | writeSession slot parsed =>
      exact .of_addressing (.writeSessionFrame slot parsed) (addressing_writeSessionFrame slot parsed)
  | abortSession slot => exact .of_addressing (.abortSession slot) (addressing_abortSession slot)
  | deliver workerId realm session bytes =>
      exact .of_addressing (.deliver workerId realm session bytes) (congrArg _ (conns_deliver ..))
  | sendPeer nodeId realm bytes streaming =>
      exact .of_addressing (.sendPeer nodeId realm bytes streaming) (congrArg _ (conns_sendPeer ..))
  | sendPeerOn stream bytes isLast =>
      exact .of_addressing (.sendPeerOn stream bytes isLast) (congrArg _ (conns_sendPeerOn ..))
  | resetPeer stream => exact .of_addressing (.resetPeer stream) (congrArg _ (conns_resetPeer stream))
  | conn slot change => exact .modifyConn slot may
  | bindDest handle destId => exact .bindDest handle destId
  | bind slot ctx parsed => exact .resolveBind slot ctx parsed
  | group realm join groupId token =>
      exact .of_aloof (.applyGroupChange realm join groupId token)
        (.of_tokens (narrows_applyGroupChange realm join groupId token).tokens
          (sameClients_applyGroupChange realm join groupId token))
  | kick realm token => exact .kickOne realm token
  | publish slot kind reason => exact .publish slot kind reason
  | revoke slot reason => exact .revokeAdmission slot reason
  | admitClient slot ctx handle grant => exact .admitSession slot ctx handle grant
  | tables change => exact .of_aloof (.tables may) fun _ _ known => known
  | track key change => exact .track key change may
  | placement nodes now =>
      exact .of_addressing (.refreshPlacement nodes now) (congrArg _ (conns_refreshPlacement nodes now))
  | outside change => exact .of_addressing (.changeOutside change) (congrArg _ (conns_changeOutside change))
  | accept | remove => exact may.elim
  | _ => exact .of_same rfl rfl le_rfl

namespace Op.Honours

open GatewayWorker

variable {owns : StreamKey → SessionHandle → Prop}

theorem sidelines : Sidelines (Op.Honours owns) where
  locals := ⟨fun _ _ => trivial, fun _ _ => trivial⟩
  streams := ⟨fun _ _ _ => trivial, fun _ _ _ => trivial, fun _ _ => trivial, fun _ => trivial,
    fun _ _ _ _ => trivial⟩
  forwards _ _ _ _ := ⟨fun _ => trivial, fun _ => trivial⟩
  commands _ _ := ⟨fun _ _ _ _ _ _ => trivial, fun _ _ _ _ _ => trivial⟩
  completes := ⟨⟨trivial, fun _ _ _ _ => trivial, fun _ narrows => narrows⟩,
    fun _ => ⟨fun _ _ _ => trivial, fun _ => trivial⟩⟩
  close _ _ := trivial
  reset _ _ := trivial
  relay _ _ _ _ := trivial
  admitClient _ _ _ _ := trivial
  publish _ _ _ := trivial
  revoke _ _ := trivial
  pushes _ := trivial
  placement _ _ := trivial
  outside _ := trivial

theorem relays (slot streamId : Nat) : Relays (Op.Honours owns) slot streamId owns where
  ask := trivial
  reply _ _ := trivial
  reset _ := trivial
  openBackend _ _ _ := trivial
  tables _ narrows := narrows
  trackAuth key pending waits := by
    intro tables other session awaits
    refine awaits.of_trackAuth.imp_right ?_
    rintro ⟨here, rfl⟩
    exact ⟨here, waits.session⟩
  conn _ keeps _ ctx := congrArg TransportSession.ptr (keeps ctx).2
  writeBackend _ _ _ := trivial
  openRoute key route serves := by
    intro tables other session awaits
    refine awaits.of_openRoute.imp_right ?_
    rintro ⟨here, response, target, rfl⟩
    exact ⟨here, (serves response target).1⟩
  register _ _ _ := rfl

theorem peerPushes (parsed : Frame) : PeerPushes (Op.Honours owns) parsed where
  locals := sidelines.locals
  streams := sidelines.streams
  forwards realm := sidelines.forwards realm 0 parsed.bytes false
  sendPeer _ _ := trivial

end Op.Honours

/-- The session whose request an event is waits for the answer on a stream that is new. -/
def Event.Opens (worker : GatewayWorker) (event : Event) (key : StreamKey)
    (session : SessionHandle) : Prop :=
  worker.Unopened key ∧ ∃ slot streamId parsed ctx, event = .frame slot streamId parsed ∧
    worker.context slot = some ctx ∧ ctx.sessionHandle = session

namespace GatewayWorker

open ConnectionManager

variable {worker after : GatewayWorker} {event : Event}

theorem Honours.of_honours {owns : StreamKey → SessionHandle → Prop}
    (via : Via (Op.Honours owns) worker after) : Honours owns worker after :=
  .of_via (via.mono fun _ _ may => Op.Honours.honours may)

theorem honours_addConnection {owns : StreamKey → SessionHandle → Prop}
    (indexed : worker.conns.Indexed) (kind : TransportKind) (realm : RealmId) (peerNode : Bool) :
    Honours owns worker (worker.addConnection kind realm peerNode) := by
  unfold addConnection
  simp only
  split
  · exact .of_same rfl rfl le_rfl
  · rename_i added
    exact ⟨.addSession indexed added, le_rfl, fun _ _ => .inl⟩

open Op.Honours in
/-- Only a frame makes entries, and only the end of a connection takes it out. -/
theorem step_honours (indexed : worker.conns.Indexed)
    (stays : ∀ handle reason, event ≠ .close handle reason) :
    Honours (event.Opens worker) worker (worker.step event) := by
  cases requests : event.isRequest with
  | false =>
      by_cases push : ∃ key realm parsed, event = .pushFrame key realm parsed
      · obtain ⟨key, realm, parsed, rfl⟩ := push
        exact .of_honours (onPushFrame_via sidelines.locals sidelines.streams (fun _ _ => trivial)
          (sidelines.forwards ..) (fun _ => trivial) (fun _ => trivial)
          (fun _ _ _ => sidelines.commands realm parsed) fun _ => trivial)
      by_cases expiry : ∃ now, event = .expireInflight now
      · obtain ⟨now, rfl⟩ := expiry
        exact .of_honours (expireInflight_via sidelines.completes.answers fun _ => trivial)
      · simp only [not_exists] at push expiry
        exact .of_honours (step_sidelines sidelines requests push expiry)
  | true =>
      cases event with
      | accept kind accepting resolved =>
          simp only [step, acceptClientSession]
          split
          · exact honours_addConnection indexed _ _ _
          · exact .refl
      | acceptPeer accepting =>
          simp only [step, handlePeerConnection]
          split
          · exact honours_addConnection indexed _ _ _
          · exact .refl
      | close handle reason => exact absurd rfl (stays handle reason)
      | frame slot streamId parsed =>
          exact .of_honours (dispatchFrame_via (relays slot streamId)
            (fun ctx found key unopened => ⟨unopened, slot, streamId, parsed, ctx, rfl, found, rfl⟩)
            (peerPushes parsed) (fun _ _ => trivial) (fun _ _ => rfl) fun _ => rfl)
      | frameSpill slot streamId known spill =>
          exact .of_honours (keepFrameSpill_via (relays slot streamId).toRequests (fun _ => rfl)
            fun _ => trivial)
      | finish slot streamId =>
          exact .of_honours (finishClientStream_via (relays slot streamId) sidelines.streams)
      | reset slot streamId =>
          exact .of_honours (resetClientInput_via (relays slot streamId) sidelines.streams)
      | _ => cases requests

/-- A session that ends is purged, after it has made no entry. -/
theorem closeClientSession_cases (indexed : worker.conns.Indexed) (handle : SessionHandle)
    (reason : SessionReason) :
    worker.closeClientSession handle reason = worker ∨
      ∃ middle, Honours (fun _ _ => False) worker middle ∧ middle.conns.Indexed ∧
        worker.closeClientSession handle reason = { middle with
          inflight := middle.inflight.purge handle
          conns := middle.conns.removeSession handle } := by
  unfold closeClientSession
  split
  · exact .inl rfl
  rename_i slot _
  split
  · exact .inl rfl
  rename_i ctx _
  have published : Honours (fun _ _ => False) worker
      (worker.publishOffline slot (ctx.offlineReason.getD reason)) :=
    .of_honours (publishOffline_via trivial)
  have addressed := @addressing_publishOffline worker slot (ctx.offlineReason.getD reason)
  generalize worker.publishOffline slot (ctx.offlineReason.getD reason) = offline
    at published addressed ⊢
  have finished : Via (fun op => ∀ worker, (op.apply worker).conns = worker.conns) offline
      (offline.finishOpenExchanges ctx) := finishOpenExchanges_via fun _ _ _ => rfl
  have same : (offline.finishOpenExchanges ctx).conns = offline.conns :=
    finished.preserves (fun worker => worker.conns) fun worker _ kept => kept worker
  refine .inr ⟨offline.finishOpenExchanges ctx, ?_, ?_, rfl⟩
  · exact published.trans (.of_honours (finishOpenExchanges_via fun _ _ => trivial))
  · rw [same]
    exact indexed.of_addressing addressed

theorem step_grows (indexed : worker.conns.Indexed) (event : Event) :
    worker.nextBackendStream ≤ (worker.step event).nextBackendStream := by
  by_cases closes : ∃ handle reason, event = .close handle reason
  · obtain ⟨handle, reason, rfl⟩ := closes
    obtain same | ⟨middle, honours, -, leads⟩ := closeClientSession_cases indexed handle reason
    · exact (congrArg nextBackendStream same).ge
    · exact honours.grows.trans (congrArg nextBackendStream leads).ge
  · simp only [not_exists] at closes
    exact (step_honours indexed closes).grows

/-- Who waits after a step has waited before, and is live if it was, as the same client; or it is
whose request the step is about. -/
theorem step_awaits (indexed : worker.conns.Indexed) {key : StreamKey} {session : SessionHandle}
    (waits : (worker.step event).inflight.Awaits key session) :
    (worker.inflight.Awaits key session ∧ ∀ client, worker.conns.client session = some client →
      (worker.step event).conns.client session = some client) ∨
    event.Opens worker key session ∧ ¬ (worker.step event).Unopened key ∧
      ((worker.step event).conns.client session).isSome := by
  by_cases closes : ∃ handle reason, event = .close handle reason
  · obtain ⟨handle, reason, rfl⟩ := closes
    left
    change (worker.closeClientSession handle reason).inflight.Awaits key session at waits
    change _ ∧ ∀ client, _ → (worker.closeClientSession handle reason).conns.client session = _
    obtain same | ⟨middle, honours, kept, leads⟩ := closeClientSession_cases indexed handle reason
    · rw [same] at waits ⊢
      exact ⟨waits, fun _ known => known⟩
    · rw [leads] at waits ⊢
      obtain ⟨different, waiting⟩ := waits.of_purge
      refine ⟨(honours.awaits key session waiting).resolve_right And.left, fun client known => ?_⟩
      exact client_removeSession kept different (honours.clients session client known)
  · simp only [not_exists] at closes
    have honours := step_honours indexed closes
    obtain earlier | ⟨opens, opened⟩ := honours.awaits key session waits
    · exact .inl ⟨earlier, honours.clients session⟩
    · refine .inr ⟨opens, opened, ?_⟩
      obtain ⟨-, slot, streamId, parsed, ctx, -, found, rfl⟩ := opens
      have live : worker.conns.client ctx.sessionHandle = some ctx.transport.ptr := by
        rw [ConnectionManager.client, indexed.getByHandle found]
        rfl
      rw [honours.clients _ _ live]
      rfl

end GatewayWorker

/-- Whoever waits for a response is live, and waits on a stream of its own that has been opened. -/
structure Addressed (worker : GatewayWorker) : Prop where
  live : ∀ key session, worker.inflight.Awaits key session → (worker.conns.client session).isSome
  opened : ∀ key session, worker.inflight.Awaits key session → ¬ worker.Unopened key
  single : ∀ key session other, worker.inflight.Awaits key session →
    worker.inflight.Awaits key other → session = other

namespace Addressed

variable {worker : GatewayWorker}

theorem known (addressed : Addressed worker) {key : StreamKey} {session : SessionHandle}
    (waits : worker.inflight.Awaits key session) :
    ∃ client, worker.conns.client session = some client :=
  Option.isSome_iff_exists.mp (addressed.live key session waits)

theorem init (config : Config) (router : MessageRouter) (fate : Nat → Bool) :
    Addressed (GatewayWorker.init config router fate) where
  live _ _ waits := absurd waits Tables.not_awaits_init
  opened _ _ waits := absurd waits Tables.not_awaits_init
  single _ _ _ waits := absurd waits Tables.not_awaits_init

theorem step (addressed : Addressed worker) (indexed : worker.conns.Indexed) (event : Event) :
    Addressed (worker.step event) where
  live key session waits := by
    obtain ⟨earlier, stays⟩ | ⟨-, -, live⟩ := GatewayWorker.step_awaits indexed waits
    · obtain ⟨client, known⟩ := addressed.known earlier
      rw [stays client known]
      rfl
    · exact live
  opened key session waits := by
    obtain ⟨earlier, -⟩ | ⟨-, opened, -⟩ := GatewayWorker.step_awaits indexed waits
    · intro unopened
      refine addressed.opened key session earlier (le_trans ?_ unopened)
      exact Nat.mul_le_mul_left 2 (GatewayWorker.step_grows indexed event)
    · exact opened
  single key session other waits also := by
    obtain ⟨earlier, -⟩ | ⟨opens, -, -⟩ := GatewayWorker.step_awaits indexed waits <;>
      obtain ⟨known, -⟩ | ⟨begins, -, -⟩ := GatewayWorker.step_awaits indexed also
    · exact addressed.single key session other earlier known
    · exact absurd begins.1 (addressed.opened key session earlier)
    · exact absurd opens.1 (addressed.opened key other known)
    · obtain ⟨-, slot, streamId, parsed, ctx, rfl, found, rfl⟩ := opens
      obtain ⟨-, _, _, _, own, same, held, rfl⟩ := begins
      cases same
      rw [Option.some.inj (found.symm.trans held)]

end Addressed

/-- The client that the action writes to. -/
def Action.recipient : Action → Option Nat
  | .write client _ _ _ _ _ => some client
  | _ => none

/-- The action writes to no other client. -/
def Action.Reaches (client : Nat) (action : Action) : Prop :=
  ∀ other, action.recipient = some other → other = client

namespace GatewayWorker

open ConnectionManager

variable {worker after : GatewayWorker} {client slot : Nat}

theorem reaches_writeClient (streamId : Nat) (data : Bytes) (isFin : Bool) (author : Author) :
    Grows (Action.Reaches client) worker
      (worker.writeClient client streamId data isFin author).2 :=
  ⟨[_], rfl, fun action listed other writes => by
    obtain rfl := List.mem_singleton.mp listed
    exact (Option.some.inj writes).symm⟩

theorem reaches_openClient {ctx : ConnectionContext} (found : worker.context slot = some ctx)
    (data : Bytes) (isFin : Bool) (author : Author) :
    Grows (Action.Reaches ctx.transport.ptr) worker
      (worker.openClient slot data isFin author).2 := by
  simp only [openClient, found]
  exact @reaches_writeClient (worker.modifyConn slot .reserveStream) ctx.transport.ptr _ data isFin
    author

theorem reaches_replyControl {handle : SessionHandle} (known : worker.conns.client handle = some client)
    (streamId : Nat) (kind : ControlType) (body : Bytes) :
    Grows (Action.Reaches client) worker (worker.replyControl handle streamId kind body) := by
  obtain ⟨ctx, found, rfl⟩ := Option.map_eq_some_iff.mp known
  simp only [replyControl, found]
  split
  · exact .refl
  · exact reaches_writeClient _ _ _ _

theorem reaches_publish (slot : Nat) (kind : EventKind) (reason : SessionReason) :
    Grows (Action.Reaches client) worker (worker.publish slot kind reason) := by
  refine Grows.of_via (publish_via ⟨?_, ?_, ?_, ?_⟩ ?_)
  · exact fun _ _ => .of_log rfl
  · exact fun transport data _ => ⟨[_], rfl, fun action listed other writes => by
      obtain rfl := List.mem_singleton.mp listed
      cases writes⟩
  · exact fun _ => .of_log rfl
  · exact fun _ _ _ _ => .of_log rfl
  · exact fun _ _ _ => .record nofun

theorem reaches_admitSession (slot : Nat) (ctx : ConnectionContext) (handle : SessionHandle)
    (grant : AuthGrant) :
    Grows (Action.Reaches client) worker (worker.admitSession slot ctx handle grant) := by
  refine Grows.of_via (admitSession_via ⟨?_, ?_, ?_, ?_⟩)
  · exact fun reason _ => reaches_publish slot .offline reason
  · exact fun _ => reaches_publish slot .online .authenticated
  · exact fun _ _ => .of_log rfl
  · exact fun _ => .of_log rfl

theorem reaches_redirectIfNotHome {ctx : ConnectionContext}
    (found : worker.context slot = some ctx) (destId : Nat) (first : Option (Nat × Bytes)) :
    Grows (Action.Reaches ctx.transport.ptr) worker
      (worker.redirectIfNotHome slot ctx.realm destId first).2 := by
  unfold redirectIfNotHome
  split
  · exact .refl
  split
  · exact .refl
  simp only [redirectToHome, found]
  split
  · exact .refl
  have answered : Grows (Action.Reaches ctx.transport.ptr) worker (worker.answerFirst ctx first) := by
    cases first with
    | none => exact .refl
    | some answer => exact reaches_writeClient _ _ _ _
  have same : (worker.answerFirst ctx first).context slot = some ctx := by
    cases first with
    | none => exact found
    | some answer => exact found
  generalize worker.answerFirst ctx first = middle at answered same ⊢
  have closed (worker : GatewayWorker) :
      Grows (Action.Reaches ctx.transport.ptr) worker (worker.closeClient ctx .redirected) :=
    .record fun _ same => by cases same
  split
  · exact answered.trans (closed _)
  · exact answered.trans ((reaches_openClient same _ _ _).trans (closed _))

/-- What an authentication service answers goes to who waits for it. -/
theorem reaches_completeAuth {auth : PendingAuth}
    (known : worker.conns.client auth.clientSession = some client) :
    Grows (Action.Reaches client) worker (worker.completeAuth auth) := by
  obtain ⟨ctx, live, rfl⟩ := Option.map_eq_some_iff.mp known
  obtain ⟨resolved, held⟩ := getByHandle_eq_some live
  have found : worker.context auth.clientSession.slot = some ctx := held
  simp only [completeAuth, resolved, found]
  have answer (worker : GatewayWorker) : Grows (Action.Reaches ctx.transport.ptr) worker
      (if auth.responseSuppressed then worker
        else (worker.writeClient ctx.transport.ptr auth.clientStreamId auth.buffer true
          .backend).2) := by
    split
    · exact .refl
    · exact reaches_writeClient _ _ _ _
  split
  · have redirected := reaches_redirectIfNotHome found (classify auth.buffer).grant.destId
      (if auth.responseSuppressed then none else some (auth.clientStreamId, auth.buffer))
    split <;> rename_i decided <;> rw [decided] at redirected
    · exact redirected
    · exact redirected.trans ((reaches_admitSession _ _ _ _).trans (answer _))
  · exact answer worker
  · split
    · exact .refl
    · exact reaches_replyControl known _ _ _

theorem reaches_collectAuthResponse {key : StreamKey} {pending : PendingAuth}
    (waiting : worker.inflight.lookupAuth key = some pending)
    (known : worker.conns.client pending.clientSession = some client) (data : Bytes) (isFin : Bool) :
    Grows (Action.Reaches client) worker (worker.collectAuthResponse key data isFin) := by
  unfold collectAuthResponse
  simp only [waiting]
  have asked : Grows (Action.Reaches client) worker worker.ask.2 := .of_log rfl
  have same : worker.ask.2.conns = worker.conns := rfl
  split <;> rename_i answer <;> rw [answer] at asked same
  · exact asked.trans (.of_log rfl)
  split
  · exact asked.trans (.of_log rfl)
  · refine asked.trans (reaches_completeAuth ?_)
    rw [same, known]

theorem reaches_relayResponse {key : StreamKey} {route : Route} {response : ClientResponse}
    (target : route.target = .client response)
    (known : worker.conns.client response.session = some client) (data : Bytes) (isFin : Bool) :
    Grows (Action.Reaches client) worker (worker.relayResponse key route data isFin) := by
  obtain ⟨ctx, found, rfl⟩ := Option.map_eq_some_iff.mp known
  unfold relayResponse
  simp only [target, found]
  have written := @reaches_writeClient worker ctx.transport.ptr response.streamId data isFin .backend
  split <;> rename_i answer <;> rw [answer] at written
  · exact written.trans (.of_log rfl)
  · refine written.trans ?_
    split <;> exact .of_log rfl

/-- Who waits for a response is live, and it goes to nobody else, now and later. -/
structure Delivers (worker : GatewayWorker) : Prop where
  live : ∀ key session, worker.inflight.Awaits key session →
    (worker.conns.getByHandle session).isSome
  lasting : ∀ events key session other client, worker.inflight.Awaits key session →
    worker.conns.client session = some client →
    (worker.run events).inflight.Awaits key other →
    (worker.run events).conns.client other = some client
  written : ∀ event key data isFin,
    event = .response key data isFin ∨ event = .authResponse key data isFin →
    ∀ client stream bytes last author accepted,
      .write client stream bytes last author accepted ∈ (worker.step event).log →
      .write client stream bytes last author accepted ∈ worker.log ∨
        ∃ session, worker.inflight.Awaits key session ∧ worker.conns.client session = some client

/-- As long as anybody waits on a stream, it is the client that the stream was opened for. -/
theorem run_awaits (indexed : worker.conns.Indexed) (addressed : Addressed worker)
    {key : StreamKey} {session other : SessionHandle} (waits : worker.inflight.Awaits key session)
    (known : worker.conns.client session = some client) {events : List Event}
    (later : (worker.run events).inflight.Awaits key other) :
    (worker.run events).conns.client other = some client := by
  have kept : (worker.run events).conns.Indexed ∧ ¬ (worker.run events).Unopened key ∧
      ∀ own, (worker.run events).inflight.Awaits key own →
        (worker.run events).conns.client own = some client := by
    refine @Run.invariant _ _ step (fun _ _ => True) (fun worker => worker.conns.Indexed ∧
      ¬ worker.Unopened key ∧ ∀ own, worker.inflight.Awaits key own →
        worker.conns.client own = some client) ?_ events worker ?_
      (Run.meets_of_forall (fun _ _ _ => trivial) worker)
    · rintro worker event ⟨indexed, opened, same⟩ -
      refine ⟨step_indexed indexed event, fun unopened => opened ?_, fun own waits => ?_⟩
      · exact le_trans (Nat.mul_le_mul_left 2 (step_grows indexed event)) unopened
      · obtain ⟨earlier, stays⟩ | ⟨opens, -, -⟩ := step_awaits indexed waits
        · exact stays client (same own earlier)
        · exact absurd opens.1 opened
    · refine ⟨indexed, addressed.opened key session waits, fun own also => ?_⟩
      rw [← addressed.single key session own waits also, known]
  exact kept.2.2 other later

/-- What a backend brings on a stream goes to who waits for it. -/
theorem step_reaches (addressed : Addressed worker) {event : Event} {key : StreamKey}
    {data : Bytes} {isFin : Bool}
    (brings : event = .response key data isFin ∨ event = .authResponse key data isFin) :
    Grows (fun action => ∀ client, action.recipient = some client →
      ∃ session, worker.inflight.Awaits key session ∧ worker.conns.client session = some client)
      worker (worker.step event) := by
  have named {session : SessionHandle} {client : Nat} {after : GatewayWorker}
      (waits : worker.inflight.Awaits key session)
      (known : worker.conns.client session = some client)
      (grows : Grows (Action.Reaches client) worker after) :
      Grows (fun action => ∀ client, action.recipient = some client →
        ∃ session, worker.inflight.Awaits key session ∧ worker.conns.client session = some client)
        worker after :=
    grows.mono fun action reaches other writes => ⟨session, waits, reaches other writes ▸ known⟩
  obtain rfl | rfl := brings
  · simp only [step]
    split
    · exact .refl
    rename_i route found
    cases target : route.target with
    | discard =>
        simp only [relayResponse, target]
        split <;> exact .of_log rfl
    | client response =>
        have waits : worker.inflight.Awaits key response.session :=
          .inl ⟨route, response, found, target, rfl⟩
        obtain ⟨client, known⟩ := addressed.known waits
        exact named waits known (reaches_relayResponse target known data isFin)
  · simp only [step]
    cases found : worker.inflight.lookupAuth key with
    | none =>
        simp only [collectAuthResponse, found]
        exact .refl
    | some pending =>
        have waits : worker.inflight.Awaits key pending.clientSession :=
          .inr ⟨pending, found, rfl⟩
        obtain ⟨client, known⟩ := addressed.known waits
        exact named waits known (reaches_collectAuthResponse found known data isFin)

/-- In every state that a worker reaches, whoever waits for a response is live, and nobody else ever
gets it. -/
theorem responses_reach_who_waits (config : Config) (router : MessageRouter) (fate : Nat → Bool)
    (events : List Event) : Delivers ((GatewayWorker.init config router fate).run events) := by
  have kept : ((GatewayWorker.init config router fate).run events).conns.Indexed ∧
      Addressed ((GatewayWorker.init config router fate).run events) := by
    refine @Run.invariant _ _ step (fun _ _ => True)
      (fun worker => worker.conns.Indexed ∧ Addressed worker) ?_ events _
      ⟨init_indexed config router fate, .init config router fate⟩
      (Run.meets_of_forall (fun _ _ _ => trivial) _)
    rintro worker event ⟨indexed, addressed⟩ -
    exact ⟨step_indexed indexed event, addressed.step indexed event⟩
  obtain ⟨indexed, addressed⟩ := kept
  generalize (GatewayWorker.init config router fate).run events = worker at indexed addressed ⊢
  refine ⟨fun key session waits => ?_, fun more key session other client waits known later => ?_, ?_⟩
  · obtain ⟨client, known⟩ := addressed.known waits
    obtain ⟨ctx, found, -⟩ := Option.map_eq_some_iff.mp known
    rw [found]
    rfl
  · exact run_awaits indexed addressed waits known later
  · intro event key data isFin brings client stream bytes last author accepted listed
    exact ((step_reaches addressed brings).mem_log listed).imp_right fun names => names client rfl

/-- A client asks and leaves; the answer is not written to the next one in its slot. -/
example :
    let asks : List Event := [.outside (.registry fun _ => some 9), .accept .rawQuic true (some 7),
      .frame 0 0 (openFrame .service {} .required Flags.last (text "who?"))]
    let answer : Event := .response ⟨9, 0⟩ (text "you") true
    (alone.run (asks ++ [answer])).log.filterMap Action.recipient = [1] ∧
      (alone.run (asks ++ [.close ⟨0, 1⟩ .transportClosed, .accept .rawQuic true (some 7),
        answer])).log.filterMap Action.recipient = [] := by
  decide +kernel

end GatewayWorker

end LyuneGateway.Worker
