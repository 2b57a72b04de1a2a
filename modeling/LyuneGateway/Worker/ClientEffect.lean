import LyuneGateway.Worker.Effect

/-!
# What the handlers for clients are made of

Requests of clients and the responses to them, admission, and the lifecycle of
connections, in the operations of a worker.
-/

namespace LyuneGateway.Worker

open Foundation Io Protocol Session

/-- What a connection is, and what decides whether and how it can be reached. -/
structure Address where
  client : Nat
  sessionHandle : SessionHandle
  realm : RealmId
  authenticated : Bool
  peerNode : Bool
  destId : Nat
  authExpiresAt : Nat
  channels : List Nat
  revoked : Bool

def ConnectionContext.address (ctx : ConnectionContext) : Address where
  client := ctx.transport.ptr
  sessionHandle := ctx.sessionHandle
  realm := ctx.realm
  authenticated := ctx.authenticated
  peerNode := ctx.peerNode
  destId := ctx.destId
  authExpiresAt := ctx.authExpiresAt
  channels := ctx.channels
  revoked := ctx.revoked

/-- A change of what a connection is doing, not of how it is reached. -/
def KeepsAddress (change : ConnectionContext → ConnectionContext) : Prop :=
  ∀ ctx, (change ctx).address = ctx.address ∧ (change ctx).transport = ctx.transport

/-- The backend stream that a client stream is connected to. -/
def ConnectionContext.holds (ctx : ConnectionContext) (streamId : Nat) : Option BackendStream :=
  (ctx.inboundExchanges.lookup streamId).bind InboundExchange.backend

/-- A client stream that has a backend stream is still sending its request, which is no push. -/
def InboundExchange.Sound (active : InboundExchange) : Prop :=
  active.backend = none ∨ active.inputComplete = false ∧ active.pushSession = 0

def ConnectionContext.SoundAt (ctx : ConnectionContext) (streamId : Nat) : Prop :=
  ∀ active, ctx.inboundExchanges.lookup streamId = some active → active.Sound

/-- A change of what one client stream is connected to, which neither connects it to a backend nor
keeps a partial frame, and is no lifecycle event. -/
structure KeepsExchanges (streamId : Nat) (change : ConnectionContext → ConnectionContext) :
    Prop where
  others : ∀ ctx other, other ≠ streamId →
    (change ctx).inboundExchanges.lookup other = ctx.inboundExchanges.lookup other
  own : ∀ ctx stream, (change ctx).holds streamId = some stream → ctx.holds streamId = some stream
  sound : ∀ ctx, ctx.SoundAt streamId → (change ctx).SoundAt streamId
  spills : ∀ ctx : ConnectionContext, ctx.frameSpills.Shrinks (change ctx).frameSpills
  events : ∀ ctx, (change ctx).lifecycleSequence = ctx.lifecycleSequence

namespace KeepsExchanges

variable {streamId : Nat} {change : ConnectionContext → ConnectionContext}

theorem of_same (same : ∀ ctx, (change ctx).inboundExchanges = ctx.inboundExchanges)
    (spills : ∀ ctx : ConnectionContext, ctx.frameSpills.Shrinks (change ctx).frameSpills)
    (events : ∀ ctx, (change ctx).lifecycleSequence = ctx.lifecycleSequence) :
    KeepsExchanges streamId change where
  others ctx other _ := by rw [same]
  own ctx stream holds := by
    unfold ConnectionContext.holds at holds ⊢
    rwa [same] at holds
  sound ctx sound active found := sound active (same ctx ▸ found)
  spills := spills
  events := events

theorem register {entry : InboundExchange} (free : entry.backend = none) :
    KeepsExchanges streamId fun ctx => ctx.registerInboundExchange streamId entry where
  others ctx other different := AList.lookup_insert_ne different
  own ctx stream holds := by
    simp [ConnectionContext.holds, ConnectionContext.registerInboundExchange, free] at holds
  sound ctx _ active found := by
    simp only [ConnectionContext.registerInboundExchange, AList.lookup_insert,
      Option.some.injEq] at found
    exact .inl (found ▸ free)
  spills _ := .refl
  events _ := rfl

theorem remove : KeepsExchanges streamId fun ctx => ctx.removeInboundExchange streamId where
  others ctx other different := AList.lookup_erase_ne different
  own ctx stream holds := by
    simp [ConnectionContext.holds, ConnectionContext.removeInboundExchange] at holds
  sound ctx _ active found := by
    simp [ConnectionContext.removeInboundExchange] at found
  spills _ := .refl
  events _ := rfl

theorem complete :
    KeepsExchanges streamId fun ctx => ctx.adjustExchange streamId .complete where
  others ctx other different := Table.lookup_adjust_ne different _
  own ctx stream holds := by
    obtain ⟨active, found, backend⟩ := Option.bind_eq_some_iff.mp holds
    simp only [ConnectionContext.adjustExchange, Table.lookup_adjust,
      Option.map_eq_some_iff] at found
    obtain ⟨old, -, rfl⟩ := found
    cases backend
  sound ctx _ active found := by
    simp only [ConnectionContext.adjustExchange, Table.lookup_adjust,
      Option.map_eq_some_iff] at found
    obtain ⟨old, -, rfl⟩ := found
    exact .inl rfl
  spills _ := .refl
  events _ := rfl

end KeepsExchanges

/-- A route may lose its client, and keeps its realm. -/
def Route.Becomes (old route : Route) : Prop :=
  route.realm = old.realm ∧ (route.target = old.target ∨ route.target = .discard)

theorem Route.Becomes.refl (route : Route) : route.Becomes route := ⟨rfl, .inl rfl⟩

theorem Route.Becomes.trans (old middle route : Route) (first : old.Becomes middle)
    (second : middle.Becomes route) : old.Becomes route := by
  refine ⟨second.1.trans first.1, ?_⟩
  obtain same | lost := second.2
  · rw [same]
    exact first.2
  · exact .inr lost

/-- A request that waits for its authentication keeps whom it is for. -/
def PendingAuth.Becomes (old pending : PendingAuth) : Prop :=
  pending.clientSession = old.clientSession ∧ pending.clientStreamId = old.clientStreamId ∧
    pending.realm = old.realm

theorem PendingAuth.Becomes.refl (pending : PendingAuth) : pending.Becomes pending :=
  ⟨rfl, rfl, rfl⟩

theorem PendingAuth.Becomes.trans (old middle pending : PendingAuth) (first : old.Becomes middle)
    (second : middle.Becomes pending) : old.Becomes pending :=
  ⟨second.1.trans first.1, second.2.1.trans first.2.1, second.2.2.trans first.2.2⟩

/-- A change of the tables that adds no entry to them, and gives none to another client. -/
structure Tables.Narrows (change : Tables → Tables) : Prop where
  routes : ∀ tables : Tables, tables.routes.Derives Route.Becomes (change tables).routes
  auths : ∀ tables : Tables, tables.auths.Derives PendingAuth.Becomes (change tables).auths

namespace Tables.Narrows

theorem of_same {change : Tables → Tables} (routes : ∀ tables, (change tables).routes = tables.routes)
    (auths : ∀ tables, (change tables).auths = tables.auths) : Narrows change where
  routes tables := routes tables ▸ .refl .refl
  auths tables := auths tables ▸ .refl .refl

theorem comp {first second : Tables → Tables} (narrows : Narrows first) (also : Narrows second) :
    Narrows fun tables => second (first tables) where
  routes tables := (narrows.routes tables).trans .trans (also.routes _)
  auths tables := (narrows.auths tables).trans .trans (also.auths _)

theorem closeRoute (key : StreamKey) : Narrows fun tables => tables.closeRoute key where
  routes tables := by
    rw [closeRoute_routes]
    exact .erase .refl
  auths tables := by
    rw [closeRoute_auths]
    exact .refl .refl

theorem touchRoute (key : StreamKey) (now : Nat) :
    Narrows fun tables => tables.touchRoute key now where
  routes _ := .adjust .refl fun _ => ⟨rfl, .inl rfl⟩
  auths _ := .refl .refl

theorem suppressClientResponse (session : SessionHandle) (streamId : Nat) :
    Narrows fun tables => tables.suppressClientResponse session streamId where
  routes tables := by
    unfold Tables.suppressClientResponse
    split
    · exact .refl .refl
    · exact .adjust .refl fun _ => ⟨rfl, .inr rfl⟩
  auths tables := by
    rw [suppressClientResponse_auths]
    exact .refl .refl

theorem suppressAuthResponse (session : SessionHandle) (streamId : Nat) :
    Narrows fun tables => tables.suppressAuthResponse session streamId where
  routes tables := by
    rw [suppressAuthResponse_routes]
    exact .refl .refl
  auths tables := by
    unfold Tables.suppressAuthResponse
    split
    · exact .refl .refl
    · exact .adjust .refl fun _ => ⟨rfl, rfl, rfl⟩

theorem takeAuth (key : StreamKey) : Narrows fun tables => tables.takeAuth key where
  routes tables := by
    rw [takeAuth_routes]
    exact .refl .refl
  auths tables := by
    rw [takeAuth_auths]
    exact .erase .refl

theorem appendAuth (key : StreamKey) (data : Bytes) :
    Narrows fun tables => tables.appendAuth key data where
  routes _ := .refl .refl
  auths _ := .adjust .refl fun _ => ⟨rfl, rfl, rfl⟩

theorem takeRoutes (which : StreamKey → Route → Bool) :
    Narrows fun tables => (tables.takeRoutes which).2 where
  routes _ := .keep .refl
  auths _ := .refl .refl

theorem takeAuths (which : StreamKey → PendingAuth → Bool) :
    Narrows fun tables => (tables.takeAuths which).2 where
  routes _ := .refl .refl
  auths _ := .keep .refl

theorem refreshExpiryDeadline : Narrows Tables.refreshExpiryDeadline := by
  have folded {α : Type} (note : α → Nat) (entries : List α) (tables : Tables) :
      (entries.foldl (fun tables entry => tables.noteExpiry (note entry)) tables).routes =
          tables.routes ∧
        (entries.foldl (fun tables entry => tables.noteExpiry (note entry)) tables).auths =
          tables.auths := by
    induction entries generalizing tables with
    | nil => exact ⟨rfl, rfl⟩
    | cons entry entries ih =>
        exact ⟨(ih _).1.trans (noteExpiry_routes _ _), (ih _).2.trans (noteExpiry_auths _ _)⟩
  apply of_same
  · exact fun tables => (folded _ _ _).1.trans (folded _ _ _).1
  · exact fun tables => (folded _ _ _).2.trans (folded _ _ _).2

theorem purge (session : SessionHandle) : Narrows fun tables => tables.purge session :=
  comp (takeRoutes _) (takeAuths _)

end Tables.Narrows

namespace GatewayWorker

variable {allowed : Op → Prop} {worker after : GatewayWorker}

/-- The operations of a lifecycle event, the record of it apart. -/
structure Publishes (allowed : Op → Prop) (slot : Nat) (kind : EventKind) : Prop where
  count : ∀ now, allowed (.conn slot fun ctx => ctx.countEvent kind now)
  openBackend : ∀ transport data, allowed (.openBackend transport data true)
  ask : allowed .ask
  track : ∀ key route, route.target = .discard →
    allowed (.track key fun tables => tables.openRoute key route)

theorem publish_via {slot : Nat} {kind : EventKind} {reason : SessionReason}
    (publishes : Publishes allowed slot kind)
    (published : ∀ ctx, worker.context slot = some ctx →
      allowed (.record (.published ctx.transport.ptr kind reason ctx.notice))) :
    Via allowed worker (worker.publish slot kind reason) := by
  unfold publish
  split
  · exact .refl
  · exact .refl
  rename_i route ctx _ found
  have noted : Via allowed worker ((worker.modifyConn slot fun ctx =>
      ctx.countEvent kind worker.now).record (.published ctx.transport.ptr kind reason ctx.notice)) :=
    Run.Reaches.trans (Via.op (publishes.count worker.now) rfl) (Via.op (published ctx found) rfl)
  simp only
  generalize GatewayWorker.record _ _ = middle at noted ⊢
  split
  · exact noted
  · exact noted
  split
  · exact noted
  split
  · exact noted
  rename_i token transport _ _ _ _ data _
  have opened : Via allowed middle (middle.openBackend transport data true).2 :=
    Via.op (publishes.openBackend transport data) rfl
  split <;> rename_i answer <;> rw [answer] at opened
  · exact noted.trans opened
  rename_i stream second
  have asked : Via allowed second second.ask.2 := Via.op publishes.ask rfl
  split <;> rename_i remembered <;> rw [remembered] at asked
  · exact noted.trans (opened.trans asked)
  · refine noted.trans (opened.trans (asked.trans (Via.track (publishes.track _ _ rfl) ?_)))
    rw [nextBackendStream_ask remembered]
    exact opened_lt answer

theorem publishOffline_via {slot : Nat} {reason : SessionReason}
    (may : allowed (.publish slot .offline reason)) :
    Via allowed worker (worker.publishOffline slot reason) := by
  unfold publishOffline
  split
  · exact .refl
  split
  · exact Via.op may rfl
  · exact .refl

/-- The operations of taking an admission away. -/
structure Revokes (allowed : Op → Prop) (slot : Nat) (handle : SessionHandle) : Prop where
  publish : ∀ reason, allowed (.publish slot .offline reason)
  revoke : allowed (.conn slot .revoke)
  unbind : allowed (.bindDest handle 0)

theorem revokeAdmission_via {slot : Nat} {reason : SessionReason} {ctx : ConnectionContext}
    (found : worker.context slot = some ctx) (revokes : Revokes allowed slot ctx.sessionHandle) :
    Via allowed worker (worker.revokeAdmission slot reason) := by
  unfold revokeAdmission
  rw [found]
  exact (publishOffline_via (revokes.publish reason)).trans
    (Run.Reaches.trans (Via.op revokes.revoke rfl) (Via.op revokes.unbind rfl))

theorem kickOne_via {realm : RealmId} {token : ConnToken}
    (revokes : ∀ slot ctx, worker.conns.byToken token = some slot →
      worker.context slot = some ctx → ctx.realm = realm → Revokes allowed slot ctx.sessionHandle)
    (notice : ∀ slot data, allowed (.openClient slot data true .gateway))
    (close : ∀ slot ctx, worker.conns.byToken token = some slot →
      worker.context slot = some ctx → ctx.realm = realm →
      allowed (.record (.close ctx.transport.ptr AppError.kicked.code))) :
    Via allowed worker (worker.kickOne realm token).2 := by
  unfold kickOne
  split
  · exact .refl
  rename_i slot resolved
  split
  · exact .refl
  rename_i ctx found
  split
  · exact .refl
  rename_i sameRealm
  have own : ctx.realm = realm := not_not.mp sameRealm
  have revoked : Via allowed worker (worker.revokeAdmission slot .kicked) :=
    revokeAdmission_via found (revokes slot ctx resolved found own)
  have closed (worker : GatewayWorker) : Via allowed worker (worker.closeClient ctx .kicked) :=
    Via.op (close slot ctx resolved found own) rfl
  simp only
  split
  · exact revoked.trans (closed _)
  · exact revoked.trans (Run.Reaches.trans (Via.op (notice slot _) rfl) (closed _))

/-- The operations of granting an admission. -/
structure Admits (allowed : Op → Prop) (slot : Nat) (handle : SessionHandle) (destId : Nat) :
    Prop where
  offline : ∀ reason, allowed (.publish slot .offline reason)
  online : allowed (.publish slot .online .authenticated)
  admitClient : ∀ expiresAt, allowed (.conn slot fun ctx => ctx.admitClient expiresAt)
  bind : allowed (.bindDest handle destId)

theorem admitSession_via {slot : Nat} {ctx : ConnectionContext} {handle : SessionHandle}
    {grant : AuthGrant} (admits : Admits allowed slot handle grant.destId) :
    Via allowed worker (worker.admitSession slot ctx handle grant) := by
  have replaced : Via allowed worker (worker.endIdentity slot ctx grant.destId) := by
    unfold endIdentity
    split
    · exact publishOffline_via (admits.offline _)
    · exact .refl
  unfold admitSession
  simp only
  generalize worker.endIdentity slot ctx grant.destId = first at replaced ⊢
  have admitted : Via allowed first ((first.modifyConn slot fun ctx =>
      ctx.admitClient (expiryFrom first.now grant.ttlSeconds)).bindDest handle grant.destId) :=
    Run.Reaches.trans (Via.op (admits.admitClient _) rfl) (Via.op admits.bind rfl)
  split
  · exact replaced.trans (admitted.trans (Via.op admits.online rfl))
  · exact replaced.trans admitted

theorem replyControl_via {session : SessionHandle} {streamId : Nat} {kind : ControlType}
    {body : Bytes}
    (reply : ∀ client data, allowed (.writeClient client streamId data true .gateway)) :
    Via allowed worker (worker.replyControl session streamId kind body) := by
  unfold replyControl
  split
  · exact .refl
  split
  · exact .refl
  · exact Via.op (reply _ _) rfl

theorem finishResponseWithoutPayload_via {session : SessionHandle} {streamId : Nat}
    (reply : ∀ client data, allowed (.writeClient client streamId data true .gateway)) :
    Via allowed worker (worker.finishResponseWithoutPayload session streamId) := by
  unfold finishResponseWithoutPayload
  split
  · exact .refl
  · exact Via.op (reply _ _) rfl

theorem finishBackendStream_via {stream : BackendStream}
    (may : ∀ key data, allowed (.writeBackend key data true)) :
    Via allowed worker (worker.finishBackendStream stream) := by
  unfold finishBackendStream
  split
  · exact .refl
  · exact Via.op (may _ _) rfl

/-- The route leads to the client stream of a session that `owns` holds of, or nowhere. -/
def Serves (owns : SessionHandle → Prop) (streamId : Nat) (route : Route) : Prop :=
  ∀ response, route.target = .client response →
    owns response.session ∧ response.streamId = streamId

/-- The request has come in on the client stream of such a session, and has no answer yet. -/
structure Waits (owns : SessionHandle → Prop) (streamId : Nat) (pending : PendingAuth) : Prop where
  session : owns pending.clientSession
  stream : pending.clientStreamId = streamId
  buffer : pending.buffer = []
  answered : pending.responseSuppressed = false

/-- The operations of a request on a client stream, whose entries are for sessions that `owns` holds
of. -/
structure Requests (allowed : Op → Prop) (slot streamId : Nat)
    (owns : StreamKey → SessionHandle → Prop) : Prop where
  ask : allowed .ask
  reply : ∀ client data, allowed (.writeClient client streamId data true .gateway)
  reset : ∀ client, allowed (.record (.resetSend client streamId))
  openBackend : ∀ transport data isFin, allowed (.openBackend transport data isFin)
  tables : ∀ change, Tables.Narrows change → allowed (.tables change)
  trackAuth : ∀ key pending, Waits (owns key) streamId pending →
    allowed (.track key fun tables => tables.trackAuth key pending)
  conn : ∀ change, KeepsAddress change → KeepsExchanges streamId change →
    allowed (.conn slot change)

/-- The operations of a request that is forwarded to a backend. -/
structure Relays (allowed : Op → Prop) (slot streamId : Nat)
    (owns : StreamKey → SessionHandle → Prop) : Prop extends Requests allowed slot streamId owns where
  writeBackend : ∀ key data isFin, allowed (.writeBackend key data isFin)
  openRoute : ∀ key route, Serves (owns key) streamId route →
    allowed (.track key fun tables => tables.openRoute key route)
  register : ∀ entry, entry.Sound →
    allowed (.conn slot fun ctx => ctx.registerInboundExchange streamId entry)

section Requests

variable {slot streamId : Nat} {owns : StreamKey → SessionHandle → Prop}
  (requests : Requests allowed slot streamId owns)

include requests

theorem reject_via {handle : SessionHandle} {message : String} :
    Via allowed worker (worker.reject handle streamId message) :=
  replyControl_via requests.reply

theorem conn_via {change : ConnectionContext → ConnectionContext} (keeps : KeepsAddress change)
    (exchanges : KeepsExchanges streamId change) :
    Via allowed worker (worker.modifyConn slot change) :=
  Via.op (requests.conn change keeps exchanges) rfl

theorem closeRoute_via {key : StreamKey} :
    Via allowed worker { worker with inflight := worker.inflight.closeRoute key } :=
  Via.op (requests.tables _ (.closeRoute key)) rfl

omit requests in
theorem finishBackend_via (relays : Relays allowed slot streamId owns) {stream : BackendStream} :
    Via allowed worker (worker.finishBackendStream stream) :=
  finishBackendStream_via fun key data => relays.writeBackend key data true

theorem delegateAuth_via {handle : SessionHandle} {parsed : Frame}
    (own : ∀ key, worker.Unopened key → owns key handle) :
    Via allowed worker (worker.delegateAuth handle streamId parsed) := by
  have fail (worker : GatewayWorker) (message : String) : Via allowed worker
      (worker.replyControl handle streamId .authFailure (text message)) :=
    replyControl_via requests.reply
  unfold delegateAuth
  simp only
  split
  · exact .refl
  split
  · exact fail _ _
  split
  · exact fail _ _
  rename_i transport _
  split
  · exact fail _ _
  split
  · exact fail _ _
  rename_i forwarded _
  split
  · exact fail _ _
  · exact fail _ _
  have opened : Via allowed worker (worker.openBackend transport forwarded true).2 :=
    Via.op (requests.openBackend transport forwarded true) rfl
  split <;> rename_i answer <;> rw [answer] at opened
  · exact opened.trans (fail _ _)
  rename_i stream middle
  have asked : Via allowed middle middle.ask.2 := Via.op requests.ask rfl
  split <;> rename_i remembered <;> rw [remembered] at asked
  · exact opened.trans asked
  · refine opened.trans (asked.trans (Via.track (requests.trackAuth _ _ ⟨own _ (unopened answer), rfl, rfl, rfl⟩) ?_))
    rw [nextBackendStream_ask remembered]
    exact opened_lt answer

theorem forget_via :
    Via allowed worker (worker.modifyConn slot fun ctx => ctx.removeInboundExchange streamId) :=
  conn_via requests (fun _ => ⟨rfl, rfl⟩) .remove

theorem handleControlFrame_via {ctx : ConnectionContext} {parsed : Frame}
    (own : ∀ key, worker.Unopened key → owns key ctx.sessionHandle)
    (bind : allowed (.bind slot ctx parsed))
    (unbind : ∀ channel, allowed (.conn slot fun ctx => ctx.unbindChannel channel)) :
    Via allowed worker (worker.handleControlFrame slot ctx streamId parsed) := by
  unfold handleControlFrame
  simp only
  split
  · exact reject_via requests
  split
  · exact reject_via requests
  split
  · exact replyControl_via requests.reply
  · exact replyControl_via requests.reply
  · exact conn_via requests (fun _ => ⟨rfl, rfl⟩) (.of_same (fun _ => rfl) (fun _ => .refl) fun _ => rfl)
  · have bound : Via allowed worker (worker.resolveBind slot ctx parsed).2 := Via.op bind rfl
    unfold bindChannel
    split <;> rename_i answer <;> rw [answer] at bound
    · exact bound.trans (replyControl_via requests.reply)
    · exact bound.trans (reject_via requests)
    · exact bound.trans (reject_via requests)
    · exact bound.trans (reject_via requests)
  · unfold unbindChannel
    split
    · exact reject_via requests
    · exact Run.Reaches.trans (Via.op (unbind _) rfl) (replyControl_via requests.reply)
  · exact delegateAuth_via requests own
  · exact reject_via requests

theorem openGatewayExchange_via {ctx : ConnectionContext} {parsed : Frame}
    (own : ∀ key, worker.Unopened key → owns key ctx.sessionHandle)
    (bind : allowed (.bind slot ctx parsed))
    (unbind : ∀ channel, allowed (.conn slot fun ctx => ctx.unbindChannel channel)) :
    Via allowed worker (worker.openGatewayExchange slot ctx streamId parsed).2 := by
  unfold openGatewayExchange
  split
  · exact Via.pair (reject_via requests)
  have asked : Via allowed worker worker.ask.2 := Via.op requests.ask rfl
  split <;> rename_i answer <;> rw [answer] at asked
  · exact Via.pair (asked.trans (reject_via requests))
  rename_i middle
  rw [← unopened_ask answer] at own
  have registered (mode : ResponseMode) : Via allowed middle
      (middle.modifyConn slot fun ctx => ctx.registerInboundExchange streamId
        { responseMode := mode, inputComplete := true }) :=
    conn_via requests (fun _ => ⟨rfl, rfl⟩) (.register rfl)
  exact Via.pair (asked.trans ((registered _).trans
    (handleControlFrame_via requests own bind unbind)))

end Requests

section Relays

variable {slot streamId : Nat} {owns : StreamKey → SessionHandle → Prop}
  (relays : Relays allowed slot streamId owns)

include relays

theorem trackExchange_via {ctx : ConnectionContext} {backend : BackendStream}
    {header : FrameHeader} (own : owns backend.key ctx.sessionHandle)
    (known : backend.key.stream < 2 * worker.nextBackendStream) :
    Via allowed worker (worker.trackExchange slot ctx streamId backend header) := by
  have requests := relays.toRequests
  unfold trackExchange
  have asked : Via allowed worker worker.ask.2 := Via.op relays.ask rfl
  split <;> rename_i answer <;> rw [answer] at asked
  · exact asked.trans ((finishBackend_via relays).trans (reject_via requests))
  rename_i first
  have opened (route : Route) (serves : Serves (owns backend.key) streamId route) :
      Via allowed first
      { first with inflight := first.inflight.openRoute backend.key route } := by
    refine Via.track (relays.openRoute backend.key route serves) ?_
    rwa [nextBackendStream_ask answer]
  simp only
  generalize chosen : Route.mk _ _ _ = route
  have serves : Serves (owns backend.key) streamId route := by
    rintro response target
    subst chosen
    cases mode : header.responseMode with
    | none => simp [mode] at target
    | required =>
        simp only [mode, ResponseTarget.client.injEq] at target
        subst target
        exact ⟨own, rfl⟩
  specialize opened route serves
  generalize { first with inflight := first.inflight.openRoute backend.key route } = second
    at opened ⊢
  have again : Via allowed second second.ask.2 := Via.op relays.ask rfl
  split <;> rename_i answer <;> rw [answer] at again
  · exact asked.trans (opened.trans (again.trans ((finishBackend_via relays).trans
      ((closeRoute_via requests).trans (reject_via requests)))))
  rename_i third
  have registered : Via allowed third
      (third.modifyConn slot fun ctx => ctx.registerInboundExchange streamId {
        backend := if header.isLast then none else some backend
        responseMode := header.responseMode
        inputComplete := header.isLast }) := by
    refine Via.op (relays.register _ ?_) rfl
    cases header.isLast with
    | true => exact .inl rfl
    | false => exact .inr ⟨rfl, rfl⟩
  split
  · exact asked.trans (opened.trans (again.trans (registered.trans
      (finishResponseWithoutPayload_via relays.reply))))
  · exact asked.trans (opened.trans (again.trans registered))

theorem openServiceExchange_via {ctx : ConnectionContext} {parsed : Frame}
    (own : ∀ key, worker.Unopened key → owns key ctx.sessionHandle) :
    Via allowed worker (worker.openServiceExchange slot ctx streamId parsed).2 := by
  have requests := relays.toRequests
  unfold openServiceExchange
  simp only
  split
  · exact Via.pair (reject_via requests)
  split
  · exact .refl
  split
  · exact Via.pair (reject_via requests)
  rename_i transport _
  split
  · exact Via.pair (reject_via requests)
  · exact Via.pair (reject_via requests)
  have opened : Via allowed worker
      (worker.openBackend transport parsed.bytes parsed.header.isLast).2 :=
    Via.op (relays.openBackend transport parsed.bytes parsed.header.isLast) rfl
  split <;> rename_i answer <;> rw [answer] at opened
  · exact Via.pair (opened.trans (reject_via requests))
  · exact Via.pair (opened.trans (trackExchange_via relays (own _ (unopened answer)) (opened_lt answer)))

theorem appendToExchange_via {ctx : ConnectionContext} {active : InboundExchange}
    {parsed : Frame} :
    Via allowed worker (worker.appendToExchange slot ctx streamId active parsed) := by
  have requests := relays.toRequests
  unfold appendToExchange
  simp only
  split
  · exact Run.Reaches.trans (reject_via requests) (forget_via requests)
  rename_i backend _
  split
  · exact Run.Reaches.trans (closeRoute_via requests)
      (Run.Reaches.trans (forget_via requests) (reject_via requests))
  split
  · exact forget_via requests
  have touched : Via allowed worker
      { worker with inflight := worker.inflight.touchRoute backend.key worker.now } :=
    Via.op (relays.tables _ (.touchRoute backend.key worker.now)) rfl
  generalize { worker with inflight := worker.inflight.touchRoute backend.key worker.now } = first
    at touched ⊢
  have written : Via allowed first
      (first.writeBackend backend.key parsed.bytes parsed.header.isLast).2 :=
    Via.op (relays.writeBackend backend.key parsed.bytes parsed.header.isLast) rfl
  split <;> rename_i answer <;> rw [answer] at written
  · exact touched.trans (written.trans ((finishBackend_via relays).trans
      ((closeRoute_via requests).trans ((forget_via requests).trans (reject_via requests)))))
  rename_i second
  have completed : Via allowed second
      (second.modifyConn slot fun ctx => ctx.adjustExchange streamId .complete) :=
    conn_via requests (fun _ => ⟨rfl, rfl⟩) .complete
  split
  · exact touched.trans written
  split
  · exact touched.trans (written.trans (completed.trans
      (finishResponseWithoutPayload_via relays.reply)))
  · exact touched.trans (written.trans completed)

omit relays in
theorem abortPeerPush_via {active : InboundExchange} (streams : Streams allowed) :
    Via allowed worker (worker.abortPeerPush active) := by
  unfold abortPeerPush
  split
  · exact abortSessionById_via streams
  · exact .refl

/-- The operations of a push that a peer node sends. -/
structure PeerPushes (allowed : Op → Prop) (parsed : Frame) : Prop where
  locals : Locals allowed
  streams : Streams allowed
  forwards : ∀ realm, Forwards allowed realm 0 parsed.bytes false
  sendPeer : ∀ nodeId realm, allowed (.sendPeer nodeId realm parsed.bytes true)

omit relays in
theorem openPeerSession_via (requests : Requests allowed slot streamId owns)
    {ctx : ConnectionContext} {realm : RealmId} {parsed : Frame}
    (pushes : PeerPushes allowed parsed) :
    Via allowed worker (worker.openPeerSession slot ctx streamId realm parsed) := by
  unfold openPeerSession
  split
  · exact .refl
  have begun : Via allowed worker (worker.beginPeerSession realm parsed).2 :=
    beginPeerSession_via pushes.streams fun nodeId => pushes.sendPeer nodeId realm
  split <;> rename_i answer <;> rw [answer] at begun
  · exact begun
  rename_i sessionId middle
  have asked : Via allowed middle middle.ask.2 := Via.op requests.ask rfl
  split <;> rename_i answer <;> rw [answer] at asked
  · exact begun.trans (asked.trans (abortSessionById_via pushes.streams))
  · exact begun.trans (asked.trans (conn_via requests (fun _ => ⟨rfl, rfl⟩) (.register rfl)))

omit relays in
theorem openPeerNodeExchange_via (requests : Requests allowed slot streamId owns)
    {ctx : ConnectionContext} {parsed : Frame}
    (pushes : PeerPushes allowed parsed) :
    Via allowed worker (worker.openPeerNodeExchange slot ctx streamId parsed).2 := by
  unfold openPeerNodeExchange
  split
  · exact .refl
  split
  · exact .refl
  split
  · exact .refl
  rename_i realm _
  split
  · exact Via.pair (openPeerSession_via requests pushes)
  · exact Via.pair (deliverFromPeer_via pushes.locals (pushes.forwards realm))

theorem openInboundExchange_via {ctx : ConnectionContext} {parsed : Frame}
    (own : ∀ key, worker.Unopened key → owns key ctx.sessionHandle)
    (pushes : PeerPushes allowed parsed) (bind : allowed (.bind slot ctx parsed))
    (unbind : ∀ channel, allowed (.conn slot fun ctx => ctx.unbindChannel channel)) :
    Via allowed worker (worker.openInboundExchange slot ctx streamId parsed).2 := by
  have requests := relays.toRequests
  unfold openInboundExchange
  split
  · exact openPeerNodeExchange_via requests pushes
  have claimed : Via allowed worker (worker.claimInboundExchange ctx.transport.kind).2 := by
    unfold claimInboundExchange
    split
    · exact .refl
    · exact Via.op requests.ask rfl
  have same : (worker.claimInboundExchange ctx.transport.kind).2.Unopened = worker.Unopened := by
    unfold claimInboundExchange
    split <;> rfl
  rw [← same] at own
  split <;> rename_i answer <;> rw [answer] at claimed own
  · exact claimed
  split
  · exact claimed
  · exact claimed
  · split
    · exact Via.pair (claimed.trans (reject_via requests))
    · exact claimed.trans (openGatewayExchange_via requests own bind unbind)
  · rename_i toService
    split
    · exact Via.pair (claimed.trans (reject_via requests))
    · rw [if_neg (by simp [toService])]
      exact claimed.trans (openServiceExchange_via relays own)

theorem dispatchFrame_via {parsed : Frame}
    (own : ∀ ctx, worker.context slot = some ctx →
      ∀ key, worker.Unopened key → owns key ctx.sessionHandle)
    (pushes : PeerPushes allowed parsed)
    (bind : ∀ ctx, worker.context slot = some ctx → allowed (.bind slot ctx parsed))
    (unbind : ∀ channel, allowed (.conn slot fun ctx => ctx.unbindChannel channel))
    (complete : allowed (.conn slot fun ctx => ctx.adjustExchange streamId .completePush)) :
    Via allowed worker (worker.dispatchFrame slot streamId parsed).2 := by
  unfold dispatchFrame
  split
  · exact .refl
  rename_i ctx found
  split
  · rename_i active _
    split
    · exact .refl
    split
    · exact .refl
    split
    · refine Via.pair ?_
      unfold continueSessionFrame
      have continued : Via allowed worker (worker.continuePeerSession active.pushSession parsed) :=
        continuePeerSession_via pushes.streams
      simp only
      split
      · exact continued.trans (Via.op complete rfl)
      · exact continued
    · exact Via.pair (appendToExchange_via relays)
  split
  · exact openInboundExchange_via relays (own ctx found) pushes (bind ctx found) unbind
  · exact .refl

theorem abandonInput_via {active : InboundExchange} :
    Via allowed worker (worker.abandonInput active) := by
  unfold abandonInput
  split
  · exact .refl
  · exact Run.Reaches.trans (finishBackend_via relays) (closeRoute_via relays.toRequests)

theorem finishClientStream_via (streams : Streams allowed) :
    Via allowed worker (worker.finishClientStream slot streamId) := by
  have requests := relays.toRequests
  have dropped : Via allowed worker
      (worker.modifyConn slot fun ctx => ctx.dropFrameSpill streamId) :=
    conn_via requests (fun _ => ⟨rfl, rfl⟩) (.of_same (fun _ => rfl) (fun _ => .erase) fun _ => rfl)
  unfold finishClientStream
  split
  · exact .refl
  rename_i ctx _
  simp only
  generalize worker.modifyConn slot _ = first at dropped ⊢
  split
  · exact dropped
  rename_i active _
  have finished : Via allowed first (first.finishInput active) := by
    unfold finishInput
    split
    · exact .refl
    · exact finishBackend_via relays
  split
  · exact dropped.trans (finished.trans ((finishResponseWithoutPayload_via requests.reply).trans
      ((abortPeerPush_via streams).trans (forget_via requests))))
  · exact dropped.trans (finished.trans ((abortPeerPush_via streams).trans (forget_via requests)))

theorem resetClientInput_via (streams : Streams allowed) :
    Via allowed worker (worker.resetClientInput slot streamId) := by
  have requests := relays.toRequests
  have dropped : Via allowed worker
      (worker.modifyConn slot fun ctx => ctx.dropFrameSpill streamId) :=
    conn_via requests (fun _ => ⟨rfl, rfl⟩) (.of_same (fun _ => rfl) (fun _ => .erase) fun _ => rfl)
  unfold resetClientInput
  split
  · exact .refl
  rename_i ctx _
  have reset (worker : GatewayWorker) : Via allowed worker (worker.resetClient ctx streamId) :=
    Via.op (requests.reset _) rfl
  simp only
  generalize worker.modifyConn slot _ = first at dropped ⊢
  split
  · exact dropped.trans (reset _)
  split
  · exact dropped.trans (forget_via requests)
  · exact dropped.trans ((abandonInput_via relays).trans ((abortPeerPush_via streams).trans
      ((reset _).trans (forget_via requests))))

omit relays in
theorem stopClientOutput_via (requests : Requests allowed slot streamId owns) :
    Via allowed worker (worker.stopClientOutput slot streamId) := by
  unfold stopClientOutput
  split
  · exact .refl
  · exact Run.Reaches.trans (Via.op (requests.tables (fun tables =>
      (tables.suppressClientResponse _ streamId).suppressAuthResponse _ streamId)
      (.comp (.suppressClientResponse _ _)
        (.suppressAuthResponse _ _))) rfl)
      (Via.op (requests.reset _) rfl)

end Relays

/-- The operations of the answers that the gateway gives for a backend. -/
structure Answers (allowed : Op → Prop) : Prop where
  ask : allowed .ask
  reply : ∀ client streamId data author, allowed (.writeClient client streamId data true author)
  tables : ∀ change, Tables.Narrows change → allowed (.tables change)

theorem tables_via (answers : Answers allowed) {change : Tables → Tables}
    (narrows : Tables.Narrows change) :
    Via allowed worker { worker with inflight := change worker.inflight } :=
  Via.op (answers.tables change narrows) rfl

theorem answer_via (answers : Answers allowed) {session : SessionHandle} {streamId : Nat}
    {kind : ControlType} {body : Bytes} :
    Via allowed worker (worker.replyControl session streamId kind body) :=
  replyControl_via fun client data => answers.reply client streamId data .gateway

theorem failRoute_via (answers : Answers allowed) {message : String} {route : Route} :
    Via allowed worker (worker.failRoute message route) := by
  unfold failRoute
  split
  · exact answer_via answers
  · exact .refl

theorem failAuth_via (answers : Answers allowed) {message : String} {pending : PendingAuth} :
    Via allowed worker (worker.failAuth message pending) := by
  unfold failAuth
  split
  · exact .refl
  · exact answer_via answers

theorem failRequests_via (answers : Answers allowed) {message authMessage : String}
    {release : GatewayWorker → StreamKey → GatewayWorker}
    (releases : ∀ worker key, Via allowed worker (release worker key))
    {pickRoutes : Tables → List (StreamKey × Route) × Tables}
    {pickAuths : Tables → List (StreamKey × PendingAuth) × Tables}
    (narrows : Tables.Narrows fun tables => (pickRoutes tables).2)
    (also : Tables.Narrows fun tables => (pickAuths tables).2) :
    Via allowed worker (worker.failRequests message authMessage release pickRoutes pickAuths) :=
  (tables_via answers narrows).trans
    ((each_via fun _ _ _ => (failRoute_via answers).trans (releases _ _)).trans
      ((tables_via answers also).trans
        (each_via fun _ _ _ => (failAuth_via answers).trans (releases _ _))))

theorem expireInflight_via (answers : Answers allowed)
    (discard : ∀ key, allowed (.record (.backendDiscard key))) {now : Nat} :
    Via allowed worker (worker.expireInflight now) := by
  unfold expireInflight
  split
  · exact .refl
  · exact (failRequests_via answers (fun _ key => Via.op (discard key) rfl) (.takeRoutes _)
      (.takeAuths _)).trans (tables_via answers .refreshExpiryDeadline)

theorem failTransportRequests_via (answers : Answers allowed) {transport : Nat}
    {selector : StreamSelector} :
    Via allowed worker (worker.failTransportRequests transport selector) :=
  failRequests_via answers (fun _ _ => .refl) (.takeRoutes _) (.takeAuths _)

theorem handleBackendStreamControl_via (answers : Answers allowed) (streams : Streams allowed)
    (pushes : ∀ change, allowed (.pushes change)) {key : StreamKey} {reason : String}
    {peerInitiated : Bool} :
    Via allowed worker (worker.handleBackendStreamControl key reason peerInitiated) := by
  unfold handleBackendStreamControl
  split
  · exact (tables_via answers (.takeAuth key)).trans (failAuth_via answers)
  split
  · exact (failRoute_via answers).trans (tables_via answers (.closeRoute key))
  split
  · exact abortBackendPush_via streams pushes
  · exact .refl

theorem relayResponse_via (answers : Answers allowed)
    (relay : ∀ client streamId data isFin,
      allowed (.writeClient client streamId data isFin .backend))
    {key : StreamKey} {route : Route} {data : Bytes} {isFin : Bool} :
    Via allowed worker (worker.relayResponse key route data isFin) := by
  have finish (worker : GatewayWorker) : Via allowed worker
      (if isFin then { worker with inflight := worker.inflight.closeRoute key }
        else { worker with inflight := worker.inflight.touchRoute key worker.now }) := by
    split
    · exact tables_via answers (.closeRoute key)
    · exact tables_via answers (.touchRoute key worker.now)
  unfold relayResponse
  simp only
  split
  · exact finish worker
  rename_i response _
  split
  · exact tables_via answers (.closeRoute key)
  rename_i ctx _
  have written : Via allowed worker
      (worker.writeClient ctx.transport.ptr response.streamId data isFin .backend).2 :=
    Via.op (relay _ _ _ _) rfl
  split <;> rename_i answer <;> rw [answer] at written
  · exact written.trans (tables_via answers (.closeRoute key))
  · exact written.trans (finish _)

/-- The operations of sending a client to another node, the close of its connection apart. -/
structure Redirects (allowed : Op → Prop) (slot : Nat) : Prop where
  first : ∀ client streamId data, allowed (.writeClient client streamId data true .backend)
  notice : ∀ data, allowed (.openClient slot data true .gateway)

theorem redirectToHome_via {slot destId : Nat} {first : Option (Nat × Bytes)}
    (redirects : Redirects allowed slot)
    (close : ∀ ctx, worker.context slot = some ctx →
      allowed (.record (.close ctx.transport.ptr AppError.redirected.code))) :
    Via allowed worker (worker.redirectToHome slot destId first).2 := by
  unfold redirectToHome
  split
  · exact .refl
  rename_i ctx found
  split
  · exact .refl
  rename_i home address _
  have answered : Via allowed worker (worker.answerFirst ctx first) := by
    unfold answerFirst
    split
    · exact .refl
    · exact Via.op (redirects.first _ _ _) rfl
  have closed (worker : GatewayWorker) : Via allowed worker (worker.closeClient ctx .redirected) :=
    Via.op (close ctx found) rfl
  simp only
  split
  · exact answered.trans (closed _)
  · exact answered.trans (Run.Reaches.trans (Via.op (redirects.notice _) rfl) (closed _))

/-- The operations of the end of an authentication. -/
structure Completes (allowed : Op → Prop) : Prop where
  answers : Answers allowed
  redirects : ∀ slot, Redirects allowed slot

theorem completeAuth_via (completes : Completes allowed) {auth : PendingAuth}
    (admitClient : ∀ slot ctx, worker.conns.slotFor auth.clientSession = some slot →
      worker.context slot = some ctx → (classify auth.buffer).result = .success →
      worker.redirects ctx.realm (classify auth.buffer).grant.destId = false →
      allowed (.admitClient slot ctx auth.clientSession (classify auth.buffer).grant))
    (turnAway : ∀ slot ctx, worker.conns.slotFor auth.clientSession = some slot →
      worker.context slot = some ctx → (classify auth.buffer).result = .success →
      worker.redirects ctx.realm (classify auth.buffer).grant.destId = true →
      allowed (.record (.close ctx.transport.ptr AppError.redirected.code))) :
    Via allowed worker (worker.completeAuth auth) := by
  unfold completeAuth
  split
  · exact .refl
  split
  · exact .refl
  rename_i slot found _ ctx held
  have answer (worker : GatewayWorker) : Via allowed worker (if auth.responseSuppressed then worker
      else (worker.writeClient ctx.transport.ptr auth.clientStreamId auth.buffer true
        .backend).2) := by
    split
    · exact .refl
    · exact Via.op (completes.answers.reply _ _ _ _) rfl
  simp only
  split
  · rename_i success
    cases leaves : worker.redirects ctx.realm (classify auth.buffer).grant.destId with
    | true =>
        rw [redirectIfNotHome_of_redirects held leaves]
        refine redirectToHome_via (completes.redirects slot) fun own same => ?_
        rw [held, Option.some.injEq] at same
        subst same
        exact turnAway slot ctx found held success leaves
    | false =>
        rw [redirectIfNotHome_of_stays held leaves]
        exact Run.Reaches.trans (Via.op (admitClient slot ctx found held success leaves) rfl) (answer _)
  · exact answer worker
  · split
    · exact .refl
    · exact answer_via completes.answers

theorem collectAuthResponse_via (completes : Completes allowed) {key : StreamKey} {data : Bytes}
    {isFin : Bool}
    (admitClient : ∀ pending slot ctx, worker.inflight.lookupAuth key = some pending →
      worker.ask.1 = true → isFin = true →
      worker.conns.slotFor pending.clientSession = some slot → worker.context slot = some ctx →
      (classify (pending.buffer ++ data)).result = .success →
      worker.redirects ctx.realm (classify (pending.buffer ++ data)).grant.destId = false →
      allowed (.admitClient slot ctx pending.clientSession (classify (pending.buffer ++ data)).grant))
    (turnAway : ∀ pending slot ctx, worker.inflight.lookupAuth key = some pending →
      worker.ask.1 = true → isFin = true →
      worker.conns.slotFor pending.clientSession = some slot → worker.context slot = some ctx →
      (classify (pending.buffer ++ data)).result = .success →
      worker.redirects ctx.realm (classify (pending.buffer ++ data)).grant.destId = true →
      allowed (.record (.close ctx.transport.ptr AppError.redirected.code))) :
    Via allowed worker (worker.collectAuthResponse key data isFin) := by
  unfold collectAuthResponse
  split
  · exact .refl
  rename_i pending waiting
  have asked : Via allowed worker worker.ask.2 := Via.op completes.answers.ask rfl
  split <;> rename_i answer
  · rw [answer] at asked
    exact asked.trans (tables_via completes.answers (.takeAuth key))
  split
  · rw [answer] at asked
    exact asked.trans (tables_via completes.answers (.appendAuth key data))
  · rename_i last
    obtain rfl : worker.ask.2 = _ := congrArg Prod.snd answer
    have granted : worker.ask.1 = true := congrArg Prod.fst answer
    have isLast : isFin = true := by simpa using last
    refine asked.trans ((tables_via completes.answers
      (.comp (.appendAuth key data) (.takeAuth key))).trans
      (completeAuth_via completes ?_ ?_))
    · intro slot ctx found held success stays
      exact admitClient pending slot ctx waiting granted isLast found held success stays
    · intro slot ctx found held success leaves
      exact turnAway pending slot ctx waiting granted isLast found held success leaves

theorem finishOpenExchanges_via {ctx : ConnectionContext}
    (writeBackend : ∀ key data, allowed (.writeBackend key data true)) :
    Via allowed worker (worker.finishOpenExchanges ctx) := by
  refine each_via fun entry _ worker => ?_
  split
  · exact .refl
  · exact finishBackendStream_via writeBackend

theorem closeClientSession_via {handle : SessionHandle} {reason : SessionReason}
    (publish : ∀ slot reason, allowed (.publish slot .offline reason))
    (writeBackend : ∀ key data, allowed (.writeBackend key data true))
    (tables : ∀ change, Tables.Narrows change → allowed (.tables change))
    (remove : allowed (.remove handle)) :
    Via allowed worker (worker.closeClientSession handle reason) := by
  unfold closeClientSession
  split
  · exact .refl
  split
  · exact .refl
  rename_i slot _ _ ctx _
  have published : Via allowed worker
      (worker.publishOffline slot (ctx.offlineReason.getD reason)) :=
    publishOffline_via (publish _ _)
  exact published.trans ((finishOpenExchanges_via writeBackend).trans (Run.Reaches.trans
    (Via.op (tables _ (.purge handle)) rfl) (Via.op remove rfl)))

theorem expireAdmission_via {slot now : Nat} (revoke : ∀ ctx, worker.context slot = some ctx →
      ctx.peerNode = false → ctx.authenticated = true → ctx.isAdmitted now = false →
      allowed (.revoke slot .admissionExpired)) :
    Via allowed worker (expireAdmission now worker slot) := by
  unfold expireAdmission
  split
  · exact .refl
  rename_i ctx found
  split
  · exact .refl
  rename_i limited
  split
  · exact .refl
  rename_i late
  simp only [not_or, Bool.not_eq_true, Bool.not_eq_false] at limited
  refine Via.op (revoke ctx found limited.1 limited.2.1 ?_) rfl
  simp [ConnectionContext.isAdmitted, limited.2.2, late]

theorem refreshLease_via {slot now : Nat} (publish : ∀ ctx, worker.context slot = some ctx →
      ctx.authenticated = true → allowed (.publish slot .online .leaseRefresh)) :
    Via allowed worker (refreshLease now worker slot) := by
  unfold refreshLease refreshOnline
  split
  · exact .refl
  split
  · exact .refl
  rename_i ctx found
  split
  · exact .refl
  rename_i online
  split
  · exact .refl
  · exact Via.op (publish ctx found (by simpa using online)) rfl

theorem rehome_via {slot : Nat} (redirects : Redirects allowed slot)
    (close : ∀ ctx, worker.context slot = some ctx → ctx.peerNode = false → ctx.destId ≠ 0 →
      worker.placement.isHomeNode ctx.realm ctx.destId = false →
      allowed (.record (.close ctx.transport.ptr AppError.redirected.code))) :
    Via allowed worker (worker.rehome slot) := by
  unfold rehome
  split
  · exact .refl
  rename_i ctx found
  split
  · exact .refl
  rename_i bound
  split
  · exact .refl
  rename_i away
  refine redirectToHome_via redirects fun own same => ?_
  rw [found, Option.some.injEq] at same
  subst same
  simp only [not_or, Bool.not_eq_true] at bound
  exact close ctx found bound.1 bound.2 (by simpa using away)

end GatewayWorker

end LyuneGateway.Worker
