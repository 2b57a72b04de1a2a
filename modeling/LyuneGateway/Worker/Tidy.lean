import LyuneGateway.Worker.Aloof

/-!
# The backend streams between events

A stream that a client stream holds has been opened by the gateway and has not
been finished, and no other client stream holds it. Whatever is in the tables of
requests in flight has been opened. Nearly all operations keep it that way.
-/

namespace LyuneGateway.Worker

open Foundation Io Protocol Session

/-- The stream has been opened: by its backend, or by the gateway among the first so many. -/
def StreamKey.Opened (key : StreamKey) (next : Nat) : Prop :=
  key.stream % 2 = 1 ∨ key.stream < 2 * next

/-- The later action does not write to a stream that the earlier one ends. -/
def Action.Respects (earlier later : Action) : Prop :=
  ∀ key ∈ later.writesTo, earlier.ends key = false

instance (earlier later : Action) : Decidable (earlier.Respects later) :=
  inferInstanceAs (Decidable (∀ key ∈ later.writesTo, earlier.ends key = false))

/-- Nothing is written to a backend stream that the gateway has finished or discarded. -/
def Disciplined (log : List Action) : Prop := log.Pairwise Action.Respects

instance (log : List Action) : Decidable (Disciplined log) :=
  inferInstanceAs (Decidable (log.Pairwise Action.Respects))

theorem Disciplined.append {log more : List Action} (disciplined : Disciplined log)
    (frontal : ∀ action ∈ more, action.Frontal) : Disciplined (log ++ more) := by
  have respects {earlier later : Action} (member : later ∈ more) : earlier.Respects later := by
    intro key writes
    rw [(frontal later member).1] at writes
    cases writes
  exact List.pairwise_append.mpr ⟨disciplined,
    List.pairwise_iff_forall_sublist.mpr fun pair =>
      respects (pair.subset (List.mem_cons_of_mem _ List.mem_cons_self)),
    fun _ _ _ member => respects member⟩

theorem Disciplined.record {log : List Action} {action : Action} (disciplined : Disciplined log)
    (respects : ∀ earlier ∈ log, earlier.Respects action) : Disciplined (log ++ [action]) := by
  refine List.pairwise_append.mpr ⟨disciplined, List.pairwise_singleton _ _, ?_⟩
  intro earlier listed later member
  obtain rfl := List.mem_singleton.mp member
  exact respects earlier listed

/-- What is known of the backend streams between the events of a disciplined run. The exempt client
streams are about to let go of theirs. -/
structure Tidy (exempt : Nat → Nat → Prop) (worker : GatewayWorker) : Prop where
  disciplined : Disciplined worker.log
  logged : ∀ action ∈ worker.log, ∀ key, action.writesTo = some key ∨ action.ends key = true →
    key.Opened worker.nextBackendStream
  routed : ∀ key, worker.inflight.routes.lookup key ≠ none → key.Opened worker.nextBackendStream
  pending : ∀ key, worker.inflight.auths.lookup key ≠ none → key.Opened worker.nextBackendStream
  held : ∀ slot streamId stream, worker.holds slot streamId = some stream →
    stream.key.stream % 2 = 0 ∧ stream.key.stream < 2 * worker.nextBackendStream
  unfinished : ∀ slot streamId stream, ¬ exempt slot streamId →
    worker.holds slot streamId = some stream →
    ∀ data accepted, Action.backendSend stream.key data true accepted ∉ worker.log
  distinct : ∀ slot streamId stream other otherId own, worker.holds slot streamId = some stream →
    worker.holds other otherId = some own → own.key = stream.key →
    other = slot ∧ otherId = streamId

/-- No client stream is about to let go of its backend stream. -/
abbrev Neat (worker : GatewayWorker) : Prop := Tidy (fun _ _ => False) worker

theorem StreamKey.Opened.mono {key : StreamKey} {next later : Nat} (opened : key.Opened next)
    (grows : next ≤ later) : key.Opened later := by
  obtain odd | known := opened
  · exact .inl odd
  · exact .inr (by omega)

namespace Tidy

variable {exempt more : Nat → Nat → Prop} {worker after : GatewayWorker}

theorem mono (tidy : Tidy exempt worker)
    (implies : ∀ slot streamId, exempt slot streamId → more slot streamId) : Tidy more worker :=
  { tidy with
    unfinished := fun slot streamId stream kept =>
      tidy.unfinished slot streamId stream fun gone => kept (implies slot streamId gone) }

/-- Client streams that no longer hold anything need no exemption. -/
theorem settle (tidy : Tidy exempt worker)
    (empty : ∀ slot streamId, exempt slot streamId → worker.holds slot streamId = none) :
    Neat worker :=
  { tidy with
    unfinished := by
      intro slot streamId stream _ holds
      refine tidy.unfinished slot streamId stream (fun gone => ?_) holds
      rw [empty slot streamId gone] at holds
      cases holds }

theorem of_aloof (tidy : Tidy exempt worker) (aloof : Aloof worker after) : Tidy exempt after := by
  obtain ⟨more, extends_, frontal⟩ := aloof.log
  have listed {action : Action} {key : StreamKey}
      (member : action ∈ after.log) (about : action.writesTo = some key ∨ action.ends key = true) :
      action ∈ worker.log := by
    rw [extends_] at member
    refine (List.mem_append.mp member).resolve_right fun new => ?_
    obtain ⟨writes, ends⟩ := frontal action new
    simp [writes, ends] at about
  refine ⟨?_, ?_, ?_, ?_, ?_, ?_, ?_⟩
  · rw [extends_]
    exact tidy.disciplined.append frontal
  · intro action member key about
    rw [aloof.next]
    exact tidy.logged action (listed member about) key about
  · intro key present
    rw [aloof.next]
    exact tidy.routed key fun absent => present (aloof.routes.shrinks key absent)
  · intro key present
    rw [aloof.next]
    exact tidy.pending key fun absent => present (aloof.auths.shrinks key absent)
  · intro slot streamId stream holds
    rw [aloof.next]
    exact tidy.held slot streamId stream (aloof.holds slot streamId stream holds)
  · intro slot streamId stream kept holds data accepted member
    exact tidy.unfinished slot streamId stream kept (aloof.holds slot streamId stream holds) data
      accepted (listed member (.inl rfl))
  · intro slot streamId stream other otherId own holds also
    exact tidy.distinct slot streamId stream other otherId own
      (aloof.holds slot streamId stream holds) (aloof.holds other otherId own also)

/-- A new entry of the tables is for a stream that has been opened. -/
theorem track (tidy : Tidy exempt worker) (key : StreamKey) (change : Tables → Tables)
    (routes : ∀ tables : Tables, ∀ other, other ≠ key → tables.routes.lookup other = none →
      (change tables).routes.lookup other = none)
    (auths : ∀ tables : Tables, ∀ other, other ≠ key → tables.auths.lookup other = none →
      (change tables).auths.lookup other = none) :
    Tidy exempt (worker.track key change) := by
  by_cases opened : key.stream < 2 * worker.nextBackendStream
  · rw [GatewayWorker.track, if_pos opened]
    refine { tidy with routed := fun other present => ?_, pending := fun other present => ?_ }
    · by_cases same : other = key
      · exact .inr (same ▸ opened)
      · exact tidy.routed other fun absent => present (routes _ other same absent)
    · by_cases same : other = key
      · exact .inr (same ▸ opened)
      · exact tidy.pending other fun absent => present (auths _ other same absent)
  · rw [GatewayWorker.track, if_neg opened]
    exact tidy

/-- A write to a stream that has not ended; if it ends it, then no client stream holds on to it. -/
theorem writeBackend (tidy : Tidy exempt worker) {key : StreamKey} (data : Bytes) {isFin : Bool}
    (opened : key.Opened worker.nextBackendStream)
    (unended : ∀ action ∈ worker.log, action.ends key = false)
    (released : isFin = true → ∀ slot streamId stream, ¬ exempt slot streamId →
      worker.holds slot streamId = some stream → stream.key ≠ key) :
    Tidy exempt (worker.writeBackend key data isFin).2 := by
  refine { tidy with disciplined := ?_, logged := ?_, unfinished := ?_ }
  · refine tidy.disciplined.record fun earlier listed own writes => ?_
    obtain rfl : key = own := Option.some.inj writes
    exact unended earlier listed
  · intro action member own about
    obtain old | new := List.mem_append.mp member
    · exact tidy.logged action old own about
    · obtain rfl := List.mem_singleton.mp new
      simp only [Action.writesTo, Option.some.injEq, Action.ends, Bool.and_eq_true,
        decide_eq_true_eq] at about
      obtain rfl | ⟨rfl, -⟩ := about <;> exact opened
  · intro slot streamId stream kept holds own accepted member
    obtain old | new := List.mem_append.mp member
    · exact tidy.unfinished slot streamId stream kept holds own accepted old
    · have same := List.mem_singleton.mp new
      simp only [Action.backendSend.injEq] at same
      exact released same.2.2.1.symm slot streamId stream kept holds same.1

/-- The gateway counts the streams it opens. -/
theorem count (tidy : Tidy exempt worker) :
    Tidy exempt { worker with nextBackendStream := worker.nextBackendStream + 1 } where
  disciplined := tidy.disciplined
  logged action member key about := (tidy.logged action member key about).mono (Nat.le_succ _)
  routed key present := (tidy.routed key present).mono (Nat.le_succ _)
  pending key present := (tidy.pending key present).mono (Nat.le_succ _)
  held slot streamId stream holds := by
    have ⟨even, known⟩ := tidy.held slot streamId stream holds
    exact ⟨even, by simp only; omega⟩
  unfinished := tidy.unfinished
  distinct := tidy.distinct

/-- Nothing has been done to the next stream that the gateway opens. -/
theorem fresh (tidy : Tidy exempt worker) (transport : Nat) :
    ∀ action ∈ worker.log, action.ends ⟨transport, 2 * worker.nextBackendStream⟩ = false := by
  intro action member
  by_contra ended
  obtain odd | known := tidy.logged action member _ (.inr (by simpa using ended))
  · simp only at odd
    omega
  · exact absurd known (Nat.lt_irrefl _)

theorem fresh_ne (tidy : Tidy exempt worker) {transport slot streamId : Nat}
    {stream : BackendStream} (holds : worker.holds slot streamId = some stream) :
    stream.key ≠ ⟨transport, 2 * worker.nextBackendStream⟩ := by
  intro same
  have ⟨_, known⟩ := tidy.held slot streamId stream holds
  rw [same] at known
  exact absurd known (Nat.lt_irrefl _)

theorem openBackend (tidy : Tidy exempt worker) (transport : Nat) (data : Bytes) (isFin : Bool) :
    Tidy exempt (worker.openBackend transport data isFin).2 := by
  refine @writeBackend exempt _ tidy.count ⟨transport, 2 * worker.nextBackendStream⟩ data isFin
    (.inr ?_) (tidy.fresh transport) fun _ slot streamId stream _ holds => tidy.fresh_ne holds
  exact Nat.mul_lt_mul_of_pos_left (Nat.lt_succ_self _) (by decide)

/-- Streams are discarded that have been opened. -/
theorem discard (tidy : Tidy exempt worker) {key : StreamKey}
    (opened : key.Opened worker.nextBackendStream) :
    Tidy exempt (worker.record (.backendDiscard key)) := by
  refine { tidy with disciplined := ?_, logged := ?_, unfinished := ?_ }
  · refine tidy.disciplined.record fun earlier listed own writes => ?_
    cases writes
  · intro action member own about
    obtain old | new := List.mem_append.mp member
    · exact tidy.logged action old own about
    · obtain rfl := List.mem_singleton.mp new
      simp only [Action.writesTo, reduceCtorEq, Action.ends, decide_eq_true_eq, false_or] at about
      exact about ▸ opened
  · intro slot streamId stream kept holds own accepted member
    obtain old | new := List.mem_append.mp member
    · exact tidy.unfinished slot streamId stream kept holds own accepted old
    · cases List.mem_singleton.mp new

end Tidy

/-- The action ends no stream that a backend has opened, and discards none. -/
def Action.Mild (action : Action) : Prop :=
  (∀ key : StreamKey, key.stream % 2 = 1 → action.ends key = false) ∧
    ∀ key, action ≠ .backendDiscard key

theorem Action.Frontal.mild {action : Action} (frontal : action.Frontal) : action.Mild := by
  refine ⟨fun key _ => frontal.2 key, ?_⟩
  rintro key rfl
  simpa [Action.ends] using frontal.2 key

/-- What is known of the backend streams is kept, and what has happened is mild. -/
structure Keeps (exempt : Nat → Nat → Prop) (worker after : GatewayWorker) : Prop where
  tidy : Tidy exempt worker → Tidy exempt after
  log : Grows Action.Mild worker after

namespace Keeps

variable {exempt : Nat → Nat → Prop} {worker middle after : GatewayWorker}

theorem refl : Keeps exempt worker worker := ⟨id, .refl⟩

theorem trans (first : Keeps exempt worker middle) (second : Keeps exempt middle after) :
    Keeps exempt worker after :=
  ⟨second.tidy ∘ first.tidy, first.log.trans second.log⟩

theorem of_aloof (aloof : Aloof worker after) : Keeps exempt worker after where
  tidy tidy := tidy.of_aloof aloof
  log := aloof.log.mono fun _ => Action.Frontal.mild

theorem openBackend (transport : Nat) (data : Bytes) (isFin : Bool) :
    Keeps exempt worker (worker.openBackend transport data isFin).2 where
  tidy tidy := tidy.openBackend transport data isFin
  log := by
    refine ⟨[_], rfl, fun action listed => ?_⟩
    obtain rfl := List.mem_singleton.mp listed
    refine ⟨fun key odd => ?_, nofun⟩
    rw [Action.ends, Bool.and_eq_false_imp]
    intro same
    rw [← of_decide_eq_true same] at odd
    simp only at odd
    omega

theorem of_via (via : Via (fun op => ∀ worker, Keeps exempt worker (op.apply worker)) worker after) :
    Keeps exempt worker after :=
  @Run.Reaches.invariant _ _ _ _ _ _ (fun other => Keeps exempt worker other)
    (fun other _ sofar keeps => sofar.trans (keeps other)) via refl

end Keeps

/-- The operation keeps what is known of the backend streams. -/
def Op.KeepsTidy (exempt : Nat → Nat → Prop) (op : Op) : Prop :=
  ∀ worker, Keeps exempt worker (op.apply worker)

namespace Op.KeepsTidy

open GatewayWorker

variable {exempt : Nat → Nat → Prop}

theorem of_aloof {op : Op} (aloof : ∀ worker, Aloof worker (op.apply worker)) :
    op.KeepsTidy exempt := fun worker => .of_aloof (aloof worker)

theorem openBackend (transport : Nat) (data : Bytes) (isFin : Bool) :
    (Op.openBackend transport data isFin).KeepsTidy exempt :=
  fun _ => .openBackend transport data isFin

theorem openRoute (key : StreamKey) (route : Route) :
    (Op.track key fun tables => tables.openRoute key route).KeepsTidy exempt := by
  refine fun worker => ⟨fun tidy => tidy.track key (fun tables => tables.openRoute key route)
    (fun tables other different absent => ?_) fun tables other different absent => ?_, .refl⟩
  · rwa [Tables.openRoute_routes, AList.lookup_insert_ne different]
  · rwa [Tables.openRoute_auths]

theorem trackAuth (key : StreamKey) (pending : PendingAuth) :
    (Op.track key fun tables => tables.trackAuth key pending).KeepsTidy exempt := by
  refine fun worker => ⟨fun tidy => tidy.track key (fun tables => tables.trackAuth key pending)
    (fun tables other different absent => ?_) fun tables other different absent => ?_, .refl⟩
  · rwa [Tables.trackAuth_routes]
  · rwa [Tables.trackAuth_auths, AList.lookup_insert_ne different]

theorem tables {change : Tables → Tables} (narrows : Tables.Narrows change) :
    (Op.tables change).KeepsTidy exempt := of_aloof fun _ => .tables narrows

theorem writeClient (client streamId : Nat) (data : Bytes) (isFin : Bool) (author : Author) :
    (Op.writeClient client streamId data isFin author).KeepsTidy exempt :=
  of_aloof fun _ => .writeClient client streamId data isFin author

theorem openClient (slot : Nat) (data : Bytes) (isFin : Bool) (author : Author) :
    (Op.openClient slot data isFin author).KeepsTidy exempt :=
  of_aloof fun _ => .openClient slot data isFin author

theorem ask : Op.ask.KeepsTidy exempt := of_aloof fun _ => .ask

theorem bindDest (handle : SessionHandle) (destId : Nat) :
    (Op.bindDest handle destId).KeepsTidy exempt :=
  of_aloof fun _ => .setConns (ConnectionManager.exchange_of_traffic
    (ConnectionManager.traffic_bindDest handle destId))

theorem publish (slot : Nat) (kind : EventKind) (reason : SessionReason) :
    (Op.publish slot kind reason).KeepsTidy exempt := by
  refine fun worker => .of_via (publish_via ⟨?_, ?_, ?_, ?_⟩ ?_)
  · exact fun now => of_aloof fun _ => .modifyConn slot fun _ _ _ held => held
  · exact fun transport data => openBackend transport data true
  · exact ask
  · exact fun key route _ => openRoute key route
  · exact fun _ _ => of_aloof fun _ => .record ⟨rfl, fun _ => rfl⟩

theorem revokes (slot : Nat) (handle : SessionHandle) :
    Revokes (KeepsTidy exempt) slot handle where
  publish reason := publish slot .offline reason
  revoke := of_aloof fun _ => .modifyConn slot fun _ _ _ held => held
  unbind := bindDest handle 0

theorem revoke (slot : Nat) (reason : SessionReason) :
    (Op.revoke slot reason).KeepsTidy exempt := by
  intro worker
  cases found : worker.context slot with
  | none =>
      simp only [apply, revokeAdmission, found]
      exact .refl
  | some ctx => exact .of_via (revokeAdmission_via found (revokes slot ctx.sessionHandle))

theorem kick (realm : RealmId) (token : ConnToken) : (Op.kick realm token).KeepsTidy exempt :=
  fun _ => .of_via (kickOne_via (fun slot ctx _ _ _ => revokes slot ctx.sessionHandle)
    (fun slot data => openClient slot data true .gateway)
    fun _ _ _ _ _ => of_aloof fun _ => .record ⟨rfl, fun _ => rfl⟩)

theorem admitClient (slot : Nat) (ctx : ConnectionContext) (handle : SessionHandle) (grant : AuthGrant) :
    (Op.admitClient slot ctx handle grant).KeepsTidy exempt := by
  refine fun _ => .of_via (admitSession_via ⟨?_, ?_, ?_, ?_⟩)
  · exact fun reason => publish slot .offline reason
  · exact publish slot .online .authenticated
  · exact fun _ => of_aloof fun _ => .modifyConn slot fun _ _ _ held => held
  · exact bindDest handle grant.destId

theorem streams : Streams (KeepsTidy exempt) where
  sessions _ _ _ := of_aloof fun _ => .setSessions _
  attach _ _ _ := of_aloof fun _ => .attachOne _ _ _
  writeSession _ _ := of_aloof fun _ => .writeSessionFrame _ _
  abortSession _ := of_aloof fun _ => .abortSession _
  deliver _ _ _ _ := of_aloof fun _ => .deliver _ _ _ _

theorem locals : Locals (KeepsTidy exempt) where
  openClient slot bytes := openClient slot bytes true .backend
  sendEphemeral _ _ := of_aloof fun _ => .sendEphemeral _ _

theorem forwards (realm : RealmId) (session : Nat) (bytes : Bytes) (streaming : Bool) :
    Forwards (KeepsTidy exempt) realm session bytes streaming where
  deliver _ := of_aloof fun _ => .deliver _ _ _ _
  sendPeer _ := of_aloof fun _ => .sendPeer _ _ _ _

theorem peerPushes (parsed : Frame) : PeerPushes (KeepsTidy exempt) parsed where
  locals := locals
  streams := streams
  forwards realm := forwards realm 0 parsed.bytes false
  sendPeer _ _ := of_aloof fun _ => .sendPeer _ _ _ _

theorem requests (slot streamId : Nat) : Requests (KeepsTidy exempt) slot streamId (fun _ _ => True) where
  ask := ask
  reply client data := writeClient client streamId data true .gateway
  reset _ := of_aloof fun _ => .record ⟨rfl, fun _ => rfl⟩
  openBackend := openBackend
  tables _ := tables
  trackAuth key pending _ := trackAuth key pending
  conn change _ keeps := of_aloof fun _ => .modifyConn slot fun ctx other stream holds => by
    by_cases same : other = streamId
    · subst same
      exact keeps.own ctx stream holds
    · rw [ConnectionContext.holds, keeps.others ctx other same] at holds
      exact holds

theorem completePush (slot streamId : Nat) :
    (Op.conn slot fun ctx => ctx.adjustExchange streamId .completePush).KeepsTidy exempt := by
  refine of_aloof fun _ => .modifyConn slot fun ctx other stream holds => ?_
  unfold ConnectionContext.holds ConnectionContext.adjustExchange at *
  by_cases same : other = streamId
  · subst same
    rw [Table.lookup_adjust, Option.bind_map] at holds
    exact holds
  · rwa [Table.lookup_adjust_ne same] at holds

theorem answers : Answers (KeepsTidy exempt) where
  ask := ask
  reply client streamId data author := writeClient client streamId data true author
  tables _ := tables

theorem sidelines : Sidelines (KeepsTidy exempt) where
  locals := locals
  streams := streams
  forwards := forwards
  commands _ _ := {
    group := fun _ _ _ _ _ _ => of_aloof fun _ => .applyGroupChange _ _ _ _
    kick := fun _ _ _ _ _ => kick _ _ }
  completes := {
    answers := answers
    redirects := fun slot => {
      first := fun _ _ _ => writeClient _ _ _ _ _
      notice := fun data => openClient slot data true .gateway } }
  close _ _ := of_aloof fun _ => .record ⟨rfl, fun _ => rfl⟩
  reset _ _ := of_aloof fun _ => .record ⟨rfl, fun _ => rfl⟩
  relay client streamId data isFin := writeClient client streamId data isFin .backend
  admitClient := admitClient
  publish := publish
  revoke := revoke
  pushes _ := of_aloof fun _ => .setPushes _
  placement _ _ := of_aloof fun _ => .refreshPlacement _ _
  outside _ := of_aloof fun _ => .changeOutside _

end Op.KeepsTidy

namespace GatewayWorker

variable {worker after : GatewayWorker}

def Discarded (worker : GatewayWorker) (key : StreamKey) : Prop :=
  Action.backendDiscard key ∈ worker.log

instance (worker : GatewayWorker) (key : StreamKey) : Decidable (worker.Discarded key) :=
  inferInstanceAs (Decidable (Action.backendDiscard key ∈ worker.log))

/-- A stream that is neither finished nor discarded has not ended. -/
theorem unended {key : StreamKey}
    (unfinished : ∀ data accepted, Action.backendSend key data true accepted ∉ worker.log)
    (kept : ¬ worker.Discarded key) : ∀ action ∈ worker.log, action.ends key = false := by
  intro action listed
  by_contra ended
  cases action with
  | backendSend own data isFin accepted =>
      simp only [Action.ends, Bool.and_eq_true, decide_eq_true_eq, Bool.not_eq_false] at ended
      obtain ⟨rfl, rfl⟩ := ended
      exact unfinished data accepted listed
  | backendDiscard own =>
      simp only [Action.ends, Bool.not_eq_false, decide_eq_true_eq] at ended
      exact kept (ended ▸ listed)
  | _ => exact ended rfl

end GatewayWorker

namespace Tidy

open GatewayWorker

variable {exempt : Nat → Nat → Prop} {worker after : GatewayWorker}

theorem of_via (tidy : Tidy exempt worker) (via : Via (Op.KeepsTidy exempt) worker after) :
    Tidy exempt after := (Keeps.of_via via).tidy tidy

theorem finishBackendStream (tidy : Tidy exempt worker) {stream : BackendStream}
    (opened : stream.key.Opened worker.nextBackendStream)
    (unended : worker.registry stream.scope ≠ none →
      ∀ action ∈ worker.log, action.ends stream.key = false)
    (released : ∀ slot streamId own, ¬ exempt slot streamId →
      worker.holds slot streamId = some own → own.key ≠ stream.key) :
    Tidy exempt (worker.finishBackendStream stream) := by
  unfold GatewayWorker.finishBackendStream
  split
  · exact tidy
  · rename_i transport registered
    exact tidy.writeBackend [] opened (unended (by simp [registered])) fun _ => released

/-- The stream that a client stream holds can be finished, if the client stream lets go of it. -/
theorem finishHeld (tidy : Neat worker) {slot streamId : Nat} {stream : BackendStream}
    (holds : worker.holds slot streamId = some stream)
    (exempted : exempt slot streamId)
    (kept : worker.registry stream.scope ≠ none → ¬ worker.Discarded stream.key) :
    Tidy exempt (worker.finishBackendStream stream) := by
  refine (tidy.mono fun _ _ never => never.elim).finishBackendStream
    (.inr (tidy.held slot streamId stream holds).2) (fun registered => ?_) ?_
  · exact GatewayWorker.unended
      (tidy.unfinished slot streamId stream (fun never => never) holds) (kept registered)
  · rintro other otherId own held also same
    obtain ⟨rfl, rfl⟩ := tidy.distinct slot streamId stream other otherId own holds also same
    exact held exempted

/-- A client stream is given a new backend stream, on which nothing has ended. -/
theorem register (tidy : Neat worker) {slot streamId : Nat} {entry : InboundExchange}
    {stream : BackendStream} (backend : entry.backend = some stream)
    (even : stream.key.stream % 2 = 0) (opened : stream.key.stream < 2 * worker.nextBackendStream)
    (unheld : ∀ slot streamId own, worker.holds slot streamId = some own → own.key ≠ stream.key)
    (unended : ∀ action ∈ worker.log, action.ends stream.key = false) :
    Neat (worker.modifyConn slot fun ctx => ctx.registerInboundExchange streamId entry) := by
  have cases_ {other otherId : Nat} {own : BackendStream}
      (holds : (worker.modifyConn slot fun ctx =>
        ctx.registerInboundExchange streamId entry).holds other otherId = some own) :
      (other = slot ∧ otherId = streamId ∧ own = stream) ∨
        worker.holds other otherId = some own := by
    unfold GatewayWorker.holds at holds ⊢
    rw [modifyConn, ConnectionManager.exchange_modify] at holds
    split at holds
    · rename_i here
      cases found : worker.conns.context slot with
      | none => simp [found] at holds
      | some ctx =>
          rw [found, Option.bind_some, ConnectionContext.registerInboundExchange] at holds
          by_cases same : otherId = streamId
          · subst same
            rw [AList.lookup_insert, Option.bind_some, backend] at holds
            exact .inl ⟨here, rfl, (Option.some.inj holds).symm⟩
          · rw [AList.lookup_insert_ne same] at holds
            rw [here, ConnectionManager.exchange_of_context found]
            exact .inr holds
    · exact .inr holds
  refine { tidy with held := ?_, unfinished := ?_, distinct := ?_ }
  · intro other otherId own holds
    obtain ⟨-, -, rfl⟩ | old := cases_ holds
    · exact ⟨even, opened⟩
    · exact tidy.held other otherId own old
  · intro other otherId own _ holds data accepted listed
    obtain ⟨-, -, rfl⟩ | old := cases_ holds
    · simpa [Action.ends] using unended _ listed
    · exact tidy.unfinished other otherId own (fun never => never) old data accepted listed
  · intro first firstId stream' second secondId own holds also same
    obtain ⟨rfl, rfl, rfl⟩ | old := cases_ holds
    · obtain ⟨rfl, rfl, rfl⟩ | former := cases_ also
      · exact ⟨rfl, rfl⟩
      · exact absurd same (unheld second secondId own former)
    · obtain ⟨rfl, rfl, rfl⟩ | former := cases_ also
      · exact absurd same.symm (unheld first firstId stream' old)
      · exact tidy.distinct first firstId stream' second secondId own old former same

end Tidy

end LyuneGateway.Worker
