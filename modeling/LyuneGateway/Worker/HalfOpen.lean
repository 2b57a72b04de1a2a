import LyuneGateway.Worker.Exchanges

/-!
# Backend streams that are left half open

A client stream that is forwarded holds a backend stream until its request has
been passed on. What it lets go of should be at its end: the gateway has sent its
FIN or has discarded the stream, or the backend can no longer be reached. A
further frame lets go of a stream whose response is over without looking whether
it is.
-/

namespace LyuneGateway.Worker

open Foundation Io Protocol Session

/-- The action ends the gateway's side of a backend stream. -/
def Action.ends (key : StreamKey) : Action → Bool
  | .backendSend own _ isFin _ => own = key && isFin
  | .backendDiscard own => own = key
  | _ => false

/-- The backend stream that an action writes to. -/
def Action.writesTo : Action → Option StreamKey
  | .backendSend key .. => some key
  | _ => none

namespace GatewayWorker

variable {worker after : GatewayWorker}

/-- The backend stream that a client stream holds. -/
def holds (worker : GatewayWorker) (slot streamId : Nat) : Option BackendStream :=
  (worker.conns.exchange slot streamId).bind InboundExchange.backend

/-- The gateway's side of a backend stream is at its end, or its transport is not registered. -/
def Released (worker : GatewayWorker) (stream : BackendStream) : Prop :=
  (∃ action ∈ worker.log, action.ends stream.key = true) ∨ worker.registry stream.scope = none

instance (worker : GatewayWorker) (stream : BackendStream) : Decidable (worker.Released stream) :=
  inferInstanceAs (Decidable (_ ∨ _))

namespace Released

variable {stream : BackendStream}

theorem of_undisturbed (released : worker.Released stream) (calm : Undisturbed worker after) :
    after.Released stream := by
  obtain ⟨action, listed, ends⟩ | gone := released
  · exact .inl ⟨action, calm.log.mem_log_of_mem listed, ends⟩
  · have registry : after.registry = worker.registry := congrArg Standing.registry calm.standing
    exact .inr (registry ▸ gone)

theorem of_fin {data : Bytes} {accepted : Bool}
    (sent : Action.backendSend stream.key data true accepted ∈ worker.log) :
    worker.Released stream :=
  .inl ⟨_, sent, by simp [Action.ends]⟩

theorem of_writeBackend (data : Bytes) :
    (worker.writeBackend stream.key data true).2.Released stream :=
  of_fin (List.mem_append_right _ (List.mem_singleton_self _))

theorem of_finish (worker : GatewayWorker) (stream : BackendStream) :
    (worker.finishBackendStream stream).Released stream := by
  unfold finishBackendStream
  split
  · rename_i gone
    exact .inr gone
  · exact of_writeBackend []

end Released

/-- The operations of a request are calm. -/
theorem calm_relays (slot streamId : Nat) : Relays Op.Calm slot streamId (fun _ _ => True) where
  ask _ := .ask
  reply _ _ _ := .writeClient _ _ _ _ _
  reset _ _ := .record trivial
  openBackend _ _ _ _ := .openBackend _ _ _
  tables _ _ worker := { @Undisturbed.refl worker with }
  conn _ _ _ _ := .modifyConn slot _
  writeBackend _ _ _ _ := .writeBackend _ _ _
  trackAuth key pending _ _ := .track key fun tables => tables.trackAuth key pending
  openRoute key route _ _ := .track key fun tables => tables.openRoute key route
  register _ _ _ := .modifyConn slot _

theorem calm_streams : Streams Op.Calm where
  sessions _ _ _ _ := .setSessions _
  attach _ _ _ _ := .attachOne _ _ _
  writeSession _ _ _ := .writeSessionFrame _ _
  abortSession _ _ := .abortSession _
  deliver _ _ _ _ _ := .deliver _ _ _ _

theorem calm_peerPushes (parsed : Frame) : PeerPushes Op.Calm parsed where
  locals := ⟨fun _ _ _ => .openClient _ _ _ _, fun _ _ _ => Undisturbed.ask.trans (.record trivial)⟩
  streams := calm_streams
  forwards _ := ⟨fun _ _ => .deliver _ _ _ _, fun _ _ => .sendPeer _ _ _ _⟩
  sendPeer _ _ _ := .sendPeer _ _ _ _

theorem undisturbed_frame (slot streamId : Nat) (parsed : Frame) :
    Undisturbed worker (worker.step (.frame slot streamId parsed)) :=
  .of_via (dispatchFrame_via (calm_relays slot streamId) (fun _ _ _ _ => trivial) (calm_peerPushes parsed)
    (fun _ _ _ => .resolveBind _ _ _) (fun _ _ => .modifyConn slot _) fun _ =>
      .modifyConn slot _)

theorem holds_eq_some {slot streamId : Nat} {stream : BackendStream}
    (holds : worker.holds slot streamId = some stream) :
    ∃ ctx active, worker.context slot = some ctx ∧
      ctx.inboundExchanges.lookup streamId = some active ∧ active.backend = some stream := by
  obtain ⟨active, held, backend⟩ := Option.bind_eq_some_iff.mp holds
  obtain ⟨ctx, found, listed⟩ := Option.bind_eq_some_iff.mp held
  exact ⟨ctx, active, found, listed, backend⟩

theorem holds_of_exchange {slot streamId : Nat}
    (same : after.conns.exchange slot streamId = worker.conns.exchange slot streamId) :
    after.holds slot streamId = worker.holds slot streamId := by
  rw [holds, same, holds]

/-- A stream that has a route is kept, or it is at its end after the frame. -/
theorem appendToExchange_releases {slot streamId : Nat} {ctx : ConnectionContext}
    {active : InboundExchange} {stream : BackendStream} {parsed : Frame} {transport : Nat}
    (holds : worker.holds slot streamId = some stream) (backend : active.backend = some stream)
    (registered : worker.registry stream.scope = some transport)
    (routed : worker.inflight.lookupRoute stream.key ≠ none) :
    (worker.appendToExchange slot ctx streamId active parsed).holds slot streamId = some stream ∨
      (worker.appendToExchange slot ctx streamId active parsed).Released stream := by
  have requests := (calm_relays slot streamId).toRequests
  unfold appendToExchange
  simp only [backend, registered]
  rw [if_neg (by simpa using routed)]
  generalize touched : { worker with
    inflight := worker.inflight.touchRoute stream.key worker.now } = first
  have kept : first.holds slot streamId = some stream := by
    rw [← touched]
    exact holds
  have fin := @Released.of_writeBackend first stream parsed.bytes
  cases answer : first.writeBackend stream.key parsed.bytes parsed.header.isLast with
  | mk accepted second =>
  obtain rfl : (first.writeBackend stream.key parsed.bytes parsed.header.isLast).2 = second :=
    congrArg Prod.snd answer
  cases accepted with
  | false =>
      have finished := Released.of_finish
        (first.writeBackend stream.key parsed.bytes parsed.header.isLast).2 stream
      exact .inr (finished.of_undisturbed (.of_via (Run.Reaches.trans (closeRoute_via requests)
        (Run.Reaches.trans (forget_via requests) (reject_via requests)))))
  | true =>
      simp only
      split
      · exact .inl kept
      rename_i last
      rw [Bool.not_eq_false] at last
      rw [last]
      have completed := @Undisturbed.modifyConn (first.writeBackend stream.key parsed.bytes true).2
        slot fun ctx => ctx.adjustExchange streamId .complete
      split
      · exact .inr (fin.of_undisturbed (completed.trans
          (.of_via (finishResponseWithoutPayload_via requests.reply))))
      · exact .inr (fin.of_undisturbed completed)

/-- A frame of a peer push leaves the backend stream of its client stream alone. -/
theorem holds_continueSessionFrame {slot streamId : Nat} {active : InboundExchange}
    {parsed : Frame} :
    (worker.continueSessionFrame slot streamId active parsed).holds slot streamId =
      worker.holds slot streamId := by
  have same : (worker.continuePeerSession active.pushSession parsed).conns.exchange =
      worker.conns.exchange :=
    Via.exchange ((continuePeerSession_via Op.Aside.sidelines.streams).mono fun _ _ =>
      Op.Aside.keepsExchanges)
  rw [← holds_of_exchange (congrFun (congrFun same slot) streamId)]
  unfold continueSessionFrame
  generalize worker.continuePeerSession active.pushSession parsed = continued
  simp only
  split
  · unfold holds
    rw [modifyConn, ConnectionManager.exchange_modify, if_pos rfl, ConnectionManager.exchange]
    cases continued.conns.context slot with
    | none => rfl
    | some ctx =>
        simp only [Option.bind_some, ConnectionContext.adjustExchange, Table.lookup_adjust]
        cases ctx.inboundExchanges.lookup streamId <;> rfl
  · rfl

/-- A further frame keeps the stream that its client stream holds, or the stream is at its end,
unless the stream has lost its route before. -/
theorem frame_releases {slot streamId : Nat} {stream : BackendStream} {parsed : Frame}
    (holds : worker.holds slot streamId = some stream)
    (routed : parsed.header.isOpen = true ∨ worker.inflight.lookupRoute stream.key ≠ none ∨
      worker.Released stream) :
    (worker.step (.frame slot streamId parsed)).holds slot streamId = some stream ∨
      (worker.step (.frame slot streamId parsed)).Released stream := by
  by_cases released : worker.Released stream
  · exact .inr (released.of_undisturbed (undisturbed_frame slot streamId parsed))
  obtain ⟨ctx, active, found, listed, backend⟩ := holds_eq_some holds
  simp only [step, dispatchFrame, found, listed]
  split
  · exact .inl holds
  split
  · exact .inl holds
  rename_i further
  split
  · exact .inl (holds_continueSessionFrame.trans holds)
  · have route := (routed.resolve_left further).resolve_right released
    cases registered : worker.registry stream.scope with
    | none => exact absurd (.inr registered) released
    | some transport => exact appendToExchange_releases holds backend registered route

/-- A further frame of a stream that has lost its route makes the client stream forget it. -/
theorem frame_forgets {slot streamId : Nat} {stream : BackendStream} {parsed : Frame}
    (sound : worker.conns.Sound) (holds : worker.holds slot streamId = some stream)
    (further : parsed.header.isOpen = false)
    (registered : worker.registry stream.scope ≠ none)
    (unrouted : worker.inflight.lookupRoute stream.key = none) :
    worker.step (.frame slot streamId parsed) =
      worker.modifyConn slot fun ctx => ctx.removeInboundExchange streamId := by
  obtain ⟨ctx, active, found, listed, backend⟩ := holds_eq_some holds
  have held := (ConnectionManager.exchange_of_context found streamId).trans listed
  obtain ⟨incomplete, noPush⟩ : active.inputComplete = false ∧ active.pushSession = 0 :=
    (sound slot streamId active held).resolve_left (by simp [backend])
  obtain ⟨transport, registered⟩ := Option.ne_none_iff_exists'.mp registered
  simp [step, dispatchFrame, found, listed, incomplete, further, noPush, appendToExchange, backend,
    registered, unrouted]

theorem holds_forget (slot streamId : Nat) :
    (worker.modifyConn slot fun ctx => ctx.removeInboundExchange streamId).holds slot streamId =
      none := by
  unfold holds
  rw [modifyConn, ConnectionManager.exchange_modify, if_pos rfl]
  cases worker.conns.context slot with
  | none => rfl
  | some ctx => simp [ConnectionContext.removeInboundExchange]

theorem holds_complete (slot streamId : Nat) :
    (worker.modifyConn slot fun ctx => ctx.adjustExchange streamId .complete).holds slot streamId =
      none := by
  unfold holds
  rw [modifyConn, ConnectionManager.exchange_modify, if_pos rfl]
  cases worker.conns.context slot with
  | none => rfl
  | some ctx =>
      simp only [Option.bind_some, ConnectionContext.adjustExchange, Table.lookup_adjust]
      cases ctx.inboundExchanges.lookup streamId <;> rfl

theorem finish_releases {slot streamId : Nat} {stream : BackendStream}
    (holds : worker.holds slot streamId = some stream) :
    (worker.finishClientStream slot streamId).Released stream := by
  have relays := calm_relays slot streamId
  obtain ⟨ctx, active, found, listed, backend⟩ := holds_eq_some holds
  unfold finishClientStream
  simp only [found, listed, finishInput, backend]
  have finished := Released.of_finish
    (worker.modifyConn slot fun ctx => ctx.dropFrameSpill streamId) stream
  refine finished.of_undisturbed (.of_via ?_)
  split
  · exact (finishResponseWithoutPayload_via relays.reply).trans
      ((abortPeerPush_via calm_streams).trans (forget_via relays.toRequests))
  · exact (abortPeerPush_via calm_streams).trans (forget_via relays.toRequests)

theorem reset_releases {slot streamId : Nat} {stream : BackendStream}
    (sound : worker.conns.Sound) (holds : worker.holds slot streamId = some stream) :
    (worker.resetClientInput slot streamId).Released stream := by
  have relays := calm_relays slot streamId
  obtain ⟨ctx, active, found, listed, backend⟩ := holds_eq_some holds
  have held := (ConnectionManager.exchange_of_context found streamId).trans listed
  obtain ⟨incomplete, -⟩ : active.inputComplete = false ∧ active.pushSession = 0 :=
    (sound slot streamId active held).resolve_left (by simp [backend])
  unfold resetClientInput
  simp only [found, listed, incomplete, Bool.false_eq_true, if_false, abandonInput, backend]
  have finished := Released.of_finish
    (worker.modifyConn slot fun ctx => ctx.dropFrameSpill streamId) stream
  refine finished.of_undisturbed (.of_via ?_)
  exact Run.Reaches.trans (closeRoute_via relays.toRequests) ((abortPeerPush_via calm_streams).trans
    (Run.Reaches.trans (Via.op (relays.reset _) rfl) (forget_via relays.toRequests)))

/-- The streams that a connection holds are at their end once it has finished them. -/
theorem finishOpenExchanges_releases {ctx : ConnectionContext} {streamId : Nat}
    {stream : BackendStream} (holds : ctx.holds streamId = some stream) :
    (worker.finishOpenExchanges ctx).Released stream := by
  obtain ⟨active, listed, backend⟩ := Option.bind_eq_some_iff.mp holds
  have member := AList.mem_lookup_iff.mp listed
  unfold finishOpenExchanges
  generalize ctx.inboundExchanges.entries = entries at member ⊢
  induction entries generalizing worker with
  | nil => cases member
  | cons entry entries ih =>
      obtain rfl | later := List.mem_cons.mp member
      · simp only [List.foldl_cons, backend]
        refine (Released.of_finish worker stream).of_undisturbed (.of_via (each_via ?_))
        intro other _ worker
        split
        · exact .refl
        · exact finishBackendStream_via fun key data _ => .writeBackend key data true
      · exact ih later

theorem close_releases {handle : SessionHandle} {reason : SessionReason} {slot streamId : Nat}
    {stream : BackendStream} (holds : worker.holds slot streamId = some stream)
    (closes : worker.conns.slotFor handle = some slot) :
    (worker.closeClientSession handle reason).Released stream := by
  obtain ⟨ctx, active, found, listed, backend⟩ := holds_eq_some holds
  have held : ctx.holds streamId = some stream := Option.bind_eq_some_iff.mpr ⟨_, listed, backend⟩
  unfold closeClientSession
  simp only [closes, found]
  exact (finishOpenExchanges_releases held).of_undisturbed { @Undisturbed.refl _ with }

end GatewayWorker

/-- A worker, and the backend streams that failures of their connections have cut off. -/
structure Watch where
  worker : GatewayWorker
  failed : List StreamKey := []

namespace Watch

/-- A failure cuts off the streams it covers of those that have been written to. -/
def step (watch : Watch) (event : Event) : Watch where
  worker := watch.worker.step event
  failed :=
    match event with
    | .transportFailed transport selector => watch.failed ++
        (watch.worker.log.filterMap Action.writesTo).filter fun key =>
          key.transport = transport && selector.covers key.stream
    | _ => watch.failed

/-- A backend stream that need not be thought of any more. -/
def Concluded (watch : Watch) (stream : BackendStream) : Prop :=
  watch.worker.Released stream ∨ stream.key ∈ watch.failed

instance (watch : Watch) (stream : BackendStream) : Decidable (watch.Concluded stream) :=
  inferInstanceAs (Decidable (_ ∨ _))

/-- What a client stream no longer holds after the event is concluded. -/
def Settles (watch : Watch) (event : Event) : Prop :=
  ∀ slot streamId stream, watch.worker.holds slot streamId = some stream →
    (watch.step event).worker.holds slot streamId ≠ some stream →
    (watch.step event).Concluded stream

/-- The event is a further frame for a backend stream that is not concluded, although its response
is over. -/
def Severs (watch : Watch) : Event → Prop
  | .frame slot streamId parsed => ∃ stream, watch.worker.holds slot streamId = some stream ∧
      parsed.header.isOpen = false ∧ watch.worker.inflight.lookupRoute stream.key = none ∧
      ¬ watch.Concluded stream
  | _ => False

variable {watch : Watch} {event : Event}

/-- If every stream that is held remains so or is released, the event settles. -/
theorem Settles.of_keeps (keeps : ∀ slot streamId stream,
    watch.worker.holds slot streamId = some stream →
      (watch.worker.step event).holds slot streamId = some stream ∨
        (watch.step event).Concluded stream) : watch.Settles event :=
  fun slot streamId stream holds loses => (keeps slot streamId stream holds).resolve_left loses

theorem Settles.of_same (same : (watch.worker.step event).conns.exchange =
    watch.worker.conns.exchange) : watch.Settles event :=
  of_keeps fun slot streamId _ holds =>
    .inl ((GatewayWorker.holds_of_exchange (congrFun (congrFun same slot) streamId)).trans holds)

/-- An event about one client stream settles if it does so for that one. -/
theorem Settles.of_own {slot streamId : Nat}
    (about : (∃ parsed, event = .frame slot streamId parsed) ∨ event = .finish slot streamId ∨
      event = .reset slot streamId)
    (own : ∀ stream, watch.worker.holds slot streamId = some stream →
      (watch.worker.step event).holds slot streamId = some stream ∨
        (watch.step event).Concluded stream) : watch.Settles event := by
  refine of_keeps fun other streamId' stream holds => ?_
  by_cases same : other = slot ∧ streamId' = streamId
  · obtain ⟨rfl, rfl⟩ := same
    exact own stream holds
  · exact .inl ((GatewayWorker.holds_of_exchange (GatewayWorker.exchange_others about
      fun here there => same ⟨here, there⟩)).trans holds)

theorem settles_iff (indexed : watch.worker.conns.Indexed) (sound : watch.worker.conns.Sound)
    (event : Event) : watch.Settles event ↔ ¬ watch.Severs event := by
  constructor
  · intro settles severs
    cases event with
    | frame slot streamId parsed =>
        obtain ⟨stream, holds, further, unrouted, open_⟩ := severs
        have registered : watch.worker.registry stream.scope ≠ none :=
          fun gone => open_ (.inl (.inr gone))
        have forgets : (watch.step (.frame slot streamId parsed)).worker =
            watch.worker.modifyConn slot fun ctx => ctx.removeInboundExchange streamId :=
          GatewayWorker.frame_forgets sound holds further registered unrouted
        have concluded := settles slot streamId stream holds (by
          rw [forgets, GatewayWorker.holds_forget]
          exact nofun)
        rw [Concluded, forgets] at concluded
        exact open_ concluded
    | _ => exact severs
  · intro kept
    cases requests : event.isRequest with
    | false => exact .of_same (GatewayWorker.exchange_step requests)
    | true =>
        cases event with
        | accept kind accepting resolved =>
            refine .of_same ?_
            simp only [GatewayWorker.step, GatewayWorker.acceptClientSession]
            split
            · exact GatewayWorker.exchange_addConnection indexed _ _ _
            · rfl
        | acceptPeer accepting =>
            refine .of_same ?_
            simp only [GatewayWorker.step, GatewayWorker.handlePeerConnection]
            split
            · exact GatewayWorker.exchange_addConnection indexed _ _ _
            · rfl
        | close handle reason =>
            refine .of_keeps fun slot streamId stream holds => ?_
            by_cases closes : watch.worker.conns.slotFor handle = some slot
            · exact .inr (.inl (GatewayWorker.close_releases holds closes))
            · refine .inl ((GatewayWorker.holds_of_exchange ?_).trans holds)
              exact (GatewayWorker.exchange_close handle reason slot streamId).trans
                (if_neg closes)
        | frame slot streamId parsed =>
            refine .of_own (.inl ⟨parsed, rfl⟩) fun stream holds => ?_
            by_cases concluded : watch.Concluded stream
            · exact .inr (concluded.imp_left fun released =>
                released.of_undisturbed (GatewayWorker.undisturbed_frame slot streamId parsed))
            · refine (GatewayWorker.frame_releases holds ?_).imp_right .inl
              by_contra lost
              simp only [not_or, Bool.not_eq_true, not_not] at lost
              exact kept ⟨stream, holds, lost.1, lost.2.1, concluded⟩
        | frameSpill slot streamId known spill =>
            exact .of_same (GatewayWorker.exchange_frameSpill slot streamId known spill)
        | finish slot streamId =>
            exact .of_own (.inr (.inl rfl)) fun stream holds =>
              .inr (.inl (GatewayWorker.finish_releases holds))
        | reset slot streamId =>
            exact .of_own (.inr (.inr rfl)) fun stream holds =>
              .inr (.inl (GatewayWorker.reset_releases sound holds))
        | _ => cases requests

def start (worker : GatewayWorker) : Watch := { worker := worker }

/-- Every event of a run settles if and only if none is a further frame for a stream whose response
is over. -/
theorem every_event_settles_iff (config : Config) (router : MessageRouter) (fate : Nat → Bool)
    (events : List Event) :
    Run.Meets step Settles (start (.init config router fate)) events ↔
      Run.Meets step (fun watch event => ¬ watch.Severs event) (start (.init config router fate))
        events := by
  refine Run.meets_iff_of_invariant (fun watch =>
    watch.worker.conns.Indexed ∧ watch.worker.conns.Sound) ?_ ?_ ?_
  · exact ⟨GatewayWorker.init_indexed config router fate,
      GatewayWorker.init_sound config router fate⟩
  · exact fun watch event kept _ =>
      ⟨GatewayWorker.step_indexed kept.1 event, GatewayWorker.step_sound kept.1 kept.2 event⟩
  · exact fun watch event kept => watch.settles_iff kept.1 kept.2 event

/-- A client streams a request to a service, whose response is over before the request is. -/
def earlyResponse : List Event :=
  [.outside (.registry fun _ => some 9), .accept .rawQuic true (some 7),
    .frame 0 0 (openFrame .service {} .required {} (text "upload")),
    .response ⟨9, 0⟩ (text "refused") true, .frame 0 0 (dataFrame {} (text "more"))]

theorem early_response_severs :
    ¬ Run.Meets step Settles (start .alone) earlyResponse := by
  intro settles
  have severed := settles.2.2.2.2.1 0 0 ⟨⟨9, 0⟩, ⟨7, {}⟩⟩ (by decide +kernel) (by decide +kernel)
  exact absurd severed (by decide +kernel)

end Watch

end LyuneGateway.Worker
