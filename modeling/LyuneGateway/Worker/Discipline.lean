import LyuneGateway.Worker.Tidy

/-!
# Writing to backend streams

Once the gateway has sent its FIN on a backend stream or has discarded the
stream, it should write to it no more. Expiry discards a stream that a client
stream still holds; a push stream may ask for several reports; and a request
that could not be tracked is finished a second time. A run that avoids these
writes with discipline.
-/

namespace LyuneGateway.Worker

open Foundation Io Protocol Session

namespace GatewayWorker

variable {worker : GatewayWorker}

/-- The client streams of which one is about to let go of its backend stream. -/
abbrev Just (slot streamId : Nat) : Nat → Nat → Prop :=
  fun other otherId => other = slot ∧ otherId = streamId

/-- A held stream that is about to be finished has not been discarded. -/
def Finishable (worker : GatewayWorker) (slot streamId : Nat) : Prop :=
  ∀ stream ∈ worker.holds slot streamId, worker.registry stream.scope ≠ none →
    ¬ worker.Discarded stream.key

/-- A client stream that has let go of its backend stream needs no exemption. -/
theorem settle_forget {slot streamId : Nat} (tidy : Tidy (Just slot streamId) worker) :
    Neat (worker.modifyConn slot fun ctx => ctx.removeInboundExchange streamId) := by
  have requests := @Op.KeepsTidy.requests (Just slot streamId) slot streamId
  refine (tidy.of_via (forget_via requests)).settle ?_
  rintro _ _ ⟨rfl, rfl⟩
  exact holds_forget _ _

theorem settle_complete {slot streamId : Nat} (tidy : Tidy (Just slot streamId) worker) :
    Neat (worker.modifyConn slot fun ctx => ctx.adjustExchange streamId .complete) := by
  have requests := @Op.KeepsTidy.requests (Just slot streamId) slot streamId
  have completed := @conn_via _ worker slot streamId _ requests
    (fun ctx => ctx.adjustExchange streamId .complete) (fun _ => ⟨rfl, rfl⟩) .complete
  refine (tidy.of_via completed).settle ?_
  rintro _ _ ⟨rfl, rfl⟩
  exact holds_complete _ _

/-- The input of an exchange is finished, so that it can be let go of. -/
theorem tidy_finishInput (tidy : Neat worker) {slot streamId : Nat} {active : InboundExchange}
    (held : worker.conns.exchange slot streamId = some active)
    (finishable : worker.Finishable slot streamId) :
    Tidy (Just slot streamId) (worker.finishInput active) := by
  unfold finishInput
  split
  · exact tidy.mono fun _ _ never => never.elim
  · rename_i stream backend
    have holds : worker.holds slot streamId = some stream := by rw [holds, held]; exact backend
    exact tidy.finishHeld holds ⟨rfl, rfl⟩ (finishable stream holds)

/-- A partial frame is dropped; what the client stream is connected to stays. -/
theorem dropFrameSpill_frame (tidy : Neat worker) {slot streamId : Nat}
    (finishable : worker.Finishable slot streamId) :
    Neat (worker.modifyConn slot fun ctx => ctx.dropFrameSpill streamId) ∧
      (worker.modifyConn slot fun ctx => ctx.dropFrameSpill streamId).Finishable slot streamId ∧
      (worker.modifyConn slot fun ctx => ctx.dropFrameSpill streamId).conns.exchange =
        worker.conns.exchange := by
  have same : (worker.modifyConn slot fun ctx => ctx.dropFrameSpill streamId).conns.exchange =
      worker.conns.exchange := ConnectionManager.exchange_modify_of_same slot fun _ => rfl
  refine ⟨tidy.of_aloof (.modifyConn slot fun _ _ _ held => held), ?_, same⟩
  unfold Finishable
  rw [holds_of_exchange (congrFun (congrFun same slot) streamId)]
  exact finishable

theorem settled_finish (tidy : Neat worker) {slot streamId : Nat}
    (finishable : worker.Finishable slot streamId) :
    Neat (worker.finishClientStream slot streamId) := by
  have requests := @Op.KeepsTidy.requests (Just slot streamId) slot streamId
  obtain ⟨dropped, ready, same⟩ := dropFrameSpill_frame tidy finishable
  unfold finishClientStream
  split
  · exact tidy
  rename_i ctx found
  simp only
  split
  · exact dropped
  rename_i active listed
  have finished := tidy_finishInput dropped (by
    rw [same, ConnectionManager.exchange_of_context found, listed]) ready
  apply settle_forget
  split
  · exact finished.of_via ((finishResponseWithoutPayload_via requests.reply).trans
      (abortPeerPush_via Op.KeepsTidy.streams))
  · exact finished.of_via (abortPeerPush_via Op.KeepsTidy.streams)

theorem settled_reset (tidy : Neat worker) {slot streamId : Nat}
    (finishable : worker.Finishable slot streamId) :
    Neat (worker.resetClientInput slot streamId) := by
  have requests := @Op.KeepsTidy.requests (Just slot streamId) slot streamId
  obtain ⟨dropped, ready, same⟩ := dropFrameSpill_frame tidy finishable
  unfold resetClientInput
  split
  · exact tidy
  rename_i ctx found
  simp only
  split
  · exact dropped.of_aloof (.record ⟨rfl, fun _ => rfl⟩)
  rename_i active listed
  have finished := tidy_finishInput dropped (by
    rw [same, ConnectionManager.exchange_of_context found, listed]) ready
  apply settle_forget
  split
  · exact dropped.mono fun _ _ never => never.elim
  have abandoned : Tidy (Just slot streamId) ((worker.modifyConn slot fun ctx =>
      ctx.dropFrameSpill streamId).abandonInput active) := by
    unfold abandonInput
    unfold finishInput at finished
    split
    · rename_i none_
      rwa [none_] at finished
    · rename_i stream backend
      rw [backend] at finished
      exact finished.of_via (closeRoute_via requests)
  exact abandoned.of_via ((abortPeerPush_via Op.KeepsTidy.streams).trans
    (Via.op (requests.reset _) rfl))

/-- Finishing a stream is one write at most. -/
theorem finishBackendStream_frame (stream : BackendStream) :
    (worker.finishBackendStream stream).conns = worker.conns ∧
      (worker.finishBackendStream stream).registry = worker.registry ∧
      (worker.finishBackendStream stream).nextBackendStream = worker.nextBackendStream ∧
      ∀ key, key ≠ stream.key → (∀ action ∈ worker.log, action.ends key = false) →
        ∀ action ∈ (worker.finishBackendStream stream).log, action.ends key = false := by
  unfold finishBackendStream
  split
  · exact ⟨rfl, rfl, rfl, fun _ _ unended => unended⟩
  refine ⟨rfl, rfl, rfl, fun key different unended action listed => ?_⟩
  obtain old | new := List.mem_append.mp listed
  · exact unended action old
  · obtain rfl := List.mem_singleton.mp new
    simp [Action.ends, Ne.symm different]

/-- The backend streams of exchanges are finished one by one. -/
theorem tidy_finishAll {exempt : Nat → Nat → Prop}
    {entries : List (Sigma fun _ : Nat => InboundExchange)} (tidy : Tidy exempt worker)
    (ready : ∀ entry ∈ entries, ∀ stream ∈ entry.2.backend,
      stream.key.Opened worker.nextBackendStream ∧ (worker.registry stream.scope ≠ none →
        ∀ action ∈ worker.log, action.ends stream.key = false))
    (released : ∀ entry ∈ entries, ∀ stream ∈ entry.2.backend, ∀ slot streamId own,
      ¬ exempt slot streamId → worker.holds slot streamId = some own → own.key ≠ stream.key)
    (apart : entries.Pairwise fun first second => ∀ stream ∈ first.2.backend,
      ∀ own ∈ second.2.backend, stream.key ≠ own.key) :
    Tidy exempt (entries.foldl (fun worker entry =>
      match entry.2.backend with
      | none => worker
      | some stream => worker.finishBackendStream stream) worker) := by
  induction entries generalizing worker with
  | nil => exact tidy
  | cons entry entries ih =>
      have later {other : Sigma fun _ : Nat => InboundExchange} (listed : other ∈ entries) :
          other ∈ entry :: entries := List.mem_cons_of_mem entry listed
      simp only [List.foldl_cons]
      cases backend : entry.2.backend with
      | none =>
          exact ih tidy (fun other listed => ready other (later listed))
            (fun other listed => released other (later listed)) (List.pairwise_cons.mp apart).2
      | some stream =>
          have own := ready entry List.mem_cons_self stream backend
          have ⟨conns, registry, next, spares⟩ := @finishBackendStream_frame worker stream
          refine ih (tidy.finishBackendStream own.1 own.2
            (released entry List.mem_cons_self stream backend)) ?_ ?_
            (List.pairwise_cons.mp apart).2
          · intro other listed following held
            obtain ⟨opened, unended⟩ := ready other (later listed) following held
            rw [next, registry]
            refine ⟨opened, fun registered => spares _ ?_ (unended registered)⟩
            exact Ne.symm ((List.pairwise_cons.mp apart).1 other listed stream backend following held)
          · intro other listed following held slot streamId held' kept holds
            rw [GatewayWorker.holds, conns] at holds
            exact released other (later listed) following held slot streamId held' kept holds

/-- The backend streams of one connection can all be finished. -/
theorem tidy_finishOpenExchanges (tidy : Neat worker) {slot : Nat} {ctx : ConnectionContext}
    (holds : ∀ streamId active, ctx.inboundExchanges.lookup streamId = some active →
      worker.conns.exchange slot streamId = some active)
    (finishable : ∀ streamId, worker.Finishable slot streamId) :
    Tidy (fun other _ => other = slot) (worker.finishOpenExchanges ctx) := by
  have held {entry : Sigma fun _ : Nat => InboundExchange}
      (listed : entry ∈ ctx.inboundExchanges.entries) {stream : BackendStream}
      (backend : entry.2.backend = some stream) : worker.holds slot entry.1 = some stream := by
    rw [GatewayWorker.holds, holds entry.1 entry.2 (AList.mem_lookup_iff.mpr listed)]
    exact backend
  refine tidy_finishAll (tidy.mono fun _ _ never => never.elim) ?_ ?_ ?_
  · intro entry listed stream backend
    have own := held listed backend
    refine ⟨.inr (tidy.held slot entry.1 stream own).2, fun registered => ?_⟩
    exact unended (tidy.unfinished slot entry.1 stream (fun never => never) own)
      (finishable entry.1 stream own registered)
  · intro entry listed stream backend other otherId own kept also same
    exact kept (tidy.distinct slot entry.1 stream other otherId own (held listed backend) also
      same).1
  · refine (List.nodupKeys_iff_pairwise.mp ctx.inboundExchanges.nodupKeys).imp_of_mem ?_
    intro first second listed also different stream backend own backend' same
    exact different (tidy.distinct slot second.1 own slot first.1 stream (held also backend')
      (held listed backend) same).2

theorem settled_close (tidy : Neat worker) {handle : SessionHandle} {reason : SessionReason}
    (finishable : ∀ slot ∈ worker.conns.slotFor handle, ∀ streamId,
      worker.Finishable slot streamId) :
    Neat (worker.closeClientSession handle reason) := by
  cases known : worker.conns.slotFor handle with
  | none =>
      simp only [closeClientSession, known]
      exact tidy
  | some slot =>
  obtain ⟨-, -, ctx, found⟩ := ConnectionManager.slotFor_eq_some known
  have held : worker.context slot = some ctx := found
  suffices closed : Tidy (fun other _ => other = slot) (worker.closeClientSession handle reason) by
    refine closed.settle ?_
    rintro _ streamId rfl
    rw [holds, exchange_close, if_pos known]
    rfl
  simp only [closeClientSession, known, held]
  have keeps : Keeps (fun _ _ => False) worker
      (worker.publishOffline slot (ctx.offlineReason.getD reason)) :=
    .of_via (publishOffline_via (Op.KeepsTidy.publish slot .offline _))
  have registry : (worker.publishOffline slot (ctx.offlineReason.getD reason)).registry =
      worker.registry := congrArg Standing.registry (Undisturbed.publishOffline slot _).standing
  have apart := @Via.exchange worker _ ((@publishOffline_via Op.Aside worker slot
    (ctx.offlineReason.getD reason) trivial).mono fun _ _ => Op.Aside.keepsExchanges)
  generalize worker.publishOffline slot (ctx.offlineReason.getD reason) = offline
    at keeps registry apart ⊢
  have finished : Tidy (fun other _ => other = slot) (offline.finishOpenExchanges ctx) := by
    refine tidy_finishOpenExchanges (keeps.tidy tidy) ?_ ?_
    · intro streamId active listed
      rw [apart, ConnectionManager.exchange_of_context found, listed]
    · intro streamId stream own registered discarded
      rw [registry] at registered
      rw [holds_of_exchange (congrFun (congrFun apart slot) streamId)] at own
      refine finishable slot known streamId stream own registered ?_
      exact (keeps.log.mem_log discarded).resolve_right fun mild => mild.2 stream.key rfl
  exact (finished.of_aloof (.tables (.purge handle))).of_aloof (.removeSession handle)

/-- Streams are discarded one by one, each after its client has been answered. -/
theorem tidy_discardAll {α : Type} {answer : GatewayWorker → α → GatewayWorker}
    (aloof : ∀ worker item, Aloof worker (answer worker item)) {entries : List (StreamKey × α)}
    (tidy : Neat worker)
    (opened : ∀ entry ∈ entries, entry.1.Opened worker.nextBackendStream) :
    Neat (entries.foldl (fun worker entry =>
      invalidateStream (answer worker entry.2) entry.1) worker) := by
  induction entries generalizing worker with
  | nil => exact tidy
  | cons entry entries ih =>
      have answered := aloof worker entry.2
      have known := opened entry List.mem_cons_self
      refine ih ((tidy.of_aloof answered).discard (answered.next ▸ known)) fun other listed => ?_
      exact answered.next ▸ opened other (List.mem_cons_of_mem entry listed)

theorem settled_expire (tidy : Neat worker) (now : Nat) :
    Neat (worker.expireInflight now) := by
  have answers : Answers fun op => ∀ worker, Aloof worker (op.apply worker) :=
    ⟨fun _ => .ask, fun _ _ _ _ _ => .writeClient _ _ _ _ _, fun _ narrows _ => .tables narrows⟩
  have failRoute (worker : GatewayWorker) (route : Route) :
      Aloof worker (worker.failRoute "backend response timeout" route) :=
    .of_via (failRoute_via answers)
  have failAuth (worker : GatewayWorker) (pending : PendingAuth) :
      Aloof worker (worker.failAuth "authentication backend timeout" pending) :=
    .of_via (failAuth_via answers)
  unfold expireInflight
  split
  · exact tidy
  simp only [failRequests]
  have routes : Neat ((worker.inflight.takeExpiredRoutes now).1.foldl (fun worker entry =>
      (worker.failRoute "backend response timeout" entry.2).invalidateStream entry.1)
      { worker with inflight := (worker.inflight.takeExpiredRoutes now).2 }) := by
    refine tidy_discardAll failRoute (tidy.of_aloof (.tables (.takeRoutes _))) fun entry listed => ?_
    refine tidy.routed entry.1 ?_
    rw [(Table.mem_select.mp listed).1]
    exact nofun
  generalize List.foldl _ _ (worker.inflight.takeExpiredRoutes now).1 = first at routes ⊢
  have auths : Neat ((first.inflight.takeExpiredAuths now).1.foldl (fun worker entry =>
      (worker.failAuth "authentication backend timeout" entry.2).invalidateStream entry.1)
      { first with inflight := (first.inflight.takeExpiredAuths now).2 }) := by
    refine tidy_discardAll failAuth (routes.of_aloof (.tables (.takeAuths _))) fun entry listed => ?_
    refine routes.pending entry.1 ?_
    rw [(Table.mem_select.mp listed).1]
    exact nofun
  exact auths.of_aloof (.tables .refreshExpiryDeadline)

/-- A frame on a stream that a backend has opened is answered at most once, with a report. -/
theorem settled_push (tidy : Neat worker) {key : StreamKey} {realm : RealmId} {parsed : Frame}
    (odd : key.stream % 2 = 1) (unended : worker.answersPush key parsed = true →
      ∀ action ∈ worker.log, action.ends key = false) :
    Neat (onPushFrame key realm worker parsed).1 := by
  have sidelines := @Op.KeepsTidy.sidelines fun _ _ => False
  have handled : Neat (worker.dispatchPush key realm parsed).2 := by
    obtain ⟨middle, via, same | ⟨wants, own, data, own_, written⟩⟩ :=
      (dispatchPush_starts sidelines.locals sidelines.streams (sidelines.forwards ..)
        (fun nodeId => (sidelines.forwards realm 0 parsed.bytes true).sendPeer nodeId)
        (fun _ _ _ => sidelines.commands realm parsed)).reports
        fun _ _ => Op.KeepsTidy.of_aloof fun _ => .setSessions _
    · rw [same]
      exact tidy.of_via via
    · obtain rfl : key = own := Option.some.inj own_
      have keeps := Keeps.of_via via
      rw [written]
      refine (keeps.tidy tidy).writeBackend data (.inl odd) ?_ fun _ slot streamId stream _ held => ?_
      · intro action listed
        obtain old | mild := keeps.log.mem_log listed
        · exact unended wants action old
        · exact mild.1 key odd
      · rintro rfl
        have ⟨even, _⟩ := (keeps.tidy tidy).held slot streamId stream held
        omega
  exact handled.of_aloof (.record ⟨rfl, fun _ => rfl⟩)

/-- A request that a backend has taken is tracked, or finished if there is no memory for it; one
that is complete already must be tracked. -/
theorem settled_track (tidy : Neat worker) {slot streamId : Nat} {ctx : ConnectionContext}
    {backend : BackendStream} {header : FrameHeader} (even : backend.key.stream % 2 = 0)
    (opened : backend.key.stream < 2 * worker.nextBackendStream)
    (unheld : ∀ slot streamId own, worker.holds slot streamId = some own → own.key ≠ backend.key)
    (unended : header.isLast = false → ∀ action ∈ worker.log, action.ends backend.key = false)
    (granted : header.isLast = true →
      worker.fate worker.asked = true ∧ worker.fate (worker.asked + 1) = true) :
    Neat (worker.trackExchange slot ctx streamId backend header) := by
  have requests := @Op.KeepsTidy.requests (fun _ _ => False) slot streamId
  have finishes {after : GatewayWorker} (tidy : Neat after) (last : header.isLast = false)
      (next : after.nextBackendStream = worker.nextBackendStream)
      (conns : after.conns = worker.conns) (log : after.log = worker.log) :
      Neat (after.finishBackendStream backend) := by
    refine tidy.finishBackendStream (.inr (next ▸ opened)) (fun _ => log ▸ unended last) ?_
    intro other otherId own _ held
    rw [holds, conns] at held
    exact unheld other otherId own held
  have asked : Neat worker.ask.2 := tidy.of_aloof .ask
  unfold trackExchange
  split <;> rename_i first answer
  · obtain rfl : worker.ask.2 = first := congrArg Prod.snd answer
    have refused : worker.fate worker.asked = false := congrArg Prod.fst answer
    cases last : header.isLast with
    | true => exact absurd (granted last).1 (by simp [refused])
    | false => exact (finishes asked last rfl rfl rfl).of_via (reject_via requests)
  obtain rfl : worker.ask.2 = first := congrArg Prod.snd answer
  simp only
  generalize Route.mk _ _ _ = route
  have routed : Neat { worker.ask.2 with
      inflight := worker.ask.2.inflight.openRoute backend.key route } :=
    asked.of_via (Via.track (Op.KeepsTidy.openRoute backend.key route) opened)
  generalize middle_ : { worker.ask.2 with
    inflight := worker.ask.2.inflight.openRoute backend.key route } = middle at routed ⊢
  have same : middle.nextBackendStream = worker.nextBackendStream ∧ middle.conns = worker.conns ∧
      middle.log = worker.log ∧ middle.ask.1 = worker.fate (worker.asked + 1) := by
    subst middle_
    exact ⟨rfl, rfl, rfl, rfl⟩
  obtain ⟨next, conns, log, fate⟩ := same
  have again : Neat middle.ask.2 := routed.of_aloof .ask
  split <;> rename_i second answer <;> obtain rfl : middle.ask.2 = second := congrArg Prod.snd answer
  · have refused : worker.fate (worker.asked + 1) = false :=
      fate.symm.trans (congrArg Prod.fst answer)
    cases last : header.isLast with
    | true => exact absurd (granted last).2 (by simp [refused])
    | false =>
        have closed := (finishes again last next conns log).of_aloof
          (.tables (.closeRoute backend.key))
        exact closed.of_via (reject_via requests)
  cases last : header.isLast with
  | true =>
      have registered : Neat (middle.ask.2.modifyConn slot fun ctx =>
          ctx.registerInboundExchange streamId {
            responseMode := header.responseMode
            inputComplete := true }) :=
        again.of_via (conn_via requests (fun _ => ⟨rfl, rfl⟩) (.register rfl))
      split
      · exact registered.of_via (finishResponseWithoutPayload_via requests.reply)
      · exact registered
  | false =>
      split
      · rename_i complete
        cases complete.1
      refine again.register rfl even (next ▸ opened) ?_ (log ▸ unended last)
      intro other otherId own held
      refine unheld other otherId own ?_
      rw [holds, ← conns]
      exact held

/-- The transport that a request of a client is forwarded to, if it is. -/
def serves (worker : GatewayWorker) (ctx : ConnectionContext) (parsed : Frame) : Option Nat :=
  if worker.notAdmitted ctx ∨ worker.inflight.reserveRoute ctx.realm ≠ .ok then none
  else parsed.header.routeId.bind fun route => worker.registry { realm := ctx.realm, route := route }

theorem settled_openService (tidy : Neat worker) {slot streamId : Nat}
    {ctx : ConnectionContext} {parsed : Frame}
    (granted : (worker.serves ctx parsed).isSome = true → parsed.header.isLast = true →
      worker.fate worker.asked = true →
      worker.fate (worker.asked + 1) = true ∧ worker.fate (worker.asked + 2) = true) :
    Neat (worker.openServiceExchange slot ctx streamId parsed).2 := by
  have requests := @Op.KeepsTidy.requests (fun _ _ => False) slot streamId
  unfold openServiceExchange
  simp only
  split
  · exact tidy.of_via (reject_via requests)
  rename_i admitted
  split
  · exact tidy
  rename_i route named
  split
  · exact tidy.of_via (reject_via requests)
  rename_i transport registered
  split
  · exact tidy.of_via (reject_via requests)
  · exact tidy.of_via (reject_via requests)
  rename_i roomy
  have serving : (worker.serves ctx parsed).isSome = true := by
    simp [serves, admitted, roomy, named, registered]
  have opened := tidy.openBackend transport parsed.bytes parsed.header.isLast
  split <;> rename_i answer <;> rw [answer] at opened
  · exact opened.of_via (reject_via requests)
  rename_i stream middle
  obtain ⟨accepted, rfl, rfl⟩ := openBackend_eq_some answer
  refine settled_track opened ?_ ?_ ?_ ?_ fun last => granted serving last accepted
  · exact Nat.mul_mod_right 2 _
  · exact opened_lt answer
  · exact fun other otherId own held => tidy.fresh_ne held
  · intro open_ action listed
    obtain old | new := List.mem_append.mp listed
    · exact tidy.fresh transport action old
    · obtain rfl := List.mem_singleton.mp new
      simp [Action.ends, open_]

/-- The question whether a backend takes a new stream for the frame, if the frame asks for one. -/
def opensAt (worker : GatewayWorker) (slot streamId : Nat) (parsed : Frame) : Option Nat :=
  (worker.context slot).bind fun ctx =>
    let claimed := worker.claimInboundExchange ctx.transport.kind
    if (ctx.inboundExchanges.lookup streamId).isSome ∨ ctx.peerNode ∨
        parsed.header.isOpen = false ∨ claimed.1 = false ∨ parsed.header.destKind ≠ .service ∨
        maxInboundExchanges ≤ ctx.inboundExchanges.size ∨
        (claimed.2.serves ctx parsed).isNone then none
    else some claimed.2.asked

/-- A complete request that a backend takes is tracked. -/
def Opens (worker : GatewayWorker) (slot streamId : Nat) (parsed : Frame) : Prop :=
  ∀ asked ∈ worker.opensAt slot streamId parsed, parsed.header.isLast = true →
    worker.fate asked = true → worker.fate (asked + 1) = true ∧ worker.fate (asked + 2) = true

/-- A further frame of a request that is still answered is for a stream that has not been
discarded, and the last one is taken. -/
def Appends (worker : GatewayWorker) (slot streamId : Nat) (parsed : Frame) : Prop :=
  ∀ stream ∈ worker.holds slot streamId, parsed.header.isOpen = false →
    worker.registry stream.scope ≠ none → worker.inflight.lookupRoute stream.key ≠ none →
    ¬ worker.Discarded stream.key ∧
      (parsed.header.isLast = true → worker.fate worker.asked = true)

theorem settled_append (tidy : Neat worker) {slot streamId : Nat} {ctx : ConnectionContext}
    {active : InboundExchange} {parsed : Frame}
    (held : worker.conns.exchange slot streamId = some active)
    (further : parsed.header.isOpen = false) (appends : worker.Appends slot streamId parsed) :
    Neat (worker.appendToExchange slot ctx streamId active parsed) := by
  have requests := @Op.KeepsTidy.requests (fun _ _ => False) slot streamId
  have exempted := @Op.KeepsTidy.requests (Just slot streamId) slot streamId
  unfold appendToExchange
  simp only
  split
  · exact tidy.of_via ((reject_via requests).trans (forget_via requests))
  rename_i stream backend
  have holds : worker.holds slot streamId = some stream := by rw [holds, held]; exact backend
  split
  · exact (tidy.of_aloof (.tables (.closeRoute stream.key))).of_via
      ((forget_via requests).trans (reject_via requests))
  rename_i transport registered
  split
  · exact tidy.of_via (forget_via requests)
  rename_i routed
  obtain ⟨kept, taken⟩ := appends stream holds further (by simp [registered])
    (by simpa using routed)
  obtain ⟨even, opened⟩ := tidy.held slot streamId stream holds
  have open_ := unended (tidy.unfinished slot streamId stream (fun never => never) holds) kept
  have touched : Neat { worker with
      inflight := worker.inflight.touchRoute stream.key worker.now } :=
    tidy.of_aloof (.tables (.touchRoute stream.key worker.now))
  cases last : parsed.header.isLast with
  | false =>
      have written := @Tidy.writeBackend _ _ touched stream.key parsed.bytes false (.inr opened) open_
        fun ends => by cases ends
      split <;> rename_i second answer <;> rw [answer] at written
      · have finished : Tidy (Just slot streamId) (second.finishBackendStream stream) := by
          obtain rfl : _ = second := congrArg Prod.snd answer
          refine written.finishHeld holds ⟨rfl, rfl⟩ fun _ discarded => ?_
          obtain old | new := List.mem_append.mp discarded
          · exact kept old
          · cases List.mem_singleton.mp new
        have closed := finished.of_aloof (.tables (.closeRoute stream.key))
        exact (settle_forget closed).of_via (reject_via requests)
      · rw [if_pos rfl]
        exact written
  | true =>
      have written := @Tidy.writeBackend (Just slot streamId) _
        (touched.mono fun _ _ never => never.elim) stream.key parsed.bytes true (.inr opened) open_
        fun _ other otherId own elsewhere also same =>
          elsewhere (tidy.distinct slot streamId stream other otherId own holds also same)
      split <;> rename_i second answer <;> rw [answer] at written
      · have refused : worker.fate worker.asked = false := congrArg Prod.fst answer
        exact absurd (taken last) (by simp [refused])
      · rw [if_neg (by decide)]
        split
        · exact (settle_complete written).of_via
            (finishResponseWithoutPayload_via requests.reply)
        · exact settle_complete written

theorem settled_frame (tidy : Neat worker) {slot streamId : Nat} {parsed : Frame}
    (appends : worker.Appends slot streamId parsed) (opens : worker.Opens slot streamId parsed) :
    Neat (worker.step (.frame slot streamId parsed)) := by
  have requests := @Op.KeepsTidy.requests (fun _ _ => False) slot streamId
  have pushes := @Op.KeepsTidy.peerPushes (fun _ _ => False) parsed
  simp only [step, dispatchFrame]
  split
  · exact tidy
  rename_i ctx found
  split
  · rename_i active listed
    have held := (ConnectionManager.exchange_of_context found streamId).trans listed
    split
    · exact tidy
    split
    · exact tidy
    rename_i further
    split
    · have continued : Neat (worker.continuePeerSession active.pushSession parsed) :=
        tidy.of_via (continuePeerSession_via pushes.streams)
      simp only [continueSessionFrame]
      split
      · exact continued.of_via (Via.op (Op.KeepsTidy.completePush slot streamId) rfl)
      · exact continued
    · exact settled_append tidy held (by simpa using further) appends
  rename_i unlisted
  split
  swap
  · exact tidy
  rename_i isOpen
  unfold openInboundExchange
  split
  · exact tidy.of_via (openPeerNodeExchange_via requests pushes)
  rename_i client
  have claimed : Neat (worker.claimInboundExchange ctx.transport.kind).2 := by
    unfold claimInboundExchange
    split
    · exact tidy
    · exact tidy.of_aloof .ask
  split <;> rename_i middle answer <;> rw [answer] at claimed
  · exact claimed
  split
  · exact claimed
  · exact claimed
  · split
    · exact claimed.of_via (reject_via requests)
    · exact claimed.of_via (openGatewayExchange_via requests (fun _ _ => trivial)
        (Op.KeepsTidy.of_aloof fun _ => .resolveBind _ _ _)
        fun _ => .of_aloof fun _ => .modifyConn slot fun _ _ _ held => held)
  rename_i toService
  split
  · exact claimed.of_via (reject_via requests)
  rename_i room
  rw [if_neg (by simp [toService])]
  refine settled_openService claimed fun serving last taken => ?_
  have fate : middle.fate = worker.fate := by
    have same : (worker.claimInboundExchange ctx.transport.kind).2 = middle :=
      congrArg Prod.snd answer
    rw [← same]
    unfold claimInboundExchange
    split <;> rfl
  have asked : worker.opensAt slot streamId parsed = some middle.asked := by
    have some_ := Option.isSome_iff_ne_none.mp serving
    simp [opensAt, found, answer, unlisted, client, isOpen, toService, Nat.not_le.mp room, some_]
  rw [fate] at taken ⊢
  exact opens middle.asked asked last taken

/-- Every backend stream that a connection holds is finishable. -/
def AllFinishable (worker : GatewayWorker) (slot : Nat) : Prop :=
  ∀ ctx ∈ worker.context slot, ∀ entry ∈ ctx.inboundExchanges.entries,
    worker.Finishable slot entry.1

theorem AllFinishable.finishable {slot : Nat} (all : worker.AllFinishable slot) (streamId : Nat) :
    worker.Finishable slot streamId := by
  intro stream held
  obtain ⟨ctx, active, found, listed, -⟩ := holds_eq_some held
  exact all ctx found ⟨streamId, active⟩ (AList.mem_lookup_iff.mp listed) stream held

instance (slot streamId : Nat) : Decidable (worker.Finishable slot streamId) :=
  inferInstanceAs (Decidable (∀ stream ∈ worker.holds slot streamId, _ → ¬ _))

instance (slot : Nat) : Decidable (worker.AllFinishable slot) :=
  inferInstanceAs (Decidable (∀ ctx ∈ worker.context slot,
    ∀ entry ∈ ctx.inboundExchanges.entries, worker.Finishable slot entry.1))

instance (slot streamId : Nat) (parsed : Frame) : Decidable (worker.Opens slot streamId parsed) :=
  inferInstanceAs (Decidable (∀ asked ∈ worker.opensAt slot streamId parsed, _ → _ → _))

instance (slot streamId : Nat) (parsed : Frame) : Decidable (worker.Appends slot streamId parsed) :=
  inferInstanceAs (Decidable (∀ stream ∈ worker.holds slot streamId, _ → _ → _ → _))

/-- The event writes to no backend stream that is finished or discarded. -/
def Orderly (worker : GatewayWorker) : Event → Prop
  | .frame slot streamId parsed =>
      worker.Appends slot streamId parsed ∧ worker.Opens slot streamId parsed
  | .finish slot streamId | .reset slot streamId => worker.Finishable slot streamId
  | .close handle _ => ∀ slot ∈ worker.conns.slotFor handle, worker.AllFinishable slot
  | .pushFrame key _ parsed => key.stream % 2 = 1 ∧
      (worker.answersPush key parsed = true → ∀ action ∈ worker.log, action.ends key = false)
  | _ => True

instance (worker : GatewayWorker) (event : Event) : Decidable (worker.Orderly event) := by
  cases event <;> unfold Orderly <;> infer_instance

theorem settled_step (indexed : worker.conns.Indexed) (tidy : Neat worker) {event : Event}
    (orderly : worker.Orderly event) : Neat (worker.step event) := by
  cases requests : event.isRequest with
  | true =>
      cases event with
      | accept kind accepting resolved =>
          simp only [step, acceptClientSession]
          split
          · exact tidy.of_aloof (.addConnection indexed _ _ _)
          · exact tidy
      | acceptPeer accepting =>
          simp only [step, handlePeerConnection]
          split
          · exact tidy.of_aloof (.addConnection indexed _ _ _)
          · exact tidy
      | close handle reason =>
          exact settled_close tidy fun slot known streamId =>
            (orderly slot known).finishable streamId
      | frame slot streamId parsed => exact settled_frame tidy orderly.1 orderly.2
      | frameSpill slot streamId known spill =>
          exact tidy.of_via (keepFrameSpill_via (Op.KeepsTidy.requests _ _)
            (Op.KeepsTidy.of_aloof fun _ => .modifyConn slot fun _ _ _ held => held)
            fun _ => Op.KeepsTidy.sidelines.close _ _)
      | finish slot streamId => exact settled_finish tidy orderly
      | reset slot streamId => exact settled_reset tidy orderly
      | _ => cases requests
  | false =>
      by_cases push : ∃ key realm parsed, event = .pushFrame key realm parsed
      · obtain ⟨key, realm, parsed, rfl⟩ := push
        exact settled_push tidy orderly.1 orderly.2
      by_cases expiry : ∃ now, event = .expireInflight now
      · obtain ⟨now, rfl⟩ := expiry
        exact settled_expire tidy now
      refine tidy.of_via (step_sidelines Op.KeepsTidy.sidelines requests ?_ ?_)
      · exact fun key realm parsed same => push ⟨key, realm, parsed, same⟩
      · exact fun now same => expiry ⟨now, same⟩

theorem init_settled (config : Config) (router : MessageRouter) (fate : Nat → Bool) :
    Neat (init config router fate) where
  disciplined := List.Pairwise.nil
  logged := nofun
  routed := fun _ present => absurd rfl present
  pending := fun _ present => absurd rfl present
  held := nofun
  unfinished := nofun
  distinct := nofun

/-- In a run whose events are orderly, nothing is written to a backend stream that the gateway has
finished or discarded. -/
theorem orderly_run_is_disciplined (config : Config) (router : MessageRouter) (fate : Nat → Bool)
    {events : List Event}
    (orderly : Run.Meets step Orderly (init config router fate) events) :
    Disciplined (Run.final step (init config router fate) events).log := by
  have kept : (Run.final step (init config router fate) events).conns.Indexed ∧
      Neat (Run.final step (init config router fate) events) := by
    refine @Run.invariant _ _ _ _ (fun worker => worker.conns.Indexed ∧ Neat worker) ?_ _ _ ?_
      orderly
    · exact fun worker event kept may =>
        ⟨step_indexed kept.1 event, settled_step kept.1 kept.2 may⟩
    · exact ⟨init_indexed config router fate, init_settled config router fate⟩
  exact kept.2.disciplined

/-- A client sends a request to a service, and its end after a while. -/
def requestRun (waits : List Event) : List Event :=
  [.outside (.registry fun _ => some 9), .accept .rawQuic true (some 7),
    .frame 0 0 (openFrame .service {} .required {} (text "upload"))] ++ waits ++ [.finish 0 0]

theorem finished_request_is_disciplined :
    Run.Meets step Orderly alone (requestRun []) ∧
      Disciplined (Run.final step alone (requestRun [])).log :=
  ⟨by decide +kernel, orderly_run_is_disciplined _ _ _ (by decide +kernel)⟩

set_option maxRecDepth 10000 in
/-- The stream of a request that has expired is finished with its client stream, a backend that
asks for two reports gets two, and a complete request that cannot be tracked is finished again. -/
theorem finished_streams_are_written_to :
    ¬ Disciplined (Run.final step alone (requestRun [.expireInflight requestTimeoutUs])).log ∧
      ¬ Disciplined (Run.final step alone
        [.pushFrame ⟨9, 1⟩ 7 (openFrame .peer {} .none { eof := true, report := true } [0, 0]),
          .pushFrame ⟨9, 1⟩ 7
            (openFrame .peer {} .none { eof := true, report := true } [0, 0])]).log ∧
      ¬ Disciplined (Run.final step { alone with fate := fun question => question < 1 }
        [.outside (.registry fun _ => some 9), .accept .rawQuic true (some 7),
          .frame 0 0 (openFrame .service {} .required Flags.last (text "upload"))]).log := by
  decide +kernel

end GatewayWorker

end LyuneGateway.Worker
