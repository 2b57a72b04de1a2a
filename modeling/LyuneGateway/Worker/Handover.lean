import LyuneGateway.Worker.Inward

/-!
# Messages to the other workers

Whatever a worker does, it puts those messages into the queues of the node that
its log says have been handed over, in this order, and takes none out but the one
that it handles.
-/

namespace LyuneGateway.Worker

open Foundation Io Protocol Session

/-- The message that the action puts into the queue of a worker. -/
def Action.message (workerId : Nat) : Action → Option AppMessage
  | .handoff own realm session bytes true =>
      if own = workerId then some { realm := realm, session := session, bytes := bytes } else none
  | _ => none

theorem Action.Inward.message {action : Action} (inward : action.Inward) (workerId : Nat) :
    action.message workerId = none := by
  cases action with
  | handoff => exact inward.elim
  | _ => rfl

/-- The queues have got what the log says. -/
structure Posts (worker after : GatewayWorker) : Prop where
  log : ∃ more, after.log = worker.log ++ more ∧ ∀ workerId,
    after.router.pending workerId =
      worker.router.pending workerId ++ more.filterMap (Action.message workerId)
  workerCount : after.router.workerCount = worker.router.workerCount

namespace Posts

variable {worker middle after : GatewayWorker}

theorem refl : Posts worker worker :=
  ⟨⟨[], (List.append_nil _).symm, fun _ => (List.append_nil _).symm⟩, rfl⟩

theorem trans (first : Posts worker middle) (second : Posts middle after) :
    Posts worker after := by
  obtain ⟨more, extends_, queued⟩ := first.log
  obtain ⟨further, continues, added⟩ := second.log
  refine ⟨⟨more ++ further, ?_, fun workerId => ?_⟩,
    second.workerCount.trans first.workerCount⟩
  · rw [continues, extends_, List.append_assoc]
  · rw [added, queued, List.append_assoc, List.filterMap_append]

theorem of_via (via : Via (fun op => ∀ worker, Posts worker (op.apply worker)) worker after) :
    Posts worker after :=
  @Run.Reaches.invariant _ _ _ _ _ _ (fun other => Posts worker other)
    (fun other _ sofar posts => sofar.trans (posts other)) via .refl

theorem of_grows (router : after.router = worker.router) {may : Action → Prop}
    (grows : Grows may worker after)
    (silent : ∀ action, may action → ∀ workerId, action.message workerId = none) :
    Posts worker after := by
  obtain ⟨more, extends_, allowed⟩ := grows
  refine ⟨⟨more, extends_, fun workerId => ?_⟩, by rw [router]⟩
  have nothing : more.filterMap (Action.message workerId) = [] :=
    List.filterMap_eq_nil_iff.mpr fun action listed => silent action (allowed action listed) workerId
  rw [nothing, List.append_nil, router]

theorem of_inside (inside : Inside worker after) : Posts worker after :=
  of_grows inside.router inside.log fun _ inward => inward.message

theorem record {action : Action} (silent : ∀ workerId, action.message workerId = none) :
    Posts worker (worker.record action) :=
  of_grows rfl (.record (silent : (fun action : Action =>
    ∀ workerId, action.message workerId = none) action)) fun _ silent => silent

theorem deliver (workerId : Nat) (realm : RealmId) (session : Nat) (bytes : Bytes) :
    Posts worker (worker.deliver workerId realm session bytes).2 := by
  unfold GatewayWorker.deliver
  split
  · exact .record fun _ => rfl
  rename_i router delivered
  obtain ⟨count, -, pending⟩ := MessageRouter.deliver_eq_ok delivered
  refine ⟨⟨_, rfl, fun other => ?_⟩, count⟩
  change router.pending other = _
  rw [pending]
  by_cases here : other = workerId
  · subst here
    simp [Action.message]
  · simp [Action.message, here, Ne.symm here]

theorem links (links : Option PeerLinks) : Posts worker { worker with links := links } :=
  of_grows rfl (.of_log rfl : Grows Action.Inward worker _) fun _ inward => inward.message

theorem sendPeer (nodeId : Nat) (realm : RealmId) (bytes : Bytes) (streaming : Bool) :
    Posts worker (worker.sendPeer nodeId realm bytes streaming).2 := by
  unfold GatewayWorker.sendPeer
  split
  · exact .refl
  · exact (Posts.of_inside (Inside.ask.trans .ask)).trans ((Posts.links _).trans
      (.record fun _ => rfl))

theorem sendPeerOn (stream : PeerStream) (bytes : Bytes) (isLast : Bool) :
    Posts worker (worker.sendPeerOn stream bytes isLast).2 := by
  unfold GatewayWorker.sendPeerOn
  split
  · exact .refl
  · exact (Posts.of_inside (Inside.ask.trans .ask)).trans ((Posts.links _).trans
      (.record fun _ => rfl))

theorem resetPeer (stream : PeerStream) : Posts worker (worker.resetPeer stream) := by
  unfold GatewayWorker.resetPeer
  split
  · exact .refl
  · exact (Posts.links _).trans (.record fun _ => rfl)

theorem writeSessionFrame (slot : Nat) (parsed : Frame) :
    Posts worker (worker.writeSessionFrame slot parsed) := by
  cases found : worker.session slot with
  | none =>
      simp only [GatewayWorker.writeSessionFrame, found]
      exact .refl
  | some session =>
      refine of_via (GatewayWorker.writeSessionFrame_via found ?_ ?_ ?_ ?_)
      · exact fun workerId _ _ => deliver workerId _ _ _
      · exact fun stream _ _ => sendPeerOn stream _ _
      · exact fun target _ _ => of_inside (Inside.writeLocal _ _ target)
      · exact fun _ _ _ _ => of_inside (Inside.setSessions _)

theorem abortSession (slot : Nat) : Posts worker (worker.abortSession slot) := by
  cases found : worker.session slot with
  | none =>
      simp only [GatewayWorker.abortSession, found]
      exact .refl
  | some session =>
      refine of_via (GatewayWorker.abortSession_via found ?_ ?_ ?_ ?_)
      · exact fun target _ _ => of_inside (Inside.resetLocal target)
      · exact fun workerId _ _ => deliver workerId _ _ _
      · exact fun stream _ _ => resetPeer stream
      · exact fun _ _ _ _ => of_inside (Inside.setSessions _)

end Posts

/-- The queues change in no other way than by messages that are handed over. -/
def Op.Posting : Op → Prop
  | .record action => action.Inward
  | .outside _ => False
  | _ => True

theorem Op.Posting.posts {op : Op} (posting : op.Posting) (worker : GatewayWorker) :
    Posts worker (op.apply worker) := by
  cases op with
  | deliver workerId realm session bytes => exact Posts.deliver workerId realm session bytes
  | sendPeer nodeId realm bytes streaming => exact Posts.sendPeer nodeId realm bytes streaming
  | sendPeerOn stream bytes isLast => exact Posts.sendPeerOn stream bytes isLast
  | resetPeer stream => exact Posts.resetPeer stream
  | writeSession slot parsed => exact Posts.writeSessionFrame slot parsed
  | abortSession slot => exact Posts.abortSession slot
  | outside change => exact posting.elim
  | record action => exact .of_inside (.record posting)
  | _ => exact .of_inside (Op.Inward.inside (by trivial) worker)

namespace Op.Posting

open GatewayWorker

theorem locals : Locals Op.Posting := ⟨fun _ _ => trivial, fun _ _ => trivial⟩

theorem streams : Streams Op.Posting where
  sessions _ _ _ := trivial
  attach _ _ _ := trivial
  writeSession _ _ := trivial
  abortSession _ := trivial
  deliver _ _ _ _ := trivial

theorem forwards (realm : RealmId) (bytes : Bytes) : Forwards Op.Posting realm 0 bytes false :=
  ⟨fun _ => trivial, fun _ => trivial⟩

theorem commands (realm : RealmId) (parsed : Frame) : Commands Op.Posting realm parsed :=
  ⟨fun _ _ _ _ _ _ => trivial, fun _ _ _ _ _ => trivial⟩

theorem answers : Answers Op.Posting := ⟨trivial, fun _ _ _ _ => trivial, fun _ _ => trivial⟩

theorem relays (slot streamId : Nat) : Relays Op.Posting slot streamId (fun _ _ => True) where
  ask := trivial
  reply _ _ := trivial
  reset _ := trivial
  openBackend _ _ _ := trivial
  writeBackend _ _ _ := trivial
  tables _ _ := trivial
  trackAuth _ _ _ := trivial
  conn _ _ _ := trivial
  openRoute _ _ _ := trivial
  register _ _ := trivial

theorem peerPushes (parsed : Frame) : PeerPushes Op.Posting parsed where
  locals := locals
  streams := streams
  forwards realm := forwards realm parsed.bytes
  sendPeer _ _ := trivial

end Op.Posting

namespace Event

/-- The event takes a message out of a queue, or is none of the worker's doing. -/
def isOuter : Event → Bool
  | .handoff | .outside _ => true
  | _ => false

end Event

namespace GatewayWorker

open Op.Posting

variable {worker : GatewayWorker}

/-- A step that takes nothing out of the queues puts into them what it logs. -/
theorem step_posting {event : Event} (inner : event.isOuter = false) :
    Via Op.Posting worker (worker.step event) := by
  cases event with
  | handoff | outside => cases inner
  | accept kind accepting resolved =>
      simp only [step, acceptClientSession]
      split
      · exact addConnection_via trivial
      · exact .refl
  | acceptPeer accepting =>
      simp only [step, handlePeerConnection]
      split
      · exact addConnection_via trivial
      · exact .refl
  | close handle reason =>
      exact closeClientSession_via (fun _ _ => trivial) (fun _ _ => trivial)
        (fun _ _ => trivial) trivial
  | frame slot streamId parsed =>
      exact dispatchFrame_via (relays slot streamId) (fun _ _ _ _ => trivial) (peerPushes parsed)
        (fun _ _ => trivial) (fun _ => trivial) trivial
  | frameSpill slot streamId known spill =>
      exact keepFrameSpill_via (relays slot streamId).toRequests trivial fun _ => trivial
  | violate slot => exact violate_via fun _ => trivial
  | finish slot streamId => exact finishClientStream_via (relays slot streamId) streams
  | closeIfRequested slot =>
      simp only [step, closeIfRequested]
      split
      · exact .refl
      split
      · exact @Via.op _ _ _ (.record (.close _ AppError.noError.code)) trivial rfl
      · exact .refl
  | reset slot streamId => exact resetClientInput_via (relays slot streamId) streams
  | stop slot streamId => exact stopClientOutput_via (relays slot streamId).toRequests
  | datagram handle data =>
      simp only [step, handleEphemeral]
      split
      · exact .refl
      split
      · exact .refl
      split
      · exact .refl
      split
      · exact .refl
      · exact fanOutUnreliable_via locals (forwards _ _)
  | pushFrame key realm parsed =>
      exact onPushFrame_via locals streams (fun _ _ => trivial) (forwards realm parsed.bytes)
        (fun _ => trivial) (fun _ => trivial) (fun _ _ _ => commands realm parsed)
        fun _ => trivial
  | pushSpill key known spill => exact keepPush_via trivial fun _ => trivial
  | pushDrop key => exact @Via.op _ _ _ (.pushes fun pushes => pushes.erase key) trivial rfl
  | pushEnd key => exact abortBackendPush_via streams fun _ => trivial
  | authResponse key data isFin =>
      exact collectAuthResponse_via
        ⟨answers, fun _ => ⟨fun _ _ _ => trivial, fun _ => trivial⟩⟩
        (fun _ _ _ _ _ _ _ _ _ _ => trivial) fun _ _ _ _ _ _ _ _ _ _ => trivial
  | response key data isFin =>
      simp only [step]
      split
      · exact .refl
      · exact relayResponse_via answers fun _ _ _ _ => trivial
  | streamControl key reason peerInitiated =>
      exact handleBackendStreamControl_via answers streams fun _ => trivial
  | transportFailed transport selector => exact failTransportRequests_via answers
  | expireInflight now => exact expireInflight_via answers fun _ => trivial
  | purgeSessions now => exact purgeExpiredSessions_via streams
  | expireAdmission slot now => exact expireAdmission_via fun _ _ _ _ _ => trivial
  | refreshLease slot now => exact refreshLease_via fun _ _ _ => trivial
  | rehome slot =>
      exact rehome_via ⟨fun _ _ _ => trivial, fun _ => trivial⟩ fun _ _ _ _ _ => trivial
  | placement nodes now => exact @Via.op _ _ _ (.placement nodes now) trivial rfl

theorem step_posts {event : Event} (inner : event.isOuter = false) :
    Posts worker (worker.step event) :=
  .of_via ((step_posting inner).mono fun _ _ posting => posting.posts)

end GatewayWorker

end LyuneGateway.Worker
