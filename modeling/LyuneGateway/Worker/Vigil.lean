import LyuneGateway.Worker.Turn

/-!
# Push streams that are gone

Partial frames and sessions come from push streams of backends and of peer
nodes. Once such a stream is gone, nothing of it should be left. The end of a
stream that finds no room or follows a violation of the framing leaves its
session behind; so does the closing of a peer connection, and the failure of a
backend connection leaves partial frames as well.
-/

namespace LyuneGateway.Worker

open Foundation Io Protocol Session

/-- The turn brings bytes of the push stream. -/
def Turn.hears (key : StreamKey) : Turn → Bool
  | .event (.pushFrame own _ _) | .event (.pushSpill own _ _) | .chunkEnd own _ _ _ => own = key
  | _ => false

namespace GatewayWorker

variable {worker after : GatewayWorker} {key : StreamKey}

/-- The turn ends the push stream, or its connection with it. -/
def ends (worker : GatewayWorker) (key : StreamKey) : Turn → Bool
  | .chunkEnd own _ _ isFin => own = key && isFin
  | .event (.pushEnd own) => own = key
  | .event (.streamControl own _ peerInitiated) => own = key && peerInitiated &&
      (worker.inflight.lookupAuth own).isNone && (worker.inflight.lookupRoute own).isNone
  | .event (.transportFailed transport selector) =>
      key.transport = transport && selector.covers key.stream
  | _ => false

/-- The sessions of the streams of a peer node that the turn ends. -/
def endedSessions (worker : GatewayWorker) : Turn → List Nat
  | .event (.close handle _) =>
      match (worker.conns.slotFor handle).bind worker.context with
      | none => []
      | some ctx => ctx.inboundExchanges.entries.map fun entry => entry.2.pushSession
  | .event (.finish slot streamId) | .event (.reset slot streamId) =>
      ((worker.conns.exchange slot streamId).map InboundExchange.pushSession).toList
  | _ => []

/-- Nothing of the push stream is kept. -/
def Idle (worker : GatewayWorker) (key : StreamKey) : Prop :=
  worker.egress.pushes.lookup key = none ∧ worker.egress.sessions.findByOrigin key = none

instance (key : StreamKey) : Decidable (worker.Idle key) :=
  inferInstanceAs (Decidable (_ ∧ _))

theorem egress_failTransportRequests (transport : Nat) (selector : StreamSelector) :
    (worker.failTransportRequests transport selector).egress = worker.egress :=
  Via.egress (failTransportRequests_via
    ⟨fun _ => rfl, fun _ _ _ _ _ => rfl, fun _ _ _ => rfl⟩)

/-- Ending a session takes it out of the table and leaves the others there. -/
theorem sessions_abortSession {slot : Nat} {session : PushSession}
    (found : worker.session slot = some session) :
    (worker.abortSession slot).egress.sessions = worker.egress.sessions.close slot := by
  have released {Item : Type} {items : List Item} {change : GatewayWorker → Item → GatewayWorker}
      (each : ∀ worker item, (change worker item).egress = worker.egress)
      (worker : GatewayWorker) : (items.foldl change worker).egress = worker.egress := by
    induction items generalizing worker with
    | nil => rfl
    | cons item items ih => exact (ih (change worker item)).trans (each worker item)
  have delivered (worker : GatewayWorker) :
      (worker.deliverSession session []).egress = worker.egress := by
    refine released (fun worker workerId => ?_) worker
    split
    · exact egress_deliver _ _ _ _
    · rfl
  unfold abortSession
  rw [found]
  simp only [closeSession, setSessions]
  rw [released (fun worker stream => egress_resetPeer stream), delivered,
    released fun worker target => egress_resetLocal target]

theorem pushes_abortSession (slot : Nat) :
    (worker.abortSession slot).egress.pushes = worker.egress.pushes :=
  congrArg Standing.pushes (Undisturbed.abortSession slot).standing

/-- Ending the session of a push stream leaves it without one. -/
theorem abortSession_forgets {slot : Nat} (apart : worker.egress.sessions.Apart)
    (found : worker.egress.sessions.findByOrigin key = some slot) :
    (worker.abortSession slot).egress.sessions.findByOrigin key = none := by
  obtain ⟨session, held, started⟩ := PushSessions.find_eq_some found
  rw [sessions_abortSession held]
  refine PushSessions.findByOrigin_eq_none.mpr fun other _ own also same => ?_
  simp only [PushSessions.close, Function.update_apply] at also
  split at also
  · cases also
  · rename_i different
    exact different (apart.distinct other own slot session key also held same
      (by simpa using started))

/-- A push stream that is given up leaves nothing behind. -/
theorem idle_abortBackendPush (apart : worker.egress.sessions.Apart) :
    (worker.abortBackendPush key).Idle key := by
  have erased : (worker.dropPush key).egress.pushes.lookup key = none := AList.lookup_erase _ _
  have same : (worker.dropPush key).egress.sessions = worker.egress.sessions := rfl
  unfold abortBackendPush
  simp only
  split
  · exact ⟨erased, ‹_›⟩
  · rename_i slot found
    exact ⟨by rwa [pushes_abortSession], abortSession_forgets apart found⟩

/-- Giving up a push stream adds nothing for another one. -/
theorem Idle.abortBackendPush (idle : worker.Idle key) (own : StreamKey) :
    (worker.abortBackendPush own).Idle key := by
  have dropped : (worker.dropPush own).Idle key := ⟨Table.Shrinks.erase key idle.1, idle.2⟩
  unfold GatewayWorker.abortBackendPush
  simp only
  split
  · exact dropped
  · rename_i slot _
    exact ⟨by rw [pushes_abortSession]; exact dropped.1,
      PushSessions.Descends.findByOrigin (Inherits.abortSession slot) dropped.2⟩

theorem idle_of_egress (same : after.egress = worker.egress) :
    after.Idle key ↔ worker.Idle key := by
  rw [Idle, Idle, same]

/-- A partial frame of one push stream is none of another. -/
theorem idle_keepPush {own : StreamKey} {known : Bool} {spill : Bytes} (idle : worker.Idle key)
    (other : own ≠ key) (kept : worker.keepPush own known spill = some after) : after.Idle key := by
  have inserted (worker : GatewayWorker) (idle : worker.Idle key) :
      (worker.setPushes (worker.egress.pushes.insert own spill)).Idle key :=
    ⟨(AList.lookup_insert_ne (Ne.symm other)).trans idle.1, idle.2⟩
  unfold keepPush at kept
  split at kept
  · cases kept
    split
    · exact ⟨Table.Shrinks.erase key idle.1, idle.2⟩
    · exact inserted worker idle
  split at kept
  · cases kept
    exact idle
  split at kept <;> rename_i answer <;> cases kept
  obtain rfl := congrArg Prod.snd answer
  exact inserted worker.ask.2 idle

theorem idle_endChunk {own : StreamKey} {spill : Bytes} {refused isFin : Bool}
    (idle : worker.Idle key) (other : own ≠ key) :
    (worker.endChunk own spill refused isFin).Idle key := by
  unfold endChunk
  simp only
  split
  · exact idle
  split
  · exact idle
  rename_i kept
  have idle := idle_keepPush idle other kept
  split
  · exact ⟨Table.Shrinks.erase key idle.1, idle.2⟩
  split
  · exact idle.abortBackendPush own
  · exact idle

/-- Nothing of a push stream appears without bytes of it. -/
theorem idle_turn {turn : Turn} (idle : worker.Idle key) (silent : turn.hears key = false) :
    (worker.takeTurn turn).Idle key := by
  cases turn with
  | chunkEnd own spill refused isFin => exact idle_endChunk idle (by simpa [Turn.hears] using silent)
  | event event =>
      have unclaimed : (worker.step event).egress.sessions.findByOrigin key = none := by
        refine step_findByOrigin ?_ idle.2
        rintro realm parsed rfl
        simp [Turn.hears] at silent
      refine ⟨?_, unclaimed⟩
      cases push : event.isPush with
      | false => exact (congrArg _ (step_pushes push)).trans idle.1
      | true =>
          cases event with
          | pushSpill own known spill =>
              have other : own ≠ key := by simpa [Turn.hears] using silent
              simp only [takeTurn, step]
              cases kept : worker.keepPush own known spill with
              | none => exact idle.1
              | some after => exact (idle_keepPush idle other kept).1
          | pushDrop own => exact Table.Shrinks.erase key idle.1
          | pushEnd own => exact (idle.abortBackendPush own).1
          | streamControl own reason peerInitiated =>
              have answers : Answers Op.KeepsEgress :=
                ⟨fun _ => rfl, fun _ _ _ _ _ => rfl, fun _ _ _ => rfl⟩
              simp only [takeTurn, step, handleBackendStreamControl]
              split
              · rw [Via.egress (failAuth_via answers)]
                exact idle.1
              split
              · simp only
                rw [Via.egress (failRoute_via answers)]
                exact idle.1
              split
              · exact (idle.abortBackendPush own).1
              · exact idle.1
          | _ => cases push

/-- A partial frame is kept, unless it is the first one and there is no memory for it. -/
theorem keepPush_cases (key : StreamKey) (known : Bool) (spill : Bytes) :
    (worker.keepPush key known spill = none ∧
        ¬ (known = true ∨ spill = [] ∨ worker.fate worker.asked = true)) ∨
      (known = true ∨ spill = [] ∨ worker.fate worker.asked = true) ∧
        ∃ after, worker.keepPush key known spill = some after ∧
          after.egress.sessions = worker.egress.sessions := by
  unfold keepPush
  cases known with
  | true =>
      refine .inr ⟨.inl rfl, _, rfl, ?_⟩
      split <;> rfl
  | false =>
      by_cases empty : spill = []
      · exact .inr ⟨.inr (.inl empty), worker, by simp [empty], rfl⟩
      · cases granted : worker.fate worker.asked with
        | false => exact .inl ⟨by simp [empty, ask, granted], by simp [empty]⟩
        | true =>
            exact .inr ⟨.inr (.inr rfl),
              worker.ask.2.setPushes (worker.egress.pushes.insert key spill),
              by simp [empty, ask, granted], rfl⟩

/-- The end of a push stream finds room, memory for what is left over, and no violation. -/
def Finishes (worker : GatewayWorker) (key : StreamKey) (spill : Bytes) (refused : Bool) : Prop :=
  (worker.egress.pushes.lookup key ≠ none ∨ worker.egress.pushes.size < maxPushStreams ∧
    (spill = [] ∨ worker.fate worker.asked = true)) ∧ refused = false

theorem idle_finished {spill : Bytes} {refused : Bool} (apart : worker.egress.sessions.Apart) :
    (worker.endChunk key spill refused true).Idle key ↔
      worker.egress.sessions.findByOrigin key = none ∨ worker.Finishes key spill refused := by
  have unchanged (after : GatewayWorker) (same : after.egress.sessions = worker.egress.sessions)
      (dropped : after.egress.pushes.lookup key = none) (other : ¬ worker.Finishes key spill refused) :
      after.Idle key ↔
        worker.egress.sessions.findByOrigin key = none ∨ worker.Finishes key spill refused := by
    rw [Idle, same]
    exact ⟨fun idle => .inl idle.2, fun absent => ⟨dropped, absent.resolve_right other⟩⟩
  have absent (missing : (worker.egress.pushes.lookup key).isSome = false) :
      worker.egress.pushes.lookup key = none := by simpa using missing
  unfold endChunk
  simp only
  split
  · rename_i full
    refine unchanged worker rfl (by simpa using full.1) ?_
    rintro ⟨present | ⟨room, -⟩, -⟩
    · exact present (by simpa using full.1)
    · exact absurd full.2 (Nat.not_le.mpr room)
  rename_i room
  obtain ⟨lost, none_⟩ | ⟨granted, after, kept, same⟩ :=
    worker.keepPush_cases key (worker.egress.pushes.lookup key).isSome spill
  · simp only [not_or, Bool.not_eq_true] at none_
    rw [lost]
    refine unchanged worker.ask.2 rfl (absent none_.1) ?_
    rintro ⟨present | ⟨-, empty | granted⟩, -⟩
    · exact present (absent none_.1)
    · exact none_.2.1 empty
    · exact absurd granted (by simp [none_.2.2])
  rw [kept]
  simp only
  cases refused with
  | true => exact unchanged (after.dropPush key) same (AList.lookup_erase _ _) nofun
  | false =>
      refine iff_of_true (idle_abortBackendPush (same ▸ apart)) (.inr ⟨?_, rfl⟩)
      cases existing : worker.egress.pushes.lookup key with
      | some own => exact .inl nofun
      | none =>
          simp only [existing, Option.isNone_none, true_and, not_le] at room
          rw [existing] at granted
          exact .inr ⟨room, granted.resolve_left nofun⟩

/-- No two sessions in the table have the id. -/
def Single (worker : GatewayWorker) (id : Nat) : Prop :=
  id ≠ 0 → ∀ slot < maxSessions, ∀ other < maxSessions,
    (worker.session slot).any (fun session => session.id = id) = true →
    (worker.session other).any (fun session => session.id = id) = true → slot = other

/-- Nothing is left of a session that is ended by its id if no other one has that id. -/
theorem findById_abortSessionById (id : Nat) :
    (worker.abortSessionById id).egress.sessions.findById id = none ↔ worker.Single id := by
  by_cases zero : id = 0
  · subst zero
    exact iff_of_true (if_pos rfl) fun nonzero => absurd rfl nonzero
  have search (sessions : PushSessions) :
      sessions.findById id = sessions.find fun session => session.id = id := if_neg zero
  simp only [abortSessionById, search]
  split
  · rename_i absent
    refine iff_of_true absent fun _ slot inside other _ present _ => ?_
    obtain ⟨session, held, same⟩ := (Option.any_eq_true _ _).mp present
    exact absurd same (by simp [PushSessions.find_eq_none.mp absent slot inside session held])
  · rename_i slot found
    obtain ⟨session, held, same⟩ := PushSessions.find_eq_some found
    rw [sessions_abortSession held, PushSessions.find_eq_none]
    have own : (worker.session slot).any (fun session => session.id = id) = true :=
      (Option.any_eq_true _ _).mpr ⟨session, held, same⟩
    constructor
    · intro gone _ first inside second within present also
      have here {other : Nat} (inside : other < maxSessions)
          (present : (worker.session other).any (fun session => session.id = id) = true) :
          other = slot := by
        by_contra different
        obtain ⟨session, held, same⟩ := (Option.any_eq_true _ _).mp present
        have missing := gone other inside session
          ((Function.update_of_ne different _ _).trans held)
        exact absurd same (by simpa using missing)
      exact (here inside present).trans (here within also).symm
    · intro single other inside own' also
      simp only [PushSessions.close, Function.update_apply] at also
      split at also
      · cases also
      · rename_i different
        refine Bool.eq_false_iff.mpr fun same' => different ?_
        exact single zero other inside slot (PushSessions.find_lt found)
          ((Option.any_eq_true _ _).mpr ⟨own', also, same'⟩) own

theorem egress_finishInput (active : InboundExchange) :
    (worker.finishInput active).egress = worker.egress := by
  unfold finishInput
  split
  · rfl
  · exact Via.egress (finishBackendStream_via fun _ _ _ => rfl)

theorem egress_abandonInput (active : InboundExchange) :
    (worker.abandonInput active).egress = worker.egress := by
  unfold abandonInput
  split
  · rfl
  · rename_i stream _
    have finished := Via.egress (@finishBackendStream_via Op.KeepsEgress worker stream
      fun _ _ _ => rfl)
    exact finished

theorem findById_abortPeerPush (active : InboundExchange) :
    (worker.abortPeerPush active).egress.sessions.findById active.pushSession = none ↔
      worker.Single active.pushSession := by
  unfold abortPeerPush
  split
  · exact findById_abortSessionById active.pushSession
  · rename_i zero
    have zero : active.pushSession = 0 := by simpa using zero
    rw [zero]
    exact iff_of_true (if_pos rfl) fun nonzero => absurd rfl nonzero

theorem single_of_egress (same : after.egress = worker.egress) (id : Nat) :
    after.Single id ↔ worker.Single id := by
  unfold Single session
  rw [same]

theorem findById_finish {slot streamId : Nat} {active : InboundExchange}
    (held : worker.conns.exchange slot streamId = some active) :
    (worker.finishClientStream slot streamId).egress.sessions.findById active.pushSession = none ↔
      worker.Single active.pushSession := by
  obtain ⟨ctx, (found : worker.context slot = some ctx), listed⟩ := Option.bind_eq_some_iff.mp held
  unfold finishClientStream
  simp only [found, listed]
  generalize dropped : (worker.modifyConn slot fun ctx => ctx.dropFrameSpill streamId) = first
  have same : first.egress = worker.egress := by rw [← dropped]; rfl
  have finished : (first.finishInput active).egress = worker.egress :=
    (egress_finishInput active).trans same
  refine (findById_abortPeerPush active).trans (single_of_egress ?_ _)
  split
  · exact (Via.egress (finishResponseWithoutPayload_via fun _ _ _ => rfl)).trans finished
  · exact finished

theorem findById_reset {slot streamId : Nat} {active : InboundExchange}
    (held : worker.conns.exchange slot streamId = some active) :
    (worker.resetClientInput slot streamId).egress.sessions.findById active.pushSession = none ↔
      if active.inputComplete then worker.egress.sessions.findById active.pushSession = none
      else worker.Single active.pushSession := by
  obtain ⟨ctx, (found : worker.context slot = some ctx), listed⟩ := Option.bind_eq_some_iff.mp held
  unfold resetClientInput
  simp only [found, listed]
  split
  · exact Iff.rfl
  · refine (findById_abortPeerPush active).trans (single_of_egress ?_ _)
    exact egress_abandonInput active

/-- The turn leaves nothing behind of the push streams that it ends. -/
def Buries (worker : GatewayWorker) : Turn → Prop
  | .chunkEnd key spill refused true =>
      worker.egress.sessions.findByOrigin key = none ∨ worker.Finishes key spill refused
  | .event (.transportFailed transport selector) =>
      ∀ key, key.transport = transport → selector.covers key.stream = true → worker.Idle key
  | .event (.close handle reason) => ∀ id ∈ worker.endedSessions (.event (.close handle reason)),
      worker.egress.sessions.findById id = none
  | .event (.finish slot streamId) => ∀ active ∈ worker.conns.exchange slot streamId,
      worker.Single active.pushSession
  | .event (.reset slot streamId) => ∀ active ∈ worker.conns.exchange slot streamId,
      if active.inputComplete then worker.egress.sessions.findById active.pushSession = none
      else worker.Single active.pushSession
  | _ => True

/-- A turn ends streams properly if nothing is kept of them after it. -/
theorem buries_iff (apart : worker.egress.sessions.Apart) (turn : Turn) :
    ((∀ key, worker.ends key turn = true → (worker.takeTurn turn).Idle key) ∧
      ∀ id ∈ worker.endedSessions turn,
        (worker.takeTurn turn).egress.sessions.findById id = none) ↔ worker.Buries turn := by
  have own (exchange : Option InboundExchange) (allows : Nat → Prop) :
      (∀ id ∈ (exchange.map InboundExchange.pushSession).toList, allows id) ↔
        ∀ active ∈ exchange, allows active.pushSession := by
    cases exchange <;> simp
  cases turn with
  | chunkEnd key spill refused isFin =>
      cases isFin with
      | false => simp [ends, endedSessions, Buries]
      | true =>
          simp only [Buries, ← idle_finished apart]
          simp [ends, endedSessions, takeTurn]
  | event event =>
      cases event with
      | pushEnd own =>
          refine iff_of_true ⟨fun key ends => ?_, by simp [endedSessions]⟩ trivial
          obtain rfl : own = key := by simpa [GatewayWorker.ends] using ends
          exact idle_abortBackendPush apart
      | streamControl own reason peerInitiated =>
          refine iff_of_true ⟨fun key ends => ?_, by simp [endedSessions]⟩ trivial
          obtain ⟨⟨⟨rfl, peer⟩, auth⟩, route⟩ : ((own = key ∧ peerInitiated = true) ∧
              worker.inflight.lookupAuth own = none) ∧ worker.inflight.lookupRoute own = none := by
            simpa [GatewayWorker.ends] using ends
          simp only [takeTurn, step, handleBackendStreamControl, auth, route, peer, if_true]
          exact idle_abortBackendPush apart
      | transportFailed transport selector =>
          simp only [takeTurn, step, idle_of_egress (egress_failTransportRequests _ _)]
          simp [ends, endedSessions, Buries]
      | close handle reason =>
          simp only [takeTurn, step, egress_closeClientSession]
          simp [ends, Buries]
      | finish slot streamId =>
          simp only [ends, endedSessions, Buries, Bool.false_eq_true, false_imp_iff, implies_true,
            true_and, own]
          exact forall₂_congr fun active held => findById_finish held
      | reset slot streamId =>
          simp only [ends, endedSessions, Buries, Bool.false_eq_true, false_imp_iff, implies_true,
            true_and, own]
          exact forall₂_congr fun active held => findById_reset held
      | _ => simp [ends, endedSessions, Buries]

theorem turn_apart (apart : worker.egress.sessions.Apart) (turn : Turn) :
    (worker.takeTurn turn).egress.sessions.Apart := by
  cases turn with
  | event event => exact step_apart apart event
  | chunkEnd key spill refused isFin =>
      simp only [takeTurn, endChunk]
      split
      · exact apart
      obtain ⟨lost, -⟩ | ⟨-, after, kept, same⟩ :=
        worker.keepPush_cases key (worker.egress.pushes.lookup key).isSome spill
      · rw [lost]
        exact apart
      rw [kept]
      have apart : after.egress.sessions.Apart := same ▸ apart
      simp only
      split
      · exact apart
      split
      · unfold abortBackendPush
        simp only
        split
        · exact apart
        · exact PushSessions.Apart.descends apart (Inherits.abortSession _)
      · exact apart

theorem init_apart (config : Config) (router : MessageRouter) (fate : Nat → Bool) :
    (init config router fate).egress.sessions.Apart where
  bounded := nofun
  distinct := nofun

end GatewayWorker

/-- A worker, the push streams that have ended and not been heard of since, and the sessions of the
streams of a peer node that have just ended. -/
structure Vigil where
  worker : GatewayWorker
  gone : StreamKey → Bool := fun _ => false
  ended : List Nat := []

namespace Vigil

def step (vigil : Vigil) (turn : Turn) : Vigil where
  worker := vigil.worker.takeTurn turn
  gone key := vigil.worker.ends key turn || (vigil.gone key && !turn.hears key)
  ended := vigil.worker.endedSessions turn

/-- Nothing is kept of push streams that are gone. -/
def Buried (vigil : Vigil) : Prop :=
  (∀ key, vigil.gone key = true → vigil.worker.Idle key) ∧
    ∀ id ∈ vigil.ended, vigil.worker.egress.sessions.findById id = none

def start (worker : GatewayWorker) : Vigil := { worker := worker }

theorem buried_step_iff {vigil : Vigil} (apart : vigil.worker.egress.sessions.Apart)
    (buried : ∀ key, vigil.gone key = true → vigil.worker.Idle key) (turn : Turn) :
    (vigil.step turn).Buried ↔ vigil.worker.Buries turn := by
  rw [← GatewayWorker.buries_iff apart]
  refine and_congr_left' ⟨fun idle key ends => idle key ?_, fun idle key gone => ?_⟩
  · simp [step, ends]
  · simp only [step, Bool.or_eq_true, Bool.and_eq_true, Bool.not_eq_true'] at gone
    obtain ends | ⟨gone, silent⟩ := gone
    · exact idle key ends
    · exact GatewayWorker.idle_turn (buried key gone) silent

/-- Every turn of a run leaves nothing of push streams that are gone if and only if it buries those
that it ends. -/
theorem always_buried_iff (config : Config) (router : MessageRouter) (fate : Nat → Bool)
    (turns : List Turn) :
    Run.Meets step (fun vigil turn => (vigil.step turn).Buried) (start (.init config router fate))
        turns ↔
      Run.Meets step (fun vigil turn => vigil.worker.Buries turn)
        (start (.init config router fate)) turns := by
  refine Run.meets_iff_of_invariant (fun vigil => vigil.worker.egress.sessions.Apart ∧
    ∀ key, vigil.gone key = true → vigil.worker.Idle key) ?_ ?_ ?_
  · exact ⟨GatewayWorker.init_apart config router fate, nofun⟩
  · exact fun vigil turn kept buried => ⟨GatewayWorker.turn_apart kept.1 turn, buried.1⟩
  · exact fun vigil turn kept => buried_step_iff kept.1 kept.2 turn

/-- A backend sends a part of a frame, and its connection fails. -/
def failedRun : List Turn :=
  [.chunkEnd ⟨9, 1⟩ [1] false false, .event (.transportFailed 9 {})]

/-- A backend starts a streaming push, and ends it with bytes that are no frame. -/
def violatedRun : List Turn :=
  [.event (.pushFrame ⟨9, 1⟩ 7 (openFrame .multicast {} .none {} [0, 0])),
    .chunkEnd ⟨9, 1⟩ [] true true]

/-- A peer node starts a streaming push, and its connection is closed. -/
def closedRun : List Turn :=
  [.event (.acceptPeer true),
    .event (.frame 0 0 (openFrame .multicast {} .none {} [0, 0])),
    .event (.close ⟨0, 1⟩ .transportClosed)]

theorem push_outlives_origin :
    ¬ Run.Meets step (fun vigil turn => (vigil.step turn).Buried) (start .alone) failedRun ∧
      ¬ Run.Meets step (fun vigil turn => (vigil.step turn).Buried) (start .alone) violatedRun ∧
      ¬ Run.Meets step (fun vigil turn => (vigil.step turn).Buried) (start .alone) closedRun := by
  refine ⟨?_, ?_, ?_⟩ <;> intro buried
  · exact absurd (buried.2.1.1 ⟨9, 1⟩ (by decide +kernel)) (by decide +kernel)
  · exact absurd (buried.2.1.1 ⟨9, 1⟩ (by decide +kernel)) (by decide +kernel)
  · exact absurd (buried.2.2.1.2 1 (by decide +kernel)) (by decide +kernel)

end Vigil

end LyuneGateway.Worker
