import LyuneGateway.Worker.Exchanges

/-!
# Where sessions come from

A session that a push stream has started keeps its origin as long as it lasts,
and no other operation gives a session one. As a push stream starts a session
only when it has none, it never has two.
-/

namespace LyuneGateway.Worker

open Foundation Io Protocol Session

namespace PushSessions

variable {sessions middle after : PushSessions} {key : StreamKey}

/-- The sessions of push streams have all been there before. -/
def Descends (sessions after : PushSessions) : Prop :=
  ∀ slot session key, after.slots slot = some session → session.origin = some key →
    ∃ old, sessions.slots slot = some old ∧ old.origin = some key

theorem Descends.refl : sessions.Descends sessions :=
  fun _ session _ found started => ⟨session, found, started⟩

theorem Descends.trans (first : sessions.Descends middle) (second : middle.Descends after) :
    sessions.Descends after := by
  intro slot session key found started
  obtain ⟨own, held, same⟩ := second slot session key found started
  exact first slot own key held same

/-- The sessions of push streams are in the table, and no push stream has two. -/
structure Apart (sessions : PushSessions) : Prop where
  bounded : ∀ slot session key, sessions.slots slot = some session →
    session.origin = some key → slot < maxSessions
  distinct : ∀ slot session other own key, sessions.slots slot = some session →
    sessions.slots other = some own → session.origin = some key → own.origin = some key →
    slot = other

theorem Apart.descends (apart : sessions.Apart) (descends : sessions.Descends after) :
    after.Apart where
  bounded := by
    intro slot session key found started
    obtain ⟨old, before, origin⟩ := descends slot session key found started
    exact apart.bounded slot old key before origin
  distinct := by
    intro slot session other own key found held started same
    obtain ⟨old, before, origin⟩ := descends slot session key found started
    obtain ⟨old', before', origin'⟩ := descends other own key held same
    exact apart.distinct slot old other old' key before before' origin origin'

/-- The first session that a search finds satisfies the condition. -/
theorem find_eq_some {which : PushSession → Bool} {slot : Nat}
    (found : sessions.find which = some slot) :
    ∃ session, sessions.slots slot = some session ∧ which session = true :=
  (Option.any_eq_true _ _).mp
    (List.find?_some (p := fun slot => (sessions.slots slot).any which) found)

theorem find_lt {which : PushSession → Bool} {slot : Nat}
    (found : sessions.find which = some slot) : slot < maxSessions :=
  List.mem_range.mp (List.mem_of_find?_eq_some found)

theorem find_eq_none {which : PushSession → Bool} :
    sessions.find which = none ↔
      ∀ slot < maxSessions, ∀ session, sessions.slots slot = some session → which session = false := by
  rw [find, List.find?_eq_none]
  constructor
  · intro absent slot inside session found
    have missing := absent slot (List.mem_range.mpr inside)
    rw [found] at missing
    simpa using missing
  · intro absent slot listed present
    obtain ⟨session, found, satisfied⟩ := (Option.any_eq_true _ _).mp present
    rw [absent slot (List.mem_range.mp listed) session found] at satisfied
    cases satisfied

theorem findByOrigin_eq_none :
    sessions.findByOrigin key = none ↔
      ∀ slot < maxSessions, ∀ session, sessions.slots slot = some session →
        session.origin ≠ some key := by
  rw [findByOrigin, find_eq_none]
  simp only [decide_eq_false_iff_not, ne_eq]

theorem Descends.findByOrigin (descends : sessions.Descends after)
    (absent : sessions.findByOrigin key = none) : after.findByOrigin key = none := by
  refine findByOrigin_eq_none.mpr fun slot inside session found started => ?_
  obtain ⟨old, held, same⟩ := descends slot session key found started
  exact findByOrigin_eq_none.mp absent slot inside old held same

/-- The session that a push stream starts is its only one. -/
theorem Apart.openSession {session : PushSession} (apart : sessions.Apart)
    (unclaimed : sessions.findByOrigin key = none) (started : session.origin = some key) :
    (((sessions.openSession session).map Prod.snd).getD sessions).Apart := by
  have own {slot : Nat} {old : PushSession} {origin : StreamKey}
      (found : sessions.slots slot = some old) (same : old.origin = some origin)
      (also : session.origin = some origin) : False := by
    obtain rfl : key = origin := Option.some.inj (started.symm.trans also)
    have inside := apart.bounded slot old key found same
    exact findByOrigin_eq_none.mp unclaimed slot inside old found same
  refine ⟨?_, ?_⟩
  · intro slot first origin found same
    obtain ⟨rfl, free⟩ | old := GatewayWorker.slots_openSession found
    · exact List.mem_range.mp (List.mem_of_find?_eq_some free)
    · exact apart.bounded slot first origin old same
  · intro slot first other second origin found held same same'
    obtain ⟨rfl, free⟩ | old := GatewayWorker.slots_openSession found
    · obtain ⟨rfl, free'⟩ | old' := GatewayWorker.slots_openSession held
      · exact Option.some.inj (free.symm.trans free')
      · exact (own old' same' same).elim
    · obtain ⟨rfl, free'⟩ | old' := GatewayWorker.slots_openSession held
      · exact (own old same same').elim
      · exact apart.distinct slot first other second origin old old' same same'

end PushSessions

/-- The operation gives no session an origin. -/
def Op.Inherits : Op → Prop
  | .sessions change => GatewayWorker.KeepsOrigins change
  | _ => True

/-- The operation leaves sessions and partial frames alone. -/
def Op.KeepsEgress (op : Op) : Prop := ∀ worker, (op.apply worker).egress = worker.egress

namespace GatewayWorker

variable {worker after : GatewayWorker}

/-- The sessions that push streams have started were there before. -/
def Inherits (worker after : GatewayWorker) : Prop :=
  worker.egress.sessions.Descends after.egress.sessions

namespace Inherits

theorem refl : Inherits worker worker := PushSessions.Descends.refl

theorem of_egress (same : after.egress = worker.egress) : Inherits worker after := by
  rw [Inherits, same]
  exact .refl

theorem of_via (via : Via (fun op => ∀ worker, Inherits worker (op.apply worker)) worker after) :
    Inherits worker after :=
  @Run.Reaches.invariant _ _ _ _ _ _ (fun other => Inherits worker other)
    (fun other _ sofar inherits => sofar.trans (inherits other)) via .refl

end Inherits

theorem egress_openClient (slot : Nat) (data : Bytes) (isFin : Bool) (author : Author) :
    (worker.openClient slot data isFin author).2.egress = worker.egress := by
  unfold openClient
  split <;> rfl

theorem egress_deliver (workerId : Nat) (realm : RealmId) (session : Nat) (bytes : Bytes) :
    (worker.deliver workerId realm session bytes).2.egress = worker.egress := by
  unfold deliver
  split <;> rfl

theorem egress_sendPeer (nodeId : Nat) (realm : RealmId) (bytes : Bytes) (streaming : Bool) :
    (worker.sendPeer nodeId realm bytes streaming).2.egress = worker.egress := by
  unfold sendPeer
  split <;> rfl

theorem egress_sendPeerOn (stream : PeerStream) (bytes : Bytes) (isLast : Bool) :
    (worker.sendPeerOn stream bytes isLast).2.egress = worker.egress := by
  unfold sendPeerOn
  split <;> rfl

theorem egress_resetPeer (stream : PeerStream) :
    (worker.resetPeer stream).egress = worker.egress := by
  unfold resetPeer
  split <;> rfl

theorem egress_writeLocal (bytes : Bytes) (isLast : Bool) (target : LocalTarget) :
    (worker.writeLocal bytes isLast target).egress = worker.egress := by
  unfold writeLocal
  split <;> rfl

theorem egress_resetLocal (target : LocalTarget) :
    (worker.resetLocal target).egress = worker.egress := by
  unfold resetLocal
  split <;> rfl

theorem Via.egress (via : Via Op.KeepsEgress worker after) : after.egress = worker.egress :=
  via.preserves (fun worker => worker.egress) fun worker _ keeps => keeps worker

theorem egress_publish (slot : Nat) (kind : EventKind) (reason : SessionReason) :
    (worker.publish slot kind reason).egress = worker.egress := by
  refine Via.egress (publish_via ⟨?_, ?_, ?_, ?_⟩ fun _ _ _ => rfl)
  · exact fun _ _ => rfl
  · exact fun _ _ _ => rfl
  · exact fun _ => rfl
  · exact fun _ _ _ _ => rfl

theorem egress_revokeAdmission (slot : Nat) (reason : SessionReason) :
    (worker.revokeAdmission slot reason).egress = worker.egress := by
  cases found : worker.context slot with
  | none => simp [revokeAdmission, found]
  | some ctx =>
      refine Via.egress (revokeAdmission_via found ⟨?_, ?_, ?_⟩)
      · exact fun reason _ => egress_publish slot .offline reason
      · exact fun _ => rfl
      · exact fun _ => rfl

theorem egress_kickOne (realm : RealmId) (token : ConnToken) :
    (worker.kickOne realm token).2.egress = worker.egress := by
  refine Via.egress (kickOne_via (fun slot ctx _ _ _ => ⟨?_, ?_, ?_⟩) ?_ ?_)
  · exact fun reason _ => egress_publish slot .offline reason
  · exact fun _ => rfl
  · exact fun _ => rfl
  · exact fun slot data _ => egress_openClient slot data true .gateway
  · exact fun _ _ _ _ _ _ => rfl

theorem egress_admitSession (slot : Nat) (ctx : ConnectionContext) (handle : SessionHandle)
    (grant : AuthGrant) : (worker.admitSession slot ctx handle grant).egress = worker.egress := by
  refine Via.egress (admitSession_via ⟨?_, ?_, ?_, ?_⟩)
  · exact fun reason _ => egress_publish slot .offline reason
  · exact fun _ => egress_publish slot .online .authenticated
  · exact fun _ _ => rfl
  · exact fun _ => rfl

theorem egress_applyGroupChange (realm : RealmId) (join : Bool) (groupId : Nat)
    (token : ConnToken) :
    (worker.applyGroupChange realm join groupId token).2.egress = worker.egress := by
  obtain same | ⟨slot, ctx, conns, -, -, -, changed, -⟩ :=
    worker.applyGroupChange_cases realm join groupId token
  · rw [same]
  · rw [changed]

theorem egress_resolveBind (slot : Nat) (ctx : ConnectionContext) (parsed : Frame) :
    (worker.resolveBind slot ctx parsed).2.egress = worker.egress := by
  unfold resolveBind
  split
  · rfl
  split
  · rfl
  split <;> rfl

theorem egress_addConnection (kind : TransportKind) (realm : RealmId) (peerNode : Bool) :
    (worker.addConnection kind realm peerNode).egress = worker.egress := by
  unfold addConnection
  simp only
  split <;> rfl

namespace Inherits

theorem setSessions {change : PushSessions → PushSessions} (keeps : KeepsOrigins change) :
    Inherits worker (worker.setSessions (change worker.egress.sessions)) :=
  fun slot session key => keeps worker.egress.sessions slot session key

theorem attachOne (slot target : Nat) (bytes : Bytes) :
    Inherits worker (worker.attachOne slot target bytes).2 := by
  unfold GatewayWorker.attachOne
  split
  · exact refl
  · exact refl
  split
  · exact refl
  split
  · exact refl
  have opened := @egress_openClient worker target bytes false .backend
  split <;> rename_i answer <;> rw [answer] at opened
  · exact of_egress opened
  · rename_i token _ _ streamId _
    exact (of_egress opened).trans (setSessions (@keepsOrigins_modify slot
      (fun session => session.addLocal { token := token, streamId := streamId }) fun _ => rfl))

theorem writeSessionFrame (slot : Nat) (parsed : Frame) :
    Inherits worker (worker.writeSessionFrame slot parsed) := by
  cases found : worker.session slot with
  | none =>
      simp only [GatewayWorker.writeSessionFrame, found]
      exact refl
  | some session =>
      refine of_via (writeSessionFrame_via found ?_ ?_ ?_ ?_)
      · exact fun workerId _ _ => of_egress (egress_deliver workerId _ _ _)
      · exact fun stream _ _ => of_egress (egress_sendPeerOn stream _ _)
      · exact fun target _ _ => of_egress (egress_writeLocal _ _ target)
      · exact fun _ _ keeps _ => setSessions keeps

theorem abortSession (slot : Nat) : Inherits worker (worker.abortSession slot) := by
  cases found : worker.session slot with
  | none =>
      simp only [GatewayWorker.abortSession, found]
      exact refl
  | some session =>
      refine of_via (abortSession_via found ?_ ?_ ?_ ?_)
      · exact fun target _ _ => of_egress (egress_resetLocal target)
      · exact fun workerId _ _ => of_egress (egress_deliver workerId _ _ _)
      · exact fun stream _ _ => of_egress (egress_resetPeer stream)
      · exact fun _ _ keeps _ => setSessions keeps

end Inherits

end GatewayWorker

open GatewayWorker in
theorem Op.Inherits.inherits {op : Op} (may : op.Inherits) (worker : GatewayWorker) :
    GatewayWorker.Inherits worker (op.apply worker) := by
  cases op with
  | sessions change => exact .setSessions may
  | attach slot target bytes => exact .attachOne slot target bytes
  | writeSession slot parsed => exact .writeSessionFrame slot parsed
  | abortSession slot => exact .abortSession slot
  | openClient slot data isFin author => exact .of_egress (egress_openClient slot data isFin author)
  | deliver workerId realm session bytes =>
      exact .of_egress (egress_deliver workerId realm session bytes)
  | sendPeer nodeId realm bytes streaming =>
      exact .of_egress (egress_sendPeer nodeId realm bytes streaming)
  | sendPeerOn stream bytes isLast => exact .of_egress (egress_sendPeerOn stream bytes isLast)
  | resetPeer stream => exact .of_egress (egress_resetPeer stream)
  | writeLocal bytes isLast target => exact .of_egress (egress_writeLocal bytes isLast target)
  | resetLocal target => exact .of_egress (egress_resetLocal target)
  | publish slot kind reason => exact .of_egress (egress_publish slot kind reason)
  | revoke slot reason => exact .of_egress (egress_revokeAdmission slot reason)
  | kick realm token => exact .of_egress (egress_kickOne realm token)
  | admitClient slot ctx handle grant => exact .of_egress (egress_admitSession slot ctx handle grant)
  | group realm join groupId token =>
      exact .of_egress (egress_applyGroupChange realm join groupId token)
  | bind slot ctx parsed => exact .of_egress (egress_resolveBind slot ctx parsed)
  | accept kind realm peerNode => exact .of_egress (egress_addConnection kind realm peerNode)
  | placement nodes now => exact .of_egress (refreshPlacement_frame nodes now).2.2
  | outside change => exact .of_egress (changeOutside_frame change).2.2
  | pushes => exact PushSessions.Descends.refl
  | _ => exact .of_egress rfl

open GatewayWorker in
theorem Op.Inherits.sidelines : Sidelines Op.Inherits where
  locals := ⟨fun _ _ => trivial, fun _ _ => trivial⟩
  streams := ⟨fun _ _ keeps => keeps, fun _ _ _ => trivial, fun _ _ => trivial, fun _ => trivial,
    fun _ _ _ _ => trivial⟩
  forwards _ _ _ _ := ⟨fun _ => trivial, fun _ => trivial⟩
  commands _ _ := ⟨fun _ _ _ _ _ _ => trivial, fun _ _ _ _ _ => trivial⟩
  completes := ⟨⟨trivial, fun _ _ _ _ => trivial, fun _ _ => trivial⟩,
    fun _ => ⟨fun _ _ _ => trivial, fun _ => trivial⟩⟩
  close _ _ := trivial
  reset _ _ := trivial
  relay _ _ _ _ := trivial
  admitClient _ _ _ _ := trivial
  publish _ _ _ := trivial
  revoke _ _ := trivial
  pushes _ := trivial
  placement _ _ := trivial
  outside _ := trivial

namespace GatewayWorker

variable {worker after : GatewayWorker} {event : Event}

theorem inherits_relays (slot streamId : Nat) : Relays Op.Inherits slot streamId (fun _ _ => True) where
  ask := trivial
  reply _ _ := trivial
  reset _ := trivial
  openBackend _ _ _ := trivial
  tables _ _ := trivial
  trackAuth _ _ _ := trivial
  conn _ _ _ := trivial
  writeBackend _ _ _ := trivial
  openRoute _ _ _ := trivial
  register _ _ := trivial

theorem inherits_peerPushes (parsed : Frame) : PeerPushes Op.Inherits parsed where
  locals := Op.Inherits.sidelines.locals
  streams := Op.Inherits.sidelines.streams
  forwards realm := Op.Inherits.sidelines.forwards realm 0 parsed.bytes false
  sendPeer _ _ := trivial

theorem Inherits.of_inherits (via : Via Op.Inherits worker after) : Inherits worker after :=
  .of_via (via.mono fun _ _ may => Op.Inherits.inherits may)

theorem egress_closeClientSession (handle : SessionHandle) (reason : SessionReason) :
    (worker.closeClientSession handle reason).egress = worker.egress := by
  refine Via.egress (closeClientSession_via ?_ ?_ ?_ ?_)
  · exact fun slot reason _ => egress_publish slot .offline reason
  · exact fun _ _ _ => rfl
  · exact fun _ _ _ => rfl
  · exact fun _ => rfl

/-- Only a frame of a push stream starts a session for it. -/
theorem step_inherits (other : ∀ key realm parsed, event ≠ .pushFrame key realm parsed) :
    Inherits worker (worker.step event) := by
  have sidelines := Op.Inherits.sidelines
  cases requests : event.isRequest with
  | false =>
      by_cases expiry : ∃ now, event = .expireInflight now
      · obtain ⟨now, rfl⟩ := expiry
        exact .of_inherits (expireInflight_via sidelines.completes.answers fun _ => trivial)
      · exact .of_inherits (step_sidelines sidelines requests other fun now same =>
          expiry ⟨now, same⟩)
  | true =>
      cases event with
      | accept kind accepting resolved =>
          simp only [step, acceptClientSession]
          split
          · exact .of_egress (egress_addConnection _ _ _)
          · exact .refl
      | acceptPeer accepting =>
          simp only [step, handlePeerConnection]
          split
          · exact .of_egress (egress_addConnection _ _ _)
          · exact .refl
      | close handle reason => exact .of_egress (egress_closeClientSession handle reason)
      | frame slot streamId parsed =>
          exact .of_inherits (dispatchFrame_via (inherits_relays slot streamId)
            (fun _ _ _ _ => trivial) (inherits_peerPushes parsed) (fun _ _ => trivial)
            (fun _ => trivial) trivial)
      | frameSpill slot streamId known spill =>
          exact .of_inherits (keepFrameSpill_via (inherits_relays slot streamId).toRequests
            trivial fun _ => trivial)
      | finish slot streamId =>
          exact .of_inherits (finishClientStream_via (inherits_relays slot streamId)
            sidelines.streams)
      | reset slot streamId =>
          exact .of_inherits (resetClientInput_via (inherits_relays slot streamId)
            sidelines.streams)
      | _ => cases requests

/-- A push stream that starts a session adds it to the others. -/
theorem sessions_openSession {realm : RealmId} {key : StreamKey} :
    ∃ session, session.origin = some key ∧
      (worker.openSession none realm (some key)).2.egress.sessions =
        ((worker.egress.sessions.nextId.2.openSession session).map Prod.snd).getD
          worker.egress.sessions.nextId.2 := by
  refine ⟨{
    id := worker.egress.sessions.nextId.1
    realm := realm
    origin := some key
    lastActive := worker.now }, rfl, ?_⟩
  unfold openSession
  simp only
  split <;> rename_i answer <;> rw [answer] <;> rfl

/-- The frame of a push stream starts a session for it if it has none; apart from that, sessions
come from where they came from before. -/
theorem pushFrame_inherits (key : StreamKey) (realm : RealmId) (parsed : Frame) :
    ∃ middle : GatewayWorker, (middle = worker ∨ worker.egress.sessions.findByOrigin key = none ∧
        middle = (worker.openSession none realm (some key)).2) ∧
      Inherits middle (worker.step (.pushFrame key realm parsed)) := by
  have sidelines := Op.Inherits.sidelines
  obtain ⟨middle, started, reports⟩ :=
    @dispatchPush_starts Op.Inherits worker key realm parsed sidelines.locals sidelines.streams
      (sidelines.forwards ..) (fun _ => trivial) (fun _ _ _ => sidelines.commands realm parsed)
  have dispatched : Inherits middle (worker.dispatchPush key realm parsed).2 :=
    .of_inherits (reports.via fun _ _ _ => trivial)
  exact ⟨middle, started, dispatched⟩

theorem step_apart (apart : worker.egress.sessions.Apart) (event : Event) :
    (worker.step event).egress.sessions.Apart := by
  by_cases push : ∃ key realm parsed, event = .pushFrame key realm parsed
  · obtain ⟨key, realm, parsed, rfl⟩ := push
    obtain ⟨middle, started, inherits⟩ := @pushFrame_inherits worker key realm parsed
    refine PushSessions.Apart.descends ?_ inherits
    obtain rfl | ⟨unclaimed, rfl⟩ := started
    · exact apart
    · obtain ⟨session, own, opened⟩ := @sessions_openSession worker realm key
      have counted : worker.egress.sessions.nextId.2.Apart :=
        apart.descends fun slot session key => keepsOrigins_nextId _ slot session key
      rw [opened]
      exact counted.openSession unclaimed own
  · exact apart.descends (step_inherits fun key realm parsed same =>
      push ⟨key, realm, parsed, same⟩)

/-- A push stream without a session gets none by an event that brings no frame of it. -/
theorem step_findByOrigin {key : StreamKey}
    (other : ∀ realm parsed, event ≠ .pushFrame key realm parsed)
    (absent : worker.egress.sessions.findByOrigin key = none) :
    (worker.step event).egress.sessions.findByOrigin key = none := by
  by_cases push : ∃ key realm parsed, event = .pushFrame key realm parsed
  · obtain ⟨own, realm, parsed, rfl⟩ := push
    obtain ⟨middle, started, inherits⟩ := @pushFrame_inherits worker own realm parsed
    refine PushSessions.Descends.findByOrigin inherits ?_
    obtain rfl | ⟨-, rfl⟩ := started
    · exact absent
    · obtain ⟨session, from_, opened⟩ := @sessions_openSession worker realm own
      rw [opened]
      refine PushSessions.findByOrigin_eq_none.mpr fun slot inside found held started => ?_
      obtain ⟨rfl, -⟩ | old := slots_openSession held
      · obtain rfl : own = key := Option.some.inj (from_.symm.trans started)
        exact other realm parsed rfl
      · exact PushSessions.findByOrigin_eq_none.mp absent slot inside found old started
  · exact PushSessions.Descends.findByOrigin (step_inherits fun key realm parsed same =>
      push ⟨key, realm, parsed, same⟩) absent

/-- No operation of a step changes the partial frames of push streams, except when they or their
streams end. -/
theorem Permits.pushes_eq {op : Op} (permits : Permits worker event op)
    (other : event.isPush = false) (middle : GatewayWorker) :
    (op.apply middle).egress.pushes = middle.egress.pushes := by
  cases permits with
  | quiet quiet => exact congrArg Standing.pushes (quiet.calm middle).standing
  | pushes own => exact absurd own (by simp [other])
  | dispatched | turnAway | sendHome | remove | unbind | popped => rfl
  | accept | acceptPeer => rw [Op.apply, egress_addConnection]
  | bind => rw [Op.apply, egress_resolveBind]
  | admitClient => rw [Op.apply, egress_admitSession]
  | revoke => rw [Op.apply, egress_revokeAdmission]
  | renew => rw [Op.apply, egress_publish]
  | placement => rw [Op.apply, (refreshPlacement_frame _ _).2.2]
  | outside => rw [Op.apply, (changeOutside_frame _).2.2]
  | group => rw [Op.apply, egress_applyGroupChange]
  | kick => rw [Op.apply, egress_kickOne]

theorem step_pushes (other : event.isPush = false) :
    (worker.step event).egress.pushes = worker.egress.pushes :=
  (step_via event).preserves (fun worker => worker.egress.pushes)
    fun middle _ permits => Permits.pushes_eq permits other middle

end GatewayWorker

end LyuneGateway.Worker
