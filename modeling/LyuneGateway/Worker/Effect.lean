import LyuneGateway.Worker.Step

/-!
# What the handlers are made of

A handler changes its worker by a sequence of elementary operations. For each of
the handlers one theorem says which operations these are; whatever they preserve
is then preserved by the handler, and by every handler that uses it.
-/

namespace LyuneGateway.Worker

open Foundation Io Protocol Session

inductive Op where
  | ask
  | record (action : Action)
  | writeClient (client streamId : Nat) (data : Bytes) (isFin : Bool) (author : Author)
  | openClient (slot : Nat) (data : Bytes) (isFin : Bool) (author : Author)
  | sendEphemeral (client : Nat) (data : Bytes)
  | writeLocal (bytes : Bytes) (isLast : Bool) (target : LocalTarget)
  | resetLocal (target : LocalTarget)
  | attach (slot target : Nat) (bytes : Bytes)
  | writeSession (slot : Nat) (parsed : Frame)
  | abortSession (slot : Nat)
  | openBackend (transport : Nat) (data : Bytes) (isFin : Bool)
  | writeBackend (key : StreamKey) (data : Bytes) (isFin : Bool)
  | deliver (workerId : Nat) (realm : RealmId) (session : Nat) (bytes : Bytes)
  | sendPeer (nodeId : Nat) (realm : RealmId) (bytes : Bytes) (streaming : Bool)
  | sendPeerOn (stream : PeerStream) (bytes : Bytes) (isLast : Bool)
  | resetPeer (stream : PeerStream)
  | conn (slot : Nat) (change : ConnectionContext → ConnectionContext)
  | accept (kind : TransportKind) (realm : RealmId) (peerNode : Bool)
  | remove (handle : SessionHandle)
  | bindDest (handle : SessionHandle) (destId : Nat)
  | bind (slot : Nat) (ctx : ConnectionContext) (parsed : Frame)
  | group (realm : RealmId) (join : Bool) (groupId : Nat) (token : ConnToken)
  | kick (realm : RealmId) (token : ConnToken)
  | publish (slot : Nat) (kind : EventKind) (reason : SessionReason)
  | revoke (slot : Nat) (reason : SessionReason)
  | admitClient (slot : Nat) (ctx : ConnectionContext) (handle : SessionHandle) (grant : AuthGrant)
  | tables (change : Tables → Tables)
  | track (key : StreamKey) (change : Tables → Tables)
  | sessions (change : PushSessions → PushSessions)
  | pushes (change : Table StreamKey Bytes → Table StreamKey Bytes)
  | placement (nodes : List Nat) (now : Nat)
  | outside (change : Outside)

/-- Make an entry for a backend stream, which has been opened before. -/
def GatewayWorker.track (worker : GatewayWorker) (key : StreamKey) (change : Tables → Tables) :
    GatewayWorker :=
  { worker with
    inflight := if key.stream < 2 * worker.nextBackendStream then change worker.inflight
      else worker.inflight }

def Op.apply (worker : GatewayWorker) : Op → GatewayWorker
  | ask => worker.ask.2
  | record action => worker.record action
  | writeClient client streamId data isFin author =>
      (worker.writeClient client streamId data isFin author).2
  | openClient slot data isFin author => (worker.openClient slot data isFin author).2
  | sendEphemeral client data =>
      worker.ask.2.record (.ephemeral client data worker.ask.1)
  | writeLocal bytes isLast target => worker.writeLocal bytes isLast target
  | resetLocal target => worker.resetLocal target
  | attach slot target bytes => (worker.attachOne slot target bytes).2
  | writeSession slot parsed => worker.writeSessionFrame slot parsed
  | abortSession slot => worker.abortSession slot
  | openBackend transport data isFin => (worker.openBackend transport data isFin).2
  | writeBackend key data isFin => (worker.writeBackend key data isFin).2
  | deliver workerId realm session bytes => (worker.deliver workerId realm session bytes).2
  | sendPeer nodeId realm bytes streaming => (worker.sendPeer nodeId realm bytes streaming).2
  | sendPeerOn stream bytes isLast => (worker.sendPeerOn stream bytes isLast).2
  | resetPeer stream => worker.resetPeer stream
  | conn slot change => worker.modifyConn slot change
  | accept kind realm peerNode => worker.addConnection kind realm peerNode
  | remove handle => { worker with conns := worker.conns.removeSession handle }
  | bindDest handle destId => worker.bindDest handle destId
  | bind slot ctx parsed => (worker.resolveBind slot ctx parsed).2
  | group realm join groupId token => (worker.applyGroupChange realm join groupId token).2
  | kick realm token => (worker.kickOne realm token).2
  | publish slot kind reason => worker.publish slot kind reason
  | revoke slot reason => worker.revokeAdmission slot reason
  | admitClient slot ctx handle grant => worker.admitSession slot ctx handle grant
  | tables change => { worker with inflight := change worker.inflight }
  | track key change => worker.track key change
  | sessions change => worker.setSessions (change worker.egress.sessions)
  | pushes change => worker.setPushes (change worker.egress.pushes)
  | placement nodes now => worker.refreshPlacement nodes now
  | outside change => worker.changeOutside change

/-- One worker becomes another by allowed operations. -/
abbrev Via (allowed : Op → Prop) : GatewayWorker → GatewayWorker → Prop :=
  Run.Reaches Op.apply fun _ op => allowed op

namespace GatewayWorker

variable {allowed : Op → Prop} {worker after : GatewayWorker}

theorem Via.op {op : Op} (may : allowed op) (leads : op.apply worker = after) :
    Via allowed worker after :=
  Run.Reaches.single may leads

theorem openBackend_eq_some {transport stream : Nat} {data : Bytes} {isFin : Bool}
    (opened : worker.openBackend transport data isFin = (some stream, after)) :
    worker.fate worker.asked = true ∧ stream = 2 * worker.nextBackendStream ∧
      after = { worker with
        nextBackendStream := worker.nextBackendStream + 1
        asked := worker.asked + 1
        log := worker.log ++ [.backendSend ⟨transport, stream⟩ data isFin true] } := by
  unfold openBackend at opened
  simp only [Prod.mk.injEq] at opened
  obtain ⟨taken, rfl⟩ := opened
  obtain ⟨accepted, same⟩ := Option.ite_none_right_eq_some.mp taken
  obtain rfl := Option.some.inj same
  refine ⟨accepted, rfl, ?_⟩
  simp only [accepted]
  rfl

/-- A backend stream that has been opened can be tracked. -/
theorem opened_lt {transport stream : Nat} {data : Bytes} {isFin : Bool}
    (opened : worker.openBackend transport data isFin = (some stream, after)) :
    stream < 2 * after.nextBackendStream := by
  obtain ⟨-, rfl, rfl⟩ := openBackend_eq_some opened
  exact Nat.mul_lt_mul_of_pos_left (Nat.lt_succ_self _) (by decide)

/-- The stream is none of those that the gateway has opened. -/
def Unopened (worker : GatewayWorker) (key : StreamKey) : Prop :=
  2 * worker.nextBackendStream ≤ key.stream

theorem unopened {transport stream : Nat} {data : Bytes} {isFin : Bool}
    (opened : worker.openBackend transport data isFin = (some stream, after)) :
    worker.Unopened { transport := transport, stream := stream } := by
  obtain ⟨-, rfl, -⟩ := openBackend_eq_some opened
  exact Nat.le_refl _

theorem nextBackendStream_ask {answer : Bool} (asked : worker.ask = (answer, after)) :
    after.nextBackendStream = worker.nextBackendStream := by
  obtain rfl : worker.ask.2 = after := congrArg Prod.snd asked
  rfl

theorem unopened_ask {answer : Bool} (asked : worker.ask = (answer, after)) :
    after.Unopened = worker.Unopened := by
  funext key
  rw [Unopened, Unopened, nextBackendStream_ask asked]

theorem Via.track {key : StreamKey} {change : Tables → Tables} (may : allowed (.track key change))
    (opened : key.stream < 2 * worker.nextBackendStream) :
    Via allowed worker { worker with inflight := change worker.inflight } := by
  refine Via.op may ?_
  rw [Op.apply, GatewayWorker.track, if_pos opened]

theorem Via.pair {α : Type} {answer : α} (via : Via allowed worker after) :
    Via allowed worker (answer, after).2 := via

/-- The operations of a frame that goes to other workers and nodes. -/
structure Forwards (allowed : Op → Prop) (realm : RealmId) (session : Nat) (bytes : Bytes)
    (streaming : Bool) : Prop where
  deliver : ∀ workerId, allowed (.deliver workerId realm session bytes)
  sendPeer : ∀ nodeId, allowed (.sendPeer nodeId realm bytes streaming)

/-- The operations of a frame that goes to clients of this worker. -/
structure Locals (allowed : Op → Prop) : Prop where
  openClient : ∀ slot bytes, allowed (.openClient slot bytes true .backend)
  sendEphemeral : ∀ client data, allowed (.sendEphemeral client data)

theorem flush_via {routes : RouteSet} {realm : RealmId} {bytes : Bytes}
    (forwards : Forwards allowed realm 0 bytes false) :
    Via allowed worker (routes.flush worker realm bytes).2 := by
  refine Run.Reaches.trans (Run.Reaches.foldl (@Prod.snd RouteSet GatewayWorker)
    (fun workerId _ state => ?_) (routes, worker)) (Run.Reaches.foldl
      (@Prod.snd RouteSet GatewayWorker) (fun nodeId _ state => ?_) _)
  · change Via allowed state.2 (RouteSet.flushWorker realm bytes state workerId).2
    unfold RouteSet.flushWorker
    split
    · split <;> exact Via.op (forwards.deliver workerId) (congrArg Prod.snd ‹_›)
    · exact .refl
  · change Via allowed state.2 (RouteSet.flushNode realm bytes state nodeId).2
    unfold RouteSet.flushNode
    split
    · split <;> exact Via.op (forwards.sendPeer nodeId) (congrArg Prod.snd ‹_›)
    · exact .refl

theorem countSlots_via {each : GatewayWorker → Nat → Bool × GatewayWorker} {slots : List Nat}
    (every : ∀ worker slot, Via allowed worker (each worker slot).2) :
    Via allowed worker (countSlots each slots worker).2 :=
  Run.Reaches.foldl (@Prod.snd Nat _) (fun slot _ state => every state.2 slot) (0, worker)

theorem collectMissed_via {each : GatewayWorker → Nat → Bool × GatewayWorker} {entries : List Nat}
    (every : ∀ entry ∈ entries, ∀ worker, Via allowed worker (each worker entry).2) :
    Via allowed worker (collectMissed each entries worker).2 :=
  Run.Reaches.foldl (@Prod.snd (List Nat) _)
    (fun entry listed state => every entry listed state.2) ([], worker)

theorem pushToClient_via {slot : Nat} {bytes : Bytes}
    (may : allowed (.openClient slot bytes true .backend)) :
    Via allowed worker (worker.pushToClient slot bytes).2 := by
  unfold pushToClient
  split <;> exact Via.op may (congrArg Prod.snd ‹_›)

theorem deliverLocalPeer_via {realm : RealmId} {destId : Nat} {bytes : Bytes}
    (locals : Locals allowed) :
    Via allowed worker (worker.deliverLocalPeer realm destId bytes).2 :=
  countSlots_via fun _ slot => pushToClient_via (locals.openClient slot bytes)

theorem deliverLocalGroupDatagram_via {realm : RealmId} {groupId : Nat} {payload : Bytes}
    {skip : Option SessionHandle} (locals : Locals allowed) :
    Via allowed worker (worker.deliverLocalGroupDatagram realm groupId payload skip).2 := by
  unfold deliverLocalGroupDatagram
  split
  · exact .refl
  refine countSlots_via fun worker slot => ?_
  unfold sendDatagram
  split
  · exact .refl
  split
  · exact .refl
  split
  · exact .refl
  · exact Via.op (locals.sendEphemeral _ _) rfl

theorem deliverLocalGroup_via {realm : RealmId} {groupId : Nat} {parsed : Frame}
    (locals : Locals allowed) :
    Via allowed worker (worker.deliverLocalGroup realm groupId parsed).2 := by
  unfold deliverLocalGroup
  split
  · exact deliverLocalGroupDatagram_via locals
  · exact countSlots_via fun _ slot => pushToClient_via (locals.openClient slot parsed.bytes)

theorem fanOutUnreliable_via {sender : ConnectionContext} {groupId : Nat} {payload : Bytes}
    (locals : Locals allowed)
    (forwards : Forwards allowed sender.realm 0 (encodeUnreliableGroupFrame groupId payload) false) :
    Via allowed worker (worker.fanOutUnreliable sender groupId payload) := by
  unfold fanOutUnreliable
  have delivered : Via allowed worker (worker.deliverLocalGroupDatagram sender.realm groupId payload
    (some sender.sessionHandle)).2 := deliverLocalGroupDatagram_via locals
  simp only
  split
  · exact delivered
  · exact delivered.trans (flush_via forwards)

theorem applyGroupBinding_via {realm : RealmId} {join : Bool} {payload : Bytes}
    (may : ∀ binding, GroupBinding.decode payload = .ok binding →
      ∀ raw ∈ binding.members.toList, allowed (.group realm join binding.groupId (.decode raw))) :
    Via allowed worker (worker.applyGroupBinding realm join payload) := by
  unfold applyGroupBinding
  split
  · exact .refl
  · rename_i binding decoded
    exact Run.Reaches.foldl id (fun raw listed _ => Via.op (may binding decoded raw listed) rfl) _

theorem kickTokens_via {realm : RealmId} {tokens : List Nat} {bytes : Bytes}
    (forwards : Forwards allowed realm 0 bytes false)
    (kick : ∀ raw ∈ tokens, allowed (.kick realm (.decode raw))) :
    Via allowed worker (worker.kickTokens realm tokens bytes).2 := by
  refine (flush_via forwards).trans (collectMissed_via fun raw listed worker => ?_)
  unfold kickOrAccepted
  simp only
  split
  · exact Via.op (kick raw listed) rfl
  · exact .refl

/-- One worker becomes another by allowed operations and, if `wants` holds, a report at the end
on the stream that they came from. -/
def Reports (allowed : Op → Prop) (origin : Option StreamKey) (wants : Prop)
    (worker after : GatewayWorker) : Prop :=
  ∃ middle, Via allowed worker middle ∧
    (after = middle ∨ wants ∧ ∃ key data, origin = some key ∧
      after = (middle.writeBackend key data true).2)

namespace Reports

variable {origin : Option StreamKey} {wants more : Prop}

theorem of_via (via : Via allowed worker after) : Reports allowed origin wants worker after :=
  ⟨after, via, .inl rfl⟩

theorem written {middle : GatewayWorker} {key : StreamKey} {data : Bytes}
    (via : Via allowed worker middle) (wanted : wants) :
    Reports allowed (some key) wants worker (middle.writeBackend key data true).2 :=
  ⟨middle, via, .inr ⟨wanted, key, data, rfl, rfl⟩⟩

theorem pair {α : Type} {answer : α} (reports : Reports allowed origin wants worker after) :
    Reports allowed origin wants worker (answer, after).2 := reports

theorem mono (reports : Reports allowed origin wants worker after) (implies : wants → more) :
    Reports allowed origin more worker after := by
  obtain ⟨middle, via, same | ⟨wanted, written⟩⟩ := reports
  · exact ⟨middle, via, .inl same⟩
  · exact ⟨middle, via, .inr ⟨implies wanted, written⟩⟩

theorem via (reports : Reports allowed origin wants worker after)
    (report : ∀ key, origin = some key → ∀ data, allowed (.writeBackend key data true)) :
    Via allowed worker after := by
  obtain ⟨middle, via, rfl | ⟨-, key, data, from_, rfl⟩⟩ := reports
  · exact via
  · exact via.trans (Via.op (report key from_ data) rfl)

end Reports

theorem kickAll_via {origin : Option StreamKey} {realm : RealmId} {list : TokenList}
    {bytes : Bytes} {wantReport : Bool} (forwards : Forwards allowed realm 0 bytes false)
    (kick : ∀ raw ∈ list.toList, allowed (.kick realm (.decode raw))) :
    Reports allowed origin (wantReport = true) worker
      (worker.kickAll origin realm list bytes wantReport) := by
  have kicked : Via allowed worker (worker.kickTokens realm list.toList bytes).2 :=
    kickTokens_via forwards kick
  unfold kickAll
  simp only
  split
  · exact .written kicked rfl
  · exact .of_via kicked

/-- What a command may do that another worker or a backend has sent. -/
structure Commands (allowed : Op → Prop) (realm : RealmId) (parsed : Frame) : Prop where
  group : ∀ join binding,
    parsed.header.controlType = some (if join then .joinGroup else .leaveGroup) →
    GroupBinding.decode parsed.body = .ok binding →
    ∀ raw ∈ binding.members.toList, allowed (.group realm join binding.groupId (.decode raw))
  kick : ∀ list, parsed.header.controlType = some .kickOff →
    TokenList.decode parsed.body = .ok list →
    ∀ raw ∈ list.toList, allowed (.kick realm (.decode raw))

theorem each_via {Item : Type} {items : List Item} {change : GatewayWorker → Item → GatewayWorker}
    (every : ∀ item ∈ items, ∀ worker, Via allowed worker (change worker item)) :
    Via allowed worker (items.foldl change worker) :=
  Run.Reaches.foldl id every worker

theorem deliverOneShot_via {realm : RealmId} {bytes : Bytes} (locals : Locals allowed)
    (forwards : Forwards allowed realm 0 bytes false)
    (commands : ∀ parsed, parseExactFrame bytes = .ok parsed → parsed.header.isOpen = true →
      parsed.header.isLast = true → Commands allowed realm parsed) :
    Via allowed worker (worker.deliverOneShot realm bytes) := by
  unfold deliverOneShot
  split
  · exact .refl
  rename_i parsed exact_
  split
  · exact .refl
  rename_i whole
  split
  · split
    · exact .refl
    · exact each_via fun _ _ _ => deliverLocalPeer_via locals
  · split
    · exact .refl
    · exact each_via fun _ _ _ => deliverLocalGroup_via locals
  · have commanded := commands parsed exact_ (by simp_all) (by simp_all)
    split
    · rename_i control
      split
      · exact .refl
      · rename_i list decoded
        exact (kickAll_via forwards (commanded.kick list control decoded)).via nofun
    · rename_i control
      exact applyGroupBinding_via fun binding => commanded.group true binding control
    · rename_i control
      exact applyGroupBinding_via fun binding => commanded.group false binding control
    · exact .refl
  · exact .refl

theorem deliverFromPeer_via {realm : RealmId} {bytes : Bytes} (locals : Locals allowed)
    (forwards : Forwards allowed realm 0 bytes false) :
    Via allowed worker (worker.deliverFromPeer realm bytes) := by
  unfold deliverFromPeer
  split
  · exact .refl
  split
  · exact .refl
  split
  · exact (flush_via forwards).trans (each_via fun _ _ _ => deliverLocalPeer_via locals)
  · exact (flush_via forwards).trans (each_via fun _ _ _ => deliverLocalGroup_via locals)
  · exact .refl
  · exact .refl

theorem fanOut_via {key : StreamKey} {realm : RealmId} {list : TargetList} {bytes : Bytes}
    {wantReport : Bool} (locals : Locals allowed)
    (forwards : Forwards allowed realm 0 bytes false) :
    Reports allowed (some key) (wantReport = true) worker
      (worker.fanOut key realm list bytes wantReport) := by
  unfold fanOut
  have delivered (routes : RouteSet) (each : GatewayWorker → Nat → Bool × GatewayWorker)
      (every : ∀ worker destId, (each worker destId).2 =
        (worker.deliverLocalPeer realm destId bytes).2) :
      Via allowed worker (collectMissed each list.toList
        (routes.flush worker realm bytes).2).2 := by
    refine (flush_via forwards).trans (collectMissed_via fun destId _ worker => ?_)
    rw [every]
    exact deliverLocalPeer_via locals
  simp only
  split
  · rename_i wants
    exact .written (delivered _ _ fun _ _ => rfl) wants
  · exact .of_via (delivered _ _ fun _ _ => rfl)

theorem dispatchGroupBinding_via {realm : RealmId} {join : Bool} {parsed : Frame}
    (forwards : Forwards allowed realm 0 parsed.bytes false)
    (commands : Commands allowed realm parsed)
    (control : parsed.header.controlType = some (if join then .joinGroup else .leaveGroup)) :
    Via allowed worker (worker.dispatchGroupBinding realm join parsed).2 := by
  rw [dispatchGroupBinding]
  split
  · exact .refl
  rename_i binding decoded
  have bound : Via allowed worker (binding.members.toList.foldl
      (bindOrMark worker.placement realm join binding.groupId) (({} : RouteSet), worker)).2 := by
    refine Run.Reaches.foldl (@Prod.snd RouteSet _) (fun raw listed state => ?_) ({}, worker)
    change Via allowed state.2 (bindOrMark _ realm join binding.groupId state raw).2
    unfold bindOrMark
    simp only
    split
    · exact Via.op (commands.group join binding control decoded raw listed) rfl
    · exact .refl
  exact Via.pair (bound.trans (flush_via forwards))

theorem dispatchBackendControl_via {key : StreamKey} {realm : RealmId} {parsed : Frame}
    (forwards : Forwards allowed realm 0 parsed.bytes false)
    (commands : parsed.header.isLast = true → Commands allowed realm parsed) :
    Reports allowed (some key) (parsed.header.flags.report = true ∧
        parsed.header.controlType = some .kickOff ∧ parsed.header.isLast = true ∧
        (TokenList.decode parsed.body).toOption.isSome = true) worker
      (worker.dispatchBackendControl key realm parsed).2 := by
  unfold dispatchBackendControl
  split
  · rename_i control
    split
    · exact .of_via .refl
    rename_i whole
    have last : parsed.header.isLast = true := by simpa using whole
    split
    · exact .of_via .refl
    · rename_i list decoded
      refine (kickAll_via forwards ((commands last).kick list control decoded)).mono fun wants => ?_
      exact ⟨wants, control, last, by rw [decoded]; rfl⟩
  · rename_i control
    split
    · exact .of_via .refl
    · rename_i whole
      exact .of_via (dispatchGroupBinding_via forwards (commands (by simpa using whole)) control)
  · rename_i control
    split
    · exact .of_via .refl
    · rename_i whole
      exact .of_via (dispatchGroupBinding_via forwards (commands (by simpa using whole)) control)
  · exact .of_via .refl

/-- A change of the sessions after which each still has the client streams it had. -/
def KeepsLocals (change : PushSessions → PushSessions) : Prop :=
  ∀ sessions slot session, (change sessions).slots slot = some session →
    session.locals = [] ∨ ∃ old, sessions.slots slot = some old ∧ old.locals = session.locals

theorem keepsLocals_modify (slot : Nat) {change : PushSession → PushSession}
    (same : ∀ session, (change session).locals = session.locals) :
    KeepsLocals fun sessions => sessions.modify slot change := by
  intro sessions other session found
  by_cases here : other = slot
  · subst here
    simp only [PushSessions.modify, Function.update_self, Option.map_eq_some_iff] at found
    obtain ⟨old, held, rfl⟩ := found
    exact .inr ⟨old, held, (same old).symm⟩
  · simp only [PushSessions.modify, ne_eq, here, not_false_eq_true, Function.update_of_ne] at found
    exact .inr ⟨session, found, rfl⟩

theorem keepsLocals_close (slot : Nat) : KeepsLocals fun sessions => sessions.close slot := by
  intro sessions other session found
  by_cases here : other = slot
  · subst here
    simp [PushSessions.close] at found
  · simp only [PushSessions.close, ne_eq, here, not_false_eq_true, Function.update_of_ne] at found
    exact .inr ⟨session, found, rfl⟩

/-- A change of the sessions after which those of a push stream have been there before. -/
def KeepsOrigins (change : PushSessions → PushSessions) : Prop :=
  ∀ sessions slot session key, (change sessions).slots slot = some session →
    session.origin = some key → ∃ old, sessions.slots slot = some old ∧ old.origin = some key

theorem keepsOrigins_modify (slot : Nat) {change : PushSession → PushSession}
    (same : ∀ session, (change session).origin = session.origin) :
    KeepsOrigins fun sessions => sessions.modify slot change := by
  intro sessions other session key found started
  by_cases here : other = slot
  · subst here
    simp only [PushSessions.modify, Function.update_self, Option.map_eq_some_iff] at found
    obtain ⟨old, held, rfl⟩ := found
    exact ⟨old, held, (same old).symm.trans started⟩
  · simp only [PushSessions.modify, ne_eq, here, not_false_eq_true, Function.update_of_ne] at found
    exact ⟨session, found, started⟩

theorem keepsOrigins_close (slot : Nat) : KeepsOrigins fun sessions => sessions.close slot := by
  intro sessions other session key found started
  by_cases here : other = slot
  · subst here
    simp [PushSessions.close] at found
  · simp only [PushSessions.close, ne_eq, here, not_false_eq_true, Function.update_of_ne] at found
    exact ⟨session, found, started⟩

/-- The operations on streaming pushes, the sending of OPEN frames to other nodes and the start of a
session by a push stream apart. -/
structure Streams (allowed : Op → Prop) : Prop where
  sessions : ∀ change, KeepsLocals change → KeepsOrigins change → allowed (.sessions change)
  attach : ∀ slot target bytes, allowed (.attach slot target bytes)
  writeSession : ∀ slot parsed, allowed (.writeSession slot parsed)
  abortSession : ∀ slot, allowed (.abortSession slot)
  deliver : ∀ workerId realm session bytes, allowed (.deliver workerId realm session bytes)

theorem writeSessionFrame_via {slot : Nat} {parsed : Frame} {session : PushSession}
    (found : worker.session slot = some session)
    (deliver : ∀ workerId, session.workers workerId = true →
      allowed (.deliver workerId session.realm session.id parsed.bytes))
    (sendPeerOn : ∀ stream ∈ session.nodes,
      allowed (.sendPeerOn stream parsed.bytes parsed.header.isLast))
    (writeLocal : ∀ target ∈ session.locals,
      allowed (.writeLocal parsed.bytes parsed.header.isLast target))
    (sessions : ∀ change, KeepsLocals change → KeepsOrigins change → allowed (.sessions change)) :
    Via allowed worker (worker.writeSessionFrame slot parsed) := by
  have delivered : Via allowed worker (worker.deliverSession session parsed.bytes) := by
    refine each_via fun workerId _ worker => ?_
    split
    · exact Via.op (deliver workerId ‹_›) rfl
    · exact .refl
  unfold writeSessionFrame
  rw [found]
  simp only
  generalize worker.deliverSession session parsed.bytes = first at delivered ⊢
  have sent : Via allowed first (session.nodes.foldl (fun worker stream =>
      (worker.sendPeerOn stream parsed.bytes parsed.header.isLast).2) first) :=
    each_via fun stream listed _ => Via.op (sendPeerOn stream listed) rfl
  generalize session.nodes.foldl _ first = second at sent ⊢
  have written : Via allowed second (session.locals.foldl (fun worker target =>
      worker.writeLocal parsed.bytes parsed.header.isLast target) second) :=
    each_via fun target listed _ => Via.op (writeLocal target listed) rfl
  generalize session.locals.foldl _ second = third at written ⊢
  have touched : Via allowed third (third.modifySession slot fun own => own.touch third.now) :=
    Via.op (sessions _ (@keepsLocals_modify slot (fun own => own.touch third.now) fun _ => rfl)
      (@keepsOrigins_modify slot (fun own => own.touch third.now) fun _ => rfl)) rfl
  have all := delivered.trans (sent.trans (written.trans touched))
  split
  · exact all.trans (Via.op (sessions _ (keepsLocals_close slot) (keepsOrigins_close slot)) rfl)
  · exact all

theorem abortSession_via {slot : Nat} {session : PushSession}
    (found : worker.session slot = some session)
    (resetLocal : ∀ target ∈ session.locals, allowed (.resetLocal target))
    (deliver : ∀ workerId, session.workers workerId = true →
      allowed (.deliver workerId session.realm session.id []))
    (resetPeer : ∀ stream ∈ session.nodes, allowed (.resetPeer stream))
    (sessions : ∀ change, KeepsLocals change → KeepsOrigins change → allowed (.sessions change)) :
    Via allowed worker (worker.abortSession slot) := by
  have reset : Via allowed worker
      (session.locals.foldl (fun worker target => worker.resetLocal target) worker) :=
    each_via fun target listed _ => Via.op (resetLocal target listed) rfl
  unfold abortSession
  rw [found]
  simp only
  generalize session.locals.foldl _ worker = first at reset ⊢
  have delivered : Via allowed first (first.deliverSession session []) := by
    refine each_via fun workerId _ worker => ?_
    split
    · exact Via.op (deliver workerId ‹_›) rfl
    · exact .refl
  generalize first.deliverSession session [] = second at delivered ⊢
  have released : Via allowed second
      (session.nodes.foldl (fun worker stream => worker.resetPeer stream) second) :=
    each_via fun stream listed _ => Via.op (resetPeer stream listed) rfl
  exact reset.trans (delivered.trans (released.trans
    (Via.op (sessions _ (keepsLocals_close slot) (keepsOrigins_close slot)) rfl)))

theorem attachAll_via {slot : Nat} {bytes : Bytes} {targets : List Nat} {count : Nat}
    (streams : Streams allowed) :
    Via allowed worker (worker.attachAll slot bytes targets count).2 := by
  induction targets generalizing worker count with
  | nil => exact .refl
  | cons target targets ih =>
      unfold attachAll
      have tried : Via allowed worker (worker.attachOne slot target bytes).2 :=
        Via.op (streams.attach slot target bytes) rfl
      split <;> rename_i answer <;> rw [answer] at tried
      · exact Run.Reaches.trans tried ih
      · exact Run.Reaches.trans tried ih
      · exact tried

theorem attachSessionTargets_via {slot : Nat} {parsed : Frame} (streams : Streams allowed) :
    Via allowed worker (worker.attachSessionTargets slot parsed).2 := by
  have attached (targets : List Nat) (members : GatewayWorker → Nat → List Nat) :
      Via allowed worker (attachTargets slot parsed.bytes members targets worker).2 :=
    Run.Reaches.foldl (@Prod.snd (List Nat) _) (fun _ _ _ => attachAll_via streams) ([], worker)
  unfold attachSessionTargets
  split
  · exact .refl
  · exact .refl
  split
  · exact Via.pair (attached _ _)
  · exact Via.pair (attached _ _)
  · split <;> exact .refl
  · split <;> exact .refl

theorem keepsLocals_nextId : KeepsLocals fun sessions => sessions.nextId.2 :=
  fun _ _ session found => .inr ⟨session, found, rfl⟩

theorem keepsOrigins_nextId : KeepsOrigins fun sessions => sessions.nextId.2 :=
  fun _ _ session _ found started => ⟨session, found, started⟩

/-- The session of a slot is the one that has just been opened, or has been there before. -/
theorem slots_openSession {sessions : PushSessions} {session opened : PushSession} {other : Nat}
    (found : (((sessions.openSession session).map Prod.snd).getD sessions).slots other =
      some opened) :
    opened = session ∧ sessions.freeSlot = some other ∨ sessions.slots other = some opened := by
  simp only [PushSessions.openSession] at found
  cases free : sessions.freeSlot with
  | none =>
      rw [free] at found
      exact .inr found
  | some slot =>
      rw [free] at found
      by_cases here : other = slot
      · subst here
        simp only [Option.map_some, Option.getD_some, Function.update_self,
          Option.some.injEq] at found
        exact .inl ⟨found.symm, rfl⟩
      · simp only [Option.map_some, Option.getD_some, ne_eq, here, not_false_eq_true,
          Function.update_of_ne] at found
        exact .inr found

theorem keepsOrigins_openSession {session : PushSession} (inside : session.origin = none) :
    KeepsOrigins fun sessions => ((sessions.openSession session).map Prod.snd).getD sessions := by
  intro sessions other opened key found started
  obtain ⟨rfl, -⟩ | old := slots_openSession found
  · rw [inside] at started
    cases started
  · exact ⟨opened, old, started⟩

theorem keepsLocals_openSession {session : PushSession} (fresh : session.locals = []) :
    KeepsLocals fun sessions => ((sessions.openSession session).map Prod.snd).getD sessions := by
  intro sessions other opened found
  obtain ⟨rfl, -⟩ | old := slots_openSession found
  · exact .inl fresh
  · exact .inr ⟨opened, old, rfl⟩

/-- A session is opened without an origin, or with one if that is allowed too. -/
theorem openSession_via {id : Option Nat} {realm : RealmId} {origin : Option StreamKey}
    (sessions : ∀ change, KeepsLocals change → (origin = none → KeepsOrigins change) →
      allowed (.sessions change)) :
    Via allowed worker (worker.openSession id realm origin).2 := by
  have opened (worker : GatewayWorker) (session : PushSession) (fresh : session.locals = [])
      (own : session.origin = origin) :
      Via allowed worker (worker.setSessions
        (((worker.egress.sessions.openSession session).map Prod.snd).getD
          worker.egress.sessions)) :=
    Via.op (sessions _ (keepsLocals_openSession fresh) fun inside =>
      keepsOrigins_openSession (own.trans inside)) rfl
  cases id with
  | some id =>
      have opens := opened worker {
        id := id, realm := realm, origin := origin, lastActive := worker.now } rfl rfl
      unfold openSession
      simp only
      split <;> rename_i answer <;> rw [answer] at opens <;> exact opens
  | none =>
      have counted : Via allowed worker (worker.setSessions worker.egress.sessions.nextId.2) :=
        Via.op (sessions _ keepsLocals_nextId fun _ => keepsOrigins_nextId) rfl
      have opens := opened (worker.setSessions worker.egress.sessions.nextId.2) {
        id := worker.egress.sessions.nextId.1
        realm := realm
        origin := origin
        lastActive := worker.now } rfl rfl
      unfold openSession
      simp only
      split <;> rename_i answer <;> simp only [setSessions] at opens <;> rw [answer] at opens <;>
        exact counted.trans opens

theorem flushSession_via {routes : RouteSet} {slot : Nat} {session : PushSession} {bytes : Bytes}
    (streams : Streams allowed)
    (sendPeer : ∀ nodeId, allowed (.sendPeer nodeId session.realm bytes true)) :
    Via allowed worker (routes.flushSession worker slot session bytes).2 := by
  have workers : Via allowed worker ((List.range maxWorkers).foldl
      (RouteSet.flushSessionWorker slot session bytes) (routes, worker)).2 := by
    refine Run.Reaches.foldl (@Prod.snd RouteSet _) (fun workerId _ state => ?_) (routes, worker)
    change Via allowed state.2 (RouteSet.flushSessionWorker slot session bytes state workerId).2
    unfold RouteSet.flushSessionWorker
    have delivered : Via allowed state.2
        (state.2.deliver workerId session.realm session.id bytes).2 :=
      Via.op (streams.deliver _ _ _ _) rfl
    split
    · split <;> rename_i answer <;> rw [answer] at delivered
      · exact delivered.trans (Via.op (streams.sessions _
          (@keepsLocals_modify slot (fun own => own.addWorker workerId) fun _ => rfl)
          (@keepsOrigins_modify slot (fun own => own.addWorker workerId) fun _ => rfl)) rfl)
      · exact delivered
    · exact .refl
  have nodes (nodeIds : List Nat) (state : RouteSet × GatewayWorker) :
      Via allowed state.2 (RouteSet.flushSessionNodes slot session bytes nodeIds state).2 := by
    induction nodeIds generalizing state with
    | nil => exact .refl
    | cons nodeId nodeIds ih =>
        unfold RouteSet.flushSessionNodes
        have sent : Via allowed state.2 (state.2.sendPeer nodeId session.realm bytes true).2 :=
          Via.op (sendPeer nodeId) rfl
        split
        · split <;> rename_i answer <;> rw [answer] at sent
          · exact sent.trans (ih (state.1, _))
          · rename_i stream middle
            have added : Via allowed middle
                (middle.modifySession slot fun own => own.addNode stream) :=
              Via.op (streams.sessions _
                (@keepsLocals_modify slot (fun own => own.addNode stream) fun _ => rfl)
                (@keepsOrigins_modify slot (fun own => own.addNode stream) fun _ => rfl)) rfl
            split
            · exact sent
            · exact sent.trans (added.trans (ih (state.1.acceptNode nodeId, _)))
        · exact ih _
  exact workers.trans (nodes _ _)

theorem abortSessionById_via {sessionId : Nat} (streams : Streams allowed) :
    Via allowed worker (worker.abortSessionById sessionId) := by
  unfold abortSessionById
  split
  · exact .refl
  · exact Via.op (streams.abortSession _) rfl

theorem continuePeerSession_via {sessionId : Nat} {parsed : Frame} (streams : Streams allowed) :
    Via allowed worker (worker.continuePeerSession sessionId parsed) := by
  unfold continuePeerSession
  split
  · exact .refl
  · exact Via.op (streams.writeSession _ _) rfl

theorem purgeExpiredSessions_via {now : Nat} (streams : Streams allowed) :
    Via allowed worker (worker.purgeExpiredSessions now) := by
  unfold purgeExpiredSessions
  induction maxSessions generalizing worker with
  | zero => exact .refl
  | succ rounds ih =>
      unfold purgeSessions
      split
      · exact .refl
      · exact Run.Reaches.trans (Via.op (streams.abortSession _) rfl) ih

theorem closeSession_via {slot : Nat} (streams : Streams allowed) :
    Via allowed worker (worker.closeSession slot) :=
  Via.op (streams.sessions _ (keepsLocals_close slot) (keepsOrigins_close slot)) rfl

theorem openInside_via {id : Option Nat} {realm : RealmId} (streams : Streams allowed) :
    Via allowed worker (worker.openSession id realm none).2 :=
  openSession_via fun change keeps inside => streams.sessions change keeps (inside rfl)

theorem deliverStreamingHandoff_via {realm : RealmId} {sessionId : Nat} {bytes : Bytes}
    (streams : Streams allowed) :
    Via allowed worker (worker.deliverStreamingHandoff realm sessionId bytes) := by
  unfold deliverStreamingHandoff
  split
  · split
    · exact .refl
    · exact Via.op (streams.abortSession _) rfl
  split
  · exact .refl
  rename_i parsed _
  split
  · have opened : Via allowed worker (worker.openSession (some sessionId) realm none).2 :=
      openInside_via streams
    split
    · exact .refl
    split <;> rename_i answer <;> rw [answer] at opened
    · exact opened
    · rename_i slot session middle
      have attached : Via allowed middle (middle.attachSessionTargets slot parsed).2 :=
        attachSessionTargets_via streams
      split <;> rename_i answer <;> rw [answer] at attached
      · exact opened.trans (attached.trans (closeSession_via streams))
      split
      · exact opened.trans (attached.trans (closeSession_via streams))
      · exact opened.trans attached
  · split
    · exact .refl
    · exact Via.op (streams.writeSession _ _) rfl

theorem deliverHandoff_via {realm : RealmId} {sessionId : Nat} {bytes : Bytes}
    (locals : Locals allowed) (streams : Streams allowed)
    (forwards : Forwards allowed realm 0 bytes false)
    (commands : ∀ parsed, parseExactFrame bytes = .ok parsed → parsed.header.isOpen = true →
      parsed.header.isLast = true → Commands allowed realm parsed) :
    Via allowed worker (worker.deliverHandoff realm sessionId bytes) := by
  unfold deliverHandoff
  split
  · exact deliverStreamingHandoff_via streams
  · exact deliverOneShot_via locals forwards commands

theorem beginPeerSession_via {realm : RealmId} {parsed : Frame} (streams : Streams allowed)
    (sendPeer : ∀ nodeId, allowed (.sendPeer nodeId realm parsed.bytes true)) :
    Via allowed worker (worker.beginPeerSession realm parsed).2 := by
  unfold beginPeerSession
  split
  · exact .refl
  · exact .refl
  · exact .refl
  have opened : Via allowed worker (worker.openSession none realm none).2 :=
    openInside_via streams
  split <;> rename_i answer <;> rw [answer] at opened
  · exact opened
  rename_i slot session middle
  have sameRealm : session.realm = realm := by rw [openSession_eq_some answer]
  have flushed (routes : RouteSet) :
      Via allowed middle (routes.flushSession middle slot session parsed.bytes).2 :=
    flushSession_via streams (sameRealm ▸ sendPeer)
  simp only
  generalize (if 0 < _ then _ else _ : RouteSet) = routes
  specialize flushed routes
  generalize routes.flushSession middle slot session parsed.bytes = sent at flushed ⊢
  have attached : Via allowed sent.2 (sent.2.attachSessionTargets slot parsed).2 :=
    attachSessionTargets_via streams
  split <;> rename_i answer <;> rw [answer] at attached
  · exact opened.trans (flushed.trans (attached.trans (Via.op (streams.abortSession slot) rfl)))
  · exact opened.trans (flushed.trans attached)

/-- A session may be started for a push stream that has none; what follows are allowed operations
and perhaps a report. -/
def Starts (allowed : Op → Prop) (key : StreamKey) (realm : RealmId) (wants : Prop)
    (worker after : GatewayWorker) : Prop :=
  ∃ middle, (middle = worker ∨ worker.egress.sessions.findByOrigin key = none ∧
      middle = (worker.openSession none realm (some key)).2) ∧
    Reports allowed (some key) wants middle after

namespace Starts

variable {key : StreamKey} {realm : RealmId} {wants more : Prop}

theorem of_reports (reports : Reports allowed (some key) wants worker after) :
    Starts allowed key realm wants worker after :=
  ⟨worker, .inl rfl, reports⟩

theorem of_via (via : Via allowed worker after) : Starts allowed key realm wants worker after :=
  of_reports (.of_via via)

theorem pair {α : Type} {answer : α} (starts : Starts allowed key realm wants worker after) :
    Starts allowed key realm wants worker (answer, after).2 := starts

theorem mono (starts : Starts allowed key realm wants worker after) (implies : wants → more) :
    Starts allowed key realm more worker after := by
  obtain ⟨middle, started, reports⟩ := starts
  exact ⟨middle, started, reports.mono implies⟩

theorem reports (starts : Starts allowed key realm wants worker after)
    (opens : ∀ change, KeepsLocals change → allowed (.sessions change)) :
    Reports allowed (some key) wants worker after := by
  obtain ⟨middle, started, middle', via, ends⟩ := starts
  refine ⟨middle', ?_, ends⟩
  obtain rfl | ⟨-, rfl⟩ := started
  · exact via
  · exact Run.Reaches.trans (openSession_via fun change keeps _ => opens change keeps) via

end Starts

theorem openStreamingPush_starts {key : StreamKey} {realm : RealmId} {parsed : Frame}
    (unclaimed : worker.egress.sessions.findByOrigin key = none) (streams : Streams allowed)
    (sendPeer : ∀ nodeId, allowed (.sendPeer nodeId realm parsed.bytes true)) :
    Starts allowed key realm (parsed.header.flags.report = true ∧
        (decodeStreamingTargets parsed).isSome = true ∧
        worker.egress.sessions.freeSlot.isSome = true) worker
      (worker.openStreamingPush key realm parsed).2 := by
  unfold openStreamingPush
  split
  · exact .of_via .refl
  rename_i list decoded
  have started {middle after : GatewayWorker} {wants : Prop}
      (same : (worker.openSession none realm (some key)).2 = middle)
      (reports : Reports allowed (some key) wants middle after) :
      Starts allowed key realm wants worker after :=
    ⟨middle, .inr ⟨unclaimed, same.symm⟩, reports⟩
  have roomy : (worker.openSession none realm (some key)).1.isSome = true →
      worker.egress.sessions.freeSlot.isSome = true := by
    unfold openSession PushSessions.openSession
    simp only
    split
    · exact nofun
    · rename_i slot sessions found
      obtain ⟨free, known, -⟩ := Option.map_eq_some_iff.mp found
      exact fun _ => Option.isSome_iff_exists.mpr ⟨free, known⟩
  split <;> rename_i answer <;> rw [answer] at roomy
  · exact started (congrArg Prod.snd answer) (.of_via .refl)
  rename_i slot session middle
  refine started (congrArg Prod.snd answer) ?_
  have sameRealm : session.realm = realm := by rw [openSession_eq_some answer]
  have flushed (routes : RouteSet) :
      Via allowed middle (routes.flushSession middle slot session parsed.bytes).2 :=
    flushSession_via streams (sameRealm ▸ sendPeer)
  simp only
  generalize targetRoutes _ realm list _ = routes
  specialize flushed routes
  generalize routes.flushSession middle slot session parsed.bytes = sent at flushed ⊢
  have attached : Via allowed sent.2 (sent.2.attachSessionTargets slot parsed).2 :=
    attachSessionTargets_via streams
  split <;> rename_i answer <;> rw [answer] at attached
  · exact .of_via (flushed.trans (attached.trans (Via.op (streams.abortSession slot) rfl)))
  split
  · exact .of_via (flushed.trans attached)
  · rename_i wants
    exact .pair (.written (flushed.trans attached)
      ⟨by simpa using wants, by rw [decoded]; rfl, roomy rfl⟩)

/-- The targets of a push can be read: those of a whole frame or of one that starts a stream. -/
def readsTargets (parsed : Frame) : Bool :=
  if parsed.header.isLast then (TargetList.decode parsed.body).toOption.isSome
  else (decodeStreamingTargets parsed).isSome

/-- The frame asks for a report and is one that can be reported on. -/
def asksReport (parsed : Frame) : Bool :=
  parsed.header.isOpen && parsed.header.flags.report &&
    match parsed.header.destKind with
    | .service => false
    | .gateway => parsed.header.controlType = some .kickOff && parsed.header.isLast &&
        (TokenList.decode parsed.body).toOption.isSome
    | .peer | .multicast => readsTargets parsed

theorem dispatchMulticast_starts {key : StreamKey} {realm : RealmId} {parsed : Frame}
    (unclaimed : worker.egress.sessions.findByOrigin key = none)
    (locals : Locals allowed) (streams : Streams allowed)
    (forwards : Forwards allowed realm 0 parsed.bytes false)
    (sendPeer : ∀ nodeId, allowed (.sendPeer nodeId realm parsed.bytes true)) :
    Starts allowed key realm (parsed.header.flags.report = true ∧ readsTargets parsed = true ∧
        (parsed.header.isLast = true ∨ worker.egress.sessions.freeSlot.isSome = true)) worker
      (worker.dispatchMulticast key realm parsed).2 := by
  unfold dispatchMulticast
  split
  · rename_i streaming
    exact (openStreamingPush_starts unclaimed streams sendPeer).mono fun ⟨wants, reads, free⟩ =>
      ⟨wants, by simpa [readsTargets, streaming] using reads, .inr free⟩
  rename_i whole
  refine .of_reports ?_
  split
  · exact .of_via .refl
  rename_i list decoded
  have delivered (each : GatewayWorker → Nat → Bool × GatewayWorker)
      (every : ∀ worker groupId, (each worker groupId).2 =
        (worker.deliverLocalGroup realm groupId parsed).2) :
      Via allowed worker (collectMissed each list.toList worker).2 := by
    refine collectMissed_via fun groupId _ worker => ?_
    rw [every]
    exact deliverLocalGroup_via locals
  have sent (routes : RouteSet) := (delivered (fun worker groupId =>
    let answer := worker.deliverLocalGroup realm groupId parsed
    (0 < answer.1, answer.2)) fun _ _ => rfl).trans (@flush_via allowed _ routes _ _ forwards)
  split
  · exact .pair (.of_via (sent _))
  · rename_i wants
    have last : parsed.header.isLast = true := by simpa using whole
    have reads : readsTargets parsed = true := by
      simp [readsTargets, last, decoded, Except.toOption]
    exact .pair (.written (sent _) ⟨by simpa using wants, reads, .inl last⟩)

/-- The worker answers the frame of a push stream with a report. -/
def answersPush (worker : GatewayWorker) (key : StreamKey) (parsed : Frame) : Bool :=
  asksReport parsed && (worker.egress.sessions.findByOrigin key).isNone &&
    (parsed.header.isLast || worker.egress.sessions.freeSlot.isSome)

theorem dispatchPush_starts {key : StreamKey} {realm : RealmId} {parsed : Frame}
    (locals : Locals allowed) (streams : Streams allowed)
    (forwards : Forwards allowed realm 0 parsed.bytes false)
    (sendPeer : ∀ nodeId, allowed (.sendPeer nodeId realm parsed.bytes true))
    (commands : worker.egress.sessions.findByOrigin key = none → parsed.header.isOpen = true →
      parsed.header.isLast = true → Commands allowed realm parsed) :
    Starts allowed key realm (worker.answersPush key parsed = true) worker
      (worker.dispatchPush key realm parsed).2 := by
  unfold dispatchPush
  split
  · split
    · exact .of_via (Via.op (streams.abortSession _) rfl)
    · exact .of_via (Via.op (streams.writeSession _ _) rfl)
  rename_i unclaimed
  split
  · exact .of_via .refl
  rename_i opens
  have isOpen : parsed.header.isOpen = true := by simpa using opens
  split
  · rename_i kind
    refine .of_reports ((dispatchBackendControl_via forwards (commands unclaimed isOpen)).mono ?_)
    rintro ⟨wants, control, last, decoded⟩
    simp [answersPush, asksReport, isOpen, wants, kind, control, last, decoded, unclaimed]
  · rename_i kind
    refine (dispatchMulticast_starts unclaimed locals streams forwards sendPeer).mono ?_
    rintro ⟨wants, reads, able⟩
    simpa [answersPush, asksReport, isOpen, wants, kind, reads, unclaimed] using able
  · exact .of_via .refl
  rename_i kind
  split
  · rename_i streaming
    refine (openStreamingPush_starts unclaimed streams sendPeer).mono ?_
    rintro ⟨wants, reads, free⟩
    simp [answersPush, asksReport, readsTargets, isOpen, wants, kind, streaming, reads, free,
      unclaimed]
  rename_i whole
  split
  · exact .of_via .refl
  · rename_i list decoded
    refine .of_reports ((fanOut_via locals forwards).mono fun wants => ?_)
    simp [answersPush, asksReport, readsTargets, isOpen, wants, kind, whole, decoded, unclaimed,
      Except.toOption]

theorem onPushFrame_via {key : StreamKey} {realm : RealmId} {parsed : Frame}
    (locals : Locals allowed) (streams : Streams allowed)
    (opens : ∀ change, KeepsLocals change → allowed (.sessions change))
    (forwards : Forwards allowed realm 0 parsed.bytes false)
    (sendPeer : ∀ nodeId, allowed (.sendPeer nodeId realm parsed.bytes true))
    (report : ∀ data, allowed (.writeBackend key data true))
    (commands : worker.egress.sessions.findByOrigin key = none → parsed.header.isOpen = true →
      parsed.header.isLast = true → Commands allowed realm parsed)
    (dispatched : ∀ continues, allowed (.record (.dispatched key parsed continues))) :
    Via allowed worker (onPushFrame key realm worker parsed).1 := by
  have handled : Via allowed worker (worker.dispatchPush key realm parsed).2 := by
    refine ((dispatchPush_starts locals streams forwards sendPeer commands).reports opens).via ?_
    rintro own same data
    obtain rfl : key = own := Option.some.inj same
    exact report data
  unfold onPushFrame
  rcases answer : worker.dispatchPush key realm parsed with ⟨continues, middle⟩
  rw [answer] at handled
  exact handled.trans (Via.op (dispatched continues) rfl)

theorem abortBackendPush_via {key : StreamKey} (streams : Streams allowed)
    (pushes : ∀ change, allowed (.pushes change)) :
    Via allowed worker (worker.abortBackendPush key) := by
  have dropped : Via allowed worker (worker.dropPush key) :=
    Via.op (pushes fun pushes => pushes.erase key) rfl
  unfold abortBackendPush
  simp only
  split
  · exact dropped
  · exact dropped.trans (Via.op (streams.abortSession _) rfl)

end GatewayWorker

end LyuneGateway.Worker
