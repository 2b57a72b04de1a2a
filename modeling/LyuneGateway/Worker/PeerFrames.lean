import LyuneGateway.Protocol.Roundtrip
import LyuneGateway.Worker.Fanout
import LyuneGateway.Worker.Inward

/-!
# Frames for other nodes

A worker sends the frame of a push to other nodes as it got it, but for the two
bytes that take the realm. In a frame for destinations or groups nothing else
stands there; in a command these bytes say what the command is. The receiver acts
on frames for destinations and groups alone, and only if no response is expected.
-/

namespace LyuneGateway.Worker

open Foundation Io Protocol Session

/-- The frame with the realm in the place of a route. -/
def forRealm (realm : RealmId) (original : Frame) : Frame :=
  let route := realmRoute realm
  let header := { original.header with group := route.group, routeKey := route.routeKey }
  { header := header, body := original.body, bytes := header.wire ++ original.body }

/-- The receiver of the frame finds in it what was sent, and the realm, and its worker acts on it. -/
def Agrees (realm : RealmId) (original : Frame) : Prop :=
  ∃ patched received, patchRealm original.bytes realm = some patched ∧
    parseExactFrame patched = .ok received ∧
    received.header.destKind = original.header.destKind ∧
    received.header.flags = original.header.flags ∧ received.body = original.body ∧
    received.header.realmHint = some realm ∧
    ∀ (receiver : GatewayWorker) (slot : Nat) (ctx : ConnectionContext) (streamId : Nat),
      (receiver.openPeerNodeExchange slot ctx streamId received).1 ≠ .closeConnection

/-- The frame is for destinations or groups, and expects no response. -/
def Deliverable (original : Frame) : Prop :=
  (original.header.destKind = .peer ∨ original.header.destKind = .multicast) ∧
    original.header.responseMode = .none

instance (original : Frame) : Decidable (Deliverable original) :=
  inferInstanceAs (Decidable (_ ∧ _))

section Patching

variable {realm : RealmId} {original : Frame}

theorem bytes_of_wellFormed (well : original.WellFormed) :
    original.bytes = original.header.wire ++ original.body := by
  rw [(FrameHeader.Reads.of_decode well.decoded).wire_eq, well.body, List.take_append_drop]

theorem length_of_wellFormed (well : original.WellFormed) :
    original.header.bodyLen = original.body.length := by
  have exact := well.exact
  rw [well.body, List.length_drop, exact, FrameHeader.frameSize, Nat.add_sub_cancel_left]

/-- A frame that says where it goes is an OPEN frame. -/
theorem isOpen_of_deliverable (well : original.WellFormed) (deliverable : Deliverable original) :
    original.header.frameType = .openFrame := by
  by_contra other
  obtain ⟨gateway, -⟩ := (FrameHeader.Reads.of_decode well.decoded).defaults other
  obtain ⟨peer | multicast, -⟩ := deliverable
  · cases peer.symm.trans gateway
  · cases multicast.symm.trans gateway

theorem patchRealm_eq (well : original.WellFormed) (opens : original.header.frameType = .openFrame) :
    patchRealm original.bytes realm = some (forRealm realm original).bytes := by
  have reads := FrameHeader.Reads.of_decode well.decoded
  have size : original.header.headerSize = openHeaderSize := by rw [FrameHeader.headerSize, opens]; rfl
  have small := reads.packed.small
  have length : original.bytes.length = openHeaderSize + original.header.bodyLen := by
    rw [well.exact, FrameHeader.frameSize, size]
  unfold patchRealm
  rw [if_neg]
  · rw [bytes_of_wellFormed well]
    simp [forRealm, FrameHeader.wire, opens, BigEndian.write, realmRoute]
  · have within : original.header.bodyLen ≤ maxBodySize := small
    simp only [length, maxFrameSize]
    omega

theorem parse_forRealm (well : original.WellFormed) (opens : original.header.frameType = .openFrame) :
    parseExactFrame (forRealm realm original).bytes = .ok (forRealm realm original) := by
  have reads := FrameHeader.Reads.of_decode well.decoded
  have kind : (forRealm realm original).header.frameType = .openFrame := opens
  have encodable : (forRealm realm original).header.Encodable := by
    refine ⟨reads.notDatagram, reads.packed.small, reads.report, fun other => absurd kind other⟩
  have front := FrameHeader.length_wire encodable.notDatagram
  refine parseExactFrame_eq_ok_iff.mpr ⟨⟨FrameHeader.decode_wire encodable _, ?_, ?_⟩, rfl⟩
  · change (_ ++ original.body).length = _
    rw [List.length_append, ← length_of_wellFormed well]
    exact congrArg (· + _) front
  · change original.body = (_ ++ original.body).drop _
    rw [← front]
    exact List.drop_left.symm

theorem realmHint_forRealm (known : realm < 2 ^ 16)
    (opens : original.header.frameType = .openFrame)
    (bare : original.header.destKind.hasRouteKey = false) :
    (forRealm realm original).header.realmHint = some realm := by
  have high : (UInt8.ofNat (realm / 256)).toNat = realm / 256 :=
    UInt8.toNat_ofNat_of_lt' (Nat.div_lt_of_lt_mul known)
  have low : (UInt8.ofNat (realm % 256)).toNat = realm % 256 :=
    UInt8.toNat_ofNat_of_lt' (Nat.mod_lt realm (by decide))
  have sum : realm / 256 * 256 + realm % 256 = realm := Nat.div_add_mod' realm 256
  simp [forRealm, FrameHeader.realmHint, opens, bare, realmRoute, high, low, sum]

/-- The two sides agree on a frame exactly if it is deliverable. -/
theorem agrees_iff (well : original.WellFormed) (known : realm < 2 ^ 16) :
    Agrees realm original ↔ Deliverable original := by
  constructor
  · rintro ⟨patched, received, patches, parsed, kind, -, -, hint, acts⟩
    have bare : original.header.destKind.hasRouteKey = false := by
      rw [← kind]
      unfold FrameHeader.realmHint at hint
      split at hint
      · cases hint
      · rename_i opens
        simpa using (not_or.mp opens).2
    have opens : original.header.frameType = .openFrame := by
      by_contra other
      obtain ⟨gateway, -⟩ := (FrameHeader.Reads.of_decode well.decoded).defaults other
      rw [gateway] at bare
      cases bare
    rw [patchRealm_eq well opens] at patches
    cases patches
    rw [parse_forRealm well opens] at parsed
    cases parsed
    constructor
    · cases addressed : original.header.destKind <;> simp_all [DestKind.hasRouteKey]
    · by_contra responds
      let idle : GatewayWorker := .init { self := ⟨0, 0⟩ } (.init 1 1) fun _ => true
      let peer : ConnectionContext := {
        sessionHandle := ⟨0, 0⟩
        transport := { kind := .rawQuic, ptr := 0 }
        realm := 0
        connectedAt := 0 }
      refine acts idle 0 peer 0 ?_
      have asks : (forRealm realm original).header.responseMode ≠ .none := responds
      unfold GatewayWorker.openPeerNodeExchange
      rw [if_pos asks]
  · intro deliverable
    have opens := isOpen_of_deliverable well deliverable
    obtain ⟨addressed, silent⟩ := deliverable
    have bare : original.header.destKind.hasRouteKey = false := by
      obtain peer | multicast := addressed
      · rw [peer]
        rfl
      · rw [multicast]
        rfl
    have hint := realmHint_forRealm known opens bare
    refine ⟨_, _, patchRealm_eq well opens, parse_forRealm well opens, rfl, rfl, rfl, hint, ?_⟩
    intro receiver slot ctx streamId
    have kind : (forRealm realm original).header.destKind = original.header.destKind := rfl
    have mode : (forRealm realm original).header.responseMode = .none := silent
    have foreign : ¬ ((forRealm realm original).header.destKind ≠ .peer ∧
        (forRealm realm original).header.destKind ≠ .multicast) := by
      rw [kind]
      rintro ⟨other, another⟩
      exact addressed.elim other another
    unfold GatewayWorker.openPeerNodeExchange
    rw [if_neg (by simp [mode]), if_neg foreign, hint]
    dsimp only
    split <;> simp

end Patching

/-- What the event gives the worker to pass on, and the realm that it is for. -/
inductive Gives (worker : GatewayWorker) : Event → RealmId → Frame → Prop where
  | push {key : StreamKey} {realm : RealmId} {parsed : Frame} (well : parsed.WellFormed) :
      Gives worker (.pushFrame key realm parsed) realm parsed
  | datagram {handle : SessionHandle} {data : Bytes} {ctx : ConnectionContext}
      {datagram : Datagram} {groupId : Nat} (known : worker.conns.getByHandle handle = some ctx)
      (decoded : Datagram.decode data = .ok datagram)
      (bound : ctx.channelGroup datagram.channel = some groupId) :
      Gives worker (.datagram handle data) ctx.realm (groupFrame {} groupId datagram.payload)
  | handed {message : AppMessage} {router : MessageRouter} {parsed : Frame}
      (popped : worker.router.pop worker.placement.self.workerId = some (message, router))
      (whole : parseExactFrame message.bytes = .ok parsed) :
      Gives worker .handoff message.realm parsed

/-- If the action hands a frame to a link, it is this frame for this realm, and what the link takes
is the frame with the realm in it. -/
def Action.Links (realm : RealmId) (bytes : Bytes) : Action → Prop
  | .peerSend _ own sent _ taken => own = realm ∧ sent = bytes ∧
      ∀ stream patched, taken = some (stream, patched) → patchRealm bytes realm = some patched
  | _ => True

/-- The operation hands no frame to a link but this one. -/
def Op.Links (realm : RealmId) (bytes : Bytes) (op : Op) : Prop :=
  ∀ worker, Grows (Action.Links realm bytes) worker (op.apply worker)

namespace Op.Links

open GatewayWorker

variable {realm : RealmId} {bytes : Bytes}

theorem of_inward (op : Op) (inward : op.Inward) : op.Links realm bytes := fun worker =>
  (inward.inside worker).log.mono fun action inward => by
    cases action with
    | peerSend => exact inward.elim
    | _ => trivial

theorem record (worker : GatewayWorker) {action : Action} (other : action.Links realm bytes) :
    Grows (Action.Links realm bytes) worker (worker.record action) :=
  .record other

theorem deliver (workerId : Nat) (own : RealmId) (session : Nat) (sent : Bytes) :
    (Op.deliver workerId own session sent).Links realm bytes := by
  intro worker
  have handed (accepted : Bool) :
      (Action.handoff workerId own session sent accepted).Links realm bytes := trivial
  change Grows _ worker (worker.deliver workerId own session sent).2
  unfold GatewayWorker.deliver
  split
  · exact record worker (handed false)
  · exact .trans (.of_log rfl) (record _ (handed true))

theorem sendPeerOn (stream : PeerStream) (sent : Bytes) (isLast : Bool) :
    (Op.sendPeerOn stream sent isLast).Links realm bytes := by
  intro worker
  have written (accepted : Bool) :
      (Action.peerSendOn stream sent isLast accepted).Links realm bytes := trivial
  change Grows _ worker (worker.sendPeerOn stream sent isLast).2
  unfold GatewayWorker.sendPeerOn
  split
  · exact .refl
  · exact .trans (.of_log rfl) (record _ (written _))

theorem resetPeer (stream : PeerStream) : (Op.resetPeer stream).Links realm bytes := by
  intro worker
  have reset (accepted : Bool) : (Action.peerReset stream accepted).Links realm bytes := trivial
  change Grows _ worker (worker.resetPeer stream)
  unfold GatewayWorker.resetPeer
  split
  · exact .refl
  · exact .trans (.of_log rfl) (record _ (reset _))

theorem sendPeer (nodeId : Nat) (streaming : Bool) :
    (Op.sendPeer nodeId realm bytes streaming).Links realm bytes := by
  intro worker
  change Grows _ worker (worker.sendPeer nodeId realm bytes streaming).2
  unfold GatewayWorker.sendPeer
  split
  · exact .refl
  · refine .trans (.of_log rfl) (record _ ⟨rfl, rfl, fun _ _ taken => ?_⟩)
    exact send_eq_some taken

theorem writeSession (slot : Nat) (parsed : Frame) :
    (Op.writeSession slot parsed).Links realm bytes := by
  intro worker
  cases found : worker.session slot with
  | none =>
      simp only [Op.apply, writeSessionFrame, found]
      exact .refl
  | some session =>
      refine Grows.of_via (writeSessionFrame_via found ?_ ?_ ?_ ?_)
      · exact fun workerId _ => deliver workerId _ _ _
      · exact fun stream _ => sendPeerOn stream _ _
      · exact fun target _ => of_inward (.writeLocal _ _ target) trivial
      · exact fun change _ _ => of_inward (.sessions change) trivial

theorem abortSession (slot : Nat) : (Op.abortSession slot).Links realm bytes := by
  intro worker
  cases found : worker.session slot with
  | none =>
      simp only [Op.apply, GatewayWorker.abortSession, found]
      exact .refl
  | some session =>
      refine Grows.of_via (abortSession_via found ?_ ?_ ?_ ?_)
      · exact fun target _ => of_inward (.resetLocal target) trivial
      · exact fun workerId _ => deliver workerId _ _ _
      · exact fun stream _ => resetPeer stream
      · exact fun change _ _ => of_inward (.sessions change) trivial

theorem locals : Locals (Op.Links realm bytes) where
  openClient slot data := of_inward (.openClient slot data true .backend) trivial
  sendEphemeral client data := of_inward (.sendEphemeral client data) trivial

theorem streams : Streams (Op.Links realm bytes) where
  sessions change _ _ := of_inward (.sessions change) trivial
  attach slot target data := of_inward (.attach slot target data) trivial
  writeSession := writeSession
  abortSession := abortSession
  deliver := deliver

theorem forwards : Forwards (Op.Links realm bytes) realm 0 bytes false where
  deliver workerId := deliver workerId realm 0 bytes
  sendPeer nodeId := sendPeer nodeId false

theorem commands (parsed : Frame) : Commands (Op.Links realm bytes) realm parsed where
  group join binding _ _ raw _ := of_inward (.group realm join binding.groupId (.decode raw)) trivial
  kick _ _ _ raw _ := of_inward (.kick realm (.decode raw)) trivial

end Op.Links

section Steps

open GatewayWorker

variable {worker : GatewayWorker} {event : Event} {realm : RealmId} {original : Frame}

/-- Whatever is done with what the worker is given, its links get nothing but this. -/
theorem Gives.links (gives : Gives worker event realm original) :
    Grows (Action.Links realm original.bytes) worker (worker.step event) := by
  cases gives with
  | push well =>
      rename_i key
      refine Grows.of_via (onPushFrame_via Op.Links.locals Op.Links.streams ?_ Op.Links.forwards
        ?_ ?_ ?_ ?_)
      · exact fun change _ => Op.Links.of_inward (.sessions change) trivial
      · exact fun nodeId => Op.Links.sendPeer nodeId true
      · exact fun data => Op.Links.of_inward (.writeBackend key data true) trivial
      · exact fun _ _ _ => Op.Links.commands original
      · exact fun continues => Op.Links.of_inward (.record (.dispatched key original continues)) trivial
  | datagram known decoded bound =>
      rename_i handle data ctx datagram groupId
      change Grows _ worker (worker.handleEphemeral handle data)
      unfold handleEphemeral
      simp only [known, decoded, bound]
      split
      · exact .refl
      · rw [← encodeUnreliableGroupFrame_eq]
        exact Grows.of_via (fanOutUnreliable_via Op.Links.locals Op.Links.forwards)
  | handed popped whole =>
      rename_i message router
      change Grows _ worker worker.popHandoff
      unfold popHandoff
      rw [popped, (parseExactFrame_eq_ok_iff.mp whole).2]
      have taken : Grows (Action.Links message.realm message.bytes) worker
          { worker with router := router } := .of_log rfl
      refine taken.trans (Grows.of_via (deliverHandoff_via Op.Links.locals Op.Links.streams
        Op.Links.forwards ?_))
      exact fun parsed _ _ _ => Op.Links.commands parsed

/-- What does not fit into a frame is not sent on. -/
theorem Gives.wellFormed (gives : Gives worker event realm original)
    (limited : worker.maxDatagramFrameSize ≤ 1452) :
    original.WellFormed ∨ worker.step event = worker := by
  cases gives with
  | push well => exact .inl well
  | datagram known decoded bound =>
      rename_i handle data ctx datagram groupId
      by_cases long : worker.maxDatagramFrameSize < datagram.payload.length
      · refine .inr ?_
        change worker.handleEphemeral handle data = worker
        unfold handleEphemeral
        simp only [known, decoded, bound]
        split
        · rfl
        · simp [fanOutUnreliable, deliverLocalGroupDatagram, long]
      · refine .inl (parseExactFrame_eq_ok_iff.mp (parse_groupFrame ?_)).1
        have short : datagram.payload.length ≤ 1452 := by omega
        exact (Nat.add_le_add_left short _).trans (by decide)
  | handed popped whole => exact .inl (parseExactFrame_eq_ok_iff.mp whole).1

/-- Of the frames that a worker hands to its links for a push or a datagram, exactly those for
destinations or groups, to which no response is expected, are what the other side takes them for. -/
theorem peers_agree_iff (gives : Gives worker event realm original)
    (limited : worker.maxDatagramFrameSize ≤ 1452) (known : realm < 2 ^ 16) :
    ∃ actions, (worker.step event).log = worker.log ++ actions ∧
      ∀ nodeId own bytes streaming taken,
        Action.peerSend nodeId own bytes streaming taken ∈ actions →
        own = realm ∧ bytes = original.bytes ∧
        (∀ stream patched, taken = some (stream, patched) →
          patchRealm original.bytes realm = some patched) ∧
        (Agrees realm original ↔ Deliverable original) := by
  obtain ⟨actions, extends_, linked⟩ := gives.links
  refine ⟨actions, extends_, fun nodeId own bytes streaming taken listed => ?_⟩
  obtain ⟨rfl, rfl, sent⟩ := linked _ listed
  refine ⟨rfl, rfl, sent, ?_⟩
  obtain well | same := gives.wellFormed limited
  · exact agrees_iff well known
  · rw [same] at extends_
    rw [List.self_eq_append_right.mp extends_] at listed
    cases listed

/-- A worker with a link to another node that is up. -/
def besideOther : GatewayWorker :=
  (GatewayWorker.init { self := { nodeId := 1, workerId := 0 } } (.init 1 16) fun _ => true).step
    (.outside (.links { links := [{ nodeId := 2, cnx := some 0, state := .ready }] }))

/-- A push for all members of a group, wherever they are. -/
def toGroup : Frame :=
  openFrame .multicast {} .none Flags.last (BigEndian.write 2 1 ++ BigEndian.write 8 5)

/-- The command to kick a connection of the other node. -/
def kickAbroad : Frame :=
  controlFrame .kickOff .none (BigEndian.write 2 1 ++ BigEndian.write 16 (2 * 2 ^ 48))

theorem peers_agree_on_group :
    ∃ actions, (besideOther.step (.pushFrame ⟨1, 1⟩ 7 toGroup)).log = besideOther.log ++ actions ∧
      ∀ nodeId own bytes streaming taken,
        Action.peerSend nodeId own bytes streaming taken ∈ actions →
        own = 7 ∧ bytes = toGroup.bytes ∧
        (∀ stream patched, taken = some (stream, patched) →
          patchRealm toGroup.bytes 7 = some patched) ∧
        (Agrees 7 toGroup ↔ Deliverable toGroup) :=
  peers_agree_iff (.push ⟨rfl, rfl, rfl⟩) (by decide) (by decide)

set_option maxRecDepth 10000 in
/-- The link takes the command, but the other node does not act on it. -/
theorem kick_abroad_is_lost :
    Gives besideOther (.pushFrame ⟨1, 1⟩ 7 kickAbroad) 7 kickAbroad ∧
      Action.peerSend 2 7 kickAbroad.bytes false
          (some (⟨2, 0, 0⟩, (forRealm 7 kickAbroad).bytes)) ∈
        (besideOther.step (.pushFrame ⟨1, 1⟩ 7 kickAbroad)).log ∧
      ¬ Agrees 7 kickAbroad := by
  refine ⟨.push ⟨rfl, rfl, rfl⟩, by decide +kernel, fun agrees => ?_⟩
  have deliverable := (agrees_iff ⟨rfl, rfl, rfl⟩ (by decide)).mp agrees
  exact absurd deliverable (by decide)

end Steps

end LyuneGateway.Worker
