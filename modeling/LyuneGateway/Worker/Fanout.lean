import LyuneGateway.Lib.Spreading
import LyuneGateway.Protocol.Prefixes
import LyuneGateway.Worker.Clients

/-!
# Datagrams to a group

A datagram of a client goes to the members of its group wherever they are
connected. For the other workers and nodes it is wrapped in a frame, which may be
given a realm and be forwarded once more on the way; whoever gets the frame sends
what is in it to its own members, each on the channel that the member has bound.
-/

namespace LyuneGateway.Worker

open Foundation Io Protocol Session

/-- The frame of a datagram for a group. A frame from another node has its realm in place of the
route. -/
def groupFrame (route : RouteId) (groupId : Nat) (payload : Bytes) : Frame :=
  let body := EntryList.wire destIdSize [groupId] ++ payload
  let header : FrameHeader :=
    .initOpen .multicast route .none { eof := true, unreliable := true } body.length
  { header := header, body := body, bytes := header.wire ++ body }

def realmRoute (realm : RealmId) : RouteId where
  group := UInt8.ofNat (realm / 256)
  routeKey := UInt8.ofNat (realm % 256)

section Frames

variable {route : RouteId} {groupId : Nat} {payload : Bytes}

theorem encodeUnreliableGroupFrame_eq :
    encodeUnreliableGroupFrame groupId payload = (groupFrame {} groupId payload).bytes := by
  simp [encodeUnreliableGroupFrame, groupFrame, EntryList.wire, EntryList.entriesOf, destIdSize]

theorem length_body_groupFrame : (groupFrame route groupId payload).body.length =
    EntryList.byteSize destIdSize 1 + payload.length := by
  simp [groupFrame]

theorem bytes_groupFrame : (groupFrame route groupId payload).bytes =
    (groupFrame route groupId payload).header.wire ++ (groupFrame route groupId payload).body :=
  rfl

theorem length_wire_groupFrame : (groupFrame route groupId payload).header.wire.length =
    (groupFrame route groupId payload).header.headerSize := by
  have onStream : (groupFrame route groupId payload).header.frameType ≠ .datagram := nofun
  exact FrameHeader.length_wire onStream

theorem parse_groupFrame
    (fits : EntryList.byteSize destIdSize 1 + payload.length ≤ maxBodySize) :
    parseExactFrame (groupFrame route groupId payload).bytes =
      .ok (groupFrame route groupId payload) := by
  have onStream : (groupFrame route groupId payload).header.frameType ≠ .datagram := nofun
  have encodable : (groupFrame route groupId payload).header.Encodable := by
    refine ⟨onStream, ?_, nofun, fun other => absurd rfl other⟩
    rwa [← @length_body_groupFrame route groupId] at fits
  refine parseExactFrame_eq_ok_iff.mpr ⟨⟨FrameHeader.decode_wire encodable _, ?_, ?_⟩, rfl⟩
  · rw [bytes_groupFrame, List.length_append, length_wire_groupFrame]
    rfl
  · rw [bytes_groupFrame, ← length_wire_groupFrame, List.drop_left]

theorem targets_groupFrame (grouped : groupId < 2 ^ 64) :
    TargetList.decode (groupFrame route groupId payload).body =
        .ok (EntryList.ofList destIdSize [groupId]) ∧
      (EntryList.ofList destIdSize [groupId]).toList = [groupId] := by
  refine ⟨EntryList.decode_wire (by simp) payload, EntryList.toList_ofList ?_⟩
  intro value listed
  rw [List.mem_singleton.mp listed]
  exact grouped

theorem groupPayload_groupFrame (grouped : groupId < 2 ^ 64) :
    groupPayload (groupFrame route groupId payload) = payload := by
  unfold groupPayload
  rw [(targets_groupFrame grouped).1]
  have length := @EntryList.length_wire destIdSize [groupId]
  exact (congrArg (List.drop · _) length.symm).trans List.drop_left

theorem patchRealm_groupFrame (realm : RealmId)
    (fits : EntryList.byteSize destIdSize 1 + payload.length ≤ maxBodySize) :
    patchRealm (groupFrame route groupId payload).bytes realm =
      some (groupFrame (realmRoute realm) groupId payload).bytes := by
  have length : (groupFrame route groupId payload).bytes.length =
      openHeaderSize + (groupFrame route groupId payload).body.length := by
    rw [bytes_groupFrame, List.length_append, length_wire_groupFrame]
    rfl
  rw [length_body_groupFrame] at length
  unfold patchRealm
  rw [if_neg (by simp only [length, maxFrameSize]; omega)]
  simp [groupFrame, FrameHeader.wire, FrameHeader.initOpen, BigEndian.write, realmRoute]

theorem realmHint_groupFrame {realm : RealmId} (known : realm < 2 ^ 16) :
    (groupFrame (realmRoute realm) groupId payload).header.realmHint = some realm := by
  have high : (UInt8.ofNat (realm / 256)).toNat = realm / 256 :=
    UInt8.toNat_ofNat_of_lt' (Nat.div_lt_of_lt_mul known)
  have low : (UInt8.ofNat (realm % 256)).toNat = realm % 256 :=
    UInt8.toNat_ofNat_of_lt' (Nat.mod_lt realm (by decide))
  have sum : realm / 256 * 256 + realm % 256 = realm := Nat.div_add_mod' realm 256
  simp [groupFrame, FrameHeader.initOpen, FrameHeader.realmHint, DestKind.hasRouteKey, realmRoute,
    high, low, sum]

end Frames

/-- A frame on its way, to one worker or to a node, where any worker may get it. -/
inductive Copy where
  | worker (place : Location) (realm : RealmId) (bytes : Bytes)
  | node (nodeId : Nat) (bytes : Bytes)
  deriving DecidableEq, Repr

/-- Where a copy can come to be handled. -/
def Copy.region : Copy → Set Location
  | worker place _ _ => {place}
  | node nodeId _ => {place | place.nodeId = nodeId}

namespace Action

/-- The client and the bytes of a datagram. -/
def datagram : Action → Option (Nat × Bytes)
  | .ephemeral client data _ => some (client, data)
  | _ => none

/-- The copy that a worker of a node hands over or sends. -/
def copy (nodeId : Nat) : Action → Option Copy
  | .handoff workerId realm 0 bytes true => some (.worker ⟨nodeId, workerId⟩ realm bytes)
  | .peerSend other _ _ false (some (_, bytes)) => some (.node other bytes)
  | _ => none

end Action

/-- What a worker has sent to clients and passed on to others; nothing else about it that matters
to groups has changed. -/
structure Sends (nodeId : Nat) (worker after : GatewayWorker) (datagrams : List (Nat × Bytes))
    (copies : List Copy) : Prop where
  log : ∃ actions, after.log = worker.log ++ actions ∧
    actions.filterMap Action.datagram = datagrams ∧
    actions.filterMap (Action.copy nodeId) = copies
  conns : after.conns = worker.conns
  placement : after.placement = worker.placement
  limit : after.maxDatagramFrameSize = worker.maxDatagramFrameSize

namespace Sends

variable {nodeId : Nat} {worker middle after : GatewayWorker} {datagrams more : List (Nat × Bytes)}
  {copies further : List Copy}

theorem refl : Sends nodeId worker worker [] [] :=
  ⟨⟨[], (List.append_nil _).symm, rfl, rfl⟩, rfl, rfl, rfl⟩

theorem trans (first : Sends nodeId worker middle datagrams copies)
    (second : Sends nodeId middle after more further) :
    Sends nodeId worker after (datagrams ++ more) (copies ++ further) where
  log := by
    obtain ⟨actions, extends_, rfl, rfl⟩ := first.log
    obtain ⟨others, continues, rfl, rfl⟩ := second.log
    refine ⟨actions ++ others, ?_, List.filterMap_append, List.filterMap_append⟩
    rw [continues, extends_, List.append_assoc]
  conns := second.conns.trans first.conns
  placement := second.placement.trans first.placement
  limit := second.limit.trans first.limit

theorem record (action : Action) : Sends nodeId worker (worker.record action)
    action.datagram.toList (action.copy nodeId).toList := by
  refine ⟨⟨[action], rfl, ?_, ?_⟩, rfl, rfl, rfl⟩
  · cases sent : action.datagram <;> simp [sent]
  · cases sent : action.copy nodeId <;> simp [sent]

end Sends

namespace GatewayWorker

variable {nodeId groupId : Nat} {payload bytes patched : Bytes} {skip : Option SessionHandle}
  {realm : RealmId} {worker : GatewayWorker}

/-- The client and the bytes of the datagram that goes to a member of a group. -/
def datagramFor (worker : GatewayWorker) (groupId : Nat) (payload : Bytes)
    (skip : Option SessionHandle) (slot : Nat) : Option (Nat × Bytes) :=
  match worker.context slot with
  | none => none
  | some ctx =>
      if skip = some ctx.sessionHandle then none
      else (ctx.channelFor groupId).map fun channel =>
        (ctx.transport.ptr, FrameType.datagram.toByte :: UInt8.ofNat channel :: payload)

theorem datagramFor_eq {after : GatewayWorker} (same : after.conns = worker.conns) :
    after.datagramFor groupId payload skip = worker.datagramFor groupId payload skip := by
  funext slot
  simp only [datagramFor, context, same]

theorem sendDatagram_sends (slot : Nat) :
    Sends nodeId worker (sendDatagram groupId payload skip worker slot).2
      (worker.datagramFor groupId payload skip slot).toList [] := by
  unfold sendDatagram datagramFor
  cases found : worker.context slot with
  | none => exact .refl
  | some ctx =>
      simp only
      by_cases own : skip = some ctx.sessionHandle
      · simp only [if_pos own]
        exact .refl
      simp only [if_neg own]
      cases bound : ctx.channelFor groupId with
      | none => exact .refl
      | some channel =>
          have asked : Sends nodeId worker worker.ask.2 [] [] :=
            ⟨⟨[], (List.append_nil _).symm, rfl, rfl⟩, rfl, rfl, rfl⟩
          exact asked.trans (.record _)

theorem countSlots_sends (slots : List Nat) (state : Nat × GatewayWorker) :
    Sends nodeId state.2 (slots.foldl (fun state slot =>
        let answer := sendDatagram groupId payload skip state.2 slot
        (if answer.1 then state.1 + 1 else state.1, answer.2)) state).2
      (slots.filterMap (state.2.datagramFor groupId payload skip)) [] := by
  induction slots generalizing state with
  | nil => exact .refl
  | cons slot slots ih =>
      have first := @sendDatagram_sends nodeId groupId payload skip state.2 slot
      have rest := ih (if (sendDatagram groupId payload skip state.2 slot).1 then state.1 + 1
        else state.1, (sendDatagram groupId payload skip state.2 slot).2)
      rw [datagramFor_eq first.conns] at rest
      have both := first.trans rest
      rw [List.filterMap_cons]
      cases due : state.2.datagramFor groupId payload skip slot <;> simpa [due] using both

/-- The datagrams that go to the members of a group on this worker. -/
def localDatagrams (worker : GatewayWorker) (realm : RealmId) (groupId : Nat) (payload : Bytes)
    (skip : Option SessionHandle) : List (Nat × Bytes) :=
  if worker.maxDatagramFrameSize < payload.length then []
  else (worker.conns.groupConnections realm groupId).filterMap
    (worker.datagramFor groupId payload skip)

theorem deliverLocalGroupDatagram_sends :
    Sends nodeId worker (worker.deliverLocalGroupDatagram realm groupId payload skip).2
      (worker.localDatagrams realm groupId payload skip) [] := by
  unfold deliverLocalGroupDatagram localDatagrams
  split
  · exact .refl
  · exact countSlots_sends _ (0, worker)

theorem localDatagrams_eq {after : GatewayWorker} {datagrams : List (Nat × Bytes)}
    {copies : List Copy} (sends : Sends nodeId worker after datagrams copies) :
    after.localDatagrams realm groupId payload skip =
      worker.localDatagrams realm groupId payload skip := by
  simp only [localDatagrams, sends.limit, sends.conns, datagramFor_eq sends.conns]

theorem deliver_sends (workerId : Nat) :
    Sends nodeId worker (worker.deliver workerId realm 0 bytes).2 []
      (if (worker.deliver workerId realm 0 bytes).1 then
        [.worker ⟨nodeId, workerId⟩ realm bytes] else []) := by
  unfold deliver
  split
  · exact .record (.handoff workerId realm 0 bytes false)
  · rename_i router taken
    have moved : Sends nodeId worker { worker with router := router } [] [] :=
      ⟨⟨[], (List.append_nil _).symm, rfl, rfl⟩, rfl, rfl, rfl⟩
    exact moved.trans (.record (.handoff workerId realm 0 bytes true))

/-- What a link takes is the frame with the realm in it. -/
theorem send_eq_some {links : PeerLinks} {other now : Nat} {answers : LinkAnswers}
    {stream : PeerStream}
    (taken : (links.send other realm bytes now answers).2 = some (stream, patched)) :
    patchRealm bytes realm = some patched := by
  unfold PeerLinks.send at taken
  split at taken
  · cases taken
  split at taken
  · cases taken
  rename_i answer
  simp only at taken
  split at taken
  · cases taken
  · cases taken
    exact answer

theorem sendPeer_sends (patch : patchRealm bytes realm = some patched) (other : Nat) :
    Sends nodeId worker (worker.sendPeer other realm bytes false).2 [] [] ∨
      Sends nodeId worker (worker.sendPeer other realm bytes false).2 [] [.node other patched] := by
  unfold sendPeer
  split
  · exact .inl .refl
  rename_i links linked
  simp only
  have asked (links : PeerLinks) :
      Sends nodeId worker { worker.linkAnswers.2 with links := some links } [] [] :=
    ⟨⟨[], (List.append_nil _).symm, rfl, rfl⟩, rfl, rfl, rfl⟩
  rcases answer : (links.send other realm bytes worker.linkAnswers.2.now
    worker.linkAnswers.1).2 with _ | ⟨stream, sent⟩
  · exact .inl ((asked _).trans (.record (.peerSend other realm bytes false none)))
  · have same := send_eq_some answer
    rw [patch] at same
    cases same
    exact .inr ((asked _).trans (.record (.peerSend other realm bytes false (some (stream, patched)))))

/-- A loop that passes a frame on to some of those that are marked. -/
theorem Sends.foldl {marked : RouteSet → Nat → Bool} {copy : Nat → Copy}
    {change : RouteSet × GatewayWorker → Nat → RouteSet × GatewayWorker}
    (marks : ∀ state id, marked (change state id).1 = marked state.1)
    (each : ∀ state id, Sends nodeId state.2 (change state id).2 [] [] ∨
      marked state.1 id = true ∧ Sends nodeId state.2 (change state id).2 [] [copy id])
    (ids : List Nat) (state : RouteSet × GatewayWorker) :
    ∃ chosen : List Nat, chosen.Sublist ids ∧ (∀ id ∈ chosen, marked state.1 id = true) ∧
      Sends nodeId state.2 (ids.foldl change state).2 [] (chosen.map copy) := by
  induction ids generalizing state with
  | nil => exact ⟨[], .slnil, by simp, .refl⟩
  | cons id ids ih =>
      obtain ⟨chosen, fewer, were, rest⟩ := ih (change state id)
      rw [marks] at were
      obtain passed | ⟨was, sent⟩ := each state id
      · exact ⟨chosen, fewer.cons id, were, passed.trans rest⟩
      · exact ⟨id :: chosen, fewer.cons_cons id, List.forall_mem_cons.mpr ⟨was, were⟩,
          sent.trans rest⟩

theorem flushWorker_sends (state : RouteSet × GatewayWorker) (workerId : Nat) :
    (RouteSet.flushWorker realm bytes state workerId).1.workerPending = state.1.workerPending ∧
    (RouteSet.flushWorker realm bytes state workerId).1.nodePending = state.1.nodePending ∧
    (Sends nodeId state.2 (RouteSet.flushWorker realm bytes state workerId).2 [] [] ∨
      state.1.workerPending workerId = true ∧
        Sends nodeId state.2 (RouteSet.flushWorker realm bytes state workerId).2 []
          [.worker ⟨nodeId, workerId⟩ realm bytes]) := by
  have sent := @deliver_sends nodeId bytes realm state.2 workerId
  unfold RouteSet.flushWorker
  split
  · rename_i marked
    split <;> rename_i answer <;> rw [answer] at sent
    · exact ⟨rfl, rfl, .inr ⟨marked, sent⟩⟩
    · exact ⟨rfl, rfl, .inl sent⟩
  · exact ⟨rfl, rfl, .inl .refl⟩

theorem flushNode_sends (patch : patchRealm bytes realm = some patched)
    (state : RouteSet × GatewayWorker) (other : Nat) :
    (RouteSet.flushNode realm bytes state other).1.nodePending = state.1.nodePending ∧
    (Sends nodeId state.2 (RouteSet.flushNode realm bytes state other).2 [] [] ∨
      state.1.nodePending other = true ∧
        Sends nodeId state.2 (RouteSet.flushNode realm bytes state other).2 []
          [.node other patched]) := by
  have sent := @sendPeer_sends nodeId bytes patched realm state.2 patch other
  unfold RouteSet.flushNode
  split
  · rename_i marked
    split <;> rename_i answer <;> rw [answer] at sent
    · exact ⟨rfl, sent.imp_right fun sent => ⟨marked, sent⟩⟩
    · exact ⟨rfl, sent.imp_right fun sent => ⟨marked, sent⟩⟩
  · exact ⟨rfl, .inl .refl⟩

theorem nodePending_flushWorkers (ids : List Nat) (state : RouteSet × GatewayWorker) :
    (ids.foldl (RouteSet.flushWorker realm bytes) state).1.nodePending = state.1.nodePending := by
  induction ids generalizing state with
  | nil => rfl
  | cons workerId ids ih =>
      exact (ih _).trans (@flushWorker_sends 0 bytes realm state workerId).2.1

/-- A frame is passed on at most once to each of the workers and nodes that are marked. -/
theorem flush_sends (routes : RouteSet) (patch : patchRealm bytes realm = some patched) :
    ∃ workers nodes : List Nat,
      workers.Nodup ∧ (∀ workerId ∈ workers, routes.workerPending workerId = true) ∧
      nodes.Nodup ∧ (∀ other ∈ nodes, routes.nodePending other = true) ∧
      Sends nodeId worker (routes.flush worker realm bytes).2 []
        (workers.map (fun workerId => .worker ⟨nodeId, workerId⟩ realm bytes) ++
          nodes.map fun other => .node other patched) := by
  obtain ⟨workers, some_, marked, handed⟩ := Sends.foldl
    (fun state workerId => (@flushWorker_sends nodeId bytes realm state workerId).1)
    (fun state workerId => (@flushWorker_sends nodeId bytes realm state workerId).2.2)
    (List.range maxWorkers) (routes, worker)
  obtain ⟨nodes, few, pending, linked⟩ := Sends.foldl
    (fun state other => (@flushNode_sends nodeId bytes patched realm patch state other).1)
    (fun state other => (@flushNode_sends nodeId bytes patched realm patch state other).2)
    (List.range maxRoutableNodes) ((List.range maxWorkers).foldl (RouteSet.flushWorker realm bytes)
      (routes, worker))
  rw [nodePending_flushWorkers] at pending
  exact ⟨workers, nodes, some_.nodup List.nodup_range, marked, few.nodup List.nodup_range, pending,
    handed.trans linked⟩

/-- Whom a worker marks when it marks everyone: never itself, and no node if only its own counts. -/
theorem marked_of_markAll {view : Placement.View} {localOnly : Bool} :
    (∀ workerId, (RouteSet.markAll { localOnly := localOnly } view).workerPending workerId = true →
      workerId ≠ view.self.workerId) ∧
    ∀ other, (RouteSet.markAll { localOnly := localOnly } view).nodePending other = true →
      localOnly = false ∧ other ≠ view.self.nodeId := by
  cases localOnly <;>
    simp +contextual [RouteSet.markAll, RouteSet.markAllWorkers, RouteSet.markAllNodes]

end GatewayWorker

/-- The copy holds the frame of the datagram, with the realm beside it or in it. -/
def Copy.Carries (realm : RealmId) (groupId : Nat) (payload : Bytes) : Copy → Prop
  | worker _ own bytes => own = realm ∧ ∃ route, bytes = (groupFrame route groupId payload).bytes
  | node _ bytes => bytes = (groupFrame (realmRoute realm) groupId payload).bytes

/-- The other places of the node that a place is on. -/
def siblings (self : Location) : Set Location :=
  {place | place.nodeId = self.nodeId ∧ place ≠ self}

def abroad (self : Location) : Set Location := {place | place.nodeId ≠ self.nodeId}

namespace GatewayWorker

open Spreading

variable {groupId : Nat} {payload bytes : Bytes} {realm : RealmId} {worker : GatewayWorker}
  {route : RouteId}

theorem shares_workers {self : Location} {workers : List Nat} (once : workers.Nodup)
    (others : ∀ workerId ∈ workers, workerId ≠ self.workerId) :
    Shares Copy.region (siblings self)
      (workers.map fun workerId => .worker ⟨self.nodeId, workerId⟩ realm bytes) := by
  refine .map once (fun workerId listed => ?_) fun workerId other distinct => ?_
  · rintro place rfl
    exact ⟨rfl, fun same => others workerId listed (congrArg Location.workerId same)⟩
  · rintro place rfl same
    exact distinct (congrArg Location.workerId same)

theorem shares_nodes {self : Location} {nodes : List Nat} (once : nodes.Nodup)
    (others : ∀ other ∈ nodes, other ≠ self.nodeId) :
    Shares Copy.region (abroad self) (nodes.map fun other => .node other bytes) := by
  refine .map once (fun other listed => ?_) fun other another distinct => ?_
  · rintro place rfl
    exact others _ listed
  · rintro place rfl same
    exact distinct same

/-- A frame of the datagram is passed on to everyone else, or to everyone else on the node. -/
theorem passOn_sends (localOnly : Bool)
    (fits : EntryList.byteSize destIdSize 1 + payload.length ≤ maxBodySize) :
    ∃ handed linked : List Copy, (localOnly = true → linked = []) ∧
      Shares Copy.region (siblings worker.placement.self) handed ∧
      Shares Copy.region (abroad worker.placement.self) linked ∧
      (∀ copy ∈ handed ++ linked, copy.Carries realm groupId payload) ∧
      Sends worker.placement.self.nodeId worker
        ((RouteSet.markAll { localOnly := localOnly } worker.placement).flush worker realm
          (groupFrame route groupId payload).bytes).2 [] (handed ++ linked) := by
  obtain ⟨workers, nodes, some_, marked, few, pending, sent⟩ :=
    @flush_sends worker.placement.self.nodeId _ _ _ worker
      (RouteSet.markAll { localOnly := localOnly } worker.placement)
      (@patchRealm_groupFrame route groupId payload realm fits)
  have marks := @marked_of_markAll worker.placement localOnly
  refine ⟨_, _, ?_, shares_workers some_ fun workerId listed => ?_,
    shares_nodes few fun other listed => ?_, ?_, sent⟩
  · rintro rfl
    refine List.map_eq_nil_iff.mpr (List.eq_nil_iff_forall_not_mem.mpr fun other listed => ?_)
    exact absurd (marks.2 other (pending other listed)).1 (by decide)
  · exact marks.1 workerId (marked workerId listed)
  · exact (marks.2 other (pending other listed)).2
  · intro copy listed
    obtain handed | linked := List.mem_append.mp listed
    · obtain ⟨workerId, -, rfl⟩ := List.mem_map.mp handed
      exact ⟨rfl, route, rfl⟩
    · obtain ⟨other, -, rfl⟩ := List.mem_map.mp linked
      rfl

/-- The worker of the sender sends to its own members and passes the datagram on to all others. -/
theorem fanOutUnreliable_sends (sender : ConnectionContext)
    (fits : EntryList.byteSize destIdSize 1 + payload.length ≤ maxBodySize) :
    ∃ copies, Shares Copy.region {place | place ≠ worker.placement.self} copies ∧
      (∀ copy ∈ copies, copy.Carries sender.realm groupId payload) ∧
      Sends worker.placement.self.nodeId worker (worker.fanOutUnreliable sender groupId payload)
        (worker.localDatagrams sender.realm groupId payload (some sender.sessionHandle)) copies := by
  have delivered := @deliverLocalGroupDatagram_sends worker.placement.self.nodeId groupId payload
    (some sender.sessionHandle) sender.realm worker
  unfold fanOutUnreliable
  generalize (worker.deliverLocalGroupDatagram sender.realm groupId payload
    (some sender.sessionHandle)).2 = middle at delivered ⊢
  simp only
  split
  · exact ⟨[], .nil, by simp, delivered⟩
  rw [encodeUnreliableGroupFrame_eq]
  obtain ⟨handed, linked, -, near, far, carries, passed⟩ :=
    @passOn_sends groupId payload sender.realm middle {} false fits
  rw [delivered.placement] at near far passed
  refine ⟨handed ++ linked, ?_, carries, ?_⟩
  · refine (near.append far fun _ here there => there here.1).mono ?_
    rintro place (⟨-, other⟩ | away) rfl
    · exact other rfl
    · exact away rfl
  · rw [delivered.placement]
    have both := delivered.trans passed
    rwa [List.append_nil, List.nil_append] at both

theorem deliverLocalGroup_groupFrame (grouped : groupId < 2 ^ 64) :
    worker.deliverLocalGroup realm groupId (groupFrame route groupId payload) =
      worker.deliverLocalGroupDatagram realm groupId payload none := by
  unfold deliverLocalGroup
  rw [groupPayload_groupFrame grouped]
  exact if_pos rfl

/-- A worker that the frame is handed to sends what is in it to its own members. -/
theorem deliverOneShot_groupFrame (grouped : groupId < 2 ^ 64)
    (fits : EntryList.byteSize destIdSize 1 + payload.length ≤ maxBodySize) :
    worker.deliverOneShot realm (groupFrame route groupId payload).bytes =
      (worker.deliverLocalGroupDatagram realm groupId payload none).2 := by
  obtain ⟨decoded, listed⟩ := @targets_groupFrame route groupId payload grouped
  have whole : ¬ ((groupFrame route groupId payload).header.isOpen = false ∨
      (groupFrame route groupId payload).header.isLast = false) := by
    simp [groupFrame, FrameHeader.initOpen, FrameHeader.isOpen, FrameHeader.isLast]
  have kind : (groupFrame route groupId payload).header.destKind = .multicast := rfl
  unfold deliverOneShot
  simp only [parse_groupFrame fits, if_neg whole, kind, decoded, listed, List.foldl_cons,
    List.foldl_nil, deliverLocalGroup_groupFrame grouped]

theorem deliverFromPeer_multicast {bytes : Bytes} {parsed : Frame} {list : TargetList}
    (accepted : parseExactFrame bytes = .ok parsed)
    (decoded : TargetList.decode parsed.body = .ok list)
    (kind : parsed.header.destKind = .multicast) :
    worker.deliverFromPeer realm bytes =
      list.toList.foldl (fun worker groupId => (worker.deliverLocalGroup realm groupId parsed).2)
        ((RouteSet.markAll { localOnly := true } worker.placement).flush worker realm bytes).2 := by
  unfold deliverFromPeer
  rw [accepted]
  simp only
  rw [decoded, kind]

/-- A worker that the frame comes to from another node also passes it on to the other workers of
its own. -/
theorem deliverFromPeer_groupFrame (grouped : groupId < 2 ^ 64)
    (fits : EntryList.byteSize destIdSize 1 + payload.length ≤ maxBodySize) :
    worker.deliverFromPeer realm (groupFrame route groupId payload).bytes =
      (((RouteSet.markAll { localOnly := true } worker.placement).flush worker realm
        (groupFrame route groupId payload).bytes).2.deliverLocalGroupDatagram
          realm groupId payload none).2 := by
  obtain ⟨decoded, listed⟩ := @targets_groupFrame route groupId payload grouped
  rw [deliverFromPeer_multicast (parse_groupFrame fits) decoded rfl, listed, List.foldl_cons,
    List.foldl_nil, deliverLocalGroup_groupFrame grouped]

theorem openPeerNodeExchange_groupFrame (slot : Nat) (ctx : ConnectionContext) (streamId : Nat)
    (known : realm < 2 ^ 16) :
    worker.openPeerNodeExchange slot ctx streamId
        (groupFrame (realmRoute realm) groupId payload) =
      (.continueStream, worker.deliverFromPeer realm
        (groupFrame (realmRoute realm) groupId payload).bytes) := by
  have silent : ¬ (groupFrame (realmRoute realm) groupId payload).header.responseMode ≠ .none :=
    fun other => other rfl
  have kind : (groupFrame (realmRoute realm) groupId payload).header.destKind = .multicast := rfl
  have last : ¬ (groupFrame (realmRoute realm) groupId payload).header.isLast = false := by
    simp [groupFrame, FrameHeader.initOpen, FrameHeader.isLast]
  unfold openPeerNodeExchange
  rw [if_neg silent, if_neg (by simp [kind]), realmHint_groupFrame known]
  simp only [if_neg last]

end GatewayWorker

/-- The event at a worker that a copy has come to: its message is the next that waits for the
worker, or its frame has been read off a new stream of another node. -/
def Copy.Arrives (worker : GatewayWorker) : Copy → Event → Prop
  | .worker _ realm bytes, .handoff =>
      (worker.router.pop worker.placement.self.workerId).map Prod.fst =
        some { realm := realm, session := 0, bytes := bytes }
  | .node _ bytes, .frame slot streamId parsed =>
      parseExactFrame bytes = .ok parsed ∧ ∃ ctx, worker.context slot = some ctx ∧
        ctx.peerNode = true ∧ ctx.inboundExchanges.lookup streamId = none
  | _, _ => False

namespace GatewayWorker

open Spreading

variable {groupId : Nat} {payload : Bytes} {realm : RealmId} {worker : GatewayWorker}

/-- Handling a copy: the datagram goes to the members here, and copies to places that the copy was
also meant for. -/
theorem step_sends {copy : Copy} {event : Event} (arrives : copy.Arrives worker event)
    (meant : worker.placement.self ∈ copy.region) (carries : copy.Carries realm groupId payload)
    (known : realm < 2 ^ 16) (grouped : groupId < 2 ^ 64)
    (fits : EntryList.byteSize destIdSize 1 + payload.length ≤ maxBodySize) :
    ∃ copies, Shares Copy.region (copy.region \ {worker.placement.self}) copies ∧
      (∀ copy ∈ copies, copy.Carries realm groupId payload) ∧
      Sends worker.placement.self.nodeId worker (worker.step event)
        (worker.localDatagrams realm groupId payload none) copies := by
  cases copy with
  | worker place own bytes =>
      cases event with
      | handoff =>
          obtain ⟨rfl, route, rfl⟩ := carries
          obtain ⟨⟨message, router⟩, popped, same⟩ := Option.map_eq_some_iff.mp arrives
          simp only at same
          subst same
          have moved : Sends worker.placement.self.nodeId worker { worker with router := router }
              [] [] := ⟨⟨[], (List.append_nil _).symm, rfl, rfl⟩, rfl, rfl, rfl⟩
          refine ⟨[], .nil, by simp, ?_⟩
          change Sends _ worker worker.popHandoff _ _
          unfold popHandoff
          rw [popped]
          change Sends _ worker (GatewayWorker.deliverOneShot _ _ _) _ _
          rw [deliverOneShot_groupFrame grouped fits]
          exact moved.trans deliverLocalGroupDatagram_sends
      | _ => exact arrives.elim
  | node nodeId bytes =>
      cases event with
      | frame slot streamId parsed =>
          obtain ⟨accepted, ctx, found, peer, fresh⟩ := arrives
          obtain rfl : bytes = _ := carries
          rw [parse_groupFrame fits] at accepted
          cases accepted
          obtain ⟨handed, linked, none_, near, -, copies, passed⟩ :=
            @passOn_sends groupId payload realm worker (realmRoute realm) true fits
          rw [none_ rfl, List.append_nil] at copies passed
          refine ⟨handed, near.mono ?_, copies, ?_⟩
          · rintro place ⟨same, other⟩
            exact ⟨same.trans meant, other⟩
          · have opened : (groupFrame (realmRoute realm) groupId payload).header.isOpen = true :=
              rfl
            have stepped : worker.step (.frame slot streamId
                (groupFrame (realmRoute realm) groupId payload)) = (worker.openPeerNodeExchange slot
                  ctx streamId (groupFrame (realmRoute realm) groupId payload)).2 := by
              simp only [step, dispatchFrame, found, fresh, opened, openInboundExchange, peer,
                if_true]
            rw [stepped, openPeerNodeExchange_groupFrame slot ctx streamId known]
            simp only [deliverFromPeer_groupFrame grouped fits]
            have sent := passed.trans
              (@deliverLocalGroupDatagram_sends _ groupId payload none realm _)
            rwa [localDatagrams_eq passed, List.append_nil, List.nil_append] at sent
      | _ => exact arrives.elim

end GatewayWorker

end LyuneGateway.Worker
