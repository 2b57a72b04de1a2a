import LyuneGateway.Reactor.Cluster

/-!
# Packets come to the worker that they are for

A packet with the connection id of a gateway comes to the worker that the id
names, wherever in the cluster it was received, and as it was received; any
other packet stays where it came. No packet comes to a worker, and no answer to
a client, more often than it was sent, whatever the network does with the
datagrams of the tunnel.
-/

namespace LyuneGateway.Reactor

open LyuneGateway.Membership (Address Mac)
open LyuneGateway.Io.Forward
open LyuneGateway.Io (replayCacheCapacity)

/-- The worker that a packet is for, if its header is one that is believed. -/
def believedOwner (data : Bytes) : Option Cid.Fields :=
  if isShortHeader data = true then packetOwner data else none

namespace Cluster

/-- A packet has come from outside, and this is the worker that it is for, or the one it came to if
it does not say. -/
def Settled (cluster : Cluster) (nodeId workerId : Nat) (data : Bytes) (source : Address) : Prop :=
  ∃ arrival ∈ cluster.received, arrival.data = data ∧ arrival.source = source ∧
    (believedOwner data).getD ⟨arrival.nodeId, arrival.workerId⟩ = ⟨nodeId, workerId⟩

/-- Some worker has put out an answer to a client that is to go by this worker. -/
def Answered (cluster : Cluster) (nodeId workerId : Nat) (data : Bytes) (client : Address) : Prop :=
  ∃ entry ∈ cluster.log, ∃ sourceWorker,
    entry.output = .sendResponse nodeId workerId sourceWorker data client

/-- What goes one way or the other by this worker has its cause. -/
def Backed (cluster : Cluster) : TunnelKind → Nat → Nat → Bytes → Address → Prop
  | .request => cluster.Settled
  | .response => cluster.Answered

/-- All that has been heard is still known. -/
structure Grows (before after : Cluster) : Prop where
  received : before.received ⊆ after.received
  log : before.log ⊆ after.log

theorem Grows.refl (cluster : Cluster) : Grows cluster cluster := ⟨fun _ => id, fun _ => id⟩

theorem Backed.mono {before after : Cluster} (grows : Grows before after) {kind : TunnelKind}
    {nodeId workerId : Nat} {data : Bytes} {address : Address}
    (backed : before.Backed kind nodeId workerId data address) :
    after.Backed kind nodeId workerId data address := by
  cases kind with
  | request =>
      obtain ⟨arrival, listed, rest⟩ := backed
      exact ⟨arrival, grows.received listed, rest⟩
  | response =>
      obtain ⟨entry, listed, rest⟩ := backed
      exact ⟨entry, grows.log listed, rest⟩

end Cluster

namespace Output

/-- What a worker puts out has its cause. -/
def Backed (cluster : Cluster) (nodeId workerId : Nat) : Output → Prop
  | .incoming data source _ => cluster.Backed .request nodeId workerId data source
  | .handoff target data source _ => cluster.Backed .request nodeId target data source
  | .sendRequest target targetWorker _ data source =>
      cluster.Backed .request target targetWorker data source
  | .send data client => cluster.Backed .response nodeId workerId data client
  | .sendResponse .. | .batch .. => True

theorem Backed.mono {before after : Cluster} (grows : before.Grows after) {nodeId workerId : Nat}
    {output : Output} (backed : output.Backed before nodeId workerId) :
    output.Backed after nodeId workerId := by
  cases output with
  | incoming | handoff | sendRequest =>
      exact @Cluster.Backed.mono before after grows .request _ _ _ _ backed
  | send => exact @Cluster.Backed.mono before after grows .response _ _ _ _ backed
  | sendResponse | batch => trivial

end Output

/-! ## What a driver puts out -/

namespace ServerDriver

variable {driver : ServerDriver} {cluster : Cluster} {outside : Outside} {data : Bytes}
  {source : Address} {now : Nat} {output : Output} {nodeId workerId : Nat}

/-- The ways in which a packet from the socket is sent on, and that it is for this worker if it is
not. -/
theorem routeInbound_cases (driver : ServerDriver) (outside : Outside) (data : Bytes)
    (source : Address) (now : Nat) :
    ∃ routed outputs after, driver.routeInbound outside data source now = (routed, outputs, after) ∧
      after.nodeId = driver.nodeId ∧ after.workerId = driver.workerId ∧
      (routed = false → outputs = [] ∧ (believedOwner data).getD ⟨driver.nodeId, driver.workerId⟩ =
        ⟨driver.nodeId, driver.workerId⟩) ∧
      (outputs = [] ∨ ∃ owner, believedOwner data = some owner ∧
        (outputs = [.sendRequest owner.nodeId owner.workerId driver.workerId data source] ∨
          owner.nodeId = driver.nodeId ∧ outputs = [.handoff owner.workerId data source now])) := by
  unfold routeInbound believedOwner
  cases short : isShortHeader data with
  | false => exact ⟨_, _, _, rfl, rfl, rfl, by simp, .inl rfl⟩
  | true =>
      simp only [Bool.true_eq_false, if_false, if_true]
      cases owned : packetOwner data with
      | none => exact ⟨_, _, _, rfl, rfl, rfl, by simp, .inl rfl⟩
      | some owner =>
          dsimp only
          split
          · cases driver.forwardSender with
            | none => exact ⟨_, _, _, rfl, rfl, rfl, by simp, .inl rfl⟩
            | some sender =>
                dsimp only
                split
                · cases driver.returnTracker with
                  | none => exact ⟨_, _, _, rfl, rfl, rfl, by simp, .inl rfl⟩
                  | some tracker =>
                      refine ⟨_, _, _, rfl, rfl, rfl, by simp, ?_⟩
                      split
                      · exact .inr ⟨owner, rfl, .inl rfl⟩
                      · exact .inl rfl
                · exact ⟨_, _, _, rfl, rfl, rfl, by simp, .inr ⟨owner, rfl, .inl rfl⟩⟩
          · rename_i here
            split
            · exact ⟨_, _, _, rfl, rfl, rfl, by simp,
                .inr ⟨owner, rfl, .inr ⟨not_not.mp here, rfl⟩⟩⟩
            · rename_i own
              refine ⟨_, _, _, rfl, rfl, rfl, fun _ => ⟨rfl, ?_⟩, .inl rfl⟩
              obtain ⟨node, worker⟩ := owner
              rw [Option.getD_some, ← not_not.mp here, ← not_not.mp own]

/-- A packet from the socket goes to where it is for. -/
theorem handleUdpRecv_backed (arrived : ⟨driver.nodeId, driver.workerId, data, source⟩ ∈ cluster.received)
    (put : output ∈ (driver.handleUdpRecv outside data source now).1) :
    output.Backed cluster driver.nodeId driver.workerId := by
  obtain ⟨routed, outputs, after, routes, -, -, stays, goes⟩ :=
    driver.routeInbound_cases outside data source now
  rw [handleUdpRecv, routes] at put
  cases routed with
  | false =>
      simp only [Bool.false_eq_true, if_false, List.mem_singleton] at put
      obtain rfl := put
      exact ⟨_, arrived, rfl, rfl, (stays rfl).2⟩
  | true =>
      simp only [if_true] at put
      obtain rfl | ⟨owner, believed, rfl | ⟨here, rfl⟩⟩ := goes
      · cases put
      · obtain rfl := List.mem_singleton.mp put
        exact ⟨_, arrived, rfl, rfl, by rw [believed]; rfl⟩
      · obtain rfl := List.mem_singleton.mp put
        exact ⟨_, arrived, rfl, rfl, by rw [believed, ← here]; rfl⟩

/-- A packet that was handed over goes on to a connection or to a client, if anywhere. -/
theorem handleHandoffPacket_cases (driver : ServerDriver) (outside : Outside)
    (packet : ForwardPacket) (now : Nat) :
    (driver.handleHandoffPacket outside packet now).1 = [] ∨
      (packet.kind = .request ∧ ∃ receivedAt, (driver.handleHandoffPacket outside packet now).1 =
        [.incoming packet.bytes packet.addrFrom receivedAt]) ∨
      packet.kind = .response ∧ (driver.handleHandoffPacket outside packet now).1 =
        [.send packet.bytes packet.addrFrom] := by
  unfold handleHandoffPacket ForwardPacket.kind
  cases tunnelled : packet.tunnel with
  | none => exact .inr (.inl ⟨rfl, _, rfl⟩)
  | some metadata =>
      cases way : metadata.kind with
      | request =>
          simp only [way]
          split
          · exact .inr (.inl ⟨way, _, rfl⟩)
          · dsimp only
            split
            · exact .inr (.inl ⟨way, _, rfl⟩)
            · exact .inl rfl
      | response =>
          simp only [way, handleReturnResponse]
          split
          · exact .inl rfl
          · dsimp only
            split
            · exact .inr (.inr ⟨way, rfl⟩)
            · exact .inl rfl

theorem handleHandoffPacket_backed {packet : ForwardPacket}
    (backed : cluster.Backed packet.kind nodeId workerId packet.bytes packet.addrFrom)
    (put : output ∈ (driver.handleHandoffPacket outside packet now).1) :
    output.Backed cluster nodeId workerId := by
  obtain none | ⟨way, receivedAt, one⟩ | ⟨way, one⟩ :=
    driver.handleHandoffPacket_cases outside packet now
  · rw [none] at put
    cases put
  · rw [one] at put
    obtain rfl := List.mem_singleton.mp put
    rw [way] at backed
    exact backed
  · rw [one] at put
    obtain rfl := List.mem_singleton.mp put
    rw [way] at backed
    exact backed

/-- A connection sends to its client only, or to the node that its packets come by. -/
theorem flush_put {segmentSize : Nat} {dest : Address}
    (put : output ∈ (driver.flush data segmentSize dest now).1) :
    (∃ segment, output = .batch segment dest) ∨
      ∃ node worker segment, output = .sendResponse node worker driver.workerId segment dest := by
  have direct {outputs : List Output} (same : outputs =
      (data.toChunks segmentSize).map fun segment => Output.batch segment dest)
      (put : output ∈ outputs) : ∃ segment, output = .batch segment dest := by
    rw [same] at put
    obtain ⟨segment, -, rfl⟩ := List.mem_map.mp put
    exact ⟨segment, rfl⟩
  unfold flush at put
  dsimp only at put
  split at put
  · exact .inl (direct rfl put)
  · split at put
    · exact .inl (direct rfl put)
    · split at put
      · cases put
      · obtain ⟨segment, -, rfl⟩ := List.mem_map.mp put
        exact .inr ⟨_, _, segment, rfl⟩

theorem react_ids (driver : ServerDriver) (event : Event) :
    (driver.react event).2.nodeId = driver.nodeId ∧
      (driver.react event).2.workerId = driver.workerId := by
  cases event with
  | udp outside data source now =>
      obtain ⟨routed, outputs, after, routes, node, worker, -, -⟩ :=
        driver.routeInbound_cases outside data source now
      rw [react, handleUdpRecv, routes]
      cases routed <;> exact ⟨node, worker⟩
  | handoff outside packet now =>
      rw [react, handleHandoffPacket]
      split
      · exact ⟨rfl, rfl⟩
      · split
        · split <;> exact ⟨rfl, rfl⟩
        · rw [handleReturnResponse]
          split <;> exact ⟨rfl, rfl⟩
  | flush data segmentSize dest now =>
      rw [react, flush]
      split
      · exact ⟨rfl, rfl⟩
      · dsimp only
        split <;> exact ⟨rfl, rfl⟩

end ServerDriver

/-! ## Queues and tunnels -/

namespace ForwardPacket

theorem of_init {data : Bytes} {source : Address} {at_ : Nat} {packet : ForwardPacket}
    (made : init data source at_ = some packet) :
    packet.bytes = data ∧ packet.addrFrom = source ∧ packet.kind = .request := by
  unfold init at made
  split at made
  · cases made
  · cases made
    exact ⟨rfl, rfl, rfl⟩

theorem of_initTunnel {data : Bytes} {source : Address} {metadata : TunnelMetadata}
    {packet : ForwardPacket} (made : initTunnel data source metadata = some packet) :
    packet.bytes = data ∧ packet.addrFrom = source ∧ packet.kind = metadata.kind := by
  obtain ⟨plain, cut, rfl⟩ := Option.map_eq_some_iff.mp made
  exact ⟨(of_init cut).1, (of_init cut).2.1, rfl⟩

end ForwardPacket

namespace LocalPacketRouter

variable {router after : LocalPacketRouter} {workerId : Nat}

theorem push_eq_some {packet : Option ForwardPacket}
    (pushed : router.push workerId packet = some after) : ∃ held, packet = some held ∧
      after.queues =
        Function.update router.queues workerId (router.queues workerId ++ [held]) := by
  unfold push at pushed
  split at pushed
  · cases pushed
  split at pushed
  · cases pushed
  split at pushed
  · cases pushed
  · cases pushed
    exact ⟨_, rfl, rfl⟩

theorem pop_eq_some {packet : ForwardPacket} (popped : router.pop workerId = some (packet, after)) :
    ∃ rest, router.queues workerId = packet :: rest ∧
      after.queues = Function.update router.queues workerId rest := by
  unfold pop at popped
  split at popped
  · cases popped
  split at popped
  · cases popped
  · cases popped
    exact ⟨_, ‹_›, rfl⟩

end LocalPacketRouter

namespace Cluster

variable {mac : Mac} {cluster : Cluster} {nodeId workerId : Nat} {carriage : Carriage}
  {kind : TunnelKind} {targetNode targetWorker sourceWorker : Nat} {payload : Bytes}
  {client : Address}

/-- Sending uses up a number; what is sent is the datagram with it. -/
theorem sendTo_cases (mac : Mac) (tunnel : TunnelEnd) (kind : TunnelKind)
    (targetNode targetWorker sourceWorker : Nat) (payload : Bytes) (client : Address) :
    ∃ sent : Option Datagram,
      tunnel.sendTo mac kind targetNode targetWorker sourceWorker payload client =
        (sent, { tunnel with nextSequence := (tunnel.nextSequence + 1) % 2 ^ 64 }) ∧
      (sent = none ∨ tunnel.nextSequence ≠ 0 ∧
        sent = some (tunnel.datagram kind targetNode targetWorker sourceWorker payload client)) := by
  unfold TunnelEnd.sendTo
  dsimp only
  split
  · exact ⟨none, rfl, .inl rfl⟩
  · rename_i numbered
    split
    · exact ⟨none, rfl, .inl rfl⟩
    · exact ⟨_, rfl, .inr ⟨numbered, rfl⟩⟩

/-- Only the numbers of the tunnel move on, and at most the datagram with the next one is posted. -/
theorem sendForward_cases (mac : Mac) (cluster : Cluster) (nodeId : Nat) (carriage : Carriage)
    (kind : TunnelKind) (targetNode targetWorker sourceWorker : Nat) (payload : Bytes)
    (client : Address) :
    cluster.sendForward mac nodeId carriage kind targetNode targetWorker sourceWorker payload
        client = cluster ∨
      ∃ tunnel sent, (cluster.nodes nodeId).tunnel = some tunnel ∧
        (sent = [] ∨ tunnel.nextSequence ≠ 0 ∧ sent =
          [tunnel.datagram kind targetNode targetWorker sourceWorker payload client]) ∧
        cluster.sendForward mac nodeId carriage kind targetNode targetWorker sourceWorker payload
          client = { cluster with
            nodes := Function.update cluster.nodes nodeId { cluster.nodes nodeId with
              tunnel := some { tunnel with
                nextSequence := (tunnel.nextSequence + 1) % 2 ^ 64 } }
            posted := cluster.posted ++ sent } := by
  unfold sendForward
  dsimp only
  cases held : (cluster.nodes nodeId).tunnel with
  | none => exact .inl rfl
  | some tunnel =>
      obtain ⟨sent, same, made⟩ :=
        sendTo_cases mac tunnel kind targetNode targetWorker sourceWorker payload client
      dsimp only
      split
      · exact .inl rfl
      · refine .inr ⟨tunnel, if carriage = .posted then sent.toList else [], rfl, ?_, by rw [same]⟩
        split
        · obtain rfl | ⟨numbered, rfl⟩ := made
          · exact .inl rfl
          · exact .inr ⟨numbered, rfl⟩
        · exact .inl rfl

/-! ## Everything has its cause -/

/-- What waits, what has been posted and what has been put out has its cause. -/
structure Traced (cluster : Cluster) : Prop where
  drivers : ∀ nodeId ∈ cluster.members, ∀ workerId,
    ((cluster.nodes nodeId).drivers workerId).nodeId = nodeId ∧
      ((cluster.nodes nodeId).drivers workerId).workerId = workerId
  tunnels : ∀ nodeId ∈ cluster.members, ∀ tunnel, (cluster.nodes nodeId).tunnel = some tunnel →
    tunnel.nodeId = nodeId
  queues : ∀ nodeId workerId, ∀ packet ∈ (cluster.nodes nodeId).router.queues workerId,
    cluster.Backed packet.kind nodeId workerId packet.bytes packet.addrFrom
  posted : ∀ datagram ∈ cluster.posted, cluster.Backed datagram.kind datagram.targetNodeId
    datagram.targetWorkerId datagram.payload datagram.clientAddress
  log : ∀ entry ∈ cluster.log, entry.output.Backed cluster entry.nodeId entry.workerId

/-- What has happened is not forgotten. -/
theorem Traced.of_grows {after : Cluster} (traced : cluster.Traced) (grows : cluster.Grows after)
    (members : after.members = cluster.members) (nodes : after.nodes = cluster.nodes)
    (posted : after.posted = cluster.posted)
    (log : ∀ entry ∈ after.log, entry ∈ cluster.log ∨
      entry.output.Backed after entry.nodeId entry.workerId) : after.Traced where
  drivers := by
    rw [members, nodes]
    exact traced.drivers
  tunnels := by
    rw [members, nodes]
    exact traced.tunnels
  queues := by
    rw [nodes]
    exact fun node worker packet waits => (traced.queues node worker packet waits).mono grows
  posted := by
    rw [posted]
    exact fun datagram listed => (traced.posted datagram listed).mono grows
  log := fun entry listed => (log entry listed).elim
    (fun earlier => (traced.log entry earlier).mono grows) id

/-- One node is another one, with its own ids and only packets that have their cause. -/
theorem Traced.update {node : Node} (traced : cluster.Traced)
    (drivers : nodeId ∈ cluster.members → ∀ workerId, (node.drivers workerId).nodeId = nodeId ∧
      (node.drivers workerId).workerId = workerId)
    (tunnels : nodeId ∈ cluster.members → ∀ tunnel, node.tunnel = some tunnel →
      tunnel.nodeId = nodeId)
    (queues : ∀ workerId, ∀ packet ∈ node.router.queues workerId,
      cluster.Backed packet.kind nodeId workerId packet.bytes packet.addrFrom) :
    Traced { cluster with nodes := Function.update cluster.nodes nodeId node } where
  drivers := by
    intro other member
    by_cases same : other = nodeId
    · subst same
      simpa using drivers member
    · simpa [same] using traced.drivers other member
  tunnels := by
    intro other member
    by_cases same : other = nodeId
    · subst same
      simpa using tunnels member
    · simpa [same] using traced.tunnels other member
  queues := by
    intro other worker packet waits
    by_cases same : other = nodeId
    · subst same
      simp only [Function.update_self] at waits
      exact queues worker packet waits
    · simp only [Function.update_of_ne same] at waits
      exact traced.queues other worker packet waits
  posted := traced.posted
  log := traced.log

theorem Traced.handOver (traced : cluster.Traced) {router : Option LocalPacketRouter}
    (queues : ∀ after, router = some after → ∀ workerId, ∀ packet ∈ after.queues workerId,
      cluster.Backed packet.kind nodeId workerId packet.bytes packet.addrFrom) :
    (cluster.handOver nodeId router).Traced := by
  cases router with
  | none => exact traced
  | some after => exact traced.update (traced.drivers nodeId) (traced.tunnels nodeId) (queues after rfl)

/-- A queue takes a packet that has its cause. -/
theorem Traced.push (traced : cluster.Traced) {packet : Option ForwardPacket}
    (backed : ∀ held, packet = some held →
      cluster.Backed held.kind nodeId workerId held.bytes held.addrFrom) :
    (cluster.handOver nodeId ((cluster.nodes nodeId).router.push workerId packet)).Traced := by
  refine traced.handOver fun after pushed worker other waits => ?_
  obtain ⟨held, made, queues⟩ := LocalPacketRouter.push_eq_some pushed
  rw [queues] at waits
  by_cases same : worker = workerId
  · subst same
    rw [Function.update_self] at waits
    obtain earlier | last := List.mem_append.mp waits
    · exact traced.queues nodeId worker other earlier
    · obtain rfl := List.mem_singleton.mp last
      exact backed other made
  · rw [Function.update_of_ne same] at waits
    exact traced.queues nodeId worker other waits

theorem Traced.sendForward (traced : cluster.Traced)
    (backed : cluster.Backed kind targetNode targetWorker payload client) :
    (cluster.sendForward mac nodeId carriage kind targetNode targetWorker sourceWorker payload
      client).Traced := by
  obtain same | ⟨tunnel, sent, held, made, same⟩ := sendForward_cases mac cluster nodeId carriage
    kind targetNode targetWorker sourceWorker payload client
  · rw [same]
    exact traced
  · rw [same]
    have updated := @Traced.update cluster nodeId { cluster.nodes nodeId with
      tunnel := some { tunnel with nextSequence := (tunnel.nextSequence + 1) % 2 ^ 64 } } traced
      (traced.drivers nodeId) (fun member other here => by
        cases here
        exact traced.tunnels nodeId member tunnel held) (traced.queues nodeId)
    refine ⟨updated.drivers, updated.tunnels, updated.queues, fun datagram listed => ?_,
      updated.log⟩
    obtain earlier | last := List.mem_append.mp listed
    · exact traced.posted datagram earlier
    · obtain rfl | ⟨-, rfl⟩ := made
      · cases last
      · obtain rfl := List.mem_singleton.mp last
        exact backed

/-- What has its cause can be done. -/
theorem Traced.perform (traced : cluster.Traced) {put : Output × Carriage}
    (backed : put.1.Backed cluster nodeId workerId) :
    (cluster.perform mac nodeId workerId put).Traced := by
  obtain ⟨output, carriage⟩ := put
  have grows : cluster.Grows (cluster.record ⟨nodeId, workerId, output⟩) :=
    ⟨fun _ => id, List.subset_append_left _ _⟩
  have backed := Output.Backed.mono grows backed
  have logged := @Traced.of_grows cluster _ traced grows rfl rfl rfl fun entry listed => by
    obtain earlier | last := List.mem_append.mp listed
    · exact .inl earlier
    · obtain rfl := List.mem_singleton.mp last
      exact .inr backed
  cases output with
  | incoming | batch | send => exact logged
  | handoff target data source receivedTime =>
      refine logged.push fun held made => ?_
      obtain ⟨bytes, address, way⟩ := ForwardPacket.of_init made
      rw [bytes, address, way]
      exact backed
  | sendRequest targetNode targetWorker sourceWorker data source =>
      exact logged.sendForward backed
  | sendResponse targetNode targetWorker sourceWorker data dest =>
      exact logged.sendForward ⟨_, List.mem_append_right _ (List.mem_singleton_self _), _, rfl⟩

theorem grows_perform (put : Output × Carriage) :
    cluster.Grows (cluster.perform mac nodeId workerId put) := by
  obtain ⟨output, carriage⟩ := put
  have logged : cluster.log ⊆ cluster.log ++ [⟨nodeId, workerId, output⟩] :=
    List.subset_append_left _ _
  have sends (kind : TunnelKind) (targetNode targetWorker sourceWorker : Nat) (payload : Bytes)
      (client : Address) : cluster.Grows ((cluster.record ⟨nodeId, workerId, output⟩).sendForward
        mac nodeId carriage kind targetNode targetWorker sourceWorker payload client) := by
    obtain same | ⟨tunnel, sent, held, made, same⟩ := sendForward_cases mac
      (cluster.record ⟨nodeId, workerId, output⟩) nodeId carriage kind targetNode targetWorker
      sourceWorker payload client
    · rw [same]
      exact ⟨fun _ => id, logged⟩
    · rw [same]
      exact ⟨fun _ => id, logged⟩
  cases output with
  | incoming | batch | send => exact ⟨fun _ => id, logged⟩
  | handoff target data source receivedTime =>
      simp only [perform, handOver]
      split <;> exact ⟨fun _ => id, logged⟩
  | sendRequest | sendResponse => exact sends ..

theorem Traced.performs {puts : List (Output × Carriage)} (traced : cluster.Traced)
    (backed : ∀ put ∈ puts, put.1.Backed cluster nodeId workerId) :
    (puts.foldl (Cluster.perform mac nodeId workerId) cluster).Traced := by
  induction puts generalizing cluster with
  | nil => exact traced
  | cons put puts ih =>
      exact ih (traced.perform (backed put List.mem_cons_self)) fun other listed =>
        (backed other (List.mem_cons_of_mem put listed)).mono (grows_perform put)

theorem Traced.drive {outcomes : Nat → Carriage} {event : Event} (traced : cluster.Traced)
    (backed : ∀ output ∈ (((cluster.nodes nodeId).drivers workerId).react event).1,
      output.Backed cluster nodeId workerId) :
    (cluster.drive mac nodeId workerId outcomes event).Traced := by
  have updated := @Traced.update cluster nodeId { cluster.nodes nodeId with
    drivers := Function.update (cluster.nodes nodeId).drivers workerId
      (((cluster.nodes nodeId).drivers workerId).react event).2 } traced
    (fun member worker => by
      by_cases same : worker = workerId
      · subst same
        have ids := ((cluster.nodes nodeId).drivers worker).react_ids event
        have own := traced.drivers nodeId member worker
        simpa using ⟨ids.1.trans own.1, ids.2.trans own.2⟩
      · simpa [same] using traced.drivers nodeId member worker)
    (traced.tunnels nodeId) (traced.queues nodeId)
  refine updated.performs fun put listed => ?_
  obtain ⟨⟨output, position⟩, numbered, rfl⟩ := List.mem_map.mp listed
  exact (backed output (List.fst_mem_of_mem_zipIdx numbered)).mono ⟨fun _ => id, fun _ => id⟩

/-- A datagram that is in order is judged; only one that is new is accepted and handed over. -/
theorem move_datagram_cases (mac : Mac) (cluster : Cluster) (nodeId : Nat) (bytes : Bytes) :
    cluster.move mac (.datagram nodeId bytes) = cluster ∨
      ∃ tunnel, (cluster.nodes nodeId).tunnel = some tunnel ∧
        (cluster.move mac (.datagram nodeId bytes) = cluster.judge nodeId tunnel none ∨
          ∃ datagram, decodeWithFallback mac (bytes.take maxDatagramSize) tunnel.secret
              tunnel.previousSecret = .ok datagram ∧
            ((tunnel.toTunnel.acceptReplay datagram.toDecoded).1 = false ∧
                cluster.move mac (.datagram nodeId bytes) = cluster.judge nodeId { tunnel with
                  toTunnel := (tunnel.toTunnel.acceptReplay datagram.toDecoded).2 } none ∨
              (tunnel.toTunnel.acceptReplay datagram.toDecoded).1 = true ∧
                cluster.move mac (.datagram nodeId bytes) = (cluster.judge nodeId { tunnel with
                  toTunnel := (tunnel.toTunnel.acceptReplay datagram.toDecoded).2 }
                    (some datagram)).deliver nodeId datagram)) := by
  cases present : (cluster.nodes nodeId).tunnel with
  | none => exact .inl (by simp [Cluster.move, present])
  | some tunnel =>
      refine .inr ⟨tunnel, rfl, ?_⟩
      cases decoded : decodeWithFallback mac (bytes.take maxDatagramSize) tunnel.secret
        tunnel.previousSecret with
      | error problem => exact .inl (by simp [Cluster.move, TunnelEnd.receive, present, decoded])
      | ok datagram =>
          refine .inr ⟨datagram, rfl, ?_⟩
          cases verdict : (tunnel.toTunnel.acceptReplay datagram.toDecoded).1 with
          | false =>
              exact .inl ⟨rfl, by simp [Cluster.move, TunnelEnd.receive, present, decoded, verdict]⟩
          | true =>
              exact .inr ⟨rfl, by simp [Cluster.move, TunnelEnd.receive, present, decoded, verdict]⟩

theorem Authentic.posted {nodeId : Nat} {bytes : Bytes} {tunnel : TunnelEnd} {datagram : Datagram}
    (authentic : Authentic mac cluster (.datagram nodeId bytes))
    (held : (cluster.nodes nodeId).tunnel = some tunnel)
    (decoded : decodeWithFallback mac (bytes.take maxDatagramSize) tunnel.secret
      tunnel.previousSecret = .ok datagram) : datagram ∈ cluster.posted :=
  authentic tunnel held datagram (by rw [decoded]; rfl)

theorem target_of_acceptReplay {tunnel : Io.Tunnel} {packet : Io.Decoded}
    (accepted : (tunnel.acceptReplay packet).1 = true) : packet.targetNodeId = tunnel.nodeId := by
  by_contra elsewhere
  rw [Io.Tunnel.acceptReplay_misrouted elsewhere] at accepted
  cases accepted

theorem Traced.move {event : Move} (traced : cluster.Traced) (member : event.nodeId ∈ cluster.members)
    (authentic : Authentic mac cluster event) : (cluster.move mac event).Traced := by
  cases event with
  | udp nodeId workerId outside data source now carriage =>
      simp only [Cluster.move]
      split
      · exact traced
      · have heard := @Traced.of_grows cluster { cluster with
          received := cluster.received ++ [Arrival.mk nodeId workerId data source] } traced
          ⟨List.subset_append_left _ _, fun _ => id⟩ rfl rfl rfl fun _ => .inl
        refine heard.drive fun output put => ?_
        obtain ⟨node, worker⟩ := traced.drivers nodeId member workerId
        have backed := @ServerDriver.handleUdpRecv_backed ((cluster.nodes nodeId).drivers workerId)
          { cluster with received := cluster.received ++ [Arrival.mk nodeId workerId data source] }
          outside data source now output (by simp [node, worker]) put
        rwa [node, worker] at backed
  | handoff nodeId workerId outside now =>
      simp only [Cluster.move]
      split
      · exact traced
      · rename_i packet router popped
        obtain ⟨rest, first, queues⟩ := LocalPacketRouter.pop_eq_some popped
        have backed := traced.queues nodeId workerId packet (by rw [first]; simp)
        have taken := @Traced.handOver cluster nodeId traced (some router)
          fun after same worker other waits => by
            cases same
            rw [queues] at waits
            by_cases own : worker = workerId
            · subst own
              rw [Function.update_self] at waits
              exact traced.queues nodeId worker other (by rw [first]; simp [waits])
            · rw [Function.update_of_ne own] at waits
              exact traced.queues nodeId worker other waits
        exact taken.drive fun output put => ServerDriver.handleHandoffPacket_backed backed put
  | flush nodeId workerId data segmentSize dest now carriage =>
      simp only [Cluster.move]
      split
      · exact traced
      · refine traced.drive fun output put => ?_
        obtain ⟨segment, rfl⟩ | ⟨node, worker, segment, rfl⟩ := ServerDriver.flush_put put
        · trivial
        · trivial
  | datagram nodeId bytes =>
      have judged {tunnel : TunnelEnd} (own : tunnel.nodeId = nodeId) (datagram : Option Datagram) :
          (cluster.judge nodeId tunnel datagram).Traced := by
        have updated := @Traced.update cluster nodeId { cluster.nodes nodeId with
          tunnel := some tunnel } traced (traced.drivers nodeId) (fun _ other here => by
            cases here
            exact own) (traced.queues nodeId)
        exact ⟨updated.drivers, updated.tunnels, updated.queues, updated.posted, updated.log⟩
      obtain same | ⟨tunnel, held, same | ⟨datagram, decoded, ⟨verdict, same⟩ | ⟨verdict, same⟩⟩⟩ :=
        move_datagram_cases mac cluster nodeId bytes
      · rw [same]
        exact traced
      · rw [same]
        exact judged (traced.tunnels nodeId member tunnel held) none
      · rw [same]
        exact judged (Io.Tunnel.acceptReplay_nodeId.trans (traced.tunnels nodeId member tunnel held))
          none
      · have own := traced.tunnels nodeId member tunnel held
        have target := (target_of_acceptReplay verdict).trans own
        have posted := traced.posted datagram (authentic.posted held decoded)
        rw [same]
        refine (judged (Io.Tunnel.acceptReplay_nodeId.trans own) (some datagram)).push
          fun packet made => ?_
        obtain ⟨data, address, way⟩ := ForwardPacket.of_initTunnel made
        rw [data, address, way, ← target]
        exact posted

theorem Traced.step {event : Move} (traced : cluster.Traced)
    (authentic : Authentic mac cluster event) : (cluster.step mac event).Traced := by
  unfold Cluster.step
  split
  · exact traced.move ‹_› authentic
  · exact traced

theorem init_ids {sender : Option Sender} {driver : ServerDriver}
    (made : ServerDriver.init nodeId workerId sender = some driver) :
    driver.nodeId = nodeId ∧ driver.workerId = workerId := by
  unfold ServerDriver.init at made
  cases sender with
  | none =>
      cases made
      exact ⟨rfl, rfl⟩
  | some sender =>
      dsimp only at made
      split at made
      · obtain ⟨tracker, -, same⟩ := Option.bind_eq_some_iff.mp made
        cases same
        exact ⟨rfl, rfl⟩
      · cases made
        exact ⟨rfl, rfl⟩

theorem tunnelEnd_of_init {random : Nat} {secret previousSecret : Bytes} {tunnel : TunnelEnd}
    (made : TunnelEnd.init nodeId random secret previousSecret = some tunnel) :
    tunnel.toTunnel = Io.Tunnel.init nodeId ∧ tunnel.nextSequence = 1 := by
  unfold TunnelEnd.init at made
  split at made
  · cases made
  split at made
  · cases made
  split at made
  · cases made
  · cases made
    exact ⟨rfl, rfl⟩

theorem Starts.queues (starts : cluster.Starts) (nodeId : Nat) :
    (cluster.nodes nodeId).router.queues = fun _ => [] := by
  by_cases member : nodeId ∈ cluster.members
  · have made := (starts.nodes nodeId member).router
    unfold LocalPacketRouter.init at made
    split at made
    · cases made
    · exact (congrArg LocalPacketRouter.queues (Option.some.inj made)).symm
  · exact starts.absent nodeId member

theorem Starts.traced (starts : cluster.Starts) : cluster.Traced where
  drivers := by
    intro nodeId member workerId
    obtain ⟨sender, made⟩ := (starts.nodes nodeId member).drivers workerId
    exact init_ids made
  tunnels := by
    intro nodeId member tunnel held
    obtain ⟨random, secret, previous, made⟩ := (starts.nodes nodeId member).tunnel tunnel held
    rw [(tunnelEnd_of_init made).1]
    rfl
  queues := by simp [starts.queues]
  posted := by simp [starts.posted]
  log := by simp [starts.log]

end Cluster

/-! ## Nothing is doubled -/

/-- The packet is this one, on this way. -/
def ForwardPacket.carries (kind : TunnelKind) (data : Bytes) (address : Address)
    (packet : ForwardPacket) : Bool :=
  packet.kind = kind ∧ packet.bytes = data ∧ packet.addrFrom = address

def carriedBy (kind : TunnelKind) (data : Bytes) (address : Address) (datagram : Datagram) : Bool :=
  datagram.kind = kind ∧ datagram.payload = data ∧ datagram.clientAddress = address

namespace Output

/-- A packet has come to a connection, or an answer to a client. -/
def leaves (kind : TunnelKind) (data : Bytes) (address : Address) : Output → Bool
  | .incoming packet source _ => kind = .request ∧ packet = data ∧ source = address
  | .send packet client => kind = .response ∧ packet = data ∧ client = address
  | _ => false

/-- A packet is on its way, in some form. -/
def moves (kind : TunnelKind) (data : Bytes) (address : Address) : Output → Bool
  | .incoming packet source _ | .handoff _ packet source _ | .sendRequest _ _ _ packet source =>
      kind = .request ∧ packet = data ∧ source = address
  | .send packet client => kind = .response ∧ packet = data ∧ client = address
  | .sendResponse .. | .batch .. => false

def answers (data : Bytes) (address : Address) : Output → Bool
  | .sendResponse _ _ _ packet client => packet = data ∧ client = address
  | _ => false

end Output

namespace Cluster

/-- How often a packet has come from outside, or a worker has put out an answer. -/
def entered (cluster : Cluster) (data : Bytes) (address : Address) : TunnelKind → Nat
  | .request =>
      cluster.received.countP fun arrival => arrival.data = data ∧ arrival.source = address
  | .response => cluster.log.countP fun entry => entry.output.answers data address

/-- How often a packet has come to a connection, or an answer to its client. -/
def left (cluster : Cluster) (data : Bytes) (address : Address) (kind : TunnelKind) : Nat :=
  cluster.log.countP fun entry => entry.output.leaves kind data address

def held (cluster : Cluster) (kind : TunnelKind) (data : Bytes) (address : Address)
    (place : Nat × Nat) : Nat :=
  ((cluster.nodes place.1).router.queues place.2).countP (ForwardPacket.carries kind data address)

variable {mac : Mac} {cluster : Cluster} {nodeId workerId : Nat} {carriage : Carriage}
  {kind : TunnelKind} {data : Bytes} {address : Address} {puts : List Output}

/-- What has left, waits, has been posted or is being put out has entered, or has been accepted by
a tunnel. -/
def Balanced (cluster : Cluster) (kind : TunnelKind) (data : Bytes) (address : Address)
    (puts : List Output) : Prop :=
  ∃ waiting, Tally (cluster.held kind data address) waiting ∧
    cluster.left data address kind + waiting + cluster.posted.countP (carriedBy kind data address) +
        puts.countP (Output.moves kind data address) ≤
      cluster.entered data address kind + cluster.accepted.countP (carriedBy kind data address)

/-- A node with another queue for a worker. -/
theorem held_update {node : Node} {waits : List ForwardPacket}
    (queues : node.router.queues =
      Function.update (cluster.nodes nodeId).router.queues workerId waits) :
    Cluster.held { cluster with nodes := Function.update cluster.nodes nodeId node } kind data address =
      Function.update (cluster.held kind data address) (nodeId, workerId)
        (waits.countP (ForwardPacket.carries kind data address)) := by
  funext place
  obtain ⟨other, worker⟩ := place
  by_cases here : other = nodeId
  · subst here
    by_cases own : worker = workerId
    · subst own
      simp [held, queues]
    · have elsewhere : (other, worker) ≠ (other, workerId) := by simpa using own
      simp [held, queues, own, elsewhere]
  · have elsewhere : (other, worker) ≠ (nodeId, workerId) := by simp [here]
    simp [held, here, elsewhere]

/-- A node with the same queues. -/
theorem held_of_queues {node : Node}
    (queues : node.router.queues = (cluster.nodes nodeId).router.queues) :
    Cluster.held { cluster with nodes := Function.update cluster.nodes nodeId node } kind data address =
      cluster.held kind data address := by
  funext place
  by_cases here : place.1 = nodeId
  · simp [held, here, queues]
  · simp [held, here]

theorem tally_push {waiting : Nat} (tally : Tally (cluster.held kind data address) waiting)
    (packet : Option ForwardPacket) :
    ∃ after, Tally ((cluster.handOver nodeId ((cluster.nodes nodeId).router.push workerId
        packet)).held kind data address) after ∧
      after ≤ waiting + packet.toList.countP (ForwardPacket.carries kind data address) := by
  cases pushed : (cluster.nodes nodeId).router.push workerId packet with
  | none => exact ⟨waiting, tally, Nat.le_add_right _ _⟩
  | some after =>
      obtain ⟨one, rfl, queues⟩ := LocalPacketRouter.push_eq_some pushed
      refine ⟨waiting + [one].countP (ForwardPacket.carries kind data address), ?_, le_rfl⟩
      rw [handOver, @held_update cluster nodeId workerId kind data address
        { cluster.nodes nodeId with router := after } _ queues]
      refine tally.update _ ?_
      rw [List.countP_append]
      simp only [held]
      omega

theorem tally_sendForward {waiting : Nat} {way : TunnelKind}
    {targetNode targetWorker sourceWorker : Nat} {payload : Bytes} {client : Address}
    (tally : Tally (cluster.held kind data address) waiting) :
    Tally ((cluster.sendForward mac nodeId carriage way targetNode targetWorker sourceWorker payload
      client).held kind data address) waiting := by
  obtain same | ⟨tunnel, sent, held, made, same⟩ := sendForward_cases mac cluster nodeId carriage
    way targetNode targetWorker sourceWorker payload client
  · rw [same]
    exact tally
  · rw [same]
    have queues := @held_of_queues cluster nodeId kind data address { cluster.nodes nodeId with
      tunnel := some { tunnel with nextSequence := (tunnel.nextSequence + 1) % 2 ^ 64 } } rfl
    exact queues.symm ▸ tally

/-- At most the one datagram is posted, and nothing else happens. -/
theorem counts_sendForward (mac : Mac) (cluster : Cluster) (nodeId : Nat) (carriage : Carriage)
    (way : TunnelKind) (targetNode targetWorker sourceWorker : Nat) (payload : Bytes)
    (client : Address) (kind : TunnelKind) (data : Bytes) (address : Address) :
    let after := cluster.sendForward mac nodeId carriage way targetNode targetWorker sourceWorker
      payload client
    after.log = cluster.log ∧ after.received = cluster.received ∧
      after.accepted = cluster.accepted ∧
      after.posted.countP (carriedBy kind data address) ≤
        cluster.posted.countP (carriedBy kind data address) +
          if way = kind ∧ payload = data ∧ client = address then 1 else 0 := by
  dsimp only
  obtain same | ⟨tunnel, sent, held, made, same⟩ := sendForward_cases mac cluster nodeId carriage
    way targetNode targetWorker sourceWorker payload client
  · rw [same]
    exact ⟨rfl, rfl, rfl, Nat.le_add_right _ _⟩
  · rw [same]
    refine ⟨rfl, rfl, rfl, ?_⟩
    rw [List.countP_append]
    obtain rfl | ⟨-, rfl⟩ := made
    · exact Nat.le_add_right _ _
    · simp [carriedBy, TunnelEnd.datagram, List.countP_cons]

theorem counts_handOver (cluster : Cluster) (nodeId : Nat) (router : Option LocalPacketRouter) :
    (cluster.handOver nodeId router).log = cluster.log ∧
      (cluster.handOver nodeId router).received = cluster.received ∧
      (cluster.handOver nodeId router).accepted = cluster.accepted ∧
      (cluster.handOver nodeId router).posted = cluster.posted := by
  cases router <;> exact ⟨rfl, rfl, rfl, rfl⟩

/-- A packet that is handed over is the one that it was. -/
theorem countP_init (kind : TunnelKind) (data : Bytes) (address : Address) (target : Nat)
    (packet : Bytes) (source : Address) (receivedTime : Nat) :
    (ForwardPacket.init packet source receivedTime).toList.countP
        (ForwardPacket.carries kind data address) ≤
      if Output.moves kind data address (.handoff target packet source receivedTime) then 1
      else 0 := by
  cases made : ForwardPacket.init packet source receivedTime with
  | none => exact Nat.zero_le _
  | some held =>
      obtain ⟨bytes, from_, way⟩ := ForwardPacket.of_init made
      simp [ForwardPacket.carries, Output.moves, bytes, from_, way, @eq_comm _ kind .request]

/-- What is put out goes on as it is counted. -/
theorem Balanced.of_flow {output : Output} {after : Cluster}
    (balanced : cluster.Balanced kind data address (output :: puts))
    (log : after.log = (cluster.record ⟨nodeId, workerId, output⟩).log)
    (received : after.received = cluster.received) (accepted : after.accepted = cluster.accepted)
    (flow : ∀ waiting, Tally (cluster.held kind data address) waiting →
      ∃ waits, Tally (after.held kind data address) waits ∧
        (if output.leaves kind data address then 1 else 0) + waits +
            after.posted.countP (carriedBy kind data address) ≤
          waiting + cluster.posted.countP (carriedBy kind data address) +
            (if output.moves kind data address then 1 else 0) +
            if kind = .response ∧ output.answers data address then 1 else 0) :
    after.Balanced kind data address puts := by
  obtain ⟨waiting, tally, counts⟩ := balanced
  obtain ⟨waits, remains, flows⟩ := flow waiting tally
  have leaves : after.left data address kind = cluster.left data address kind +
      if output.leaves kind data address then 1 else 0 := by
    simp [left, log, record, List.countP_append]
  have enters : after.entered data address kind = cluster.entered data address kind +
      if kind = .response ∧ output.answers data address = true then 1 else 0 := by
    cases kind <;> simp [entered, log, received, record, List.countP_append]
  rw [List.countP_cons] at counts
  refine ⟨waits, remains, ?_⟩
  rw [leaves, enters, accepted]
  omega

/-- What is put out goes on in one way only. -/
theorem Balanced.perform {put : Output × Carriage}
    (balanced : cluster.Balanced kind data address (put.1 :: puts)) :
    (cluster.perform mac nodeId workerId put).Balanced kind data address puts := by
  obtain ⟨output, carriage⟩ := put
  cases output with
  | incoming packet source receivedAt =>
      have same : Output.leaves kind data address (.incoming packet source receivedAt) =
          Output.moves kind data address (.incoming packet source receivedAt) := rfl
      refine balanced.of_flow rfl rfl rfl fun waiting tally => ⟨waiting, tally, ?_⟩
      dsimp only [Cluster.perform, record]
      rw [same]
      omega
  | batch segment dest =>
      have same : Output.leaves kind data address (.batch segment dest) =
          Output.moves kind data address (.batch segment dest) := rfl
      refine balanced.of_flow rfl rfl rfl fun waiting tally => ⟨waiting, tally, ?_⟩
      dsimp only [Cluster.perform, record]
      rw [same]
      omega
  | send packet client =>
      have same : Output.leaves kind data address (.send packet client) =
          Output.moves kind data address (.send packet client) := rfl
      refine balanced.of_flow rfl rfl rfl fun waiting tally => ⟨waiting, tally, ?_⟩
      dsimp only [Cluster.perform, record]
      rw [same]
      omega
  | handoff target packet source receivedTime =>
      obtain ⟨log, received, accepted, posted⟩ := counts_handOver
        (cluster.record ⟨nodeId, workerId, .handoff target packet source receivedTime⟩) nodeId
        (((cluster.record ⟨nodeId, workerId, .handoff target packet source receivedTime⟩).nodes
          nodeId).router.forward target packet source receivedTime)
      refine balanced.of_flow log received accepted fun waiting tally => ?_
      obtain ⟨waits, remains, bound⟩ := @tally_push
        (cluster.record ⟨nodeId, workerId, .handoff target packet source receivedTime⟩) nodeId
        target kind data address waiting tally (ForwardPacket.init packet source receivedTime)
      have small := countP_init kind data address target packet source receivedTime
      have stays : Output.leaves kind data address
          (.handoff target packet source receivedTime) = false := rfl
      refine ⟨waits, remains, ?_⟩
      dsimp only [Cluster.perform]
      rw [posted, stays, if_neg Bool.false_ne_true]
      change 0 + waits + cluster.posted.countP _ ≤ _
      omega
  | sendRequest targetNode targetWorker sourceWorker packet source =>
      obtain ⟨log, received, accepted, posted⟩ := counts_sendForward mac
        (cluster.record ⟨nodeId, workerId,
          .sendRequest targetNode targetWorker sourceWorker packet source⟩) nodeId carriage
        .request targetNode targetWorker sourceWorker packet source kind data address
      refine balanced.of_flow log received accepted fun waiting tally =>
        ⟨waiting, tally_sendForward tally, ?_⟩
      have stays : Output.leaves kind data address
          (.sendRequest targetNode targetWorker sourceWorker packet source) = false := rfl
      have moves : (TunnelKind.request = kind ∧ packet = data ∧ source = address) ↔
          Output.moves kind data address
            (.sendRequest targetNode targetWorker sourceWorker packet source) = true := by
        simp [Output.moves, @eq_comm _ kind .request]
      simp only [moves] at posted
      change _ ≤ cluster.posted.countP _ + _ at posted
      dsimp only [Cluster.perform]
      rw [stays, if_neg Bool.false_ne_true]
      omega
  | sendResponse targetNode targetWorker sourceWorker packet dest =>
      obtain ⟨log, received, accepted, posted⟩ := counts_sendForward mac
        (cluster.record ⟨nodeId, workerId,
          .sendResponse targetNode targetWorker sourceWorker packet dest⟩) nodeId carriage
        .response targetNode targetWorker sourceWorker packet dest kind data address
      refine balanced.of_flow log received accepted fun waiting tally =>
        ⟨waiting, tally_sendForward tally, ?_⟩
      have stays : Output.leaves kind data address
          (.sendResponse targetNode targetWorker sourceWorker packet dest) = false := rfl
      have answers : (TunnelKind.response = kind ∧ packet = data ∧ dest = address) ↔
          (kind = .response ∧ Output.answers data address
            (.sendResponse targetNode targetWorker sourceWorker packet dest) = true) := by
        simp [Output.answers, @eq_comm _ kind .response]
      simp only [answers] at posted
      change _ ≤ cluster.posted.countP _ + _ at posted
      dsimp only [Cluster.perform]
      rw [stays, if_neg Bool.false_ne_true]
      omega

theorem Balanced.performs {puts : List (Output × Carriage)}
    (balanced : cluster.Balanced kind data address (puts.map Prod.fst)) :
    (puts.foldl (Cluster.perform mac nodeId workerId) cluster).Balanced kind data address [] := by
  induction puts generalizing cluster with
  | nil => exact balanced
  | cons put puts ih => exact ih (Balanced.perform balanced)

/-- A packet from the socket goes on once at most. -/
theorem countP_handleUdpRecv (driver : ServerDriver) (outside : Outside) (packet : Bytes)
    (source : Address) (now : Nat) :
    (driver.handleUdpRecv outside packet source now).1.countP (Output.moves kind data address) ≤
      if kind = .request ∧ packet = data ∧ source = address then 1 else 0 := by
  obtain ⟨routed, outputs, after, routes, -, -, -, goes⟩ :=
    driver.routeInbound_cases outside packet source now
  rw [ServerDriver.handleUdpRecv, routes]
  cases routed with
  | false => simp [ServerDriver.handleOwnedPacket, Output.moves, List.countP_cons]
  | true =>
      obtain rfl | ⟨owner, believed, rfl | ⟨here, rfl⟩⟩ := goes
      · simp
      · simp [Output.moves, List.countP_cons]
      · simp [Output.moves, List.countP_cons]

/-- A packet from the queue goes on once at most. -/
theorem countP_handleHandoffPacket (driver : ServerDriver) (outside : Outside)
    (packet : ForwardPacket) (now : Nat) :
    (driver.handleHandoffPacket outside packet now).1.countP (Output.moves kind data address) ≤
      if packet.carries kind data address then 1 else 0 := by
  obtain none | ⟨way, receivedAt, one⟩ | ⟨way, one⟩ :=
    driver.handleHandoffPacket_cases outside packet now
  · simp [none]
  · simp [one, way, ForwardPacket.carries, Output.moves, List.countP_cons, @eq_comm _ kind .request]
  · simp [one, way, ForwardPacket.carries, Output.moves, List.countP_cons,
      @eq_comm _ kind .response]

/-- Nothing has entered or left. -/
theorem balanced_of_same {after : Cluster} {waits : Nat} (log : after.log = cluster.log)
    (received : after.received = cluster.received)
    (tally : Tally (after.held kind data address) waits)
    (counts : cluster.left data address kind + waits +
        after.posted.countP (carriedBy kind data address) ≤
      cluster.entered data address kind + after.accepted.countP (carriedBy kind data address)) :
    after.Balanced kind data address [] := by
  have enters : after.entered data address kind = cluster.entered data address kind := by
    cases kind with
    | request => rw [entered, entered, received]
    | response => rw [entered, entered, log]
  refine ⟨waits, tally, ?_⟩
  rw [left, log, enters]
  exact counts

theorem countP_initTunnel (kind : TunnelKind) (data : Bytes) (address : Address)
    (datagram : Datagram) :
    (ForwardPacket.initTunnel datagram.payload datagram.clientAddress {
      kind := datagram.kind
      sourceNodeId := datagram.sourceNodeId
      sourceWorkerId := datagram.sourceWorkerId }).toList.countP
        (ForwardPacket.carries kind data address) ≤
      if carriedBy kind data address datagram then 1 else 0 := by
  cases made : ForwardPacket.initTunnel datagram.payload datagram.clientAddress {
      kind := datagram.kind
      sourceNodeId := datagram.sourceNodeId
      sourceWorkerId := datagram.sourceWorkerId } with
  | none => exact Nat.zero_le _
  | some held =>
      obtain ⟨bytes, from_, way⟩ := ForwardPacket.of_initTunnel made
      simp [ForwardPacket.carries, carriedBy, bytes, from_, way]

/-- What a driver puts out goes on, if what it was given is accounted for. -/
theorem Balanced.drive {outcomes : Nat → Carriage} {event : Event}
    (balanced : cluster.Balanced kind data address
      (((cluster.nodes nodeId).drivers workerId).react event).1) :
    (cluster.drive mac nodeId workerId outcomes event).Balanced kind data address [] := by
  obtain ⟨waiting, tally, counts⟩ := balanced
  refine Balanced.performs ⟨waiting, ?_, ?_⟩
  · have same := @held_of_queues cluster nodeId kind data address { cluster.nodes nodeId with
      drivers := Function.update (cluster.nodes nodeId).drivers workerId
        (((cluster.nodes nodeId).drivers workerId).react event).2 } rfl
    exact same.symm ▸ tally
  · rw [List.map_map]
    change _ + List.countP _ (List.map Prod.fst _) ≤ _
    rw [List.zipIdx_map_fst]
    exact counts

theorem Balanced.move {event : Move} (balanced : cluster.Balanced kind data address []) :
    (cluster.move mac event).Balanced kind data address [] := by
  obtain ⟨waiting, tally, counts⟩ := balanced
  rw [List.countP_nil, Nat.add_zero] at counts
  cases event with
  | udp nodeId workerId outside packet source now carriage =>
      simp only [Cluster.move]
      split
      · exact ⟨waiting, tally, counts⟩
      · refine Balanced.drive ⟨waiting, tally, ?_⟩
        have once := @countP_handleUdpRecv kind data address
          ((cluster.nodes nodeId).drivers workerId) outside packet source now
        have enters : Cluster.entered { cluster with
            received := cluster.received ++ [Arrival.mk nodeId workerId packet source] } data address
            kind = cluster.entered data address kind +
              if kind = .request ∧ packet = data ∧ source = address then 1 else 0 := by
          cases kind <;> simp [entered, List.countP_append, List.countP_cons]
        rw [enters]
        change cluster.left data address kind + waiting + cluster.posted.countP _ +
          (((cluster.nodes nodeId).drivers workerId).handleUdpRecv outside packet source
            now).1.countP _ ≤ _ + cluster.accepted.countP _
        omega
  | handoff nodeId workerId outside now =>
      simp only [Cluster.move]
      split
      · exact ⟨waiting, tally, counts⟩
      · rename_i packet router popped
        obtain ⟨rest, first, queues⟩ := LocalPacketRouter.pop_eq_some popped
        have once := @countP_handleHandoffPacket kind data address
          ((cluster.nodes nodeId).drivers workerId) outside packet now
        have here : cluster.held kind data address (nodeId, workerId) =
            rest.countP (ForwardPacket.carries kind data address) +
              if packet.carries kind data address then 1 else 0 := by
          simp [held, first, List.countP_cons]
        have within := tally.le (nodeId, workerId)
        have updated : Tally (Function.update (cluster.held kind data address) (nodeId, workerId)
            (rest.countP (ForwardPacket.carries kind data address)))
            (waiting - if packet.carries kind data address then 1 else 0) :=
          tally.update _ (by omega)
        rw [← @held_update cluster nodeId workerId kind data address
          { cluster.nodes nodeId with router := router } rest queues] at updated
        refine Balanced.drive ⟨_, updated, ?_⟩
        simp only [handOver, Function.update_self]
        change cluster.left data address kind + _ + cluster.posted.countP _ +
          (((cluster.nodes nodeId).drivers workerId).handleHandoffPacket outside packet
            now).1.countP _ ≤ cluster.entered data address kind + cluster.accepted.countP _
        omega
  | flush nodeId workerId packet segmentSize dest now carriage =>
      simp only [Cluster.move]
      split
      · exact ⟨waiting, tally, counts⟩
      · refine Balanced.drive ⟨waiting, tally, ?_⟩
        have none : (((cluster.nodes nodeId).drivers workerId).flush packet segmentSize dest
            now).1.countP (Output.moves kind data address) = 0 := by
          refine List.countP_eq_zero.mpr fun output put => ?_
          obtain ⟨segment, rfl⟩ | ⟨node, worker, segment, rfl⟩ := ServerDriver.flush_put put
          · exact Bool.false_ne_true
          · exact Bool.false_ne_true
        rw [ServerDriver.react, none]
        exact counts
  | datagram nodeId bytes =>
      have judged (tunnel : TunnelEnd) (datagram : Option Datagram) :
          Tally ((cluster.judge nodeId tunnel datagram).held kind data address) waiting :=
        (@held_of_queues cluster nodeId kind data address { cluster.nodes nodeId with
          tunnel := some tunnel } rfl).symm ▸ tally
      have refused (tunnel : TunnelEnd) :
          (cluster.judge nodeId tunnel none).Balanced kind data address [] :=
        @balanced_of_same cluster _ _ _ _ _ rfl rfl (judged tunnel none) (by
          simpa [judge] using counts)
      obtain same | ⟨tunnel, held, same | ⟨datagram, -, ⟨-, same⟩ | ⟨-, same⟩⟩⟩ :=
        move_datagram_cases mac cluster nodeId bytes
      · rw [same]
        exact ⟨waiting, tally, counts⟩
      · rw [same]
        exact refused _
      · rw [same]
        exact refused _
      · rw [same]
        obtain ⟨waits, remains, bound⟩ := @tally_push (cluster.judge nodeId { tunnel with
          toTunnel := (tunnel.toTunnel.acceptReplay datagram.toDecoded).2 } (some datagram)) nodeId
          datagram.targetWorkerId kind data address waiting (judged _ _)
          (ForwardPacket.initTunnel datagram.payload datagram.clientAddress {
            kind := datagram.kind
            sourceNodeId := datagram.sourceNodeId
            sourceWorkerId := datagram.sourceWorkerId })
        have small := countP_initTunnel kind data address datagram
        obtain ⟨log, received, accepted, posted⟩ := counts_handOver (cluster.judge nodeId { tunnel
          with toTunnel := (tunnel.toTunnel.acceptReplay datagram.toDecoded).2 } (some datagram))
          nodeId (((cluster.judge nodeId { tunnel with
            toTunnel := (tunnel.toTunnel.acceptReplay datagram.toDecoded).2 }
              (some datagram)).nodes nodeId).router.forwardTunnel datagram.targetWorkerId
            datagram.payload datagram.clientAddress {
              kind := datagram.kind
              sourceNodeId := datagram.sourceNodeId
              sourceWorkerId := datagram.sourceWorkerId })
        refine @balanced_of_same cluster _ _ _ _ _ log received remains ?_
        rw [deliver, posted, accepted]
        simp only [judge, Option.toList_some, List.countP_append, List.countP_singleton]
        omega

theorem Balanced.step {event : Move} (balanced : cluster.Balanced kind data address []) :
    (cluster.step mac event).Balanced kind data address [] := by
  unfold Cluster.step
  split
  · exact balanced.move
  · exact balanced

theorem Starts.balanced (starts : cluster.Starts) : cluster.Balanced kind data address [] := by
  have empty : cluster.held kind data address = fun _ => 0 := by
    funext place
    simp [held, starts.queues]
  exact ⟨0, empty ▸ Tally.zero, by simp [left, starts.log, starts.posted]⟩

/-! ## A datagram is accepted once -/

/-- Every node has one session, and each tunnel knows what it has accepted. -/
structure Judged (session : Nat → Nat) (cluster : Cluster) : Prop where
  tunnels : ∀ nodeId ∈ cluster.members, ∀ tunnel, (cluster.nodes nodeId).tunnel = some tunnel →
    tunnel.nodeId = nodeId ∧ tunnel.sessionId = session nodeId ∧
      ∃ heard : List Io.Decoded, tunnel.toTunnel = (Io.Tunnel.init nodeId).run heard ∧
        (∀ packet ∈ heard, ∃ datagram ∈ cluster.posted, datagram.toDecoded = packet) ∧
        ∀ pair number, number ∈ (Io.Tunnel.init nodeId).accepted pair heard ↔
          ∃ datagram ∈ cluster.accepted, datagram.targetNodeId = nodeId ∧
            datagram.pair = pair ∧ datagram.sequence = number
  posted : ∀ datagram ∈ cluster.posted, datagram.sourceNodeId ∈ cluster.members ∧
    datagram.sessionId = session datagram.sourceNodeId
  accepted : cluster.accepted ⊆ cluster.posted
  once : cluster.accepted.Nodup

variable {session : Nat → Nat}

/-- In a small cluster a tunnel hears of fewer other nodes than it has windows. -/
theorem Judged.few (judged : cluster.Judged session) (small : cluster.members.card ≤ replayCacheCapacity)
    {heard : List Io.Decoded}
    (known : ∀ packet ∈ heard, ∃ datagram ∈ cluster.posted, datagram.toDecoded = packet)
    (pair : Nat × Nat) : Io.Tunnel.FewBetween nodeId pair heard := by
  have named {packet : Io.Decoded} (listed : packet ∈ heard) : packet.sourceNodeId ∈ cluster.members ∧
      packet.pair = (packet.sourceNodeId, session packet.sourceNodeId) := by
    obtain ⟨datagram, posted, rfl⟩ := known packet listed
    obtain ⟨member, own⟩ := judged.posted datagram posted
    exact ⟨member, by rw [Io.Decoded.pair, own]⟩
  rintro before first between last after rfl concerns -
  obtain ⟨member, own⟩ := @named first (by simp)
  have pairIs : pair = (first.sourceNodeId, session first.sourceNodeId) := concerns.2.symm.trans own
  have inside : Io.Tunnel.others nodeId pair between ⊆
      (cluster.members.erase first.sourceNodeId).image fun node => (node, session node) := by
    intro other listed
    simp only [Io.Tunnel.others, List.mem_toFinset, List.mem_map, List.mem_filter,
      decide_eq_true_eq] at listed
    obtain ⟨packet, ⟨between, -, different⟩, rfl⟩ := listed
    obtain ⟨othersMember, othersOwn⟩ := @named packet (by simp [between])
    refine Finset.mem_image.mpr ⟨packet.sourceNodeId, Finset.mem_erase.mpr ⟨?_, othersMember⟩,
      othersOwn.symm⟩
    intro same
    exact different (by rw [othersOwn, pairIs, same])
  calc (Io.Tunnel.others nodeId pair between).card
      ≤ (cluster.members.erase first.sourceNodeId).card :=
        (Finset.card_le_card inside).trans Finset.card_image_le
    _ < cluster.members.card := Finset.card_erase_lt_of_mem member
    _ ≤ replayCacheCapacity := small

/-- The tunnels are as they were. -/
theorem Judged.of_tunnels {after : Cluster} (judged : cluster.Judged session)
    (members : after.members = cluster.members)
    (tunnels : ∀ nodeId, (after.nodes nodeId).tunnel = (cluster.nodes nodeId).tunnel)
    (posted : after.posted = cluster.posted) (accepted : after.accepted = cluster.accepted) :
    after.Judged session where
  tunnels := by
    simp only [members, tunnels, posted, accepted]
    exact judged.tunnels
  posted := by
    rw [members, posted]
    exact judged.posted
  accepted := by
    rw [posted, accepted]
    exact judged.accepted
  once := by
    rw [accepted]
    exact judged.once

theorem tunnel_update {node : Node} (same : node.tunnel = (cluster.nodes nodeId).tunnel)
    (other : Nat) : (Function.update cluster.nodes nodeId node other).tunnel =
      (cluster.nodes other).tunnel := by
  by_cases here : other = nodeId
  · subst here
    rw [Function.update_self, same]
  · rw [Function.update_of_ne here]

theorem Judged.handOver (judged : cluster.Judged session) (router : Option LocalPacketRouter) :
    (cluster.handOver nodeId router).Judged session := by
  cases router with
  | none => exact judged
  | some router => exact judged.of_tunnels rfl (tunnel_update rfl) rfl rfl

/-- A tunnel posts under its own name. -/
theorem Judged.sendForward {way : TunnelKind} {targetNode targetWorker sourceWorker : Nat}
    {payload : Bytes} {client : Address} (judged : cluster.Judged session)
    (member : nodeId ∈ cluster.members) :
    (cluster.sendForward mac nodeId carriage way targetNode targetWorker sourceWorker payload
      client).Judged session := by
  obtain same | ⟨tunnel, sent, held, made, same⟩ := sendForward_cases mac cluster nodeId carriage
    way targetNode targetWorker sourceWorker payload client
  · rw [same]
    exact judged
  · rw [same]
    obtain ⟨own, ofSession, heard, run, known, accepted⟩ :=
      judged.tunnels nodeId member tunnel held
    have more {packet : Io.Decoded}
        (before : ∃ datagram ∈ cluster.posted, datagram.toDecoded = packet) :
        ∃ datagram ∈ cluster.posted ++ sent, datagram.toDecoded = packet := by
      obtain ⟨datagram, listed, rest⟩ := before
      exact ⟨datagram, List.mem_append_left _ listed, rest⟩
    refine ⟨fun other othersMember another present => ?_, fun datagram listed => ?_,
      fun datagram listed => List.mem_append_left _ (judged.accepted listed), judged.once⟩
    · by_cases here : other = nodeId
      · subst here
        simp only [Function.update_self, Option.some.injEq] at present
        subst present
        exact ⟨own, ofSession, heard, run, fun packet listed => more (known packet listed), accepted⟩
      · simp only [Function.update_of_ne here] at present
        obtain ⟨own, ofSession, heard, run, known, accepted⟩ :=
          judged.tunnels other othersMember another present
        exact ⟨own, ofSession, heard, run, fun packet listed => more (known packet listed), accepted⟩
    · obtain earlier | last := List.mem_append.mp listed
      · exact judged.posted datagram earlier
      · obtain rfl | ⟨-, rfl⟩ := made
        · cases last
        · obtain rfl := List.mem_singleton.mp last
          change tunnel.nodeId ∈ cluster.members ∧ tunnel.sessionId = session tunnel.nodeId
          rw [own]
          exact ⟨member, ofSession⟩

theorem Judged.perform {put : Output × Carriage} (judged : cluster.Judged session)
    (member : nodeId ∈ cluster.members) :
    (cluster.perform mac nodeId workerId put).Judged session := by
  obtain ⟨output, carriage⟩ := put
  have logged : (cluster.record ⟨nodeId, workerId, output⟩).Judged session :=
    judged.of_tunnels rfl (fun _ => rfl) rfl rfl
  cases output with
  | incoming | batch | send => exact logged
  | handoff => exact logged.handOver _
  | sendRequest | sendResponse => exact logged.sendForward member

theorem members_perform (put : Output × Carriage) :
    (cluster.perform mac nodeId workerId put).members = cluster.members := by
  obtain ⟨output, carriage⟩ := put
  cases output with
  | incoming | batch | send => rfl
  | handoff =>
      simp only [Cluster.perform, handOver]
      split <;> rfl
  | sendRequest | sendResponse =>
      simp only [Cluster.perform, sendForward]
      repeat' split
      all_goals rfl

theorem Judged.performs {puts : List (Output × Carriage)} (judged : cluster.Judged session)
    (member : nodeId ∈ cluster.members) :
    (puts.foldl (Cluster.perform mac nodeId workerId) cluster).Judged session := by
  induction puts generalizing cluster with
  | nil => exact judged
  | cons put puts ih => exact ih (judged.perform member) (by rwa [members_perform])

theorem Judged.drive {outcomes : Nat → Carriage} {event : Event} (judged : cluster.Judged session)
    (member : nodeId ∈ cluster.members) :
    (cluster.drive mac nodeId workerId outcomes event).Judged session := by
  have updated : Judged session { cluster with
      nodes := Function.update cluster.nodes nodeId { cluster.nodes nodeId with
        drivers := Function.update (cluster.nodes nodeId).drivers workerId
          (((cluster.nodes nodeId).drivers workerId).react event).2 } } :=
    judged.of_tunnels rfl (tunnel_update rfl) rfl rfl
  exact updated.performs member

/-- A tunnel that has judged a datagram knows whether it has accepted it. -/
theorem Judged.judge {tunnel : TunnelEnd} {datagram : Datagram} (judged : cluster.Judged session)
    (small : cluster.members.card ≤ replayCacheCapacity) (member : nodeId ∈ cluster.members)
    (held : (cluster.nodes nodeId).tunnel = some tunnel) (posted : datagram ∈ cluster.posted) :
    (cluster.judge nodeId { tunnel with
      toTunnel := (tunnel.toTunnel.acceptReplay datagram.toDecoded).2 }
      (if (tunnel.toTunnel.acceptReplay datagram.toDecoded).1 then some datagram
        else none)).Judged session := by
  obtain ⟨own, ofSession, heard, run, known, accepted⟩ := judged.tunnels nodeId member tunnel held
  have knows : ∀ packet ∈ heard ++ [datagram.toDecoded],
      ∃ datagram ∈ cluster.posted, datagram.toDecoded = packet := by
    intro packet listed
    obtain earlier | last := List.mem_append.mp listed
    · exact known packet earlier
    · obtain rfl := List.mem_singleton.mp last
      exact ⟨datagram, posted, rfl⟩
  have after : (tunnel.toTunnel.acceptReplay datagram.toDecoded).2 =
      (Io.Tunnel.init nodeId).run (heard ++ [datagram.toDecoded]) := by
    rw [Io.Tunnel.run_append, ← run, Io.Tunnel.run_singleton]
  have numbers (pair : Nat × Nat) (number : Nat) :
      number ∈ (Io.Tunnel.init nodeId).accepted pair (heard ++ [datagram.toDecoded]) ↔
        number ∈ (Io.Tunnel.init nodeId).accepted pair heard ∨
          datagram.pair = pair ∧ (tunnel.toTunnel.acceptReplay datagram.toDecoded).1 = true ∧
            number = datagram.sequence := by
    rw [Io.Tunnel.accepted_append, ← run, List.mem_append]
    refine or_congr Iff.rfl ?_
    simp only [Io.Tunnel.accepted]
    split
    · rename_i taken
      simp [taken.1, taken.2]
    · rename_i passed
      simp only [List.not_mem_nil, false_iff]
      rintro ⟨same, verdict, -⟩
      exact passed ⟨same, verdict⟩
  have unchanged {other : Nat} (another : other ≠ nodeId) :
      (Function.update cluster.nodes nodeId { cluster.nodes nodeId with
        tunnel := some { tunnel with
          toTunnel := (tunnel.toTunnel.acceptReplay datagram.toDecoded).2 } } other) =
        cluster.nodes other := Function.update_of_ne another _ _
  cases verdict : (tunnel.toTunnel.acceptReplay datagram.toDecoded).1 with
  | false =>
      refine ⟨fun other othersMember another present => ?_, judged.posted, ?_, ?_⟩
      · by_cases here : other = nodeId
        · subst here
          simp only [Cluster.judge, Function.update_self, Option.some.injEq] at present
          subst present
          refine ⟨Io.Tunnel.acceptReplay_nodeId.trans own, ofSession, _, after, knows,
            fun pair number => ?_⟩
          rw [numbers, verdict]
          simpa [Cluster.judge] using accepted pair number
        · simp only [Cluster.judge, unchanged here] at present
          simpa [Cluster.judge] using judged.tunnels other othersMember another present
      · simpa [Cluster.judge] using judged.accepted
      · simpa [Cluster.judge] using judged.once
  | true =>
      have target : datagram.targetNodeId = nodeId := (target_of_acceptReplay verdict).trans own
      have fresh := (Io.Tunnel.verdict_iff (judged.few small knows datagram.pair) rfl
        ⟨target, rfl⟩).mp (by rw [← run]; exact verdict)
      have new : datagram ∉ cluster.accepted := fun listed =>
        fresh.1 (List.mem_toFinset.mpr ((accepted _ _).mpr ⟨datagram, listed, target, rfl, rfl⟩))
      refine ⟨fun other othersMember another present => ?_, judged.posted, ?_, ?_⟩
      · by_cases here : other = nodeId
        · subst here
          simp only [Cluster.judge, Function.update_self, Option.some.injEq] at present
          subst present
          refine ⟨Io.Tunnel.acceptReplay_nodeId.trans own, ofSession, _, after, knows,
            fun pair number => ?_⟩
          rw [numbers, accepted, verdict]
          constructor
          · rintro (⟨earlier, listed, rest⟩ | ⟨rfl, -, rfl⟩)
            · exact ⟨earlier, List.mem_append_left _ listed, rest⟩
            · exact ⟨datagram, List.mem_append_right _ (by simp), target, rfl, rfl⟩
          · rintro ⟨some_, listed, rest⟩
            obtain earlier | last := List.mem_append.mp listed
            · exact .inl ⟨some_, earlier, rest⟩
            · obtain rfl : some_ = datagram := by simpa using last
              exact .inr ⟨rest.2.1, rfl, rest.2.2.symm⟩
        · simp only [Cluster.judge, unchanged here] at present
          obtain ⟨own, ofSession, heard, run, known, accepted⟩ :=
            judged.tunnels other othersMember another present
          refine ⟨own, ofSession, heard, run, known, fun pair number => ?_⟩
          rw [accepted]
          constructor
          · rintro ⟨earlier, listed, rest⟩
            exact ⟨earlier, List.mem_append_left _ listed, rest⟩
          · rintro ⟨some_, listed, rest⟩
            obtain earlier | last := List.mem_append.mp listed
            · exact ⟨some_, earlier, rest⟩
            · obtain rfl : some_ = datagram := by simpa using last
              exact absurd (rest.1.symm.trans target) here
      · intro some_ listed
        obtain earlier | last := List.mem_append.mp listed
        · exact judged.accepted earlier
        · obtain rfl : some_ = datagram := by simpa using last
          exact posted
      · exact List.nodup_append.mpr ⟨judged.once, by simp, by
          rintro some_ listed other last rfl
          obtain rfl : some_ = datagram := by simpa using last
          exact new listed⟩

theorem Judged.move {event : Move} (judged : cluster.Judged session)
    (small : cluster.members.card ≤ replayCacheCapacity) (member : event.nodeId ∈ cluster.members)
    (authentic : Authentic mac cluster event) : (cluster.move mac event).Judged session := by
  cases event with
  | udp nodeId workerId outside packet source now carriage =>
      simp only [Cluster.move]
      split
      · exact judged
      · exact (judged.of_tunnels (by rfl) (fun _ => by rfl) (by rfl) (by rfl)).drive member
  | handoff nodeId workerId outside now =>
      simp only [Cluster.move]
      split
      · exact judged
      · exact (judged.handOver _).drive member
  | flush nodeId workerId packet segmentSize dest now carriage =>
      simp only [Cluster.move]
      split
      · exact judged
      · exact judged.drive member
  | datagram nodeId bytes =>
      obtain same | ⟨tunnel, held, same | ⟨datagram, decoded, outcome⟩⟩ :=
        move_datagram_cases mac cluster nodeId bytes
      · rw [same]
        exact judged
      · rw [same]
        exact judged.of_tunnels rfl (tunnel_update held.symm) rfl (by simp [Cluster.judge])
      · have judges := judged.judge small member held (authentic.posted held decoded)
        obtain ⟨verdict, same⟩ | ⟨verdict, same⟩ := outcome
        · rw [same]
          simpa [verdict, Move.nodeId] using judges
        · rw [same]
          rw [verdict] at judges
          exact judges.handOver _

theorem Judged.step {event : Move} (judged : cluster.Judged session)
    (small : cluster.members.card ≤ replayCacheCapacity)
    (authentic : Authentic mac cluster event) : (cluster.step mac event).Judged session := by
  unfold Cluster.step
  split
  · exact judged.move small ‹_› authentic
  · exact judged

theorem Starts.judged (starts : cluster.Starts) :
    cluster.Judged fun nodeId => ((cluster.nodes nodeId).tunnel.map TunnelEnd.sessionId).getD 0 where
  tunnels := by
    intro nodeId member tunnel held
    obtain ⟨random, secret, previous, made⟩ := (starts.nodes nodeId member).tunnel tunnel held
    have fresh := (tunnelEnd_of_init made).1
    refine ⟨by rw [fresh]; rfl, by rw [held]; rfl, [], fresh, by simp, fun pair number => ?_⟩
    simp [starts.accepted, Io.Tunnel.accepted]
  posted := by simp [starts.posted]
  accepted := by simp [starts.accepted]
  once := by simp [starts.accepted]

theorem members_handOver (nodeId : Nat) (router : Option LocalPacketRouter) :
    (cluster.handOver nodeId router).members = cluster.members := by
  cases router <;> rfl

theorem members_drive {outcomes : Nat → Carriage} {event : Event} :
    (cluster.drive mac nodeId workerId outcomes event).members = cluster.members := by
  have performs (puts : List (Output × Carriage)) : ∀ start : Cluster,
      (puts.foldl (Cluster.perform mac nodeId workerId) start).members = start.members := by
    induction puts with
    | nil => exact fun _ => rfl
    | cons put puts ih => exact fun start => (ih _).trans (members_perform put)
  exact performs _ _

theorem members_step (cluster : Cluster) (event : Move) :
    (cluster.step mac event).members = cluster.members := by
  unfold Cluster.step
  split
  · cases event with
    | udp | flush =>
        simp only [Cluster.move]
        split
        · rfl
        · exact members_drive
    | handoff =>
        simp only [Cluster.move]
        split
        · rfl
        · exact members_drive.trans (members_handOver _ _)
    | datagram nodeId bytes =>
        obtain same | ⟨tunnel, held, same | ⟨datagram, decoded, ⟨-, same⟩ | ⟨-, same⟩⟩⟩ :=
          move_datagram_cases mac cluster nodeId bytes
        · rw [same]
        · rw [same]
          rfl
        · rw [same]
          rfl
        · rw [same]
          exact members_handOver _ _
  · rfl

/-- A packet that a connection is given has come from outside and is with the worker it is for, or
with the one it came to if it does not say; what is sent to a client on behalf of another worker was
put out there for it. In a cluster of at most as many nodes as a tunnel keeps windows, neither
happens more often than it has a cause. -/
theorem packets_are_steered (mac : Mac) (cluster : Cluster) (starts : cluster.Starts)
    (moves : List Move)
    (authentic : Run.Meets (step mac) (Authentic mac) cluster moves) :
    let final := Run.final (step mac) cluster moves
    (∀ entry ∈ final.log, ∀ data source receivedAt,
      entry.output = .incoming data source receivedAt →
      ∃ arrival ∈ final.received, arrival.data = data ∧ arrival.source = source ∧
        (believedOwner data).getD ⟨arrival.nodeId, arrival.workerId⟩ =
          ⟨entry.nodeId, entry.workerId⟩) ∧
    (∀ entry ∈ final.log, ∀ data client, entry.output = .send data client →
      ∃ answer ∈ final.log, ∃ sourceWorker,
        answer.output = .sendResponse entry.nodeId entry.workerId sourceWorker data client) ∧
    (cluster.members.card ≤ replayCacheCapacity → ∀ data address,
      (final.log.countP fun entry => entry.output.leaves .request data address) ≤
        (final.received.countP fun arrival => arrival.data = data ∧ arrival.source = address) ∧
      (final.log.countP fun entry => entry.output.leaves .response data address) ≤
        (final.log.countP fun entry => entry.output.answers data address)) := by
  have traced := @Run.invariant _ _ (step mac) (Authentic mac) Traced
    (fun _ _ traced may => traced.step may) moves cluster starts.traced authentic
  refine ⟨fun entry listed data source receivedAt put => ?_,
    fun entry listed data client put => ?_, fun small data address => ?_⟩
  · have backed := traced.log entry listed
    rw [put] at backed
    exact backed
  · have backed := traced.log entry listed
    rw [put] at backed
    exact backed
  · have judged := (@Run.invariant _ _ (step mac) (Authentic mac)
      (fun sofar => sofar.members.card ≤ replayCacheCapacity ∧ sofar.Judged _)
      (fun sofar event judged may =>
        ⟨(members_step sofar event).symm ▸ judged.1, judged.2.step judged.1 may⟩)
      moves cluster ⟨small, starts.judged⟩ authentic).2
    have fewer (kind : TunnelKind) :
        (Run.final (step mac) cluster moves).left data address kind ≤
          (Run.final (step mac) cluster moves).entered data address kind := by
      obtain ⟨waiting, -, counts⟩ := @Run.invariant _ _ (step mac) (Authentic mac)
        (fun sofar => sofar.Balanced kind data address [])
        (fun _ _ balanced _ => balanced.step) moves cluster starts.balanced authentic
      have accepted := (List.subperm_of_subset judged.once judged.accepted).countP_le
        (carriedBy kind data address)
      rw [List.countP_nil] at counts
      omega
    exact ⟨fewer .request, fewer .response⟩

/-- A tag that is the same for everything. -/
private def sameTag : Mac := fun _ _ => List.replicate tagSize 0

/-- Two nodes with one worker each. -/
private def twoNodes : Cluster where
  members := {1, 2}
  nodes := fun nodeId => {
    drivers := fun workerId => {
      nodeId := nodeId
      workerId := workerId
      forwardSender := some ⟨false, 4, 1000⟩ }
    router := { workerCount := 1, capacity := 4 }
    tunnel := some { Io.Tunnel.init nodeId with
      sessionId := 7
      secret := List.replicate minSecretSize 5 } }

private theorem twoNodes_starts : twoNodes.Starts where
  nodes := by
    intro nodeId member
    have named : nodeId ≠ 0 := by
      rintro rfl
      exact absurd member (by decide)
    refine ⟨fun workerId => ⟨some ⟨false, 4, 1000⟩, rfl⟩, rfl, ?_⟩
    rintro tunnel ⟨⟩
    exact ⟨7, List.replicate minSecretSize 5, [], by simp [TunnelEnd.init, named]⟩
  absent := fun _ _ => rfl
  received := rfl
  posted := rfl
  accepted := rfl
  log := rfl

/-- A packet of a connection that the second node owns. -/
private def strayPacket : Bytes := 64 :: Cid.encode 2 0 (Vector.replicate 6 9)

private def strayClient : Address := .ip4 (Fin.ofNat _ 0xc0000201) (Fin.ofNat _ 44321)

private def strayDatagram : Datagram where
  sourceNodeId := 1
  targetNodeId := 2
  sessionId := 7
  sequence := 1
  kind := .request
  sourceWorkerId := 0
  targetWorkerId := 0
  clientAddress := strayClient
  payload := strayPacket

private def listed (entries : Table AddressKey Peer) : List (AddressKey × Peer) :=
  entries.entries.map fun entry => (entry.1, entry.2)

private theorem listed_perm (entries : Table AddressKey Peer) :
    (listed entries).Perm (entries.entries.map fun entry => (entry.1, entry.2)) := by
  rfl

private def quiet : Outside := ⟨⟨listed, listed_perm⟩, true⟩

/-- It comes to the first node, and the network doubles the datagram. -/
private def stray : List Move :=
  [.udp 1 0 quiet strayPacket strayClient 3 fun _ => .posted,
    .datagram 2 (strayDatagram.wire sameTag (List.replicate minSecretSize 5)),
    .datagram 2 (strayDatagram.wire sameTag (List.replicate minSecretSize 5)),
    .handoff 2 0 quiet 5, .handoff 2 0 quiet 6]

/-- The packet comes to its connection, and it does so once. -/
theorem packets_are_steered_once :
    let final := Run.final (step sameTag) twoNodes stray
    ⟨2, 0, .incoming strayPacket strayClient 5⟩ ∈ final.log ∧
      (∃ arrival ∈ final.received, arrival.data = strayPacket ∧ arrival.source = strayClient ∧
        (believedOwner strayPacket).getD ⟨arrival.nodeId, arrival.workerId⟩ = ⟨2, 0⟩) ∧
      (final.log.countP fun entry => entry.output.leaves .request strayPacket strayClient) ≤
        (final.received.countP fun arrival =>
          arrival.data = strayPacket ∧ arrival.source = strayClient) := by
  have steered := packets_are_steered sameTag twoNodes twoNodes_starts stray (by decide +kernel)
  have put : (⟨2, 0, .incoming strayPacket strayClient 5⟩ : Entry) ∈
      (Run.final (step sameTag) twoNodes stray).log := by decide +kernel
  exact ⟨put, steered.1 _ put _ _ _ rfl, (steered.2.2 (by decide) strayPacket strayClient).1⟩

end Cluster

end LyuneGateway.Reactor
