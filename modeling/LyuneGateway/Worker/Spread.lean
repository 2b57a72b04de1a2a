import LyuneGateway.Worker.DoubleLookup
import LyuneGateway.Worker.Fanout

/-!
# One datagram across the cluster

The workers of all nodes take their steps in any order. The frames of one
datagram are followed on their way from worker to worker, where each of them is
handled once or gets lost, and what every worker sends for it is kept. Over all
places no connection gets the datagram twice.
-/

namespace LyuneGateway.Worker

open Foundation Io Protocol Session Spreading

/-- What goes to one client, of some datagrams. -/
def datagramsTo (client : Nat) (datagrams : List (Nat × Bytes)) : List Bytes :=
  datagrams.filterMap fun sent => if sent.1 = client then some sent.2 else none

/-- When one entry alone has a result, the list has it if the entry is in it. -/
theorem filterMap_of_only {Entry Result : Type} [DecidableEq Entry] {entries : List Entry}
    {result : Entry → Option Result} (once : entries.Nodup) (only : Entry)
    (others : ∀ entry, entry ≠ only → result entry = none) :
    entries.filterMap result = if only ∈ entries then (result only).toList else [] := by
  induction entries with
  | nil => simp
  | cons entry entries ih =>
      obtain ⟨fresh, once⟩ := List.nodup_cons.mp once
      by_cases here : entry = only
      · subst here
        rw [List.filterMap_cons, ih once, if_neg fresh, if_pos List.mem_cons_self]
        cases result entry <;> rfl
      · rw [List.filterMap_cons_none (others entry here), ih once]
        simp only [List.mem_cons, Ne.symm here, false_or]

/-- A worker at its place, whose indexes agree with its connections. -/
structure Lives (place : Location) (worker : GatewayWorker) : Prop where
  self : worker.placement.self = place
  indexed : worker.conns.Indexed
  distinct : Distinct worker

namespace Lives

variable {place : Location} {worker : GatewayWorker}

theorem step (lives : Lives place worker) (event : Event) : Lives place (worker.step event) where
  self := by
    rw [← lives.self]
    by_cases refresh : ∃ nodes now, event = .placement nodes now
    · obtain ⟨nodes, now, rfl⟩ := refresh
      change (worker.refreshPlacement nodes now).placement.self = _
      obtain same | ended | ⟨-, changed⟩ := Window.refreshPlacement_cases worker nodes now
      · rw [same]
      · rw [ended]
      · rw [changed]
    · exact congrArg Placement.View.self (GatewayWorker.placement_step event
        fun nodes now same => refresh ⟨nodes, now, same⟩)
  indexed := GatewayWorker.step_indexed lives.indexed event
  distinct := (lives.distinct.step lives.indexed event).1

theorem run (lives : Lives place worker) (events : List Event) : Lives place (worker.run events) :=
  @Run.invariant _ _ GatewayWorker.step (fun _ _ => True) (Lives place)
    (fun _ event lives _ => lives.step event) events worker lives
    (Run.meets_of_forall (fun _ _ _ => trivial) worker)

theorem init (config : Config) (router : MessageRouter) (fate : Nat → Bool) :
    Lives config.self (.init config router fate) where
  self := rfl
  indexed := GatewayWorker.init_indexed config router fate
  distinct := .init config router fate

/-- Fanning out a datagram changes no connection. -/
theorem fanOutUnreliable (lives : Lives place worker) (sender : ConnectionContext) (groupId : Nat)
    (payload : Bytes) : Lives place (worker.fanOutUnreliable sender groupId payload) := by
  have via : Via Op.Quiet worker (worker.fanOutUnreliable sender groupId payload) :=
    GatewayWorker.fanOutUnreliable_via ⟨fun _ _ => trivial, fun _ _ => trivial⟩
      ⟨fun _ => trivial, fun _ => trivial⟩
  have calm : Undisturbed worker (worker.fanOutUnreliable sender groupId payload) :=
    .of_via (via.mono fun _ _ quiet => quiet.calm)
  have same := GatewayWorker.Via.addressing (via.mono fun _ _ quiet => quiet.keepsAddressing)
  exact {
    self := (congrArg (fun standing => standing.placement.self) calm.standing).trans lives.self
    indexed := lives.indexed.of_addressing same
    distinct := lives.distinct.of_undisturbed (.of_addressing same) calm }

theorem nodup_groupConnections (lives : Lives place worker) (realm : RealmId) (groupId : Nat) :
    (worker.conns.groupConnections realm groupId).Nodup := by
  unfold ConnectionManager.groupConnections
  split
  · exact .nil
  refine List.Nodup.map_on ?_ (lives.indexed.edgeOnce.filter _)
  intro edge listed other also same
  simp only [List.mem_filter, Bool.and_eq_true, decide_eq_true_eq] at listed also
  obtain ⟨⟩ := edge
  obtain ⟨⟩ := other
  simp_all

end Lives

namespace GatewayWorker

variable {place : Location} {worker : GatewayWorker} {realm : RealmId} {groupId : Nat}
  {payload : Bytes} {skip : Option SessionHandle}

/-- What a connection is due: the datagram on its own channel, if it is a member with a channel and
not the sender. -/
def due (worker : GatewayWorker) (realm : RealmId) (groupId : Nat) (payload : Bytes)
    (skip : Option SessionHandle) (slot : Nat) (ctx : ConnectionContext) : List Bytes :=
  if worker.maxDatagramFrameSize < payload.length then []
  else if slot ∈ worker.conns.groupConnections realm groupId then
    if skip = some ctx.sessionHandle then []
    else ((ctx.channelFor groupId).map fun channel =>
      FrameType.datagram.toByte :: UInt8.ofNat channel :: payload).toList
  else []

/-- Of the datagrams to the members of a group, each connection gets just what it is due. -/
theorem localDatagrams_due (lives : Lives place worker) {slot : Nat} {ctx : ConnectionContext}
    (found : worker.context slot = some ctx) :
    datagramsTo ctx.transport.ptr (worker.localDatagrams realm groupId payload skip) =
      worker.due realm groupId payload skip slot ctx := by
  unfold localDatagrams due
  split
  · rfl
  rw [datagramsTo, List.filterMap_filterMap,
    filterMap_of_only (lives.nodup_groupConnections realm groupId) slot]
  · split
    · unfold datagramFor
      rw [found]
      simp only
      split
      · rfl
      · cases ctx.channelFor groupId <;> simp
    · rfl
  · intro other elsewhere
    unfold datagramFor
    cases held : worker.context other with
    | none => rfl
    | some own =>
        have separate : own.transport.ptr ≠ ctx.transport.ptr := fun same =>
          elsewhere (lives.distinct.distinct other slot own ctx held found same)
        simp only
        split
        · rfl
        · cases own.channelFor groupId <;> simp [separate]

/-- Whoever is not connected gets nothing. -/
theorem localDatagrams_gone {client : Nat}
    (gone : ∀ slot ctx, worker.context slot = some ctx → ctx.transport.ptr ≠ client) :
    datagramsTo client (worker.localDatagrams realm groupId payload skip) = [] := by
  unfold localDatagrams
  split
  · rfl
  rw [datagramsTo, List.filterMap_filterMap, List.filterMap_eq_nil_iff]
  intro slot _
  unfold datagramFor
  cases found : worker.context slot with
  | none => rfl
  | some ctx =>
      have separate := gone slot ctx found
      simp only
      split
      · rfl
      · cases ctx.channelFor groupId <;> simp [separate]

theorem length_due_le (slot : Nat) (ctx : ConnectionContext) :
    (worker.due realm groupId payload skip slot ctx).length ≤ 1 := by
  unfold due
  split
  · simp
  split
  · split
    · simp
    · cases ctx.channelFor groupId <;> simp
  · simp

end GatewayWorker

/-- The frame is for one group alone, to be sent as a datagram, and this is what is in it. -/
def Holds (groupId : Nat) (payload : Bytes) (parsed : Frame) : Prop :=
  parsed.header.flags.unreliable = true ∧ groupPayload parsed = payload ∧
    ∃ list, TargetList.decode parsed.body = .ok list ∧ list.toList = [groupId]

/-- Whoever handles the copy finds the realm, the group and the bytes of the datagram. -/
def Copy.Recovers (realm : RealmId) (groupId : Nat) (payload : Bytes) : Copy → Prop
  | worker _ own bytes =>
      own = realm ∧ ∃ parsed, parseExactFrame bytes = .ok parsed ∧ Holds groupId payload parsed
  | node _ bytes => ∃ parsed, parseExactFrame bytes = .ok parsed ∧
      parsed.header.realmHint = some realm ∧ Holds groupId payload parsed

theorem Copy.Carries.recovers {realm : RealmId} {groupId : Nat} {payload : Bytes} {copy : Copy}
    (carries : copy.Carries realm groupId payload) (known : realm < 2 ^ 16)
    (grouped : groupId < 2 ^ 64)
    (fits : EntryList.byteSize destIdSize 1 + payload.length ≤ maxBodySize) :
    copy.Recovers realm groupId payload := by
  have holds (route : RouteId) : Holds groupId payload (groupFrame route groupId payload) :=
    ⟨rfl, groupPayload_groupFrame grouped, _, targets_groupFrame grouped⟩
  cases copy with
  | worker place own bytes =>
      obtain ⟨rfl, route, rfl⟩ := carries
      exact ⟨rfl, _, parse_groupFrame fits, holds route⟩
  | node nodeId bytes =>
      obtain rfl : bytes = _ := carries
      exact ⟨_, parse_groupFrame fits, realmHint_groupFrame known, holds _⟩

/-- A worker that has handled the datagram: its state before, and what it did then. -/
structure Visit where
  place : Location
  worker : GatewayWorker
  actions : List Action

def Visit.datagrams (visit : Visit) : List (Nat × Bytes) :=
  visit.actions.filterMap Action.datagram

/-- All workers, the copies of one datagram that are on their way, and where it has been. -/
structure Spread where
  workers : Location → GatewayWorker
  underway : List Copy
  visits : List Visit

/-- A worker takes a step that has nothing to do with the datagram, or handles a copy of it; a copy
may also get lost. -/
inductive Move where
  | other (place : Location) (event : Event)
  | lose (copy : Copy)
  | take (place : Location) (event : Event) (copy : Copy)

/-- What a worker is made with, and the steps that it has taken since. -/
structure Site where
  config : Config
  router : MessageRouter
  fate : Nat → Bool
  history : List Event

def Site.worker (site : Site) (place : Location) : GatewayWorker :=
  (GatewayWorker.init { site.config with self := place } site.router site.fate).run site.history

namespace Spread

/-- A worker becomes another one, handling the datagram. -/
def visit (spread : Spread) (place : Location) (after : GatewayWorker) : Spread :=
  let before := spread.workers place
  let actions := after.log.drop before.log.length
  { workers := Function.update spread.workers place after
    underway := spread.underway ++ actions.filterMap (Action.copy place.nodeId)
    visits := spread.visits ++ [{ place := place, worker := before, actions := actions }] }

def lose (spread : Spread) (copy : Copy) : Spread :=
  { spread with underway := spread.underway.erase copy }

def step (spread : Spread) : Move → Spread
  | .other place event => { spread with
      workers := Function.update spread.workers place ((spread.workers place).step event) }
  | .lose copy => spread.lose copy
  | .take place event copy => (spread.lose copy).visit place ((spread.workers place).step event)

/-- A copy is handled once, where it is meant for, when it has come there. -/
def Possible (spread : Spread) : Move → Prop
  | .other _ _ | .lose _ => True
  | .take place event copy => copy ∈ spread.underway ∧ place ∈ copy.region ∧
      copy.Arrives (spread.workers place) event

/-- The sender's worker fans the datagram out. -/
def start (sites : Location → Site) (origin : Location) (sender : ConnectionContext)
    (groupId : Nat) (payload : Bytes) : Spread :=
  let spread : Spread := {
    workers := fun place => (sites place).worker place
    underway := []
    visits := [] }
  spread.visit origin ((spread.workers origin).fanOutUnreliable sender groupId payload)

/-- All that a client at a place has been sent. -/
def received (spread : Spread) (place : Location) (client : Nat) : List Bytes :=
  (spread.visits.filter fun visit => visit.place = place).flatMap fun visit =>
    datagramsTo client visit.datagrams

/-- Whom a worker skips: the sender, at its own place. -/
def skipped (origin place : Location) (sender : ConnectionContext) : Option SessionHandle :=
  if place = origin then some sender.sessionHandle else none

structure Sound (origin : Location) (home : GatewayWorker) (sender : ConnectionContext)
    (groupId : Nat) (payload : Bytes) (spread : Spread) : Prop where
  lives : ∀ place, Lives place (spread.workers place)
  once : Once Copy.region spread.underway (spread.visits.map Visit.place)
  carries : ∀ copy ∈ spread.underway, copy.Carries sender.realm groupId payload
  visits : ∀ visit ∈ spread.visits, Lives visit.place visit.worker ∧
    visit.datagrams = visit.worker.localDatagrams sender.realm groupId payload
      (skipped origin visit.place sender)
  first : ∃ actions rest, spread.visits =
    { place := origin, worker := home, actions := actions } :: rest

variable {origin place : Location} {home : GatewayWorker} {sender : ConnectionContext}
  {groupId : Nat} {payload : Bytes} {spread : Spread}

/-- The copies and the datagrams of a visit are those that the worker has sent. -/
theorem visit_of_sends {after : GatewayWorker} {datagrams : List (Nat × Bytes)}
    {copies : List Copy}
    (sends : Sends place.nodeId (spread.workers place) after datagrams copies) :
    ∃ actions, actions.filterMap Action.datagram = datagrams ∧ spread.visit place after = {
      workers := Function.update spread.workers place after
      underway := spread.underway ++ copies
      visits := spread.visits ++
        [{ place := place, worker := spread.workers place, actions := actions }] } := by
  obtain ⟨actions, extends_, sent, rfl⟩ := sends.log
  refine ⟨actions, sent, ?_⟩
  have done : after.log.drop (spread.workers place).log.length = actions := by
    rw [extends_, List.drop_left]
  simp only [visit, done]

theorem lives_update (lives : ∀ place, Lives place (spread.workers place)) {after : GatewayWorker}
    (changed : Lives place after) (other : Location) :
    Lives other (Function.update spread.workers place after other) := by
  by_cases here : other = place
  · subst here
    rwa [Function.update_self]
  · rw [Function.update_of_ne here]
    exact lives other

theorem Sound.step (sound : Sound origin home sender groupId payload spread) {move : Move}
    (possible : Possible spread move) (known : sender.realm < 2 ^ 16) (grouped : groupId < 2 ^ 64)
    (fits : EntryList.byteSize destIdSize 1 + payload.length ≤ maxBodySize) :
    Sound origin home sender groupId payload (spread.step move) := by
  cases move with
  | other place event =>
      exact { sound with
        lives := lives_update sound.lives ((sound.lives place).step event) }
  | lose copy =>
      exact { sound with
        once := sound.once.lose copy
        carries := fun other listed => sound.carries other (List.mem_of_mem_erase listed) }
  | take place event copy =>
      obtain ⟨listed, meant, arrives⟩ := possible
      have lives := sound.lives place
      obtain ⟨copies, shares, carry, sends⟩ := GatewayWorker.step_sends arrives
        (by rwa [lives.self]) (sound.carries copy listed) known grouped fits
      rw [lives.self] at shares sends
      obtain ⟨actions, sent, visited⟩ := @visit_of_sends place (spread.lose copy) _ _ _ sends
      obtain ⟨original, rest, visits⟩ := sound.first
      have elsewhere : place ≠ origin := by
        rintro rfl
        refine sound.once.ahead.within copy listed meant ?_
        rw [visits]
        exact List.mem_cons_self
      change Sound _ _ _ _ _ ((spread.lose copy).visit place _)
      rw [visited]
      refine ⟨lives_update sound.lives (lives.step event), ?_, ?_, ?_, ?_⟩
      · rw [List.map_append]
        exact sound.once.take listed meant shares
      · intro other underway
        obtain earlier | new := List.mem_append.mp underway
        · exact sound.carries other (List.mem_of_mem_erase earlier)
        · exact carry other new
      · intro visit seen
        obtain earlier | new := List.mem_append.mp seen
        · exact sound.visits visit earlier
        · obtain rfl := List.mem_singleton.mp new
          refine ⟨lives, ?_⟩
          rw [skipped, if_neg elsewhere]
          exact sent
      · exact ⟨original, rest ++ _, congrArg (· ++ _) visits⟩

theorem Sound.start (sites : Location → Site) (origin : Location) (sender : ConnectionContext)
    (fits : EntryList.byteSize destIdSize 1 + payload.length ≤ maxBodySize) :
    Sound origin ((sites origin).worker origin) sender groupId payload
      (start sites origin sender groupId payload) := by
  have lives (place : Location) : Lives place ((sites place).worker place) :=
    (Lives.init { (sites place).config with self := place } _ _).run _
  have self := (lives origin).self
  obtain ⟨copies, shares, carries, sends⟩ := @GatewayWorker.fanOutUnreliable_sends groupId payload
    ((sites origin).worker origin) sender fits
  rw [self] at shares sends
  obtain ⟨actions, sent, visited⟩ := @visit_of_sends origin
    { workers := fun place => (sites place).worker place, underway := [], visits := [] } _ _ _ sends
  change Sound _ _ _ _ _ (visit _ origin _)
  rw [visited]
  refine ⟨lives_update lives ((lives origin).fanOutUnreliable sender groupId payload), .start shares, carries, ?_, actions, [], rfl⟩
  intro visit seen
  obtain rfl := List.mem_singleton.mp seen
  refine ⟨lives origin, ?_⟩
  rw [skipped, if_pos rfl]
  exact sent

/-- Whoever is connected where a visit is made gets what it is due there, and nobody else gets
anything. -/
theorem Sound.visit (sound : Sound origin home sender groupId payload spread) {visit : Visit}
    (seen : visit ∈ spread.visits) :
    (∀ slot ctx, visit.worker.context slot = some ctx →
      datagramsTo ctx.transport.ptr visit.datagrams = visit.worker.due sender.realm groupId payload
        (skipped origin visit.place sender) slot ctx) ∧
    ∀ client, (∀ slot ctx, visit.worker.context slot = some ctx → ctx.transport.ptr ≠ client) →
      datagramsTo client visit.datagrams = [] := by
  obtain ⟨lives, sent⟩ := sound.visits visit seen
  rw [sent]
  exact ⟨fun _ _ found => GatewayWorker.localDatagrams_due lives found,
    fun _ gone => GatewayWorker.localDatagrams_gone gone⟩

theorem Sound.length_datagramsTo (sound : Sound origin home sender groupId payload spread)
    {visit : Visit} (seen : visit ∈ spread.visits) (client : Nat) :
    (datagramsTo client visit.datagrams).length ≤ 1 := by
  obtain ⟨due, gone⟩ := sound.visit seen
  by_cases connected : ∃ slot ctx, visit.worker.context slot = some ctx ∧
      ctx.transport.ptr = client
  · obtain ⟨slot, ctx, found, rfl⟩ := connected
    rw [due slot ctx found]
    exact GatewayWorker.length_due_le slot ctx
  · rw [gone client fun slot ctx found same => connected ⟨slot, ctx, found, same⟩]
    exact Nat.zero_le 1

/-- At most one visit is made at a place. -/
theorem Sound.visits_at (sound : Sound origin home sender groupId payload spread)
    (place : Location) :
    (spread.visits.filter fun visit => visit.place = place) = [] ∨
      ∃ visit ∈ spread.visits, visit.place = place ∧
        (spread.visits.filter fun visit => visit.place = place) = [visit] := by
  have once : ((spread.visits.filter fun visit => visit.place = place).map Visit.place).Nodup :=
    sound.once.once.sublist (List.filter_sublist.map _)
  have here (visit : Visit) :
      visit ∈ (spread.visits.filter fun visit => visit.place = place) →
        visit ∈ spread.visits ∧ visit.place = place := by simp
  rcases found : spread.visits.filter fun visit => visit.place = place with
    _ | ⟨visit, _ | ⟨other, rest⟩⟩
  · exact .inl found
  · obtain ⟨seen, same⟩ := here visit (by simp [found])
    exact .inr ⟨visit, seen, same, found⟩
  · have same := (here visit (by simp [found])).2
    have also := (here other (by simp [found])).2
    simp [found, same, also] at once

/-- No client at any place gets the datagram twice. -/
theorem Sound.length_received (sound : Sound origin home sender groupId payload spread)
    (place : Location) (client : Nat) : (spread.received place client).length ≤ 1 := by
  unfold received
  obtain none_ | ⟨visit, seen, -, one⟩ := sound.visits_at place
  · simp [none_]
  · rw [one, List.flatMap_singleton]
    exact sound.length_datagramsTo seen client

/-- The sender does not get its own datagram. -/
theorem Sound.received_sender (sound : Sound origin home sender groupId payload spread) {slot : Nat}
    (found : home.context slot = some sender) :
    spread.received origin sender.transport.ptr = [] := by
  obtain ⟨actions, rest, visits⟩ := sound.first
  have seen : { place := origin, worker := home, actions := actions } ∈ spread.visits := by
    rw [visits]
    exact List.mem_cons_self
  have own := (sound.visit seen).1 slot sender found
  have nothing : datagramsTo sender.transport.ptr
      (Visit.datagrams { place := origin, worker := home, actions := actions }) = [] := by
    rw [own, GatewayWorker.due, skipped, if_pos rfl, if_pos rfl]
    split <;> simp
  unfold received
  obtain none_ | ⟨visit, -, -, one⟩ := sound.visits_at origin
  · simp [none_]
  · rw [one, List.flatMap_singleton]
    rw [visits, List.filter_cons_of_pos (by simp)] at one
    obtain ⟨rfl, -⟩ := List.cons.inj one
    exact nothing

/-- Wherever the members of a group are connected, each of them that has bound a channel to it gets
a datagram of another member at most once, on its own channel, whatever the workers do meanwhile. -/
theorem fan_out_reaches_once (sites : Location → Site) (origin : Location) {slot : Nat}
    {sender : ConnectionContext} (found : ((sites origin).worker origin).context slot = some sender)
    (groupId : Nat) (payload : Bytes) (known : sender.realm < 2 ^ 16) (grouped : groupId < 2 ^ 64)
    (fits : EntryList.byteSize destIdSize 1 + payload.length ≤ maxBodySize) (moves : List Move)
    (possible : Run.Meets step Possible (start sites origin sender groupId payload) moves) :
    let spread := Run.final step (start sites origin sender groupId payload) moves
    (∀ copy ∈ spread.underway, copy.Recovers sender.realm groupId payload) ∧
    (∀ visit ∈ spread.visits,
      (∀ slot ctx, visit.worker.context slot = some ctx →
        datagramsTo ctx.transport.ptr visit.datagrams = visit.worker.due sender.realm groupId
          payload (skipped origin visit.place sender) slot ctx) ∧
      ∀ client, (∀ slot ctx, visit.worker.context slot = some ctx → ctx.transport.ptr ≠ client) →
        datagramsTo client visit.datagrams = []) ∧
    (∀ place client, (spread.received place client).length ≤ 1) ∧
    spread.received origin sender.transport.ptr = [] := by
  intro spread
  have sound : Sound origin ((sites origin).worker origin) sender groupId payload spread :=
    @Run.invariant _ _ step Possible (Sound origin _ sender groupId payload)
      (fun _ _ sound possible => Sound.step sound possible known grouped fits) moves _
      (Sound.start sites origin sender fits) possible
  exact ⟨fun copy listed => (sound.carries copy listed).recovers known grouped fits,
    fun _ => sound.visit, sound.length_received, sound.received_sender found⟩

/-- A worker handles a frame next that it finds first in its queue. -/
theorem arrives_of_router (lives : Lives place (spread.workers place)) {router : MessageRouter}
    {realm : RealmId} {bytes : Bytes} (waits : (router.pop place.workerId).map Prod.fst =
      some { realm := realm, session := 0, bytes := bytes }) :
    (Copy.worker place realm bytes).Arrives
      ((spread.step (.other place (.outside (.router router)))).workers place) .handoff := by
  have told : (spread.step (.other place (.outside (.router router)))).workers place =
      (spread.workers place).step (.outside (.router router)) := Function.update_self _ _ _
  rw [told]
  change (router.pop (spread.workers place).placement.self.workerId).map Prod.fst = _
  rw [lives.self]
  exact waits

/-- One of two workers on a node, whose only client is a member of a group and has bound a channel
to it. -/
def memberSite (place : Location) : Site where
  config := { self := place, workerCount := 2 }
  router := .init 2 16
  fate := fun _ => true
  history := [.accept .rawQuic true (some 7),
    .pushFrame ⟨1, 1⟩ 7 (controlFrame .joinGroup .none (BigEndian.write 8 5 ++
      EntryList.wire connTokenSize
        [ConnToken.encode ⟨1, 0, place.workerId, place.nodeId, 0⟩])),
    .frame 0 0 (controlFrame .bindChannel .required (3 :: BigEndian.write 8 5))]

set_option maxRecDepth 10000 in
def memberSender : ConnectionContext :=
  (((memberSite ⟨0, 0⟩).worker ⟨0, 0⟩).context 0).get (by decide +kernel)

/-- The router of the node, with the frame in the queue of the other worker. -/
def memberRouter : MessageRouter :=
  (((memberSite ⟨0, 0⟩).worker ⟨0, 0⟩).fanOutUnreliable memberSender 5 [0x2A]).router

def memberCopy : Copy := .worker ⟨0, 1⟩ 7 (encodeUnreliableGroupFrame 5 [0x2A])

def memberMoves : List Move :=
  [.other ⟨0, 1⟩ (.outside (.router memberRouter)), .take ⟨0, 1⟩ .handoff memberCopy]

def memberStart : Spread := start memberSite ⟨0, 0⟩ memberSender 5 [0x2A]

set_option maxRecDepth 10000 in
theorem memberMoves_possible : Run.Meets step Possible memberStart memberMoves := by
  have sent : memberCopy ∈ memberStart.underway := by decide +kernel
  have waits : (memberRouter.pop 1).map Prod.fst =
      some { realm := 7, session := 0, bytes := encodeUnreliableGroupFrame 5 [0x2A] } := by
    decide +kernel
  have sound := @Sound.start 5 [0x2A] memberSite ⟨0, 0⟩ memberSender (by decide)
  exact ⟨trivial, ⟨sent, Set.mem_singleton _, arrives_of_router (sound.lives ⟨0, 1⟩) waits⟩, trivial⟩

set_option maxRecDepth 10000 in
theorem fan_out_reaches_once_neighbour :
    let spread := Run.final step memberStart memberMoves
    (∀ place client, (spread.received place client).length ≤ 1) ∧
      spread.received ⟨0, 0⟩ memberSender.transport.ptr = [] ∧
      spread.received ⟨0, 1⟩ 1 = [[2, 3, 0x2A]] := by
  have found : ((memberSite ⟨0, 0⟩).worker ⟨0, 0⟩).context 0 = some memberSender :=
    (Option.some_get _).symm
  have known : memberSender.realm < 2 ^ 16 := by decide +kernel
  have reached := fan_out_reaches_once memberSite ⟨0, 0⟩ found 5 [0x2A] known (by decide)
    (by decide) memberMoves memberMoves_possible
  have delivered : (Run.final step memberStart memberMoves).received ⟨0, 1⟩ 1 = [[2, 3, 0x2A]] := by
    decide +kernel
  exact ⟨reached.2.2.1, reached.2.2.2, delivered⟩

end Spread

end LyuneGateway.Worker
