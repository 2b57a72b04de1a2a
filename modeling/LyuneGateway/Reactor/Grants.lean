import LyuneGateway.Reactor.Server

/-!
# The tunnel reflects nothing

Every step uses each of the two tables of a driver in one way, which the other
table has no part in. A grant is the last packet of a client that has been sent
on to its owner; so what is sent to the client on behalf of the tunnel answers
such a packet.
-/

namespace LyuneGateway.Reactor

open LyuneGateway.Membership (Address)

/-! ## Uses of a table -/

/-- What a step does with the entry of an address. -/
inductive Use where
  | keep
  | remember (outside : Outside) (nodeId workerId : Nat)
  | lookup
  | remove

namespace PeerTable

def apply (table : PeerTable) (use : Use) (address : Address) (now : Nat) : PeerTable :=
  match use with
  | .keep => table
  | .remember outside nodeId workerId =>
      (table.remember outside.iterator outside.spare address nodeId workerId now).2
  | .lookup => (table.lookup address now).2
  | .remove => table.remove address

/-- The use adds an entry to a table that is jammed. -/
def Overfilled (table : PeerTable) (use : Use) (address : Address) : Prop :=
  table.Jammed address ∧ ∃ outside nodeId workerId,
    use = .remember outside nodeId workerId ∧ outside.spare = true

/-- The table is as large as it may be, and nothing in it is of a later time. -/
structure Sound (table : PeerTable) (clock : Nat) : Prop where
  fits : table.entries.size ≤ table.capacity
  times : ∀ key peer, table.entries.lookup key = some peer → peer.lastSeen ≤ clock

variable {table : PeerTable} {use : Use} {address : Address} {clock now : Nat}

theorem spares_apply (fits : table.entries.size ≤ table.capacity) :
    table.Spares (table.apply use address now) address now := by
  cases use with
  | keep => exact Spares.refl
  | remember outside nodeId workerId => exact spares_remember fits
  | lookup => exact spares_lookup
  | remove => exact spares_erase

/-- An entry of another address was there before. -/
theorem Spares.lookup_eq {after : PeerTable} {key : AddressKey} {peer : Peer}
    (spares : table.Spares after address now) (other : key ≠ addressKey address)
    (held : after.entries.lookup key = some peer) : table.entries.lookup key = some peer := by
  obtain ⟨victim, evicted, kept⟩ := spares.others
  by_cases chosen : key ∈ victim
  · cases (evicted key chosen).2.1.symm.trans held
  · obtain same | ⟨gone, -⟩ := kept key other chosen
    · exact same ▸ held
    · cases gone.symm.trans held

/-- An entry of the address itself is new, or was there before. -/
theorem lookup_apply_self (fits : table.entries.size ≤ table.capacity) {peer : Peer}
    (held : (table.apply use address now).entries.lookup (addressKey address) = some peer) :
    (∃ outside nodeId workerId, use = .remember outside nodeId workerId ∧
      peer = { nodeId := nodeId, workerId := workerId, lastSeen := now }) ∨
    (∀ outside nodeId workerId, use ≠ .remember outside nodeId workerId) ∧
      table.entries.lookup (addressKey address) = some peer := by
  cases use with
  | keep => exact .inr ⟨by simp, held⟩
  | remember outside nodeId workerId =>
      exact .inl ⟨outside, nodeId, workerId, rfl, lookup_remember_self fits held⟩
  | lookup =>
      refine .inr ⟨by simp, ?_⟩
      simp only [apply, lookup] at held
      split at held
      · exact held
      · split at held
        · rw [AList.lookup_erase] at held
          cases held
        · exact held
  | remove =>
      simp only [apply, remove, AList.lookup_erase, reduceCtorEq] at held

theorem Sound.apply (sound : table.Sound clock) (later : clock ≤ now) (before : now < 2 ^ 64)
    (may : ¬table.Overfilled use address) : (table.apply use address now).Sound now := by
  have spares := @spares_apply table use address now sound.fits
  constructor
  · rw [spares.capacity]
    cases use with
    | keep => exact sound.fits
    | remember outside nodeId workerId =>
        have limits : ∀ key peer, table.entries.lookup key = some peer → peer.lastSeen < 2 ^ 64 :=
          fun key peer held => ((sound.times key peer held).trans later).trans_lt before
        refine (size_remember sound.fits limits before).mpr fun ⟨jammed, room⟩ => ?_
        exact may ⟨jammed, outside, nodeId, workerId, rfl, room⟩
    | lookup =>
        simp only [PeerTable.apply, lookup]
        split
        · exact sound.fits
        · split
          · exact Table.Shrinks.erase.size_le.trans sound.fits
          · exact sound.fits
    | remove => exact Table.Shrinks.erase.size_le.trans sound.fits
  · intro key peer held
    by_cases own : key = addressKey address
    · subst own
      obtain ⟨_, _, _, -, rfl⟩ | ⟨-, before⟩ := lookup_apply_self sound.fits held
      · exact le_rfl
      · exact (sound.times _ peer before).trans later
    · exact (sound.times key peer (spares.lookup_eq own held)).trans later

end PeerTable

namespace Event

/-- The owner of a packet that has come from the socket and is sent on to another node. -/
def owner (nodeId : Nat) : Event → Option Cid.Fields
  | .udp _ data _ _ =>
      if isShortHeader data = true then (packetOwner data).filter fun owner => owner.nodeId ≠ nodeId
      else none
  | _ => none

/-- A packet of the client that has come from the socket, with a short header, is sent on. -/
def Forwards (nodeId : Nat) (client : Address) (owner : Cid.Fields) (event : Event) : Prop :=
  ∃ outside data now, event = .udp outside data client now ∧ isShortHeader data = true ∧
    packetOwner data = some owner ∧ owner.nodeId ≠ nodeId

theorem forwards_iff {nodeId : Nat} {client : Address} {fields : Cid.Fields} {event : Event} :
    event.Forwards nodeId client fields ↔ event.owner nodeId = some fields ∧ event.address = client := by
  constructor
  · rintro ⟨outside, data, now, rfl, short, owned, other⟩
    refine ⟨?_, rfl⟩
    rw [owner, if_pos short, owned, Option.filter_some, if_pos (by simpa using other)]
  · rintro ⟨owned, rfl⟩
    cases event with
    | udp outside data source now =>
        rw [owner] at owned
        split at owned
        · rename_i short
          obtain ⟨found, other⟩ := Option.filter_eq_some_iff.mp owned
          exact ⟨outside, data, now, rfl, short, found, by simpa using other⟩
        · cases owned
    | handoff outside packet now => cases owned
    | flush data segmentSize dest now => cases owned

def grantsUse (nodeId : Nat) (event : Event) : Use :=
  match event with
  | .udp outside _ _ _ =>
      match event.owner nodeId with
      | some owner => .remember outside owner.nodeId owner.workerId
      | none => .keep
  | .handoff _ packet _ =>
      if packet.tunnel.any (fun metadata => metadata.kind = .response) then .lookup else .keep
  | .flush .. => .keep

def routesUse (nodeId workerId : Nat) : Event → Use
  | .udp _ data _ _ =>
      -- Only what is for this very worker shows that the client has found its way.
      if isShortHeader data = true ∧ (packetOwner data).any fun owner =>
        owner.nodeId ≠ nodeId ∨ owner.workerId ≠ workerId then .keep else .remove
  | .handoff outside packet _ =>
      match packet.tunnel with
      | none => .remove
      | some metadata =>
          match metadata.kind with
          | .request => .remember outside metadata.sourceNodeId metadata.sourceWorkerId
          | .response => .keep
  | .flush .. => .lookup

end Event

namespace ServerDriver

/-- A driver tracks return paths only if the tunnel has them. -/
structure Wired (nodeId workerId : Nat) (sender : Sender) (driver : ServerDriver) : Prop where
  nodeId : driver.nodeId = nodeId
  workerId : driver.workerId = workerId
  sends : driver.forwardSender = some sender
  enabled : sender.returnPathEnabled = true

variable {nodeId workerId : Nat} {sender : Sender} {driver : ServerDriver} {tracker : Tracker}

/-- The tracker after a step. -/
def after (nodeId workerId : Nat) (tracker : Tracker) (event : Event) : Tracker where
  routes := tracker.routes.apply (event.routesUse nodeId workerId) event.address event.now
  grants := tracker.grants.apply (event.grantsUse nodeId) event.address event.now

/-- A step changes nothing but the two tables, each of them by its own use. -/
theorem step_eq (wired : Wired nodeId workerId sender driver)
    (tracked : driver.returnTracker = some tracker) (event : Event) :
    driver.step event = { driver with
      returnTracker := some (after nodeId workerId tracker event) } := by
  rw [after]
  obtain ⟨rfl, rfl, sends, enabled⟩ := wired
  obtain ⟨nodeId, workerId, _, _⟩ := driver
  cases sends
  cases tracked
  cases event with
  | udp outside data source now =>
      simp only [step, react, handleUdpRecv, routeInbound, Event.routesUse, Event.grantsUse,
        Event.owner, Event.address, Event.now]
      cases short : isShortHeader data with
      | false => simp [PeerTable.apply, forgetRoute, Tracker.forgetRoute]
      | true =>
          cases owned : packetOwner data with
          | none => simp [PeerTable.apply, forgetRoute, Tracker.forgetRoute]
          | some owner =>
              by_cases away : owner.nodeId = nodeId
              · by_cases other : owner.workerId = workerId
                · simp [away, other, Option.filter, PeerTable.apply, forgetRoute,
                    Tracker.forgetRoute]
                · simp [away, other, Option.filter, PeerTable.apply]
              · simp [away, enabled, Option.filter, Tracker.grantResponse, PeerTable.apply]
  | handoff outside packet now =>
      simp only [step, react, handleHandoffPacket, Event.routesUse, Event.grantsUse, Event.address,
        Event.now]
      cases packet.tunnel with
      | none => simp [PeerTable.apply, forgetRoute, Tracker.forgetRoute]
      | some metadata =>
          cases kind : metadata.kind with
          | request => simp [kind, PeerTable.apply, Tracker.rememberRoute]
          | response => simp [kind, PeerTable.apply, handleReturnResponse, Tracker.isGranted]
  | flush data segmentSize dest now =>
      simp only [step, react, flush, Event.routesUse, Event.grantsUse, Event.address, Event.now,
        Tracker.lookupRoute]
      cases (tracker.routes.lookup dest now).1 <;> simp [PeerTable.apply]

end ServerDriver

/-! ## Runs -/

/-- In a list of events, the last packet of the client that was sent on went to this owner then. -/
def LastForward (nodeId : Nat) (events : List Event) (client : Address) (owner : Cid.Fields)
    (time : Nat) : Prop :=
  ∃ earlier event later, events = earlier ++ event :: later ∧
    event.Forwards nodeId client owner ∧ event.now = time ∧
    ∀ other ∈ later, ∀ owner, ¬other.Forwards nodeId client owner

theorem LastForward.concat {nodeId time : Nat} {events : List Event} {client : Address}
    {owner : Cid.Fields} {event : Event} (last : LastForward nodeId events client owner time)
    (other : ∀ owner, ¬event.Forwards nodeId client owner) :
    LastForward nodeId (events ++ [event]) client owner time := by
  obtain ⟨earlier, own, later, rfl, forwards, then_, none_⟩ := last
  refine ⟨earlier, own, later ++ [event], by simp, forwards, then_, fun next listed => ?_⟩
  obtain before | rfl := List.mem_append.mp listed |>.imp_right List.mem_singleton.mp
  · exact none_ next before
  · exact other

theorem LastForward.last {nodeId : Nat} {events : List Event} {client : Address}
    {owner : Cid.Fields} {event : Event} (forwards : event.Forwards nodeId client owner) :
    LastForward nodeId (events ++ [event]) client owner event.now :=
  ⟨events, event, [], rfl, forwards, rfl, by simp⟩

namespace ServerDriver

/-- The step adds an entry to a table that is jammed. -/
def Overfills (driver : ServerDriver) (event : Event) : Prop :=
  ∃ tracker, driver.returnTracker = some tracker ∧
    (tracker.routes.Overfilled (event.routesUse driver.nodeId driver.workerId) event.address ∨
      tracker.grants.Overfilled (event.grantsUse driver.nodeId) event.address)

/-- A driver that tracks return paths, after some events. -/
structure Tracks (nodeId workerId : Nat) (sender : Sender) (events : List Event) (clock : Nat)
    (driver : ServerDriver) (tracker : Tracker) : Prop where
  wired : Wired nodeId workerId sender driver
  tracked : driver.returnTracker = some tracker
  routes : tracker.routes.Sound clock
  grants : tracker.grants.Sound clock
  routesCapacity : tracker.routes.capacity = sender.returnPathCapacity
  grantsCapacity : tracker.grants.capacity = sender.returnPathCapacity
  timeout : tracker.grants.timeoutUs = sender.returnPathTimeoutUs
  forwarded : ∀ client peer, tracker.grants.entries.lookup (addressKey client) = some peer →
    LastForward nodeId events client ⟨peer.nodeId, peer.workerId⟩ peer.lastSeen

variable {nodeId workerId clock : Nat} {sender : Sender} {driver : ServerDriver} {tracker : Tracker}
  {events : List Event} {event : Event}

theorem grantsUse_eq_remember {outside : Outside} {owner worker : Nat} :
    event.grantsUse nodeId = .remember outside owner worker →
      event.owner nodeId = some ⟨owner, worker⟩ := by
  intro uses
  cases event with
  | udp outside' data source now =>
      simp only [Event.grantsUse] at uses
      split at uses
      · rename_i fields found
        cases uses
        exact found
      · cases uses
  | handoff outside' packet now =>
      simp only [Event.grantsUse] at uses
      split at uses <;> cases uses
  | flush data segmentSize dest now => cases uses

theorem grantsUse_of_owner {fields : Cid.Fields} (owned : event.owner nodeId = some fields) :
    ∃ outside, event.grantsUse nodeId = .remember outside fields.nodeId fields.workerId := by
  cases event with
  | udp outside data source now =>
      refine ⟨outside, ?_⟩
      rw [Event.grantsUse, owned]
  | handoff outside packet now => cases owned
  | flush data segmentSize dest now => cases owned

theorem Tracks.step (tracks : Tracks nodeId workerId sender events clock driver tracker)
    (later : clock ≤ event.now) (before : event.now < 2 ^ 64) (may : ¬driver.Overfills event) :
    Tracks nodeId workerId sender (events ++ [event]) event.now (driver.step event)
      (after nodeId workerId tracker event) := by
  have stepped := step_eq tracks.wired tracks.tracked event
  have calm : ¬tracker.routes.Overfilled (event.routesUse nodeId workerId) event.address ∧
      ¬tracker.grants.Overfilled (event.grantsUse nodeId) event.address := by
    rw [← not_or]
    intro overfilled
    rw [← tracks.wired.nodeId, ← tracks.wired.workerId] at overfilled
    exact may ⟨tracker, tracks.tracked, overfilled⟩
  have routes := @PeerTable.spares_apply tracker.routes (event.routesUse nodeId workerId)
    event.address event.now tracks.routes.fits
  have grants := @PeerTable.spares_apply tracker.grants (event.grantsUse nodeId) event.address
    event.now tracks.grants.fits
  exact {
    wired := by
      rw [stepped]
      exact ⟨tracks.wired.nodeId, tracks.wired.workerId, tracks.wired.sends, tracks.wired.enabled⟩
    tracked := by rw [stepped]
    routes := tracks.routes.apply later before calm.1
    grants := tracks.grants.apply later before calm.2
    routesCapacity := routes.capacity.trans tracks.routesCapacity
    grantsCapacity := grants.capacity.trans tracks.grantsCapacity
    timeout := grants.timeoutUs.trans tracks.timeout
    forwarded := by
      intro client peer held
      by_cases own : client = event.address
      · subst own
        obtain ⟨outside, owner, worker, uses, rfl⟩ | ⟨others, there⟩ :=
          PeerTable.lookup_apply_self tracks.grants.fits held
        · exact LastForward.last (Event.forwards_iff.mpr ⟨grantsUse_eq_remember uses, rfl⟩)
        · refine (tracks.forwarded _ peer there).concat fun fields forwards => ?_
          obtain ⟨outside, uses⟩ := grantsUse_of_owner (Event.forwards_iff.mp forwards).1
          exact others _ _ _ uses
      · have there := grants.lookup_eq (fun same => own (addressKey_inj same)) held
        refine (tracks.forwarded client peer there).concat fun fields forwards => ?_
        exact own (Event.forwards_iff.mp forwards).2.symm }

/-- Events in the order of the clock. -/
def Timely (events : List Event) : Prop :=
  events.Pairwise (fun first second => first.now ≤ second.now) ∧ ∀ event ∈ events, event.now < 2 ^ 64

theorem Tracks.run {more : List Event}
    (tracks : Tracks nodeId workerId sender events clock driver tracker)
    (later : ∀ event ∈ more, clock ≤ event.now) (timely : Timely more)
    (meets : Run.Meets ServerDriver.step (fun driver event => ¬driver.Overfills event) driver more) :
    ∃ clock' tracker', (∀ event : Event, (∀ earlier ∈ more, earlier.now ≤ event.now) → clock ≤ event.now →
      clock' ≤ event.now) ∧ Tracks nodeId workerId sender (events ++ more) clock'
        (Run.final ServerDriver.step driver more) tracker' := by
  induction more generalizing events clock driver tracker with
  | nil => exact ⟨clock, tracker, fun _ _ => id, by simpa using tracks⟩
  | cons event more ih =>
      obtain ⟨ordered, bounded⟩ := timely
      obtain ⟨first, rest⟩ := List.pairwise_cons.mp ordered
      have stepped := tracks.step (later event List.mem_cons_self)
        (bounded event List.mem_cons_self) meets.1
      obtain ⟨clock', tracker', last, runs⟩ := ih stepped first
        ⟨rest, fun other listed => bounded other (List.mem_cons_of_mem _ listed)⟩ meets.2
      refine ⟨clock', tracker', fun next after _ => ?_, ?_⟩
      · exact last next (fun other listed => after other (List.mem_cons_of_mem _ listed))
          (after event List.mem_cons_self)
      · rw [Run.final_cons]
        simpa using runs

end ServerDriver

section Tunnel

variable {nodeId workerId : Nat} {sender : Sender} {first : ServerDriver} {before : List Event}
  {event : Event}

end Tunnel

/-! ## A full table at the end of the clock -/

/-- Entries in the order in which the list has them. -/
def inOrder : Iterator where
  items := fun entries => entries.entries.map fun entry => (entry.1, entry.2)
  perm := fun _ => List.Perm.refl _

/-- A packet of a client for a worker of node 2. -/
def foreign (client : Address) (now : Nat) : Event :=
  .udp ⟨inOrder, true⟩ [64, 76, 89, 1, 0, 2, 3, 9, 8, 7, 6, 5, 4] client now

end LyuneGateway.Reactor
