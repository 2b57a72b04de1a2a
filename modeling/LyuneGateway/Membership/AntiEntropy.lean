import LyuneGateway.Membership.Sessions

/-!
# The exchange of views

One node asks another for its view, part by part, until there is no more. What
is between the two is one message, which is encoded, arrives, and is handled;
meanwhile both nodes do what else they have to do. The session of the requester
has a deadline: the clock drops a session that is late, and the rest of the view
is not asked for then.
-/

namespace LyuneGateway.Membership

open Faulty

namespace Swim

variable {swim after sender receiver node : Swim} {now : Nat} {message : Message}


/-! ## The two nodes and what is between them -/

/-- What is under way: a request, or the response to it. -/
inductive Leg where
  | asks (request : Message)
  | tells (request response : Message)

/-- A response that has been handled, and the requester before and after that. -/
structure Round where
  request : Message
  response : Message
  before : Swim
  after : Swim

structure Exchange where
  requester : Swim
  responder : Swim
  wire : Option Leg
  rounds : List Round := []

inductive Happening where
  | requester (command : Command)
  | responder (command : Command)
  | deliver (now : Nat)

/-- The receiver of a message after it has handled the datagram; none if it could not. -/
def convey (now : Nat) (sender receiver : Swim) (message : Message) : Option Swim :=
  match sender.encodeOutgoing message with
  | .error _ => none
  | .ok bytes =>
      match handleMessage now sender.config.address bytes receiver with
      | .done _ node => some node
      | _ => none

namespace Exchange

/-- An exchange goes on as long as a message is under way. -/
def happen (exchange : Exchange) (happening : Happening) : Option Exchange :=
  match happening, exchange.wire with
  | _, none => none
  | .requester command, some _ =>
      (command.run exchange.requester).state?.map fun node => { exchange with requester := node }
  | .responder command, some _ =>
      (command.run exchange.responder).state?.map fun node => { exchange with responder := node }
  | .deliver now, some (.asks request) =>
      (convey now exchange.requester exchange.responder request).map fun node => { exchange with
        responder := node
        wire := (posted exchange.responder node).head?.map fun outgoing =>
          .tells request outgoing.message }
  | .deliver now, some (.tells request response) =>
      (convey now exchange.responder exchange.requester response).map fun node => { exchange with
        requester := node
        wire := (posted exchange.requester node).head?.map fun outgoing => .asks outgoing.message
        rounds := exchange.rounds ++ [{
          request := request
          response := response
          before := exchange.requester
          after := node }] }

/-- What the responder has said of other nodes. -/
def sent (exchange : Exchange) : List Event :=
  exchange.rounds.flatMap fun round => round.response.events.filter fun event =>
    event.nodeId ≠ round.response.sender

/-- From where on the responder has been asked for its view. -/
def cursors (exchange : Exchange) : List Nat := exchange.rounds.map fun round => round.request.target

/-- The message arrives as it was sent, and from the address that the receiver knows the sender
by. -/
def Arrives (sender receiver : Swim) (message : Message) : Prop :=
  ¬ receiver.misplaced sender.config.address message ∧
    ∀ bytes, sender.encodeOutgoing message = .ok bytes →
      ∃ next, receive bytes receiver = .done (some message) next

/-- Messages arrive; the view of the responder stays as it is, and the requester drops no session
and meets no end of a range. -/
def Fair (exchange : Exchange) : Happening → Prop
  | .requester command => command.Ready False exchange.requester ∧ exchange.requester.Apart command
  | .responder command => ∀ node, (command.run exchange.responder).state? = some node →
      node.table.members = exchange.responder.table.members
  | .deliver now =>
      match exchange.wire with
      | none => True
      | some (.asks request) => Arrives exchange.requester exchange.responder request ∧
          ∀ node, convey now exchange.requester exchange.responder request = some node →
            node.table.members = exchange.responder.table.members
      | some (.tells _ response) => Arrives exchange.responder exchange.requester response ∧
          ∀ bytes, exchange.responder.encodeOutgoing response = .ok bytes →
            ReadyToHear False now exchange.responder.config.address bytes exchange.requester

end Exchange

/-- What handling a message that arrives comes to: its events are merged, and it is answered. -/
theorem convey_done (conveyed : convey now sender receiver message = some node)
    (arrives : Exchange.Arrives sender receiver message) :
    ∃ bytes cache middle, sender.encodeOutgoing message = .ok bytes ∧
      (Command.message now sender.config.address bytes).run receiver = .done () node ∧
      receive bytes receiver = .done (some message) { receiver with replayCache := cache } ∧
      merge now message.sender message.events { receiver with replayCache := cache } =
        .done () middle ∧
      answer now sender.config.address message middle = .done () node := by
  unfold convey at conveyed
  cases encoded : sender.encodeOutgoing message with
  | error problem =>
      rw [encoded] at conveyed
      cases conveyed
  | ok bytes =>
      simp only [encoded] at conveyed
      split at conveyed
      · rename_i value after handled
        cases conveyed
        obtain ⟨placed, received⟩ := arrives
        obtain ⟨next, received⟩ := received bytes encoded
        obtain ⟨⟨cache, rfl⟩, -⟩ := receive_done received
        refine ⟨bytes, cache, ?_⟩
        have acted := (handleMessage_of_some received).symm.trans handled
        have there : ¬ { receiver with replayCache := cache }.misplaced sender.config.address
          message := placed
        rw [actOn, self_bind, ite_neg there] at acted
        obtain ⟨_, middle, merged, answered⟩ := of_bind_done acted
        exact ⟨middle, rfl, handled, received, merged, answered⟩
      · cases conveyed

/-! ## A request arrives -/

theorem row_of_members (members : after.table.members = swim.table.members)
    (config : after.config = swim.config) : after.row = swim.row := by
  rw [row, row, config]
  exact List.map_congr_left fun nodeId _ => Table.get_of_members members nodeId

theorem Part.of_members {room cursor next : Nat} {entries : List Member}
    (part : Part after room cursor entries next)
    (members : after.table.members = swim.table.members) (config : after.config = swim.config) :
    Part swim room cursor entries next := by
  have row := row_of_members members config
  obtain ⟨passes, inside, full, few, moves⟩ := part
  rw [row] at passes
  rw [config] at inside full moves
  exact ⟨passes, inside, full, few, moves⟩

/-- The message has the part of the view from a position on, and says whether there is more. -/
structure Tells (responder : Swim) (cursor : Nat) (response : Message) (entries : List Member) :
    Prop where
  type : response.type = .sync
  sender : response.sender = responder.config.nodeId
  flags : response.flags = if response.target < responder.config.maxNodes then syncMoreFlag else 0
  events : ∃ own : Event, own.nodeId = responder.config.nodeId ∧
    response.events = own :: entries.map Member.event
  part : Part responder (maxEvents - 1) cursor entries response.target

theorem response_tells {cursor next : Nat} {entries : List Member} (seq : Nat)
    (part : Part swim (maxEvents - 1) cursor entries next) :
    Tells swim cursor (swim.response seq entries next) entries :=
  ⟨rfl, rfl, rfl, ⟨_, rfl, rfl⟩, part⟩

theorem Tells.of_members {cursor : Nat} {response : Message} {entries : List Member}
    (tells : Tells after cursor response entries)
    (members : after.table.members = swim.table.members) (config : after.config = swim.config) :
    Tells swim cursor response entries := by
  obtain ⟨type, sender, flags, events, part⟩ := tells
  rw [config] at sender flags events
  exact ⟨type, sender, flags, events, part.of_members members config⟩

/-- A request that arrives is responded to with the part of the view that it asks for. -/
theorem asks_done {config : Config} {mac : Mac} {request : Message} {cursor : Nat}
    (sendable : Sendable config mac receiver) (asks : request.Asks sender.config.nodeId cursor)
    (arrives : Exchange.Arrives sender receiver request)
    (conveyed : convey now sender receiver request = some node)
    (members : node.table.members = receiver.table.members) :
    ∃ response entries, posted receiver node = [{
        recipient := sender.config.address
        message := response }] ∧ Tells receiver cursor response entries := by
  obtain ⟨bytes, cache, middle, -, -, received, merged, answered⟩ := convey_done conveyed arrives
  have fits := authentic_fits ((receive_done received).2 request rfl)
  have within : Within { receiver.aside with replayCache := cache }
    { receiver with replayCache := cache } := ⟨sendable.1, rfl⟩
  have kept := Keeps.of_done (bounds_merge fits.events) within merged
  have config : middle.config = receiver.config := kept.config
  have outbox := merge_outbox merged
  rw [answer, self_bind, asks.type] at answered
  have requested : request.flags % 2 = 1 := by
    rw [asks.flags]
    rfl
  simp only [handleSync] at answered
  rw [ite_pos requested] at answered
  obtain ⟨entries, next, part, table, posts⟩ := answerSync_done answered
  rw [asks.target] at part
  rw [outbox] at posts
  refine ⟨_, entries, posted_append posts, (response_tells _ part).of_members ?_ config⟩
  rw [← table, members]

/-! ## A response arrives -/

/-- What is come by before the end is a part of the members. -/
theorem Part.sublist {room cursor next : Nat} {entries : List Member}
    (part : Part swim room cursor entries next) (inside : cursor ≤ swim.config.maxNodes)
    (capacity : swim.table.capacity = swim.config.maxNodes) :
    List.Sublist entries swim.table.members := by
  have front : Cursor.passed swim.row next <+: swim.table.members := by
    rw [← passed_row capacity]
    exact Cursor.passed_prefix (part.inside inside)
  rw [part.passes] at front
  exact (List.sublist_append_right _ _).trans front.sublist

/-- No two events of a response are about the same node. -/
theorem Tells.distinct {cursor : Nat} {response : Message} {entries : List Member}
    (tells : Tells swim cursor response entries) (inside : cursor ≤ swim.config.maxNodes)
    (capacity : swim.table.capacity = swim.config.maxNodes)
    (own : swim.table.get swim.config.nodeId = none) :
    (response.events.map Event.nodeId).Nodup := by
  obtain ⟨self, named, events⟩ := tells.events
  have sublist := tells.part.sublist inside capacity
  rw [events, List.map_cons, List.map_map, List.nodup_cons]
  constructor
  · intro listed
    obtain ⟨member, among, same⟩ := List.mem_map.mp listed
    have held := Table.mem_members.mp (sublist.subset among)
    rw [show member.nodeId = swim.config.nodeId from same.trans named, own] at held
    cases held
  · exact (Table.members_distinct swim.table).sublist (sublist.map _)

/-- What a response says of other nodes than its sender. -/
theorem Tells.others {cursor : Nat} {response : Message} {entries : List Member}
    (tells : Tells swim cursor response entries) (inside : cursor ≤ swim.config.maxNodes)
    (capacity : swim.table.capacity = swim.config.maxNodes)
    (own : swim.table.get swim.config.nodeId = none) :
    (response.events.filter fun event => event.nodeId ≠ response.sender) =
      entries.map Member.event := by
  obtain ⟨self, named, events⟩ := tells.events
  have distinct := tells.distinct inside capacity own
  rw [events, List.map_cons, List.nodup_cons] at distinct
  rw [events, tells.sender, List.filter_cons_of_neg (by simp [named])]
  apply List.filter_eq_self.mpr
  intro event listed
  have other : event.nodeId ≠ self.nodeId :=
    fun same => distinct.1 (List.mem_map.mpr ⟨event, listed, same⟩)
  simpa [named] using other

section Response

variable {config : Config} {mac : Mac} {session : SyncSession} {cursor : Nat} {response : Message}
  {entries : List Member} (sendable : Sendable config mac receiver)
  (tells : Tells sender cursor response entries)
  (arrives : Exchange.Arrives sender receiver response)
  (conveyed : convey now sender receiver response = some node)
  (held : receiver.sync = some session)
  (peer : session.peer = 0 ∨ session.peer = sender.config.nodeId)

include sendable tells arrives conveyed held peer

/-- A response that is expected is merged, and the session goes on from there. -/
theorem tells_parts : ∃ bytes cache middle, sender.encodeOutgoing response = .ok bytes ∧
    (Command.message now sender.config.address bytes).run receiver = .done () node ∧
    receive bytes receiver = .done (some response) { receiver with replayCache := cache } ∧
    merge now response.sender response.events { receiver with replayCache := cache } =
      .done () middle ∧
    middle.config = receiver.config ∧
    continueSync now sender.config.address response session middle = .done () node := by
  obtain ⟨bytes, cache, middle, encoded, ran, received, merged, answered⟩ :=
    convey_done conveyed arrives
  have fits := authentic_fits ((receive_done received).2 response rfl)
  have within : Within { receiver.aside with replayCache := cache }
    { receiver with replayCache := cache } := ⟨sendable.1, rfl⟩
  have kept := Keeps.of_done (bounds_merge fits.events) within merged
  have sync : middle.sync = some session := kept.sync.trans held
  refine ⟨bytes, cache, middle, encoded, ran, received, merged, kept.config, ?_⟩
  have unasked : ¬ response.flags % 2 = 1 := by
    rw [tells.flags]
    split <;> simp [syncMoreFlag]
  have expected : ¬ (session.peer ≠ 0 ∧ response.sender ≠ session.peer) := by
    rw [tells.sender]
    rintro ⟨chosen, other⟩
    exact other (peer.resolve_left chosen).symm
  rw [answer, self_bind, tells.type] at answered
  simp only [handleSync] at answered
  rw [ite_neg unasked, read_bind, sync] at answered
  simp only at answered
  rwa [ite_neg expected] at answered

/-- When a response arrives, the next part is asked for, or the exchange is over. -/
theorem tells_done :
    if response.target < sender.config.maxNodes then
      ∃ request session, posted receiver node = [{
          recipient := sender.config.address
          message := request }] ∧ request.Asks receiver.config.nodeId response.target ∧
        node.sync = some session ∧ session.peer = sender.config.nodeId
    else posted receiver node = [] ∧ node.sync = none := by
  obtain ⟨bytes, cache, middle, -, -, -, merged, config, continues⟩ :=
    tells_parts sendable tells arrives conveyed held peer
  have outbox := merge_outbox merged
  obtain ⟨-, ends⟩ := continueSync_done continues
  have more : response.flags / syncMoreFlag % 2 = 1 ↔ response.target < sender.config.maxNodes := by
    rw [tells.flags]
    split <;> simp [syncMoreFlag, *]
  by_cases further : response.target < sender.config.maxNodes
  · rw [if_pos (more.mpr further)] at ends
    rw [if_pos further]
    obtain ⟨posts, deadline, session'⟩ := ends
    rw [outbox] at posts
    refine ⟨_, _, posted_append posts, config ▸ request_asks _ _, session', ?_⟩
    simp only
    split
    · exact tells.sender
    · exact peer.resolve_left ‹_›
  · rw [if_neg (mt more.mp further)] at ends
    rw [if_neg further]
    obtain ⟨posts, session'⟩ := ends
    rw [outbox] at posts
    exact ⟨posted_append (posts.trans (List.append_nil _).symm), session'⟩

/-- What the response has that is news is stored, and nothing is taken back. -/
theorem tells_stores (upright : Upright receiver)
    (distinct : (response.events.map Event.nodeId).Nodup)
    (ready : ∀ bytes, sender.encodeOutgoing response = .ok bytes →
      ReadyToHear False now sender.config.address bytes receiver) :
    Upright node ∧ View.Since False receiver.view node.view ∧
      ∀ event ∈ response.events, receiver.Publishes event →
        node.table.get event.nodeId = some event.member := by
  obtain ⟨bytes, cache, middle, encoded, ran, received, merged, -, continues⟩ :=
    tells_parts sendable tells arrives conveyed held peer
  have ready := ready bytes encoded
  have kept := Command.run_keeps (Command.message now sender.config.address bytes)
    (fun counting : False => counting.elim) False.elim upright (fun adds => adds.elim) ready
  rw [ran] at kept
  refine ⟨kept.1.upright, kept.1.since, fun event listed news => ?_⟩
  rw [(continueSync_done continues).1]
  have capacity : { receiver with replayCache := cache }.table.capacity =
    { receiver with replayCache := cache }.config.maxNodes := upright.sound.capacity
  exact merge_takes distinct capacity merged (ready response _ received arrives.1) listed news

end Response

theorem Command.run_since {command : Command} (upright : Upright swim)
    (other : ¬ command.Adds) (ready : command.Ready False swim)
    (answer : (command.run swim).state? = some after) :
    Upright after ∧ View.Since False swim.view after.view := by
  have kept := command.run_keeps (fun counting : False => counting.elim) False.elim upright
    (fun adds => absurd adds other) ready
  cases ran : command.run swim with
  | done value state =>
      rw [ran] at kept answer
      cases answer
      exact ⟨kept.1.upright, kept.1.since⟩
  | failed state =>
      rw [ran] at kept answer
      cases answer
      exact ⟨kept.1.upright, kept.1.since⟩
  | trapped fault =>
      rw [ran] at answer
      cases answer

/-! ## Runs -/

/-- A run leads to the node in which no number of a slot starts over. -/
def Reached (swim : Swim) : Prop :=
  ∃ (config : Config) (mac : Mac) (random : Nat → Nat) (memory : Nat → Bool) (first : Swim)
    (commands : List Command), init config mac random memory = some first ∧ Ordered commands ∧
      Run.Meets perform (Orderly False) (some first) commands ∧
      Run.final perform (some first) commands = some swim

theorem Reached.upright (reached : Reached swim) : Upright swim := by
  obtain ⟨config, mac, random, memory, first, commands, starts, ordered, orderly, leads⟩ := reached
  obtain ⟨upright, fresh, -⟩ := init_upright starts
  exact (run_keeps (fun counting : False => counting.elim) False.elim upright
    (fun _ _ _ => fresh) ordered orderly leads).1

theorem Reached.sendable (reached : Reached swim) : Sendable swim.config swim.mac swim := by
  obtain ⟨config, mac, random, memory, first, commands, starts, -, -, leads⟩ := reached
  exact ⟨(run_sendable (init_sendable starts) leads).1, rfl, rfl⟩

theorem Reached.named (reached : Reached swim) : swim.config.nodeId ≠ 0 := by
  obtain ⟨config, mac, random, memory, first, commands, starts, -, -, leads⟩ := reached
  rw [(run_sendable (init_sendable starts) leads).2.1]
  intro nameless
  have refused : init config mac random memory = none := if_pos (.inr (.inl nameless))
  rw [refused] at starts
  cases starts

namespace Exchange

variable {start exchange after : Exchange} {request : Message} {happening : Happening}

/-- The position up to which the view has been told. -/
def position (start exchange : Exchange) : Nat :=
  match exchange.wire with
  | none => start.responder.config.maxNodes
  | some (.asks request) => request.target
  | some (.tells request _) => request.target

/-- The members that have been told of. -/
def told (start exchange : Exchange) : List Member :=
  Cursor.passed start.responder.row (position start exchange)

/-- The requester waits for the response to its request. -/
structure Awaits (start exchange : Exchange) (request : Message) : Prop where
  asks : request.Asks start.requester.config.nodeId request.target
  below : request.target < start.responder.config.maxNodes
  session : ∃ session, exchange.requester.sync = some session ∧
    (session.peer = 0 ∨ session.peer = start.responder.config.nodeId)

/-- What is under way fits the state of the requester. -/
def Matches (start exchange : Exchange) : Option Leg → Prop
  | none => exchange.requester.sync = none
  | some (.asks request) => Awaits start exchange request
  | some (.tells request response) => Awaits start exchange request ∧
      ∃ entries, Tells start.responder request.target response entries

/-- What was news in the round has been stored, and has not been taken back since. -/
structure Kept (exchange : Exchange) (round : Round) : Prop where
  stored : ∀ event ∈ round.response.events, round.before.Publishes event →
    round.after.table.get event.nodeId = some event.member
  since : View.Since False round.after.view exchange.requester.view

/-- What holds as long as an exchange goes on, and at its end. -/
structure Underway (start exchange : Exchange) : Prop where
  requester : Upright exchange.requester
  sendable : Sendable start.requester.config start.requester.mac exchange.requester
  responder : Sendable start.responder.config start.responder.mac exchange.responder
  members : exchange.responder.table.members = start.responder.table.members
  cursors : (exchange.cursors ++ [position start exchange]).Pairwise (· < ·)
  sent : exchange.sent = (told start exchange).map Member.event
  few : 15 * exchange.rounds.length ≤
    (told start exchange).length + if exchange.wire.isNone then 15 else 0
  fits : Matches start exchange exchange.wire
  rounds : ∀ round ∈ exchange.rounds, Kept exchange round

theorem Awaits.of_sync (awaits : Awaits start exchange request)
    (same : after.requester.sync = exchange.requester.sync) : Awaits start after request :=
  ⟨awaits.asks, awaits.below, same ▸ awaits.session⟩

theorem Matches.of_sync {leg : Option Leg} (fits : Matches start exchange leg)
    (same : after.requester.sync = exchange.requester.sync) : Matches start after leg := by
  match leg with
  | none => exact same.trans fits
  | some (.asks request) => exact Awaits.of_sync fits same
  | some (.tells request response) => exact ⟨fits.1.of_sync same, fits.2⟩

theorem Kept.trans {round : Round} (kept : Kept exchange round)
    (since : View.Since False exchange.requester.view after.requester.view) : Kept after round :=
  ⟨kept.stored, kept.since.trans since⟩

theorem requester_underway {command : Command} {node : Swim} (underway : Underway start exchange)
    (fair : exchange.Fair (.requester command))
    (answer : (command.run exchange.requester).state? = some node) :
    Underway start { exchange with requester := node } := by
  obtain ⟨ready, apart⟩ := fair
  have other : ¬ command.Adds := by
    cases command with
    | addPeer => exact apart.elim
    | _ => exact id
  obtain ⟨upright, since⟩ := Command.run_since underway.requester other ready answer
  have same := command.run_apart underway.sendable apart answer
  exact {
    requester := upright
    sendable := command.run_sendable underway.sendable answer
    responder := underway.responder
    members := underway.members
    cursors := underway.cursors
    sent := underway.sent
    few := underway.few
    fits := Matches.of_sync underway.fits same
    rounds := fun round listed => (underway.rounds round listed).trans since }

theorem responder_underway {command : Command} {node : Swim} (underway : Underway start exchange)
    (fair : exchange.Fair (.responder command))
    (answer : (command.run exchange.responder).state? = some node) :
    Underway start { exchange with responder := node } := by
  exact {
    requester := underway.requester
    sendable := underway.sendable
    responder := command.run_sendable underway.responder answer
    members := (fair node answer).trans underway.members
    cursors := underway.cursors
    sent := underway.sent
    few := underway.few
    fits := Matches.of_sync underway.fits rfl
    rounds := fun round listed => (underway.rounds round listed).trans (View.Since.refl _ _) }

theorem asks_underway {node : Swim} (underway : Underway start exchange)
    (wire : exchange.wire = some (.asks request)) (fair : exchange.Fair (.deliver now))
    (conveyed : convey now exchange.requester exchange.responder request = some node) :
    Underway start { exchange with
      responder := node
      wire := (posted exchange.responder node).head?.map fun outgoing =>
        .tells request outgoing.message } := by
  simp only [Fair, wire] at fair
  obtain ⟨arrives, stays⟩ := fair
  have awaits := underway.fits
  rw [wire] at awaits
  have asks : request.Asks exchange.requester.config.nodeId request.target := by
    rw [underway.sendable.2.1]
    exact awaits.asks
  obtain ⟨response, entries, posts, tells⟩ :=
    asks_done underway.responder asks arrives conveyed (stays node conveyed)
  obtain ⟨bytes, cache, middle, -, ran, -⟩ := convey_done conveyed arrives
  have position : position start { exchange with
      responder := node, wire := some (.tells request response) } = position start exchange := by
    simp only [Exchange.position, wire]
  rw [posts]
  exact {
    requester := underway.requester
    sendable := underway.sendable
    responder := Command.run_sendable _ underway.responder (congrArg Outcome.state? ran)
    members := (stays node conveyed).trans underway.members
    cursors := by
      have cursors := underway.cursors
      rw [← position] at cursors
      exact cursors
    sent := by
      have sent := underway.sent
      rw [told, ← position] at sent
      exact sent
    few := by
      have few := underway.few
      rw [told, ← position, wire] at few
      exact few
    fits := by
      refine ⟨Awaits.of_sync awaits rfl, entries, ?_⟩
      exact tells.of_members underway.members underway.responder.2.1
    rounds := fun round listed => (underway.rounds round listed).trans (View.Since.refl _ _) }

theorem pairwise_concat {cursors : List Nat} {low high : Nat}
    (ascending : (cursors ++ [low]).Pairwise (· < ·)) (less : low < high) :
    (cursors ++ [low] ++ [high]).Pairwise (· < ·) := by
  refine List.pairwise_append.mpr ⟨ascending, List.pairwise_singleton _ _, ?_⟩
  intro cursor listed _ last
  obtain rfl := List.mem_singleton.mp last
  obtain early | last := List.mem_append.mp listed
  · have below := (List.pairwise_append.mp ascending).2.2 cursor early low (List.mem_singleton_self _)
    exact below.trans less
  · rwa [List.mem_singleton.mp last]

theorem tells_underway {node : Swim} {response : Message} (underway : Underway start exchange)
    (capacity : start.responder.table.capacity = start.responder.config.maxNodes)
    (own : start.responder.table.get start.responder.config.nodeId = none)
    (wire : exchange.wire = some (.tells request response)) (fair : exchange.Fair (.deliver now))
    (conveyed : convey now exchange.responder exchange.requester response = some node) :
    Underway start { exchange with
      requester := node
      wire := (posted exchange.requester node).head?.map fun outgoing => .asks outgoing.message
      rounds := exchange.rounds ++ [{
        request := request
        response := response
        before := exchange.requester
        after := node }] } := by
  simp only [Fair, wire] at fair
  obtain ⟨arrives, ready⟩ := fair
  have fits := underway.fits
  rw [wire] at fits
  obtain ⟨awaits, entries, tells⟩ := fits
  obtain ⟨session, held, peer⟩ := awaits.session
  have config : exchange.responder.config = start.responder.config := underway.responder.2.1
  have there : Tells exchange.responder request.target response entries :=
    tells.of_members underway.members.symm config.symm
  rw [← config] at peer
  have ends := tells_done underway.sendable there arrives conveyed held peer
  obtain ⟨upright, since, stores⟩ := tells_stores underway.sendable there arrives conveyed held peer
    underway.requester (tells.distinct awaits.below.le capacity own) ready
  obtain ⟨bytes, cache, middle, -, ran, -⟩ := convey_done conveyed arrives
  have forward := tells.part.moves awaits.below (by decide)
  have passes := tells.part.passes
  have before : position start exchange = request.target := by simp only [position, wire]
  -- The rounds are the same whether there is another one to come or not.
  have goes : ∀ leg : Option Leg, ∀ last : Exchange, last = { exchange with
        requester := node
        wire := leg
        rounds := exchange.rounds ++ [{
          request := request
          response := response
          before := exchange.requester
          after := node }] } →
      position start last = response.target → Matches start last leg →
      (15 ≤ entries.length + if leg.isNone then 15 else 0) → Underway start last := by
    rintro leg last rfl position fits full
    have known := underway.sent
    have few := underway.few
    have cursors := underway.cursors
    rw [told, before] at known few
    rw [before] at cursors
    rw [wire, Option.isNone_some, if_neg (by decide)] at few
    exact {
      requester := upright
      sendable := Command.run_sendable _ underway.sendable (congrArg Outcome.state? ran)
      responder := underway.responder
      members := underway.members
      cursors := by
        rw [position]
        simp only [Exchange.cursors, List.map_append, List.map_cons, List.map_nil]
        exact pairwise_concat cursors forward
      sent := by
        rw [told, position, passes, List.map_append, ← known]
        simp only [Exchange.sent, List.flatMap_append, List.flatMap_cons, List.flatMap_nil,
          List.append_nil, tells.others awaits.below.le capacity own]
      few := by
        rw [told, position, passes]
        simp only [List.length_append, List.length_singleton]
        omega
      fits := fits
      rounds := by
        intro round listed
        obtain past | last := List.mem_append.mp listed
        · exact (underway.rounds round past).trans since
        · rw [List.mem_singleton.mp last]
          exact ⟨stores, View.Since.refl _ _⟩ }
  rw [config] at ends
  by_cases further : response.target < start.responder.config.maxNodes
  · rw [if_pos further] at ends
    obtain ⟨next, session', posts, asks, held', peer'⟩ := ends
    rw [posts]
    apply goes (some (.asks next)) _ rfl
    · exact asks.target
    · rw [underway.sendable.2.1] at asks
      exact {
        asks := asks.target.symm ▸ asks
        below := asks.target ▸ further
        session := ⟨session', held', .inr peer'⟩ }
    · rw [tells.part.full further]
      simp [maxEvents]
  · rw [if_neg further] at ends
    obtain ⟨posts, ended⟩ := ends
    rw [posts]
    apply goes none _ rfl
    · have inside := tells.part.inside awaits.below.le
      change start.responder.config.maxNodes = response.target
      omega
    · exact ended
    · simp

theorem happen_underway (underway : Underway start exchange)
    (capacity : start.responder.table.capacity = start.responder.config.maxNodes)
    (own : start.responder.table.get start.responder.config.nodeId = none)
    (fair : exchange.Fair happening) (happens : exchange.happen happening = some after) :
    Underway start after := by
  cases wire : exchange.wire with
  | none => simp [happen, wire] at happens
  | some leg =>
      cases happening with
      | requester command =>
          simp only [happen, wire] at happens
          obtain ⟨node, answer, rfl⟩ := Option.map_eq_some_iff.mp happens
          rw [← wire]
          exact requester_underway underway fair answer
      | responder command =>
          simp only [happen, wire] at happens
          obtain ⟨node, answer, rfl⟩ := Option.map_eq_some_iff.mp happens
          rw [← wire]
          exact responder_underway underway fair answer
      | deliver now =>
          cases leg with
          | asks request =>
              simp only [happen, wire] at happens
              obtain ⟨node, conveyed, rfl⟩ := Option.map_eq_some_iff.mp happens
              exact asks_underway underway wire fair conveyed
          | tells request response =>
              simp only [happen, wire] at happens
              obtain ⟨node, conveyed, rfl⟩ := Option.map_eq_some_iff.mp happens
              exact tells_underway underway capacity own wire fair conveyed

/-- The exchange after a happening; none if there is none to go on with. -/
def perform (exchange : Option Exchange) (happening : Happening) : Option Exchange :=
  exchange.bind fun exchange => exchange.happen happening

/-- Whatever exchange there is, the happening is fair to it. -/
def Fairly (exchange : Option Exchange) (happening : Happening) : Prop :=
  ∀ underway, exchange = some underway → underway.Fair happening

theorem run_underway {happenings : List Happening} (underway : Underway start exchange)
    (capacity : start.responder.table.capacity = start.responder.config.maxNodes)
    (own : start.responder.table.get start.responder.config.nodeId = none)
    (fair : Run.Meets perform Fairly (some exchange) happenings)
    (leads : Run.final perform (some exchange) happenings = some after) : Underway start after := by
  induction happenings generalizing exchange with
  | nil =>
      cases leads
      exact underway
  | cons happening happenings ih =>
      obtain ⟨now, later⟩ := fair
      rw [Run.final_cons] at leads
      simp only [perform, Option.bind_some] at leads later
      cases happens : exchange.happen happening with
      | none =>
          rw [happens] at leads
          have stuck : ∀ rest : List Happening, Run.final perform none rest = none := by
            intro rest
            induction rest with
            | nil => rfl
            | cons _ _ ih => exact ih
          change Run.final perform none happenings = some after at leads
          rw [stuck] at leads
          cases leads
      | some next =>
          rw [happens] at leads later
          exact ih (happen_underway underway capacity own (now exchange rfl) happens) later leads

/-- Two nodes, and the first request of the one to the other. -/
def begun (requester responder : Swim) (request : Message) : Exchange where
  requester := requester
  responder := responder
  wire := some (.asks request)

theorem begun_underway {node requester responder : Swim} {command : Command}
    (reached : Reached node) (known : Reached responder) (ready : command.Ready False node)
    (opens : Opens responder node command requester request) :
    Underway (begun requester responder request) (begun requester responder request) := by
  have answer : (command.run node).state? = some requester :=
    congrArg Outcome.state? opens.command_done
  have sendable := command.run_sendable reached.sendable answer
  have config : requester.config = node.config := sendable.2.1
  have other : ¬ command.Adds := by
    cases opens <;> exact id
  obtain ⟨asks, session⟩ := opens.asks reached.sendable
  have named := known.named
  have first : 1 < responder.config.maxNodes := by
    have below : responder.config.nodeId < responder.config.maxNodes := known.upright.sound.named
    omega
  have nothing : Cursor.passed responder.row 1 = [] := by
    have step := Cursor.passed_succ (@row_get responder 0 (by omega))
    rw [step]
    rfl
  have position : told (begun requester responder request) (begun requester responder request) =
      [] := by
    change Cursor.passed responder.row request.target = []
    rw [asks.target, nothing]
  exact {
    requester := (Command.run_since reached.upright other ready answer).1
    sendable := ⟨sendable.1, rfl, rfl⟩
    responder := known.sendable
    members := rfl
    cursors := List.pairwise_singleton _ _
    sent := by
      rw [position]
      rfl
    few := Nat.zero_le _
    fits := {
      asks := by
        change request.Asks requester.config.nodeId request.target
        rw [config, asks.target]
        exact asks
      below := by
        change request.target < responder.config.maxNodes
        rwa [asks.target]
      session := session }
    rounds := fun round listed => absurd listed List.not_mem_nil }

/-- In an exchange of views in which the clock of the requester drops no session, the responder is
asked for its view from further and further on. There is one round for every fifteen members,
rounded up, and one more at most; at the end every member has been told of exactly once, and the
session is cleared. What was news to the requester has been stored as it was told, and is not taken
back. -/
theorem exchange_completes {node requester responder : Swim} {command : Command}
    {happenings : List Happening} (reached : Reached node) (known : Reached responder)
    (ready : command.Ready False node) (opens : Opens responder node command requester request)
    (fair : Run.Meets perform Fairly (some (begun requester responder request)) happenings)
    (leads : Run.final perform (some (begun requester responder request)) happenings =
      some after) :
    after.cursors.Pairwise (· < ·) ∧
    after.rounds.length ≤ (responder.table.members.length + 14) / 15 + 1 ∧
    (after.rounds.length = (responder.table.members.length + 14) / 15 + 1 → after.wire = none) ∧
    after.sent <+: responder.table.members.map Member.event ∧
    (after.wire = none → after.sent = responder.table.members.map Member.event ∧
      after.requester.sync = none) ∧
    ∀ round ∈ after.rounds, ∀ event ∈ round.response.events, round.before.Publishes event →
      round.after.table.get event.nodeId = some event.member ∧
      ∃ member, after.requester.table.get event.nodeId = some member ∧
        event.incarnation ≤ member.incarnation := by
  have capacity : responder.table.capacity = responder.config.maxNodes :=
    known.upright.sound.capacity
  have underway := run_underway (begun_underway reached known ready opens) capacity
    known.upright.sound.own fair leads
  have whole := passed_row capacity
  have inside : position (begun requester responder request) after ≤ responder.config.maxNodes := by
    have fits := underway.fits
    unfold position
    split <;> rename_i wire <;> rw [wire] at fits
    · exact le_rfl
    · exact fits.below.le
    · exact fits.1.below.le
  have front : told (begun requester responder request) after <+: responder.table.members := by
    rw [← whole]
    exact Cursor.passed_prefix inside
  have few := underway.few
  have short := front.length_le
  refine ⟨(List.pairwise_append.mp underway.cursors).1, ?_, fun last => ?_, ?_, fun ended => ?_,
    fun round listed event among news => ?_⟩
  · split at few <;> omega
  · by_contra going
    rw [if_neg (by simpa using going)] at few
    omega
  · rw [underway.sent]
    exact front.map _
  · have fits := underway.fits
    have sent := underway.sent
    rw [told, position, ended] at sent
    rw [ended] at fits
    exact ⟨sent.trans (congrArg _ whole), fits⟩
  · have kept := underway.rounds round listed
    have stored := kept.stored event among news
    refine ⟨stored, ?_⟩
    obtain ⟨member, held, le⟩ := kept.since.members event.nodeId event.member stored
    exact ⟨member, held, le⟩

/-! ### A node that joins a cluster -/

/-- The message arrives; this can be computed. -/
def arrives? (sender receiver : Swim) (message : Message) : Bool :=
  !decide (receiver.misplaced sender.config.address message) &&
    match sender.encodeOutgoing message with
    | .error _ => true
    | .ok bytes =>
        match receive bytes receiver with
        | .done taken _ => taken = some message
        | _ => false

theorem arrives_of_check {sender receiver : Swim} {message : Message}
    (check : arrives? sender receiver message = true) : Arrives sender receiver message := by
  rw [arrives?, Bool.and_eq_true] at check
  refine ⟨by simpa using check.1, fun bytes encoded => ?_⟩
  have taken := check.2
  rw [encoded] at taken
  simp only at taken
  split at taken
  · rename_i answer next received
    rw [decide_eq_true_eq] at taken
    exact ⟨next, taken ▸ received⟩
  · cases taken

/-- There is room for every event in its turn. -/
def roomy? (now sender : Nat) : List Event → Swim → Bool
  | [], _ => true
  | event :: events, swim => decide (swim.table.Room event.nodeId) &&
      match applyEventFrom now event (some sender) swim with
      | .done _ next => roomy? now sender events next
      | _ => true

theorem turns_of_check {sender : Nat} {events : List Event} {swim : Swim}
    (check : roomy? now sender events swim = true) :
    Turns (Ready False) (fun event => applyEventFrom now event (some sender)) events swim := by
  induction events generalizing swim with
  | nil => trivial
  | cons event events ih =>
      rw [roomy?, Bool.and_eq_true, decide_eq_true_eq] at check
      refine ⟨⟨fun _ => check.1, False.elim⟩, fun next answer => ih ?_⟩
      have rest := check.2
      replace answer : applyEventFrom now event (some sender) swim = .done () next := answer
      rwa [answer] at rest

/-- The delivery is fair; this can be computed. -/
def fair? (exchange : Option Exchange) (happening : Happening) : Bool :=
  match exchange, happening with
  | some exchange, .deliver now =>
      match exchange.wire with
      | none => true
      | some (.asks request) => arrives? exchange.requester exchange.responder request &&
          (convey now exchange.requester exchange.responder request).all fun node =>
            node.table.members = exchange.responder.table.members
      | some (.tells _ response) => arrives? exchange.responder exchange.requester response &&
          match exchange.responder.encodeOutgoing response with
          | .error _ => true
          | .ok bytes =>
              match receive bytes exchange.requester with
              | .done (some message) next => roomy? now message.sender message.events next
              | _ => true
  | _, _ => false

theorem fairly_of_check {exchange : Option Exchange}
    (check : fair? exchange happening = true) : Fairly exchange happening := by
  rintro exchange rfl
  cases happening with
  | requester command => cases check
  | responder command => cases check
  | deliver now =>
      simp only [Fair]
      simp only [fair?] at check
      split at check
      · trivial
      · rw [Bool.and_eq_true] at check
        refine ⟨arrives_of_check check.1, fun node conveyed => ?_⟩
        have same := check.2
        rw [conveyed] at same
        simpa using same
      · rw [Bool.and_eq_true] at check
        refine ⟨arrives_of_check check.1, fun bytes encoded message next received _ => ?_⟩
        have room := check.2
        simp only [encoded, received] at room
        exact turns_of_check room

/-- A node that knows nobody, and the seed that it asks. -/
def joining : Config where
  nodeId := 1
  address := .ip4 1 7946
  maxNodes := 18

def seed : Config where
  nodeId := 2
  address := .ip4 2 7946
  maxNodes := 18

/-- The seed knows sixteen nodes, and the joining one is among them. -/
def acquaintances : List Command :=
  (1 :: (List.range 15).map (· + 3)).map fun nodeId => .addPeer nodeId (.ip4 (Fin.ofNat _ nodeId) 7946)

def fresh (config : Config) : Option Swim := init config (fun _ _ => []) (fun _ => 0) fun _ => true

def seeded : Option Swim := Run.final Swim.perform (fresh seed) acquaintances

/-- The exchange as the seed has been asked. -/
def joined : Option Exchange :=
  match fresh joining, seeded with
  | some node, some responder =>
      match joinSeed seed.address node with
      | .done _ requester => (posted node requester).head?.map fun outgoing =>
          begun requester responder outgoing.message
      | _ => none
  | _, _ => none

def roomyPeer? (swim : Option Swim) (command : Command) : Bool :=
  match swim, command with
  | some node, .addPeer nodeId _ => node.table.Room nodeId
  | _, _ => false

theorem reached_of_peers {config : Config} {commands : List Command} {first node : Swim}
    (starts : fresh config = some first)
    (room : Run.Meets Swim.perform (fun swim command => roomyPeer? swim command = true) (some first)
      commands)
    (leads : Run.final Swim.perform (some first) commands = some node)
    (adds : ∀ command ∈ commands, command.Adds) : Reached node := by
  refine ⟨config, _, _, _, first, commands, starts, ?_, room.mono ?_, leads⟩
  · exact List.pairwise_of_forall_mem_list fun command listed _ _ _ => adds command listed
  · rintro swim command check node rfl
    cases command with
    | addPeer nodeId address =>
        have room : node.table.Room nodeId := by simpa [roomyPeer?] using check
        exact room
    | _ => cases check

theorem peer_adds : ∀ command ∈ acquaintances, command.Adds := by
  intro command listed
  obtain ⟨nodeId, -, rfl⟩ := List.mem_map.mp listed
  trivial

/-- What there is when the seed has been asked. -/
structure Joined (node requester responder : Swim) (request : Message) : Prop where
  reached : Reached node
  known : Reached responder
  opens : Opens responder node (.joinSeed responder.config.address) requester request
  joined : joined = some (begun requester responder request)

theorem exists_joined : ∃ node requester responder request,
    Joined node requester responder request := by
  obtain ⟨node, alone⟩ := Option.isSome_iff_exists.mp (by decide +kernel : (fresh joining).isSome)
  obtain ⟨first, starts⟩ := Option.isSome_iff_exists.mp (by decide +kernel : (fresh seed).isSome)
  obtain ⟨responder, leads⟩ := Option.isSome_iff_exists.mp (by decide +kernel : seeded.isSome)
  obtain ⟨exchange, begins⟩ := Option.isSome_iff_exists.mp (by decide +kernel : joined.isSome)
  have room : Run.Meets Swim.perform (fun swim command => roomyPeer? swim command = true)
      (fresh seed) acquaintances := by decide +kernel
  have address : seeded.map (fun swim => swim.config.address) = some seed.address := by
    decide +kernel
  rw [leads, Option.map_some, Option.some.injEq] at address
  have known : Reached responder := by
    rw [seeded, starts] at leads
    rw [starts] at room
    exact reached_of_peers starts room leads peer_adds
  have steps := begins
  simp only [joined, alone, leads] at steps
  cases answer : joinSeed seed.address node with
  | failed | trapped => simp [answer] at steps
  | done value requester =>
      simp only [answer] at steps
      obtain ⟨outgoing, first, rfl⟩ := Option.map_eq_some_iff.mp steps
      rw [← address] at answer
      obtain ⟨request, asking⟩ := joinSeed_asking answer
      have posts := posted_append asking.outbox
      rw [posts, List.head?_cons, Option.some.injEq] at first
      subst first
      exact ⟨node, requester, responder, request, {
        reached := @reached_of_peers joining [] node node alone trivial rfl (by simp)
        known := known
        opens := .joinSeed answer posts
        joined := begins }⟩

/-- The joining node gets to know all that the seed knows, in two parts. -/
theorem exchange_completes_seed : ∃ node requester responder request after,
    Joined node requester responder request ∧
      Run.final perform (some (begun requester responder request))
        [.deliver 50, .deliver 100, .deliver 150, .deliver 200] = some after ∧
      after.wire = none ∧ after.sent = responder.table.members.map Member.event ∧
      after.requester.sync = none := by
  obtain ⟨node, requester, responder, request, joins⟩ := exists_joined
  have fair : Run.Meets perform (fun exchange happening => fair? exchange happening = true) joined
      [.deliver 50, .deliver 100, .deliver 150, .deliver 200] := by decide +kernel
  have ends : (Run.final perform joined [.deliver 50, .deliver 100, .deliver 150, .deliver 200]).map
      (fun exchange => exchange.wire.isNone) = some true := by decide +kernel
  rw [joins.joined] at fair ends
  obtain ⟨after, leads, ended⟩ := Option.map_eq_some_iff.mp ends
  rw [Option.isNone_iff_eq_none] at ended
  have ready : (Command.joinSeed responder.config.address).Ready False node := trivial
  have whole := (exchange_completes joins.reached joins.known ready joins.opens
    (fair.mono fun _ _ => fairly_of_check) leads).2.2.2.2.1 ended
  exact ⟨node, requester, responder, request, after, joins, leads, ended, whole⟩

/-- A node that has been up for a while joins: the deadline of its session is in the past, and the
next tick drops the session, before the response is there. The last member is never asked for. -/
theorem exchange_breaks_off : ∃ node requester responder request after,
    Joined node requester responder request ∧
      Run.final perform (some (begun requester responder request))
        [.deliver 100050, .requester (.tick 100100), .deliver 100150] = some after ∧
      after.wire = none ∧ after.responder.table.members = responder.table.members ∧
      after.sent.length = 15 ∧ responder.table.members.length = 16 ∧
      (responder.table.get 17).isSome ∧ after.requester.table.get 17 = none := by
  obtain ⟨node, requester, responder, request, joins⟩ := exists_joined
  have ends : (Run.final perform joined
      [.deliver 100050, .requester (.tick 100100), .deliver 100150]).map (fun exchange =>
        decide (exchange.wire.isNone ∧ exchange.sent.length = 15 ∧
          exchange.requester.table.get 17 = none)) = some true := by decide +kernel
  have members : (joined.map fun exchange => exchange.responder.table.members) =
      (Run.final perform joined [.deliver 100050, .requester (.tick 100100), .deliver 100150]).map
        fun exchange => exchange.responder.table.members := by decide +kernel
  have knows : (joined.map fun exchange => decide (exchange.responder.table.members.length = 16 ∧
      (exchange.responder.table.get 17).isSome)) = some true := by decide +kernel
  rw [joins.joined] at ends members knows
  obtain ⟨after, leads, ended⟩ := Option.map_eq_some_iff.mp ends
  rw [leads, Option.map_some, Option.map_some, Option.some.injEq] at members
  rw [Option.map_some, Option.some.injEq, decide_eq_true_eq] at knows
  rw [decide_eq_true_eq, Option.isNone_iff_eq_none] at ended
  exact ⟨node, requester, responder, request, after, joins, leads, ended.1, members.symm, ended.2.1,
    knows.1, knows.2, ended.2.2⟩

end Exchange

end Swim

end LyuneGateway.Membership
