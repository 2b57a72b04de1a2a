import LyuneGateway.Lib.Cursor
import LyuneGateway.Membership.Sending

/-!
# One part of a view

A view is sent in parts: each has the event of the node itself, and as many
members as there is room for besides. Whoever has asked for the part merges it,
and asks for the next one unless it was the last.
-/

namespace LyuneGateway.Membership

open Faulty

/-- What a node says of a member that it knows. -/
def Member.event (member : Member) : Event where
  nodeId := member.nodeId
  status := member.status
  incarnation := member.incarnation
  address := member.address

namespace Table

variable {table other : Table} {member : Member}

theorem mem_members :
    member ∈ table.members ↔ table.get member.nodeId = some member := by
  constructor
  · intro listed
    obtain ⟨nodeId, -, held⟩ := List.mem_filterMap.mp listed
    rwa [get_nodeId held]
  · intro held
    exact List.mem_filterMap.mpr ⟨_, List.mem_range.mpr (get_valid held).2, held⟩

/-- Tables with the same members have the same records. -/
theorem get_of_members (same : table.members = other.members) (nodeId : Nat) :
    table.get nodeId = other.get nodeId := by
  have moves : ∀ {one two : Table}, one.members = two.members → ∀ member,
      one.get nodeId = some member → two.get nodeId = some member := by
    intro one two same member held
    have self := get_nodeId held
    subst self
    exact mem_members.mp (same ▸ mem_members.mpr held)
  ext member
  exact ⟨moves same member, moves same.symm member⟩

theorem members_distinct (table : Table) : (table.members.map Member.nodeId).Nodup := by
  have ascending : table.members.Pairwise fun first second => first.nodeId < second.nodeId := by
    refine List.Pairwise.filterMap _ (fun low high less one held two held' => ?_)
      List.pairwise_lt_range
    rw [get_nodeId held, get_nodeId held']
    exact less
  exact List.Pairwise.map _ (fun _ _ => Nat.ne_of_lt) ascending

end Table

namespace Swim

variable {swim after : Swim} {now cursor next : Nat} {source : Address} {message : Message}
  {event : Event} {events : List Event} {entries : List Member}

/-! ## What is sent -/

/-- The places of the view, in the order that a cursor comes by them. -/
def row (swim : Swim) : List (Option Member) := (List.range swim.config.maxNodes).map swim.table.get

theorem row_get (below : cursor < swim.config.maxNodes) :
    swim.row[cursor]? = some (swim.table.get cursor) := by
  simp [row, below]

/-- At the end, the cursor has come by all members. -/
theorem passed_row (capacity : swim.table.capacity = swim.config.maxNodes) :
    Cursor.passed swim.row swim.config.maxNodes = swim.table.members := by
  rw [Cursor.passed, List.take_of_length_le (by simp [row]), row, Table.members, capacity,
    List.reduceOption, List.filterMap_map]
  rfl

/-- Between two positions of the cursor there are these entries; they fill the room, unless the
cursor has come to the end. -/
structure Part (swim : Swim) (room cursor : Nat) (entries : List Member) (next : Nat) : Prop where
  passes : Cursor.passed swim.row next = Cursor.passed swim.row cursor ++ entries
  inside : cursor ≤ swim.config.maxNodes → next ≤ swim.config.maxNodes
  full : next < swim.config.maxNodes → entries.length = room
  few : entries.length ≤ room
  moves : cursor < swim.config.maxNodes → 0 < room → cursor < next

theorem syncChunk_eq {fuel : Nat} (few : events.length ≤ maxEvents)
    (enough : swim.config.maxNodes - cursor < fuel) :
    ∃ entries next, syncChunk fuel cursor events swim =
        .done (events ++ entries.map Member.event, next) swim ∧ cursor ≤ next ∧
      Part swim (maxEvents - events.length) cursor entries next := by
  induction fuel generalizing cursor events with
  | zero => omega
  | succ fuel ih =>
      rw [syncChunk, self_bind]
      by_cases more : cursor < swim.config.maxNodes ∧ events.length < maxEvents
      · have narrow := swim.config.narrow
        have step := Cursor.passed_succ (row_get more.1)
        rw [ite_pos more, require_bind (by omega)]
        cases held : swim.table.get cursor with
        | none =>
            rw [held, Option.toList_none, List.append_nil] at step
            obtain ⟨entries, next, answer, forward, part⟩ :=
              @ih (cursor + 1) events few (by omega)
            refine ⟨entries, next, answer, by omega, ?_⟩
            exact {
              passes := part.passes.trans (by rw [step])
              inside := fun _ => part.inside more.1
              full := part.full
              few := part.few
              moves := fun _ _ => forward }
        | some member =>
            rw [held, Option.toList_some] at step
            obtain ⟨entries, next, answer, forward, part⟩ :=
              @ih (cursor + 1) (events ++ [member.event]) (by simp; omega) (by omega)
            have room : (events ++ [member.event]).length = events.length + 1 := by simp
            refine ⟨member :: entries, next, ?_, by omega, ?_⟩
            · rw [List.map_cons, ← List.singleton_append, ← List.append_assoc]
              exact answer
            · have full := part.full
              have few := part.few
              exact {
                passes := by rw [part.passes, step, List.append_assoc, List.singleton_append]
                inside := fun _ => part.inside more.1
                full := fun below => by
                  rw [List.length_cons, full below]
                  omega
                few := by
                  rw [List.length_cons]
                  omega
                moves := fun _ _ => forward }
      · refine ⟨[], cursor, ?_, le_rfl, ?_⟩
        · rw [ite_neg more, List.map_nil, List.append_nil]
          rfl
        · exact {
            passes := (List.append_nil _).symm
            inside := id
            full := fun below => by
              rw [List.length_nil]
              omega
            few := Nat.zero_le _
            moves := fun below _ => by omega }

/-- What has been added to the outbox. -/
def posted (before after : Swim) : List Outgoing := after.outbox.drop before.outbox.length

theorem post_done {recipient : Address} (answer : post recipient message swim = .done () after) :
    after = { swim with
      allocations := swim.allocations + 1
      outbox := swim.outbox ++ [{ recipient := recipient, message := message }] } := by
  obtain ⟨_, middle, granted, rest⟩ := of_bind_done answer
  simp only [allocate] at granted
  split at granted
  · cases granted
    cases rest
    rfl
  · cases granted

/-- The answer to a request for a part of the view. -/
def response (swim : Swim) (seq : Nat) (entries : List Member) (next : Nat) : Message where
  type := .sync
  sender := swim.config.nodeId
  seq := seq
  target := next
  flags := if next < swim.config.maxNodes then syncMoreFlag else 0
  events := swim.currentSelfEvent :: entries.map Member.event

theorem answerSync_done (answer : answerSync source message swim = .done () after) :
    ∃ entries next, Part swim (maxEvents - 1) message.target entries next ∧
      after.table = swim.table ∧ after.outbox = swim.outbox ++ [{
        recipient := source
        message := swim.response message.seq entries next }] := by
  rw [answerSync, self_bind] at answer
  obtain ⟨entries, next, chunk, -, part⟩ := @syncChunk_eq swim message.target
    [swim.currentSelfEvent] (swim.config.maxNodes + 1) (by simp [maxEvents])
    (by omega)
  rw [bind_done chunk] at answer
  cases post_done answer
  exact ⟨entries, next, part, rfl, rfl⟩

/-- A request for the part of the view from a position on. -/
def request (swim : Swim) (cursor : Nat) : Message where
  type := .sync
  sender := swim.config.nodeId
  seq := (swim.seqCounter + 1) % 2 ^ 32
  target := cursor
  flags := syncRequestFlag
  events := [swim.currentSelfEvent]

theorem sendSyncRequest_done {recipient : Address}
    (answer : sendSyncRequest recipient cursor swim = .done () after) :
    after.outbox = swim.outbox ++ [{
        recipient := recipient
        message := swim.request cursor }] ∧
      after.sync = swim.sync ∧ after.table = swim.table := by
  cases @post_done { swim with seqCounter := (swim.seqCounter + 1) % 2 ^ 32 } after _ recipient answer
  exact ⟨rfl, rfl, rfl⟩

/-! ## Merging sends nothing -/

def Silent {α : Type} (act : Act α) : Prop :=
  ∀ outbox : List Outgoing, Keeps (fun _ => True) (fun swim => swim.outbox = outbox) act

theorem silent_modify {change : Swim → Swim}
    (same : ∀ swim, (change swim).outbox = swim.outbox) : Silent (modify change) :=
  fun _ => Keeps.modify fun swim holds => (same swim).trans holds

theorem keeps_add64 {holds : Swim → Prop} {a b : Nat} : Keeps (fun _ => True) holds (add64 a b) :=
  Keeps.bind (Keeps.require (.inl trivial)) fun _ => Keeps.pure

theorem keeps_mul64 {holds : Swim → Prop} {a b : Nat} : Keeps (fun _ => True) holds (mul64 a b) :=
  Keeps.bind (Keeps.require (.inl trivial)) fun _ => Keeps.pure

theorem add64_done {a b value : Nat} (answer : add64 a b swim = .done value after) :
    after = swim := by
  have keeps : Keeps (fun _ => True) (· = swim) (add64 a b) := keeps_add64
  have kept := Keeps.of_done keeps rfl answer
  exact kept

theorem scaledProtocolPeriod_done {value : Nat}
    (answer : scaledProtocolPeriod swim = .done value after) : after = swim := by
  have keeps : Keeps (fun _ => True) (· = swim) scaledProtocolPeriod :=
    Keeps.bind Keeps.self fun _ => keeps_mul64
  have kept := Keeps.of_done keeps rfl answer
  exact kept

theorem silent_suspicionTimeout : Silent suspicionTimeout :=
  fun _ => Keeps.bind Keeps.self fun _ => Keeps.bind keeps_mul64 fun _ =>
    Keeps.bind keeps_mul64 fun _ => keeps_mul64

theorem silent_penalizeHealth : Silent penalizeHealth := by
  apply silent_modify
  intro swim
  split <;> rfl

theorem silent_noteIdentityConflict {nodeId : Nat} {expected observed : Address} :
    Silent (noteIdentityConflict nodeId expected observed) := by
  intro outbox
  apply Keeps.ite (fun _ => Keeps.pure)
  intro _
  refine Keeps.bind (silent_modify ?_ outbox) fun _ => Keeps.pure
  intro swim
  split <;> rfl

theorem silent_queueGossip : Silent (queueGossip event) := by
  intro outbox
  apply Keeps.bind
  · exact Keeps.bind Keeps.self fun _ => Keeps.bind (Keeps.require (.inl trivial)) fun _ => Keeps.pure
  intro _
  apply Keeps.bind Keeps.read
  intro _
  apply Keeps.bind
  · apply Keeps.when
    intro _ swim same
    simp only [allocate]
    split <;> exact same
  · exact fun _ => Keeps.modify fun _ => id

theorem silent_handleSelfEvent : Silent (handleSelfEvent event) := by
  intro outbox
  apply Keeps.bind Keeps.self
  intro _
  apply Keeps.ite (fun _ => Keeps.pure)
  intro _
  apply Keeps.bind (Keeps.when fun _ => silent_penalizeHealth outbox)
  intro _
  apply Keeps.when
  intro _
  apply Keeps.bind (Keeps.require (.inl trivial))
  intro _
  refine Keeps.bind (Keeps.modify fun _ same => ?_) fun _ => ?_
  · exact same
  · exact Keeps.bind Keeps.self fun _ => silent_queueGossip outbox

theorem silent_confirmSuspicion {nodeId source : Nat} :
    Silent (confirmSuspicion now nodeId source) := by
  intro outbox
  apply Keeps.bind Keeps.read
  intro suspicions
  cases suspicions nodeId with
  | none => exact fun _ _ => trivial
  | some suspicion =>
      apply Keeps.ite (fun _ => Keeps.pure)
      intro _
      apply Keeps.bind Keeps.self
      intro _
      apply Keeps.bind (silent_suspicionTimeout outbox)
      intro _
      apply Keeps.bind (Keeps.require (.inl trivial))
      intro _
      apply Keeps.bind keeps_add64
      exact fun _ => silent_modify (fun _ => rfl) outbox

theorem silent_trackSuspicion {nodeId source : Nat} {status : Control.NodeStatus} :
    Silent (trackSuspicion now nodeId status source) := by
  intro outbox
  apply Keeps.ite
  · intro _
    apply Keeps.bind Keeps.read
    intro _
    apply Keeps.bind
    · apply Keeps.when
      intro _
      apply Keeps.bind (silent_suspicionTimeout outbox)
      intro _
      apply Keeps.bind keeps_add64
      exact fun _ => silent_modify (fun _ => rfl) outbox
    · exact fun _ => silent_confirmSuspicion outbox
  · exact fun _ => silent_modify (fun _ => rfl) outbox

theorem silent_upsert {member : Member} : Silent (onTable (Table.upsert member)) := by
  rintro outbox swim rfl
  simp only [onTable, zoom]
  cases Table.upsert member swim.table with
  | done result table => rfl
  | failed table => rfl
  | trapped fault => trivial

theorem silent_applyEventFrom {source : Option Nat} : Silent (applyEventFrom now event source) := by
  intro outbox
  apply Keeps.bind Keeps.self
  intro swim
  apply Keeps.ite
  · intro _
    apply Keeps.bind (silent_noteIdentityConflict outbox)
    exact fun _ => Keeps.ite (fun _ => Keeps.pure) fun _ => silent_handleSelfEvent outbox
  intro _
  apply Keeps.ite (fun _ => Keeps.pure)
  intro _
  apply Keeps.bind Keeps.read
  intro current
  apply Keeps.bind
  · cases current with
    | none => exact Keeps.pure
    | some member => exact silent_noteIdentityConflict outbox
  intro _
  apply Keeps.ite (fun _ => Keeps.pure)
  intro _
  apply Keeps.ite
  · intro _
    apply Keeps.bind (silent_upsert outbox)
    intro _
    apply Keeps.bind Keeps.read
    intro _
    apply Keeps.bind (silent_trackSuspicion outbox)
    intro _
    apply Keeps.bind (silent_queueGossip outbox)
    exact fun _ => silent_modify (fun _ => rfl) outbox
  · intro _
    cases source with
    | none => exact Keeps.pure
    | some source =>
        cases current with
        | none => exact Keeps.pure
        | some member => exact Keeps.when fun _ => silent_confirmSuspicion outbox

/-- The events of a message are merged, one after the other. -/
def merge (now sender : Nat) (events : List Event) : Act Unit :=
  each (fun event => applyEventFrom now event (some sender)) events

theorem merge_outbox {sender : Nat} (answer : merge now sender events swim = .done () after) :
    after.outbox = swim.outbox := by
  have silent : Silent (merge now sender events) :=
    fun outbox => Keeps.each fun _ _ => silent_applyEventFrom outbox
  have kept := Keeps.of_done (silent swim.outbox) rfl answer
  exact kept

theorem bounds_merge {rest : Aside} {sender : Nat} (fits : ∀ event ∈ events, event.Fits) :
    Bounds rest (merge now sender events) :=
  Keeps.each fun event listed => bounds_applyEventFrom (fits event listed)

/-! ## What merging stores -/

theorem spares_handleSelfEvent : Spares (handleSelfEvent event) := by
  intro table config
  apply Keeps.bind Keeps.self
  intro _
  apply Keeps.ite (fun _ => Keeps.pure)
  intro _
  apply Keeps.bind
  · apply Keeps.when
    intro _
    apply Keeps.modify
    intro swim same
    split <;> exact same
  intro _
  apply Keeps.when
  intro _
  apply Keeps.bind (Keeps.require (.inl trivial))
  intro _
  refine Keeps.bind (Keeps.modify fun _ same => ?_) fun _ => ?_
  · exact same
  · exact Keeps.bind Keeps.self fun _ => spares_queueGossip table config

/-- What a node hears of itself is not stored. -/
theorem spares_own {source : Option Nat} (own : event.nodeId = swim.config.nodeId)
    (answer : applyEventFrom now event source swim = .done () after) :
    after.table = swim.table ∧ after.config = swim.config := by
  rw [applyEventFrom, self_bind, ite_pos own] at answer
  have spares : Spares (do
      let conflict ← noteIdentityConflict event.nodeId swim.config.address event.address
      if conflict then pure () else handleSelfEvent event) := by
    intro table config
    apply Keeps.bind
    · apply Keeps.ite (fun _ => Keeps.pure)
      intro _
      refine Keeps.bind (Keeps.modify fun state same => ?_) fun _ => Keeps.pure
      split <;> exact same
    · exact fun _ => Keeps.ite (fun _ => Keeps.pure) fun _ => spares_handleSelfEvent table config
  have kept := spares swim.table swim.config swim ⟨rfl, rfl⟩
  rw [answer] at kept
  exact kept

/-- The record of one node, the settings, and the room of the table are the same. -/
structure Alike (nodeId : Nat) (before after : Swim) : Prop where
  config : after.config = before.config
  capacity : after.table.capacity = before.table.capacity
  held : after.table.get nodeId = before.table.get nodeId

theorem Alike.trans {nodeId : Nat} {middle : Swim} (first : Alike nodeId swim middle)
    (second : Alike nodeId middle after) : Alike nodeId swim after where
  config := second.config.trans first.config
  capacity := second.capacity.trans first.capacity
  held := second.held.trans first.held

theorem Alike.publishes (alike : Alike event.nodeId swim after) :
    after.Publishes event ↔ swim.Publishes event := by
  rw [Publishes, Publishes, alike.config, alike.held]

/-- An event about another node leaves the record of a node alone. -/
theorem applyEventFrom_alike {nodeId : Nat} {source : Option Nat} (other : event.nodeId ≠ nodeId)
    (capacity : swim.table.capacity = swim.config.maxNodes)
    (answer : applyEventFrom now event source swim = .done () after) : Alike nodeId swim after := by
  by_cases own : event.nodeId = swim.config.nodeId
  · obtain ⟨table, config⟩ := spares_own own answer
    exact {
      config := config
      capacity := by rw [table]
      held := by rw [table] }
  have stores := @applyEventFrom_stores now swim event source own capacity
  rw [answer] at stores
  refine {
    config := stores.config
    capacity := stores.capacity
    held := ?_ }
  by_cases news : swim.Publishes event
  · rw [Table.get_congr (stores.news news) stores.capacity]
    exact Table.get_written_ne (Ne.symm other)
  · exact Table.get_congr (stores.old news) stores.capacity nodeId

theorem applyEventFrom_takes {source : Option Nat}
    (capacity : swim.table.capacity = swim.config.maxNodes)
    (answer : applyEventFrom now event source swim = .done () after) (news : swim.Publishes event)
    (room : swim.table.Room event.nodeId) :
    after.config = swim.config ∧ after.table.capacity = swim.table.capacity ∧
      after.table.get event.nodeId = some event.member := by
  have stores := @applyEventFrom_stores now swim event source news.1 capacity
  rw [answer] at stores
  refine ⟨stores.config, stores.capacity, ?_⟩
  rw [Table.get_congr (stores.news news) stores.capacity]
  exact Table.get_written_self ⟨news.2.1, capacity ▸ news.2.2.1⟩ room

theorem merge_alike {nodeId sender : Nat} (others : ∀ event ∈ events, event.nodeId ≠ nodeId)
    (capacity : swim.table.capacity = swim.config.maxNodes)
    (answer : merge now sender events swim = .done () after) : Alike nodeId swim after := by
  induction events generalizing swim with
  | nil =>
      cases answer
      exact ⟨rfl, rfl, rfl⟩
  | cons event events ih =>
      obtain ⟨_, middle, first, rest⟩ := of_bind_done answer
      have alike := applyEventFrom_alike (others event List.mem_cons_self) capacity first
      refine alike.trans (ih (fun other listed => others other (List.mem_cons_of_mem _ listed)) ?_
        rest)
      rw [alike.capacity, alike.config, capacity]

/-- Of events about different nodes, everyone that is news is stored as it is told. -/
theorem merge_takes {sender : Nat} (distinct : (events.map Event.nodeId).Nodup)
    (capacity : swim.table.capacity = swim.config.maxNodes)
    (answer : merge now sender events swim = .done () after)
    (turns : Turns (Ready False) (fun event => applyEventFrom now event (some sender)) events swim)
    (listed : event ∈ events) (news : swim.Publishes event) :
    after.table.get event.nodeId = some event.member := by
  induction events generalizing swim with
  | nil => cases listed
  | cons first events ih =>
      obtain ⟨_, middle, begins, rest⟩ := of_bind_done answer
      obtain ⟨fresh, distinct⟩ := List.nodup_cons.mp distinct
      obtain rfl | later := List.mem_cons.mp listed
      · obtain ⟨config, same, held⟩ :=
          applyEventFrom_takes capacity begins news (turns.1.room news)
        have others : ∀ other ∈ events, other.nodeId ≠ event.nodeId :=
          fun other among twice => fresh (List.mem_map.mpr ⟨other, among, twice⟩)
        rw [(merge_alike others (by rw [same, config, capacity]) rest).held, held]
      · have other : first.nodeId ≠ event.nodeId :=
          fun twice => fresh (List.mem_map.mpr ⟨event, later, twice.symm⟩)
        have alike := applyEventFrom_alike other capacity begins
        exact ih distinct (by rw [alike.capacity, alike.config, capacity]) rest
          (turns.2 middle begins) later (alike.publishes.mpr news)

/-! ## What follows a part -/

/-- After a part that was not the last, the next one is asked for; else the exchange is over. -/
theorem continueSync_done {session : SyncSession}
    (answer : continueSync now source message session swim = .done () after) :
    after.table = swim.table ∧
      if message.flags / syncMoreFlag % 2 = 1 then
        after.outbox = swim.outbox ++ [{
          recipient := source
          message := swim.request message.target }] ∧
        ∃ deadline, after.sync = some {
          peer := if session.peer = 0 then message.sender else session.peer
          nextId := message.target
          deadline := deadline }
      else after.outbox = swim.outbox ∧ after.sync = none := by
  obtain ⟨period, _, scaled, answer⟩ := of_bind_done answer
  obtain ⟨deadline, _, added, answer⟩ := of_bind_done answer
  cases scaledProtocolPeriod_done scaled
  cases add64_done added
  by_cases more : message.flags / syncMoreFlag % 2 = 1
  · rw [ite_pos more, modify_bind] at answer
    obtain ⟨outbox, session', table⟩ := sendSyncRequest_done answer
    rw [if_pos more]
    refine ⟨table, outbox, deadline, session'.trans ?_⟩
    split <;> rfl
  · rw [ite_neg more, modify_apply] at answer
    cases answer
    rw [if_neg more]
    exact ⟨rfl, rfl, rfl⟩

end Swim

end LyuneGateway.Membership
