import LyuneGateway.Lib.Run
import LyuneGateway.Membership.Rounds

/-!
# The life of a node

Peers are added before the node hears or does anything; then the clock, messages,
joining, and leaving follow in any order. As long as no number comes to the end
of its range, every state is sound, and no incarnation is ever taken back.
-/

namespace LyuneGateway.Membership

open Control (NodeStatus)
open Faulty

namespace Swim

variable {strict : Prop} {start : View} {now nodeId : Nat} {swim : Swim}

inductive Command where
  | addPeer (nodeId : Nat) (address : Address)
  | tick (now : Nat)
  | message (now : Nat) (source : Address) (bytes : Bytes)
  | joinSeed (address : Address)
  | leave
  | clearOutgoing

namespace Command

def run : Command → Act Unit
  | addPeer nodeId address => Swim.addPeer nodeId address
  | tick now => Swim.tick now
  | message now source bytes => handleMessage now source bytes
  | joinSeed address => Swim.joinSeed address
  | leave => Swim.leave
  | clearOutgoing => Swim.clearOutgoing

/-- The command adds a peer. -/
def Adds : Command → Prop
  | addPeer .. => True
  | _ => False

/-- The clock is far from the end of its range. -/
def Early : Command → Prop
  | tick now => now < 2 ^ 63
  | message now .. => now < 2 ^ 63
  | _ => True

/-- The command meets no end of a range. -/
def Ready (strict : Prop) (swim : Swim) : Command → Prop
  | addPeer nodeId _ => swim.table.Room nodeId
  | tick now => ReadyToTick now swim
  | message now source bytes => ReadyToHear strict now source bytes swim
  | leave => strict → swim.hasLeft = false → swim.incarnation + 1 < 2 ^ 32
  | _ => True

end Command

/-- Nothing has been heard of any member. -/
structure Fresh (swim : Swim) : Prop where
  members : ∀ nodeId member, swim.table.get nodeId = some member →
    member.status = .alive ∧ member.incarnation = 0
  suspicions : ∀ nodeId, swim.suspicions nodeId = none

/-! ## One command -/

theorem joinSeed_keeps {address : Address} (moderate : strict → start.config.Moderate) :
    Kept strict start (joinSeed address) := by
  intro swim stands
  refine meets_bind (meets_sure (scaledProtocolPeriod_meets moderate stands)) ?_
  rintro deadline _ ⟨rfl, -⟩
  rw [modify_bind]
  apply quiet_sendSyncRequest.kept
  exact stands.of_view rfl rfl

theorem leave_keeps (moderate : strict → start.config.Moderate) (stands : Holds strict start swim)
    (ready : strict → swim.hasLeft = false → swim.incarnation + 1 < 2 ^ 32) :
    (leave swim).Meets (Tolerated strict) (fun _ => Holds strict start) (Holds strict start) := by
  rw [leave, self_bind]
  apply meets_ite
  · exact fun _ => stands
  · intro stays
    rw [modify_bind, self_bind]
    have higher : strict → swim.incarnation ≤ (swim.incarnation + 1) % 2 ^ 32 := by
      intro counting
      have room := ready counting (by simpa using stays)
      rw [Nat.mod_eq_of_lt room]
      exact Nat.le_succ _
    have leaving : Holds strict start { swim with
        hasLeft := true
        incarnation := (swim.incarnation + 1) % 2 ^ 32 } :=
      (stands.withIncarnation higher).of_view rfl rfl
    apply meets_bind (kept_queueGossip moderate _ leaving)
    intro _
    apply Quiet.kept
    exact Quiet.each fun _ => quiet_send

/-- A peer is added with the incarnation that all members have as yet. -/
theorem addPeer_meets {address : Address} (upright : Upright swim) (fresh : Fresh swim)
    (room : swim.table.Room nodeId) :
    (addPeer nodeId address swim).Meets (Tolerated strict)
      (fun _ after => Holds strict swim.view after ∧ Fresh after) (· = swim) := by
  rw [addPeer, self_bind]
  apply meets_ite
  · exact fun _ => rfl
  · intro other
    let member : Member := {
      nodeId := nodeId
      address := address
      status := .alive
      incarnation := 0 }
    by_cases outside : nodeId = 0 ∨ swim.table.capacity ≤ nodeId
    · have refused : (onTable (Table.upsert member) swim).Meets (Tolerated strict)
          (fun _ _ => False) (· = swim) := by
        have answer := @Table.upsert_refused swim.table member outside
        simp only [onTable, zoom, answer]
        exact rfl
      exact meets_bind refused fun _ _ => False.elim
    · have valid : member.nodeId ≠ 0 ∧ member.nodeId < swim.table.capacity := by
        simp only [member]
        omega
      have newer : ∀ current, swim.table.get member.nodeId = some current →
          current.incarnation ≤ member.incarnation :=
        fun current held => (fresh.members nodeId current held).2.le
      have stands : Stands strict swim.view (· = nodeId) swim := {
        upright.holds with tracks := fun other _ => upright.tracks other }
      have written := @Stands.written strict swim.view swim (· = nodeId) member stands rfl other valid
        room newer
      have alive : (swim.table.written member).get nodeId = some member :=
        Table.get_written_self valid room
      refine meets_bind (meets_sure (upsert_meets upright.sound valid)) ?_
      rintro _ _ rfl
      rw [notifyListener, modify_apply]
      have clear : ∀ (next : Swim), next.table = swim.table.written member →
          next.suspicions = swim.suspicions → Fresh next := by
        intro next table suspicions
        constructor
        · intro other current held
          rw [table] at held
          by_cases same : other = nodeId
          · subst same
            rw [alive, Option.some.injEq] at held
            exact held ▸ ⟨rfl, rfl⟩
          · rw [Table.get_written_ne same] at held
            exact fresh.members other current held
        · exact fun other => suspicions ▸ fresh.suspicions other
      have cleared := clear { swim with table := swim.table.written member } rfl rfl
      refine ⟨Stands.of_view { written with tracks := fun other _ => ?_ } rfl rfl,
        clear _ rfl rfl⟩
      refine iff_of_false ?_ ?_
      · rintro ⟨current, held, suspected⟩
        have trusted := (cleared.members other current held).1
        rw [suspected] at trusted
        cases trusted
      · simp [view, fresh.suspicions other]

theorem Command.run_keeps (command : Command) (moderate : strict → swim.config.Moderate)
    (early : strict → command.Early) (upright : Upright swim) (fresh : command.Adds → Fresh swim)
    (ready : command.Ready strict swim) :
    (command.run swim).Meets (Tolerated strict)
      (fun _ after => Holds strict swim.view after ∧ (command.Adds → Fresh after))
      fun after => Holds strict swim.view after ∧ (command.Adds → Fresh after) := by
  have holds : Holds strict swim.view swim := upright.holds
  have plain : ∀ {act : Act Unit}, ¬ command.Adds →
      (act swim).Meets (Tolerated strict) (fun _ => Holds strict swim.view)
        (Holds strict swim.view) →
      (act swim).Meets (Tolerated strict)
        (fun _ after => Holds strict swim.view after ∧ (command.Adds → Fresh after))
        fun after => Holds strict swim.view after ∧ (command.Adds → Fresh after) := by
    intro act other meets
    apply meets_mono meets
    · exact fun _ after kept => ⟨kept, fun adds => absurd adds other⟩
    · exact fun after kept => ⟨kept, fun adds => absurd adds other⟩
    · exact fun _ => id
  cases command with
  | addPeer nodeId address =>
      apply meets_mono (addPeer_meets upright (fresh trivial) ready)
      · exact fun _ after kept => ⟨kept.1, fun _ => kept.2⟩
      · rintro after rfl
        exact ⟨holds, fresh⟩
      · exact fun _ => id
  | tick now => exact plain id (tick_keeps moderate early holds ready)
  | message now source bytes => exact plain id (handleMessage_keeps moderate early holds ready)
  | joinSeed address => exact plain id (joinSeed_keeps moderate swim holds)
  | leave => exact plain id (leave_keeps moderate holds ready)
  | clearOutgoing => exact plain id (holds.of_view rfl rfl)

/-! ## Runs -/

/-- The node after a command; none if the process has stopped. -/
def perform (swim : Option Swim) (command : Command) : Option Swim :=
  swim.bind fun swim => (command.run swim).state?

/-- The command meets no end of a range. -/
def Orderly (strict : Prop) (swim : Option Swim) (command : Command) : Prop :=
  ∀ node, swim = some node → command.Ready strict node

/-- Peers are added before anything else. -/
def Ordered (commands : List Command) : Prop :=
  commands.Pairwise fun first second => second.Adds → first.Adds

theorem final_perform_none (commands : List Command) :
    Run.final perform none commands = none := by
  induction commands with
  | nil => rfl
  | cons command commands ih => exact ih

theorem init_upright {config : Config} {mac : Mac} {random : Nat → Nat} {memory : Nat → Bool}
    (starts : init config mac random memory = some swim) :
    Upright swim ∧ Fresh swim ∧ swim.config = config := by
  obtain ⟨⟨valid, -, below, -⟩, value, queued⟩ := init_eq_some.mp starts
  have params := validate_pos valid
  generalize first : blank config mac random memory = blank at queued
  have empty : ∀ nodeId, blank.table.get nodeId = none := by
    intro nodeId
    simp only [← first, Swim.blank, Table.get]
    split <;> rfl
  have known : blank.table.known = ∅ := by
    ext nodeId
    simp [Table.mem_known, empty]
  have active : blank.table.active = ∅ := by
    ext nodeId
    simp [Table.mem_active, Table.isActive, empty]
  subst first
  have upright : Upright (Swim.blank config mac random memory) := {
    sound := {
      valid := valid
      named := below
      counted := {
        capacity := config.narrow
        used := (congrArg Finset.card known).symm
        active := (congrArg Finset.card active).symm }
      capacity := rfl
      own := empty _
      health := ⟨le_rfl, params.2.2.2.2.1⟩ }
    tracks := fun nodeId => by
      simp only [View.Tracks, view, empty nodeId]
      simp [Swim.blank]
    supplied := {
      distinct := List.nodup_nil
      transmits := fun _ listed => absurd listed List.not_mem_nil } }
  have kept := @kept_queueGossip False _ False.elim
    ((Swim.blank config mac random memory).selfEvent .alive) _ upright.holds
  have spared := @spares_queueGossip ((Swim.blank config mac random memory).selfEvent .alive)
    (Swim.blank config mac random memory).table config (Swim.blank config mac random memory)
    ⟨rfl, rfl⟩
  rw [queued] at kept spared
  have none : ∀ nodeId, swim.table.get nodeId = none := by
    rw [spared.1]
    exact empty
  refine ⟨kept.upright, ⟨fun nodeId member held => ?_, fun nodeId => ?_⟩, spared.2⟩
  · rw [none] at held
    cases held
  · rw [← Option.not_isSome_iff_eq_none]
    intro present
    obtain ⟨member, held, -⟩ := (kept.upright.tracks nodeId).mpr present
    rw [view, none] at held
    cases held

theorem run_keeps {commands : List Command} {after : Swim}
    (moderate : strict → swim.config.Moderate)
    (early : strict → ∀ command ∈ commands, command.Early) (upright : Upright swim)
    (fresh : ∀ command ∈ commands, command.Adds → Fresh swim) (ordered : Ordered commands)
    (orderly : Run.Meets perform (Orderly strict) (some swim) commands)
    (leads : Run.final perform (some swim) commands = some after) :
    Upright after ∧ View.Since strict swim.view after.view ∧
      ((∀ command ∈ commands, command.Adds) → Fresh swim → Fresh after) := by
  induction commands generalizing swim with
  | nil =>
      cases leads
      exact ⟨upright, View.Since.refl strict _, fun _ => id⟩
  | cons command commands ih =>
      rw [Run.final_cons] at leads
      have first := command.run_keeps moderate (fun counting => early counting command
        List.mem_cons_self) upright (fresh command List.mem_cons_self)
        (orderly.1 swim rfl)
      obtain ⟨next, answer, stands, freshNext⟩ : ∃ next, perform (some swim) command = some next ∧
          Holds strict swim.view next ∧ (command.Adds → Fresh next) := by
        cases answer : perform (some swim) command with
        | none =>
            rw [answer, final_perform_none] at leads
            cases leads
        | some next => exact ⟨next, rfl, first.leaves answer⟩
      rw [answer] at leads
      have same : next.config = swim.config := stands.since.config
      have later := orderly.2
      rw [answer] at later
      obtain ⟨upright', since, freshAfter⟩ := ih (fun counting => same ▸ moderate counting)
        (fun counting other listed => early counting other (List.mem_cons_of_mem _ listed))
        stands.upright
        (fun other listed adds => freshNext ((List.pairwise_cons.mp ordered).1 other listed adds))
        (List.pairwise_cons.mp ordered).2 later leads
      refine ⟨upright', stands.since.trans since, fun adds fresh => ?_⟩
      apply freshAfter (fun other listed => adds other (List.mem_cons_of_mem _ listed))
      exact freshNext (adds command List.mem_cons_self)

/-- A node of a small cluster that shares no secret. -/
def small : Config where
  nodeId := 1
  address := .ip4 1 7946
  maxNodes := 16

/-- A message of another node with one event. -/
def telling (event : Event) : Message where
  type := .sync
  sender := 2
  seq := 0
  events := [event]

def hear (event : Event) : Command := .message 0 (.ip4 2 7946) (telling event).wire

section Life

variable {config : Config} {mac : Mac} {random : Nat → Nat} {memory : Nat → Bool}
  {first node : Swim} {before later : List Command}

/-- Wherever a run has led, the state is upright, and what follows goes on from there. -/
theorem run_from (starts : init config mac random memory = some first)
    (moderate : strict → config.Moderate)
    (early : strict → ∀ command ∈ before ++ later, command.Early)
    (ordered : Ordered (before ++ later))
    (orderly : Run.Meets perform (Orderly strict) (some first) (before ++ later))
    (reached : Run.final perform (some first) before = some node) :
    Upright node ∧ node.config = config ∧ (∀ command ∈ later, command.Adds → Fresh node) ∧
      Run.Meets perform (Orderly strict) (some node) later := by
  obtain ⟨upright, fresh, same⟩ := init_upright starts
  obtain ⟨orderlyBefore, orderlyLater⟩ := Run.meets_append.mp orderly
  obtain ⟨orderedBefore, -, between⟩ := List.pairwise_append.mp ordered
  rw [reached] at orderlyLater
  obtain ⟨upright', since, fresh'⟩ := run_keeps (fun counting => same ▸ moderate counting)
    (fun counting command listed => early counting command (List.mem_append_left _ listed))
    upright (fun _ _ _ => fresh) orderedBefore orderlyBefore reached
  refine ⟨upright', since.config.trans same, fun command listed adds => ?_, orderlyLater⟩
  exact fresh' (fun other among => between other among command listed adds) fresh

/-- The small node, and what it has become after getting to know a peer. -/
theorem short_life : ∃ first node, init small (fun _ _ => []) (fun _ => 0) (fun _ => true) =
    some first ∧ Run.final perform (some first) [.addPeer 3 (.ip4 3 7946)] = some node ∧
    first.table.Room 3 ∧ node.incarnation + 1 < 2 ^ 32 := by
  let start := init small (fun _ _ => []) (fun _ => 0) fun _ => true
  let added := Run.final perform start [.addPeer 3 (.ip4 3 7946)]
  obtain ⟨first, starts⟩ := Option.isSome_iff_exists.mp (by decide +kernel : start.isSome = true)
  obtain ⟨node, reached⟩ := Option.isSome_iff_exists.mp (by decide +kernel : added.isSome = true)
  have room : start.map (fun swim => decide (swim.table.Room 3)) = some true := by decide +kernel
  have low : added.map (fun swim => decide (swim.incarnation + 1 < 2 ^ 32)) = some true := by
    decide +kernel
  rw [starts] at room
  rw [reached] at low
  refine ⟨first, node, starts, starts ▸ reached, ?_, ?_⟩
  · simpa using room
  · simpa using low

/-- The peer is added, and then the node leaves, without coming to the end of a range. -/
theorem short_life_orderly {first node : Swim} (room : first.table.Room 3)
    (low : node.incarnation + 1 < 2 ^ 32)
    (reached : Run.final perform (some first) [.addPeer 3 (.ip4 3 7946)] = some node) :
    Run.Meets perform (Orderly strict) (some first)
      ([.addPeer 3 (.ip4 3 7946)] ++ [.leave]) := by
  refine ⟨?_, ?_, trivial⟩
  · rintro _ ⟨⟩
    exact room
  · intro other same
    cases reached.symm.trans same
    exact fun _ _ => low

theorem short_life_ordered : Ordered ([.addPeer 3 (.ip4 3 7946)] ++ [.leave]) :=
  List.pairwise_pair.mpr fun _ => trivial

/-- In the life of a node, no incarnation of a member is taken back, exactly the suspected members
have suspicions, the counts are right, and the queue is supplied, as long as no member is stored so
often that the number of its slot starts over. -/
theorem states_are_upright (starts : init config mac random memory = some first)
    (ordered : Ordered (before ++ later))
    (orderly : Run.Meets perform (Orderly False) (some first) (before ++ later))
    (reached : Run.final perform (some first) before = some node) :
    Upright node ∧ (∀ command ∈ later.head?, command.run node ≠ .trapped .absent) ∧
      ∀ last, Run.final perform (some node) later = some last →
        View.Since False node.view last.view := by
  obtain ⟨upright, same, fresh, orderlyLater⟩ :=
    run_from starts False.elim False.elim ordered orderly reached
  have orderedLater := (List.pairwise_append.mp ordered).2.1
  refine ⟨upright, ?_, fun last leads => ?_⟩
  · intro command next stops
    cases later with
    | nil => cases next
    | cons head later =>
        cases next
        have kept := command.run_keeps False.elim False.elim upright
          (fresh command List.mem_cons_self) (orderlyLater.1 node rfl)
        rw [stops] at kept
        cases kept.2
  · exact (run_keeps False.elim False.elim upright fresh orderedLater orderlyLater leads).2.1

/-- The small node is upright after it has got to know a peer, and after it has left as well. -/
theorem states_are_upright_small : ∃ first node,
    init small (fun _ _ => []) (fun _ => 0) (fun _ => true) = some first ∧
      Run.final perform (some first) [.addPeer 3 (.ip4 3 7946)] = some node ∧ Upright node ∧
      Command.leave.run node ≠ .trapped .absent := by
  obtain ⟨first, node, starts, reached, room, low⟩ := short_life
  have upright := states_are_upright starts short_life_ordered
    (short_life_orderly room low reached) reached
  exact ⟨first, node, starts, reached, upright.1, upright.2.1 _ rfl⟩

/-! ### A member that is stored too often -/

/-- The node of the small cluster is granted all memory, waits for no view, and has this table. -/
structure Listening (table : Table) (swim : Swim) : Prop where
  config : swim.config = small
  memory : ∀ allocation, swim.memory allocation = true
  sync : swim.sync = none
  holds : swim.table = table
  capacity : table.capacity = 16
  sender : table.get 2 = none

/-- An event about the member. -/
def said (status : NodeStatus) (incarnation : Nat) : Event where
  nodeId := 3
  status := status
  incarnation := incarnation
  address := .ip4 3 7946

theorem queueGossip_listening {table : Table} {event : Event}
    (listening : Listening table swim) (few : table.activeCount < 9) :
    (queueGossip event swim).Meets (fun _ => False) (fun _ => Listening table) fun _ => False := by
  obtain ⟨config, memory, sync, rfl, capacity, sender⟩ := listening
  have scale : swim.logScale ≤ logScaleOf 9 :=
    max_le_max le_rfl (Nat.clog_mono_right 2 few)
  have fits : swim.config.params.retransmitMult * swim.logScale < 2 ^ 32 := by
    rw [config]
    exact (Nat.mul_le_mul_left _ scale).trans_lt (by decide +kernel)
  have limit : transmitLimit swim =
      .done (swim.config.params.retransmitMult * swim.logScale) swim :=
    require_bind fits
  rw [queueGossip, bind_done limit, read_bind]
  apply @meets_bind _ _ _ _ _ _ _ (fun _ => Listening swim.table)
  · apply meets_when
    · intro _
      simp only [allocate, memory, if_true]
      exact ⟨config, memory, sync, rfl, capacity, sender⟩
    · exact fun _ => ⟨config, memory, sync, rfl, capacity, sender⟩
  · rintro _ after ⟨config, memory, sync, holds, capacity, sender⟩
    exact ⟨config, memory, sync, holds, capacity, sender⟩

/-- News that do not make it suspect the member are stored without failing. -/
theorem applyEventFrom_listening {table : Table} {event : Event}
    (listening : Listening table swim) (about : event.nodeId = 3)
    (plain : event.status ≠ .suspect)
    (fits : ∀ member, table.get event.nodeId = some member → member.address = event.address)
    (accepted : accepts (table.get event.nodeId) event = true)
    (spacious : table.Spacious event.nodeId) (few : table.activeCount < 8) :
    (applyEventFrom 0 event (some 2) swim).Meets (fun _ => False)
      (fun _ => Listening (table.written event.member)) fun _ => False := by
  obtain ⟨config, memory, sync, rfl, capacity, sender⟩ := listening
  have own : event.nodeId ≠ swim.config.nodeId := by
    rw [config, about]
    decide
  have inside : ¬ (event.nodeId = 0 ∨ swim.config.maxNodes ≤ event.nodeId) := by
    rw [config, about]
    decide
  have valid : event.member.nodeId ≠ 0 ∧ event.member.nodeId < swim.table.capacity := by
    rw [capacity]
    simp [Event.member, about]
  have fewer : (swim.table.written event.member).activeCount < 9 := by
    simp only [Table.written]
    split <;> split <;> omega
  rw [applyEventFrom, self_bind, ite_neg own, ite_neg inside, get, read_bind]
  apply meets_bind contradicts_meets
  intro conflict after meets
  split at meets
  · exact absurd fits meets.1
  · rw [if_neg ‹_›]
    obtain ⟨rfl, -⟩ := meets
    obtain ⟨result, done⟩ := @Table.upsert_eq swim.table event.member valid spacious
    have stored : onTable (Table.upsert event.member) swim =
        .done result { swim with table := swim.table.written event.member } := by
      simp only [onTable, zoom, done]
    have tracked : ∀ (node : Swim) (nodeId source : Nat),
        trackSuspicion 0 nodeId event.status source node =
          .done () { node with suspicions := Function.update node.suspicions nodeId none } := by
      intro node nodeId source
      rw [trackSuspicion, ite_neg plain, modify_apply]
    rw [ite_pos accepted, adopt, Event.member_of_fits fits, bind_done stored, read_bind,
      bind_done (tracked _ _ _)]
    apply meets_bind
    · apply queueGossip_listening _ fewer
      exact {
        config := config
        memory := memory
        sync := sync
        holds := rfl
        capacity := capacity
        sender := by
          rw [Table.get_written_ne]
          · exact sender
          · simp [Event.member, about] }
    · rintro _ last ⟨config, memory, sync, holds, capacity, sender⟩
      exact ⟨config, memory, sync, holds, capacity, sender⟩

theorem perform_hear {table : Table} {event : Event} (listening : Listening table swim)
    (readable : decode (telling event).wire = .ok (telling event))
    (about : event.nodeId = 3) (plain : event.status ≠ .suspect)
    (fits : ∀ member, table.get event.nodeId = some member → member.address = event.address)
    (accepted : accepts (table.get event.nodeId) event = true)
    (spacious : table.Spacious event.nodeId) (few : table.activeCount < 8) :
    ∃ after, perform (some swim) (hear event) = some after ∧
      Listening (table.written event.member) after := by
  have stores := applyEventFrom_listening listening about plain fits accepted spacious few
  have secret : swim.config.secret = [] := by
    rw [listening.config]
    rfl
  have received : receive (telling event).wire swim = .done (some (telling event)) swim := by
    rw [receive, self_bind, ite_pos secret, readable]
    rfl
  have placed : ¬ swim.misplaced (.ip4 2 7946) (telling event) := by
    rw [misplaced, listening.config, listening.holds]
    simp [small, telling, listening.sender]
  simp only [perform, Option.bind_some, hear, Command.run]
  rw [handleMessage, bind_done received]
  simp only
  rw [self_bind, ite_neg placed]
  cases heard : applyEventFrom 0 event (some 2) swim with
  | done value after =>
      rw [heard] at stores
      have told : each (fun event => applyEventFrom 0 event (some (telling event).sender))
          (telling event).events swim = .done () after :=
        bind_done heard
      refine ⟨after, ?_, stores⟩
      refine (congrArg Outcome.state? (bind_done told)).trans ?_
      have unasked : ¬ (telling event).flags % 2 = 1 := by simp [telling]
      have answered : answer 0 (.ip4 2 7946) (telling event) after = .done () after := by
        have nothing : handleSync 0 (.ip4 2 7946) (telling event) after = .done () after := by
          rw [handleSync, ite_neg unasked, read_bind, stores.sync]
          rfl
        rw [answer, self_bind]
        exact nothing
      rw [answered]
      rfl
  | failed after =>
      rw [heard] at stores
      cases stores
  | trapped fault =>
      rw [heard] at stores
      cases stores

/-- The messages say in turn that the member is dead, and that it has left. -/
def flip (count : Nat) : NodeStatus := if count % 2 = 0 then .dead else .left

def flips : Nat → List Command
  | 0 => []
  | count + 1 => flips count ++ [hear (said (flip count) 5)]

/-- The member has been stored this often. -/
structure Stored (count : Nat) (status : NodeStatus) (swim : Swim) : Prop where
  listening : Listening swim.table swim
  number : (swim.table.slots 3).sequence = count
  known : swim.table.get 3 = some (said status 5).member
  used : swim.table.usedCount = 1
  active : swim.table.activeCount = if Active status then 1 else 0

theorem said_readable (status : NodeStatus) {incarnation : Nat}
    (chosen : incarnation = 5 ∨ incarnation = 0) :
    decode (telling (said status incarnation)).wire = .ok (telling (said status incarnation)) := by
  rcases chosen with rfl | rfl <;> cases status <;> decide +kernel

theorem flip_gone (count : Nat) : ¬ Active (flip count) ∧ flip count ≠ .suspect := by
  unfold flip
  split <;> decide

theorem Stored.isActive_iff {count : Nat} {status : NodeStatus}
    (stored : Stored count status swim) : swim.table.isActive 3 ↔ Active status := by
  constructor
  · rintro ⟨member, held, active⟩
    rw [stored.known, Option.some.injEq] at held
    subst held
    exact active
  · exact fun active => ⟨_, stored.known, active⟩

theorem Stored.few {count : Nat} {status : NodeStatus} (stored : Stored count status swim) :
    swim.table.activeCount ≤ 1 := by
  rw [stored.active]
  split <;> omega

theorem Stored.hears {count turn : Nat} {status : NodeStatus} (stored : Stored count status swim)
    (differs : status ≠ flip turn) :
    ∃ after, perform (some swim) (hear (said (flip turn) 5)) = some after ∧
      after.table = swim.table.written (said (flip turn) 5).member ∧
      Listening after.table after := by
  have known := stored.known
  obtain ⟨after, performed, listening⟩ := @perform_hear _ _
    (said (flip turn) 5) stored.listening (said_readable _ (.inl rfl)) rfl (flip_gone turn).2
    (by
      intro member held
      change swim.table.get 3 = some member at held
      rw [known, Option.some.injEq] at held
      exact held ▸ rfl)
    (by
      change accepts (swim.table.get 3) _ = true
      rw [known]
      unfold flip at differs ⊢
      split at differs <;> simp_all [accepts, said, Event.member])
    {
      used := by rw [stored.used]; decide
      active := by have := stored.few; omega
      held := fun was => by
        rw [stored.active, if_pos (stored.isActive_iff.mp was)]
        decide }
    (by have := stored.few; omega)
  exact ⟨after, performed, listening.holds, listening.holds ▸ listening⟩

/-- The counts after the member has been stored once more as gone. -/
theorem Stored.counts {count turn : Nat} {status : NodeStatus} (stored : Stored count status swim) :
    (swim.table.written (said (flip turn) 5).member).usedCount = 1 ∧
      (swim.table.written (said (flip turn) 5).member).activeCount = 0 := by
  have gone : ¬ Active (said (flip turn) 5).member.status := (flip_gone turn).1
  have present : ¬ (swim.table.get (said (flip turn) 5).member.nodeId).isNone = true := by
    change ¬ (swim.table.get 3).isNone = true
    simp [stored.known]
  constructor
  · exact (if_neg present).trans stored.used
  · simp only [Table.written, if_neg gone]
    change (if swim.table.isActive 3 then _ else _) = 0
    rw [if_congr stored.isActive_iff rfl rfl, stored.active]
    split <;> rfl

theorem Stored.next {count turn : Nat} {status : NodeStatus} (stored : Stored count status swim)
    (differs : status ≠ flip turn) (room : count + 1 < 2 ^ 32) :
    ∃ after, perform (some swim) (hear (said (flip turn) 5)) = some after ∧
      Stored (count + 1) (flip turn) after := by
  obtain ⟨after, performed, table, listening⟩ := stored.hears differs
  have valid : (said (flip turn) 5).member.nodeId ≠ 0 ∧
      (said (flip turn) 5).member.nodeId < swim.table.capacity := by
    rw [stored.listening.capacity]
    simp [said, Event.member]
  have number := stored.number
  have fits : swim.table.Room (said (flip turn) 5).member.nodeId := by
    change (swim.table.slots 3).sequence + 1 < sequenceRange
    rw [number]
    exact room
  obtain ⟨used, active⟩ := @Stored.counts swim count turn status stored
  refine ⟨after, performed, ?_⟩
  exact {
    listening := listening
    number := by
      rw [table]
      change (Function.update swim.table.slots 3 _ 3).sequence = _
      rw [Function.update_self]
      change (swim.table.slots 3).nextSequence = count + 1
      rw [Slot.nextSequence, number]
      exact Nat.mod_eq_of_lt room
    known := by
      rw [table]
      exact Table.get_written_self valid fits
    used := by rw [table, used]
    active := by rw [table, active, if_neg (flip_gone turn).1] }

/-- What the member is said to be after so many turns. -/
def turned : Nat → NodeStatus
  | 0 => .alive
  | count + 1 => flip count

theorem turned_ne (count : Nat) : turned count ≠ flip count := by
  cases count with
  | zero => decide
  | succ count =>
      simp only [turned, flip]
      split <;> split <;> first | decide | omega

theorem Stored.flips {count : Nat} (stored : Stored 1 .alive swim) (room : count + 1 < 2 ^ 32) :
    ∃ after, Run.final perform (some swim) (Swim.flips count) = some after ∧
      Stored (count + 1) (turned count) after := by
  induction count with
  | zero => exact ⟨swim, rfl, stored⟩
  | succ count ih =>
      obtain ⟨middle, reached, stored⟩ := ih (by omega)
      obtain ⟨after, performed, stored⟩ := stored.next (turned_ne count) room
      refine ⟨after, ?_, stored⟩
      rw [Swim.flips, Run.final_append, reached]
      exact performed

/-- Where the number of the slot starts over, the member is forgotten, and then it is taken over
again at a lower incarnation. -/
theorem Stored.forgotten {count : Nat} (stored : Stored 1 .alive swim)
    (whole : count + 2 = 2 ^ 32) :
    ∃ last, Run.final perform (some swim)
        (Swim.flips (count + 1) ++ [hear (said .alive 0)]) = some last ∧
      last.table.get 3 = some (said .alive 0).member ∧ last.table.usedCount = 2 := by
  obtain ⟨before, reached, stored⟩ := @Stored.flips swim count stored (by omega)
  obtain ⟨after, performed, table, listening⟩ := stored.hears (turned_ne count)
  obtain ⟨used, active⟩ := @Stored.counts before (count + 1) count _ stored
  have number : (after.table.slots 3).sequence = 0 := by
    rw [table]
    change (Function.update before.table.slots 3 _ 3).sequence = _
    rw [Function.update_self]
    change (before.table.slots 3).nextSequence = 0
    rw [Slot.nextSequence, stored.number, whole]
    exact Nat.mod_self _
  have forgotten : after.table.get 3 = none := by
    rw [Table.get, listening.capacity]
    simp [Slot.published, number]
  have unknown : accepts (after.table.get (said .alive 0).nodeId) (said .alive 0) = true := by
    change accepts (after.table.get 3) _ = true
    rw [forgotten]
    rfl
  obtain ⟨last, again, listening'⟩ := perform_hear listening (said_readable _ (.inr rfl)) rfl
    (by decide)
    (by
      intro member held
      change after.table.get 3 = some member at held
      rw [forgotten] at held
      cases held)
    unknown
    {
      used := by rw [table, used]; decide
      active := by rw [table, active]; decide
      held := by
        rintro ⟨member, held, -⟩
        change after.table.get 3 = some member at held
        rw [forgotten] at held
        cases held }
    (by rw [table, active]; decide)
  refine ⟨last, ?_, ?_, ?_⟩
  · rw [Swim.flips, Run.final_append, Run.final_append, reached]
    change perform (perform (some before) _) _ = _
    rw [performed, again]
  · rw [listening'.holds]
    refine @Table.get_written_self after.table (said .alive 0).member ?_ ?_
    · rw [listening.capacity]
      simp [said, Event.member]
    · change (after.table.slots 3).sequence + 1 < sequenceRange
      rw [number]
      decide
  · rw [listening'.holds, Table.written]
    change (if (after.table.get 3).isNone = true then _ else _) = 2
    rw [forgotten, table, used]
    rfl

theorem small_listens : ∃ first, init small (fun _ _ => []) (fun _ => 0) (fun _ => true) =
    some first ∧ Listening { capacity := 16 } first := by
  have listening : Listening { capacity := 16 }
      (blank small (fun _ _ => []) (fun _ => 0) fun _ => true) := {
    config := rfl
    memory := fun _ => rfl
    sync := rfl
    holds := rfl
    capacity := rfl
    sender := by decide }
  have queued := @queueGossip_listening _ { capacity := 16 }
    ((blank small (fun _ _ => []) (fun _ => 0) fun _ => true).selfEvent .alive) listening (by decide)
  cases answer : queueGossip ((blank small (fun _ _ => []) (fun _ => 0) fun _ => true).selfEvent
      .alive) (blank small (fun _ _ => []) (fun _ => 0) fun _ => true) with
  | done value first =>
      rw [answer] at queued
      exact ⟨first, init_eq_some.mpr ⟨by decide, value, answer⟩, queued⟩
  | failed first =>
      rw [answer] at queued
      cases queued
  | trapped fault =>
      rw [answer] at queued
      cases queued

/-- The incarnation of a member goes from five back to zero, and the member is counted twice. -/
theorem incarnation_is_taken_back : ∃ (count : Nat) (first middle last : Swim),
    init small (fun _ _ => []) (fun _ => 0) (fun _ => true) = some first ∧
      Run.final perform (some first) [hear (said .alive 5)] = some middle ∧
      Run.final perform (some middle) (flips count ++ [hear (said .alive 0)]) = some last ∧
      middle.table.get 3 = some (said .alive 5).member ∧
      last.table.get 3 = some (said .alive 0).member ∧ last.table.usedCount = 2 := by
  obtain ⟨first, starts, listening⟩ := small_listens
  obtain ⟨middle, performed, heard⟩ := @perform_hear _ _ (said .alive 5) listening
    (said_readable .alive (.inl rfl)) rfl (by decide) (by decide) (by decide)
    {
      used := by decide
      active := by decide
      held := by decide }
    (by decide)
  have stored : Stored 1 .alive middle := {
    listening := heard.holds ▸ heard
    number := by
      rw [heard.holds]
      decide
    known := by
      rw [heard.holds]
      decide
    used := by
      rw [heard.holds]
      decide
    active := by
      rw [heard.holds]
      decide }
  obtain ⟨count, whole⟩ : ∃ count, count + 2 = 2 ^ 32 := ⟨2 ^ 32 - 2, by decide⟩
  obtain ⟨last, reached, taken, counted⟩ := stored.forgotten whole
  exact ⟨count + 1, first, middle, last, starts, performed, reached, stored.known, taken, counted⟩


/-- With moderate parameters and an early clock, no command stops the process, and the node does
not take its own incarnation back, as long as no incarnation and no number of a slot comes to the
end of its range. -/
theorem numbers_stay_within_range (starts : init config mac random memory = some first)
    (moderate : config.Moderate) (early : ∀ command ∈ before ++ later, command.Early)
    (ordered : Ordered (before ++ later))
    (orderly : Run.Meets perform (Orderly True) (some first) (before ++ later))
    (reached : Run.final perform (some first) before = some node) :
    (∀ command ∈ later.head?, ∀ fault, command.run node ≠ .trapped fault) ∧
      ∀ last, Run.final perform (some node) later = some last →
        node.incarnation ≤ last.incarnation := by
  obtain ⟨upright, same, fresh, orderlyLater⟩ :=
    run_from starts (fun _ => moderate) (fun _ => early) ordered orderly reached
  have orderedLater := (List.pairwise_append.mp ordered).2.1
  have earlyLater : ∀ command ∈ later, command.Early :=
    fun command listed => early command (List.mem_append_right _ listed)
  refine ⟨?_, fun last leads => ?_⟩
  · intro command next fault stops
    cases later with
    | nil => cases next
    | cons head later =>
        cases next
        have kept := command.run_keeps (fun _ => same ▸ moderate)
          (fun _ => earlyLater command List.mem_cons_self) upright
          (fresh command List.mem_cons_self) (orderlyLater.1 node rfl)
        rw [stops] at kept
        exact kept.1 trivial
  · exact (run_keeps (fun _ => same ▸ moderate) (fun _ => earlyLater) upright fresh orderedLater
      orderlyLater leads).2.1.incarnation trivial

/-- An event about the node at the highest incarnation stops the process. -/
theorem highest_incarnation_stops :
    (init small (fun _ _ => []) (fun _ => 0) fun _ => true).map (fun node => Outcome.fault?
      ((hear {
        nodeId := 1
        status := .suspect
        incarnation := 2 ^ 32 - 1
        address := small.address }).run node)) = some (some .range) := by
  decide +kernel

theorem numbers_stay_within_range_small : ∃ first node,
    init small (fun _ _ => []) (fun _ => 0) (fun _ => true) = some first ∧
      Run.final perform (some first) [.addPeer 3 (.ip4 3 7946)] = some node ∧
      ∀ fault, Command.leave.run node ≠ .trapped fault := by
  obtain ⟨first, node, starts, reached, room, low⟩ := short_life
  have moderate : small.Moderate := {
    transmits := by decide +kernel
    timeout := by decide +kernel
    period := by decide
    syncInterval := by decide }
  have stays := numbers_stay_within_range starts moderate (by simp [Command.Early])
    short_life_ordered (short_life_orderly room low reached) reached
  exact ⟨first, node, starts, reached, stays.1 _ rfl⟩

end Life

end Swim

end LyuneGateway.Membership
