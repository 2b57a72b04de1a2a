import LyuneGateway.Lib.Run
import LyuneGateway.Membership.Candor

/-!
# A cluster of nodes

Every node has a runner, which adds the seeds and asks them for their view, and
then hears datagrams, minds the clock, and sends what waits to be sent. The
network may lose, repeat, delay, and misdirect whatever has been sent, and let it
come from any address; it may also bring what no node has sent, as long as no
node takes that for authentic. What the nodes believe and say is true all the
same.
-/

namespace LyuneGateway.Membership

open Control (NodeStatus)
open Faulty

/-! ## A runner -/

/-- A node that a runner is told of before it starts. -/
structure Seed where
  nodeId : Nat
  address : Address

/-- What has ended a process: two nodes claim the same id, or a trap. -/
inductive Ending where
  | conflict
  | fault
  deriving DecidableEq

structure Runner where
  swim : Swim
  ended : Option Ending := none

namespace Runner

/-- What the thread of a runner does in turn. -/
inductive Duty where
  | leave
  | hear (now : Nat) (source : Address) (bytes : Bytes)
  | turn (now : Nat)

/-- Add a seed, and ask it for its view. -/
def addSeed (seed : Seed) : Act Unit := do
  Swim.addPeer seed.nodeId seed.address
  Swim.joinSeed seed.address

/-- A runner that has been set up and has started; none if either has failed. -/
def start (config : Config) (mac : Mac) (random : Nat → Nat) (memory : Nat → Bool)
    (seeds : List Seed) : Option Runner :=
  (Swim.init config mac random memory).bind fun swim =>
    match each addSeed seeds swim with
    | .done _ swim => some { swim := swim }
    | _ => none

/-- Errors are passed over; a trap ends the process. -/
def attempt (act : Act Unit) (runner : Runner) : Runner :=
  match act runner.swim with
  | .done _ swim => { runner with swim := swim }
  | .failed swim => { runner with swim := swim }
  | .trapped _ => { runner with ended := some .fault }

/-- The process ends if another node has the same id. -/
def failOnIdentityConflict (runner : Runner) : Runner :=
  if runner.ended.isNone ∧ runner.swim.identityConflict.isSome then
    { runner with ended := some .conflict }
  else runner

/-- Hand over to the network what waits to be sent. -/
def flushOutgoing (runner : Runner) : Runner × List Message :=
  if runner.ended.isSome then (runner, [])
  else ({ runner with swim := { runner.swim with outbox := [] } },
    runner.swim.outbox.map Outgoing.message)

def perform (runner : Runner) : Duty → Runner × List Message
  | .leave => (runner.attempt Swim.leave).flushOutgoing
  | .hear now source bytes =>
      ((runner.attempt (Swim.handleMessage now source bytes)).failOnIdentityConflict, [])
  | .turn now => (runner.attempt (Swim.tick now)).flushOutgoing

end Runner

/-! ## A cluster -/

/-- The runners by the ids of their nodes, and all messages that have been sent. -/
structure Cluster where
  runners : Nat → Option Runner := fun _ => none
  sent : List Message := []

inductive Happening where
  | start (config : Config) (mac : Mac) (random : Nat → Nat) (memory : Nat → Bool)
      (seeds : List Seed)
  | duty (nodeId : Nat) (duty : Runner.Duty)

namespace Cluster

/-- Every node runs once, until its process ends. -/
def happen (cluster : Cluster) : Happening → Cluster
  | .start config mac random memory seeds =>
      match cluster.runners config.nodeId, Runner.start config mac random memory seeds with
      | none, some runner => { cluster with
          runners := Function.update cluster.runners config.nodeId (some runner) }
      | _, _ => cluster
  | .duty nodeId duty =>
      match cluster.runners nodeId with
      | none => cluster
      | some runner =>
          if runner.ended.isSome then cluster
          else
            let (runner, messages) := runner.perform duty
            { cluster with
              runners := Function.update cluster.runners nodeId (some runner)
              sent := cluster.sent ++ messages }

/-- Every node has its own address, and is known by it to those that have it as a seed; what a
node takes for authentic has been sent; and no node leaves with the last incarnation there is. -/
def Proper (plan : Nat → Address) (cluster : Cluster) : Happening → Prop
  | .start config _ _ _ seeds =>
      config.address = plan config.nodeId ∧ ∀ seed ∈ seeds, seed.address = plan seed.nodeId
  | .duty nodeId duty => ∀ runner, cluster.runners nodeId = some runner →
      match duty with
      | .leave => runner.swim.hasLeft = false → runner.swim.incarnation + 1 < 2 ^ 32
      | .hear _ _ bytes => ∀ message, runner.swim.authentic bytes = some message →
          message ∈ cluster.sent
      | .turn _ => True

/-- The nodes as they are; a node that has not started has come to nothing yet. -/
def world (plan : Nat → Address) (cluster : Cluster) : World where
  address := plan
  tenure nodeId := ((cluster.runners nodeId).map fun runner => runner.swim.tenure).getD ⟨0, false⟩

/-- Whatever the nodes believe, are about to say, and have said, is true. -/
structure Candid (plan : Nat → Address) (cluster : Cluster) : Prop where
  runners : ∀ nodeId runner, cluster.runners nodeId = some runner →
    runner.swim.config.nodeId = nodeId ∧ runner.ended ≠ some .conflict ∧
      Swim.Candid (cluster.world plan) runner.swim runner.swim
  sent : ∀ message ∈ cluster.sent, ∀ event ∈ message.events, event.Holds (cluster.world plan)
  left : ∀ nodeId, ((cluster.world plan).tenure nodeId).left = true →
    0 < ((cluster.world plan).tenure nodeId).incarnation

variable {plan : Nat → Address} {cluster : Cluster} {runner : Runner} {nodeId : Nat}

/-- With a runner replaced, the world has another tenure for its node. -/
theorem world_update (messages : List Message) :
    Cluster.world plan {
      runners := Function.update cluster.runners nodeId (some runner)
      sent := messages } = (cluster.world plan).raised nodeId runner.swim.tenure := by
  simp only [world, World.raised, World.mk.injEq, true_and]
  funext other
  by_cases same : other = nodeId
  · subst same
    simp
  · simp [Function.update_of_ne same]

end Cluster

/-! ## One duty -/

namespace Runner

variable {world : World} {runner : Runner}

/-- A runner has done its duty, and has sent messages. -/
structure Performs (world : World) (runner later : Runner) (messages : List Message) : Prop where
  raised : Swim.Raised world runner.swim later.swim
  undisputed : later.ended ≠ some .conflict
  sent : ∀ message ∈ messages, ∀ event ∈ message.events,
    event.Holds (world.raised runner.swim.config.nodeId later.swim.tenure)

theorem attempt_performs {act : Act Unit} (candid : Swim.Candid world runner.swim runner.swim)
    (up : runner.ended = none) (meets : (act runner.swim).Meets (fun _ => True)
      (fun _ => Swim.Raised world runner.swim) (Swim.Raised world runner.swim)) :
    Performs world runner (runner.attempt act) [] := by
  unfold attempt
  cases answer : act runner.swim with
  | done value swim =>
      rw [answer] at meets
      exact ⟨meets, by simp [up], by simp⟩
  | failed swim =>
      rw [answer] at meets
      exact ⟨meets, by simp [up], by simp⟩
  | trapped fault => exact ⟨candid.raised, by simp, by simp⟩

/-- What waits to be sent is true, and may be sent. -/
theorem Performs.flushOutgoing {later : Runner} (performs : Performs world runner later []) :
    Performs world runner later.flushOutgoing.1 later.flushOutgoing.2 := by
  unfold Runner.flushOutgoing
  split
  · exact performs
  · obtain ⟨rises, candid⟩ := performs.raised.settled
    refine ⟨⟨_, rises, { candid with outbox := by simp [Swim.speech] }⟩, performs.undisputed, ?_⟩
    intro message listed event among
    obtain ⟨outgoing, waits, rfl⟩ := List.mem_map.mp listed
    exact candid.outbox outgoing waits event among

theorem Performs.failOnIdentityConflict {later : Runner}
    (performs : Performs world runner later []) :
    Performs world runner later.failOnIdentityConflict [] := by
  have undisputed : later.swim.identityConflict = none := performs.raised.settled.2.undisputed
  unfold Runner.failOnIdentityConflict
  rw [if_neg (by simp [undisputed])]
  exact performs

theorem perform_performs {duty : Duty} (candid : Swim.Candid world runner.swim runner.swim)
    (up : runner.ended = none)
    (leaves : duty = .leave → runner.swim.hasLeft = false → runner.swim.incarnation + 1 < 2 ^ 32)
    (genuine : ∀ now source bytes, duty = .hear now source bytes → ∀ message,
      runner.swim.authentic bytes = some message →
      ∀ event ∈ message.events, event.Holds world) :
    Performs world runner (runner.perform duty).1 (runner.perform duty).2 := by
  cases duty with
  | leave =>
      exact (attempt_performs candid up (candid.leave (leaves rfl))).flushOutgoing
  | hear now source bytes =>
      exact (attempt_performs candid up
        (candid.handleMessage (genuine now source bytes rfl))).failOnIdentityConflict
  | turn now =>
      have ticks : Swim.Raises world runner.swim (Swim.tick now) :=
        Swim.Honest.raises fun _ => Swim.honest_tick
      exact (attempt_performs candid up (ticks _ candid.raised)).flushOutgoing

/-- A runner that starts is candid, and its node has not come to anything yet. -/
theorem start_candid {config : Config} {mac : Mac} {random : Nat → Nat} {memory : Nat → Bool}
    {seeds : List Seed} (starts : start config mac random memory seeds = some runner)
    (placed : config.address = world.address config.nodeId)
    (fresh : world.tenure config.nodeId = ⟨0, false⟩)
    (known : ∀ seed ∈ seeds, seed.address = world.address seed.nodeId)
    (left : ∀ nodeId, (world.tenure nodeId).left = true → 0 < (world.tenure nodeId).incarnation) :
    runner.swim.config = config ∧ runner.ended = none ∧ runner.swim.tenure = ⟨0, false⟩ ∧
      Swim.Candid world runner.swim runner.swim := by
  obtain ⟨first, setUp, starts⟩ := Option.bind_eq_some_iff.mp starts
  have candid := Swim.init_candid setUp placed.symm fresh
  have adds : Swim.Honest world (Swim.blank config mac random memory) (each addSeed seeds) := by
    apply Keeps.each
    intro seed listed
    refine Keeps.bind ?_ fun _ => Swim.honest_joinSeed
    apply Swim.honest_addPeer (known seed listed) (left seed.nodeId)
    intro member held
    cases Swim.get_blank.symm.trans held
  have kept := adds first candid
  cases answer : each addSeed seeds first with
  | done value swim =>
      rw [answer] at kept starts
      cases starts
      refine ⟨kept.config, rfl, kept.tenure.symm.trans fresh, kept.since⟩
  | failed swim =>
      rw [answer] at starts
      cases starts
  | trapped fault =>
      rw [answer] at starts
      cases starts

end Runner

/-! ## The whole cluster -/

namespace Cluster

variable {plan : Nat → Address} {cluster : Cluster} {happening : Happening} {nodeId : Nat}

/-- When one node comes to more, and says no more than is true then, all others stay candid. -/
theorem Candid.updated {later : Runner} {messages : List Message} (candid : cluster.Candid plan)
    (named : later.swim.config.nodeId = nodeId) (undisputed : later.ended ≠ some .conflict)
    (rises : ((cluster.world plan).tenure nodeId).Rises later.swim.tenure)
    (kept : Swim.Candid ((cluster.world plan).raised nodeId later.swim.tenure) later.swim later.swim)
    (sent : ∀ message ∈ messages, ∀ event ∈ message.events,
      event.Holds ((cluster.world plan).raised nodeId later.swim.tenure)) :
    Cluster.Candid plan {
      runners := Function.update cluster.runners nodeId (some later)
      sent := cluster.sent ++ messages } := by
  have world := @world_update plan cluster later nodeId (cluster.sent ++ messages)
  refine ⟨fun other runner held => ?_, fun message listed event among => ?_, fun other gone => ?_⟩
  · rw [world]
    by_cases same : other = nodeId
    · subst same
      simp only [Function.update_self, Option.some.injEq] at held
      subst held
      exact ⟨named, undisputed, kept⟩
    · simp only [Function.update_of_ne same] at held
      obtain ⟨here, open_, candid⟩ := candid.runners other runner held
      exact ⟨here, open_, candid.others (here ▸ Ne.symm same) rises⟩
  · rw [world]
    obtain before | new := List.mem_append.mp listed
    · exact (candid.sent message before event among).raised rises
    · exact sent message new event among
  · rw [world] at gone ⊢
    simp only [World.raised] at gone ⊢
    by_cases same : other = nodeId
    · subst same
      rw [Function.update_self] at gone ⊢
      obtain equal | ⟨-, lower⟩ := rises
      · rw [equal] at gone ⊢
        exact candid.left other gone
      · exact Nat.zero_lt_of_lt lower
    · rw [Function.update_of_ne same] at gone ⊢
      exact candid.left other gone

/-- No runner goes, and whom its node has known to have left, it still knows to have. -/
def Follows (cluster later : Cluster) : Prop :=
  ∀ nodeId runner, cluster.runners nodeId = some runner → ∃ after,
    later.runners nodeId = some after ∧ runner.swim.table.Remembered after.swim.table

theorem Follows.refl (cluster : Cluster) : cluster.Follows cluster :=
  fun _ runner held => ⟨runner, held, fun _ _ known _ => known⟩

theorem Follows.trans {middle later : Cluster} (one : cluster.Follows middle)
    (two : middle.Follows later) : cluster.Follows later := by
  intro nodeId runner held
  obtain ⟨next, held', first⟩ := one nodeId runner held
  obtain ⟨last, held'', second⟩ := two nodeId next held'
  exact ⟨last, held'', fun other member known gone =>
    second other member (first other member known gone) gone⟩

theorem follows_updated {later : Runner} {messages : List Message}
    (kept : ∀ runner, cluster.runners nodeId = some runner →
      runner.swim.table.Remembered later.swim.table) :
    cluster.Follows {
      runners := Function.update cluster.runners nodeId (some later)
      sent := messages } := by
  intro other runner held
  by_cases same : other = nodeId
  · subst same
    exact ⟨later, Function.update_self .., kept runner held⟩
  · exact ⟨runner, (Function.update_of_ne same _ _).trans held, fun _ _ known _ => known⟩

theorem happen_candid (candid : cluster.Candid plan) (proper : cluster.Proper plan happening) :
    (cluster.happen happening).Candid plan ∧ cluster.Follows (cluster.happen happening) := by
  cases happening with
  | start config mac random memory seeds =>
      simp only [happen]
      split
      · rename_i runner vacant starts
        obtain ⟨placed, known⟩ := proper
        have fresh : (cluster.world plan).tenure config.nodeId = ⟨0, false⟩ := by
          simp [world, vacant]
        obtain ⟨same, up, blank, kept⟩ :=
          Runner.start_candid starts placed fresh known candid.left
        have rises : ((cluster.world plan).tenure config.nodeId).Rises runner.swim.tenure :=
          .inl (blank.trans fresh.symm)
        have still : (cluster.world plan).raised config.nodeId runner.swim.tenure =
            cluster.world plan := by
          rw [blank, ← fresh, World.raised, Function.update_eq_self]
        have here : Swim.Candid ((cluster.world plan).raised config.nodeId runner.swim.tenure)
            runner.swim runner.swim := by rwa [still]
        constructor
        · have updated := @Candid.updated _ _ _ _ [] candid (congrArg Config.nodeId same)
            (by simp [up]) rises here (by simp)
          rwa [List.append_nil] at updated
        · apply follows_updated
          intro other held
          rw [vacant] at held
          cases held
      · exact ⟨candid, Follows.refl cluster⟩
  | duty nodeId duty =>
      simp only [happen]
      cases held : cluster.runners nodeId with
      | none => exact ⟨candid, Follows.refl cluster⟩
      | some runner =>
          simp only
          split
          · exact ⟨candid, Follows.refl cluster⟩
          rename_i up
          obtain ⟨named, -, kept⟩ := candid.runners nodeId runner held
          have allowed := proper runner held
          have performs := @Runner.perform_performs _ _ duty kept (by simpa using up)
            (by rintro rfl; exact allowed)
            (by
              rintro now source bytes rfl message told event among
              exact candid.sent message (allowed message told) event among)
          obtain ⟨rises, after⟩ := performs.raised.settled
          rw [named] at rises after
          have config : (runner.perform duty).1.swim.config = runner.swim.config := after.config
          constructor
          · exact candid.updated (config ▸ named) performs.undisputed rises after.since
              (named ▸ performs.sent)
          · apply follows_updated
            intro other same
            cases held.symm.trans same
            exact after.final

/-- A cluster with no nodes is candid. -/
theorem candid_init : Cluster.Candid plan {} := by
  refine ⟨fun nodeId runner held => ?_, fun message listed => ?_, fun nodeId gone => ?_⟩
  · cases held
  · cases listed
  · cases gone

theorem run_follows {happenings : List Happening} (candid : cluster.Candid plan)
    (proper : Run.Meets happen (Proper plan) cluster happenings) :
    (Run.final happen cluster happenings).Candid plan ∧
      cluster.Follows (Run.final happen cluster happenings) := by
  induction happenings generalizing cluster with
  | nil => exact ⟨candid, Follows.refl cluster⟩
  | cons happening happenings ih =>
      obtain ⟨kept, first⟩ := happen_candid candid proper.1
      obtain ⟨last, rest⟩ := ih kept proper.2
      exact ⟨last, first.trans rest⟩

/-! ### A node that joins and leaves -/

def places (nodeId : Nat) : Address := .ip4 (Fin.ofNat _ nodeId) 7946

def begins (nodeId : Nat) (seeds : List Seed) : Happening :=
  .start { nodeId := nodeId, address := places nodeId, maxNodes := 4 } (fun _ _ => [])
    (fun _ => 0) (fun _ => true) seeds

def joining : Message where
  type := .sync
  sender := 2
  seq := 1
  target := 1
  flags := syncRequestFlag
  events := [{ nodeId := 2, status := .alive, incarnation := 0, address := places 2 }]

def parting : Message where
  type := .ack
  sender := 2
  seq := 0
  events := [{ nodeId := 2, status := .left, incarnation := 1, address := places 2 }]

def hears (now : Nat) (message : Message) : Happening := .duty 1 (.hear now (places 2) message.wire)

/-- The second node asks the first one for its view, and leaves. -/
def visit : List Happening := [
  begins 1 [],
  begins 2 [{ nodeId := 1, address := places 1 }],
  .duty 2 (.turn 0),
  hears 10 joining,
  .duty 2 .leave,
  hears 20 parting]

def proper? (cluster : Cluster) : Happening → Bool
  | .start config _ _ _ seeds => decide (config.address = places config.nodeId) &&
      seeds.all fun seed => seed.address = places seed.nodeId
  | .duty nodeId duty => (cluster.runners nodeId).all fun runner =>
      match duty with
      | .leave => decide (runner.swim.incarnation + 1 < 2 ^ 32)
      | .hear _ _ bytes => (runner.swim.authentic bytes).all fun message => message ∈ cluster.sent
      | .turn _ => true

theorem proper_of_check (check : proper? cluster happening = true) :
    Proper places cluster happening := by
  cases happening with
  | start config mac random memory seeds =>
      rw [proper?, Bool.and_eq_true, decide_eq_true_eq, List.all_eq_true] at check
      exact ⟨check.1, fun seed listed => by simpa using check.2 seed listed⟩
  | duty nodeId duty =>
      intro runner held
      rw [proper?, held, Option.all_some] at check
      cases duty with
      | leave => exact fun _ => by simpa using check
      | hear now source bytes =>
          intro message told
          simp only [told, Option.all_some, decide_eq_true_eq] at check
          exact check
      | turn now => trivial

/-- Whatever the network does with what has been sent, all that the nodes of a cluster hold, are
about to say, and have said of a node is true: it has this address, it has come to this incarnation,
and it has left with exactly this incarnation if and only if that is said. No process is ended
because two nodes seem to claim the same id. -/
theorem views_are_true {happenings : List Happening}
    (proper : Run.Meets happen (Proper plan) {} happenings) :
    let cluster := Run.final happen {} happenings
    (∀ nodeId runner, cluster.runners nodeId = some runner →
      runner.ended ≠ some .conflict ∧
      (∀ member ∈ runner.swim.table.members, member.event.Holds (cluster.world plan)) ∧
      (∀ entry ∈ runner.swim.gossipQueue, entry.event.Holds (cluster.world plan)) ∧
      ∀ outgoing ∈ runner.swim.outbox, ∀ event ∈ outgoing.message.events,
        event.Holds (cluster.world plan)) ∧
    ∀ message ∈ cluster.sent, ∀ event ∈ message.events, event.Holds (cluster.world plan) := by
  intro cluster
  have candid : cluster.Candid plan := (run_follows candid_init proper).1
  refine ⟨fun nodeId runner held => ?_, candid.sent⟩
  obtain ⟨-, undisputed, kept⟩ := candid.runners nodeId runner held
  refine ⟨undisputed, fun member listed => ?_, kept.queue, kept.outbox⟩
  exact kept.table member.nodeId member (Table.mem_members.mp listed)

/-- The first node has heard that the second one has left. -/
theorem views_are_true_visit : ∃ runner, (Run.final happen {} visit).runners 1 = some runner ∧
    runner.swim.table.members = [⟨2, places 2, .left, 1⟩] ∧
    ∀ member ∈ runner.swim.table.members,
      member.event.Holds ((Run.final happen {} visit).world places) := by
  have proper : Run.Meets happen (fun cluster happening => proper? cluster happening = true) {}
      visit := by decide +kernel
  have known : ((Run.final happen {} visit).runners 1).map (fun runner =>
      runner.swim.table.members) = some [⟨2, places 2, .left, 1⟩] := by decide +kernel
  obtain ⟨runner, held, members⟩ := Option.map_eq_some_iff.mp known
  have true_ := views_are_true (proper.mono fun _ _ => proper_of_check)
  exact ⟨runner, held, members, (true_.1 1 runner held).2.1⟩

/-- If a node has a member as left, the member has left, with the incarnation that the node has of
it; and the node has it so ever after, whatever it is told later. -/
theorem left_is_final {happenings later : List Happening}
    (proper : Run.Meets happen (Proper plan) {} (happenings ++ later)) :
    ∀ nodeId runner member, (Run.final happen {} happenings).runners nodeId = some runner →
      member ∈ runner.swim.table.members → member.status = .left →
      (∃ gone, (Run.final happen {} happenings).runners member.nodeId = some gone ∧
        gone.swim.hasLeft = true ∧ gone.swim.incarnation = member.incarnation) ∧
      ∃ after, (Run.final happen {} (happenings ++ later)).runners nodeId = some after ∧
        member ∈ after.swim.table.members := by
  intro nodeId runner member held listed gone
  rw [Run.meets_append] at proper
  have candid := (run_follows candid_init proper.1).1
  have known := Table.mem_members.mp listed
  constructor
  · have holds := (candid.runners nodeId runner held).2.2.table member.nodeId member known
    obtain ⟨left, last⟩ := holds.left.mp gone
    simp only [Member.event, world] at left last
    cases here : (Run.final happen {} happenings).runners member.nodeId with
    | none => simp [here] at left
    | some other =>
        rw [here] at left last
        exact ⟨other, rfl, left, last.symm⟩
  · rw [Run.final_append]
    obtain ⟨after, still, remembers⟩ := (run_follows candid proper.2).2 nodeId runner held
    refine ⟨after, still, Table.mem_members.mpr (remembers member.nodeId member known gone)⟩

/-- The first node hears again, and late, that the second one lives. -/
theorem left_is_final_visit : ∃ after,
    (Run.final happen {} (visit ++ [hears 30 joining])).runners 1 = some after ∧
      ⟨2, places 2, .left, 1⟩ ∈ after.swim.table.members := by
  have proper : Run.Meets happen (fun cluster happening => proper? cluster happening = true) {}
      (visit ++ [hears 30 joining]) := by decide +kernel
  have known : ((Run.final happen {} visit).runners 1).map (fun runner =>
      runner.swim.table.members) = some [⟨2, places 2, .left, 1⟩] := by decide +kernel
  obtain ⟨runner, held, members⟩ := Option.map_eq_some_iff.mp known
  exact (left_is_final (proper.mono fun _ _ => proper_of_check) 1 runner ⟨2, places 2, .left, 1⟩
    held (by simp [members]) rfl).2

end Cluster

end LyuneGateway.Membership
