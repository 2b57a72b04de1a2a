import LyuneGateway.Membership.Verdicts

/-!
# Who has told of a suspect, and since when it is one

Beside the node stand the reports that have been made, each with the node that
has made it, and since when each member has been held suspect. If every message
about a suspect comes from the node that it names, and nobody becomes suspect
anew while it is suspect, the sources of a suspicion are nodes that have reported
its member, and no member is taken for dead by the clock too soon.
-/

namespace LyuneGateway.Membership

open Control (NodeStatus)
open Faulty

/-- A node has told that a member is suspect in an incarnation. -/
structure Report where
  origin : Nat
  nodeId : Nat
  incarnation : Nat
  deriving DecidableEq

/-- How long a member has been held suspect: the time at which that began, and the least share of a
suspicion that there has been since then. -/
structure Spell where
  since : Nat
  least : Nat
  deriving DecidableEq

namespace Swim

variable {swim after : Swim} {now nodeId : Nat}

/-- The least share of a suspicion, in the states that the steps begin in. -/
def leastShare {ι : Type} (act : ι → Act Unit) : List ι → Swim → Nat
  | [], swim => swim.share
  | item :: items, swim =>
      match act item swim with
      | .done _ next => min swim.share (leastShare act items next)
      | _ => swim.share

theorem leastShare_turns {ι : Type} {act : ι → Act Unit} {items : List ι} {bound : Nat}
    (least : bound ≤ leastShare act items swim) :
    Turns (fun _ state => bound ≤ state.share) act items swim := by
  induction items generalizing swim with
  | nil => trivial
  | cons item items ih =>
      rw [leastShare] at least
      refine ⟨?_, fun next answer => ?_⟩
      · split at least
        · exact (le_min_iff.mp least).1
        · exact least
      · rw [answer] at least
        exact ih (le_min_iff.mp least).2

/-- What the node itself finds out about the member that it probes. -/
def findings (now : Nat) (swim : Swim) : List Report :=
  match swim.probe with
  | none => []
  | some probe =>
      match swim.table.get probe.target with
      | none => []
      | some member =>
          if probe.periodDeadline ≤ now ∧ member.status = .alive then
            [⟨swim.config.nodeId, probe.target, member.incarnation⟩]
          else []

theorem mem_findings {member : Member} (fails : Fails now nodeId swim)
    (known : swim.table.get nodeId = some member) :
    ⟨swim.config.nodeId, nodeId, member.incarnation⟩ ∈ findings now swim := by
  obtain ⟨probe, other, held, rfl, due, known', trusted⟩ := fails
  cases known.symm.trans known'
  rw [findings, held]
  simp only [known, due, trusted, and_self, if_true, List.mem_singleton]

def Suspects (swim : Swim) (nodeId incarnation : Nat) : Prop :=
  (swim.table.get nodeId).any (fun member =>
    member.status = .suspect ∧ member.incarnation = incarnation) = true

instance {incarnation : Nat} : Decidable (swim.Suspects nodeId incarnation) :=
  inferInstanceAs (Decidable (_ = true))

theorem suspects_of_get {member : Member} (known : swim.table.get nodeId = some member)
    (suspected : member.status = .suspect) : swim.Suspects nodeId member.incarnation := by
  simp [Suspects, known, suspected]

namespace Command

/-- The clock of the node after the command. -/
def time (clock : Nat) : Command → Nat
  | tick now => now
  | message now .. => now
  | _ => clock

/-- What is reported with a message, by the node that has made it, or found out by the node. -/
def reports (swim : Swim) (origin : Nat) : Command → List Report
  | tick now =>
      match expireSuspicions now swim with
      | .done _ next => findings now next
      | _ => []
  | message _ _ bytes =>
      match receive bytes swim with
      | .done (some heard) _ => (heard.events.filter fun event => event.status = .suspect).map
          fun event => ⟨origin, event.nodeId, event.incarnation⟩
      | _ => []
  | _ => []

/-- The least share of a suspicion in the course of a command. -/
def least (swim : Swim) : Command → Nat
  | tick now =>
      match expireSuspicions now swim with
      | .done _ next => next.share
      | _ => swim.share
  | message now _ bytes =>
      match receive bytes swim with
      | .done (some heard) next =>
          leastShare (fun event => applyEventFrom now event (some heard.sender)) heard.events next
      | _ => swim.share
  | _ => swim.share

/-- The node that is named as the sender of a message about a suspect is the one that has made the
message, and no event makes a member suspect anew while there is a suspicion of it. -/
def Genuine (swim : Swim) (origin : Nat) : Command → Prop
  | message now source bytes => ∀ message next, receive bytes swim = .done (some message) next →
      (∀ event ∈ message.events, event.status = .suspect → message.sender = origin) ∧
      (¬ next.misplaced source message →
        Turns Clear (fun event => applyEventFrom now event (some message.sender))
          message.events next)
  | _ => True

end Command

/-! ## Checking that a command is ready -/

instance {event : Event} : Decidable (swim.Publishes event) := by
  unfold Publishes
  infer_instance

instance : Decidable (Expires now nodeId swim) := by
  unfold Expires
  infer_instance

instance {event : Event} : DecidablePred (Ready False event) := fun swim =>
  decidable_of_iff (swim.Publishes event → swim.table.Room event.nodeId)
    ⟨fun room => ⟨room, False.elim⟩, Ready.room⟩

instance {event : Event} : DecidablePred (Clear event) := fun _ =>
  inferInstanceAs (Decidable (_ → _ → _))

/-- Only the member that is probed can have failed. -/
instance : Decidable (∀ nodeId, Fails now nodeId swim → swim.table.Room nodeId) :=
  decidable_of_iff (∀ probe ∈ swim.probe, probe.periodDeadline ≤ now →
      (swim.table.get probe.target).any (fun member => member.status = .alive) = true →
      swim.table.Room probe.target)
    ⟨fun all nodeId fails => by
      obtain ⟨probe, member, held, rfl, due, known, trusted⟩ := fails
      exact all probe held due (by simp [known, trusted]), fun all probe held due trusted => by
      obtain ⟨member, known, trusted⟩ := (Option.any_eq_true _ _).mp trusted
      exact all probe.target ⟨probe, member, held, rfl, due, known, by simpa using trusted⟩⟩

instance : Decidable (ReadyToTick now swim) :=
  decidable_of_iff
    (Turns (fun nodeId swim => Expires now nodeId swim → swim.table.Room nodeId)
        (expireSuspicion now) (List.range swim.config.maxNodes) swim ∧
      ∀ next, expireSuspicions now swim = .done () next →
        ∀ nodeId, Fails now nodeId next → next.table.Room nodeId)
    ⟨fun ready => ⟨ready.1, ready.2⟩, fun ready => ⟨ready.expire, ready.fail⟩⟩

instance {source : Address} {bytes : Bytes} : Decidable (ReadyToHear False now source bytes swim) :=
  decidableFound

instance : ∀ command : Command, Decidable (command.Ready False swim)
  | .addPeer .. => inferInstanceAs (Decidable (Table.Room _ _))
  | .tick _ => inferInstanceAs (Decidable (ReadyToTick _ _))
  | .message .. => inferInstanceAs (Decidable (ReadyToHear _ _ _ _ _))
  | .joinSeed _ => isTrue trivial
  | .leave => isTrue False.elim
  | .clearOutgoing => isTrue trivial

instance {origin : Nat} : ∀ command : Command, Decidable (command.Genuine swim origin)
  | .message .. => decidableFound
  | .addPeer .. | .tick _ | .joinSeed _ | .leave | .clearOutgoing => isTrue trivial

end Swim

open Swim

/-! ## Watching a node -/

/-- A command to a node, with the node that has made the message that it gets. -/
structure Occurrence where
  command : Command
  origin : Nat := 0

/-- A node, its clock, the reports that have been made, and the spells of the suspects. -/
structure Watch where
  node : Swim
  clock : Nat := 0
  reports : List Report := []
  held : Nat → Nat → Option Spell := fun _ _ => none

namespace Watch

variable {watch after : Watch} {occurrence : Occurrence}

/-- Spells that have begun last on, and the others begin with the suspicion. -/
def prolonged (watch : Watch) (node : Swim) (now least nodeId incarnation : Nat) : Option Spell :=
  match watch.held nodeId incarnation with
  | some spell => some { spell with least := min spell.least least }
  | none => if node.Suspects nodeId incarnation then some ⟨now, least⟩ else none

def next (watch : Watch) (occurrence : Occurrence) : Option Watch :=
  (occurrence.command.run watch.node).state?.map fun node =>
    let now := occurrence.command.time watch.clock
    { node := node
      clock := now
      reports := watch.reports ++ occurrence.command.reports watch.node occurrence.origin
      held := watch.prolonged node now (occurrence.command.least watch.node) }

/-- The watch after a command; none if the process has stopped. -/
def step (watch : Option Watch) (occurrence : Occurrence) : Option Watch :=
  watch.bind fun watch => watch.next occurrence

/-- The clock does not go back, and what is told comes from the node that it names. -/
structure Fair (watch : Watch) (occurrence : Occurrence) : Prop where
  ready : occurrence.command.Ready False watch.node
  forward : watch.clock ≤ occurrence.command.time watch.clock
  genuine : occurrence.command.Genuine watch.node occurrence.origin

instance {watch : Watch} {occurrence : Occurrence} : Decidable (watch.Fair occurrence) :=
  decidable_of_iff (occurrence.command.Ready False watch.node ∧
      watch.clock ≤ occurrence.command.time watch.clock ∧
      occurrence.command.Genuine watch.node occurrence.origin)
    ⟨fun fair => ⟨fair.1, fair.2.1, fair.2.2⟩, fun fair => ⟨fair.ready, fair.forward, fair.genuine⟩⟩

/-- The nodes that have reported a member are heard, and it has the least share from the time on that
it has been suspect. -/
def terms (watch : Watch) : Terms where
  hears origin nodeId incarnation := ⟨origin, nodeId, incarnation⟩ ∈ watch.reports
  due nodeId incarnation :=
    ((watch.held nodeId incarnation).map fun spell => spell.since + spell.least).getD 0

/-- The terms in the course of a command, in which spells may begin. -/
def during (watch : Watch) (occurrence : Occurrence) : Terms where
  hears origin nodeId incarnation := ⟨origin, nodeId, incarnation⟩ ∈
    watch.reports ++ occurrence.command.reports watch.node occurrence.origin
  due nodeId incarnation :=
    let least := occurrence.command.least watch.node
    match watch.held nodeId incarnation with
    | some spell => spell.since + min spell.least least
    | none => occurrence.command.time watch.clock + least

/-- What holds of a watch: suspicions are attested by the reports, and every suspect has a spell. -/
structure Founded (watch : Watch) : Prop where
  upright : Upright watch.node
  attested : Attested watch.terms watch.node
  begun : ∀ nodeId incarnation, watch.node.Suspects nodeId incarnation →
    (watch.held nodeId incarnation).isSome = true
  past : ∀ nodeId incarnation spell, watch.held nodeId incarnation = some spell →
    spell.since ≤ watch.clock

theorem Founded.suspected (founded : Founded watch) {nodeId : Nat} {suspicion : Suspicion}
    {member : Member} (held : watch.node.suspicions nodeId = some suspicion)
    (known : watch.node.table.get nodeId = some member) : member.status = .suspect := by
  obtain ⟨other, known', suspected⟩ :=
    (founded.upright.tracks nodeId).mpr (Option.isSome_of_eq_some held)
  cases known.symm.trans known'
  exact suspected

theorem Founded.during (founded : Founded watch) :
    Attested (watch.during occurrence) watch.node := by
  intro nodeId suspicion held
  obtain ⟨member, known, vouched⟩ := founded.attested nodeId suspicion held
  refine ⟨member, known, ?_⟩
  obtain ⟨spell, begun⟩ := Option.isSome_iff_exists.mp
    (founded.begun nodeId _ (suspects_of_get known (founded.suspected held known)))
  have late := vouched.late
  simp only [terms, begun, Option.map_some, Option.getD_some] at late
  exact {
    distinct := vouched.distinct
    sources := fun source counted => List.mem_append_left _ (vouched.sources source counted)
    few := vouched.few
    late := by
      simp only [Watch.during, begun]
      exact (Nat.add_le_add_left (min_le_left _ _) _).trans late }

/-- A state with no smaller share than the least one of the command leaves everybody enough time. -/
theorem Founded.ample (founded : Founded watch) (fair : Fair watch occurrence) {state : Swim}
    (least : occurrence.command.least watch.node ≤ state.share) :
    Ample (watch.during occurrence) (occurrence.command.time watch.clock) state := by
  intro nodeId incarnation
  simp only [Watch.during]
  split
  · rename_i spell held
    have past := founded.past nodeId incarnation spell held
    exact Nat.add_le_add (past.trans fair.forward) ((min_le_right _ _).trans least)
  · exact Nat.add_le_add_left least _

theorem Founded.heeds (founded : Founded watch) (fair : Fair watch occurrence) :
    occurrence.command.Heeds (watch.during occurrence) watch.node := by
  obtain ⟨command, origin⟩ := occurrence
  have ample := fun state => @Founded.ample watch ⟨command, origin⟩ founded fair state
  have genuine := fair.genuine
  cases command with
  | tick now =>
      intro next answer
      simp only [Command.least, answer] at ample
      refine ⟨ample next le_rfl, fun nodeId member fails known => List.mem_append_right _ ?_⟩
      simp only [Command.reports, answer]
      exact mem_findings fails known
  | message now source bytes =>
      intro message next received
      obtain ⟨named, clear⟩ := genuine message next received
      simp only [Command.least, received] at ample
      refine ⟨fun event listed suspected => List.mem_append_right _ ?_, fun placed => ?_⟩
      · simp only [Command.reports, received, named event listed suspected]
        exact List.mem_map.mpr ⟨event, List.mem_filter.mpr ⟨listed, by simpa using suspected⟩, rfl⟩
      · exact ((clear placed).and (leastShare_turns le_rfl)).mono
          fun event state both => ⟨both.1, ample state both.2⟩
  | addPeer nodeId address => trivial
  | joinSeed address => trivial
  | leave => trivial
  | clearOutgoing => trivial

/-- The terms of a command come to hold of the watch after it. -/
theorem Founded.next (founded : Founded watch) (fair : Fair watch occurrence)
    (fresh : occurrence.command.Adds → Fresh watch.node)
    (answer : watch.next occurrence = some after) :
    Founded after ∧ (occurrence.command.Adds → Fresh after.node) := by
  let command := occurrence.command
  have kept := command.run_keeps False.elim False.elim founded.upright fresh fair.ready
  have attested := command.run_attested founded.upright fresh fair.ready
    (Founded.during founded) (founded.heeds fair)
  simp only [Watch.next, Option.map_eq_some_iff] at answer
  obtain ⟨node, ends, rfl⟩ := answer
  obtain ⟨holds, freshAfter, attested⟩ : Holds False watch.node.view node ∧
      (command.Adds → Fresh node) ∧ Attested (watch.during occurrence) node := by
    obtain ⟨⟨holds, freshAfter⟩, attested⟩ := (meets_and kept attested).leaves ends
    exact ⟨holds, freshAfter, attested⟩
  refine ⟨?_, freshAfter⟩
  have begun : ∀ nodeId incarnation, node.Suspects nodeId incarnation →
      (watch.prolonged node (command.time watch.clock) (command.least watch.node) nodeId
        incarnation).isSome = true := by
    intro nodeId incarnation suspects
    rw [prolonged]
    split
    · rfl
    · rw [if_pos suspects]
      rfl
  exact {
    upright := holds.upright
    attested := by
      intro nodeId suspicion held
      obtain ⟨member, known, vouched⟩ := attested nodeId suspicion held
      obtain ⟨other, known', suspected⟩ :=
        (holds.tracks nodeId id).mpr (Option.isSome_of_eq_some held)
      cases known.symm.trans known'
      have suspects := suspects_of_get known suspected
      refine ⟨member, known, ⟨vouched.distinct, vouched.sources, vouched.few, ?_⟩⟩
      have late := vouched.late
      simp only [Watch.during, terms, prolonged] at late ⊢
      split at late
      · exact late
      · rw [if_pos suspects]
        exact late
    begun := begun
    past := by
      intro nodeId incarnation spell held
      simp only [prolonged] at held
      split at held
      · rename_i before begun
        cases held
        exact (founded.past nodeId incarnation before begun).trans fair.forward
      · split at held
        · cases held
          exact le_rfl
        · cases held }

/-! ## Runs -/

/-- The command is fair in the state that it meets. -/
def Just (watch : Option Watch) (occurrence : Occurrence) : Prop :=
  ∀ present ∈ watch, Fair present occurrence

instance (watch : Option Watch) : Decidable (Just watch occurrence) :=
  inferInstanceAs (Decidable (∀ present ∈ watch, Fair present occurrence))

theorem final_step_none (occurrences : List Occurrence) :
    Run.final step none occurrences = none := by
  induction occurrences with
  | nil => rfl
  | cons occurrence occurrences ih => exact ih

theorem Founded.run {occurrences : List Occurrence} (founded : Founded watch)
    (fresh : ∀ occurrence ∈ occurrences, occurrence.command.Adds → Fresh watch.node)
    (ordered : Ordered (occurrences.map Occurrence.command))
    (just : Run.Meets step Just (some watch) occurrences)
    (leads : Run.final step (some watch) occurrences = some after) : Founded after := by
  induction occurrences generalizing watch with
  | nil =>
      cases leads
      exact founded
  | cons occurrence occurrences ih =>
      rw [Run.final_cons] at leads
      obtain ⟨ordered, later⟩ := List.pairwise_cons.mp ordered
      have fair := just.1 watch rfl
      have meets := just.2
      change Run.Meets step Just (watch.next occurrence) occurrences at meets
      change Run.final step (watch.next occurrence) occurrences = some after at leads
      cases answer : watch.next occurrence with
      | none =>
          rw [answer, final_step_none] at leads
          cases leads
      | some next =>
          rw [answer] at leads meets
          obtain ⟨founded, freshNext⟩ :=
            founded.next fair (fresh occurrence List.mem_cons_self) answer
          exact ih founded (fun other listed adds =>
            freshNext (ordered other.command (List.mem_map_of_mem listed) adds)) later meets leads

section Life

variable {config : Config} {mac : Mac} {random : Nat → Nat} {memory : Nat → Bool} {first : Swim}

theorem founded_init (starts : init config mac random memory = some first) :
    Founded { node := first } := by
  obtain ⟨upright, fresh, -⟩ := init_upright starts
  exact {
    upright := upright
    attested := by
      intro nodeId suspicion held
      rw [fresh.suspicions] at held
      cases held
    begun := by
      intro nodeId incarnation suspects
      obtain ⟨member, known, suspected⟩ := (Option.any_eq_true _ _).mp suspects
      rw [decide_eq_true_eq, (fresh.members nodeId member known).1] at suspected
      cases suspected.1
    past := by
      intro _ _ _ held
      cases held }

/-- In a run in which every message about a suspect comes from the node that it names, and nobody
becomes suspect anew while it is suspect, the sources of a suspicion are different nodes that have
reported the member in its present incarnation, and the clock does not take a member for dead before
the least share of a suspicion has passed since it has been held suspect in that incarnation. -/
theorem suspicions_are_earned {before later : List Occurrence}
    (starts : init config mac random memory = some first)
    (ordered : Ordered ((before ++ later).map Occurrence.command))
    (just : Run.Meets step Just (some { node := first }) (before ++ later))
    (reached : Run.final step (some { node := first }) before = some watch) :
    (∀ nodeId suspicion, watch.node.suspicions nodeId = some suspicion →
      ∃ member, watch.node.table.get nodeId = some member ∧ member.status = .suspect ∧
        suspicion.sources.Nodup ∧
        ∀ source ∈ suspicion.sources, ⟨source, nodeId, member.incarnation⟩ ∈ watch.reports) ∧
    ∀ now origin next, later.head? = some ⟨.tick now, origin⟩ →
      watch.next ⟨.tick now, origin⟩ = some next →
      ∀ nodeId member, next.node.table.get nodeId = some member → member.status = .dead →
        watch.node.table.get nodeId = some member ∨
          ∃ spell, watch.held nodeId member.incarnation = some spell ∧
            spell.since + spell.least ≤ now := by
  obtain ⟨justBefore, justLater⟩ := Run.meets_append.mp just
  rw [List.map_append] at ordered
  have founded := (founded_init starts).run (fun _ _ _ => (init_upright starts).2.1)
    (List.pairwise_append.mp ordered).1 justBefore reached
  refine ⟨?_, ?_⟩
  · intro nodeId suspicion held
    obtain ⟨member, known, vouched⟩ := founded.attested nodeId suspicion held
    exact ⟨member, known, founded.suspected held known, vouched.distinct, vouched.sources⟩
  · intro now origin next ticks answer nodeId member known dead
    rw [reached] at justLater
    have fair : Fair watch ⟨.tick now, origin⟩ := by
      cases later with
      | nil => cases ticks
      | cons occurrence later =>
          cases ticks
          exact justLater.1 watch rfl
    have firm : Firm watch.node.view (watch.during ⟨.tick now, origin⟩) watch.node :=
      ⟨founded.upright.holds, founded.during⟩
    have ended := tick_attested firm fair.ready (founded.heeds fair)
    simp only [Watch.next, Option.map_eq_some_iff] at answer
    obtain ⟨node, ends, rfl⟩ := answer
    have sentenced : Sentenced now watch.node node := (ended.leaves ends).2
    obtain same | ⟨accused, expired, rfl, rfl⟩ := sentenced nodeId member known dead
    · exact .inl same
    · obtain ⟨suspicion, held, due⟩ := expired.due
      obtain ⟨other, known', vouched⟩ := founded.attested accused.nodeId suspicion held
      cases expired.known.symm.trans known'
      obtain ⟨spell, begun⟩ := Option.isSome_iff_exists.mp (founded.begun accused.nodeId _
        (suspects_of_get expired.known expired.suspected))
      have late := vouched.late
      simp only [terms, begun, Option.map_some, Option.getD_some] at late
      exact .inr ⟨spell, begun, late.trans due⟩

end Life

/-- The node of the small cluster, which has not done anything yet. -/
def smallNode : Swim :=
  (init small (fun _ _ => []) (fun _ => 0) fun _ => true).get (by decide +kernel)

theorem smallNode_starts :
    init small (fun _ _ => []) (fun _ => 0) (fun _ => true) = some smallNode :=
  (Option.some_get _).symm

/-- A node tells at a time that a member is suspect in an incarnation. -/
def accuse (now incarnation : Nat) : Occurrence where
  command := .message now (.ip4 2 7946) (telling (said .suspect incarnation)).wire
  origin := 2

/-- A member is suspected by another node, and is taken for dead after the whole time. -/
theorem suspicions_are_earned_small : ∃ watch next,
    Run.final step (some { node := smallNode })
      [{ command := .addPeer 3 (.ip4 3 7946) }, accuse 0 0] = some watch ∧
    (∀ suspicion, watch.node.suspicions 3 = some suspicion →
      ∀ source ∈ suspicion.sources, ∃ incarnation, ⟨source, 3, incarnation⟩ ∈ watch.reports) ∧
    watch.next { command := .tick 4000 } = some next ∧
    ∃ member, next.node.table.get 3 = some member ∧ member.status = .dead ∧
      ∃ spell, watch.held 3 member.incarnation = some spell ∧ spell.since + spell.least ≤ 4000 := by
  let before : List Occurrence := [{ command := .addPeer 3 (.ip4 3 7946) }, accuse 0 0]
  let last : Occurrence := { command := .tick 4000 }
  let watch : Watch :=
    (Run.final step (some { node := smallNode }) before).get (by decide +kernel)
  let next : Watch := (watch.next last).get (by decide +kernel)
  have reached : Run.final step (some { node := smallNode }) before = some watch :=
    (Option.some_get _).symm
  have answer : watch.next last = some next := (Option.some_get _).symm
  have ordered : Ordered ((before ++ [last]).map Occurrence.command) := by
    simp [Ordered, before, last, accuse, Command.Adds]
  have just : Run.Meets step Just (some { node := smallNode }) (before ++ [last]) := by
    decide +kernel
  obtain ⟨earned, waits⟩ := suspicions_are_earned smallNode_starts ordered just reached
  have dead : (next.node.table.get 3).any (fun member => member.status = .dead) = true := by
    decide +kernel
  have alive : (watch.node.table.get 3).all (fun member => member.status ≠ .dead) = true := by
    decide +kernel
  obtain ⟨member, known, dead⟩ := (Option.any_eq_true _ _).mp dead
  rw [decide_eq_true_eq] at dead
  refine ⟨watch, next, reached, ?_, answer, member, known, dead, ?_⟩
  · intro suspicion held source counted
    obtain ⟨accused, -, -, -, sources⟩ := earned 3 suspicion held
    exact ⟨accused.incarnation, sources source counted⟩
  · obtain same | spell := waits 4000 0 next rfl answer 3 member known dead
    · rw [same] at alive
      simp [dead] at alive
    · exact spell

/-! ### Words that are counted for others, and suspicions that outlast an incarnation -/

/-- The other node of the small cluster that probes a member for the node. -/
def helper : Config where
  nodeId := 2
  address := .ip4 2 7946
  maxNodes := 16
  narrow := small.narrow

/-- The helper hears of a suspect from a fifth node, and then probes the fourth one. -/
def helping : List Command := [
  .addPeer 1 (.ip4 1 7946),
  .addPeer 3 (.ip4 3 7946),
  .addPeer 4 (.ip4 4 7946),
  .message 0 (.ip4 5 7946) (Message.wire {
    type := .ping
    sender := 5
    seq := 0
    events := [said .suspect 0] }),
  .message 0 (.ip4 1 7946) (Message.wire { type := .pingReq, sender := 1, seq := 7, target := 4 }),
  .clearOutgoing,
  .message 0 (.ip4 4 7946) (Message.wire { type := .ack, sender := 4, seq := 1 })]

/-- The acknowledgement of the fourth node, as the helper relays it. -/
def relayed : Message where
  type := .ack
  sender := 4
  seq := 7
  events := [said .suspect 0, {
    nodeId := 2
    status := .alive
    incarnation := 0
    address := .ip4 2 7946 }]

def acquainted : List Occurrence := [
  { command := .addPeer 2 (.ip4 2 7946) },
  { command := .addPeer 3 (.ip4 3 7946) },
  { command := .addPeer 4 (.ip4 4 7946) }]

/-- The helper relays an acknowledgement, and the node counts the one who is acknowledged as a source
of the suspicion that the helper tells of. A member that becomes suspect anew is dead at once. -/
theorem words_are_misattributed :
    (Run.final perform (init helper (fun _ _ => []) (fun _ => 0) fun _ => true) helping).map
      (fun node => node.outbox.map fun sent => (sent.recipient, sent.message.wire)) =
      some [(.ip4 1 7946, relayed.wire)] ∧
    (∃ watch, Run.final step (some { node := smallNode })
        (acquainted ++ [⟨.message 0 (.ip4 2 7946) relayed.wire, 2⟩]) = some watch ∧
      (watch.node.suspicions 3).map Suspicion.sources = some [4] ∧
      ∀ report ∈ watch.reports, report.origin ≠ 4) ∧
    ∃ watch next, Run.final step (some { node := smallNode })
        (acquainted ++ [accuse 0 0, accuse 7999 1]) = some watch ∧
      watch.held 3 1 = some ⟨7999, 2000⟩ ∧ watch.next { command := .tick 8000 } = some next ∧
      (watch.node.table.get 3).map (fun member => (member.status, member.incarnation)) =
        some (.suspect, 1) ∧
      (next.node.table.get 3).map (fun member => (member.status, member.incarnation)) =
        some (.dead, 1) := by
  refine ⟨by decide +kernel, ?_, ?_⟩
  · let watch : Watch := (Run.final step (some { node := smallNode })
      (acquainted ++ [⟨.message 0 (.ip4 2 7946) relayed.wire, 2⟩])).get (by decide +kernel)
    exact ⟨watch, (Option.some_get _).symm, by decide +kernel, by decide +kernel⟩
  · let watch : Watch := (Run.final step (some { node := smallNode })
      (acquainted ++ [accuse 0 0, accuse 7999 1])).get (by decide +kernel)
    let next : Watch := (watch.next { command := .tick 8000 }).get (by decide +kernel)
    exact ⟨watch, next, (Option.some_get _).symm, by decide +kernel, (Option.some_get _).symm,
      by decide +kernel, by decide +kernel⟩

end Watch

end LyuneGateway.Membership
