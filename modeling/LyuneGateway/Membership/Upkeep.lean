import LyuneGateway.Membership.Piggyback

/-!
# Events keep what the protocol keeps

An event about a member is merged into the table, and the suspicion of the member
follows its status. What stands in the way is the end of a range: the number of
a slot that would start over, and an incarnation that cannot be topped.
-/

namespace LyuneGateway.Membership

open Control (NodeStatus)
open Faulty

/-- What the event says of the member. -/
def Event.member (event : Event) : Member where
  nodeId := event.nodeId
  address := event.address
  status := event.status
  incarnation := event.incarnation

/-- The address that is kept is the one that the event names as well. -/
theorem Event.member_of_fits {event : Event} {current : Option Member}
    (fits : ∀ member, current = some member → member.address = event.address) :
    { nodeId := event.nodeId
      address := (current.map Member.address).getD event.address
      status := event.status
      incarnation := event.incarnation : Member } = event.member := by
  cases current with
  | none => rfl
  | some member =>
      rw [Event.member, ← fits member rfl]
      rfl

namespace Swim

variable {strict : Prop} {start : View} {now nodeId : Nat} {swim : Swim} {event : Event}

/-- The event makes the node state a higher incarnation of itself. -/
def Refutes (swim : Swim) (event : Event) : Prop :=
  event.nodeId = swim.config.nodeId ∧ event.address = swim.config.address ∧
    swim.hasLeft = false ∧
    (if event.status = .alive then swim.incarnation < event.incarnation
      else swim.incarnation ≤ event.incarnation)

/-- The event is news about another node, which is stored. -/
def Publishes (swim : Swim) (event : Event) : Prop :=
  event.nodeId ≠ swim.config.nodeId ∧ event.nodeId ≠ 0 ∧ event.nodeId < swim.config.maxNodes ∧
    (∀ member, swim.table.get event.nodeId = some member → member.address = event.address) ∧
    accepts (swim.table.get event.nodeId) event = true

/-- The event meets no end of a range. -/
structure Ready (strict : Prop) (event : Event) (swim : Swim) : Prop where
  room : swim.Publishes event → swim.table.Room event.nodeId
  incarnation : strict → swim.Refutes event → event.incarnation + 1 < 2 ^ 32

/-! ## The node itself -/

theorem Stands.withHealth {excepted : Nat → Prop} {multiplier : Nat}
    (stands : Stands strict start excepted swim)
    (health : 1 ≤ multiplier ∧ multiplier ≤ swim.config.params.lhmMaxMultiplier) :
    Stands strict start excepted { swim with healthMultiplier := multiplier } where
  sound := { stands.sound with health := health }
  tracks := stands.tracks
  since := {
    config := stands.since.config
    members := stands.since.members
    incarnation := stands.since.incarnation }
  supplied := stands.supplied

theorem penalizeHealth_meets {trap : Fault → Prop} (stands : Holds strict start swim) :
    (penalizeHealth swim).Meets trap
      (fun _ after => Holds strict start after ∧ after.incarnation = swim.incarnation)
      fun _ => False := by
  rw [penalizeHealth, modify_apply]
  split
  · rename_i below
    exact ⟨stands.withHealth ⟨Nat.le_add_left 1 _, below⟩, rfl⟩
  · exact ⟨stands, rfl⟩

theorem kept_recoverHealth : Kept strict start recoverHealth := by
  apply Keeps.modify
  intro swim stands
  split
  · rename_i above
    apply stands.withHealth
    exact ⟨Nat.le_sub_of_add_le above, (Nat.sub_le _ 1).trans stands.sound.health.2⟩
  · exact stands

/-- A higher incarnation of the node itself takes nothing back. -/
theorem Stands.withIncarnation {excepted : Nat → Prop} {incarnation : Nat}
    (stands : Stands strict start excepted swim)
    (higher : strict → swim.incarnation ≤ incarnation) :
    Stands strict start excepted { swim with incarnation := incarnation } where
  sound := {
    valid := stands.sound.valid
    named := stands.sound.named
    counted := stands.sound.counted
    capacity := stands.sound.capacity
    own := stands.sound.own
    health := stands.sound.health }
  tracks := stands.tracks
  since := {
    config := stands.since.config
    members := stands.since.members
    incarnation := fun counting => (stands.since.incarnation counting).trans (higher counting) }
  supplied := stands.supplied

theorem handleSelfEvent_keeps (moderate : strict → start.config.Moderate)
    (stands : Holds strict start swim)
    (room : strict → swim.hasLeft = false →
      (if event.status = .alive then swim.incarnation < event.incarnation
        else swim.incarnation ≤ event.incarnation) → event.incarnation + 1 < 2 ^ 32) :
    (handleSelfEvent event swim).Meets (Tolerated strict) (fun _ => Holds strict start)
      (Holds strict start) := by
  rw [handleSelfEvent, self_bind]
  apply meets_ite
  · exact fun _ => stands
  · intro stays
    apply @meets_bind _ _ _ _ _ _ _
      (fun _ after => Holds strict start after ∧ after.incarnation = swim.incarnation)
    · apply meets_when
      · intro _
        exact meets_sure (penalizeHealth_meets stands)
      · exact fun _ => ⟨stands, rfl⟩
    · rintro _ after ⟨stands, same⟩
      apply meets_when
      · intro higher
        apply meets_require
        · exact tolerated_or fun counting => room counting (by simpa using stays) higher
        · intro _
          rw [modify_bind, self_bind]
          apply kept_queueGossip moderate
          apply stands.withIncarnation
          intro _
          split at higher <;> omega
      · exact fun _ => stands

/-! ## Suspicions -/

/-- A suspicion is confirmed only where there is one, and its deadline stays within the range. -/
theorem confirmSuspicion_meets {excepted : Nat → Prop} {source : Nat}
    (moderate : strict → start.config.Moderate) (early : strict → now < 2 ^ 63)
    (stands : Stands strict start excepted swim)
    (suspected : (swim.suspicions nodeId).isSome = true) :
    (confirmSuspicion now nodeId source swim).Meets (Tolerated strict)
      (fun _ => Stands strict start excepted) fun _ => False := by
  rw [confirmSuspicion, read_bind]
  cases held : swim.suspicions nodeId with
  | none => simp [held] at suspected
  | some suspicion =>
      simp only
      apply meets_ite
      · exact fun _ => stands
      · intro _
        rw [self_bind]
        apply meets_bind (suspicionTimeout_meets moderate stands)
        rintro total _ ⟨rfl, bound⟩
        have limit : 0 < swim.config.params.suspicionConfirmations :=
          (validate_pos stands.sound.valid).2.2.2.2.2
        apply meets_require
        · apply Or.inr
          split <;> omega
        · intro _
          apply meets_bind
          · apply meets_add64
            apply tolerated_or
            intro counting
            have time := early counting
            have divided := (Nat.div_le_self total (if suspicion.confirmations <
              swim.config.params.suspicionConfirmations then suspicion.confirmations + 1
              else suspicion.confirmations)).trans (bound counting)
            omega
          · rintro limit _ ⟨rfl, rfl⟩
            rw [modify_apply]
            exact {
              sound := {
                valid := stands.sound.valid
                named := stands.sound.named
                counted := stands.sound.counted
                capacity := stands.sound.capacity
                own := stands.sound.own
                health := stands.sound.health }
              tracks := by
                intro other plain
                refine (stands.tracks other plain).trans ?_
                simp only [view]
                by_cases same : other = nodeId
                · subst same
                  simp [held]
                · simp [Function.update_of_ne same]
              since := {
                config := stands.since.config
                members := stands.since.members
                incarnation := stands.since.incarnation }
              supplied := stands.supplied }

/-- A change of one suspicion, after which the member of it has the status that it tells. -/
theorem Stands.withSuspicion {suspicion : Option Suspicion} {excepted : Nat → Prop}
    (stands : Stands strict start excepted swim) {excepted' : Nat → Prop}
    (others : ∀ other, ¬ excepted' other → other ≠ nodeId → ¬ excepted other)
    (fits : ¬ excepted' nodeId → ((∃ member, swim.table.get nodeId = some member ∧
      member.status = .suspect) ↔ suspicion.isSome = true)) :
    Stands strict start excepted' { swim with
      suspicions := Function.update swim.suspicions nodeId suspicion } where
  sound := {
    valid := stands.sound.valid
    named := stands.sound.named
    counted := stands.sound.counted
    capacity := stands.sound.capacity
    own := stands.sound.own
    health := stands.sound.health }
  tracks := by
    intro other plain
    simp only [View.Tracks, view]
    by_cases same : other = nodeId
    · subst same
      rw [Function.update_self]
      exact fits plain
    · rw [Function.update_of_ne same]
      exact stands.tracks other (others other plain same)
  since := {
    config := stands.since.config
    members := stands.since.members
    incarnation := stands.since.incarnation }
  supplied := stands.supplied

theorem trackSuspicion_meets {status : NodeStatus} {source : Nat} {member : Member}
    (moderate : strict → start.config.Moderate) (early : strict → now < 2 ^ 63)
    (stands : Stands strict start (· = nodeId) swim)
    (held : swim.table.get nodeId = some member) (same : member.status = status) :
    (trackSuspicion now nodeId status source swim).Meets (Tolerated strict)
      (fun _ => Holds strict start) fun _ => False := by
  rw [trackSuspicion]
  apply meets_ite
  · rintro rfl
    rw [read_bind]
    apply @meets_bind _ _ _ _ _ _ _
      (fun _ after => Holds strict start after ∧ (after.suspicions nodeId).isSome = true)
    · apply meets_when
      · intro _
        apply meets_bind (suspicionTimeout_meets moderate stands)
        rintro timeout _ ⟨rfl, bound⟩
        apply meets_bind
        · apply meets_add64
          apply tolerated_or
          intro counting
          have time := early counting
          have bound := bound counting
          omega
        · rintro deadline _ ⟨rfl, rfl⟩
          rw [modify_apply]
          refine ⟨stands.withSuspicion (fun _ _ differ => differ) fun _ => ?_, by simp⟩
          exact iff_of_true ⟨member, held, same⟩ rfl
      · intro present
        have present : (swim.suspicions nodeId).isSome = true := by
          simpa [Option.isSome_iff_ne_none] using present
        refine ⟨{ stands with tracks := fun other _ => ?_ }, present⟩
        by_cases differ : other = nodeId
        · subst differ
          exact iff_of_true ⟨member, held, same⟩ present
        · exact stands.tracks other differ
    · rintro _ after ⟨stands, present⟩
      exact confirmSuspicion_meets moderate early stands present
  · intro trusted
    rw [modify_apply]
    refine stands.withSuspicion (fun _ _ differ => differ) fun _ => ?_
    refine iff_of_false ?_ (by simp)
    rintro ⟨other, held', suspected⟩
    rw [held, Option.some.injEq] at held'
    subst held'
    exact trusted (same.symm.trans suspected)

/-! ## Merging -/

theorem accepts_le {member : Member} (accepted : accepts (some member) event = true) :
    member.incarnation ≤ event.incarnation := by
  unfold accepts at accepted
  split at accepted <;> simp_all <;> omega

/-- The record of another node is replaced by one that is not older. -/
theorem Stands.written {excepted : Nat → Prop} {member : Member}
    (stands : Stands strict start excepted swim) (except : excepted member.nodeId)
    (other : member.nodeId ≠ swim.config.nodeId)
    (valid : member.nodeId ≠ 0 ∧ member.nodeId < swim.table.capacity)
    (room : swim.table.Room member.nodeId)
    (newer : ∀ current, swim.table.get member.nodeId = some current →
      current.incarnation ≤ member.incarnation) :
    Stands strict start excepted { swim with table := swim.table.written member } where
  sound := {
    valid := stands.sound.valid
    named := stands.sound.named
    counted := Table.Counted.written stands.sound.counted valid room
    capacity := stands.sound.capacity
    own := (Table.get_written_ne (Ne.symm other)).trans stands.sound.own
    health := stands.sound.health }
  tracks := by
    intro nodeId plain
    have differ : nodeId ≠ member.nodeId := fun same => plain (same ▸ except)
    simp only [View.Tracks, view, Table.get_written_ne differ]
    exact stands.tracks nodeId plain
  since := {
    config := stands.since.config
    members := by
      intro nodeId before held
      obtain ⟨current, held, le⟩ := stands.since.members nodeId before held
      by_cases same : nodeId = member.nodeId
      · subst same
        exact ⟨member, Table.get_written_self valid room, le.trans (newer current held)⟩
      · exact ⟨current, (Table.get_written_ne same).trans held, le⟩
    incarnation := stands.since.incarnation }
  supplied := stands.supplied

theorem upsert_meets {trap : Fault → Prop} {member : Member} (sound : swim.view.Sound)
    (valid : member.nodeId ≠ 0 ∧ member.nodeId < swim.table.capacity) :
    (onTable (Table.upsert member) swim).Meets trap
      (fun _ after => { swim with table := swim.table.written member } = after)
      fun _ => False := by
  obtain ⟨result, done⟩ := @Table.upsert_eq swim.table member valid
    (sound.counted.spacious valid.2)
  change (Table.upsert member swim.table = _) at done
  simp only [onTable, zoom, done]
  rfl

theorem adopt_keeps {current : Option Member} {source : Option Nat}
    (moderate : strict → start.config.Moderate) (early : strict → now < 2 ^ 63)
    (stands : Stands strict start (· = event.nodeId) swim)
    (publishes : swim.Publishes event) (room : swim.table.Room event.nodeId) :
    (adopt now current event source swim).Meets (Tolerated strict) (fun _ => Holds strict start)
      (Holds strict start) := by
  obtain ⟨other, nonzero, below, -, accepted⟩ := publishes
  have capacity : swim.table.capacity = swim.config.maxNodes := stands.sound.capacity
  rw [adopt]
  refine meets_bind (meets_sure (upsert_meets stands.sound ⟨nonzero, capacity ▸ below⟩)) ?_
  rintro _ _ rfl
  rw [read_bind]
  refine meets_bind (meets_sure (trackSuspicion_meets moderate early (stands.written rfl other
    ⟨nonzero, capacity ▸ below⟩ room ?_) (Table.get_written_self ⟨nonzero, capacity ▸ below⟩ room)
    rfl)) ?_
  · intro member held
    simp only [held] at accepted
    exact accepts_le accepted
  · intro _ after stands
    apply meets_bind (kept_queueGossip moderate _ stands)
    exact fun _ => quiet_notifyListener.kept

theorem confirmFrom_keeps {source : Option Nat}
    (moderate : strict → start.config.Moderate) (early : strict → now < 2 ^ 63)
    (stands : Holds strict start swim) :
    (confirmFrom now (swim.table.get event.nodeId) event source swim).Meets (Tolerated strict)
      (fun _ => Holds strict start) (Holds strict start) := by
  cases source with
  | none => exact stands
  | some source =>
      cases held : swim.table.get event.nodeId with
      | none => exact stands
      | some member =>
          apply meets_when
          · rintro ⟨-, suspected, -⟩
            refine meets_sure (confirmSuspicion_meets moderate early stands ?_)
            exact (stands.tracks event.nodeId id).mp ⟨member, held, suspected⟩
          · exact fun _ => stands

/-- Where two nodes claim an id, that is noted and nothing else happens. -/
theorem noteIdentityConflict_meets {trap : Fault → Prop} {expected observed : Address} :
    (noteIdentityConflict nodeId expected observed swim).Meets trap
      (fun conflict after => if conflict = true then expected ≠ observed ∧
          after.view = swim.view ∧ after.gossipQueue = swim.gossipQueue
        else swim = after ∧ expected = observed) fun _ => False := by
  rw [noteIdentityConflict]
  apply meets_ite
  · exact fun same => ⟨rfl, same⟩
  · intro differ
    rw [modify_bind]
    split <;> exact ⟨differ, rfl, rfl⟩

theorem contradicts_meets {trap : Fault → Prop} {current : Option Member} :
    (contradicts current event swim).Meets trap
      (fun conflict after => if conflict = true then
          (¬ ∀ member, current = some member → member.address = event.address) ∧
          after.view = swim.view ∧ after.gossipQueue = swim.gossipQueue
        else swim = after ∧ ∀ member, current = some member → member.address = event.address)
      fun _ => False := by
  cases current with
  | none => exact ⟨rfl, by simp⟩
  | some member =>
      apply meets_mono noteIdentityConflict_meets
      · intro conflict after meets
        split at meets
        · rw [if_pos ‹_›]
          exact ⟨fun fits => meets.1 (fits member rfl), meets.2⟩
        · rw [if_neg ‹_›]
          refine ⟨meets.1, ?_⟩
          rintro _ ⟨⟩
          exact meets.2
      · exact fun _ => id
      · exact fun _ => id

/-- An event that meets no end of a range keeps what holds, even if the member that it is about is
not tracked just now and the event is news about it. -/
theorem applyEventFrom_keeps {source : Option Nat} {excepted : Nat → Prop}
    (moderate : strict → start.config.Moderate) (early : strict → now < 2 ^ 63)
    (stands : Stands strict start excepted swim) (ready : Ready strict event swim)
    (about : ∀ nodeId, excepted nodeId → nodeId = event.nodeId ∧ swim.Publishes event) :
    (applyEventFrom now event source swim).Meets (Tolerated strict) (fun _ => Holds strict start)
      (Holds strict start) := by
  have holds : ¬ swim.Publishes event → Holds strict start swim := by
    intro old
    refine { stands with tracks := fun nodeId _ => stands.tracks nodeId ?_ }
    exact fun except => old (about nodeId except).2
  rw [applyEventFrom, self_bind]
  apply meets_ite
  · intro own
    have holds := holds fun publishes => publishes.1 own
    refine meets_bind (meets_sure noteIdentityConflict_meets) ?_
    intro conflict after meets
    split at meets
    · rw [if_pos ‹_›]
      exact holds.of_view meets.2.1 meets.2.2
    · rw [if_neg ‹_›]
      obtain ⟨rfl, same⟩ := meets
      apply handleSelfEvent_keeps moderate holds
      exact fun counting stays higher =>
        ready.incarnation counting ⟨own, same.symm, stays, higher⟩
  · intro other
    apply meets_ite
    · intro outside
      exact holds fun publishes => by have := publishes.2.1; have := publishes.2.2.1; omega
    · intro inside
      rw [get, read_bind]
      refine meets_bind (meets_sure contradicts_meets) ?_
      intro conflict after meets
      split at meets
      · rw [if_pos ‹_›]
        refine (holds ?_).of_view meets.2.1 meets.2.2
        exact fun publishes => meets.1 publishes.2.2.2.1
      · rw [if_neg ‹_›]
        obtain ⟨rfl, fits⟩ := meets
        apply meets_ite
        · intro accepted
          have publishes : swim.Publishes event := by
            exact ⟨other, by omega, by omega, fits, accepted⟩
          refine adopt_keeps moderate early ?_ publishes (ready.room publishes)
          refine { stands with tracks := fun nodeId differ => stands.tracks nodeId ?_ }
          exact fun except => differ (about nodeId except).1
        · intro old
          exact confirmFrom_keeps moderate early (holds fun publishes => old publishes.2.2.2.2)

/-! ## What an event stores -/

/-- The step leaves the table and the settings alone. -/
def Spares {α : Type} (act : Act α) : Prop :=
  ∀ (table : Table) (config : Config),
    Keeps (fun _ => True) (fun swim => swim.table = table ∧ swim.config = config) act

theorem spares_suspicionTimeout : Spares suspicionTimeout := by
  intro table config
  apply Keeps.bind Keeps.self
  intro _
  apply Keeps.bind ((Keeps.require (.inl trivial)).bind fun _ => Keeps.pure)
  intro _
  apply Keeps.bind ((Keeps.require (.inl trivial)).bind fun _ => Keeps.pure)
  intro _
  exact (Keeps.require (.inl trivial)).bind fun _ => Keeps.pure

theorem spares_confirmSuspicion {source : Nat} :
    Spares (confirmSuspicion now nodeId source) := by
  intro table config
  apply Keeps.bind Keeps.read
  intro suspicions
  cases suspicions nodeId with
  | none => exact fun _ _ => trivial
  | some suspicion =>
      apply Keeps.ite (fun _ => Keeps.pure)
      intro _
      apply Keeps.bind Keeps.self
      intro _
      apply Keeps.bind (spares_suspicionTimeout table config)
      intro _
      apply Keeps.bind (Keeps.require (.inl trivial))
      intro _
      apply Keeps.bind ((Keeps.require (.inl trivial)).bind fun _ => Keeps.pure)
      exact fun _ => Keeps.modify fun _ => id

theorem spares_trackSuspicion {status : NodeStatus} {source : Nat} :
    Spares (trackSuspicion now nodeId status source) := by
  intro table config
  apply Keeps.ite
  · intro _
    apply Keeps.bind Keeps.read
    intro _
    apply Keeps.bind
    · apply Keeps.when
      intro _
      apply Keeps.bind (spares_suspicionTimeout table config)
      intro _
      apply Keeps.bind ((Keeps.require (.inl trivial)).bind fun _ => Keeps.pure)
      exact fun _ => Keeps.modify fun _ => id
    · exact fun _ => spares_confirmSuspicion table config
  · exact fun _ => Keeps.modify fun _ => id

theorem spares_queueGossip : Spares (queueGossip event) := by
  intro table config
  apply Keeps.bind
  · apply Keeps.bind Keeps.self
    exact fun _ => (Keeps.require (.inl trivial)).bind fun _ => Keeps.pure
  intro _
  apply Keeps.bind Keeps.read
  intro _
  apply Keeps.bind
  · apply Keeps.when
    intro _ swim same
    simp only [allocate]
    split <;> exact same
  · exact fun _ => Keeps.modify fun _ => id

theorem spares_confirmFrom {current : Option Member} {source : Option Nat} :
    Spares (confirmFrom now current event source) := by
  intro table config
  cases source with
  | none => exact Keeps.pure
  | some source =>
      cases current with
      | none => exact Keeps.pure
      | some member => exact Keeps.when fun _ => spares_confirmSuspicion table config

/-- News replaces the record of the member, and other events leave the table alone. -/
structure Stores (event : Event) (before after : Swim) : Prop where
  config : after.config = before.config
  capacity : after.table.capacity = before.table.capacity
  news : before.Publishes event →
    after.table.slots = (before.table.written event.member).slots
  old : ¬ before.Publishes event → after.table.slots = before.table.slots

theorem applyEventFrom_stores {source : Option Nat} (other : event.nodeId ≠ swim.config.nodeId)
    (capacity : swim.table.capacity = swim.config.maxNodes) :
    (applyEventFrom now event source swim).Meets (fun _ => True) (fun _ => Stores event swim)
      (Stores event swim) := by
  have spared : ¬ swim.Publishes event → ∀ after : Swim,
      after.table = swim.table ∧ after.config = swim.config → Stores event swim after := by
    rintro old after ⟨table, config⟩
    exact {
      config := config
      capacity := by rw [table]
      news := fun publishes => absurd publishes old
      old := fun _ => by rw [table] }
  rw [applyEventFrom, self_bind, ite_neg other]
  apply meets_ite
  · intro outside
    apply spared _ swim ⟨rfl, rfl⟩
    exact fun publishes => by have := publishes.2.1; have := publishes.2.2.1; omega
  · intro inside
    rw [get, read_bind]
    refine meets_bind (meets_sure (@contradicts_meets _ _ (fun _ => True) _)) ?_
    intro conflict after meets
    split at meets
    · rw [if_pos ‹_›]
      apply spared
      · exact fun publishes => meets.1 publishes.2.2.2.1
      · exact ⟨congrArg View.table meets.2.1, congrArg View.config meets.2.1⟩
    · rw [if_neg ‹_›]
      obtain ⟨rfl, fits⟩ := meets
      apply meets_ite
      · intro accepted
        have publishes : swim.Publishes event := ⟨other, by omega, by omega, fits, accepted⟩
        have inside : ¬ (event.member.nodeId = 0 ∨
            swim.table.capacity ≤ event.member.nodeId) := by
          rw [Event.member, capacity]
          exact inside
        have stored : ∀ (after : Swim), after.config = swim.config →
            after.table.slots = (swim.table.written event.member).slots →
            after.table.capacity = swim.table.capacity → Stores event swim after :=
          fun after config slots capacity => {
            config := config
            capacity := capacity
            news := fun _ => slots
            old := fun old => absurd publishes old }
        rw [adopt, Event.member_of_fits fits]
        apply @meets_bind _ _ _ _ _ _ _
          (fun _ after => after.config = swim.config ∧
            after.table.slots = (swim.table.written event.member).slots ∧
            after.table.capacity = swim.table.capacity)
        · have writes := Table.upsert_writes inside
          simp only [onTable, zoom]
          cases answer : Table.upsert event.member swim.table with
          | done result table =>
              rw [answer] at writes
              exact ⟨rfl, writes⟩
          | failed table =>
              rw [answer] at writes
              exact stored _ rfl writes.1 writes.2
          | trapped fault => trivial
        · rintro result after ⟨config, slots, capacity⟩
          have rest : Keeps (fun _ => True)
              (fun last : Swim => last.table = after.table ∧ last.config = after.config)
              (do
                let own ← read fun swim => swim.config.nodeId
                trackSuspicion now event.nodeId event.status (source.getD own)
                queueGossip { event with address := event.member.address }
                notifyListener event.member) := by
            apply Keeps.bind Keeps.read
            intro _
            apply Keeps.bind (spares_trackSuspicion _ _)
            intro _
            apply Keeps.bind (spares_queueGossip _ _)
            exact fun _ => Keeps.modify fun _ => id
          have ends : ∀ last : Swim, last.table = after.table ∧ last.config = after.config →
              Stores event swim last := by
            rintro last ⟨table, same⟩
            exact stored last (same.trans config) (table ▸ slots) (table ▸ capacity)
          exact meets_mono (rest after ⟨rfl, rfl⟩) (fun _ => ends) ends fun _ => id
      · intro old
        have kept := @spares_confirmFrom now event (swim.table.get event.nodeId) source swim.table
          swim.config swim ⟨rfl, rfl⟩
        apply meets_mono kept
        · exact fun _ => spared fun publishes => old publishes.2.2.2.2
        · exact spared fun publishes => old publishes.2.2.2.2
        · exact fun _ => id

end Swim

end LyuneGateway.Membership
