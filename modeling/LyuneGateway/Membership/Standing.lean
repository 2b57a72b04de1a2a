import LyuneGateway.Membership.Swim

/-!
# What the protocol keeps

The counts of the table are right, the node is not a member of its own table,
exactly the suspected members have a suspicion, and every event of the queue has
transmits left. Each step keeps this, and takes no incarnation back; with
moderate parameters, no number leaves its range.
-/

namespace LyuneGateway.Membership

open Control (NodeStatus)
open Faulty

/-- The part of the state that sending, drawing, and probing leave alone. -/
structure View where
  config : Config
  table : Table
  incarnation : Nat
  suspicions : Nat → Option Suspicion
  healthMultiplier : Nat

def Swim.view (swim : Swim) : View where
  config := swim.config
  table := swim.table
  incarnation := swim.incarnation
  suspicions := swim.suspicions
  healthMultiplier := swim.healthMultiplier

/-- With these parameters, no product and no deadline leaves its range, however many members there
are. -/
structure Config.Moderate (config : Config) : Prop where
  transmits : config.params.retransmitMult * Swim.logScaleOf config.maxNodes < 2 ^ 32
  timeout : config.params.suspicionMult * Swim.logScaleOf config.maxNodes *
    config.params.protocolPeriodMs * config.params.lhmMaxMultiplier ≤ 2 ^ 63
  period : config.params.protocolPeriodMs * config.params.lhmMaxMultiplier ≤ 2 ^ 63
  syncInterval : config.params.syncIntervalMs ≤ 2 ^ 63

namespace View

structure Sound (view : View) : Prop where
  valid : view.config.params.validate = true
  named : view.config.nodeId < view.config.maxNodes
  counted : view.table.Counted
  capacity : view.table.capacity = view.config.maxNodes
  own : view.table.get view.config.nodeId = none
  health : 1 ≤ view.healthMultiplier ∧
    view.healthMultiplier ≤ view.config.params.lhmMaxMultiplier

/-- The member is suspected if and only if it has a suspicion. -/
def Tracks (view : View) (nodeId : Nat) : Prop :=
  (∃ member, view.table.get nodeId = some member ∧ member.status = .suspect) ↔
    (view.suspicions nodeId).isSome = true

/-- No member is forgotten, and no incarnation is taken back; the node's own one is not, if the
counting is strict. -/
structure Since (strict : Prop) (before after : View) : Prop where
  config : after.config = before.config
  members : ∀ nodeId member, before.table.get nodeId = some member →
    ∃ member', after.table.get nodeId = some member' ∧ member.incarnation ≤ member'.incarnation
  incarnation : strict → before.incarnation ≤ after.incarnation

theorem Since.refl (strict : Prop) (view : View) : Since strict view view where
  config := rfl
  members _ member held := ⟨member, held, le_rfl⟩
  incarnation _ := le_rfl

theorem Since.trans {strict : Prop} {first second third : View} (one : Since strict first second)
    (two : Since strict second third) : Since strict first third where
  config := two.config.trans one.config
  members nodeId member held := by
    obtain ⟨later, held, le⟩ := one.members nodeId member held
    obtain ⟨last, held, le'⟩ := two.members nodeId later held
    exact ⟨last, held, le.trans le'⟩
  incarnation counting := (one.incarnation counting).trans (two.incarnation counting)

end View

/-- There is at most one event about a node, and each has transmits left. -/
structure Supplied (queue : List GossipEntry) : Prop where
  distinct : (queue.map fun entry => entry.event.nodeId).Nodup
  transmits : ∀ entry ∈ queue, 0 < entry.transmitsLeft

/-- If the counting is not strict, a number may leave its range. -/
def Tolerated (strict : Prop) (fault : Fault) : Prop := ¬ strict ∧ fault = .range

theorem tolerated_or {strict fits : Prop} (fit : strict → fits) :
    Tolerated strict .range ∨ fits := by
  by_cases counting : strict
  · exact .inr (fit counting)
  · exact .inl ⟨counting, rfl⟩

namespace Swim

variable {strict : Prop} {start : View} {α : Type}

/-- What holds of every state but for the suspicions of the members that are excepted. -/
structure Stands (strict : Prop) (start : View) (excepted : Nat → Prop) (swim : Swim) : Prop where
  sound : swim.view.Sound
  tracks : ∀ nodeId, ¬ excepted nodeId → swim.view.Tracks nodeId
  since : View.Since strict start swim.view
  supplied : Supplied swim.gossipQueue

abbrev Holds (strict : Prop) (start : View) : Swim → Prop := Stands strict start fun _ => False

/-- The step keeps what holds. -/
abbrev Kept (strict : Prop) (start : View) (act : Act α) : Prop :=
  Keeps (Tolerated strict) (Holds strict start) act

theorem Stands.of_view {excepted : Nat → Prop} {swim other : Swim}
    (stands : Stands strict start excepted swim) (same : other.view = swim.view)
    (queue : other.gossipQueue = swim.gossipQueue) : Stands strict start excepted other where
  sound := same ▸ stands.sound
  tracks := same ▸ stands.tracks
  since := same ▸ stands.since
  supplied := queue ▸ stands.supplied

/-- The counts are right, exactly the suspected members have suspicions, and the queue is
supplied. -/
structure Upright (swim : Swim) : Prop where
  sound : swim.view.Sound
  tracks : ∀ nodeId, swim.view.Tracks nodeId
  supplied : Supplied swim.gossipQueue

theorem Upright.holds (upright : Upright swim) : Holds strict swim.view swim where
  sound := upright.sound
  tracks nodeId _ := upright.tracks nodeId
  since := View.Since.refl strict swim.view
  supplied := upright.supplied

theorem Stands.upright (stands : Holds strict start swim) : Upright swim where
  sound := stands.sound
  tracks nodeId := stands.tracks nodeId id
  supplied := stands.supplied

/-- The step changes nothing that the view shows, and leaves the queue supplied. -/
def Quiet (act : Act α) : Prop :=
  ∀ view : View, Keeps (fun _ => False)
    (fun swim => swim.view = view ∧ Supplied swim.gossipQueue) act

theorem Quiet.stands {act : Act α} (quiet : Quiet act) {trap : Fault → Prop}
    {excepted : Nat → Prop} {swim : Swim} (stands : Stands strict start excepted swim) :
    (act swim).Meets trap
      (fun _ after => Stands strict start excepted after ∧ after.view = swim.view)
      fun after => Stands strict start excepted after ∧ after.view = swim.view := by
  have same : ∀ after : Swim, after.view = swim.view ∧ Supplied after.gossipQueue →
      Stands strict start excepted after ∧ after.view = swim.view := by
    rintro after ⟨same, supplied⟩
    refine ⟨?_, same⟩
    exact {
      sound := same ▸ stands.sound
      tracks := same ▸ stands.tracks
      since := same ▸ stands.since
      supplied := supplied }
  apply meets_mono (quiet swim.view swim ⟨rfl, stands.supplied⟩)
  · exact fun _ => same
  · exact same
  · exact fun _ => False.elim

theorem Quiet.kept {act : Act α} (quiet : Quiet act) : Kept strict start act := by
  intro swim stands
  apply meets_mono (quiet.stands stands)
  · exact fun _ _ kept => kept.1
  · exact fun _ kept => kept.1
  · exact fun _ => id

theorem Quiet.bind {β : Type} {act : Act α} {next : α → Act β} (first : Quiet act)
    (then_ : ∀ value, Quiet (next value)) : Quiet (act >>= next) :=
  fun view => Keeps.bind (first view) fun value => then_ value view

theorem Quiet.ite {test : Prop} [Decidable test] {act other : Act α} (yes : Quiet act)
    (no : Quiet other) : Quiet (if test then act else other) := by
  split
  · exact yes
  · exact no

theorem quiet_pure {value : α} : Quiet (pure value : Act α) := fun _ => Keeps.pure

theorem quiet_self : Quiet self := fun _ => Keeps.self

theorem quiet_read {part : Swim → α} : Quiet (read part) := fun _ => Keeps.read

theorem quiet_get {nodeId : Nat} : Quiet (get nodeId) := quiet_read

theorem Quiet.each {ι : Type} {act : ι → Act Unit} {items : List ι}
    (round : ∀ item, Quiet (act item)) : Quiet (each act items) :=
  fun view => Keeps.each fun item _ => round item view

/-- A change of what the view does not show. -/
theorem quiet_aside {change : Swim → Swim} (same : ∀ swim, (change swim).view = swim.view)
    (queue : ∀ swim, (change swim).gossipQueue = swim.gossipQueue) : Quiet (modify change) := by
  intro view
  apply Keeps.modify
  rintro swim ⟨rfl, supplied⟩
  exact ⟨same swim, queue swim ▸ supplied⟩

theorem quiet_allocate : Quiet allocate := by
  rintro view swim ⟨rfl, supplied⟩
  simp only [allocate]
  split <;> exact ⟨rfl, supplied⟩

theorem quiet_roll {bound : Nat} (positive : 0 < bound) : Quiet (roll bound) := by
  apply Quiet.bind
  · exact fun view => Keeps.require (.inr positive)
  intro _
  apply Quiet.bind quiet_read
  intro _
  apply Quiet.bind
  · exact quiet_aside (fun _ => rfl) fun _ => rfl
  · exact fun _ => quiet_pure

theorem quiet_nextSeq : Quiet nextSeq := by
  apply Quiet.bind
  · exact quiet_aside (fun _ => rfl) fun _ => rfl
  · exact fun _ => quiet_read

theorem quiet_post {recipient : Address} {message : Message} : Quiet (post recipient message) := by
  apply Quiet.bind quiet_allocate
  exact fun _ => quiet_aside (fun _ => rfl) fun _ => rfl

theorem quiet_notifyListener {member : Member} : Quiet (notifyListener member) :=
  quiet_aside (fun _ => rfl) fun _ => rfl

theorem quiet_sendBuddyNotification {member : Member} : Quiet (sendBuddyNotification member) :=
  quiet_self.bind fun _ => quiet_post

theorem quiet_sendSyncRequest {recipient : Address} {cursor : Nat} :
    Quiet (sendSyncRequest recipient cursor) := by
  apply Quiet.bind quiet_read
  intro _
  apply Quiet.bind quiet_nextSeq
  intro _
  exact quiet_self.bind fun _ => quiet_post

/-! ## Numbers -/

theorem meets_add64 {trap : Fault → Prop} {a b : Nat} {swim : Swim} (fits : trap .range ∨ a + b < 2 ^ 64) :
    (add64 a b swim).Meets trap (fun value after => swim = after ∧ value = a + b)
      fun _ => False := by
  apply meets_require fits
  exact fun _ => ⟨rfl, rfl⟩

theorem meets_mul64 {trap : Fault → Prop} {a b : Nat} {swim : Swim} (fits : trap .range ∨ a * b < 2 ^ 64) :
    (mul64 a b swim).Meets trap (fun value after => swim = after ∧ value = a * b)
      fun _ => False := by
  apply meets_require fits
  exact fun _ => ⟨rfl, rfl⟩

theorem logScale_le {swim : Swim} (sound : swim.view.Sound) :
    swim.logScale ≤ logScaleOf swim.config.maxNodes := by
  have capacity : swim.table.capacity = swim.config.maxNodes := sound.capacity
  have named : swim.config.nodeId < swim.config.maxNodes := sound.named
  have active : swim.table.activeCount = swim.table.active.card := sound.counted.active
  have few := @Table.card_known_lt swim.table (by omega)
  have fewer := Finset.card_le_card (@Table.active_subset_known swim.table)
  have within : swim.table.activeCount + 1 ≤ swim.config.maxNodes := by omega
  exact max_le_max le_rfl (Nat.clog_mono_right 2 within)

theorem logScale_pos (swim : Swim) : 0 < swim.logScale :=
  Nat.lt_of_lt_of_le Nat.one_pos (le_max_left _ _)

/-- What validation says of the parameters that are multiplied. -/
theorem validate_pos {params : Params} (valid : params.validate = true) :
    0 < params.protocolPeriodMs ∧ params.probeTimeoutMs < params.protocolPeriodMs ∧
      0 < params.suspicionMult ∧ 0 < params.retransmitMult ∧ 0 < params.lhmMaxMultiplier ∧
      0 < params.suspicionConfirmations := by
  simp [Params.validate] at valid
  omega

section Products

variable (moderate : strict → start.config.Moderate)

include moderate

theorem scaledProtocolPeriod_meets {excepted : Nat → Prop} {swim : Swim}
    (stands : Stands strict start excepted swim) :
    (scaledProtocolPeriod swim).Meets (Tolerated strict)
      (fun value after => swim = after ∧ (strict → value ≤ 2 ^ 63)) fun _ => False := by
  have bound : strict →
      swim.config.params.protocolPeriodMs * swim.healthMultiplier ≤ 2 ^ 63 := by
    intro counting
    have same : swim.config = start.config := stands.since.config
    have period := (moderate counting).period
    rw [← same] at period
    exact (Nat.mul_le_mul_left _ stands.sound.health.2).trans period
  apply meets_mono (meets_mul64 (tolerated_or fun counting => (bound counting).trans_lt (by decide)))
  · rintro value after ⟨rfl, rfl⟩
    exact ⟨rfl, bound⟩
  · exact fun _ => id
  · exact fun _ => id

theorem transmitLimit_meets {excepted : Nat → Prop} {swim : Swim}
    (stands : Stands strict start excepted swim) :
    (transmitLimit swim).Meets (Tolerated strict)
      (fun value after => swim = after ∧ 0 < value) fun _ => False := by
  apply meets_require
  · apply tolerated_or
    intro counting
    have same : swim.config = start.config := stands.since.config
    have transmits := (moderate counting).transmits
    rw [← same] at transmits
    exact (Nat.mul_le_mul_left _ (logScale_le stands.sound)).trans_lt transmits
  · intro _
    have valid := validate_pos stands.sound.valid
    exact ⟨rfl, Nat.mul_pos valid.2.2.2.1 (logScale_pos swim)⟩

theorem suspicionTimeout_meets {excepted : Nat → Prop} {swim : Swim}
    (stands : Stands strict start excepted swim) :
    (suspicionTimeout swim).Meets (Tolerated strict)
      (fun value after => swim = after ∧ (strict → value ≤ 2 ^ 63)) fun _ => False := by
  let params := swim.config.params
  have valid := validate_pos stands.sound.valid
  have scale := logScale_le stands.sound
  have last : strict → params.suspicionMult * swim.logScale * params.protocolPeriodMs *
      swim.healthMultiplier ≤ 2 ^ 63 := by
    intro counting
    have same : swim.config = start.config := stands.since.config
    have timeout := (moderate counting).timeout
    rw [← same] at timeout
    refine le_trans ?_ timeout
    exact Nat.mul_le_mul (Nat.mul_le_mul_right _ (Nat.mul_le_mul_left _ scale))
      stands.sound.health.2
  have second : strict →
      params.suspicionMult * swim.logScale * params.protocolPeriodMs ≤ 2 ^ 63 := by
    intro counting
    exact (Nat.le_mul_of_pos_right _ stands.sound.health.1).trans (last counting)
  have first : strict → params.suspicionMult * swim.logScale ≤ 2 ^ 63 := by
    intro counting
    exact (Nat.le_mul_of_pos_right _ valid.1).trans (second counting)
  have narrow : ∀ {value : Nat}, (strict → value ≤ 2 ^ 63) →
      Tolerated strict .range ∨ value < 2 ^ 64 := by
    intro value bound
    exact tolerated_or fun counting => (bound counting).trans_lt (by decide)
  apply meets_bind (meets_mul64 (narrow first))
  rintro _ _ ⟨rfl, rfl⟩
  apply meets_bind (meets_mul64 (narrow second))
  rintro _ _ ⟨rfl, rfl⟩
  apply meets_mono (meets_mul64 (narrow last))
  · rintro _ _ ⟨rfl, rfl⟩
    exact ⟨rfl, last⟩
  · exact fun _ => id
  · exact fun _ => id

end Products

end Swim

end LyuneGateway.Membership
