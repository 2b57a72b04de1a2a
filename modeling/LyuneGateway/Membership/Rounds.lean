import LyuneGateway.Membership.Upkeep

/-!
# The clock and the messages keep what the protocol keeps

Probing and exchanging views only send; what the clock decides about a member is
applied as an event, and so is what a message tells. Each command says where it
would meet the end of a range.
-/

namespace LyuneGateway.Membership

open Control (NodeStatus)
open Faulty

theorem Table.get_nodeId {table : Table} {nodeId : Nat} {member : Member}
    (held : table.get nodeId = some member) : member.nodeId = nodeId := by
  unfold Table.get at held
  split at held
  · cases held
  · obtain ⟨data, -, told⟩ := Option.bind_eq_some_iff.mp held
    unfold Data.member at told
    split at told <;> cases told
    rfl

namespace Swim

variable {strict : Prop} {start : View} {now nodeId : Nat} {swim : Swim}

/-! ## Probing -/

theorem quiet_sample {room : Nat} (members chosen : List Member) (seen : Nat) :
    Quiet (sample room members chosen seen) := by
  induction members generalizing chosen seen with
  | nil => exact quiet_pure
  | cons member members ih =>
      intro view
      rw [sample]
      apply Keeps.ite
      · exact fun _ => ih _ _ view
      · intro _
        apply Keeps.bind (quiet_roll (Nat.succ_pos seen) view)
        exact fun _ => ih _ _ view

theorem quiet_sendIndirectProbes {target seq : Nat} : Quiet (sendIndirectProbes target seq) := by
  apply Quiet.bind quiet_self
  intro _
  apply Quiet.bind (quiet_sample _ _ _)
  intro _
  exact Quiet.each fun _ => quiet_send

theorem quiet_shuffle (fuel : Nat) (items : List Nat) : Quiet (shuffle fuel items) := by
  induction fuel generalizing items with
  | zero => exact quiet_pure
  | succ fuel ih =>
      cases items with
      | nil => exact quiet_pure
      | cons first rest =>
          apply Quiet.bind (quiet_roll (Nat.succ_pos _))
          intro _
          apply Quiet.bind (ih _)
          exact fun _ => quiet_pure

theorem quiet_rebuildProbeOrder : Quiet rebuildProbeOrder := by
  apply Quiet.bind
  · exact quiet_aside (fun _ => rfl) fun _ => rfl
  intro _
  apply Quiet.bind quiet_self
  intro _
  apply Quiet.bind
  · apply Quiet.each
    intro _
    apply Quiet.bind quiet_allocate
    exact fun _ => quiet_aside (fun _ => rfl) fun _ => rfl
  intro _
  apply Quiet.bind quiet_read
  intro _
  apply Quiet.bind (quiet_shuffle _ _)
  exact fun _ => quiet_aside (fun _ => rfl) fun _ => rfl

theorem quiet_nextProbeTarget (rounds : Nat) : Quiet (nextProbeTarget rounds) := by
  induction rounds with
  | zero => exact quiet_pure
  | succ rounds ih =>
      apply Quiet.bind quiet_self
      intro swim
      cases nextActive swim.table swim.probeOrder with
      | some found =>
          apply Quiet.bind
          · exact quiet_aside (fun _ => rfl) fun _ => rfl
          · exact fun _ => quiet_pure
      | none =>
          apply Quiet.bind quiet_rebuildProbeOrder
          intro _
          apply Quiet.bind quiet_read
          intro order view
          exact Keeps.ite (fun _ => Keeps.pure) fun _ => ih view

theorem quiet_choosePeer (members : List Member) (chosen : Option Member) (seen : Nat) :
    Quiet (choosePeer members chosen seen) := by
  induction members generalizing chosen seen with
  | nil => exact quiet_pure
  | cons member members ih =>
      apply Quiet.bind (quiet_roll (Nat.succ_pos seen))
      exact fun _ => ih _ _

section Deadlines

variable (moderate : strict → start.config.Moderate) (early : strict → now < 2 ^ 63)

include moderate

theorem scaledProbeTimeout_meets {excepted : Nat → Prop}
    (stands : Stands strict start excepted swim) :
    (scaledProbeTimeout swim).Meets (Tolerated strict)
      (fun value after => swim = after ∧ (strict → value ≤ 2 ^ 63)) fun _ => False := by
  have bound : strict → swim.config.params.probeTimeoutMs * swim.healthMultiplier ≤ 2 ^ 63 := by
    intro counting
    have same : swim.config = start.config := stands.since.config
    have period := (moderate counting).period
    rw [← same] at period
    have valid := validate_pos stands.sound.valid
    exact (Nat.mul_le_mul valid.2.1.le stands.sound.health.2).trans period
  apply meets_mono
  · exact meets_mul64 (tolerated_or fun counting => (bound counting).trans_lt (by decide))
  · rintro value after ⟨rfl, rfl⟩
    exact ⟨rfl, bound⟩
  · exact fun _ => id
  · exact fun _ => id

include early

omit moderate in
/-- A deadline that is a period away stays within the range. -/
theorem deadline_meets {act : Act Nat} {next : Nat → Act Unit}
    (scaled : (act swim).Meets (Tolerated strict)
      (fun value after => swim = after ∧ (strict → value ≤ 2 ^ 63)) fun _ => False)
    (then_ : ∀ value, (next value swim).Meets (Tolerated strict) (fun _ => Holds strict start)
      (Holds strict start)) :
    ((do next (← add64 now (← act))) swim).Meets (Tolerated strict) (fun _ => Holds strict start)
      (Holds strict start) := by
  refine meets_bind (meets_sure scaled) ?_
  rintro value _ ⟨rfl, bound⟩
  refine meets_bind (meets_sure (meets_add64 (tolerated_or fun counting => ?_))) ?_
  · have time := early counting
    have bound := bound counting
    omega
  · rintro deadline _ ⟨rfl, rfl⟩
    exact then_ _

theorem kept_startProbe : Kept strict start (startProbe now) := by
  apply Keeps.bind (quiet_nextProbeTarget 2).kept
  intro found
  cases found with
  | none => exact Keeps.pure
  | some member =>
      apply Keeps.bind quiet_nextSeq.kept
      intro seq swim stands
      apply deadline_meets early (scaledProbeTimeout_meets moderate stands)
      intro direct
      apply deadline_meets early (scaledProtocolPeriod_meets moderate stands)
      intro period
      rw [modify_bind]
      apply (quiet_self.bind fun _ => quiet_send).kept
      exact stands.of_view rfl rfl

theorem kept_startSync : Kept strict start (startSync now) := by
  apply Keeps.bind
  · apply Quiet.kept
    exact quiet_self.bind fun _ => quiet_choosePeer _ _ _
  intro found
  cases found with
  | none => exact Keeps.pure
  | some peer =>
      intro swim stands
      apply deadline_meets early (scaledProtocolPeriod_meets moderate stands)
      intro deadline
      rw [modify_bind, self_bind]
      have stands : Holds strict start { swim with
          sync := some { peer := peer.nodeId, deadline := deadline } } := stands.of_view rfl rfl
      refine meets_bind (meets_sure (meets_add64 (tolerated_or fun counting => ?_))) ?_
      · have time := early counting
        have same : swim.config = start.config := stands.since.config
        have interval := (moderate counting).syncInterval
        rw [← same] at interval
        simp only
        omega
      · rintro next _ ⟨rfl, rfl⟩
        rw [modify_bind]
        apply quiet_sendSyncRequest.kept
        exact stands.of_view rfl rfl

theorem kept_driveAntiEntropy : Kept strict start (driveAntiEntropy now) := by
  apply Keeps.bind Keeps.self
  intro swim
  apply Keeps.ite (fun _ => Keeps.pure)
  intro _
  apply Keeps.ite (fun _ => Keeps.pure)
  intro _
  apply Keeps.bind
  · apply Quiet.kept
    exact quiet_aside (fun _ => rfl) fun _ => rfl
  intro _
  exact Keeps.ite (fun _ => Keeps.pure) fun _ => kept_startSync moderate early

end Deadlines

/-! ## What the clock decides -/

/-- The suspicion of the node has run out. -/
def Expires (now nodeId : Nat) (swim : Swim) : Prop :=
  ∃ suspicion, swim.suspicions nodeId = some suspicion ∧ suspicion.deadline ≤ now

/-- The probe of a member has failed that was not suspected before. -/
def Fails (now nodeId : Nat) (swim : Swim) : Prop :=
  ∃ probe member, swim.probe = some probe ∧ probe.target = nodeId ∧ probe.periodDeadline ≤ now ∧
    swim.table.get nodeId = some member ∧ member.status = .alive

theorem expireSuspicion_keeps (moderate : strict → start.config.Moderate)
    (early : strict → now < 2 ^ 63) (stands : Holds strict start swim)
    (room : Expires now nodeId swim → swim.table.Room nodeId) :
    (expireSuspicion now nodeId swim).Meets (Tolerated strict) (fun _ => Holds strict start)
      (Holds strict start) := by
  rw [expireSuspicion, read_bind]
  cases held : swim.suspicions nodeId with
  | none => exact stands
  | some suspicion =>
      simp only
      apply meets_ite
      · exact fun _ => stands
      · intro due
        have room := room ⟨suspicion, held, not_lt.mp due⟩
        have present : (swim.view.suspicions nodeId).isSome = true := by simp [view, held]
        obtain ⟨member, known, suspected⟩ := (stands.tracks nodeId id).mpr present
        change swim.table.get nodeId = some member at known
        have self := Table.get_nodeId known
        subst self
        have valid := Table.get_valid known
        have capacity : swim.table.capacity = swim.config.maxNodes := stands.sound.capacity
        have own : swim.table.get swim.config.nodeId = none := stands.sound.own
        rw [modify_bind, get, read_bind]
        simp only [known]
        apply meets_when
        · intro _
          have differ : member.nodeId ≠ swim.config.nodeId := by
            intro same
            rw [same, own] at known
            cases known
          apply @applyEventFrom_keeps _ _ _ _ _ _ (· = member.nodeId) moderate early
          · exact stands.withSuspicion (fun _ plain _ => id) fun plain => absurd rfl plain
          · exact {
              room := fun _ => room
              incarnation := fun _ refutes => absurd refutes.1 differ }
          · rintro _ rfl
            refine ⟨rfl, differ, valid.1, capacity ▸ valid.2, ?_, ?_⟩
            · intro other held
              simp only [known, Option.some.injEq] at held
              exact held ▸ rfl
            · simp [known, accepts, suspected]
        · exact fun trusted => absurd suspected trusted

theorem driveProbe_keeps (moderate : strict → start.config.Moderate)
    (early : strict → now < 2 ^ 63) (stands : Holds strict start swim)
    (room : ∀ nodeId, Fails now nodeId swim → swim.table.Room nodeId) :
    (driveProbe now swim).Meets (Tolerated strict) (fun _ => Holds strict start)
      (Holds strict start) := by
  rw [driveProbe, read_bind]
  cases held : swim.probe with
  | none => exact stands
  | some probe =>
      apply @meets_bind _ _ _ _ _ _ _
        (fun _ after => Holds strict start after ∧ after.view = swim.view)
      · apply meets_when
        · intro _
          rw [modify_bind]
          have probing : Holds strict start { swim with
              probe := some { probe with indirectSent := true } } := stands.of_view rfl rfl
          apply meets_mono (quiet_sendIndirectProbes.stands probing)
          · exact fun _ _ => id
          · exact fun _ kept => kept.1
          · exact fun _ => id
        · exact fun _ => ⟨stands, rfl⟩
      · rintro _ after ⟨stands, same⟩
        have table : after.table = swim.table := congrArg View.table same
        apply meets_when
        · intro due
          rw [modify_bind]
          apply @meets_bind _ _ _ _ _ _ _
            (fun _ last => Holds strict start last ∧ last.table = swim.table)
          · rw [penalizeHealth, modify_apply]
            split
            · rename_i below
              refine ⟨?_, table⟩
              exact Stands.withHealth (stands.of_view rfl rfl) ⟨Nat.le_add_left 1 _, below⟩
            · exact ⟨stands.of_view rfl rfl, table⟩
          · rintro _ last ⟨stands, table⟩
            rw [get, read_bind, table]
            cases known : swim.table.get probe.target with
            | none => exact stands
            | some member =>
                apply meets_when
                · intro trusted
                  have self := Table.get_nodeId known
                  apply meets_bind
                  · apply @applyEventFrom_keeps _ _ _ _ _ _ (fun _ => False) moderate early stands
                    · exact {
                        room := by
                          intro _
                          simp only [self, table]
                          exact room probe.target ⟨probe, member, held, rfl, due, known, trusted⟩
                        incarnation := by
                          intro _ refutes
                          have own : last.table.get last.config.nodeId = none := stands.sound.own
                          rw [← refutes.1, table] at own
                          simp only [self, known] at own
                          cases own }
                    · exact fun _ => False.elim
                  · exact fun _ => quiet_sendBuddyNotification.kept
                · exact fun _ => stands
        · exact fun _ => stands

/-- The clock meets no end of a range. -/
structure ReadyToTick (now : Nat) (swim : Swim) : Prop where
  expire : Turns (fun nodeId swim => Expires now nodeId swim → swim.table.Room nodeId)
    (expireSuspicion now) (List.range swim.config.maxNodes) swim
  fail : ∀ next, expireSuspicions now swim = .done () next →
    ∀ nodeId, Fails now nodeId next → next.table.Room nodeId

theorem tick_keeps (moderate : strict → start.config.Moderate) (early : strict → now < 2 ^ 63)
    (stands : Holds strict start swim) (ready : ReadyToTick now swim) :
    (tick now swim).Meets (Tolerated strict) (fun _ => Holds strict start)
      (Holds strict start) := by
  have expires : (expireSuspicions now swim).Meets (Tolerated strict)
      (fun _ => Holds strict start) (Holds strict start) := by
    rw [expireSuspicions, self_bind]
    apply each_meets (fun nodeId _ swim stands room =>
      expireSuspicion_keeps moderate early stands room) stands ready.expire
  rw [tick]
  apply meets_then expires
  intro _ next answer stands
  apply meets_bind (driveProbe_keeps moderate early stands (ready.fail next answer))
  intro _ next stands
  apply meets_bind (kept_driveAntiEntropy moderate early next stands)
  intro _ next stands
  rw [self_bind]
  apply meets_when
  · intro _
    apply deadline_meets early (scaledProtocolPeriod_meets moderate stands)
    intro period
    rw [modify_bind]
    apply kept_startProbe moderate early
    exact stands.of_view rfl rfl
  · exact fun _ => stands

/-! ## Messages -/

theorem kept_handlePingReq {source : Address} {message : Message}
    (moderate : strict → start.config.Moderate) (early : strict → now < 2 ^ 63) :
    Kept strict start (handlePingReq now source message) := by
  apply Keeps.bind quiet_get.kept
  intro found
  cases found with
  | none => exact Keeps.pure
  | some target =>
      apply Keeps.bind quiet_nextSeq.kept
      intro seq swim stands
      rw [self_bind]
      refine meets_bind (meets_sure (meets_add64 (tolerated_or fun counting => ?_))) ?_
      · have time := early counting
        have same : swim.config = start.config := stands.since.config
        have period := (moderate counting).period
        have valid := validate_pos stands.sound.valid
        have whole : swim.config.params.protocolPeriodMs ≤
            swim.config.params.protocolPeriodMs * swim.config.params.lhmMaxMultiplier :=
          Nat.le_mul_of_pos_right _ valid.2.2.2.2.1
        rw [← same] at period
        have below : swim.config.params.probeTimeoutMs < swim.config.params.protocolPeriodMs :=
          valid.2.1
        omega
      · rintro deadline _ ⟨rfl, rfl⟩
        rw [modify_bind]
        apply quiet_send.kept
        exact stands.of_view rfl rfl

theorem kept_handleAck {message : Message} : Kept strict start (handleAck now message) := by
  apply Keeps.bind Keeps.self
  intro swim
  apply Keeps.ite
  · intro _
    apply Keeps.bind
    · apply Quiet.kept
      exact quiet_aside (fun _ => rfl) fun _ => rfl
    · exact fun _ => kept_recoverHealth
  · intro _
    cases findRelay swim.relays message with
    | none => exact Keeps.pure
    | some found =>
        apply Keeps.bind
        · apply Quiet.kept
          exact quiet_aside (fun _ => rfl) fun _ => rfl
        · intro _
          exact Keeps.ite (fun _ => Keeps.pure) fun _ => quiet_send.kept

theorem quiet_syncChunk (fuel cursor : Nat) (events : List Event) :
    Quiet (syncChunk fuel cursor events) := by
  induction fuel generalizing cursor events with
  | zero => exact quiet_pure
  | succ fuel ih =>
      rintro view swim ⟨rfl, supplied⟩
      rw [syncChunk, self_bind]
      apply meets_ite
      · rintro ⟨below, -⟩
        apply meets_require
        · have narrow := swim.config.narrow
          omega
        · exact fun _ => ih _ _ swim.view swim ⟨rfl, supplied⟩
      · exact fun _ => ⟨rfl, supplied⟩

theorem quiet_answerSync {source : Address} {message : Message} :
    Quiet (answerSync source message) := by
  apply Quiet.bind quiet_self
  intro _
  apply Quiet.bind (quiet_syncChunk _ _ _)
  exact fun _ => quiet_post

theorem kept_handleSync {source : Address} {message : Message}
    (moderate : strict → start.config.Moderate) (early : strict → now < 2 ^ 63) :
    Kept strict start (handleSync now source message) := by
  apply Keeps.ite
  · exact fun _ => quiet_answerSync.kept
  intro _
  apply Keeps.bind Keeps.read
  intro session
  cases session with
  | none => exact Keeps.pure
  | some session =>
      apply Keeps.ite
      · exact fun _ => Keeps.pure
      · intro _ swim stands
        apply deadline_meets early (scaledProtocolPeriod_meets moderate stands)
        intro deadline
        apply meets_ite
        · intro _
          rw [modify_bind]
          apply quiet_sendSyncRequest.kept
          exact stands.of_view rfl rfl
        · exact fun _ => stands.of_view rfl rfl

theorem kept_answer {source : Address} {message : Message}
    (moderate : strict → start.config.Moderate) (early : strict → now < 2 ^ 63) :
    Kept strict start (answer now source message) := by
  apply Keeps.bind Keeps.self
  intro swim
  cases message.type with
  | ping => exact quiet_send.kept
  | pingReq => exact kept_handlePingReq moderate early
  | ack => exact kept_handleAck
  | sync => exact kept_handleSync moderate early

theorem quiet_acceptReplay {sender : Nat} {tag : Bytes} : Quiet (acceptReplay sender tag) := by
  apply Quiet.bind quiet_read
  intro cache
  apply Quiet.ite quiet_pure
  apply Quiet.bind
  · exact quiet_aside (fun _ => by simp only [view]) fun _ => rfl
  · exact fun _ => quiet_pure

theorem quiet_receive {bytes : Bytes} : Quiet (receive bytes) := by
  apply Quiet.bind quiet_self
  intro swim view
  apply Keeps.ite
  · intro _
    cases decode bytes <;> exact Keeps.pure
  · intro _
    cases decodeAuthenticatedWithFallback swim.mac bytes swim.config.secret
      swim.config.previousSecret with
    | error => exact Keeps.pure
    | ok message =>
        apply Keeps.bind (quiet_acceptReplay view)
        exact fun _ => Keeps.ite (fun _ => Keeps.pure) fun _ => Keeps.pure

/-- No event of the message meets the end of a range when its turn comes. -/
def ReadyToHear (strict : Prop) (now : Nat) (source : Address) (bytes : Bytes) (swim : Swim) :
    Prop :=
  ∀ message next, receive bytes swim = .done (some message) next → ¬ next.misplaced source message →
    Turns (Ready strict) (fun event => applyEventFrom now event (some message.sender))
      message.events next

theorem handleMessage_keeps {source : Address} {bytes : Bytes}
    (moderate : strict → start.config.Moderate) (early : strict → now < 2 ^ 63)
    (stands : Holds strict start swim) (ready : ReadyToHear strict now source bytes swim) :
    (handleMessage now source bytes swim).Meets (Tolerated strict) (fun _ => Holds strict start)
      (Holds strict start) := by
  rw [handleMessage]
  apply meets_then (quiet_receive.kept swim stands)
  intro received next answer stands
  cases received with
  | none => exact stands
  | some message =>
      simp only [self_bind]
      apply meets_ite
      · exact fun _ => stands
      · intro placed
        apply meets_bind
        · apply each_meets _ stands (ready message next answer placed)
          intro event _ swim stands ready
          apply @applyEventFrom_keeps _ _ _ _ _ _ (fun _ => False) moderate early stands ready
          exact fun _ => False.elim
        · exact fun _ => kept_answer moderate early

end Swim

end LyuneGateway.Membership
