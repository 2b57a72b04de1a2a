import LyuneGateway.Membership.Chunks

/-!
# What stands behind a suspicion

A suspicion has the nodes that have confirmed it, and a deadline, which comes
nearer with every confirmation. Each of the nodes has told of the member that it
is suspect, in its present incarnation, and the deadline leaves the member at
least its share of the time that it would have on its own.
-/

namespace LyuneGateway.Membership

open Control (NodeStatus)
open Faulty

namespace Swim

variable {swim after : Swim} {now nodeId source : Nat} {suspicion : Suspicion} {event : Event}
  {member : Member}

/-! ## One suspicion -/

/-- The time that a suspicion lasts if nobody else confirms it. -/
def timeout (swim : Swim) : Nat :=
  swim.config.params.suspicionMult * swim.logScale * swim.config.params.protocolPeriodMs *
    swim.healthMultiplier

theorem suspicionTimeout_answers : (suspicionTimeout swim).Meets (fun _ => True)
    (fun value after => swim = after ∧ value = swim.timeout) fun _ => False := by
  rw [suspicionTimeout, self_bind]
  apply meets_bind (meets_mul64 (.inl trivial))
  rintro _ _ ⟨rfl, rfl⟩
  apply meets_bind (meets_mul64 (.inl trivial))
  rintro _ _ ⟨rfl, rfl⟩
  exact meets_mul64 (.inl trivial)

def withSuspicion (swim : Swim) (nodeId : Nat) (suspicion : Option Suspicion) : Swim :=
  { swim with suspicions := Function.update swim.suspicions nodeId suspicion }

/-- A suspicion with one source more. -/
def confirmed (swim : Swim) (now source : Nat) (suspicion : Suspicion) : Suspicion :=
  if source ∈ suspicion.sources then suspicion
  else
    let confirmations :=
      if suspicion.confirmations < swim.config.params.suspicionConfirmations then
        suspicion.confirmations + 1
      else suspicion.confirmations
    { suspicion with
      sources :=
        if suspicion.sources.length < maxSources then suspicion.sources ++ [source]
        else suspicion.sources
      confirmations := confirmations
      deadline := min suspicion.deadline (now + max 1 (swim.timeout / confirmations)) }

theorem confirmSuspicion_answers (held : swim.suspicions nodeId = some suspicion) :
    (confirmSuspicion now nodeId source swim).Meets (fun _ => True)
      (fun _ after => swim.withSuspicion nodeId (some (confirmed swim now source suspicion)) = after)
      fun _ => False := by
  rw [confirmSuspicion, read_bind, held]
  apply meets_ite
  · intro counted
    rw [confirmed, if_pos counted, withSuspicion, ← held, Function.update_eq_self]
    rfl
  · intro new
    rw [self_bind, confirmed, if_neg new]
    apply meets_bind suspicionTimeout_answers
    rintro total _ ⟨rfl, rfl⟩
    apply meets_require (.inl trivial)
    intro _
    apply meets_bind (meets_add64 (.inl trivial))
    rintro limit _ ⟨rfl, rfl⟩
    rfl

/-- The suspicion that a member gets when it becomes suspect. -/
def opened (swim : Swim) (now source : Nat) : Suspicion :=
  confirmed swim now source { startedAt := now, deadline := now + swim.timeout }

theorem trackSuspicion_answers {status : NodeStatus}
    (clear : status = .suspect → swim.suspicions nodeId = none) :
    (trackSuspicion now nodeId status source swim).Meets (fun _ => True)
      (fun _ after => swim.withSuspicion nodeId
        (if status = .suspect then some (opened swim now source) else none) = after)
      fun _ => False := by
  rw [trackSuspicion]
  apply meets_ite
  · intro suspected
    rw [read_bind, clear suspected, if_pos suspected]
    let first : Suspicion := { startedAt := now, deadline := now + swim.timeout }
    apply @meets_bind _ _ _ _ _ _ _ (fun _ middle => swim.withSuspicion nodeId (some first) = middle)
    · apply meets_when
      · intro _
        apply meets_bind suspicionTimeout_answers
        rintro _ _ ⟨rfl, rfl⟩
        apply meets_bind (meets_add64 (.inl trivial))
        rintro _ _ ⟨rfl, rfl⟩
        rfl
      · exact fun absent => absurd rfl absent
    · rintro _ _ rfl
      have held : (swim.withSuspicion nodeId (some first)).suspicions nodeId = some first :=
        Function.update_self ..
      apply meets_mono (confirmSuspicion_answers held)
      · rintro _ _ rfl
        simp only [withSuspicion, Function.update_idem]
        rfl
      · exact fun _ => id
      · exact fun _ => id
  · intro other
    rw [if_neg other]
    rfl

/-! ## What a suspicion must have -/

/-- The sources are different nodes that have been heard, and the deadline is not too early. -/
structure Vouched (hears : Nat → Prop) (limit due : Nat) (suspicion : Suspicion) : Prop where
  distinct : suspicion.sources.Nodup
  sources : ∀ source ∈ suspicion.sources, hears source
  few : suspicion.confirmations ≤ limit
  late : due ≤ suspicion.deadline

theorem Vouched.confirmed {hears : Nat → Prop} {due : Nat}
    (vouched : Vouched hears swim.config.params.suspicionConfirmations due suspicion)
    (heard : hears source) (positive : 0 < swim.config.params.suspicionConfirmations)
    (soon : due ≤ now + swim.timeout / swim.config.params.suspicionConfirmations) :
    Vouched hears swim.config.params.suspicionConfirmations due
      (confirmed swim now source suspicion) := by
  rw [Swim.confirmed]
  split
  · exact vouched
  · rename_i new
    have few := vouched.few
    let confirmations :=
      if suspicion.confirmations < swim.config.params.suspicionConfirmations then
        suspicion.confirmations + 1
      else suspicion.confirmations
    have inside : 0 < confirmations ∧
        confirmations ≤ swim.config.params.suspicionConfirmations := by
      simp only [confirmations]
      split <;> omega
    have share : swim.timeout / swim.config.params.suspicionConfirmations ≤
        swim.timeout / confirmations := Nat.div_le_div_left inside.2 inside.1
    exact {
      distinct := by
        simp only
        split
        · exact List.nodup_append.mpr ⟨vouched.distinct, List.nodup_singleton _, by
            rintro other listed _ last rfl
            exact new (List.mem_singleton.mp last ▸ listed)⟩
        · exact vouched.distinct
      sources := by
        intro other listed
        simp only at listed
        split at listed
        · obtain before | last := List.mem_append.mp listed
          · exact vouched.sources other before
          · rwa [List.mem_singleton.mp last]
        · exact vouched.sources other listed
      few := inside.2
      late := le_min vouched.late (soon.trans (Nat.add_le_add_left
        (share.trans (le_max_right 1 _)) now)) }

theorem Vouched.opened {hears : Nat → Prop} {due : Nat} (heard : hears source)
    (positive : 0 < swim.config.params.suspicionConfirmations)
    (soon : due ≤ now + swim.timeout / swim.config.params.suspicionConfirmations) :
    Vouched hears swim.config.params.suspicionConfirmations due (opened swim now source) := by
  refine Vouched.confirmed ?_ heard positive soon
  exact {
    distinct := List.nodup_nil
    sources := fun _ listed => absurd listed List.not_mem_nil
    few := Nat.zero_le _
    late := soon.trans (Nat.add_le_add_left (Nat.div_le_self _ _) now) }

/-- Who has told of a member in an incarnation that it is suspect, and what the earliest time is at
which it may be taken for dead. -/
structure Terms where
  hears : Nat → Nat → Nat → Prop
  due : Nat → Nat → Nat

/-- All suspicions are about members, and are vouched for in the present incarnation of them. -/
def Attested (terms : Terms) (swim : Swim) : Prop :=
  ∀ nodeId suspicion, swim.suspicions nodeId = some suspicion →
    ∃ member, swim.table.get nodeId = some member ∧
      Vouched (fun source => terms.hears source nodeId member.incarnation)
        swim.config.params.suspicionConfirmations (terms.due nodeId member.incarnation) suspicion

/-- The part of the state that suspicions depend on. -/
structure Matter where
  config : Config
  table : Table
  suspicions : Nat → Option Suspicion

def matter (swim : Swim) : Matter where
  config := swim.config
  table := swim.table
  suspicions := swim.suspicions

theorem Attested.of_matter {terms : Terms} (attested : Attested terms swim)
    (same : after.matter = swim.matter) : Attested terms after := by
  simp only [matter, Matter.mk.injEq] at same
  obtain ⟨config, table, suspicions⟩ := same
  intro nodeId suspicion held
  rw [suspicions] at held
  rw [config, table]
  exact attested nodeId suspicion held

/-- The step changes nothing that suspicions depend on. -/
def Rests {α : Type} (act : Act α) : Prop :=
  ∀ matter : Matter, Keeps (fun _ => True) (fun swim => swim.matter = matter) act

theorem Rests.attested {α : Type} {act : Act α} {terms : Terms} (rests : Rests act)
    (attested : Attested terms swim) :
    (act swim).Meets (fun _ => True) (fun _ => Attested terms) (Attested terms) := by
  apply meets_mono (rests swim.matter swim rfl)
  · exact fun _ _ same => attested.of_matter same
  · exact fun _ same => attested.of_matter same
  · exact fun _ => id

theorem matter_of_view (same : after.view = swim.view) : after.matter = swim.matter := by
  simp only [view, View.mk.injEq] at same
  simp only [matter, Matter.mk.injEq]
  exact ⟨same.1, same.2.1, same.2.2.2.1⟩

theorem Quiet.matter {α : Type} {act : Act α} (quiet : Quiet act)
    (supplied : Supplied swim.gossipQueue) :
    (act swim).Meets (fun _ => True) (fun _ after => after.matter = swim.matter)
      fun after => after.matter = swim.matter := by
  apply meets_mono (quiet swim.view swim ⟨rfl, supplied⟩)
  · exact fun _ _ kept => matter_of_view kept.1
  · exact fun _ kept => matter_of_view kept.1
  · exact fun _ _ => trivial

theorem rests_penalizeHealth : Rests penalizeHealth := by
  intro matter
  apply Keeps.modify
  intro swim same
  split <;> exact same

theorem rests_queueGossip : Rests (queueGossip event) := by
  intro matter
  apply Keeps.bind
  · exact Keeps.bind Keeps.self fun _ => Keeps.bind (Keeps.require (.inl trivial)) fun _ => Keeps.pure
  intro _
  apply Keeps.bind Keeps.read
  intro _
  apply Keeps.bind
  · apply Keeps.when
    intro _ swim same
    simp only [allocate]
    split <;> exact same
  · exact fun _ => Keeps.modify fun _ => id

theorem rests_handleSelfEvent : Rests (handleSelfEvent event) := by
  intro matter
  apply Keeps.bind Keeps.self
  intro _
  apply Keeps.ite (fun _ => Keeps.pure)
  intro _
  apply Keeps.bind (Keeps.when fun _ => rests_penalizeHealth matter)
  intro _
  apply Keeps.when
  intro _
  apply Keeps.bind (Keeps.require (.inl trivial))
  intro _
  refine Keeps.bind (Keeps.modify fun _ same => ?_) fun _ => ?_
  · exact same
  · exact Keeps.bind Keeps.self fun _ => rests_queueGossip matter

theorem rests_noteIdentityConflict {expected observed : Address} :
    Rests (noteIdentityConflict nodeId expected observed) := by
  intro matter
  apply Keeps.ite (fun _ => Keeps.pure)
  intro _
  refine Keeps.bind (Keeps.modify fun swim same => ?_) fun _ => Keeps.pure
  split <;> exact same

/-! ## What an event does to the suspicions -/

/-- A suspicion takes the place of another one, and all others stay. -/
theorem Attested.withSuspicion {terms : Terms} {changed : Option Suspicion}
    (others : ∀ other, other ≠ nodeId → ∀ suspicion, swim.suspicions other = some suspicion →
      ∃ member, swim.table.get other = some member ∧
        Vouched (fun source => terms.hears source other member.incarnation)
          swim.config.params.suspicionConfirmations (terms.due other member.incarnation) suspicion)
    (vouched : ∀ suspicion, changed = some suspicion →
      ∃ member, swim.table.get nodeId = some member ∧
        Vouched (fun source => terms.hears source nodeId member.incarnation)
          swim.config.params.suspicionConfirmations (terms.due nodeId member.incarnation)
          suspicion) : Attested terms (swim.withSuspicion nodeId changed) := by
  intro other suspicion held
  simp only [Swim.withSuspicion] at held ⊢
  by_cases same : other = nodeId
  · subst same
    rw [Function.update_self] at held
    exact vouched suspicion held
  · rw [Function.update_of_ne same] at held
    exact others other same suspicion held

/-- With one active member more or as many, a suspicion does not last shorter. -/
theorem timeout_written (active : Active member.status) :
    swim.timeout ≤ { swim with table := swim.table.written member }.timeout := by
  have more : swim.table.activeCount ≤ (swim.table.written member).activeCount := by
    simp only [Table.written, if_pos active]
    split <;> omega
  have scale : swim.logScale ≤ { swim with table := swim.table.written member }.logScale :=
    max_le_max le_rfl (Nat.clog_mono_right 2 (Nat.add_le_add_right more 1))
  exact Nat.mul_le_mul_right _ (Nat.mul_le_mul_right _ (Nat.mul_le_mul_left _ scale))

section Event

variable {terms : Terms} {teller : Option Nat} (sound : swim.view.Sound)
  (attested : Attested terms swim)
  (heard : event.status = .suspect →
    terms.hears (teller.getD swim.config.nodeId) event.nodeId event.incarnation)
  (soon : event.status = .suspect → ∀ nodeId incarnation, terms.due nodeId incarnation ≤
    now + swim.timeout / swim.config.params.suspicionConfirmations)

include sound attested heard soon

theorem adopt_attested {current : Option Member}
    (fits : ∀ member, current = some member → member.address = event.address)
    (publishes : swim.Publishes event) (room : swim.table.Room event.nodeId)
    (clear : event.status = .suspect → swim.suspicions event.nodeId = none) :
    (adopt now current event teller swim).Meets (fun _ => True) (fun _ => Attested terms)
      (Attested terms) := by
  have capacity : swim.table.capacity = swim.config.maxNodes := sound.capacity
  have valid : event.member.nodeId ≠ 0 ∧ event.member.nodeId < swim.table.capacity :=
    ⟨publishes.2.1, capacity ▸ publishes.2.2.1⟩
  have positive : 0 < swim.config.params.suspicionConfirmations :=
    (validate_pos sound.valid).2.2.2.2.2
  rw [adopt, Event.member_of_fits fits]
  refine meets_bind (meets_sure (upsert_meets sound valid)) ?_
  rintro _ _ rfl
  rw [read_bind]
  let stored : Swim := { swim with table := swim.table.written event.member }
  let told := teller.getD swim.config.nodeId
  have tracks := @trackSuspicion_answers stored now event.nodeId told event.status clear
  refine meets_bind (meets_sure tracks) ?_
  rintro _ tracked rfl
  have attested : Attested terms (stored.withSuspicion event.nodeId
      (if event.status = NodeStatus.suspect then some (opened stored now told) else none)) := by
    apply Attested.withSuspicion
    · intro other differs suspicion held
      obtain ⟨member, known, vouched⟩ := attested other suspicion held
      exact ⟨member, (Table.get_written_ne differs).trans known, vouched⟩
    · intro suspicion chosen
      split at chosen
      · rename_i suspected
        cases chosen
        refine ⟨event.member, Table.get_written_self valid room, ?_⟩
        refine @Vouched.opened stored now told _ _ (heard suspected) positive ?_
        refine (soon suspected _ _).trans (Nat.add_le_add_left (Nat.div_le_div_right ?_) now)
        exact timeout_written (.inr suspected)
      · cases chosen
  refine meets_bind (rests_queueGossip.attested attested) fun _ queued attested => ?_
  exact attested.of_matter rfl

theorem confirmFrom_attested :
    (confirmFrom now (swim.table.get event.nodeId) event teller swim).Meets (fun _ => True)
      (fun _ => Attested terms) (Attested terms) := by
  cases teller with
  | none => exact attested
  | some source =>
      cases known : swim.table.get event.nodeId with
      | none => exact attested
      | some member =>
          apply meets_when
          · rintro ⟨suspected, -, same⟩
            cases held : swim.suspicions event.nodeId with
            | none =>
                rw [confirmSuspicion, read_bind, held]
                exact trivial
            | some suspicion =>
                apply meets_mono (confirmSuspicion_answers held)
                · rintro _ _ rfl
                  apply Attested.withSuspicion
                  · exact fun other _ => attested other
                  · rintro _ ⟨⟩
                    obtain ⟨member', known', vouched⟩ := attested event.nodeId suspicion held
                    refine ⟨member', known', ?_⟩
                    rw [known, Option.some.injEq] at known'
                    subst known'
                    rw [same] at vouched ⊢
                    exact vouched.confirmed (heard suspected) (validate_pos sound.valid).2.2.2.2.2
                      (soon suspected _ _)
                · exact fun _ => False.elim
                · exact fun _ => id
          · exact fun _ => attested

/-- An event keeps the suspicions attested, if the node that tells of it is heard, and if it makes no
member suspect that is suspect already. -/
theorem applyEventFrom_attested (ready : Ready False event swim)
    (clear : event.status = .suspect → swim.Publishes event →
      swim.suspicions event.nodeId = none) :
    (applyEventFrom now event teller swim).Meets (fun _ => True) (fun _ => Attested terms)
      (Attested terms) := by
  rw [applyEventFrom, self_bind]
  apply meets_ite
  · intro _
    apply meets_bind (rests_noteIdentityConflict.attested attested)
    intro _ noted attested
    exact meets_ite (fun _ => attested) fun _ => rests_handleSelfEvent.attested attested
  intro other
  apply meets_ite
  · exact fun _ => attested
  intro inside
  rw [get, read_bind]
  refine meets_bind (meets_sure (@contradicts_meets _ _ (fun _ => True) _)) ?_
  intro conflict noted meets
  split at meets
  · rw [if_pos ‹_›]
    exact attested.of_matter (matter_of_view meets.2.1)
  · rw [if_neg ‹_›]
    obtain ⟨rfl, fits⟩ := meets
    apply meets_ite
    · intro accepted
      have publishes : swim.Publishes event := ⟨other, by omega, by omega, fits, accepted⟩
      exact adopt_attested sound attested heard soon fits publishes (ready.room publishes)
        fun suspected => clear suspected publishes
    · exact fun _ => confirmFrom_attested sound attested heard soon

end Event

end Swim

end LyuneGateway.Membership
