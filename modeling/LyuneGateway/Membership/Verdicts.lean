import LyuneGateway.Membership.Sessions
import LyuneGateway.Membership.Suspicions

/-!
# When a member is taken for dead

What a node does keeps its suspicions attested, as long as nobody is heard who
has not spoken, and no member becomes suspect anew while it is suspect. A member
is taken for dead by the clock only, and not before its suspicion has run out.
-/

namespace LyuneGateway.Membership

open Control (NodeStatus)
open Faulty

namespace Swim

variable {swim after : Swim} {now nodeId : Nat} {terms : Terms} {start : View} {source : Address}
  {message : Message}

/-! ## What does not touch suspicions -/

/-- The step changes nothing that suspicions depend on, and leaves the queue supplied. -/
def Calm {α : Type} (act : Act α) : Prop :=
  ∀ matter : Matter, Keeps (fun _ => True)
    (fun swim => swim.matter = matter ∧ Supplied swim.gossipQueue) act

theorem Quiet.calm {α : Type} {act : Act α} (quiet : Quiet act) : Calm act := by
  rintro matter swim ⟨rfl, supplied⟩
  exact meets_mono (meets_and (quiet.matter supplied) (quiet swim.view swim ⟨rfl, supplied⟩))
    (fun _ _ both => ⟨both.1, both.2.2⟩) (fun _ both => ⟨both.1, both.2.2⟩) fun _ => id

theorem Calm.bind {α β : Type} {act : Act α} {next : α → Act β} (first : Calm act)
    (then_ : ∀ value, Calm (next value)) : Calm (act >>= next) :=
  fun matter => Keeps.bind (first matter) fun value => then_ value matter

theorem calm_aside {change : Swim → Swim} (same : ∀ swim, (change swim).matter = swim.matter)
    (queue : ∀ swim, (change swim).gossipQueue = swim.gossipQueue) : Calm (modify change) := by
  intro matter
  apply Keeps.modify
  rintro swim ⟨rfl, supplied⟩
  exact ⟨same swim, queue swim ▸ supplied⟩

theorem Calm.attested {α : Type} {act : Act α} (calm : Calm act) (attested : Attested terms swim)
    (supplied : Supplied swim.gossipQueue) :
    (act swim).Meets (fun _ => True) (fun _ => Attested terms) (Attested terms) := by
  apply meets_mono (calm swim.matter swim ⟨rfl, supplied⟩)
  · exact fun _ _ kept => attested.of_matter kept.1
  · exact fun _ kept => attested.of_matter kept.1
  · exact fun _ => id

theorem calm_add64 {a b : Nat} : Calm (add64 a b) := fun _ => keeps_add64

theorem calm_scaledProtocolPeriod : Calm scaledProtocolPeriod :=
  fun _ => Keeps.bind Keeps.self fun _ => keeps_mul64

theorem calm_scaledProbeTimeout : Calm scaledProbeTimeout :=
  fun _ => Keeps.bind Keeps.self fun _ => keeps_mul64

theorem calm_recoverHealth : Calm recoverHealth := by
  apply calm_aside <;>
  · intro swim
    split <;> rfl

theorem calm_handlePingReq : Calm (handlePingReq now source message) := by
  apply quiet_get.calm.bind
  intro found
  cases found with
  | none => exact quiet_pure.calm
  | some target =>
      apply quiet_nextSeq.calm.bind
      intro seq
      apply quiet_self.calm.bind
      intro swim
      apply calm_add64.bind
      intro deadline
      refine Calm.bind ?_ fun _ => quiet_send.calm
      exact calm_aside (fun _ => rfl) fun _ => rfl

theorem calm_handleAck : Calm (handleAck now message) := by
  apply quiet_self.calm.bind
  intro swim matter
  apply Keeps.ite
  · intro _
    refine Calm.bind ?_ (fun _ => calm_recoverHealth) matter
    exact calm_aside (fun _ => rfl) fun _ => rfl
  · intro _
    cases findRelay swim.relays message with
    | none => exact Keeps.pure
    | some found =>
        refine Calm.bind ?_ (fun _ matter => ?_) matter
        · exact calm_aside (fun _ => rfl) fun _ => rfl
        · exact Keeps.ite (fun _ => Keeps.pure) fun _ => quiet_send.calm matter

theorem calm_handleSync : Calm (handleSync now source message) := by
  intro matter
  apply Keeps.ite (fun _ => quiet_answerSync.calm matter)
  intro _
  apply Keeps.bind Keeps.read
  intro found
  cases found with
  | none => exact Keeps.pure
  | some session =>
      apply Keeps.ite (fun _ => Keeps.pure)
      intro _
      apply Keeps.bind (calm_scaledProtocolPeriod matter)
      intro _
      apply Keeps.bind (calm_add64 matter)
      intro deadline
      apply Keeps.ite
      · intro _
        refine Keeps.bind (calm_aside (fun _ => ?_) (fun _ => ?_) matter) fun _ =>
          quiet_sendSyncRequest.calm matter
        · rfl
        · rfl
      · exact fun _ => calm_aside (fun _ => rfl) (fun _ => rfl) matter

theorem calm_answer : Calm (answer now source message) := by
  apply quiet_self.calm.bind
  intro swim
  cases message.type with
  | ping => exact quiet_send.calm
  | pingReq => exact calm_handlePingReq
  | ack => exact calm_handleAck
  | sync => exact calm_handleSync

theorem calm_driveAntiEntropy : Calm (driveAntiEntropy now) := by
  apply quiet_self.calm.bind
  intro swim matter
  apply Keeps.ite (fun _ => Keeps.pure)
  intro _
  apply Keeps.ite (fun _ => Keeps.pure)
  intro _
  refine Keeps.bind (calm_aside (fun _ => ?_) (fun _ => ?_) matter) fun _ => ?_
  · rfl
  · rfl
  apply Keeps.ite (fun _ => Keeps.pure)
  intro _
  apply Keeps.bind ((quiet_self.bind fun _ => quiet_choosePeer _ _ _).calm matter)
  intro found
  cases found with
  | none => exact Keeps.pure
  | some peer =>
      apply Keeps.bind (calm_scaledProtocolPeriod matter)
      intro _
      apply Keeps.bind (calm_add64 matter)
      intro _
      refine Keeps.bind (calm_aside (fun _ => ?_) (fun _ => ?_) matter) fun _ => ?_
      · rfl
      · rfl
      apply Keeps.bind Keeps.self
      intro _
      apply Keeps.bind (calm_add64 matter)
      intro _
      refine Keeps.bind (calm_aside (fun _ => ?_) (fun _ => ?_) matter) fun _ =>
        quiet_sendSyncRequest.calm matter
      · rfl
      · rfl

theorem calm_beginPeriod : Calm (beginPeriod now) := by
  apply quiet_self.calm.bind
  intro swim matter
  apply Keeps.when
  intro _
  apply Keeps.bind (calm_scaledProtocolPeriod matter)
  intro _
  apply Keeps.bind (calm_add64 matter)
  intro _
  refine Keeps.bind (calm_aside (fun _ => ?_) (fun _ => ?_) matter) fun _ => ?_
  · rfl
  · rfl
  apply Keeps.bind ((quiet_nextProbeTarget 2).calm matter)
  intro found
  cases found with
  | none => exact Keeps.pure
  | some member =>
      apply Keeps.bind (quiet_nextSeq.calm matter)
      intro _
      apply Keeps.bind (calm_scaledProbeTimeout matter)
      intro _
      apply Keeps.bind (calm_add64 matter)
      intro _
      apply Keeps.bind (calm_scaledProtocolPeriod matter)
      intro _
      apply Keeps.bind (calm_add64 matter)
      intro _
      refine Keeps.bind (calm_aside (fun _ => ?_) (fun _ => ?_) matter) fun _ =>
        (quiet_self.bind fun _ => quiet_send).calm matter
      · rfl
      · rfl

/-! ## Commands -/

/-- What holds of a node whose suspicions are attested. -/
structure Firm (start : View) (terms : Terms) (swim : Swim) : Prop where
  holds : Holds False start swim
  attested : Attested terms swim

theorem meets_firm {α : Type} {act : Act α}
    (kept : (act swim).Meets (Tolerated False) (fun _ => Holds False start) (Holds False start))
    (attested : (act swim).Meets (fun _ => True) (fun _ => Attested terms) (Attested terms)) :
    (act swim).Meets (fun _ => True) (fun _ => Firm start terms) (Firm start terms) :=
  meets_mono (meets_and kept attested) (fun _ _ both => ⟨both.1, both.2⟩)
    (fun _ both => ⟨both.1, both.2⟩) fun _ _ => trivial

theorem Quiet.firm {α : Type} {act : Act α} (quiet : Quiet act) (firm : Firm start terms swim) :
    (act swim).Meets (fun _ => True)
      (fun _ after => Firm start terms after ∧ after.view = swim.view)
      fun after => Firm start terms after ∧ after.view = swim.view := by
  have same : ∀ after : Swim, Holds False start after ∧ after.view = swim.view →
      Firm start terms after ∧ after.view = swim.view :=
    fun after kept => ⟨⟨kept.1, firm.attested.of_matter (matter_of_view kept.2)⟩, kept.2⟩
  exact meets_mono (quiet.stands firm.holds) (fun _ => same) same fun _ => id

/-- An event makes no member suspect that is suspect already, at a lower incarnation. -/
def Clear (event : Event) (swim : Swim) : Prop :=
  event.status = .suspect → swim.Publishes event → swim.suspicions event.nodeId = none

/-- The time that is left to a suspect when as many nodes have confirmed the suspicion as count. -/
def share (swim : Swim) : Nat := swim.timeout / swim.config.params.suspicionConfirmations

/-- A suspicion that is confirmed now leaves every member the time that it must have. -/
def Ample (terms : Terms) (now : Nat) (swim : Swim) : Prop :=
  ∀ nodeId incarnation, terms.due nodeId incarnation ≤ now + swim.share

theorem handleMessage_firm {bytes : Bytes} (firm : Firm start terms swim)
    (ready : ReadyToHear False now source bytes swim)
    (heard : ∀ message next, receive bytes swim = .done (some message) next →
      ∀ event ∈ message.events, event.status = .suspect →
        terms.hears message.sender event.nodeId event.incarnation)
    (careful : ∀ message next, receive bytes swim = .done (some message) next →
      ¬ next.misplaced source message →
      Turns (fun event swim => Clear event swim ∧ Ample terms now swim)
        (fun event => applyEventFrom now event (some message.sender)) message.events next) :
    (handleMessage now source bytes swim).Meets (fun _ => True) (fun _ => Firm start terms)
      (Firm start terms) := by
  rw [handleMessage]
  apply meets_then (meets_firm (quiet_receive.kept swim firm.holds)
    (quiet_receive.calm.attested firm.attested firm.holds.supplied))
  intro received next answer firm
  cases received with
  | none => exact firm
  | some message =>
      simp only [self_bind]
      apply meets_ite
      · exact fun _ => firm
      · intro placed
        have turns := (ready message next answer placed).and (careful message next answer placed)
        apply meets_bind
        · apply each_meets _ firm turns
          rintro event listed state firm ⟨ready, clear, ample⟩
          apply meets_firm
          · exact @applyEventFrom_keeps _ _ _ _ _ _ (fun _ => False) False.elim False.elim firm.holds
              ready fun _ => False.elim
          · exact applyEventFrom_attested firm.holds.sound firm.attested
              (heard message next answer event listed) (fun _ => ample) ready clear
        · intro _ merged firm
          exact meets_firm (kept_answer False.elim False.elim merged firm.holds)
            (calm_answer.attested firm.attested firm.holds.supplied)

/-- An event that is not about a suspect needs nobody to be heard. -/
theorem assert_dead_attested {member : Member} (sound : swim.view.Sound)
    (attested : Attested terms swim) (room : swim.table.Room member.nodeId) :
    (assert now member .dead swim).Meets (fun _ => True) (fun _ => Attested terms)
      (Attested terms) := by
  apply applyEventFrom_attested sound attested
  · exact fun suspected => by cases suspected
  · exact fun suspected => by cases suspected
  · exact ⟨fun _ => room, False.elim⟩
  · exact fun suspected => by cases suspected

theorem expireSuspicion_firm (firm : Firm start terms swim)
    (room : Expires now nodeId swim → swim.table.Room nodeId) :
    (expireSuspicion now nodeId swim).Meets (fun _ => True) (fun _ => Firm start terms)
      (Firm start terms) := by
  apply meets_firm (expireSuspicion_keeps False.elim False.elim firm.holds room)
  rw [expireSuspicion, read_bind]
  cases held : swim.suspicions nodeId with
  | none => exact firm.attested
  | some suspicion =>
      apply meets_ite
      · exact fun _ => firm.attested
      · intro due
        have room := room ⟨suspicion, held, not_lt.mp due⟩
        have attested : Attested terms (swim.withSuspicion nodeId none) :=
          Attested.withSuspicion (fun other _ => firm.attested other) (by simp)
        rw [modify_bind, get, read_bind]
        cases known : swim.table.get nodeId with
        | none => exact attested
        | some member =>
            apply meets_when
            · intro _
              rw [← Table.get_nodeId known] at room
              have sound := firm.holds.sound
              exact assert_dead_attested ⟨sound.valid, sound.named, sound.counted, sound.capacity,
                sound.own, sound.health⟩ attested room
            · exact fun _ => attested

theorem Ample.of_timeout (ample : Ample terms now swim) (config : after.config = swim.config)
    (longer : swim.timeout ≤ after.timeout) : Ample terms now after := by
  intro nodeId incarnation
  refine (ample nodeId incarnation).trans (Nat.add_le_add_left ?_ now)
  rw [share, share, config]
  exact Nat.div_le_div_right longer

/-- With worse health, there is more time. -/
theorem penalizeHealth_firm (firm : Firm start terms swim) (ample : Ample terms now swim) :
    (penalizeHealth swim).Meets (fun _ => True) (fun _ after => Firm start terms after ∧
      after.table = swim.table ∧ after.config = swim.config ∧ Ample terms now after)
      fun _ => False := by
  rw [penalizeHealth, modify_apply]
  split
  · rename_i below
    refine ⟨⟨?_, firm.attested.of_matter rfl⟩, rfl, rfl, ?_⟩
    · exact firm.holds.withHealth ⟨Nat.le_add_left 1 _, below⟩
    · exact ample.of_timeout rfl (Nat.mul_le_mul_left _ (Nat.le_succ _))
  · exact ⟨firm, rfl, rfl, ample⟩

/-- The records are the same, but for members that are suspect now. -/
def Marks (swim after : Swim) : Prop :=
  ∀ nodeId, after.table.get nodeId = swim.table.get nodeId ∨
    ∃ member, after.table.get nodeId = some member ∧ member.status = .suspect

theorem Marks.of_table (same : after.table = swim.table) : Marks swim after :=
  fun _ => .inl (by rw [same])

theorem marks_of_stores {event : Event} (stores : Stores event swim after)
    (suspected : event.status = .suspect) (room : swim.table.Room event.nodeId)
    (capacity : swim.table.capacity = swim.config.maxNodes) : Marks swim after := by
  intro nodeId
  by_cases news : swim.Publishes event
  · have records := Table.get_congr (stores.news news) stores.capacity nodeId
    by_cases same : nodeId = event.nodeId
    · subst same
      refine .inr ⟨event.member, records.trans ?_, suspected⟩
      exact Table.get_written_self ⟨news.2.1, capacity ▸ news.2.2.1⟩ room
    · exact .inl (records.trans (Table.get_written_ne same))
  · exact .inl (Table.get_congr (stores.old news) stores.capacity nodeId)

/-- The node itself is heard, when its own probe has failed. -/
theorem assert_suspect_firm {member : Member} (firm : Firm start terms swim)
    (known : swim.table.get member.nodeId = some member) (trusted : member.status = .alive)
    (room : swim.table.Room member.nodeId) (ample : Ample terms now swim)
    (own : terms.hears swim.config.nodeId member.nodeId member.incarnation) :
    (assert now member .suspect swim).Meets (fun _ => True)
      (fun _ after => Firm start terms after ∧ Marks swim after)
      fun after => Firm start terms after ∧ Marks swim after := by
  have capacity : swim.table.capacity = swim.config.maxNodes := firm.holds.sound.capacity
  have foreign : member.nodeId ≠ swim.config.nodeId := by
    have own : swim.table.get swim.config.nodeId = none := firm.holds.sound.own
    rintro same
    rw [same, own] at known
    cases known
  have stores : (assert now member .suspect swim).Meets (fun _ => True)
      (fun _ => Marks swim) (Marks swim) :=
    meets_mono (applyEventFrom_stores foreign capacity)
      (fun _ _ stores => marks_of_stores stores rfl room capacity)
      (fun _ stores => marks_of_stores stores rfl room capacity) fun _ => id
  refine meets_and (meets_firm ?_ ?_) stores
  · exact @applyEventFrom_keeps _ _ _ _ _ _ (fun _ => False) False.elim False.elim firm.holds
      ⟨fun _ => room, False.elim⟩ fun _ => False.elim
  apply applyEventFrom_attested firm.holds.sound firm.attested
  · exact fun _ => own
  · exact fun _ => ample
  · exact ⟨fun _ => room, False.elim⟩
  · intro _ _
    have tracks := (firm.holds.tracks member.nodeId id).not
    rw [← Option.not_isSome_iff_eq_none]
    apply tracks.mp
    rintro ⟨other, held, suspected⟩
    cases known.symm.trans held
    rw [trusted] at suspected
    cases suspected

/-- The node itself is heard of the member whose probe has failed. -/
def Heard (terms : Terms) (now : Nat) (swim : Swim) : Prop :=
  ∀ nodeId member, Fails now nodeId swim → swim.table.get nodeId = some member →
    terms.hears swim.config.nodeId nodeId member.incarnation

theorem driveProbe_firm (firm : Firm start terms swim)
    (room : ∀ nodeId, Fails now nodeId swim → swim.table.Room nodeId)
    (ample : Ample terms now swim)
    (own : Heard terms now swim) :
    (driveProbe now swim).Meets (fun _ => True)
      (fun _ after => Firm start terms after ∧ Marks swim after)
      fun after => Firm start terms after ∧ Marks swim after := by
  rw [driveProbe, read_bind]
  cases held : swim.probe with
  | none => exact ⟨firm, Marks.of_table rfl⟩
  | some probe =>
      apply @meets_bind _ _ _ _ _ _ _
        (fun _ after => Firm start terms after ∧ after.view = swim.view)
      · apply meets_when
        · intro _
          rw [modify_bind]
          have probing : Firm start terms { swim with
              probe := some { probe with indirectSent := true } } :=
            ⟨firm.holds.of_view rfl rfl, firm.attested.of_matter rfl⟩
          apply meets_mono (quiet_sendIndirectProbes.firm probing)
          · exact fun _ _ => id
          · exact fun _ kept => ⟨kept.1, Marks.of_table (congrArg View.table kept.2)⟩
          · exact fun _ => id
        · exact fun _ => ⟨firm, rfl⟩
      · rintro _ after ⟨firm, same⟩
        have table : after.table = swim.table := congrArg View.table same
        have config : after.config = swim.config := congrArg View.config same
        have health : after.healthMultiplier = swim.healthMultiplier :=
          congrArg View.healthMultiplier same
        have longer : swim.timeout = after.timeout := by
          rw [timeout, timeout, logScale, logScale, table, config, health]
        have ample : Ample terms now after := ample.of_timeout config longer.le
        apply meets_when
        · intro due
          rw [modify_bind]
          apply @meets_bind _ _ _ _ _ _ _
            (fun _ last => Firm start terms last ∧ last.table = swim.table ∧
              last.config = swim.config ∧ Ample terms now last)
          · have idle : Firm start terms { after with probe := none } :=
              ⟨firm.holds.of_view rfl rfl, firm.attested.of_matter rfl⟩
            refine meets_mono (penalizeHealth_firm idle ample) (fun _ last kept => ?_)
              (fun _ => False.elim) fun _ => id
            exact ⟨kept.1, kept.2.1.trans table, kept.2.2.1.trans config, kept.2.2.2⟩
          · rintro _ last ⟨firm, table, config, ample⟩
            rw [get, read_bind, table]
            cases known : swim.table.get probe.target with
            | none => exact ⟨firm, Marks.of_table table⟩
            | some member =>
                apply meets_when
                · intro trusted
                  have self := Table.get_nodeId known
                  have fails : Fails now probe.target swim :=
                    ⟨probe, member, held, rfl, due, known, trusted⟩
                  have asserted := assert_suspect_firm firm (by rw [self, table, known]) trusted
                    (by rw [self, table]; exact room probe.target fails) ample
                    (by rw [self, config]; exact own probe.target member fails known)
                  simp only [Marks, table] at asserted
                  apply meets_bind asserted
                  rintro _ told ⟨firm, marks⟩
                  have sent : ∀ sent : Swim, Firm start terms sent ∧ sent.view = told.view →
                      Firm start terms sent ∧ Marks swim sent := by
                    rintro sent ⟨firm, same⟩
                    have table : sent.table = told.table := congrArg View.table same
                    refine ⟨firm, fun nodeId => ?_⟩
                    rw [table]
                    exact marks nodeId
                  exact meets_mono (quiet_sendBuddyNotification.firm firm) (fun _ => sent) sent
                    fun _ => id
                · exact fun _ => ⟨firm, Marks.of_table table⟩
        · exact fun _ => ⟨firm, Marks.of_table table⟩

/-! ## Verdicts of the clock -/

/-- The member was suspect, and its suspicion has run out. -/
structure Expired (now : Nat) (swim : Swim) (member : Member) : Prop where
  known : swim.table.get member.nodeId = some member
  suspected : member.status = .suspect
  due : Expires now member.nodeId swim

/-- The record and the suspicion are the same, or the member has been taken for dead. -/
def Outlived (now : Nat) (swim after : Swim) (nodeId : Nat) : Prop :=
  after.table.get nodeId = swim.table.get nodeId ∧
      after.suspicions nodeId = swim.suspicions nodeId ∨
    (∃ member, member.nodeId = nodeId ∧ Expired now swim member ∧
      after.table.get nodeId = some { member with status := .dead }) ∧
      after.suspicions nodeId = none

/-- A suspect member that is taken for dead is stored, and has no suspicion. -/
theorem assert_dead_answers {member : Member} (sound : swim.view.Sound)
    (known : swim.table.get member.nodeId = some member) (suspected : member.status = .suspect) :
    let buried : Swim := { swim with table := swim.table.written { member with status := .dead } }
    (assert now member .dead swim).Meets (fun _ => True)
      (fun _ after => after.matter = (buried.withSuspicion member.nodeId none).matter)
      fun after => after.matter = (buried.withSuspicion member.nodeId none).matter := by
  intro buried
  let event : Event := {
    nodeId := member.nodeId
    status := .dead
    incarnation := member.incarnation
    address := member.address }
  have valid := Table.get_valid known
  have capacity : swim.table.capacity = swim.config.maxNodes := sound.capacity
  have own : swim.table.get swim.config.nodeId = none := sound.own
  have foreign : ¬ event.nodeId = swim.config.nodeId := by
    intro same
    change member.nodeId = swim.config.nodeId at same
    rw [same, own] at known
    cases known
  have inside : ¬ (event.nodeId = 0 ∨ swim.config.maxNodes ≤ event.nodeId) := by
    change ¬ (member.nodeId = 0 ∨ swim.config.maxNodes ≤ member.nodeId)
    omega
  have accepted : accepts (some member) event = true := by simp [accepts, event, suspected]
  change (applyEventFrom now event none swim).Meets _ _ _
  rw [applyEventFrom, self_bind, ite_neg foreign, ite_neg inside, get, read_bind]
  change ((contradicts (swim.table.get member.nodeId) event >>= _) swim).Meets _ _ _
  have agrees : contradicts (swim.table.get member.nodeId) event swim = .done false swim := by
    rw [known]
    exact ite_pos rfl
  rw [bind_done agrees]
  change ((if accepts (swim.table.get member.nodeId) event then _ else _ : Act Unit) swim).Meets _ _ _
  rw [ite_pos (known ▸ accepted), known, adopt]
  refine meets_bind (meets_sure (upsert_meets sound valid)) ?_
  rintro _ _ rfl
  rw [read_bind]
  have tracks := @trackSuspicion_answers buried now member.nodeId swim.config.nodeId .dead
    (fun suspected => by cases suspected)
  refine meets_bind (meets_sure tracks) ?_
  rintro _ _ rfl
  rw [if_neg (by decide)]
  refine meets_bind (rests_queueGossip _ _ rfl) fun _ queued same => ?_
  exact same

theorem Outlived.refl (swim : Swim) : Outlived now swim swim nodeId := .inl ⟨rfl, rfl⟩

theorem Outlived.trans {middle : Swim} (first : Outlived now swim middle nodeId)
    (second : Outlived now middle after nodeId) : Outlived now swim after nodeId := by
  obtain ⟨record, suspicion⟩ | ⟨dead, gone⟩ := first
  · obtain ⟨record', suspicion'⟩ | ⟨⟨member, rfl, expired, dead⟩, gone⟩ := second
    · exact .inl ⟨record'.trans record, suspicion'.trans suspicion⟩
    · refine .inr ⟨⟨member, rfl, ⟨record ▸ expired.known, expired.suspected, ?_⟩, dead⟩, gone⟩
      obtain ⟨held, known, due⟩ := expired.due
      exact ⟨held, suspicion ▸ known, due⟩
  · obtain ⟨record', suspicion'⟩ | ⟨⟨member, rfl, expired, -⟩, -⟩ := second
    · rw [← record'] at dead
      exact .inr ⟨dead, suspicion'.trans gone⟩
    · obtain ⟨held, known, -⟩ := expired.due
      rw [gone] at known
      cases known

theorem Outlived.of_matter {buried : Swim} (same : after.matter = buried.matter)
    (outlived : Outlived now swim buried nodeId) : Outlived now swim after nodeId := by
  simp only [matter, Matter.mk.injEq] at same
  obtain ⟨-, table, suspicions⟩ := same
  rw [Outlived, table, suspicions]
  exact outlived

theorem expireSuspicion_outlived (holds : Holds False start swim)
    (room : Expires now nodeId swim → swim.table.Room nodeId) :
    (expireSuspicion now nodeId swim).Meets (fun _ => True)
      (fun _ after => ∀ other, Outlived now swim after other)
      fun after => ∀ other, Outlived now swim after other := by
  rw [expireSuspicion, read_bind]
  cases held : swim.suspicions nodeId with
  | none => exact fun _ => Outlived.refl swim
  | some suspicion =>
      apply meets_ite
      · exact fun _ _ => Outlived.refl swim
      · intro due
        have expires : Expires now nodeId swim := ⟨suspicion, held, not_lt.mp due⟩
        -- A suspicion is about a member that is suspect.
        obtain ⟨member, known, suspected⟩ : ∃ member, swim.table.get nodeId = some member ∧
            member.status = .suspect :=
          (holds.tracks nodeId id).mpr (Option.isSome_of_eq_some held)
        have self := Table.get_nodeId known
        subst self
        rw [modify_bind, get, read_bind]
        dsimp only
        rw [known]
        have sound := holds.sound
        have answers := @assert_dead_answers (swim.withSuspicion member.nodeId none) now member
          ⟨sound.valid, sound.named, sound.counted, sound.capacity, sound.own, sound.health⟩
          known suspected
        let cleared : Swim := swim.withSuspicion member.nodeId none
        let buried : Swim :=
          { cleared with table := swim.table.written { member with status := .dead } }
        have ends : ∀ after : Swim, after.matter = (buried.withSuspicion member.nodeId none).matter →
            ∀ other, Outlived now swim after other := by
          intro after same other
          apply Outlived.of_matter same
          by_cases about : other = member.nodeId
          · subst about
            refine .inr ⟨⟨member, rfl, ⟨known, suspected, expires⟩, ?_⟩, Function.update_self ..⟩
            exact Table.get_written_self (Table.get_valid known) (room expires)
          · refine .inl ⟨Table.get_written_ne about, ?_⟩
            exact (Function.update_of_ne about ..).trans (Function.update_of_ne about ..)
        apply meets_when
        · exact fun _ => meets_mono answers (fun _ => ends) ends fun _ => id
        · exact fun other => absurd suspected other

theorem expireSuspicions_outlived (firm : Firm start terms swim)
    (ready : Turns (fun nodeId swim => Expires now nodeId swim → swim.table.Room nodeId)
      (expireSuspicion now) (List.range swim.config.maxNodes) swim) :
    (expireSuspicions now swim).Meets (fun _ => True)
      (fun _ after => Firm start terms after ∧ ∀ nodeId, Outlived now swim after nodeId)
      fun after => Firm start terms after ∧ ∀ nodeId, Outlived now swim after nodeId := by
  rw [expireSuspicions, self_bind]
  apply @each_meets _ _ _ _
    (fun state => Firm start terms state ∧ ∀ nodeId, Outlived now swim state nodeId) _ _ _ _ _
    ⟨firm, fun _ => Outlived.refl swim⟩ ready
  rintro nodeId - state ⟨firm, outlived⟩ room
  have both := meets_and (expireSuspicion_firm firm room)
    (expireSuspicion_outlived firm.holds room)
  apply meets_mono both
  · exact fun _ _ kept => ⟨kept.1, fun other => (outlived other).trans (kept.2 other)⟩
  · exact fun _ kept => ⟨kept.1, fun other => (outlived other).trans (kept.2 other)⟩
  · exact fun _ _ => trivial

/-- Who is dead now was so before, or its suspicion has run out. -/
def Sentenced (now : Nat) (swim after : Swim) : Prop :=
  ∀ nodeId member, after.table.get nodeId = some member → member.status = .dead →
    swim.table.get nodeId = some member ∨
      ∃ accused, Expired now swim accused ∧ accused.nodeId = nodeId ∧
        member = { accused with status := .dead }

theorem Outlived.sentenced (outlived : ∀ nodeId, Outlived now swim after nodeId) :
    Sentenced now swim after := by
  intro nodeId member known dead
  obtain ⟨record, -⟩ | ⟨⟨accused, named, expired, buried⟩, -⟩ := outlived nodeId
  · exact .inl (record ▸ known)
  · exact .inr ⟨accused, expired, named, Option.some.inj (known.symm.trans buried)⟩

theorem Sentenced.marks {middle : Swim} (sentenced : Sentenced now swim middle)
    (marks : Marks middle after) : Sentenced now swim after := by
  intro nodeId member known dead
  obtain record | ⟨accused, known', suspected⟩ := marks nodeId
  · exact sentenced nodeId member (record ▸ known) dead
  · rw [known, Option.some.injEq] at known'
    rw [known', suspected] at dead
    cases dead

/-- The clock keeps suspicions attested, and takes a member for dead only if its suspicion has run
out. -/
theorem tick_attested (firm : Firm start terms swim) (ready : ReadyToTick now swim)
    (heeds : ∀ next, expireSuspicions now swim = .done () next →
      Ample terms now next ∧ Heard terms now next) :
    (tick now swim).Meets (fun _ => True)
      (fun _ after => Attested terms after ∧ Sentenced now swim after)
      fun after => Attested terms after ∧ Sentenced now swim after := by
  rw [tick_eq]
  apply meets_then (meets_mono (expireSuspicions_outlived firm ready.expire) (fun _ _ => id)
    (fun _ kept => ⟨kept.1.attested, Outlived.sentenced kept.2⟩) fun _ => id)
  rintro _ expired answer ⟨firm, outlived⟩
  have sentenced := Outlived.sentenced outlived
  refine meets_bind (meets_mono (driveProbe_firm firm (ready.fail expired answer)
    (heeds expired answer).1 (heeds expired answer).2) (fun _ _ => id)
    (fun _ kept => ⟨kept.1.attested, sentenced.marks kept.2⟩) fun _ => id) ?_
  rintro _ probed ⟨firm, marks⟩
  have calm : Calm (driveAntiEntropy now >>= fun _ => beginPeriod now) :=
    calm_driveAntiEntropy.bind fun _ => calm_beginPeriod
  have ends : ∀ after : Swim, after.matter = probed.matter ∧ Supplied after.gossipQueue →
      Attested terms after ∧ Sentenced now swim after := by
    rintro after ⟨same, -⟩
    refine ⟨firm.attested.of_matter same, (sentenced.marks marks).marks (Marks.of_table ?_)⟩
    exact congrArg Matter.table same
  exact meets_mono (calm probed.matter probed ⟨rfl, firm.holds.supplied⟩) (fun _ => ends) ends
    fun _ => id

/-! ## Every command -/

theorem leave_attested (firm : Firm start terms swim) :
    (leave swim).Meets (fun _ => True) (fun _ => Attested terms) (Attested terms) := by
  rw [leave, self_bind]
  apply meets_ite
  · exact fun _ => firm.attested
  · intro _
    rw [modify_bind, self_bind]
    have leaving : Firm start terms { swim with
        hasLeft := true
        incarnation := (swim.incarnation + 1) % 2 ^ 32 } :=
      ⟨(firm.holds.withIncarnation False.elim).of_view rfl rfl, firm.attested.of_matter rfl⟩
    refine meets_bind (meets_mono (meets_firm (kept_queueGossip False.elim _ leaving.holds)
      (rests_queueGossip.attested leaving.attested)) (fun _ _ => id) (fun _ kept => kept.attested)
      fun _ => id) ?_
    intro _ queued firm
    exact (Quiet.each fun _ => quiet_send).calm.attested firm.attested firm.holds.supplied

/-- The command is heard and timed as the terms require it. -/
def Command.Heeds (terms : Terms) (swim : Swim) : Command → Prop
  | .tick now => ∀ next, expireSuspicions now swim = .done () next →
      Ample terms now next ∧ Heard terms now next
  | .message now source bytes => ∀ message next, receive bytes swim = .done (some message) next →
      (∀ event ∈ message.events, event.status = .suspect →
        terms.hears message.sender event.nodeId event.incarnation) ∧
      (¬ next.misplaced source message →
        Turns (fun event swim => Clear event swim ∧ Ample terms now swim)
          (fun event => applyEventFrom now event (some message.sender)) message.events next)
  | _ => True

theorem Command.run_attested (command : Command) (upright : Upright swim)
    (fresh : command.Adds → Fresh swim) (ready : command.Ready False swim)
    (attested : Attested terms swim) (heeds : command.Heeds terms swim) :
    (command.run swim).Meets (fun _ => True) (fun _ => Attested terms) (Attested terms) := by
  have firm : Firm swim.view terms swim := ⟨upright.holds, attested⟩
  cases command with
  | addPeer nodeId address =>
      apply meets_mono (@addPeer_meets False nodeId swim address upright (fresh trivial) ready)
      · intro _ after kept other suspicion held
        rw [kept.2.suspicions] at held
        cases held
      · rintro after rfl
        exact attested
      · exact fun _ _ => trivial
  | tick now =>
      apply meets_mono (tick_attested firm ready heeds)
      · exact fun _ _ kept => kept.1
      · exact fun _ kept => kept.1
      · exact fun _ => id
  | message now source bytes =>
      apply meets_mono (handleMessage_firm firm ready
        (fun message next received => (heeds message next received).1)
        fun message next received => (heeds message next received).2)
      · exact fun _ _ kept => kept.attested
      · exact fun _ kept => kept.attested
      · exact fun _ => id
  | joinSeed address =>
      have calm : Calm (Swim.joinSeed address) := by
        apply calm_scaledProtocolPeriod.bind
        intro deadline
        refine Calm.bind ?_ fun _ => quiet_sendSyncRequest.calm
        exact calm_aside (fun _ => rfl) fun _ => rfl
      exact calm.attested attested upright.supplied
  | leave => exact leave_attested firm
  | clearOutgoing => exact attested.of_matter rfl

end Swim

end LyuneGateway.Membership
