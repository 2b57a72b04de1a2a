import LyuneGateway.Membership.Lifetime
import LyuneGateway.Membership.Wire

/-!
# What a node sends can be encoded

The numbers of all that a node holds fit their fields: it has them from its
configuration, from messages that were decoded, or from counters of its own.
There is never more with a message than the events that a message has room for.
-/

namespace LyuneGateway.Membership

open Control (NodeStatus)
open Faulty

/-- The secret that the configuration of a node is checked for. -/
def Config.Secured (config : Config) : Prop :=
  config.secret = [] ∨ minSecretSize ≤ config.secret.length

namespace Swim

/-- The part of the state that messages are made of. -/
structure Traffic where
  config : Config
  table : Table
  incarnation : Nat
  seqCounter : Nat
  outbox : List Outgoing
  gossipQueue : List GossipEntry
  probe : Option Probe
  relays : Nat → Option Relay

def traffic (swim : Swim) : Traffic where
  config := swim.config
  table := swim.table
  incarnation := swim.incarnation
  seqCounter := swim.seqCounter
  outbox := swim.outbox
  gossipQueue := swim.gossipQueue
  probe := swim.probe
  relays := swim.relays

/-- All numbers fit their fields, and everything in the outbox can be encoded. -/
structure Traffic.Bounded (traffic : Traffic) : Prop where
  named : traffic.config.nodeId < traffic.config.maxNodes
  piggyback : traffic.config.params.maxPiggyback ≤ maxEvents
  capacity : traffic.table.capacity = traffic.config.maxNodes
  members : ∀ nodeId buffer, ((traffic.table.slots nodeId).buffers buffer).incarnation < 2 ^ 32
  incarnation : traffic.incarnation < 2 ^ 32
  seqCounter : traffic.seqCounter < 2 ^ 32
  outbox : ∀ outgoing ∈ traffic.outbox, outgoing.message.Fits
  queue : ∀ entry ∈ traffic.gossipQueue, entry.event.Fits
  probe : ∀ probe, traffic.probe = some probe → probe.seq < 2 ^ 32 ∧ probe.target < 2 ^ 16
  relays : ∀ place relay, traffic.relays place = some relay → relay.originalSeq < 2 ^ 32

/-- What only receiving and exchanging views change, besides what nothing changes. -/
structure Aside where
  config : Config
  mac : Mac
  replayCache : List (Nat × Bytes)
  sync : Option SyncSession

def aside (swim : Swim) : Aside where
  config := swim.config
  mac := swim.mac
  replayCache := swim.replayCache
  sync := swim.sync

/-- The numbers fit, and the rest is as it was. -/
structure Within (rest : Aside) (swim : Swim) : Prop where
  bounded : swim.traffic.Bounded
  aside : swim.aside = rest

/-- The step keeps the numbers within their fields, and leaves the rest alone. -/
abbrev Bounds {α : Type} (rest : Aside) (act : Act α) : Prop :=
  Keeps (fun _ => True) (Within rest) act

/-- The step also answers with a value that is as it says. -/
def Yields {α : Type} (rest : Aside) (act : Act α) (fits : α → Prop) : Prop :=
  ∀ swim, Within rest swim → (act swim).Meets (fun _ => True)
    (fun value after => Within rest after ∧ fits value) (Within rest)

variable {α β : Type} {rest : Aside} {now nodeId : Nat} {swim : Swim} {event : Event}

theorem Yields.bind {act : Act α} {fits : α → Prop} {next : α → Act β}
    (first : Yields rest act fits) (then_ : ∀ value, fits value → Bounds rest (next value)) :
    Bounds rest (act >>= next) :=
  fun swim within => meets_bind (first swim within) fun value after ⟨kept, fit⟩ =>
    then_ value fit after kept

theorem Yields.pure {fits : α → Prop} {value : α} (fit : fits value) :
    Yields rest (Pure.pure value : Act α) fits := fun _ within => ⟨within, fit⟩

theorem Yields.then {act : Act α} {fits : α → Prop} {fits' : β → Prop} {next : α → Act β}
    (first : Yields rest act fits) (then_ : ∀ value, fits value → Yields rest (next value) fits') :
    Yields rest (act >>= next) fits' :=
  fun swim within => meets_bind (first swim within) fun value after ⟨kept, fit⟩ =>
    then_ value fit after kept

theorem Keeps.yields {act : Act α} (bounds : Bounds rest act) :
    Yields rest act fun _ => True := by
  intro swim within
  apply meets_mono (bounds swim within)
  · exact fun _ _ kept => ⟨kept, trivial⟩
  · exact fun _ => id
  · exact fun _ => id

/-- What holds of the state that is read may be used. -/
theorem yields_read {part : Swim → α} {fits : α → Prop}
    (told : ∀ swim, Within rest swim → fits (part swim)) : Yields rest (read part) fits :=
  fun swim within => ⟨within, told swim within⟩

theorem yields_self : Yields rest self (Within rest) := fun _ within => ⟨within, within⟩

theorem bounds_require {fits : Prop} [Decidable fits] : Bounds rest (require Fault.range fits) :=
  Keeps.require (.inl trivial)

theorem bounds_aside {change : Swim → Swim} (kept : ∀ swim, (change swim).traffic = swim.traffic)
    (same : ∀ swim, (change swim).aside = swim.aside) : Bounds rest (modify change) := by
  apply Keeps.modify
  intro swim within
  exact ⟨kept swim ▸ within.bounded, (same swim).trans within.aside⟩

/-! ## What changes none of the numbers -/

theorem bounds_allocate : Bounds rest allocate := by
  rintro swim ⟨bounded, same⟩
  simp only [allocate]
  split <;> exact ⟨bounded, same⟩

theorem bounds_roll {bound : Nat} : Bounds rest (roll bound) :=
  Keeps.bind bounds_require fun _ => Keeps.bind Keeps.read fun _ =>
    Keeps.bind (bounds_aside (fun _ => rfl) fun _ => rfl) fun _ => Keeps.pure

theorem bounds_add64 {a b : Nat} : Bounds rest (add64 a b) :=
  Keeps.bind bounds_require fun _ => Keeps.pure

theorem bounds_mul64 {a b : Nat} : Bounds rest (mul64 a b) :=
  Keeps.bind bounds_require fun _ => Keeps.pure

theorem bounds_scaledProbeTimeout : Bounds rest scaledProbeTimeout :=
  Keeps.bind Keeps.self fun _ => bounds_mul64

theorem bounds_scaledProtocolPeriod : Bounds rest scaledProtocolPeriod :=
  Keeps.bind Keeps.self fun _ => bounds_mul64

theorem bounds_transmitLimit : Bounds rest transmitLimit :=
  Keeps.bind Keeps.self fun _ => Keeps.bind bounds_require fun _ => Keeps.pure

theorem bounds_suspicionTimeout : Bounds rest suspicionTimeout :=
  Keeps.bind Keeps.self fun _ => Keeps.bind bounds_mul64 fun _ =>
    Keeps.bind bounds_mul64 fun _ => bounds_mul64

theorem bounds_penalizeHealth : Bounds rest penalizeHealth := by
  apply Keeps.modify
  rintro swim ⟨bounded, same⟩
  split <;> exact ⟨bounded, same⟩

theorem bounds_recoverHealth : Bounds rest recoverHealth := by
  apply Keeps.modify
  rintro swim ⟨bounded, same⟩
  split <;> exact ⟨bounded, same⟩

theorem bounds_notifyListener {member : Member} : Bounds rest (notifyListener member) :=
  bounds_aside (fun _ => rfl) fun _ => rfl

theorem bounds_noteIdentityConflict {expected observed : Address} :
    Bounds rest (noteIdentityConflict nodeId expected observed) := by
  apply Keeps.ite (fun _ => Keeps.pure)
  intro _
  apply Keeps.bind
  · apply Keeps.modify
    rintro swim ⟨bounded, same⟩
    split <;> exact ⟨bounded, same⟩
  · exact fun _ => Keeps.pure

theorem bounds_contradicts {current : Option Member} : Bounds rest (contradicts current event) := by
  cases current with
  | none => exact Keeps.pure
  | some member => exact bounds_noteIdentityConflict

theorem bounds_confirmSuspicion {source : Nat} : Bounds rest (confirmSuspicion now nodeId source) := by
  apply Keeps.bind Keeps.read
  intro suspicions
  cases suspicions nodeId with
  | none => exact fun _ _ => trivial
  | some suspicion =>
      apply Keeps.ite (fun _ => Keeps.pure)
      intro _
      apply Keeps.bind Keeps.self
      intro _
      apply Keeps.bind bounds_suspicionTimeout
      intro _
      apply Keeps.bind bounds_require
      intro _
      apply Keeps.bind bounds_add64
      exact fun _ => bounds_aside (fun _ => rfl) fun _ => rfl

theorem bounds_trackSuspicion {status : NodeStatus} {source : Nat} :
    Bounds rest (trackSuspicion now nodeId status source) := by
  apply Keeps.ite
  · intro _
    apply Keeps.bind Keeps.read
    intro _
    apply Keeps.bind
    · apply Keeps.when
      intro _
      apply Keeps.bind bounds_suspicionTimeout
      intro _
      apply Keeps.bind bounds_add64
      exact fun _ => bounds_aside (fun _ => rfl) fun _ => rfl
    · exact fun _ => bounds_confirmSuspicion
  · exact fun _ => bounds_aside (fun _ => rfl) fun _ => rfl

theorem bounds_shuffle (fuel : Nat) (items : List Nat) : Bounds rest (shuffle fuel items) := by
  induction fuel generalizing items with
  | zero => exact Keeps.pure
  | succ fuel ih =>
      cases items with
      | nil => exact Keeps.pure
      | cons first rest =>
          exact Keeps.bind bounds_roll fun _ => Keeps.bind (ih _) fun _ => Keeps.pure

theorem bounds_rebuildProbeOrder : Bounds rest rebuildProbeOrder := by
  refine Keeps.bind ?_ fun _ => ?_
  · exact bounds_aside (fun _ => rfl) fun _ => rfl
  apply Keeps.bind Keeps.self
  intro _
  refine Keeps.bind ?_ fun _ => ?_
  · apply Keeps.each
    intro _ _
    refine Keeps.bind bounds_allocate fun _ => ?_
    exact bounds_aside (fun _ => rfl) fun _ => rfl
  apply Keeps.bind Keeps.read
  intro _
  apply Keeps.bind (bounds_shuffle _ _)
  exact fun _ => bounds_aside (fun _ => rfl) fun _ => rfl

/-! ## Members and events of the node -/

theorem Within.of_same (within : Within rest swim) {other : Swim}
    (kept : other.traffic = swim.traffic) (same : other.aside = swim.aside) : Within rest other :=
  ⟨kept ▸ within.bounded, same.trans within.aside⟩

theorem Traffic.Bounded.narrow (within : Within rest swim) : swim.table.capacity < 2 ^ 16 :=
  within.bounded.capacity ▸ swim.config.narrow

/-- What the table has of a member fits. -/
theorem Within.member (within : Within rest swim) {member : Member}
    (held : swim.table.get nodeId = some member) :
    member.nodeId < 2 ^ 16 ∧ member.incarnation < 2 ^ 32 := by
  have same := Table.get_nodeId held
  have inside := (Table.get_valid held).2
  have narrow := Traffic.Bounded.narrow within
  refine ⟨same ▸ inside.trans narrow, ?_⟩
  unfold Table.get at held
  split at held
  · cases held
  obtain ⟨data, published, told⟩ := Option.bind_eq_some_iff.mp held
  unfold Slot.published at published
  split at published
  · cases published
  cases published
  unfold Data.member at told
  split at told <;> cases told
  exact within.bounded.members nodeId _

theorem Within.selfEvent (within : Within rest swim) (status : NodeStatus) :
    (swim.selfEvent status).Fits :=
  ⟨within.bounded.named.trans swim.config.narrow, within.bounded.incarnation⟩

theorem bounds_queueGossip (fits : event.Fits) : Bounds rest (queueGossip event) := by
  apply Keeps.bind bounds_transmitLimit
  intro transmits
  apply Keeps.bind Keeps.read
  intro _
  apply Keeps.bind (Keeps.when fun _ => bounds_allocate)
  intro _
  apply Keeps.modify
  rintro swim ⟨bounded, same⟩
  refine ⟨{ bounded with queue := fun entry listed => ?_ }, same⟩
  obtain rfl | before := mem_enqueue listed
  · exact fits
  · exact bounded.queue entry before

theorem bounds_upsert {member : Member} (incarnation : member.incarnation < 2 ^ 32) :
    Bounds rest (onTable (Table.upsert member)) := by
  have kept : ∀ capacity, Keeps (fun _ => True) (fun table : Table => table.capacity = capacity ∧
      ∀ nodeId buffer, ((table.slots nodeId).buffers buffer).incarnation < 2 ^ 32)
      (Table.upsert member) := by
    intro capacity
    have count : ∀ up : Bool, Keeps (fun _ => True) (fun table : Table =>
        table.capacity = capacity ∧
          ∀ nodeId buffer, ((table.slots nodeId).buffers buffer).incarnation < 2 ^ 32)
        (Table.countActive up) := by
      intro up
      apply Keeps.bind Keeps.read
      intro _
      cases up
      · exact Keeps.bind (Keeps.require (.inl trivial)) fun _ => Keeps.modify fun _ => id
      · exact Keeps.bind (Keeps.require (.inl trivial)) fun _ => Keeps.modify fun _ => id
    apply Keeps.bind Keeps.self
    intro _
    apply Keeps.ite (fun _ => Keeps.fail)
    intro _
    refine Keeps.bind ?_ fun _ => ?_
    · apply Keeps.modify
      rintro table ⟨same, small⟩
      refine ⟨same, fun nodeId buffer => ?_⟩
      by_cases here : nodeId = member.nodeId
      · subst here
        simp only [Function.update_self, Slot.publish]
        by_cases written : buffer = (table.slots member.nodeId).nextSequence % bufferCount
        · subst written
          simpa [Member.data] using incarnation
        · simpa [Function.update_of_ne written] using small member.nodeId buffer
      · simpa [Function.update_of_ne here] using small nodeId buffer
    refine Keeps.bind (Keeps.when fun _ => ?_) fun _ => ?_
    · apply Keeps.bind Keeps.read
      exact fun _ => Keeps.bind (Keeps.require (.inl trivial)) fun _ => Keeps.modify fun _ => id
    refine Keeps.bind (Keeps.when fun _ => count _) fun _ => ?_
    exact Keeps.bind (Keeps.when fun _ => count _) fun _ => Keeps.pure
  rintro swim ⟨bounded, same⟩
  have after := kept swim.config.maxNodes swim.table ⟨bounded.capacity, bounded.members⟩
  simp only [onTable, zoom]
  cases answer : Table.upsert member swim.table with
  | done value table =>
      rw [answer] at after
      exact ⟨{ bounded with capacity := after.1, members := after.2 }, same⟩
  | failed table =>
      rw [answer] at after
      exact ⟨{ bounded with capacity := after.1, members := after.2 }, same⟩
  | trapped fault => trivial

/-! ## Sending -/

theorem yields_pick (want : Nat) (picked : List Nat) :
    Yields rest (pick want picked)
      fun events => events.length ≤ want ∧ ∀ event ∈ events, event.Fits := by
  induction want generalizing picked with
  | zero => exact Yields.pure ⟨le_rfl, by simp⟩
  | succ want ih =>
      intro swim within
      rw [pick, read_bind]
      cases best swim.gossipQueue picked with
      | none => exact ⟨within, by simp⟩
      | some index =>
          simp only
          cases held : swim.gossipQueue[index]? with
          | none => exact ⟨within, by simp⟩
          | some entry =>
              have fits := within.bounded.queue entry (List.mem_of_getElem? held)
              apply meets_require (.inl trivial)
              intro _
              rw [modify_bind]
              have spent : Within rest { swim with
                  gossipQueue := spend swim.gossipQueue index } := by
                refine ⟨{ within.bounded with queue := fun other listed => ?_ }, within.aside⟩
                obtain ⟨place, found⟩ := List.mem_iff_getElem?.mp listed
                simp only [traffic, spend, List.getElem?_modify] at found
                obtain ⟨before, among, rfl⟩ := Option.map_eq_some_iff.mp found
                have fit := within.bounded.queue before (List.mem_of_getElem? among)
                split <;> exact fit
              apply meets_bind (ih (picked ++ [index]) _ spent)
              rintro events after ⟨kept, few, all⟩
              refine ⟨kept, by simpa using few, ?_⟩
              intro other listed
              obtain rfl | listed := List.mem_cons.mp listed
              · exact fits
              · exact all other listed

theorem mem_discard {count : Nat} {queue : List GossipEntry} {entry : GossipEntry}
    (listed : entry ∈ discard count queue) : entry ∈ queue := by
  induction count generalizing queue with
  | zero => exact listed
  | succ index ih =>
      rw [discard] at listed
      split at listed
      · rename_i empty
        have inside : index < queue.length := by
          by_contra outside
          simp [List.getElem?_eq_none (Nat.not_lt.mp outside)] at empty
        have kept := (swapRemove_perm inside).mem_iff.mp (ih listed)
        exact List.mem_of_mem_eraseIdx kept
      · exact ih listed

theorem yields_pickPiggyback : Yields rest pickPiggyback
    fun events => events.length ≤ maxEvents ∧ ∀ event ∈ events, event.Fits := by
  intro swim within
  rw [pickPiggyback, self_bind]
  apply meets_bind (yields_pick _ [] swim within)
  rintro events after ⟨kept, few, all⟩
  rw [modify_bind]
  have left : ∀ entry ∈ discard after.gossipQueue.length after.gossipQueue, entry.event.Fits :=
    fun entry listed => kept.bounded.queue entry (mem_discard listed)
  refine ⟨⟨{ kept.bounded with queue := left }, kept.aside⟩, ?_, all⟩
  have piggyback := within.bounded.piggyback
  simp only [traffic] at piggyback
  omega

theorem bounds_post {recipient : Address} {message : Message} (fits : message.Fits) :
    Bounds rest (post recipient message) := by
  apply Keeps.bind bounds_allocate
  intro _
  apply Keeps.modify
  rintro swim ⟨bounded, same⟩
  refine ⟨{ bounded with outbox := fun outgoing listed => ?_ }, same⟩
  obtain before | last := List.mem_append.mp listed
  · exact bounded.outbox outgoing before
  · rw [List.mem_singleton.mp last]
    exact fits

theorem bounds_send {type : MessageType} {sender seq target : Nat} {recipient : Address}
    (senderFits : sender < 2 ^ 16) (seqFits : seq < 2 ^ 32) (targetFits : target < 2 ^ 16) :
    Bounds rest (send type sender seq target recipient) :=
  yields_pickPiggyback.bind fun _ fits => bounds_post {
    sender := senderFits
    seq := seqFits
    target := targetFits
    flags := Nat.zero_le _
    few := fits.1
    events := fits.2 }

theorem yields_nextSeq : Yields rest nextSeq fun seq => seq < 2 ^ 32 := by
  rintro swim ⟨bounded, same⟩
  have small : (swim.seqCounter + 1) % 2 ^ 32 < 2 ^ 32 := Nat.mod_lt _ (by norm_num)
  exact ⟨⟨{ bounded with seqCounter := small }, same⟩, small⟩

theorem bounds_sendBuddyNotification {member : Member} (fits : member.nodeId < 2 ^ 16 ∧
    member.incarnation < 2 ^ 32) : Bounds rest (sendBuddyNotification member) := by
  apply yields_self.bind
  intro swim within
  apply bounds_post
  exact {
    sender := within.bounded.named.trans swim.config.narrow
    seq := by norm_num
    target := fits.1
    flags := Nat.zero_le _
    few := by simp [maxEvents]
    events := by
      intro event listed
      rw [List.mem_singleton.mp listed]
      exact ⟨fits.1, fits.2⟩ }

theorem bounds_sendSyncRequest {recipient : Address} {cursor : Nat} (fits : cursor < 2 ^ 16) :
    Bounds rest (sendSyncRequest recipient cursor) := by
  refine Yields.bind (yields_read fun swim within => within.selfEvent _) fun own ownFits => ?_
  apply yields_nextSeq.bind
  intro seq seqFits
  apply yields_self.bind
  intro swim within
  apply bounds_post
  exact {
    sender := within.bounded.named.trans swim.config.narrow
    seq := seqFits
    target := fits
    flags := by simp [syncRequestFlag, syncMoreFlag]
    few := by simp [maxEvents]
    events := by
      intro event listed
      rw [List.mem_singleton.mp listed]
      exact ownFits }

/-! ## Merging -/

theorem bounds_handleSelfEvent : Bounds rest (handleSelfEvent event) := by
  apply Keeps.bind Keeps.self
  intro _
  apply Keeps.ite (fun _ => Keeps.pure)
  intro _
  apply Keeps.bind (Keeps.when fun _ => bounds_penalizeHealth)
  intro _
  apply Keeps.when
  intro _ swim within
  apply meets_require (.inl trivial)
  intro room
  rw [modify_bind, self_bind]
  have raised : Within rest { swim with incarnation := event.incarnation + 1 } :=
    ⟨{ within.bounded with incarnation := room }, within.aside⟩
  exact bounds_queueGossip (raised.selfEvent .alive) _ raised

theorem bounds_adopt {current : Option Member} {source : Option Nat} (fits : event.Fits) :
    Bounds rest (adopt now current event source) := by
  apply Keeps.bind (bounds_upsert fits.incarnation)
  intro _
  apply Keeps.bind Keeps.read
  intro _
  apply Keeps.bind bounds_trackSuspicion
  intro _
  refine Keeps.bind (bounds_queueGossip ⟨fits.nodeId, fits.incarnation⟩) fun _ => ?_
  exact bounds_notifyListener

theorem bounds_confirmFrom {current : Option Member} {source : Option Nat} :
    Bounds rest (confirmFrom now current event source) := by
  cases source with
  | none => exact Keeps.pure
  | some source =>
      cases current with
      | none => exact Keeps.pure
      | some member => exact Keeps.when fun _ => bounds_confirmSuspicion

theorem bounds_applyEventFrom {source : Option Nat} (fits : event.Fits) :
    Bounds rest (applyEventFrom now event source) := by
  apply Keeps.bind Keeps.self
  intro swim
  apply Keeps.ite
  · intro _
    apply Keeps.bind bounds_noteIdentityConflict
    exact fun _ => Keeps.ite (fun _ => Keeps.pure) fun _ => bounds_handleSelfEvent
  intro _
  apply Keeps.ite (fun _ => Keeps.pure)
  intro _
  apply Keeps.bind Keeps.read
  intro current
  apply Keeps.bind bounds_contradicts
  intro _
  apply Keeps.ite (fun _ => Keeps.pure)
  intro _
  exact Keeps.ite (fun _ => bounds_adopt fits) fun _ => bounds_confirmFrom

theorem bounds_assert {member : Member} {status : NodeStatus}
    (fits : member.nodeId < 2 ^ 16 ∧ member.incarnation < 2 ^ 32) :
    Bounds rest (assert now member status) :=
  bounds_applyEventFrom ⟨fits.1, fits.2⟩

/-! ## Time -/

/-- The member that is found fits. -/
theorem yields_get : Yields rest (get nodeId) fun found => ∀ member, found = some member →
    member.nodeId < 2 ^ 16 ∧ member.incarnation < 2 ^ 32 :=
  yields_read fun _ within _ held => within.member held

theorem bounds_expireSuspicion : Bounds rest (expireSuspicion now nodeId) := by
  apply Keeps.bind Keeps.read
  intro suspicions
  cases suspicions nodeId with
  | none => exact Keeps.pure
  | some suspicion =>
      apply Keeps.ite (fun _ => Keeps.pure)
      intro _
      refine Keeps.bind ?_ fun _ => ?_
      · exact bounds_aside (fun _ => rfl) fun _ => rfl
      apply yields_get.bind
      intro found fits
      cases found with
      | none => exact Keeps.pure
      | some member => exact Keeps.when fun _ => bounds_assert (fits member rfl)

theorem bounds_expireSuspicions : Bounds rest (expireSuspicions now) :=
  Keeps.bind Keeps.self fun _ => Keeps.each fun _ _ => bounds_expireSuspicion

theorem bounds_sample {room : Nat} (members chosen : List Member) (seen : Nat) :
    Bounds rest (sample room members chosen seen) := by
  induction members generalizing chosen seen with
  | nil => exact Keeps.pure
  | cons member members ih =>
      apply Keeps.ite
      · exact fun _ => ih _ _
      · exact fun _ => Keeps.bind bounds_roll fun _ => ih _ _

theorem bounds_sendIndirectProbes {target seq : Nat} (targetFits : target < 2 ^ 16)
    (seqFits : seq < 2 ^ 32) : Bounds rest (sendIndirectProbes target seq) := by
  apply yields_self.bind
  intro swim within
  apply Keeps.bind (bounds_sample _ _ _)
  intro chosen
  apply Keeps.each
  intro _ _
  exact bounds_send (within.bounded.named.trans swim.config.narrow) seqFits targetFits

/-- A probe that is set is numbered and aimed as its fields allow. -/
theorem bounds_setProbe {probe : Option Probe}
    (fits : ∀ set, probe = some set → set.seq < 2 ^ 32 ∧ set.target < 2 ^ 16) :
    Bounds rest (modify fun swim => { swim with probe := probe }) := by
  apply Keeps.modify
  rintro swim ⟨bounded, same⟩
  exact ⟨{ bounded with probe := fits }, same⟩

theorem bounds_driveProbe : Bounds rest (driveProbe now) := by
  have probing : Yields rest (read Swim.probe) fun found => ∀ probe, found = some probe →
      probe.seq < 2 ^ 32 ∧ probe.target < 2 ^ 16 :=
    yields_read fun _ within => within.bounded.probe
  apply probing.bind
  intro found fits
  cases found with
  | none => exact Keeps.pure
  | some probe =>
      obtain ⟨seqFits, targetFits⟩ := fits probe rfl
      refine Keeps.bind (Keeps.when fun _ => ?_) fun _ => Keeps.when fun _ => ?_
      · refine Keeps.bind (bounds_setProbe ?_) fun _ => bounds_sendIndirectProbes targetFits seqFits
        rintro set ⟨⟩
        exact ⟨seqFits, targetFits⟩
      · refine Keeps.bind (bounds_setProbe (by simp)) fun _ => ?_
        apply Keeps.bind bounds_penalizeHealth
        intro _
        apply yields_get.bind
        intro found fits
        cases found with
        | none => exact Keeps.pure
        | some member =>
            apply Keeps.when
            intro _
            apply Keeps.bind (bounds_assert (fits member rfl))
            exact fun _ => bounds_sendBuddyNotification (fits member rfl)

theorem nextActive_held {table : Table} {order later : List Nat} {member : Member}
    (found : nextActive table order = some (member, later)) :
    ∃ nodeId, table.get nodeId = some member := by
  induction order with
  | nil => cases found
  | cons nodeId order ih =>
      unfold nextActive at found
      split at found
      · exact ih found
      · rename_i other held
        split at found
        · cases found
          exact ⟨nodeId, held⟩
        · exact ih found

theorem yields_nextProbeTarget (rounds : Nat) : Yields rest (nextProbeTarget rounds)
    fun found => ∀ member, found = some member → member.nodeId < 2 ^ 16 := by
  induction rounds with
  | zero => exact Yields.pure (by simp)
  | succ rounds ih =>
      apply yields_self.then
      intro swim within
      cases found : nextActive swim.table swim.probeOrder with
      | some target =>
          obtain ⟨member, order⟩ := target
          obtain ⟨nodeId, held⟩ := nextActive_held found
          refine Yields.then (Keeps.yields ?_) fun _ _ => ?_
          · exact bounds_aside (fun _ => rfl) fun _ => rfl
          apply Yields.pure
          rintro other ⟨⟩
          exact (within.member held).1
      | none =>
          apply (Keeps.yields bounds_rebuildProbeOrder).then
          intro _ _
          apply (Keeps.yields Keeps.read).then
          intro order _ swim within
          exact meets_ite (fun _ => ⟨within, by simp⟩) fun _ => ih swim within

theorem bounds_startProbe : Bounds rest (startProbe now) := by
  apply (yields_nextProbeTarget 2).bind
  intro found fits
  cases found with
  | none => exact Keeps.pure
  | some member =>
      apply yields_nextSeq.bind
      intro seq seqFits
      apply Keeps.bind bounds_scaledProbeTimeout
      intro _
      apply Keeps.bind bounds_add64
      intro _
      apply Keeps.bind bounds_scaledProtocolPeriod
      intro _
      apply Keeps.bind bounds_add64
      intro _
      refine Keeps.bind (bounds_setProbe ?_) fun _ => ?_
      · rintro set ⟨⟩
        exact ⟨seqFits, fits member rfl⟩
      apply yields_self.bind
      intro swim within
      exact bounds_send (within.bounded.named.trans swim.config.narrow) seqFits (by norm_num)

theorem bounds_choosePeer (members : List Member) (chosen : Option Member) (seen : Nat) :
    Bounds rest (choosePeer members chosen seen) := by
  induction members generalizing chosen seen with
  | nil => exact Keeps.pure
  | cons member members ih => exact Keeps.bind bounds_roll fun _ => ih _ _

theorem bounds_randomSyncPeer : Bounds rest randomSyncPeer :=
  Keeps.bind Keeps.self fun _ => bounds_choosePeer _ _ _

/-! ## Steps that begin, continue, or end an exchange of views -/

/-- The numbers fit, and what the exchange of views does not change is as it was. -/
def Near (rest : Aside) (swim : Swim) : Prop := ∃ sync, Within { rest with sync := sync } swim

abbrev Shifts {α : Type} (rest : Aside) (act : Act α) : Prop :=
  Keeps (fun _ => True) (Near rest) act

theorem Bounds.shifts {act : Act α} (bounds : ∀ rest, Bounds rest act) : Shifts rest act := by
  rintro swim ⟨sync, within⟩
  apply meets_mono (bounds _ swim within)
  · exact fun _ _ kept => ⟨sync, kept⟩
  · exact fun _ kept => ⟨sync, kept⟩
  · exact fun _ => id

/-- A new exchange, or none. -/
theorem shifts_setSync {change : Swim → Swim} (kept : ∀ swim, (change swim).traffic = swim.traffic)
    (same : ∀ swim, { (change swim).aside with sync := none } = { swim.aside with sync := none }) :
    Shifts rest (modify change) := by
  apply Keeps.modify
  rintro swim ⟨sync, bounded, aside⟩
  have others := same swim
  rw [aside] at others
  refine ⟨(change swim).sync, kept swim ▸ bounded, ?_⟩
  simp only [Swim.aside, Aside.mk.injEq, and_true] at others ⊢
  exact others

theorem shifts_startSync : Shifts rest (startSync now) := by
  apply Keeps.bind (Bounds.shifts fun _ => bounds_randomSyncPeer)
  intro found
  cases found with
  | none => exact Keeps.pure
  | some peer =>
      apply Keeps.bind (Bounds.shifts fun _ => bounds_scaledProtocolPeriod)
      intro _
      apply Keeps.bind (Bounds.shifts fun _ => bounds_add64)
      intro deadline
      refine Keeps.bind ?_ fun _ => ?_
      · exact shifts_setSync (fun _ => rfl) fun _ => rfl
      apply Keeps.bind Keeps.self
      intro swim
      apply Keeps.bind (Bounds.shifts fun _ => bounds_add64)
      intro _
      refine Keeps.bind ?_ fun _ => ?_
      · exact Bounds.shifts fun _ => bounds_aside (fun _ => rfl) fun _ => rfl
      · exact Bounds.shifts fun _ => bounds_sendSyncRequest (by norm_num)

theorem shifts_driveAntiEntropy : Shifts rest (driveAntiEntropy now) := by
  apply Keeps.bind Keeps.self
  intro swim
  apply Keeps.ite (fun _ => Keeps.pure)
  intro _
  apply Keeps.ite (fun _ => Keeps.pure)
  intro _
  refine Keeps.bind ?_ fun _ => ?_
  · exact shifts_setSync (fun _ => rfl) fun _ => rfl
  · exact Keeps.ite (fun _ => Keeps.pure) fun _ => shifts_startSync

theorem shifts_tick : Shifts rest (tick now) := by
  apply Keeps.bind (Bounds.shifts fun _ => bounds_expireSuspicions)
  intro _
  apply Keeps.bind (Bounds.shifts fun _ => bounds_driveProbe)
  intro _
  apply Keeps.bind shifts_driveAntiEntropy
  intro _
  apply Keeps.bind Keeps.self
  intro swim
  apply Keeps.when
  intro _
  apply Keeps.bind (Bounds.shifts fun _ => bounds_scaledProtocolPeriod)
  intro _
  apply Keeps.bind (Bounds.shifts fun _ => bounds_add64)
  intro _
  refine Keeps.bind ?_ fun _ => ?_
  · exact Bounds.shifts fun _ => bounds_aside (fun _ => rfl) fun _ => rfl
  · exact Bounds.shifts fun _ => bounds_startProbe

/-! ## Messages -/

section Messages

variable {source : Address} {message : Message} (fits : message.Fits)

include fits

theorem bounds_handlePingReq : Bounds rest (handlePingReq now source message) := by
  apply Keeps.bind Keeps.read
  intro found
  cases found with
  | none => exact Keeps.pure
  | some target =>
      apply yields_nextSeq.bind
      intro seq seqFits
      apply yields_self.bind
      intro swim within
      apply Keeps.bind bounds_add64
      intro deadline
      refine Keeps.bind ?_ fun _ => ?_
      · apply Keeps.modify
        rintro swim ⟨bounded, same⟩
        refine ⟨{ bounded with relays := fun place relay held => ?_ }, same⟩
        simp only [traffic, Function.update_apply] at held
        split at held
        · cases held
          exact fits.seq
        · exact bounded.relays place relay held
      · exact bounds_send (within.bounded.named.trans swim.config.narrow) seqFits (by norm_num)

omit fits in
theorem findRelay_held {relays : Nat → Option Relay} {place : Nat} {relay : Relay}
    (found : findRelay relays message = some (place, relay)) : relays place = some relay := by
  obtain ⟨index, -, here⟩ := List.exists_of_findSome?_eq_some found
  obtain ⟨other, held, chosen⟩ := Option.bind_eq_some_iff.mp here
  split at chosen
  · cases chosen
    exact held
  · cases chosen

theorem bounds_handleAck : Bounds rest (handleAck now message) := by
  apply yields_self.bind
  intro swim within
  apply Keeps.ite
  · intro _
    refine Keeps.bind (bounds_setProbe (by simp)) fun _ => bounds_recoverHealth
  intro _
  cases found : findRelay swim.relays message with
  | none => exact Keeps.pure
  | some pair =>
      obtain ⟨place, relay⟩ := pair
      have seqFits := within.bounded.relays place relay (findRelay_held found)
      refine Keeps.bind ?_ fun _ => ?_
      · apply Keeps.modify
        rintro swim ⟨bounded, same⟩
        refine ⟨{ bounded with relays := fun other relay held => ?_ }, same⟩
        simp only [traffic, Function.update_apply] at held
        split at held
        · cases held
        · exact bounded.relays other relay held
      · exact Keeps.ite (fun _ => Keeps.pure) fun _ => bounds_send fits.sender seqFits (by norm_num)

omit fits in
theorem yields_syncChunk (fuel cursor : Nat) (events : List Event) (small : cursor < 2 ^ 16)
    (few : events.length ≤ maxEvents) (all : ∀ event ∈ events, event.Fits) :
    Yields rest (syncChunk fuel cursor events) fun chunk => chunk.1.length ≤ maxEvents ∧
      (∀ event ∈ chunk.1, event.Fits) ∧ chunk.2 < 2 ^ 16 := by
  induction fuel generalizing cursor events with
  | zero => exact Yields.pure ⟨few, all, small⟩
  | succ fuel ih =>
      apply yields_self.then
      intro swim within state kept
      apply meets_ite
      · rintro ⟨-, room⟩
        apply meets_require (.inl trivial)
        intro next
        cases held : swim.table.get cursor with
        | none => exact ih _ _ next few all state kept
        | some member =>
            refine ih _ _ next ?_ ?_ state kept
            · rw [List.length_append, List.length_singleton]
              exact room
            · intro event listed
              obtain before | last := List.mem_append.mp listed
              · exact all event before
              · rw [List.mem_singleton.mp last]
                exact ⟨(within.member held).1, (within.member held).2⟩
      · exact fun _ => ⟨kept, few, all, small⟩

theorem bounds_answerSync : Bounds rest (answerSync source message) := by
  apply yields_self.bind
  intro swim within
  have chunk := @yields_syncChunk rest (swim.config.maxNodes + 1) message.target
    [swim.currentSelfEvent] fits.target (by simp [maxEvents]) (by
      intro event listed
      rw [List.mem_singleton.mp listed]
      exact within.selfEvent _)
  apply chunk.bind
  rintro ⟨events, cursor⟩ ⟨few, all, small⟩
  apply bounds_post
  exact {
    sender := within.bounded.named.trans swim.config.narrow
    seq := fits.seq
    target := small
    flags := by
      simp only
      split <;> simp [syncRequestFlag, syncMoreFlag]
    few := few
    events := all }

theorem shifts_handleSync : Shifts rest (handleSync now source message) := by
  apply Keeps.ite (fun _ => Bounds.shifts fun _ => bounds_answerSync fits)
  intro _
  apply Keeps.bind Keeps.read
  intro session
  cases session with
  | none => exact Keeps.pure
  | some session =>
      apply Keeps.ite (fun _ => Keeps.pure)
      intro _
      apply Keeps.bind (Bounds.shifts fun _ => bounds_scaledProtocolPeriod)
      intro _
      apply Keeps.bind (Bounds.shifts fun _ => bounds_add64)
      intro deadline
      apply Keeps.ite
      · intro _
        refine Keeps.bind ?_ fun _ => ?_
        · exact shifts_setSync (fun _ => rfl) fun _ => rfl
        · exact Bounds.shifts fun _ => bounds_sendSyncRequest fits.target
      · exact fun _ => shifts_setSync (fun _ => rfl) fun _ => rfl

theorem shifts_answer : Shifts rest (answer now source message) := by
  rintro swim ⟨sync, within⟩
  rw [answer, self_bind]
  cases message.type with
  | ping =>
      refine Bounds.shifts (fun rest => ?_) swim ⟨sync, within⟩
      exact bounds_send (within.bounded.named.trans swim.config.narrow) fits.seq (by norm_num)
  | pingReq => exact Bounds.shifts (fun _ => bounds_handlePingReq fits) swim ⟨sync, within⟩
  | ack => exact Bounds.shifts (fun _ => bounds_handleAck fits) swim ⟨sync, within⟩
  | sync => exact shifts_handleSync fits swim ⟨sync, within⟩

end Messages

/-! ## Runs -/

/-- The message of a datagram, if it is well-formed and authenticated. -/
def authentic (swim : Swim) (bytes : Bytes) : Option Message :=
  if swim.config.secret = [] then (decode bytes).toOption
  else (decodeAuthenticatedWithFallback swim.mac bytes swim.config.secret
    swim.config.previousSecret).toOption

theorem authentic_fits {bytes : Bytes} {message : Message}
    (told : swim.authentic bytes = some message) : message.Fits := by
  unfold authentic at told
  split at told
  · cases decoded : decode bytes with
    | error problem => simp [decoded, Except.toOption] at told
    | ok other =>
        simp only [decoded, Except.toOption, Option.some.injEq] at told
        exact told ▸ (Message.wire_of_decode decoded).1
  · cases decoded : decodeAuthenticatedWithFallback swim.mac bytes swim.config.secret
        swim.config.previousSecret with
    | error problem => simp [decoded, Except.toOption] at told
    | ok other =>
        simp only [decoded, Except.toOption, Option.some.injEq] at told
        obtain current | ⟨-, previous⟩ := decodeAuthenticatedWithFallback_eq_ok decoded
        · exact told ▸ fits_of_decodeAuthenticated current
        · exact told ▸ fits_of_decodeAuthenticated previous

/-- The tag at the end of a datagram. -/
def tagOf (bytes : Bytes) : Bytes := bytes.drop (bytes.length - authTagSize)

/-- The memory of tags with one more; the oldest ones are forgotten. -/
def remember (cache : List (Nat × Bytes)) (entry : Nat × Bytes) : List (Nat × Bytes) :=
  (cache ++ [entry]).drop (cache.length + 1 - replayCacheCapacity)

theorem acceptReplay_eq (sender : Nat) (tag : Bytes) : acceptReplay sender tag swim =
    if (sender, tag) ∈ swim.replayCache then .done false swim
    else .done true { swim with replayCache := remember swim.replayCache (sender, tag) } := by
  rw [acceptReplay, read_bind]
  split <;> rfl

/-- With a secret, what is authentic is taken unless its tag is remembered. -/
theorem receive_eq (bytes : Bytes) : receive bytes swim =
    match swim.authentic bytes with
    | none => .done none swim
    | some message =>
        if swim.config.secret = [] then .done (some message) swim
        else if (message.sender, tagOf bytes) ∈ swim.replayCache then .done none swim
        else .done (some message) { swim with
          replayCache := remember swim.replayCache (message.sender, tagOf bytes) } := by
  rw [receive, self_bind, authentic]
  by_cases plain : swim.config.secret = []
  · simp only [plain, if_true]
    cases decode bytes <;> rfl
  simp only [plain, if_false]
  cases decodeAuthenticatedWithFallback swim.mac bytes swim.config.secret
      swim.config.previousSecret with
  | error problem => rfl
  | ok message =>
      have answer := @acceptReplay_eq swim message.sender (tagOf bytes)
      simp only [Except.toOption]
      by_cases seen : (message.sender, tagOf bytes) ∈ swim.replayCache
      · rw [if_pos seen] at answer ⊢
        rw [tagOf] at answer
        rw [bind_done answer]
        rfl
      · rw [if_neg seen] at answer ⊢
        rw [tagOf] at answer
        rw [bind_done answer]
        rfl

theorem Near.withCache (near : Near rest swim) (cache : List (Nat × Bytes)) :
    Near { rest with replayCache := cache } { swim with replayCache := cache } := by
  obtain ⟨sync, bounded, same⟩ := near
  refine ⟨sync, bounded, ?_⟩
  simp only [Swim.aside, Aside.mk.injEq] at same ⊢
  exact ⟨same.1, same.2.1, trivial, same.2.2.2⟩

/-- What a node does with a message that it has taken. -/
def actOn (now : Nat) (source : Address) (message : Message) : Act Unit := do
  let swim ← self
  if swim.misplaced source message then pure ()
  else
    each (fun event => applyEventFrom now event (some message.sender)) message.events
    answer now source message

theorem handleMessage_of_none {source : Address} {bytes : Bytes} {next : Swim}
    (answer : receive bytes swim = .done none next) :
    handleMessage now source bytes swim = .done () next := bind_done answer

theorem handleMessage_of_some {source : Address} {bytes : Bytes} {message : Message} {next : Swim}
    (answer : receive bytes swim = .done (some message) next) :
    handleMessage now source bytes swim = actOn now source message next := bind_done answer

theorem shifts_actOn {source : Address} {message : Message} (fits : message.Fits) :
    Shifts rest (actOn now source message) := by
  apply Keeps.bind Keeps.self
  intro swim
  apply Keeps.ite (fun _ => Keeps.pure)
  intro _
  refine Keeps.bind (Keeps.each fun event listed => ?_) fun _ => shifts_answer fits
  exact Bounds.shifts fun _ => bounds_applyEventFrom (fits.events event listed)

/-- Receiving changes no more than the memory of tags, and answers with a message that fits. -/
theorem receive_near {bytes : Bytes} (near : Near rest swim) :
    ∃ answer next, receive bytes swim = .done answer next ∧
      Near { rest with replayCache := next.replayCache } next ∧
      ∀ message, answer = some message → message.Fits := by
  have kept : ∀ {state : Swim}, Near rest state →
      Near { rest with replayCache := state.replayCache } state := by
    rintro state ⟨sync, bounded, same⟩
    refine ⟨sync, bounded, ?_⟩
    simp only [Swim.aside, Aside.mk.injEq] at same ⊢
    exact ⟨same.1, same.2.1, trivial, same.2.2.2⟩
  rw [receive_eq]
  cases told : swim.authentic bytes with
  | none => exact ⟨none, swim, rfl, kept near, by simp⟩
  | some message =>
      have fits := authentic_fits told
      simp only
      split
      · refine ⟨some message, swim, rfl, kept near, ?_⟩
        rintro _ ⟨⟩
        exact fits
      split
      · exact ⟨none, swim, rfl, kept near, by simp⟩
      · generalize remember swim.replayCache (message.sender, tagOf bytes) = cache
        refine ⟨_, _, rfl, near.withCache cache, ?_⟩
        rintro _ ⟨⟩
        exact fits

/-! ## Commands -/

theorem bounds_addPeer {address : Address} : Bounds rest (addPeer nodeId address) := by
  apply Keeps.bind Keeps.self
  intro _
  apply Keeps.ite (fun _ => Keeps.fail)
  intro _
  apply Keeps.bind (bounds_upsert (by norm_num))
  exact fun _ => bounds_notifyListener

theorem shifts_joinSeed {address : Address} : Shifts rest (joinSeed address) := by
  apply Keeps.bind (Bounds.shifts fun _ => bounds_scaledProtocolPeriod)
  intro _
  refine Keeps.bind ?_ fun _ => ?_
  · exact shifts_setSync (fun _ => rfl) fun _ => rfl
  · exact Bounds.shifts fun _ => bounds_sendSyncRequest (by norm_num)

theorem bounds_leave : Bounds rest leave := by
  apply Keeps.bind Keeps.self
  intro swim
  apply Keeps.ite (fun _ => Keeps.pure)
  intro _
  refine Keeps.bind ?_ fun _ => ?_
  · apply Keeps.modify
    rintro state ⟨bounded, same⟩
    exact ⟨{ bounded with incarnation := Nat.mod_lt _ (by norm_num) }, same⟩
  apply yields_self.bind
  intro swim within
  apply Keeps.bind (bounds_queueGossip (within.selfEvent .left))
  intro _
  apply Keeps.each
  intro _ _
  exact bounds_send (within.bounded.named.trans swim.config.narrow) (by norm_num) (by norm_num)

theorem bounds_clearOutgoing : Bounds rest clearOutgoing := by
  apply Keeps.modify
  rintro state ⟨bounded, same⟩
  exact ⟨{ bounded with outbox := by simp [traffic] }, same⟩

/-- No command but a message changes the memory of tags. -/
theorem Command.shifts (command : Command)
    (other : ∀ now source bytes, command ≠ .message now source bytes) :
    Shifts rest command.run := by
  cases command with
  | addPeer nodeId address => exact Bounds.shifts fun _ => bounds_addPeer
  | tick now => exact shifts_tick
  | message now source bytes => exact absurd rfl (other now source bytes)
  | joinSeed address => exact shifts_joinSeed
  | leave => exact Bounds.shifts fun _ => bounds_leave
  | clearOutgoing => exact Bounds.shifts fun _ => bounds_clearOutgoing

/-- The numbers fit, and the node has the configuration and the tag function it was set up with. -/
def Sendable (config : Config) (mac : Mac) (swim : Swim) : Prop :=
  swim.traffic.Bounded ∧ swim.config = config ∧ swim.mac = mac

theorem Near.sendable (near : Near rest swim) : Sendable rest.config rest.mac swim := by
  obtain ⟨sync, bounded, same⟩ := near
  simp only [Swim.aside, Aside.mk.injEq] at same
  exact ⟨bounded, same.1, same.2.1⟩

theorem Sendable.near {config : Config} {mac : Mac} (sendable : Sendable config mac swim) :
    Near { config := config, mac := mac, replayCache := swim.replayCache, sync := none } swim := by
  obtain ⟨bounded, rfl, rfl⟩ := sendable
  exact ⟨swim.sync, bounded, rfl⟩

/-- The state that a step leads to is near, if the step shifts no more. -/
theorem Shifts.near {act : Act Unit} (shifts : Shifts rest act) (near : Near rest swim) {after : Swim}
    (answer : (act swim).state? = some after) : Near rest after :=
  (shifts swim near).leaves answer

theorem Command.run_sendable {config : Config} {mac : Mac} (command : Command) {after : Swim}
    (sendable : Sendable config mac swim) (answer : (command.run swim).state? = some after) :
    Sendable config mac after := by
  cases command with
  | message now source bytes =>
      obtain ⟨taken, next, received, near, fits⟩ := @receive_near _ _ bytes sendable.near
      cases taken with
      | none =>
          rw [Command.run, handleMessage_of_none received] at answer
          cases answer
          exact near.sendable
      | some message =>
          rw [Command.run, handleMessage_of_some received] at answer
          exact (Shifts.near (shifts_actOn (fits message rfl)) near answer).sendable
  | addPeer | tick | joinSeed | leave | clearOutgoing =>
      exact (Shifts.near (Command.shifts _ (by simp)) sendable.near answer).sendable

/-- A node starts with nothing remembered. -/
theorem init_near {config : Config} {mac : Mac} {random : Nat → Nat} {memory : Nat → Bool}
    (starts : init config mac random memory = some swim) :
    Near { config := config, mac := mac, replayCache := [], sync := none } swim := by
  obtain ⟨⟨valid, -, below, -⟩, value, queued⟩ := init_eq_some.mp starts
  have within : Within (blank config mac random memory).aside (blank config mac random memory) := {
    aside := rfl
    bounded := {
      named := below
      piggyback := by
        simp [Params.validate] at valid
        exact valid.1.1.1.2
      capacity := rfl
      members := fun _ _ => by simp [blank, traffic]
      incarnation := by simp [blank, traffic]
      seqCounter := by simp [blank, traffic]
      outbox := by simp [blank, traffic]
      queue := by simp [blank, traffic]
      probe := by simp [blank, traffic]
      relays := by simp [blank, traffic] } }
  have kept := bounds_queueGossip (within.selfEvent .alive) _ within
  rw [queued] at kept
  exact ⟨none, kept⟩

theorem init_sendable {config : Config} {mac : Mac} {random : Nat → Nat} {memory : Nat → Bool}
    (starts : init config mac random memory = some swim) : Sendable config mac swim :=
  (init_near starts).sendable

theorem run_sendable {config : Config} {mac : Mac} {commands : List Command} {after : Swim}
    (sendable : Sendable config mac swim)
    (leads : Run.final perform (some swim) commands = some after) : Sendable config mac after := by
  induction commands generalizing swim with
  | nil =>
      cases leads
      exact sendable
  | cons command commands ih =>
      rw [Run.final_cons, perform, Option.bind_some] at leads
      cases answer : (command.run swim).state? with
      | none =>
          rw [answer, final_perform_none] at leads
          cases leads
      | some next =>
          rw [answer] at leads
          exact ih (command.run_sendable sendable answer) leads

/-- The bytes of a message, as a node sends it. -/
def encodeOutgoing (swim : Swim) (message : Message) : Except AuthEncodeError Bytes :=
  if swim.config.secret = [] then
    match message.encode maxMessageSize with
    | .error problem => .error (.encode problem)
    | .ok bytes => .ok bytes
  else message.encodeAuthenticated swim.mac swim.config.secret maxMessageSize

/-- Whatever waits to be sent is encoded, into a buffer of the usual size. -/
theorem encodeOutgoing_eq_ok {outgoing : Outgoing} (bounded : swim.traffic.Bounded)
    (secured : swim.config.Secured) (listed : outgoing ∈ swim.outbox) :
    ∃ bytes, swim.encodeOutgoing outgoing.message = .ok bytes := by
  have fits := bounded.outbox outgoing listed
  unfold encodeOutgoing
  split
  · rw [Message.encode_eq fits.few (by decide)]
    exact ⟨_, rfl⟩
  · rename_i shared
    exact ⟨_, Message.encodeAuthenticated_eq (secured.resolve_left shared) fits.few⟩

end Swim

/-- Decoding undoes encoding for every message whose numbers fit, with a tag and without; what is
decoded at all is exactly what encoding gives; no byte string makes the decoder read outside of it;
and in every run of a node everything that waits to be sent can be encoded. -/
theorem membership_codec_exact (mac : Mac) (sized : mac.Sized) :
    (∀ message : Message, message.Fits → ∃ bytes,
      message.encode maxMessageSize = .ok bytes ∧ decode bytes = .ok message) ∧
    (∀ (message : Message) (secret : Bytes), message.Fits → minSecretSize ≤ secret.length →
      ∃ bytes, message.encodeAuthenticated mac secret maxMessageSize = .ok bytes ∧
        decodeAuthenticated mac bytes secret = .ok message) ∧
    (∀ (bytes : Bytes) (message : Message), decode bytes = .ok message ↔
      message.Fits ∧ message.encode maxMessageSize = .ok bytes) ∧
    (∀ (bytes secret : Bytes) (message : Message),
      decodeAuthenticated mac bytes secret = .ok message ↔ message.Fits ∧
        message.encodeAuthenticated mac secret maxMessageSize = .ok bytes) ∧
    (∀ bytes : Bytes, decode? bytes = some (decode bytes)) ∧
    (∀ bytes secret : Bytes, decodeAuthenticated? mac bytes secret =
      some (decodeAuthenticated mac bytes secret)) ∧
    (∀ (config : Config) (random : Nat → Nat) (memory : Nat → Bool) (swim after : Swim)
      (commands : List Swim.Command), config.Secured →
      Swim.init config mac random memory = some swim →
      Run.final Swim.perform (some swim) commands = some after →
      ∀ outgoing ∈ after.outbox, ∃ bytes,
        after.encodeOutgoing outgoing.message = .ok bytes) := by
  refine ⟨fun message fits => ?_, fun message secret fits long => ?_, fun bytes message =>
    decode_eq_ok_iff, fun bytes secret message => ?_, decode?_eq, decodeAuthenticated?_eq mac,
    fun config random memory swim after commands secured starts leads outgoing listed => ?_⟩
  · have encoded := Message.encode_eq fits.few (show _ ≤ maxMessageSize by decide)
    exact ⟨_, encoded, decode_eq_ok_iff.mpr ⟨fits, encoded⟩⟩
  · have encoded := @Message.encodeAuthenticated_eq mac secret message long fits.few
    exact ⟨_, encoded, (decodeAuthenticated_eq_ok_iff sized long).mpr ⟨fits, encoded⟩⟩
  · by_cases long : minSecretSize ≤ secret.length
    · exact decodeAuthenticated_eq_ok_iff sized long
    · have short := not_le.mp long
      simp [decodeAuthenticated, Message.encodeAuthenticated, short]
  · obtain ⟨bounded, same, -⟩ := Swim.run_sendable (Swim.init_sendable starts) leads
    exact Swim.encodeOutgoing_eq_ok bounded (same ▸ secured) listed

/-- A suspicion about an IPv6 member, with a tag of zeros. -/
theorem membership_codec_exact_suspicion :
    let message : Message := {
      type := .pingReq
      sender := 42
      seq := 12345
      target := 9
      events := [{ nodeId := 9, status := .suspect, incarnation := 1, address := .ip6 9 7947 }] }
    ∃ bytes, message.encodeAuthenticated (fun _ _ => List.replicate 32 0) (List.replicate 16 7)
        maxMessageSize = .ok bytes ∧
      decodeAuthenticated (fun _ _ => List.replicate 32 0) bytes (List.replicate 16 7) =
        .ok message := by
  apply (membership_codec_exact (fun _ _ => List.replicate 32 0) fun _ _ => by simp [authTagSize]).2.1
  · exact {
      sender := by decide
      seq := by decide
      target := by decide
      flags := by decide
      few := by decide
      events := by
        intro event listed
        rw [List.mem_singleton.mp listed]
        exact ⟨by decide, by decide⟩ }
  · decide

end LyuneGateway.Membership
