import LyuneGateway.Membership.Sessions

/-!
# What a node says is true

An event is true if the node that it is about has the address, has come to the
incarnation, and has left with exactly this incarnation if the event says so. A
node that is told only what is true believes and says only what is true: what it
adds of its own is that it lives or leaves, and that another node, which it does
not know to have left, is suspect or dead.
-/

namespace LyuneGateway.Membership

open Control (NodeStatus)
open Faulty

/-! ## Truth -/

/-- The incarnation that a node has come to, and whether it has left. -/
structure Tenure where
  incarnation : Nat
  left : Bool

/-- A node takes higher incarnations until it leaves, which it does with one more. -/
def Tenure.Rises (tenure later : Tenure) : Prop :=
  later = tenure ∨ tenure.left = false ∧ tenure.incarnation < later.incarnation

theorem Tenure.Rises.trans {first second third : Tenure} (one : first.Rises second)
    (two : second.Rises third) : first.Rises third := by
  obtain rfl | ⟨stays, lower⟩ := one
  · exact two
  obtain rfl | ⟨-, lower'⟩ := two
  · exact .inr ⟨stays, lower⟩
  · exact .inr ⟨stays, lower.trans lower'⟩

/-- The nodes of a cluster as they are. -/
structure World where
  address : Nat → Address
  tenure : Nat → Tenure

/-- The world in which a node has come to this. -/
def World.raised (world : World) (nodeId : Nat) (tenure : Tenure) : World :=
  { world with tenure := Function.update world.tenure nodeId tenure }

structure Event.Holds (event : Event) (world : World) : Prop where
  address : event.address = world.address event.nodeId
  incarnation : event.incarnation ≤ (world.tenure event.nodeId).incarnation
  left : event.status = .left ↔ (world.tenure event.nodeId).left = true ∧
    event.incarnation = (world.tenure event.nodeId).incarnation

variable {world : World} {event : Event} {member : Member} {nodeId : Nat}

/-- What is true stays true. -/
theorem Event.Holds.raised {tenure : Tenure} (holds : event.Holds world)
    (rises : (world.tenure nodeId).Rises tenure) : event.Holds (world.raised nodeId tenure) := by
  by_cases other : event.nodeId ≠ nodeId
  · have same : (world.raised nodeId tenure).tenure event.nodeId = world.tenure event.nodeId :=
      Function.update_of_ne other _ _
    exact ⟨holds.address, same ▸ holds.incarnation, same ▸ holds.left⟩
  rw [not_not] at other
  subst other
  have here : (world.raised event.nodeId tenure).tenure event.nodeId = tenure :=
    Function.update_self ..
  suffices event.incarnation ≤ tenure.incarnation ∧ (event.status = .left ↔ tenure.left = true ∧
      event.incarnation = tenure.incarnation) by
    refine ⟨holds.address, ?_, ?_⟩
    · rw [here]
      exact this.1
    · rw [here]
      exact this.2
  obtain rfl | ⟨stays, lower⟩ := rises
  · exact ⟨holds.incarnation, holds.left⟩
  have below := holds.incarnation.trans_lt lower
  refine ⟨below.le, iff_of_false ?_ fun gone => below.ne gone.2⟩
  intro gone
  have left := (holds.left.mp gone).1
  rw [stays] at left
  cases left

/-- Of a node that has not left at this incarnation, anything else may be said. -/
theorem Event.Holds.restated {status : NodeStatus} (holds : event.Holds world)
    (stays : event.status ≠ .left) (other : status ≠ .left) :
    ({ event with status := status } : Event).Holds world where
  address := holds.address
  incarnation := holds.incarnation
  left := iff_of_false other fun gone => stays (holds.left.mpr gone)

/-- No news about a member that has left is true. -/
theorem not_accepts_left (known : member.event.Holds world) (gone : member.status = .left)
    (holds : event.Holds world) (same : event.nodeId = member.nodeId) :
    Swim.accepts (some member) event = false := by
  obtain ⟨left, last⟩ := known.left.mp gone
  have below := holds.incarnation
  have final := holds.left
  rw [same] at below final
  change member.incarnation = (world.tenure member.nodeId).incarnation at last
  change (world.tenure member.nodeId).left = true at left
  rw [← last] at below final
  unfold Swim.accepts
  cases status : event.status with
  | alive => simpa using below
  | suspect => simp [gone, not_lt.mpr below]
  | left => simp [gone]
  | dead =>
      simp only [gone, ne_eq, reduceCtorEq, not_false_eq_true, decide_true, Bool.true_and,
        decide_eq_false_iff_not, not_le]
      refine below.lt_of_ne fun equal => ?_
      have also := final.mpr ⟨left, equal⟩
      rw [status] at also
      cases also

/-- Members that one table has as left are in the other as they were. -/
def Table.Remembered (table later : Table) : Prop :=
  ∀ nodeId member, table.get nodeId = some member → member.status = .left →
    later.get nodeId = some member

namespace Swim

/-! ## A node that believes and says what is true -/

def tenure (swim : Swim) : Tenure where
  incarnation := swim.incarnation
  left := swim.hasLeft

/-- What a node believes and is about to say, and what this depends on. -/
structure Speech where
  config : Config
  table : Table
  tenure : Tenure
  queue : List GossipEntry
  outbox : List Outgoing
  identityConflict : Option IdentityConflict

def speech (swim : Swim) : Speech where
  config := swim.config
  table := swim.table
  tenure := swim.tenure
  queue := swim.gossipQueue
  outbox := swim.outbox
  identityConflict := swim.identityConflict

/-- The node has been what it is in this world, no identity is disputed, and members that it has
known to have left since the start are still known to have. -/
structure Speech.Candid (world : World) (start : Swim) (speech : Speech) : Prop where
  config : speech.config = start.config
  placed : world.address start.config.nodeId = start.config.address
  tenure : world.tenure start.config.nodeId = speech.tenure
  table : ∀ nodeId member, speech.table.get nodeId = some member → member.event.Holds world
  own : speech.table.get start.config.nodeId = none
  queue : ∀ entry ∈ speech.queue, entry.event.Holds world
  outbox : ∀ outgoing ∈ speech.outbox, ∀ event ∈ outgoing.message.events, event.Holds world
  undisputed : speech.identityConflict = none
  final : start.table.Remembered speech.table

def Candid (world : World) (start swim : Swim) : Prop := swim.speech.Candid world start

/-- The step says and stores what is true, and the node stays what it is in this world. -/
abbrev Honest {α : Type} (world : World) (start : Swim) (act : Act α) : Prop :=
  Keeps (fun _ => True) (Candid world start) act

/-- The step also answers with a value that is as it says. -/
def Offers {α : Type} (world : World) (start : Swim) (act : Act α) (fits : α → Prop) : Prop :=
  ∀ swim, Candid world start swim → (act swim).Meets (fun _ => True)
    (fun value after => Candid world start after ∧ fits value) (Candid world start)

variable {α β : Type} {start swim : Swim} {now : Nat}

theorem Offers.bind {act : Act α} {fits : α → Prop} {next : α → Act β}
    (first : Offers world start act fits)
    (then_ : ∀ value, fits value → Honest world start (next value)) :
    Honest world start (act >>= next) :=
  fun swim candid => meets_bind (first swim candid) fun value after ⟨kept, fit⟩ =>
    then_ value fit after kept

theorem Offers.then {act : Act α} {fits : α → Prop} {fits' : β → Prop} {next : α → Act β}
    (first : Offers world start act fits)
    (then_ : ∀ value, fits value → Offers world start (next value) fits') :
    Offers world start (act >>= next) fits' :=
  fun swim candid => meets_bind (first swim candid) fun value after ⟨kept, fit⟩ =>
    then_ value fit after kept

theorem Offers.pure {fits : α → Prop} {value : α} (fit : fits value) :
    Offers world start (Pure.pure value : Act α) fits := fun _ candid => ⟨candid, fit⟩

theorem offers_read {part : Swim → α} {fits : α → Prop}
    (told : ∀ swim, Candid world start swim → fits (part swim)) :
    Offers world start (read part) fits :=
  fun swim candid => ⟨candid, told swim candid⟩

theorem offers_self : Offers world start self (Candid world start) :=
  fun _ candid => ⟨candid, candid⟩

theorem honest_require {fits : Prop} [Decidable fits] :
    Honest world start (require Fault.range fits) := Keeps.require (.inl trivial)

theorem honest_aside {change : Swim → Swim} (kept : ∀ swim, (change swim).speech = swim.speech) :
    Honest world start (modify change) := by
  apply Keeps.modify
  intro swim candid
  rw [Candid, kept swim]
  exact candid

theorem Candid.selfEvent (candid : Candid world start swim) {status : NodeStatus}
    (stated : status = .left ↔ swim.hasLeft = true) : (swim.selfEvent status).Holds world := by
  have same : swim.config = start.config := candid.config
  have placed := candid.placed
  have here : world.tenure start.config.nodeId = swim.tenure := candid.tenure
  rw [← same] at placed here
  refine ⟨placed.symm, ?_, ?_⟩
  · exact (congrArg Tenure.incarnation here).ge
  · simp only [Swim.selfEvent, here]
    exact stated.trans (and_iff_left rfl).symm

theorem Candid.currentSelfEvent (candid : Candid world start swim) :
    swim.currentSelfEvent.Holds world := by
  apply candid.selfEvent
  cases swim.hasLeft <;> simp

/-! ## What says nothing -/

theorem honest_allocate : Honest world start allocate := by
  intro swim candid
  simp only [allocate]
  split <;> exact candid

theorem honest_roll {bound : Nat} : Honest world start (roll bound) :=
  Keeps.bind honest_require fun _ => Keeps.bind Keeps.read fun _ =>
    Keeps.bind (honest_aside fun _ => rfl) fun _ => Keeps.pure

theorem honest_add64 {a b : Nat} : Honest world start (add64 a b) :=
  Keeps.bind honest_require fun _ => Keeps.pure

theorem honest_mul64 {a b : Nat} : Honest world start (mul64 a b) :=
  Keeps.bind honest_require fun _ => Keeps.pure

theorem honest_scaledProbeTimeout : Honest world start scaledProbeTimeout :=
  Keeps.bind Keeps.self fun _ => honest_mul64

theorem honest_scaledProtocolPeriod : Honest world start scaledProtocolPeriod :=
  Keeps.bind Keeps.self fun _ => honest_mul64

theorem honest_suspicionTimeout : Honest world start suspicionTimeout :=
  Keeps.bind Keeps.self fun _ => Keeps.bind honest_mul64 fun _ =>
    Keeps.bind honest_mul64 fun _ => honest_mul64

theorem honest_penalizeHealth : Honest world start penalizeHealth := by
  apply Keeps.modify
  intro swim candid
  split <;> exact candid

theorem honest_recoverHealth : Honest world start recoverHealth := by
  apply Keeps.modify
  intro swim candid
  split <;> exact candid

theorem honest_notifyListener : Honest world start (notifyListener member) :=
  honest_aside fun _ => rfl

theorem honest_nextSeq : Honest world start nextSeq := by
  refine Keeps.bind ?_ fun _ => Keeps.read
  exact honest_aside fun _ => rfl

theorem honest_confirmSuspicion {source : Nat} :
    Honest world start (confirmSuspicion now nodeId source) := by
  apply Keeps.bind Keeps.read
  intro suspicions
  cases suspicions nodeId with
  | none => exact fun _ _ => trivial
  | some suspicion =>
      apply Keeps.ite (fun _ => Keeps.pure)
      intro _
      apply Keeps.bind Keeps.self
      intro _
      apply Keeps.bind honest_suspicionTimeout
      intro _
      apply Keeps.bind honest_require
      intro _
      apply Keeps.bind honest_add64
      exact fun _ => honest_aside fun _ => rfl

theorem honest_trackSuspicion {status : NodeStatus} {source : Nat} :
    Honest world start (trackSuspicion now nodeId status source) := by
  apply Keeps.ite
  · intro _
    apply Keeps.bind Keeps.read
    intro _
    refine Keeps.bind (Keeps.when fun _ => ?_) fun _ => honest_confirmSuspicion
    apply Keeps.bind honest_suspicionTimeout
    intro _
    apply Keeps.bind honest_add64
    exact fun _ => honest_aside fun _ => rfl
  · exact fun _ => honest_aside fun _ => rfl

theorem honest_confirmFrom {current : Option Member} {source : Option Nat} :
    Honest world start (confirmFrom now current event source) := by
  cases source with
  | none => exact Keeps.pure
  | some source =>
      cases current with
      | none => exact Keeps.pure
      | some member => exact Keeps.when fun _ => honest_confirmSuspicion

theorem honest_shuffle (fuel : Nat) (items : List Nat) :
    Honest world start (shuffle fuel items) := by
  induction fuel generalizing items with
  | zero => exact Keeps.pure
  | succ fuel ih =>
      cases items with
      | nil => exact Keeps.pure
      | cons first rest =>
          exact Keeps.bind honest_roll fun _ => Keeps.bind (ih _) fun _ => Keeps.pure

theorem honest_rebuildProbeOrder : Honest world start rebuildProbeOrder := by
  refine Keeps.bind ?_ fun _ => ?_
  · exact honest_aside fun _ => rfl
  apply Keeps.bind Keeps.self
  intro _
  refine Keeps.bind ?_ fun _ => ?_
  · apply Keeps.each
    intro _ _
    refine Keeps.bind honest_allocate fun _ => ?_
    exact honest_aside fun _ => rfl
  apply Keeps.bind Keeps.read
  intro _
  apply Keeps.bind (honest_shuffle _ _)
  exact fun _ => honest_aside fun _ => rfl

theorem honest_nextProbeTarget (rounds : Nat) : Honest world start (nextProbeTarget rounds) := by
  induction rounds with
  | zero => exact Keeps.pure
  | succ rounds ih =>
      apply Keeps.bind Keeps.self
      intro swim
      cases nextActive swim.table swim.probeOrder with
      | some target =>
          refine Keeps.bind ?_ fun _ => Keeps.pure
          exact honest_aside fun _ => rfl
      | none =>
          apply Keeps.bind honest_rebuildProbeOrder
          intro _
          apply Keeps.bind Keeps.read
          exact fun _ => Keeps.ite (fun _ => Keeps.pure) fun _ => ih

theorem honest_sample {room : Nat} (members chosen : List Member) (seen : Nat) :
    Honest world start (sample room members chosen seen) := by
  induction members generalizing chosen seen with
  | nil => exact Keeps.pure
  | cons member members ih =>
      exact Keeps.ite (fun _ => ih _ _) fun _ => Keeps.bind honest_roll fun _ => ih _ _

theorem honest_choosePeer (members : List Member) (chosen : Option Member) (seen : Nat) :
    Honest world start (choosePeer members chosen seen) := by
  induction members generalizing chosen seen with
  | nil => exact Keeps.pure
  | cons member members ih => exact Keeps.bind honest_roll fun _ => ih _ _

/-! ## Saying -/

theorem honest_queueGossip (holds : event.Holds world) :
    Honest world start (queueGossip event) := by
  apply Keeps.bind
  · exact Keeps.bind Keeps.self fun _ => Keeps.bind honest_require fun _ => Keeps.pure
  intro transmits
  apply Keeps.bind Keeps.read
  intro _
  apply Keeps.bind (Keeps.when fun _ => honest_allocate)
  intro _
  apply Keeps.modify
  intro swim candid
  refine { candid with queue := fun entry listed => ?_ }
  obtain rfl | before := mem_enqueue listed
  · exact holds
  · exact candid.queue entry before

theorem offers_pick (want : Nat) (picked : List Nat) :
    Offers world start (pick want picked) fun events => ∀ event ∈ events, event.Holds world := by
  induction want generalizing picked with
  | zero => exact Offers.pure (by simp)
  | succ want ih =>
      intro swim candid
      rw [pick, read_bind]
      cases best swim.gossipQueue picked with
      | none => exact ⟨candid, by simp⟩
      | some index =>
          simp only
          cases held : swim.gossipQueue[index]? with
          | none => exact ⟨candid, by simp⟩
          | some entry =>
              apply meets_require (.inl trivial)
              intro _
              rw [modify_bind]
              have spent : Candid world start { swim with
                  gossipQueue := spend swim.gossipQueue index } := by
                refine { candid with queue := fun other listed => ?_ }
                obtain ⟨place, found⟩ := List.mem_iff_getElem?.mp listed
                simp only [speech, spend, List.getElem?_modify] at found
                obtain ⟨before, among, rfl⟩ := Option.map_eq_some_iff.mp found
                have told := candid.queue before (List.mem_of_getElem? among)
                split <;> exact told
              apply meets_bind (ih (picked ++ [index]) _ spent)
              rintro events after ⟨kept, all⟩
              refine ⟨kept, fun other listed => ?_⟩
              obtain rfl | listed := List.mem_cons.mp listed
              · exact candid.queue entry (List.mem_of_getElem? held)
              · exact all other listed

theorem offers_pickPiggyback : Offers world start pickPiggyback
    fun events => ∀ event ∈ events, event.Holds world := by
  intro swim candid
  rw [pickPiggyback, self_bind]
  apply meets_bind (offers_pick _ [] swim candid)
  rintro events after ⟨kept, all⟩
  rw [modify_bind]
  refine ⟨{ kept with queue := fun entry listed => ?_ }, all⟩
  exact kept.queue entry (mem_discard listed)

theorem honest_post {recipient : Address} {message : Message}
    (holds : ∀ event ∈ message.events, event.Holds world) :
    Honest world start (post recipient message) := by
  apply Keeps.bind honest_allocate
  intro _
  apply Keeps.modify
  intro swim candid
  refine { candid with outbox := fun outgoing listed => ?_ }
  obtain before | last := List.mem_append.mp listed
  · exact candid.outbox outgoing before
  · rw [List.mem_singleton.mp last]
    exact holds

theorem honest_send {type : MessageType} {sender seq target : Nat} {recipient : Address} :
    Honest world start (send type sender seq target recipient) :=
  offers_pickPiggyback.bind fun _ holds => honest_post holds

/-- A member that is not known to have left may be said to be suspect. -/
theorem honest_sendBuddyNotification (holds : member.event.Holds world)
    (stays : member.status ≠ .left) : Honest world start (sendBuddyNotification member) := by
  apply Keeps.bind Keeps.self
  intro _
  apply honest_post
  intro event listed
  rw [List.mem_singleton.mp listed]
  exact holds.restated stays (by simp)

theorem honest_sendSyncRequest {recipient : Address} {cursor : Nat} :
    Honest world start (sendSyncRequest recipient cursor) := by
  have truthful : Offers world start (read currentSelfEvent) fun own => own.Holds world :=
    offers_read fun _ candid => candid.currentSelfEvent
  apply truthful.bind
  intro own holds
  apply Keeps.bind honest_nextSeq
  intro _
  apply Keeps.bind Keeps.self
  intro _
  apply honest_post
  intro event listed
  rwa [List.mem_singleton.mp listed]

/-! ## Events about other nodes -/

/-- What is stored of another node is true, and no member that has left is taken back. -/
theorem Candid.written (candid : Candid world start swim) (holds : event.Holds world)
    (other : event.nodeId ≠ start.config.nodeId)
    (open_ : ∀ member, start.table.get event.nodeId = some member → member.status ≠ .left)
    (valid : event.nodeId ≠ 0 ∧ event.nodeId < swim.table.capacity) {table : Table}
    (slots : table.slots = (swim.table.written event.member).slots)
    (capacity : table.capacity = swim.table.capacity) :
    Candid world start { swim with table := table } := by
  have get : ∀ nodeId, table.get nodeId = (swim.table.written event.member).get nodeId :=
    Table.get_congr slots capacity
  refine { candid with
    table := fun nodeId member held => ?_
    own := ?_
    final := fun nodeId member known gone => ?_ }
  · change table.get nodeId = some member at held
    rw [get] at held
    by_cases same : nodeId = event.nodeId
    · subst same
      obtain here | none_ := @Table.get_written_or swim.table event.member valid
      · cases here.symm.trans held
        exact holds
      · cases none_.symm.trans held
    · exact candid.table nodeId member ((Table.get_written_ne same).symm.trans held)
  · change table.get start.config.nodeId = none
    rw [get]
    exact (Table.get_written_ne other.symm).trans candid.own
  · change table.get nodeId = some member
    rw [get]
    by_cases same : nodeId = event.nodeId
    · subst same
      exact absurd gone (open_ member known)
    · exact (Table.get_written_ne same).trans (candid.final nodeId member known gone)

theorem Candid.upsert (candid : Candid world start swim) (holds : event.Holds world)
    (other : event.nodeId ≠ start.config.nodeId)
    (open_ : ∀ member, start.table.get event.nodeId = some member → member.status ≠ .left) :
    (onTable (Table.upsert event.member) swim).Meets (fun _ => True)
      (fun _ => Candid world start) (Candid world start) := by
  simp only [onTable, zoom]
  by_cases outside : event.nodeId = 0 ∨ swim.table.capacity ≤ event.nodeId
  · rw [@Table.upsert_refused swim.table event.member outside]
    exact candid
  · have writes := @Table.upsert_writes swim.table event.member outside
    have valid : event.nodeId ≠ 0 ∧ event.nodeId < swim.table.capacity := by omega
    cases answer : Table.upsert event.member swim.table with
    | done result table =>
        rw [answer] at writes
        exact candid.written holds other open_ valid writes.1 writes.2
    | failed table =>
        rw [answer] at writes
        exact candid.written holds other open_ valid writes.1 writes.2
    | trapped fault => trivial

/-- Nobody has another address than it is known to have. -/
theorem Candid.contradicts (candid : Candid world start swim) (holds : event.Holds world) :
    contradicts (swim.table.get event.nodeId) event swim = .done false swim := by
  cases held : swim.table.get event.nodeId with
  | none => rfl
  | some member =>
      have known := (candid.table _ member held).address
      rw [show member.event.nodeId = event.nodeId from Table.get_nodeId held] at known
      exact Faulty.ite_pos (known.trans holds.address.symm)

theorem Candid.adopt {source : Option Nat} (candid : Candid world start swim)
    (holds : event.Holds world) (other : event.nodeId ≠ start.config.nodeId)
    (news : accepts (swim.table.get event.nodeId) event = true) :
    (adopt now (swim.table.get event.nodeId) event source swim).Meets (fun _ => True)
      (fun _ => Candid world start) (Candid world start) := by
  have fits : ∀ member, swim.table.get event.nodeId = some member →
      member.address = event.address := by
    intro member held
    have known := (candid.table _ member held).address
    rw [show member.event.nodeId = event.nodeId from Table.get_nodeId held] at known
    exact known.trans holds.address.symm
  rw [Swim.adopt, Event.member_of_fits fits]
  have open_ : ∀ member, start.table.get event.nodeId = some member → member.status ≠ .left := by
    intro member known gone
    have held : swim.table.get event.nodeId = some member := candid.final _ member known gone
    rw [held, not_accepts_left (candid.table _ member held) gone holds
      (Table.get_nodeId held).symm] at news
    cases news
  apply meets_bind (candid.upsert holds other open_)
  intro _
  apply Keeps.bind Keeps.read
  intro _
  apply Keeps.bind honest_trackSuspicion
  intro _
  refine Keeps.bind (honest_queueGossip ?_) fun _ => honest_notifyListener
  exact holds

/-- What is said of another node is merged without changing what the node itself is. -/
theorem honest_applyEventFrom {source : Option Nat} (holds : event.Holds world)
    (other : event.nodeId ≠ start.config.nodeId) :
    Honest world start (applyEventFrom now event source) := by
  intro swim candid
  have config : swim.config = start.config := candid.config
  rw [applyEventFrom, self_bind, Faulty.ite_neg (config ▸ other)]
  apply meets_ite
  · exact fun _ => candid
  intro _
  rw [get, read_bind, bind_done (candid.contradicts holds), Faulty.ite_neg (by simp)]
  apply meets_ite
  · exact candid.adopt holds other
  · exact fun _ => honest_confirmFrom swim candid

/-- Of a member that is not known to have left, anything but that may be asserted. -/
theorem honest_assert {status : NodeStatus} (holds : member.event.Holds world)
    (other : member.nodeId ≠ start.config.nodeId) (stays : member.status ≠ .left)
    (status_ : status ≠ .left) : Honest world start (assert now member status) :=
  honest_applyEventFrom (holds.restated stays status_) other

/-! ## Time -/

/-- What is found is true of another node. -/
theorem offers_get : Offers world start (get nodeId) fun found => ∀ member, found = some member →
    member.event.Holds world ∧ member.nodeId ≠ start.config.nodeId := by
  apply offers_read
  intro swim candid member held
  refine ⟨candid.table nodeId member held, ?_⟩
  rintro same
  rw [Table.get_nodeId held] at same
  have own := candid.own
  rw [← same] at own
  cases held.symm.trans own

theorem honest_expireSuspicion : Honest world start (expireSuspicion now nodeId) := by
  apply Keeps.bind Keeps.read
  intro suspicions
  cases suspicions nodeId with
  | none => exact Keeps.pure
  | some suspicion =>
      apply Keeps.ite (fun _ => Keeps.pure)
      intro _
      refine Keeps.bind ?_ fun _ => ?_
      · exact honest_aside fun _ => rfl
      apply offers_get.bind
      intro found true_
      cases found with
      | none => exact Keeps.pure
      | some member =>
          apply Keeps.when
          intro suspect
          obtain ⟨holds, other⟩ := true_ member rfl
          exact honest_assert holds other (by simp [suspect]) (by simp)

theorem honest_sendIndirectProbes {target seq : Nat} :
    Honest world start (sendIndirectProbes target seq) := by
  apply Keeps.bind Keeps.self
  intro swim
  apply Keeps.bind (honest_sample _ _ _)
  intro chosen
  exact Keeps.each fun _ _ => honest_send

theorem honest_driveProbe : Honest world start (driveProbe now) := by
  apply Keeps.bind Keeps.read
  intro found
  cases found with
  | none => exact Keeps.pure
  | some probe =>
      refine Keeps.bind (Keeps.when fun _ => ?_) fun _ => Keeps.when fun _ => ?_
      · refine Keeps.bind ?_ fun _ => honest_sendIndirectProbes
        exact honest_aside fun _ => rfl
      · refine Keeps.bind ?_ fun _ => ?_
        · exact honest_aside fun _ => rfl
        apply Keeps.bind honest_penalizeHealth
        intro _
        apply offers_get.bind
        intro found true_
        cases found with
        | none => exact Keeps.pure
        | some member =>
            apply Keeps.when
            intro alive
            obtain ⟨holds, other⟩ := true_ member rfl
            have stays : member.status ≠ .left := by simp [alive]
            refine Keeps.bind (honest_assert holds other stays (by simp)) fun _ => ?_
            exact honest_sendBuddyNotification holds stays

theorem honest_startProbe : Honest world start (startProbe now) := by
  apply Keeps.bind (honest_nextProbeTarget 2)
  intro found
  cases found with
  | none => exact Keeps.pure
  | some member =>
      apply Keeps.bind honest_nextSeq
      intro _
      apply Keeps.bind honest_scaledProbeTimeout
      intro _
      apply Keeps.bind honest_add64
      intro _
      apply Keeps.bind honest_scaledProtocolPeriod
      intro _
      apply Keeps.bind honest_add64
      intro _
      refine Keeps.bind ?_ fun _ => Keeps.bind Keeps.self fun _ => honest_send
      exact honest_aside fun _ => rfl

theorem honest_startSync : Honest world start (startSync now) := by
  apply Keeps.bind (Keeps.bind Keeps.self fun _ => honest_choosePeer _ _ _)
  intro found
  cases found with
  | none => exact Keeps.pure
  | some peer =>
      apply Keeps.bind honest_scaledProtocolPeriod
      intro _
      apply Keeps.bind honest_add64
      intro _
      refine Keeps.bind ?_ fun _ => ?_
      · exact honest_aside fun _ => rfl
      apply Keeps.bind Keeps.self
      intro _
      apply Keeps.bind honest_add64
      intro _
      refine Keeps.bind ?_ fun _ => honest_sendSyncRequest
      exact honest_aside fun _ => rfl

theorem honest_driveAntiEntropy : Honest world start (driveAntiEntropy now) := by
  apply Keeps.bind Keeps.self
  intro _
  apply Keeps.ite (fun _ => Keeps.pure)
  intro _
  apply Keeps.ite (fun _ => Keeps.pure)
  intro _
  refine Keeps.bind ?_ fun _ => Keeps.ite (fun _ => Keeps.pure) fun _ => honest_startSync
  exact honest_aside fun _ => rfl

theorem honest_tick : Honest world start (tick now) := by
  apply Keeps.bind (Keeps.bind Keeps.self fun _ => Keeps.each fun _ _ => honest_expireSuspicion)
  intro _
  apply Keeps.bind honest_driveProbe
  intro _
  apply Keeps.bind honest_driveAntiEntropy
  intro _
  apply Keeps.bind Keeps.self
  intro _
  apply Keeps.when
  intro _
  apply Keeps.bind honest_scaledProtocolPeriod
  intro _
  apply Keeps.bind honest_add64
  intro _
  refine Keeps.bind ?_ fun _ => honest_startProbe
  exact honest_aside fun _ => rfl

/-! ## Answers -/

section Answers

variable {source : Address} {message : Message}

theorem honest_handlePingReq : Honest world start (handlePingReq now source message) := by
  apply Keeps.bind Keeps.read
  intro found
  cases found with
  | none => exact Keeps.pure
  | some target =>
      apply Keeps.bind honest_nextSeq
      intro _
      apply Keeps.bind Keeps.self
      intro _
      apply Keeps.bind honest_add64
      intro _
      refine Keeps.bind ?_ fun _ => honest_send
      exact honest_aside fun _ => rfl

theorem honest_handleAck : Honest world start (handleAck now message) := by
  apply Keeps.bind Keeps.self
  intro swim
  apply Keeps.ite
  · intro _
    refine Keeps.bind ?_ fun _ => honest_recoverHealth
    exact honest_aside fun _ => rfl
  intro _
  cases findRelay swim.relays message with
  | none => exact Keeps.pure
  | some pair =>
      refine Keeps.bind ?_ fun _ => Keeps.ite (fun _ => Keeps.pure) fun _ => honest_send
      exact honest_aside fun _ => rfl

theorem offers_syncChunk (fuel cursor : Nat) (events : List Event)
    (all : ∀ event ∈ events, event.Holds world) :
    Offers world start (syncChunk fuel cursor events)
      fun chunk => ∀ event ∈ chunk.1, event.Holds world := by
  induction fuel generalizing cursor events with
  | zero => exact Offers.pure all
  | succ fuel ih =>
      apply offers_self.then
      intro swim candid state kept
      apply meets_ite
      · intro _
        apply meets_require (.inl trivial)
        intro _
        cases held : swim.table.get cursor with
        | none => exact ih _ _ all state kept
        | some member =>
            refine ih _ _ ?_ state kept
            intro event listed
            obtain before | last := List.mem_append.mp listed
            · exact all event before
            · rw [List.mem_singleton.mp last]
              exact candid.table cursor member held
      · exact fun _ => ⟨kept, all⟩

theorem honest_answerSync : Honest world start (answerSync source message) := by
  apply offers_self.bind
  intro swim candid
  apply (offers_syncChunk (swim.config.maxNodes + 1) message.target [swim.currentSelfEvent] _).bind
  · intro chunk holds
    exact honest_post holds
  · intro event listed
    rw [List.mem_singleton.mp listed]
    exact candid.currentSelfEvent

theorem honest_handleSync : Honest world start (handleSync now source message) := by
  apply Keeps.ite (fun _ => honest_answerSync)
  intro _
  apply Keeps.bind Keeps.read
  intro session
  cases session with
  | none => exact Keeps.pure
  | some session =>
      apply Keeps.ite (fun _ => Keeps.pure)
      intro _
      apply Keeps.bind honest_scaledProtocolPeriod
      intro _
      apply Keeps.bind honest_add64
      intro _
      apply Keeps.ite
      · intro _
        refine Keeps.bind ?_ fun _ => honest_sendSyncRequest
        exact honest_aside fun _ => rfl
      · exact fun _ => honest_aside fun _ => rfl

theorem honest_answer : Honest world start (answer now source message) := by
  apply Keeps.bind Keeps.self
  intro _
  cases message.type with
  | ping => exact honest_send
  | pingReq => exact honest_handlePingReq
  | ack => exact honest_handleAck
  | sync => exact honest_handleSync

end Answers

/-! ## What raises the incarnation -/

/-- The node may have come to a higher incarnation than it has in this world. -/
def Raised (world : World) (start swim : Swim) : Prop :=
  ∃ tenure, (world.tenure start.config.nodeId).Rises tenure ∧
    Candid (world.raised start.config.nodeId tenure) start swim

theorem Candid.raised (candid : Candid world start swim) : Raised world start swim := by
  refine ⟨_, .inl rfl, ?_⟩
  rw [World.raised, Function.update_eq_self]
  exact candid

/-- What is candid with what the node has come to is raised. -/
theorem meets_raised {tenure : Tenure} {result : Outcome Fault Swim α}
    (rises : (world.tenure start.config.nodeId).Rises tenure)
    (meets : result.Meets (fun _ => True)
      (fun _ => Candid (world.raised start.config.nodeId tenure) start)
      (Candid (world.raised start.config.nodeId tenure) start)) :
    result.Meets (fun _ => True) (fun _ => Raised world start) (Raised world start) := by
  cases result with
  | done value after => exact ⟨tenure, rises, meets⟩
  | failed after => exact ⟨tenure, rises, meets⟩
  | trapped fault => trivial

/-- The step may raise the incarnation of the node. -/
abbrev Raises {α : Type} (world : World) (start : Swim) (act : Act α) : Prop :=
  Keeps (fun _ => True) (Raised world start) act

theorem Honest.raises {act : Act α} (honest : ∀ world, Honest world start act) :
    Raises world start act := by
  rintro swim ⟨tenure, rises, candid⟩
  exact meets_raised rises (honest _ swim candid)

/-- What is true in a world is true when the node has come to more, and it is candid then. -/
theorem Candid.rise (candid : Candid world start swim) {after : Swim} {tenure : Tenure}
    (rises : swim.tenure.Rises tenure)
    (same : after.speech = { swim.speech with tenure := tenure }) :
    Candid (world.raised start.config.nodeId tenure) start after := by
  have rises : (world.tenure start.config.nodeId).Rises tenure := candid.tenure ▸ rises
  rw [Candid, same]
  exact {
    config := candid.config
    placed := candid.placed
    tenure := Function.update_self ..
    table := fun nodeId member held => (candid.table nodeId member held).raised rises
    own := candid.own
    queue := fun entry listed => (candid.queue entry listed).raised rises
    outbox := fun outgoing listed event among =>
      (candid.outbox outgoing listed event among).raised rises
    undisputed := candid.undisputed
    final := candid.final }

theorem World.raised_raised (world : World) (nodeId : Nat) (tenure later : Tenure) :
    (world.raised nodeId tenure).raised nodeId later = world.raised nodeId later := by
  simp [World.raised]

theorem Raised.rise {tenure : Tenure}
    (rises : (world.tenure start.config.nodeId).Rises tenure)
    (raised : Raised (world.raised start.config.nodeId tenure) start swim) :
    Raised world start swim := by
  obtain ⟨later, rises', candid⟩ := raised
  rw [World.raised_raised] at candid
  refine ⟨later, rises.trans ?_, candid⟩
  simpa [World.raised] using rises'

theorem Raised.settled (raised : Raised world start swim) :
    (world.tenure start.config.nodeId).Rises swim.tenure ∧
      Candid (world.raised start.config.nodeId swim.tenure) start swim := by
  obtain ⟨tenure, rises, candid⟩ := raised
  have here : tenure = swim.tenure := (Function.update_self ..).symm.trans candid.tenure
  exact here ▸ ⟨rises, candid⟩

/-- A node is as candid when another one has come to more. -/
theorem Candid.others (candid : Candid world start swim) {tenure : Tenure}
    (other : nodeId ≠ start.config.nodeId) (rises : (world.tenure nodeId).Rises tenure) :
    Candid (world.raised nodeId tenure) start swim where
  config := candid.config
  placed := candid.placed
  tenure := (Function.update_of_ne other.symm _ _).trans candid.tenure
  table := fun nodeId member held => (candid.table nodeId member held).raised rises
  own := candid.own
  queue := fun entry listed => (candid.queue entry listed).raised rises
  outbox := fun outgoing listed event among =>
    (candid.outbox outgoing listed event among).raised rises
  undisputed := candid.undisputed
  final := candid.final

/-- Whoever is told to be suspect or dead in its present incarnation takes the next one. -/
theorem Candid.handleSelfEvent (candid : Candid world start swim) (holds : event.Holds world)
    (own : event.nodeId = start.config.nodeId) :
    (handleSelfEvent event swim).Meets (fun _ => True) (fun _ => Raised world start)
      (Raised world start) := by
  rw [Swim.handleSelfEvent, self_bind]
  apply meets_ite
  · exact fun _ => candid.raised
  intro stays
  have below : event.incarnation ≤ swim.incarnation := by
    have below := holds.incarnation
    rw [own, candid.tenure] at below
    exact below
  have health : Honest world start (when (event.status ≠ .alive) penalizeHealth) :=
    Keeps.when fun _ => honest_penalizeHealth
  refine meets_bind (meets_mono (health swim candid) (fun _ _ => id) ?_ fun _ => id) ?_
  · exact fun _ kept => kept.raised
  intro _ next kept
  have same : next.tenure = swim.tenure := kept.tenure.symm.trans candid.tenure
  apply meets_when
  · intro accused
    apply meets_require (.inl trivial)
    intro _
    rw [modify_bind, self_bind]
    have stays : next.hasLeft = false := by
      rw [show next.hasLeft = swim.hasLeft from congrArg Tenure.left same]
      simpa using stays
    have lower : next.incarnation < event.incarnation + 1 := by
      rw [show next.incarnation = swim.incarnation from congrArg Tenure.incarnation same]
      split at accused <;> omega
    have rises : next.tenure.Rises ⟨event.incarnation + 1, next.hasLeft⟩ := .inr ⟨stays, lower⟩
    have risen : Candid (world.raised start.config.nodeId ⟨event.incarnation + 1, next.hasLeft⟩)
        start { next with incarnation := event.incarnation + 1 } := kept.rise rises rfl
    have said : (Swim.selfEvent { next with incarnation := event.incarnation + 1 } .alive).Holds
        (world.raised start.config.nodeId ⟨event.incarnation + 1, next.hasLeft⟩) :=
      risen.selfEvent (by simp [stays])
    exact meets_raised (kept.tenure ▸ rises) (honest_queueGossip said _ risen)
  · exact fun _ => kept.raised

/-- Whatever is true may be merged. -/
theorem raises_applyEventFrom {source : Option Nat} (holds : event.Holds world) :
    Raises world start (applyEventFrom now event source) := by
  rintro swim ⟨tenure, rises, candid⟩
  have holds := holds.raised rises
  by_cases own : event.nodeId = start.config.nodeId
  · have config : swim.config = start.config := candid.config
    have placed : swim.config.address = event.address := by
      rw [config, holds.address, own, candid.placed]
    have settled : noteIdentityConflict event.nodeId swim.config.address event.address swim =
        .done false swim := Faulty.ite_pos placed
    rw [applyEventFrom, self_bind, Faulty.ite_pos (config ▸ own), bind_done settled, Faulty.ite_neg (by simp)]
    apply meets_mono (candid.handleSelfEvent holds own)
    · exact fun _ _ raised => raised.rise rises
    · exact fun _ raised => raised.rise rises
    · exact fun _ => id
  · exact meets_raised rises (honest_applyEventFrom holds own swim candid)

/-- A datagram that says what is true, if it is authentic, may be heard. -/
theorem Candid.handleMessage {source : Address} {bytes : Bytes}
    (candid : Candid world start swim)
    (genuine : ∀ message, swim.authentic bytes = some message →
      ∀ event ∈ message.events, event.Holds world) :
    (handleMessage now source bytes swim).Meets (fun _ => True) (fun _ => Raised world start)
      (Raised world start) := by
  have received : ∃ taken next, receive bytes swim = .done taken next := by
    rw [receive_eq]
    cases swim.authentic bytes with
    | none => exact ⟨_, _, rfl⟩
    | some message =>
        simp only
        split
        · exact ⟨_, _, rfl⟩
        · split <;> exact ⟨_, _, rfl⟩
  obtain ⟨taken, next, received⟩ := received
  obtain ⟨⟨cache, rfl⟩, told⟩ := receive_done received
  have kept : Raised world start { swim with replayCache := cache } := candid.raised
  cases taken with
  | none =>
      rw [handleMessage_of_none received]
      exact kept
  | some message =>
      have holds := genuine message (told message rfl)
      rw [handleMessage_of_some received]
      have raises : Raises world start (actOn now source message) := by
        apply Keeps.bind Keeps.self
        intro _
        apply Keeps.ite (fun _ => Keeps.pure)
        intro _
        refine Keeps.bind (Keeps.each fun event listed => ?_) fun _ => ?_
        · exact raises_applyEventFrom (holds event listed)
        · exact Honest.raises fun _ => honest_answer
      exact raises _ kept

/-- A node that leaves says so with a new incarnation. -/
theorem Candid.leave (candid : Candid world start swim)
    (room : swim.hasLeft = false → swim.incarnation + 1 < 2 ^ 32) :
    (leave swim).Meets (fun _ => True) (fun _ => Raised world start) (Raised world start) := by
  rw [Swim.leave, self_bind]
  apply meets_ite
  · exact fun _ => candid.raised
  intro stays
  have stays : swim.hasLeft = false := by simpa using stays
  have small := Nat.mod_eq_of_lt (room stays)
  rw [modify_bind, self_bind, small]
  have rises : swim.tenure.Rises ⟨swim.incarnation + 1, true⟩ :=
    .inr ⟨stays, Nat.lt_succ_self swim.incarnation⟩
  have risen : Candid (world.raised start.config.nodeId ⟨swim.incarnation + 1, true⟩) start
      { swim with hasLeft := true, incarnation := swim.incarnation + 1 } := candid.rise rises rfl
  have said : (Swim.selfEvent { swim with hasLeft := true, incarnation := swim.incarnation + 1 }
      .left).Holds (world.raised start.config.nodeId ⟨swim.incarnation + 1, true⟩) :=
    risen.selfEvent (by simp)
  have here : world.tenure start.config.nodeId = swim.tenure := candid.tenure
  apply meets_raised (here ▸ rises)
  refine Keeps.bind (honest_queueGossip said) (fun _ => ?_) _ risen
  exact Keeps.each fun _ _ => honest_send

/-! ## How a node starts -/

theorem honest_joinSeed {address : Address} : Honest world start (joinSeed address) := by
  apply Keeps.bind honest_scaledProtocolPeriod
  intro _
  refine Keeps.bind ?_ fun _ => honest_sendSyncRequest
  exact honest_aside fun _ => rfl

/-- Of a peer it is said at first that it lives, and has not come to any incarnation. -/
theorem honest_addPeer {address : Address} (placed : address = world.address nodeId)
    (stays : (world.tenure nodeId).left = true → 0 < (world.tenure nodeId).incarnation)
    (open_ : ∀ member, start.table.get nodeId = some member → member.status ≠ .left) :
    Honest world start (addPeer nodeId address) := by
  intro swim candid
  have config : swim.config = start.config := candid.config
  have holds : (Event.mk nodeId .alive 0 address).Holds world := by
    refine ⟨placed, Nat.zero_le _, iff_of_false (by simp) ?_⟩
    rintro ⟨left, first⟩
    exact absurd (stays left) (first ▸ lt_irrefl _)
  rw [addPeer, self_bind]
  apply meets_ite
  · exact fun _ => candid
  intro other
  apply meets_bind (candid.upsert holds (config ▸ other) open_)
  exact fun _ => honest_notifyListener

theorem get_blank {config : Config} {mac : Mac} {random : Nat → Nat} {memory : Nat → Bool} :
    (blank config mac random memory).table.get nodeId = none := by
  simp [Table.get, blank, Slot.published]

/-- A node that has been set up says of itself that it lives. -/
theorem init_candid {config : Config} {mac : Mac} {random : Nat → Nat} {memory : Nat → Bool}
    (starts : init config mac random memory = some swim)
    (placed : world.address config.nodeId = config.address)
    (fresh : world.tenure config.nodeId = ⟨0, false⟩) :
    Candid world (blank config mac random memory) swim := by
  obtain ⟨-, value, queued⟩ := init_eq_some.mp starts
  have candid : Candid world (blank config mac random memory)
      (blank config mac random memory) := {
    config := rfl
    placed := placed
    tenure := fresh
    table := fun nodeId member held => by
      have none_ := @get_blank nodeId config mac random memory
      cases none_.symm.trans held
    own := @get_blank config.nodeId config mac random memory
    queue := by simp [blank, speech]
    outbox := by simp [blank, speech]
    undisputed := rfl
    final := fun _ _ known _ => known }
  have said : ((blank config mac random memory).selfEvent .alive).Holds world :=
    candid.selfEvent (by simp [blank])
  have kept := honest_queueGossip said _ candid
  rwa [queued] at kept

/-- What is candid since one state is candid since a later one. -/
theorem Candid.since (candid : Candid world start swim) : Candid world swim swim := by
  have config : swim.config = start.config := candid.config
  exact {
    config := rfl
    placed := config ▸ candid.placed
    tenure := config ▸ candid.tenure
    table := candid.table
    own := config ▸ candid.own
    queue := candid.queue
    outbox := candid.outbox
    undisputed := candid.undisputed
    final := fun _ _ known _ => known }

end Swim

end LyuneGateway.Membership
