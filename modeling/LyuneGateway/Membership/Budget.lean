import LyuneGateway.Membership.Piggyback

/-!
# How often an event is sent

An event may be sent a number of times, which depends on the size of the cluster
when it is queued. Every message takes the events that have been sent least, and
each of them loses one of its transmits. So an event that no newer one about the
same node replaces is sent exactly as often as it may be.
-/

namespace LyuneGateway.Membership

open Faulty

/-- The entry after a message has taken its event. -/
def GossipEntry.spent (entry : GossipEntry) : GossipEntry :=
  { entry with transmitsLeft := entry.transmitsLeft - 1 }

@[simp] theorem GossipEntry.event_spent (entry : GossipEntry) : entry.spent.event = entry.event := rfl

section Places

variable {α : Type} {items : List α} {places : List Nat}

theorem filterMap_range (items : List α) :
    (List.range items.length).filterMap (items[·]?) = items := by
  induction items with
  | nil => rfl
  | cons first items ih =>
      have here : (first :: items)[0]? = some first := rfl
      rw [List.length_cons, List.range_succ_eq_map, List.filterMap_cons_some here,
        List.filterMap_map]
      exact congrArg (first :: ·) ih

/-- The items of a list are those at some places, and those at the others. -/
theorem perm_places (distinct : places.Nodup) (inside : ∀ place ∈ places, place < items.length) :
    items.Perm (places.filterMap (items[·]?) ++ (otherPlaces items places).filterMap (items[·]?)) := by
  have all : (List.range items.length).Perm (places ++ otherPlaces items places) := by
    refine (List.perm_ext_iff_of_nodup List.nodup_range ?_).mpr fun place => ?_
    · refine List.Nodup.append distinct (List.nodup_range.filter _) ?_
      intro place one other
      exact (mem_otherPlaces.mp other).2 one
    · rw [List.mem_append, mem_otherPlaces, List.mem_range]
      by_cases listed : place ∈ places
      · simp [listed, inside place listed]
      · simp [listed]
  have perm := all.filterMap (items[·]?)
  rwa [filterMap_range, List.filterMap_append] at perm

theorem length_places (inside : ∀ place ∈ places, place < items.length) :
    (places.filterMap (items[·]?)).length = places.length := by
  induction places with
  | nil => rfl
  | cons place places ih =>
      have held := List.getElem?_eq_getElem (inside place List.mem_cons_self)
      rw [List.filterMap_cons_some held, List.length_cons, List.length_cons,
        ih fun place listed => inside place (List.mem_cons_of_mem _ listed)]

end Places

namespace Swim

variable {queue : List GossipEntry} {picked places : List Nat}

theorem getElem?_spend (queue : List GossipEntry) (index place : Nat) :
    (spend queue index)[place]? =
      if index = place then queue[place]?.map GossipEntry.spent else queue[place]? := by
  rw [spend, List.getElem?_modify]
  split
  · rfl
  · simp

@[simp] theorem length_spend (queue : List GossipEntry) (index : Nat) :
    (spend queue index).length = queue.length := List.length_modify _ _ _

/-- Every position is picked once, and spent once. -/
theorem getElem?_spends (queue : List GossipEntry) (distinct : places.Nodup) (place : Nat) :
    (places.foldl spend queue)[place]? =
      if place ∈ places then queue[place]?.map GossipEntry.spent else queue[place]? := by
  induction places generalizing queue with
  | nil => simp
  | cons first places ih =>
      obtain ⟨fresh, distinct⟩ := List.nodup_cons.mp distinct
      rw [List.foldl_cons, ih _ distinct, getElem?_spend]
      by_cases here : first = place
      · subst here
        simp [fresh]
      · simp [here, Ne.symm here]

theorem length_spends (queue : List GossipEntry) (places : List Nat) :
    (places.foldl spend queue).length = queue.length := by
  induction places generalizing queue with
  | nil => rfl
  | cons first places ih => rw [List.foldl_cons, ih, length_spend]

theorem otherPlaces_spend (queue : List GossipEntry) (index : Nat) (picked : List Nat) :
    otherPlaces (spend queue index) picked = otherPlaces queue picked := by
  rw [otherPlaces, length_spend]
  rfl

theorem left_spend {index place : Nat} (other : index ≠ place) :
    left (spend queue index) place = left queue place := by
  rw [left, getElem?_spend, if_neg other]
  rfl

/-- What a message takes: positions that have not been picked before, as many as it wants, and none
of the positions that are left has more transmits than one of these. -/
structure Takes (queue : List GossipEntry) (picked : List Nat) (want : Nat) (places : List Nat) :
    Prop where
  distinct : places.Nodup
  fresh : ∀ place ∈ places, place ∈ otherPlaces queue picked
  many : places.length = min want (otherPlaces queue picked).length
  most : ∀ place ∈ places, ∀ other ∈ otherPlaces queue (picked ++ places),
    left queue other ≤ left queue place

/-- One position is taken first. -/
theorem Takes.cons {index want : Nat} (found : index ∈ otherPlaces queue picked)
    (most : ∀ place ∈ otherPlaces queue picked, left queue place ≤ left queue index)
    (takes : Takes (spend queue index) (picked ++ [index]) want places) :
    Takes queue picked (want + 1) (index :: places) := by
  have mem (place : Nat) : place ∈ otherPlaces queue (picked ++ [index]) ↔
      place ∈ otherPlaces queue picked ∧ index ≠ place := by
    simp only [mem_otherPlaces, List.mem_append, List.mem_singleton, not_or, and_assoc]
    exact and_congr_right fun _ => and_congr_right fun _ => ne_comm
  have others : otherPlaces (spend queue index) (picked ++ [index]) =
      otherPlaces queue (picked ++ [index]) := otherPlaces_spend queue index _
  have fresh (place : Nat) (taken : place ∈ places) :
      place ∈ otherPlaces queue picked ∧ index ≠ place :=
    (mem place).mp (others ▸ takes.fresh place taken)
  constructor
  · exact List.nodup_cons.mpr ⟨fun taken => (fresh index taken).2 rfl, takes.distinct⟩
  · exact List.forall_mem_cons.mpr ⟨found, fun place taken => (fresh place taken).1⟩
  · have fewer : (otherPlaces queue (picked ++ [index])).length =
        (otherPlaces queue picked).length - 1 := by
      have nodup : (otherPlaces queue picked).Nodup := List.nodup_range.filter _
      have nodup' : (otherPlaces queue (picked ++ [index])).Nodup := List.nodup_range.filter _
      rw [← List.length_erase_of_mem found]
      refine (List.perm_ext_iff_of_nodup nodup' (nodup.erase index)).mpr (fun place => ?_) |>.length_eq
      rw [mem, nodup.mem_erase_iff, and_comm, ne_comm]
    have some := List.length_pos_of_mem found
    rw [List.length_cons, takes.many, others, fewer]
    omega
  · have more (other : Nat) (unpicked : other ∈ otherPlaces queue (picked ++ index :: places)) :
        other ∈ otherPlaces queue picked ∧ index ≠ other ∧
          other ∈ otherPlaces (spend queue index) (picked ++ [index] ++ places) := by
      rw [List.append_assoc, List.singleton_append, otherPlaces_spend]
      refine ⟨?_, ?_, unpicked⟩
      · rw [mem_otherPlaces] at unpicked ⊢
        exact ⟨unpicked.1, fun listed => unpicked.2 (List.mem_append_left _ listed)⟩
      · rintro rfl
        rw [mem_otherPlaces] at unpicked
        exact unpicked.2 (List.mem_append_right _ List.mem_cons_self)
    refine List.forall_mem_cons.mpr ⟨fun other unpicked => most other (more other unpicked).1,
      fun place taken other unpicked => ?_⟩
    obtain ⟨_, differs, still⟩ := more other unpicked
    have bound := takes.most place taken other still
    rwa [left_spend differs, left_spend (fresh place taken).2] at bound

/-- The event at a position of the queue. -/
def eventsAt (queue : List GossipEntry) (places : List Nat) : List Event :=
  (places.filterMap (queue[·]?)).map GossipEntry.event

theorem eventsAt_spend {index : Nat} (queue : List GossipEntry) (places : List Nat) :
    eventsAt (spend queue index) places = eventsAt queue places := by
  unfold eventsAt
  rw [List.map_filterMap, List.map_filterMap]
  congr 1
  funext place
  rw [getElem?_spend]
  split
  · cases queue[place]? <;> rfl
  · rfl

/-- Picking never fails, and takes what it should. -/
theorem pick_takes (want : Nat) (swim : Swim) (unspent : Unspent picked swim.gossipQueue) :
    ∃ places, Takes swim.gossipQueue picked want places ∧
      pick want picked swim = .done (eventsAt swim.gossipQueue places)
        { swim with gossipQueue := places.foldl spend swim.gossipQueue } := by
  induction want generalizing picked swim with
  | zero =>
      refine ⟨[], ⟨List.nodup_nil, nofun, by simp, nofun⟩, rfl⟩
  | succ want ih =>
      rw [pick, read_bind]
      rcases best_spec swim.gossipQueue picked with ⟨nothing, none⟩ | ⟨index, found, free, most⟩
      · refine ⟨[], ⟨List.nodup_nil, nofun, by simp [none], nofun⟩, ?_⟩
        simp only [nothing]
        rfl
      · obtain ⟨inside, unpicked⟩ := mem_otherPlaces.mp free
        have held := List.getElem?_eq_getElem inside
        have positive := unspent.transmits index _ held unpicked
        obtain ⟨places, takes, rest⟩ :=
          ih { swim with gossipQueue := spend swim.gossipQueue index } unspent.spend
        refine ⟨index :: places, takes.cons free most, ?_⟩
        simp only [found, held]
        rw [require_bind positive, modify_bind, bind_done rest, eventsAt_spend, pure_apply]
        simp only [eventsAt, List.filterMap_cons_some held, List.map_cons, List.foldl_cons]

/-- What a message leaves in the queue: the entries it takes are spent, the others stay, and what
has no transmits left goes. -/
structure Drains (before : List GossipEntry) (want : Nat) (taken others : List GossipEntry)
    (after : List GossipEntry) : Prop where
  parts : before.Perm (taken ++ others)
  many : taken.length = min want before.length
  most : ∀ entry ∈ taken, ∀ other ∈ others, other.transmitsLeft ≤ entry.transmitsLeft
  rest : after.Perm ((taken.map GossipEntry.spent ++ others).filter fun entry =>
    0 < entry.transmitsLeft)

theorem Takes.drains {want : Nat} (takes : Takes queue [] want places) :
    Drains queue want (places.filterMap (queue[·]?))
      ((otherPlaces queue places).filterMap (queue[·]?))
      (discard queue.length (places.foldl spend queue)) := by
  have inside : ∀ place ∈ places, place < queue.length := fun place taken =>
    (mem_otherPlaces.mp (takes.fresh place taken)).1
  have all : otherPlaces queue [] = List.range queue.length := by simp [otherPlaces]
  constructor
  · exact perm_places takes.distinct inside
  · rw [length_places inside, takes.many, all, List.length_range]
  · intro entry taken other unpicked
    obtain ⟨place, listed, held⟩ := List.mem_filterMap.mp taken
    obtain ⟨spare, listed', held'⟩ := List.mem_filterMap.mp unpicked
    have bound := takes.most place listed spare listed'
    simpa only [left, held, held', Option.map_some, Option.getD_some] using bound
  · have size := length_spends queue places
    have perm := discard_perm queue.length (places.foldl spend queue)
    rw [List.take_of_length_le size.le, List.drop_eq_nil_of_le size.le, List.append_nil] at perm
    refine perm.trans (List.Perm.filter _ ?_)
    have split : (places.foldl spend queue).Perm
        (places.filterMap ((places.foldl spend queue)[·]?) ++
          (otherPlaces (places.foldl spend queue) places).filterMap
            ((places.foldl spend queue)[·]?)) :=
      perm_places takes.distinct (by rwa [size])
    refine split.trans (List.Perm.append ?_ ?_)
    · rw [List.map_filterMap]
      refine List.Perm.of_eq (List.filterMap_congr fun place taken => ?_)
      rw [getElem?_spends queue takes.distinct, if_pos taken]
    · have same : otherPlaces (places.foldl spend queue) places = otherPlaces queue places := by
        rw [otherPlaces, size]
        rfl
      rw [same]
      refine List.Perm.of_eq (List.filterMap_congr fun place unpicked => ?_)
      rw [getElem?_spends queue takes.distinct, if_neg (mem_otherPlaces.mp unpicked).2]

theorem pickPiggyback_drains (swim : Swim) (supplied : Supplied swim.gossipQueue) :
    ∃ taken others after, Drains swim.gossipQueue swim.config.params.maxPiggyback taken others after ∧
      pickPiggyback swim = .done (taken.map GossipEntry.event) { swim with gossipQueue := after } := by
  have unspent : Unspent [] swim.gossipQueue := {
    distinct := supplied.distinct
    transmits := fun _ entry held _ => supplied.transmits entry (List.mem_of_getElem? held) }
  obtain ⟨places, takes, answer⟩ :=
    pick_takes (min swim.config.params.maxPiggyback swim.gossipQueue.length) swim unspent
  have drains := takes.drains
  refine ⟨_, _, _, { drains with many := ?_ }, ?_⟩
  · rw [drains.many]
    omega
  · rw [pickPiggyback, self_bind, bind_done answer, modify_bind, pure_apply, length_spends]
    rfl

/-! ## The queue keeps account of what has been sent -/

/-- How often an event that is queued now may be sent. -/
def limit (swim : Swim) : Nat := swim.config.params.retransmitMult * swim.logScale

/-- What a call has done. -/
inductive Occurrence where
  | queued (event : Event) (limit : Nat)
  | sent (events : List Event)
  deriving DecidableEq

/-- The log of the calls that have been made of a node whose queue was empty. Between them anything
may happen to the node but to its queue and its configuration; so its table may be of any size. -/
inductive History : Swim → List Occurrence → Prop where
  | start {swim : Swim} (valid : swim.config.params.validate = true)
      (empty : swim.gossipQueue = []) : History swim []
  | drift {before after : Swim} {log : List Occurrence} (history : History before log)
      (queue : after.gossipQueue = before.gossipQueue) (config : after.config = before.config) :
      History after log
  | queues {before after : Swim} {log : List Occurrence} {event : Event}
      (history : History before log) (answer : queueGossip event before = .done () after) :
      History after (log ++ [.queued event before.limit])
  | picks {before after : Swim} {log : List Occurrence} {events : List Event}
      (history : History before log) (answer : pickPiggyback before = .done events after) :
      History after (log ++ [.sent events])

/-- Another event about the node of the event is queued. -/
def Occurrence.Supersedes (event : Event) : Occurrence → Prop
  | queued later _ => later.nodeId = event.nodeId
  | sent _ => False

def Occurrence.carries (event : Event) : Occurrence → Bool
  | queued _ _ => false
  | sent events => events.contains event

/-- How many messages have taken the event. -/
def frames (event : Event) (log : List Occurrence) : Nat := log.countP (Occurrence.carries event)

theorem frames_append (event : Event) (log : List Occurrence) (last : Occurrence) :
    frames event (log ++ [last]) = frames event log + if last.carries event then 1 else 0 := by
  rw [frames, List.countP_append, List.countP_singleton]
  rfl

/-- The event waits with what is left of its transmits, or it has gone with the last of them. -/
def Paid (queue : List GossipEntry) (event : Event) (limit sent : Nat) : Prop :=
  (sent < limit ∧ ⟨event, limit - sent⟩ ∈ queue) ∨ (sent = limit ∧ event.nodeId ∉ nodes queue)

/-- The queue agrees with the log about every event that has not been replaced. -/
structure Accounted (queue : List GossipEntry) (log : List Occurrence) : Prop where
  supplied : Supplied queue
  paid : ∀ before event limit after, log = before ++ .queued event limit :: after →
    (∀ later ∈ after, ¬ later.Supersedes event) → Paid queue event limit (frames event after)
  single : ∀ events, .sent events ∈ log → (events.map Event.nodeId).Nodup

/-- The last thing in a log comes after everything else. -/
theorem log_cases {log before after : List Occurrence} {last : Occurrence} {event : Event}
    {limit : Nat} (split : log ++ [last] = before ++ .queued event limit :: after) :
    (after = [] ∧ last = .queued event limit ∧ log = before) ∨
      ∃ earlier, after = earlier ++ [last] ∧ log = before ++ .queued event limit :: earlier := by
  rcases List.eq_nil_or_concat after with rfl | ⟨earlier, other, rfl⟩
  · obtain ⟨same, ends⟩ := List.append_inj' split rfl
    exact .inl ⟨rfl, (List.cons.inj ends).1, same⟩
  · rw [List.concat_eq_append, ← List.cons_append, ← List.append_assoc] at split
    obtain ⟨same, ends⟩ := List.append_inj' split rfl
    obtain rfl := (List.cons.inj ends).1
    exact .inr ⟨earlier, List.concat_eq_append, same⟩

theorem entry_unique {entry other : GossipEntry} (distinct : (nodes queue).Nodup)
    (listed : entry ∈ queue) (listed' : other ∈ queue)
    (same : entry.event.nodeId = other.event.nodeId) : entry = other :=
  List.inj_on_of_nodup_map distinct listed listed' same

theorem mem_enqueue_self (entry : GossipEntry) (queue : List GossipEntry) :
    entry ∈ enqueue entry queue := by
  induction queue with
  | nil => exact List.mem_singleton_self entry
  | cons first queue ih =>
      rw [enqueue]
      split
      · exact List.mem_cons_self
      · exact List.mem_cons_of_mem first ih

/-- An event about another node stays as it is. -/
theorem mem_enqueue_other {entry other : GossipEntry} (listed : other ∈ queue)
    (differs : other.event.nodeId ≠ entry.event.nodeId) : other ∈ enqueue entry queue := by
  induction queue with
  | nil => cases listed
  | cons first queue ih =>
      rw [enqueue]
      split
      · rename_i same
        obtain rfl | listed := List.mem_cons.mp listed
        · exact absurd same differs
        · exact List.mem_cons_of_mem entry listed
      · obtain rfl | listed := List.mem_cons.mp listed
        · exact List.mem_cons_self
        · exact List.mem_cons_of_mem first (ih listed)

theorem Accounted.queues {log : List Occurrence} (accounted : Accounted queue log) (event : Event)
    {limit : Nat} (positive : 0 < limit) :
    Accounted (enqueue ⟨event, limit⟩ queue) (log ++ [.queued event limit]) where
  supplied := accounted.supplied.enqueue positive
  single events listed := by
    obtain listed | ended := List.mem_append.mp listed
    · exact accounted.single events listed
    · cases List.mem_singleton.mp ended
  paid before other bound after split current := by
    rcases log_cases split with ⟨rfl, same, rfl⟩ | ⟨earlier, rfl, rfl⟩
    · cases same
      exact .inl ⟨positive, mem_enqueue_self _ _⟩
    · have differs : event.nodeId ≠ other.nodeId :=
        current (.queued event limit) (List.mem_append_right _ List.mem_cons_self)
      have paid := accounted.paid before other bound earlier rfl fun later listed =>
        current later (List.mem_append_left _ listed)
      rw [frames_append]
      refine paid.imp (fun ⟨less, waits⟩ => ⟨less, mem_enqueue_other waits differs.symm⟩)
        fun ⟨all, gone⟩ => ⟨all, fun listed => ?_⟩
      exact (mem_nodes_enqueue listed).elim differs.symm gone

section Draining

variable {want : Nat} {taken others after : List GossipEntry} {entry : GossipEntry}

theorem Drains.mem_after (drains : Drains queue want taken others after) :
    entry ∈ after ↔
      0 < entry.transmitsLeft ∧ ((∃ old ∈ taken, old.spent = entry) ∨ entry ∈ others) := by
  rw [drains.rest.mem_iff, List.mem_filter, List.mem_append, List.mem_map, decide_eq_true_eq,
    and_comm]

theorem Drains.nodup (drains : Drains queue want taken others after)
    (distinct : (nodes queue).Nodup) : (nodes (taken ++ others)).Nodup :=
  (drains.parts.map fun entry : GossipEntry => entry.event.nodeId).nodup_iff.mp distinct

theorem Drains.supplied (drains : Drains queue want taken others after)
    (distinct : (nodes queue).Nodup) : Supplied after where
  distinct := by
    have same : nodes (taken.map GossipEntry.spent ++ others) = nodes (taken ++ others) := by
      simp [nodes]
    have perm := drains.rest.map fun entry => entry.event.nodeId
    refine perm.nodup_iff.mpr ((same ▸ drains.nodup distinct).sublist ?_)
    exact List.filter_sublist.map _
  transmits entry listed := (drains.mem_after.mp listed).1

/-- No entry about a node stays if the only one was taken with its last transmit. -/
theorem Drains.gone (drains : Drains queue want taken others after)
    (distinct : (nodes queue).Nodup) {nodeId : Nat}
    (last : ∀ entry ∈ queue, entry.event.nodeId = nodeId → entry ∈ taken ∧ entry.transmitsLeft = 1) :
    nodeId ∉ nodes after := by
  intro listed
  obtain ⟨entry, stays, rfl⟩ := List.mem_map.mp listed
  obtain ⟨positive, ⟨old, old_taken, rfl⟩ | spare⟩ := drains.mem_after.mp stays
  · have among : old ∈ queue := drains.parts.mem_iff.mpr (List.mem_append_left _ old_taken)
    have one := (last old among rfl).2
    simp [GossipEntry.spent, one] at positive
  · have among : entry ∈ queue := drains.parts.mem_iff.mpr (List.mem_append_right _ spare)
    have both : (nodes taken ++ nodes others).Nodup := by
      have nodup := drains.nodup distinct
      rwa [nodes, List.map_append] at nodup
    exact (List.nodup_append.mp both).2.2 _ (List.mem_map_of_mem (last entry among rfl).1) _
      (List.mem_map_of_mem spare) rfl

theorem Paid.drained (drains : Drains queue want taken others after)
    (distinct : (nodes queue).Nodup) {event : Event} {limit sent : Nat}
    (paid : Paid queue event limit sent) :
    Paid after event limit
      (sent + if (taken.map GossipEntry.event).contains event then 1 else 0) := by
  rcases paid with ⟨less, waits⟩ | ⟨all, absent⟩
  · have only (entry : GossipEntry) (listed : entry ∈ queue)
        (same : entry.event.nodeId = event.nodeId) : entry = ⟨event, limit - sent⟩ :=
      entry_unique distinct listed waits same
    have parts := drains.parts.mem_iff.mp waits
    by_cases chosen : (⟨event, limit - sent⟩ : GossipEntry) ∈ taken
    · rw [if_pos (by simpa using ⟨_, chosen, rfl⟩)]
      rcases Nat.lt_or_ge (sent + 1) limit with more | last
      · refine .inl ⟨more, drains.mem_after.mpr ⟨?_, .inl ⟨_, chosen, ?_⟩⟩⟩
        · exact Nat.sub_pos_of_lt more
        · simp only [GossipEntry.spent, Nat.sub_sub]
      · refine .inr ⟨by omega, drains.gone distinct fun entry listed same => ?_⟩
        obtain rfl := only entry listed same
        exact ⟨chosen, show limit - sent = 1 by omega⟩
    · have spare := (List.mem_append.mp parts).resolve_left chosen
      rw [if_neg, Nat.add_zero]
      · refine .inl ⟨less, drains.mem_after.mpr ⟨Nat.sub_pos_of_lt less, .inr spare⟩⟩
      · intro carried
        obtain ⟨entry, listed, rfl⟩ : ∃ entry ∈ taken, entry.event = event := by
          simpa using carried
        have among : entry ∈ queue := drains.parts.mem_iff.mpr (List.mem_append_left _ listed)
        exact chosen (only entry among rfl ▸ listed)
  · rw [if_neg, Nat.add_zero]
    · exact .inr ⟨all, drains.gone distinct fun entry listed same =>
        absurd (List.mem_map.mpr ⟨entry, listed, same⟩) absent⟩
    · intro carried
      obtain ⟨entry, listed, rfl⟩ : ∃ entry ∈ taken, entry.event = event := by simpa using carried
      have among : entry ∈ queue := drains.parts.mem_iff.mpr (List.mem_append_left _ listed)
      exact absent (List.mem_map_of_mem among)

theorem Drains.single (drains : Drains queue want taken others after)
    (distinct : (nodes queue).Nodup) :
    ((taken.map GossipEntry.event).map Event.nodeId).Nodup := by
  rw [List.map_map]
  have nodup := drains.nodup distinct
  rw [nodes, List.map_append] at nodup
  exact (List.nodup_append.mp nodup).1

theorem Accounted.picks {log : List Occurrence} (accounted : Accounted queue log)
    (drains : Drains queue want taken others after) :
    Accounted after (log ++ [.sent (taken.map GossipEntry.event)]) where
  supplied := drains.supplied accounted.supplied.distinct
  single events listed := by
    obtain listed | ended := List.mem_append.mp listed
    · exact accounted.single events listed
    · cases List.mem_singleton.mp ended
      exact drains.single accounted.supplied.distinct
  paid before event bound later split current := by
    rcases log_cases split with ⟨rfl, same, rfl⟩ | ⟨earlier, rfl, rfl⟩
    · cases same
    · have paid := accounted.paid before event bound earlier rfl fun other listed =>
        current other (List.mem_append_left _ listed)
      rw [frames_append]
      exact paid.drained drains accounted.supplied.distinct

end Draining

/-! ## Every sequence of calls -/

theorem limit_pos {swim : Swim} (valid : swim.config.params.validate = true) : 0 < swim.limit :=
  Nat.mul_pos (validate_pos valid).2.2.2.1 (logScale_pos swim)

/-- An event is queued with its limit unless that is too large a number, or memory is refused. -/
theorem queueGossip_meets (event : Event) (swim : Swim) :
    (queueGossip event swim).Meets (fun _ => 2 ^ 32 ≤ swim.limit)
      (fun _ after => after.gossipQueue = enqueue ⟨event, swim.limit⟩ swim.gossipQueue ∧
        after.config = swim.config)
      fun after => after.gossipQueue = swim.gossipQueue ∧ after.config = swim.config := by
  rw [queueGossip]
  have limited : (transmitLimit swim).Meets (fun _ => 2 ^ 32 ≤ swim.limit)
      (fun transmits after => transmits = swim.limit ∧ after = swim) fun _ => False :=
    meets_require (Nat.lt_or_ge swim.limit (2 ^ 32)).symm fun _ => ⟨rfl, rfl⟩
  apply meets_bind (meets_sure limited)
  rintro transmits after ⟨rfl, rfl⟩
  rw [read_bind]
  have room : ((when (after.gossipQueue.all fun entry => entry.event.nodeId ≠ event.nodeId)
      allocate) after).Meets (fun _ => 2 ^ 32 ≤ after.limit)
      (fun _ later => later.gossipQueue = after.gossipQueue ∧ later.config = after.config)
      fun later => later.gossipQueue = after.gossipQueue ∧ later.config = after.config := by
    refine meets_when (fun _ => ?_) fun _ => ⟨rfl, rfl⟩
    unfold allocate
    dsimp only
    split <;> exact ⟨rfl, rfl⟩
  apply meets_bind room
  rintro _ later ⟨queue, config⟩
  exact ⟨congrArg (enqueue _) queue, config⟩

theorem History.accounted {swim : Swim} {log : List Occurrence} (history : History swim log) :
    swim.config.params.validate = true ∧ Accounted swim.gossipQueue log ∧
      ∀ events, .sent events ∈ log → events.length ≤ swim.config.params.maxPiggyback := by
  induction history with
  | start valid empty =>
      refine ⟨valid, ⟨⟨by simp [empty], by simp [empty]⟩, ?_, nofun⟩, nofun⟩
      intro before event limit after split
      simp at split
  | drift history queue config ih =>
      rw [queue, config]
      exact ih
  | @queues before after log event history answer ih =>
      obtain ⟨valid, accounted, few⟩ := ih
      have meets := queueGossip_meets event before
      rw [answer] at meets
      obtain ⟨queue, config⟩ := meets
      rw [queue, config]
      refine ⟨valid, accounted.queues event (limit_pos valid), fun events listed => ?_⟩
      obtain listed | ended := List.mem_append.mp listed
      · exact few events listed
      · cases List.mem_singleton.mp ended
  | @picks before after log events history answer ih =>
      obtain ⟨valid, accounted, few⟩ := ih
      obtain ⟨taken, others, queue, drains, same⟩ := pickPiggyback_drains before accounted.supplied
      rw [answer] at same
      cases same
      refine ⟨valid, accounted.picks drains, fun events listed => ?_⟩
      obtain listed | ended := List.mem_append.mp listed
      · exact few events listed
      · cases List.mem_singleton.mp ended
        rw [List.length_map, drains.many]
        exact Nat.min_le_left _ _

/-- An event that is not replaced is sent as often as it could be sent when it was queued, and then
leaves the queue. Every message takes what has the most transmits left, one event for each node and
no more than it may; none of the entries is ever out of transmits, so that taking one does not
fail. -/
theorem gossip_sent_exactly {swim : Swim} {log : List Occurrence} (history : History swim log) :
    (∀ before event limit after, log = before ++ .queued event limit :: after →
      (∀ later ∈ after, ¬ later.Supersedes event) →
      Paid swim.gossipQueue event limit (frames event after)) ∧
    (∀ events, .sent events ∈ log → (events.map Event.nodeId).Nodup ∧
      events.length ≤ swim.config.params.maxPiggyback) ∧
    (∀ entry ∈ swim.gossipQueue, 0 < entry.transmitsLeft) ∧
    (∃ taken others after,
      Drains swim.gossipQueue swim.config.params.maxPiggyback taken others after ∧
      pickPiggyback swim =
        .done (taken.map GossipEntry.event) { swim with gossipQueue := after }) ∧
    ∀ event : Event, (queueGossip event swim).Meets (fun _ => 2 ^ 32 ≤ swim.limit)
      (fun _ after => History after (log ++ [.queued event swim.limit]))
      fun after => History after log := by
  obtain ⟨valid, accounted, few⟩ := history.accounted
  refine ⟨accounted.paid, fun events sent => ⟨accounted.single events sent, few events sent⟩,
    accounted.supplied.transmits, pickPiggyback_drains swim accounted.supplied, fun event => ?_⟩
  have meets := queueGossip_meets event swim
  rcases answer : queueGossip event swim with ⟨⟨⟩, after⟩ | after | fault
  · exact history.queues answer
  · rw [answer] at meets
    exact history.drift meets.1 meets.2
  · rw [answer] at meets
    exact meets

/-- A node without others. -/
def alone : Swim where
  config := { nodeId := 1, address := .ip4 0x0a000001 7000 }
  mac := fun _ _ => []
  table := { capacity := 4 }
  nextSyncAt := 0
  random := fun _ => 0
  memory := fun _ => true

def greeting : Event := alone.selfEvent .alive

/-- The first message of the node leaves the event about itself three transmits of four. -/
theorem gossip_sent_exactly_alone :
    ∃ swim : Swim, History swim [.queued greeting 4, .sent [greeting]] ∧
      Paid swim.gossipQueue greeting 4 1 := by
  have four : alone.limit = 4 := by simp [limit, logScale, logScaleOf, alone]
  have fits : alone.config.params.retransmitMult * alone.logScale < 2 ^ 32 := by
    rw [show alone.config.params.retransmitMult * alone.logScale = 4 from four]
    decide
  have limited : transmitLimit alone = .done 4 alone := by
    rw [transmitLimit, self_bind, require_bind fits, pure_apply]
    exact congrArg (Outcome.done · alone) four
  have queued : queueGossip greeting alone =
      .done () { alone with gossipQueue := [⟨greeting, 4⟩], allocations := 1 } :=
    bind_done limited
  have begun : History { alone with gossipQueue := [⟨greeting, 4⟩], allocations := 1 }
      ([] ++ [.queued greeting alone.limit]) := .queues (.start rfl rfl) queued
  rw [four] at begun
  have history : History { alone with gossipQueue := [⟨greeting, 3⟩], allocations := 1 }
      ([] ++ [.queued greeting 4] ++ [.sent [greeting]]) := .picks begun rfl
  exact ⟨_, history, (gossip_sent_exactly history).1 [] greeting 4 [.sent [greeting]] rfl
    (by simp [Occurrence.Supersedes])⟩

end Swim

end LyuneGateway.Membership
