import LyuneGateway.Membership.Standing

/-!
# The queue of events stays supplied

An event takes the place of the older one about the same node, picking takes a
transmit from each entry at most once, and what has none left goes. So sending a
message keeps what the protocol keeps.
-/

namespace LyuneGateway.Membership

open Faulty

section Removal

variable {α : Type} {items : List α} {places : List Nat} {index : Nat}

theorem swapRemove_perm (inside : index < items.length) :
    (swapRemove items index).Perm (items.eraseIdx index) := by
  obtain ⟨init, last, rfl⟩ : ∃ init last, items = init ++ [last] := by
    refine ⟨items.dropLast, items.getLast (List.ne_nil_of_length_pos (by omega)), ?_⟩
    exact (List.dropLast_append_getLast _).symm
  rw [List.length_append, List.length_singleton] at inside
  simp only [swapRemove, List.getLast?_append, List.getLast?_singleton, Option.some_or]
  by_cases before : index < init.length
  · rw [List.set_append_left _ _ before, List.dropLast_concat,
      List.eraseIdx_append_of_lt_length before]
    exact (List.set_perm_cons_eraseIdx before last).trans (List.perm_append_singleton _ _).symm
  · obtain rfl : index = init.length := by omega
    simp [List.eraseIdx_append_of_length_le]

theorem take_swapRemove {index : Nat} (inside : index < items.length) :
    (swapRemove items index).take index = items.take index := by
  unfold swapRemove
  rw [List.getLast?_eq_getLast_of_ne_nil (List.ne_nil_of_length_pos (by omega))]
  apply List.ext_getElem?
  intro place
  by_cases before : place < index
  · simp only [List.getElem?_take, before, if_true, List.getElem?_dropLast, List.length_set,
      List.getElem?_set]
    rw [if_pos (by omega), if_neg (by omega)]
  · simp [before]

/-- What stands from the position on is what stood behind it. -/
theorem drop_swapRemove {index : Nat} (inside : index < items.length) :
    ((swapRemove items index).drop index).Perm (items.drop (index + 1)) := by
  have perm := swapRemove_perm inside
  rw [← List.take_append_drop index (swapRemove items index), take_swapRemove inside,
    List.eraseIdx_eq_take_drop_succ] at perm
  exact (List.perm_append_left_iff _).mp perm

/-- The places that are not among the given ones. -/
def otherPlaces (items : List α) (places : List Nat) : List Nat :=
  (List.range items.length).filter fun place => place ∉ places

theorem mem_otherPlaces {place : Nat} :
    place ∈ otherPlaces items places ↔ place < items.length ∧ place ∉ places := by
  simp [otherPlaces]

end Removal

namespace Swim

variable {entry other : GossipEntry} {queue : List GossipEntry} {picked : List Nat}

/-! ## One event for each node -/

def nodes (queue : List GossipEntry) : List Nat := queue.map fun entry => entry.event.nodeId

theorem mem_enqueue (listed : other ∈ enqueue entry queue) : other = entry ∨ other ∈ queue := by
  induction queue with
  | nil => exact .inl (List.mem_singleton.mp listed)
  | cons first queue ih =>
      rw [enqueue] at listed
      split at listed
      · exact (List.mem_cons.mp listed).imp_right (List.mem_cons_of_mem first)
      · obtain rfl | listed := List.mem_cons.mp listed
        · exact .inr List.mem_cons_self
        · exact (ih listed).imp_right (List.mem_cons_of_mem first)

theorem mem_nodes_enqueue {nodeId : Nat} (listed : nodeId ∈ nodes (enqueue entry queue)) :
    nodeId = entry.event.nodeId ∨ nodeId ∈ nodes queue := by
  obtain ⟨other, among, rfl⟩ := List.mem_map.mp listed
  obtain rfl | listed := mem_enqueue among
  · exact .inl rfl
  · exact .inr (List.mem_map_of_mem listed)

theorem nodup_enqueue (distinct : (nodes queue).Nodup) : (nodes (enqueue entry queue)).Nodup := by
  induction queue with
  | nil => exact List.nodup_singleton _
  | cons first queue ih =>
      obtain ⟨absent, distinct⟩ := List.nodup_cons.mp distinct
      rw [enqueue]
      split
      · rename_i same
        refine List.nodup_cons.mpr ⟨?_, distinct⟩
        change entry.event.nodeId ∉ nodes queue
        rwa [← same]
      · rename_i differ
        refine List.nodup_cons.mpr ⟨fun listed => ?_, ih distinct⟩
        exact (mem_nodes_enqueue listed).elim differ absent

end Swim

theorem Supplied.enqueue {entry : GossipEntry} {queue : List GossipEntry} (supplied : Supplied queue) (positive : 0 < entry.transmitsLeft) :
    Supplied (Swim.enqueue entry queue) where
  distinct := Swim.nodup_enqueue supplied.distinct
  transmits other listed := by
    obtain rfl | listed := Swim.mem_enqueue listed
    · exact positive
    · exact supplied.transmits other listed

namespace Swim

variable {queue : List GossipEntry} {picked : List Nat}

/-! ## Picking takes what has the most transmits left -/

/-- How often the event at a position may still be sent. -/
def left (queue : List GossipEntry) (place : Nat) : Nat :=
  (queue[place]?.map GossipEntry.transmitsLeft).getD 0

/-- The search goes through positions and keeps the best. -/
def better (queue : List GossipEntry) (best : Option Nat) (index : Nat) : Option Nat :=
  match best with
  | none => some index
  | some found => if left queue found < left queue index then some index else some found

theorem best_eq (queue : List GossipEntry) (picked : List Nat) :
    best queue picked = (otherPlaces queue picked).foldl (better queue) none := rfl

theorem foldl_better (queue : List GossipEntry) (places : List Nat) (start : Nat) :
    ∃ found, places.foldl (better queue) (some start) = some found ∧
      (found = start ∨ found ∈ places) ∧ left queue start ≤ left queue found ∧
      ∀ place ∈ places, left queue place ≤ left queue found := by
  induction places generalizing start with
  | nil => exact ⟨start, rfl, .inl rfl, le_rfl, nofun⟩
  | cons first places ih =>
      rw [List.foldl_cons, better]
      split
      · rename_i more
        obtain ⟨found, same, among, bound, most⟩ := ih first
        refine ⟨found, same, .inr ?_, by omega, List.forall_mem_cons.mpr ⟨bound, most⟩⟩
        exact List.mem_cons.mpr among
      · rename_i enough
        obtain ⟨found, same, among, bound, most⟩ := ih start
        refine ⟨found, same, among.imp_right (List.mem_cons_of_mem first), bound,
          List.forall_mem_cons.mpr ⟨by omega, most⟩⟩

/-- Something is found as long as not everything has been picked, and nothing else has more. -/
theorem best_spec (queue : List GossipEntry) (picked : List Nat) :
    (best queue picked = none ∧ otherPlaces queue picked = []) ∨
      ∃ found, best queue picked = some found ∧ found ∈ otherPlaces queue picked ∧
        ∀ place ∈ otherPlaces queue picked, left queue place ≤ left queue found := by
  rw [best_eq]
  cases otherPlaces queue picked with
  | nil => exact .inl ⟨rfl, rfl⟩
  | cons first places =>
      obtain ⟨found, same, among, bound, most⟩ := foldl_better queue places first
      exact .inr ⟨found, same, List.mem_cons.mpr among, List.forall_mem_cons.mpr ⟨bound, most⟩⟩

/-- The entries that have not been picked have transmits left. -/
structure Unspent (picked : List Nat) (queue : List GossipEntry) : Prop where
  distinct : (nodes queue).Nodup
  transmits : ∀ index entry, queue[index]? = some entry → index ∉ picked → 0 < entry.transmitsLeft

theorem best_free {index : Nat} (found : best queue picked = some index) : index ∉ picked := by
  rcases best_spec queue picked with ⟨nothing, -⟩ | ⟨index', found', free, -⟩
  · cases found.symm.trans nothing
  · cases found.symm.trans found'
    exact (mem_otherPlaces.mp free).2

theorem Unspent.spend {index : Nat} (unspent : Unspent picked queue) :
    Unspent (picked ++ [index]) (spend queue index) where
  distinct := by
    have same : nodes (Swim.spend queue index) = nodes queue := by
      unfold nodes Swim.spend
      apply List.ext_getElem?
      intro place
      simp only [List.getElem?_map, List.getElem?_modify]
      split <;> cases queue[place]? <;> rfl
    rw [same]
    exact unspent.distinct
  transmits place entry held free := by
    rw [List.mem_append, not_or, List.mem_singleton] at free
    simp only [Swim.spend, List.getElem?_modify, if_neg (Ne.symm free.2)] at held
    exact unspent.transmits place entry (by simpa using held) free.1

/-- No transmit is taken from an entry that has none. -/
theorem pick_meets {trap : Fault → Prop} (want : Nat) (swim : Swim)
    (unspent : Unspent picked swim.gossipQueue) :
    (pick want picked swim).Meets trap
      (fun _ after => after.view = swim.view ∧ (nodes after.gossipQueue).Nodup) fun _ => False := by
  induction want generalizing picked swim with
  | zero => exact ⟨rfl, unspent.distinct⟩
  | succ want ih =>
      rw [pick, read_bind]
      cases found : best swim.gossipQueue picked with
      | none => exact ⟨rfl, unspent.distinct⟩
      | some index =>
          simp only
          cases held : swim.gossipQueue[index]? with
          | none => exact ⟨rfl, unspent.distinct⟩
          | some entry =>
              have left := unspent.transmits index entry held (best_free found)
              simp only [require_bind left, modify_bind]
              apply meets_bind (ih _ unspent.spend)
              exact fun _ _ => id

/-- What is discarded is what has no transmits left. -/
theorem discard_perm (count : Nat) (queue : List GossipEntry) :
    (discard count queue).Perm
      (((queue.take count).filter fun entry => 0 < entry.transmitsLeft) ++ queue.drop count) := by
  induction count generalizing queue with
  | zero => simp [discard]
  | succ index ih =>
      rw [discard]
      refine (ih _).trans ?_
      by_cases inside : index < queue.length
      · have held := List.getElem?_eq_getElem inside
        rw [List.take_add_one, held, Option.any_some, Option.toList_some, List.filter_append]
        by_cases empty : queue[index].transmitsLeft = 0
        · rw [if_pos (by simpa using empty), take_swapRemove inside,
            List.filter_singleton, decide_eq_false (by omega), cond_false, List.append_nil]
          exact (drop_swapRemove inside).append_left _
        · rw [if_neg (by simpa using empty), List.drop_eq_getElem_cons inside,
            List.filter_singleton, decide_eq_true (by omega), cond_true, List.append_assoc]
          rfl
      · have beyond : queue.length ≤ index := Nat.not_lt.mp inside
        rw [List.getElem?_eq_none beyond, if_neg (by simp), List.take_of_length_le beyond,
          List.take_of_length_le (by omega), List.drop_eq_nil_of_le beyond,
          List.drop_eq_nil_of_le (by omega)]

theorem discard_supplied (count : Nat) (distinct : (nodes queue).Nodup)
    (rest : ∀ entry ∈ queue.drop count, 0 < entry.transmitsLeft) :
    Supplied (discard count queue) := by
  have perm := discard_perm count queue
  constructor
  · have fewer : (((queue.take count).filter fun entry => 0 < entry.transmitsLeft) ++
        queue.drop count).Sublist queue := by
      have sublist := (List.filter_sublist (p := fun entry : GossipEntry =>
        0 < entry.transmitsLeft) (l := queue.take count)).append_right (queue.drop count)
      rwa [List.take_append_drop] at sublist
    exact (perm.map _).nodup_iff.mpr (distinct.sublist (fewer.map _))
  · intro entry listed
    rcases List.mem_append.mp (perm.mem_iff.mp listed) with kept | behind
    · simpa using (List.mem_filter.mp kept).2
    · exact rest entry behind

variable {strict : Prop} {start : View}

theorem quiet_pickPiggyback : Quiet pickPiggyback := by
  rintro view swim ⟨rfl, supplied⟩
  rw [pickPiggyback, self_bind]
  have unspent : Unspent [] swim.gossipQueue := {
    distinct := supplied.distinct
    transmits := fun _ entry held _ => supplied.transmits entry (List.mem_of_getElem? held) }
  apply meets_bind (meets_sure (pick_meets _ swim unspent))
  rintro events after ⟨same, distinct⟩
  rw [modify_bind]
  exact ⟨same, discard_supplied _ distinct (by simp)⟩

theorem quiet_send {type : MessageType} {sender seq target : Nat} {recipient : Address} :
    Quiet (send type sender seq target recipient) :=
  quiet_pickPiggyback.bind fun _ => quiet_post

theorem kept_queueGossip (moderate : strict → start.config.Moderate) {event : Event} :
    Kept strict start (queueGossip event) := by
  intro swim stands
  rw [queueGossip]
  apply meets_bind (transmitLimit_meets moderate stands |> fun meets =>
    meets_sure meets)
  rintro transmits _ ⟨rfl, positive⟩
  rw [read_bind]
  apply meets_bind (Keeps.when (fun _ => quiet_allocate.kept) _ stands)
  intro _ after stands
  exact { stands with supplied := stands.supplied.enqueue positive }

end Swim

end LyuneGateway.Membership
