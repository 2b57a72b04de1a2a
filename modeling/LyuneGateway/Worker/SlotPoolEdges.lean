import LyuneGateway.Worker.SlotPool

/-!
# The edges of a slot pool

An edge that is taken lies in two chains, that of its group and that of its
connection; an edge that is not lies in the chain of free edges. Taking and giving
back an edge keep all three.
-/

namespace LyuneGateway.Worker.SlotPool

open Foundation Session

/-- The memberships with the places of their edges, the last to be taken first. -/
abbrev Held := List (Worker.Edge × Nat)

namespace Held

def members (held : Held) : List ((RealmId × UInt64) × Nat) :=
  held.map fun entry => ((entry.1.realm, .ofNat entry.1.groupId), entry.2)

def bySlot (held : Held) : List (Nat × Nat) := held.map fun entry => (entry.1.slot, entry.2)

/-- All memberships but the one at a place. -/
def drop (held : Held) (place : Nat) : Held := held.filter fun entry => entry.2 ≠ place

/-- The memberships of a slot. -/
def ofSlot (held : Held) (slotIndex : Nat) : Held :=
  held.filter fun entry => entry.1.slot = slotIndex

/-- The memberships of the other slots. -/
def others (held : Held) (slotIndex : Nat) : Held :=
  held.filter fun entry => entry.1.slot ≠ slotIndex

variable {held : Held} {edge : Worker.Edge} {place : Nat}

theorem cells_bySlot (held : Held) (slotIndex : Nat) :
    Chain.cells slotIndex held.bySlot = (held.ofSlot slotIndex).map Prod.snd := by
  simp [Chain.cells, bySlot, ofSlot, List.filter_map, Function.comp_def]

theorem members_drop (held : Held) (place : Nat) :
    (held.drop place).members = Chain.without place held.members := by
  simp [drop, members, Chain.without, List.filter_map, Function.comp_def]

theorem bySlot_drop (held : Held) (place : Nat) :
    (held.drop place).bySlot = Chain.without place held.bySlot := by
  simp [drop, bySlot, Chain.without, List.filter_map, Function.comp_def]

@[simp] theorem places_members (held : Held) : held.members.map Prod.snd = held.map Prod.snd := by
  simp [members]

@[simp] theorem places_bySlot (held : Held) : held.bySlot.map Prod.snd = held.map Prod.snd := by
  simp [bySlot]

@[simp] theorem length_members (held : Held) : held.members.length = held.length :=
  List.length_map _

@[simp] theorem length_bySlot (held : Held) : held.bySlot.length = held.length :=
  List.length_map _

theorem mem_members (listed : (edge, place) ∈ held) :
    ((edge.realm, UInt64.ofNat edge.groupId), place) ∈ held.members :=
  List.mem_map.mpr ⟨_, listed, rfl⟩

theorem mem_bySlot (listed : (edge, place) ∈ held) : (edge.slot, place) ∈ held.bySlot :=
  List.mem_map.mpr ⟨_, listed, rfl⟩

end Held

/-- What an edge records of a membership. -/
structure Records (stored : Edge) (edge : Worker.Edge) : Prop where
  realm : stored.realm = edge.realm
  groupId : stored.groupId.toNat = edge.groupId
  slot : stored.slot = edge.slot

theorem Records.key {stored : Edge} {edge : Worker.Edge} (records : Records stored edge) :
    UInt64.ofNat edge.groupId = stored.groupId := by
  rw [← records.groupId, UInt64.ofNat_toNat]

/-- The edges that are held lie in the chains of their groups and of their slots; all others are
free. -/
structure Threaded (groups : GroupIndex) (heads : Nat → Option Nat) (held : Held) : Prop where
  members : HeadTable.Chained groups.capacity groups.table
    (fun i => (groups.edges i).nextInGroup) held.members
  bySlot : Chain.Threads heads (fun i => (groups.edges i).nextOfSlot) held.bySlot
  records : ∀ entry ∈ held, Records (groups.edges entry.2) entry.1
  spare : ∃ spare, Chain.Links (fun i => (groups.edges i).nextFree) groups.freeHead spare ∧
    (spare ++ held.map Prod.snd).Perm (List.range groups.capacity)

/-- Nothing but group memberships differs. -/
def ConnectionManager.setGroups (pool : ConnectionManager) (heads : Nat → Option Nat)
    (groups : GroupIndex) (quota : Quota) : ConnectionManager :=
  { pool with
    slots := fun i => { pool.slots i with groupHead := heads i }
    groups := groups
    groupQuota := quota }

namespace Threaded

variable {groups : GroupIndex} {heads : Nat → Option Nat} {held : Held} {edge : Worker.Edge}
  {place : Nat}

theorem length_le (threaded : Threaded groups heads held) : held.length ≤ groups.capacity := by
  obtain ⟨spare, -, all⟩ := threaded.spare
  have lengths := all.length_eq
  simp only [List.length_append, List.length_map, List.length_range] at lengths
  omega

theorem once (threaded : Threaded groups heads held) : (held.map Prod.snd).Nodup :=
  held.places_bySlot ▸ threaded.bySlot.once

/-- A place has one membership. -/
theorem unique (threaded : Threaded groups heads held) {other : Worker.Edge}
    (listed : (edge, place) ∈ held) (also : (other, place) ∈ held) : edge = other :=
  congrArg Prod.fst (List.inj_on_of_nodup_map threaded.once listed also rfl)

/-- The memberships of a slot but the first. -/
theorem ofSlot_drop (threaded : Threaded groups heads held) {slotIndex : Nat} {more : Held}
    (first : held.ofSlot slotIndex = (edge, place) :: more) :
    (edge, place) ∈ held ∧ edge.slot = slotIndex ∧ (held.drop place).ofSlot slotIndex = more ∧
      (held.drop place).others slotIndex = held.others slotIndex := by
  have listed : (edge, place) ∈ held.ofSlot slotIndex := first ▸ List.mem_cons_self
  obtain ⟨there, own⟩ := List.mem_filter.mp listed
  simp only [decide_eq_true_eq] at own
  refine ⟨there, own, ?_, ?_⟩
  · have once : ((held.ofSlot slotIndex).map Prod.snd).Nodup :=
      threaded.once.sublist (List.filter_sublist.map _)
    have swap : (held.drop place).ofSlot slotIndex =
        (held.ofSlot slotIndex).filter fun entry => entry.2 ≠ place := by
      simp only [Held.drop, Held.ofSlot, List.filter_filter]
      exact List.filter_congr fun entry _ => Bool.and_comm _ _
    rw [first, List.map_cons, List.nodup_cons] at once
    rw [swap, first, List.filter_cons_of_neg (by simp), List.filter_eq_self]
    intro entry later
    simpa using ne_of_mem_of_not_mem (List.mem_map_of_mem later) once.1
  · simp only [Held.drop, Held.others, List.filter_filter]
    refine List.filter_congr fun entry also => ?_
    by_cases same : entry.2 = place
    · obtain rfl : edge = entry.1 := threaded.unique there (same ▸ also)
      simp [own]
    · simp [same]

theorem edges_drop (threaded : Threaded groups heads held) (once : (held.map Prod.fst).Nodup)
    (listed : (edge, place) ∈ held) :
    (held.drop place).map Prod.fst = (held.map Prod.fst).erase edge := by
  rw [once.erase_eq_filter, Held.drop, List.filter_map]
  congr 1
  refine List.filter_congr fun entry also => ?_
  have same : entry.2 = place ↔ entry.1 = edge := by
    constructor
    · rintro rfl
      exact (threaded.unique listed also).symm
    · rintro rfl
      exact congrArg Prod.snd (List.inj_on_of_nodup_map once also listed rfl)
  by_cases here : entry.1 = edge <;> simp [same, here]

/-- The place of an edge that is held is not among the free ones. -/
theorem spare_drop {spare : List Nat} {capacity : Nat}
    (all : (spare ++ held.map Prod.snd).Perm (List.range capacity))
    (listed : (edge, place) ∈ held) :
    place ∉ spare ∧ (place :: spare ++ (held.drop place).map Prod.snd).Perm (List.range capacity) := by
  have inside : place ∈ held.map Prod.snd := List.mem_map_of_mem listed
  have once : (spare ++ held.map Prod.snd).Nodup := all.nodup_iff.mpr List.nodup_range
  have apart := List.nodup_append.mp once
  refine ⟨fun free => apart.2.2 place free place inside rfl, ?_⟩
  have rest : (held.drop place).map Prod.snd = (held.map Prod.snd).erase place := by
    rw [apart.2.1.erase_eq_filter, Held.drop, List.filter_map]
    congr 1
    exact List.filter_congr fun entry _ => by by_cases same : entry.2 = place <;> simp [same]
  rw [rest, List.cons_append]
  refine ((List.perm_middle.symm.trans ?_).trans all)
  exact List.Perm.append_left spare (List.perm_cons_erase inside).symm

/-- There is a free edge unless all are held. -/
theorem freeHead_eq_none (threaded : Threaded groups heads held) :
    groups.freeHead = none ↔ groups.capacity ≤ held.length := by
  obtain ⟨spare, free, all⟩ := threaded.spare
  have lengths := all.length_eq
  simp only [List.length_append, List.length_map, List.length_range] at lengths
  cases spare with
  | nil => exact iff_of_true free (by simpa using lengths.ge)
  | cons place spare =>
      refine iff_of_false (by simp [free.1]) ?_
      simp only [List.length_cons] at lengths
      omega

end Threaded

namespace ConnectionManager

variable {pool : ConnectionManager} {held : Held} {edge : Worker.Edge} {place : Nat}

theorem setSlot_groupHead (slots : Nat → Slot) (slotIndex : Nat) (head : Option Nat) :
    Function.update slots slotIndex { slots slotIndex with groupHead := head } = fun i =>
      { slots i with
        groupHead := Function.update (fun i => (slots i).groupHead) slotIndex head i } := by
  funext i
  by_cases here : i = slotIndex
  · subst here
    simp
  · simp [here]

/-- The chain of the group loses an edge; the edge itself keeps its link. -/
theorem unlinkMember_eq {heads : Nat → Option Nat} (threaded : Threaded pool.groups heads held)
    (listed : (edge, place) ∈ held) :
    ∃ table next, pool.unlinkMember place = some (pool.setMembers table next) ∧
      HeadTable.Chained pool.groups.capacity table next (held.drop place).members := by
  have records := threaded.records _ listed
  have there := Held.mem_members listed
  rw [records.key, ← records.realm] at there
  rcases threaded.members.find (pool.groups.edges place).realm (pool.groups.edges place).groupId
    with ⟨-, empty⟩ | ⟨entry, rest, found, -⟩
  · have inside := Chain.mem_cells.mpr there
    simp [empty] at inside
  obtain ⟨table, next, unlinked, chained, -, -⟩ := threaded.members.unlink there found
    (held.length_members ▸ threaded.length_le)
  refine ⟨table, next, ?_, held.members_drop place ▸ chained⟩
  have unlinked : pool.groups.table.unlink pool.nextInGroup pool.groups.capacity entry
      (pool.groups.edges place).realm (pool.groups.edges place).groupId place =
        some (table, next) := unlinked
  simp [unlinkMember, found, unlinked]

/-- The chain of the slot loses an edge. -/
theorem unlinkGroup_eq (chains : Chain.Threads (fun i => (pool.slots i).groupHead) pool.nextOfSlot
    held.bySlot) (listed : (edge, place) ∈ held) (enough : held.length ≤ pool.groups.capacity) :
    ∃ head next, pool.unlinkGroup edge.slot place = some (pool.setGroupsOf edge.slot head next) ∧
      Chain.Threads (Function.update (fun i => (pool.slots i).groupHead) edge.slot head) next
        (held.drop place).bySlot := by
  have there := Held.mem_bySlot listed
  rw [Held.bySlot_drop]
  by_cases first : (pool.slots edge.slot).groupHead = some place
  · exact ⟨_, _, if_pos first, chains.shift _ first⟩
  · have some_ : (pool.slots edge.slot).groupHead ≠ none := by
      intro none_
      exact ((chains.head_eq_none _).mp none_) _ there rfl
    obtain ⟨head, starts⟩ := Option.ne_none_iff_exists'.mp some_
    have later : head ≠ place := by
      rintro rfl
      exact first starts
    obtain ⟨prior, -, -, skipped, passed⟩ := chains.skip starts later there
      (held.length_bySlot ▸ enough)
    refine ⟨some head, Function.update pool.nextOfSlot prior (pool.nextOfSlot place), ?_, ?_⟩
    · simp [unlinkGroup, starts, later, skipped]
    · have same : Function.update (fun i => (pool.slots i).groupHead) edge.slot (some head) =
          fun i => (pool.slots i).groupHead := Function.update_eq_self_iff.mpr starts.symm
      rwa [same]

/-- Giving back an edge ends one membership. -/
theorem releaseGroupEdge_eq
    (threaded : Threaded pool.groups (fun i => (pool.slots i).groupHead) held)
    (listed : (edge, place) ∈ held) :
    ∃ heads groups, pool.releaseGroupEdge edge.slot place =
        some (pool.setGroups heads groups (pool.groupQuota.release edge.realm)) ∧
      groups.capacity = pool.groups.capacity ∧ Threaded groups heads (held.drop place) := by
  obtain ⟨table, links, left, members⟩ := unlinkMember_eq threaded listed
  obtain ⟨head, next, parted, bySlot⟩ := @unlinkGroup_eq (pool.setMembers table links) _ _ _
    threaded.bySlot listed threaded.length_le
  have realm := (threaded.records _ listed).realm
  obtain ⟨spare, free, all⟩ := threaded.spare
  obtain ⟨taken, permuted⟩ := Threaded.spare_drop all listed
  refine ⟨Function.update (fun i => (pool.slots i).groupHead) edge.slot head, {
    edges := Function.update (fun i => { pool.groups.edges i with
      nextInGroup := links i
      nextOfSlot := next i }) place { nextFree := pool.groups.freeHead }
    capacity := pool.groups.capacity
    table := table
    freeHead := some place }, ?_, rfl, ?_⟩
  · rw [releaseGroupEdge, left, Option.bind_eq_bind, Option.bind_some, parted, Option.bind_some,
      realm]
    simp only [setGroupsOf, setSlot, setMembers, setGroups, setSlot_groupHead]
  have elsewhere {entry : Worker.Edge × Nat} (kept : entry ∈ held.drop place) : entry.2 ≠ place := by
    simpa using (List.mem_filter.mp kept).2
  constructor
  · refine members.congr fun entry kept => ?_
    obtain ⟨other, stays, rfl⟩ := List.mem_map.mp kept
    simp [Function.update_of_ne (elsewhere stays)]
  · refine bySlot.congr (fun _ => rfl) fun entry kept => ?_
    obtain ⟨other, stays, rfl⟩ := List.mem_map.mp kept
    simp [Function.update_of_ne (elsewhere stays)]
  · intro entry kept
    obtain ⟨realm, groupId, slot⟩ := threaded.records entry (List.mem_filter.mp kept).1
    refine ⟨?_, ?_, ?_⟩ <;> simpa [Function.update_of_ne (elsewhere kept)]
  · refine ⟨place :: spare, ⟨rfl, ?_⟩, permuted⟩
    simp only [Function.update_self]
    refine free.congr fun other listed => ?_
    simp [Function.update_of_ne (ne_of_mem_of_not_mem listed taken)]

/-- Taking an edge begins a membership. -/
theorem takeEdge_eq (threaded : Threaded pool.groups (fun i => (pool.slots i).groupHead) held)
    (starts : pool.groups.freeHead = some place) (small : pool.groups.capacity ≤ 2 ^ 32)
    (slotIndex : Nat) (realm : RealmId) {groupId : UInt64} (proper : groupId ≠ 0) :
    ∃ heads groups, pool.takeEdge slotIndex place realm groupId =
        some (pool.setGroups heads groups (pool.groupQuota.acquire realm)) ∧
      groups.capacity = pool.groups.capacity ∧ Threaded groups heads
        (({ realm := realm, groupId := groupId.toNat, slot := slotIndex }, place) :: held) := by
  obtain ⟨spare, free, all⟩ := threaded.spare
  rw [starts] at free
  cases spare with
  | nil => cases free
  | cons first spare =>
      obtain ⟨same, free⟩ := free
      obtain rfl := Option.some.inj same
      have once : (place :: spare ++ held.map Prod.snd).Nodup :=
        all.nodup_iff.mpr List.nodup_range
      rw [List.cons_append, List.nodup_cons, List.mem_append, not_or] at once
      obtain ⟨⟨unlisted, fresh⟩, -⟩ := once
      have inside : place < pool.groups.capacity :=
        List.mem_range.mp (all.mem_iff.mp List.mem_cons_self)
      have room : held.length < pool.groups.capacity := by
        have lengths := all.length_eq
        simp only [List.length_append, List.length_cons, List.length_map, List.length_range]
          at lengths
        omega
      let stored : Edge := {
        realm := realm
        groupId := groupId
        slot := slotIndex
        nextOfSlot := (pool.slots slotIndex).groupHead
        inUse := true }
      have elsewhere {entry : Worker.Edge × Nat} (listed : entry ∈ held) : entry.2 ≠ place :=
        ne_of_mem_of_not_mem (List.mem_map_of_mem listed) fresh
      have before : HeadTable.Chained pool.groups.capacity pool.groups.table
          (fun i => (Function.update pool.groups.edges place stored i).nextInGroup) held.members := by
        refine threaded.members.congr fun entry kept => ?_
        obtain ⟨other, listed, rfl⟩ := List.mem_map.mp kept
        simp [Function.update_of_ne (elsewhere listed)]
      obtain ⟨table, next, linked, chained, others⟩ := before.link realm proper
        (inside.trans_le small) (held.length_members ▸ room) (held.places_members ▸ fresh)
      have pushed := threaded.bySlot.push slotIndex (held.places_bySlot ▸ fresh)
      refine ⟨Function.update (fun i => (pool.slots i).groupHead) slotIndex (some place), {
        edges := fun i => {
          Function.update pool.groups.edges place stored i with nextInGroup := next i }
        capacity := pool.groups.capacity
        table := table
        freeHead := (pool.groups.edges place).nextFree }, ?_, rfl, ?_, ?_, ?_, ?_⟩
      · refine Option.bind_eq_some_iff.mpr ⟨(table, next), linked, ?_⟩
        simp only [setMembers, setGroups, setSlot, setSlot_groupHead, stored]
      · simpa [Held.members] using chained
      · refine pushed.congr (fun _ => rfl) fun entry kept => ?_
        rcases List.mem_cons.mp kept with rfl | kept
        · simp [stored]
        · obtain ⟨other, listed, rfl⟩ := List.mem_map.mp kept
          simp [Function.update_of_ne (elsewhere listed)]
      · intro entry kept
        rcases List.mem_cons.mp kept with rfl | listed
        · exact ⟨by simp [stored], by simp [stored], by simp [stored]⟩
        · obtain ⟨realm, groupId, slot⟩ := threaded.records entry listed
          refine ⟨?_, ?_, ?_⟩ <;> simpa [Function.update_of_ne (elsewhere listed)]
      · refine ⟨spare, ?_, List.perm_middle.trans all⟩
        refine free.congr fun other listed => ?_
        simp [Function.update_of_ne (ne_of_mem_of_not_mem listed unlisted)]

/-- The search along the groups of a connection finds the edge of a group, if there is one. -/
theorem edgeOf_eq (threaded : Threaded pool.groups (fun i => (pool.slots i).groupHead) held)
    (slotIndex : Nat) (realm : RealmId) (groupId : UInt64) :
    ∃ found, pool.edgeOf slotIndex realm groupId = some found ∧
      (∀ place, found = some place →
        ({ realm := realm, groupId := groupId.toNat, slot := slotIndex }, place) ∈ held) ∧
      (found = none →
        { realm := realm, groupId := groupId.toNat, slot := slotIndex } ∉ held.map Prod.fst) := by
  have enough : (Chain.cells slotIndex held.bySlot).length ≤ pool.groups.capacity :=
    (Chain.length_cells_le _ _).trans (held.length_bySlot ▸ threaded.length_le)
  refine ⟨_, (threaded.bySlot.links slotIndex).seek enough, fun place found => ?_,
    fun none_ listed => ?_⟩
  · have passes := List.find?_some found
    obtain ⟨⟨edge, _⟩, listed, same⟩ := List.mem_map.mp
      (Chain.mem_cells.mp (List.mem_of_find?_eq_some found))
    obtain ⟨own, rfl⟩ := Prod.mk.inj same
    obtain ⟨sameRealm, sameGroup, -⟩ := threaded.records _ listed
    simp only [Bool.and_eq_true, decide_eq_true_eq] at passes
    obtain ⟨group, inRealm⟩ := passes
    rw [group] at sameGroup
    rw [inRealm] at sameRealm
    convert listed using 2
    cases edge
    simp_all
  · obtain ⟨⟨edge, place⟩, listed, rfl⟩ := List.mem_map.mp listed
    obtain ⟨sameRealm, sameGroup, -⟩ := threaded.records _ listed
    have inside : place ∈ Chain.cells slotIndex held.bySlot :=
      Chain.mem_cells.mpr (Held.mem_bySlot listed)
    have fails := List.find?_eq_none.mp none_ place inside
    simp only [Bool.and_eq_true, decide_eq_true_eq, not_and] at fails
    exact fails (UInt64.toNat_inj.mp sameGroup) sameRealm

theorem leaveAllGroups_nil {slotIndex : Nat}
    (threaded : Threaded pool.groups (fun i => (pool.slots i).groupHead) held)
    (none_ : held.ofSlot slotIndex = []) (fuel : Nat) :
    ∃ heads groups, leaveAllGroups slotIndex fuel pool =
        some (pool.setGroups heads groups ((held.ofSlot slotIndex).foldl
          (fun quota entry => quota.release entry.1.realm) pool.groupQuota)) ∧
      groups.capacity = pool.groups.capacity ∧ Threaded groups heads (held.others slotIndex) := by
  have links := threaded.bySlot.links slotIndex
  rw [Held.cells_bySlot, none_] at links
  have ends : (pool.slots slotIndex).groupHead = none := links
  have all : held.others slotIndex = held := by
    refine List.filter_eq_self.mpr fun entry listed => ?_
    simpa using List.filter_eq_nil_iff.mp none_ entry listed
  rw [none_, all]
  refine ⟨_, _, ?_, rfl, threaded⟩
  cases fuel with
  | zero => exact if_pos ends
  | succ fuel =>
      rw [leaveAllGroups, ends]
      rfl

/-- Giving back the edges of a slot ends all memberships of the connection, the last first. -/
theorem leaveAllGroups_eq {slotIndex fuel : Nat}
    (threaded : Threaded pool.groups (fun i => (pool.slots i).groupHead) held)
    (enough : (held.ofSlot slotIndex).length ≤ fuel) :
    ∃ heads groups, leaveAllGroups slotIndex fuel pool =
        some (pool.setGroups heads groups ((held.ofSlot slotIndex).foldl
          (fun quota entry => quota.release entry.1.realm) pool.groupQuota)) ∧
      groups.capacity = pool.groups.capacity ∧
      Threaded groups heads (held.others slotIndex) := by
  induction fuel generalizing pool held with
  | zero =>
      have none_ : held.ofSlot slotIndex = [] := List.length_eq_zero_iff.mp (Nat.le_zero.mp enough)
      exact leaveAllGroups_nil threaded none_ 0
  | succ fuel ih =>
      cases first : held.ofSlot slotIndex with
      | nil => exact first ▸ leaveAllGroups_nil threaded first (fuel + 1)
      | cons entry more =>
          obtain ⟨edge, place⟩ := entry
          obtain ⟨listed, rfl, rest, same⟩ := threaded.ofSlot_drop first
          obtain ⟨heads, groups, released, capacity, kept⟩ := releaseGroupEdge_eq threaded listed
          have shorter : ((held.drop place).ofSlot edge.slot).length ≤ fuel := by
            rw [first, List.length_cons] at enough
            rw [rest]
            omega
          obtain ⟨later, left, ended, bounds, others⟩ := @ih
            (pool.setGroups heads groups (pool.groupQuota.release edge.realm)) _ kept shorter
          rw [same] at others
          refine ⟨later, left, ?_, bounds.trans capacity, others⟩
          have starts : (pool.slots edge.slot).groupHead = some place := by
            have links := threaded.bySlot.links edge.slot
            rw [Held.cells_bySlot, first] at links
            exact links.1
          rw [leaveAllGroups, starts]
          simp only [released, Option.bind_some, ended, rest]
          rfl

end ConnectionManager

end LyuneGateway.Worker.SlotPool
