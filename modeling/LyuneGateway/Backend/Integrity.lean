import LyuneGateway.Backend.Arena

/-!
# No slot of the arena is lost or used twice

Every slot is free, in the queue of one connection, or out of the pool. What
leaves a queue is what was put into it, in order and cut into parts, whatever
the other queues do meanwhile.
-/

namespace LyuneGateway.Backend

open Foundation

/-- A piece of a stream as it is put into a queue, or a part of one as it leaves it. -/
structure Part where
  streamId : Nat
  data : Bytes
  isFin : Bool
  kind : RecvKind
  deriving DecidableEq

/-- The parts that a piece is cut into; the last one ends it. -/
def Part.cut (piece : Part) : List Part :=
  (List.range (SlotArena.chunks piece.data.length)).map fun i =>
    { piece with
      data := (piece.data.drop (i * slotBytes)).take slotBytes
      isFin := piece.isFin && i + 1 = SlotArena.chunks piece.data.length }

def LinkedSlot.part (slot : LinkedSlot) : Part := ⟨slot.streamId, slot.data, slot.isFin, slot.kind⟩

def Slot.part (slot : Slot) : Part := ⟨slot.streamId, slot.data, slot.isFin, slot.kind⟩

/-- The slots that following the links from here visits. -/
def LinkedArena.walk (arena : LinkedArena) : Nat → Option Nat → List Nat
  | 0, _ => []
  | _, none => []
  | fuel + 1, some index => index :: arena.walk fuel (arena.slots index).next

/-- The arena with the queues of all connections. `borrowed` are the slots that are out of the
pool; `accepted` has what was put into each queue, and `left` what left it, which was popped or
dropped with the connection. -/
structure Store where
  arena : LinkedArena
  lists : List LinkedList
  borrowed : List Nat := []
  accepted : Nat → List Part := fun _ => []
  left : Nat → List (Part × Bool) := fun _ => []

namespace Store

inductive Event where
  | enqueue (queue streamId : Nat) (data : Bytes) (isFin : Bool)
  | enqueueControl (queue streamId : Nat) (kind : RecvKind)
  | pop (queue : Nat)
  | release (index : Nat)
  | dropQueued (queue : Nat)

/-- A pool whose connections belong to these realms. -/
def init (count maxPerConn : Nat) (realms : List RealmId) : Store where
  arena := .init count maxPerConn
  lists := realms.map fun realm => { realm := realm }

def free (store : Store) : List Nat := store.arena.walk store.arena.freeCount store.arena.freeHead

def queued (store : Store) (list : LinkedList) : List Nat := store.arena.walk list.count list.head

/-- Put a piece into a queue. A missing free slot would stop the worker. -/
def put (store : Store) (queue : Nat) (piece : Part)
    (enqueue : LinkedList → Option (LinkedArena × LinkedList × Bool)) : Store :=
  match store.lists[queue]? with
  | none => store
  | some list =>
      match enqueue list with
      | none => store
      | some (arena, list, taken) =>
          { store with
            arena := arena
            lists := store.lists.set queue list
            accepted := if taken then
                Function.update store.accepted queue (store.accepted queue ++ [piece])
              else store.accepted }

/-- What leaves a queue. -/
def noteLeft (store : Store) (queue : Nat) (indices : List Nat) (popped : Bool) :
    Nat → List (Part × Bool) :=
  Function.update store.left queue
    (store.left queue ++ indices.map fun index => ((store.arena.slots index).part, popped))

def step (store : Store) : Event → Store
  | .enqueue queue streamId data isFin =>
      store.put queue ⟨streamId, data, isFin, .data⟩
        fun list => store.arena.enqueue list streamId data isFin
  | .enqueueControl queue streamId kind =>
      store.put queue ⟨streamId, [], true, kind⟩
        fun list => store.arena.enqueueControl list streamId kind
  | .pop queue =>
      match store.lists[queue]? with
      | none => store
      | some list =>
          match store.arena.pop list with
          | none => store
          | some (arena, list, index) =>
              { store with
                arena := arena
                lists := store.lists.set queue list
                borrowed := index :: store.borrowed
                left := store.noteLeft queue [index] true }
  | .release index =>
      { store with
        arena := store.arena.release index
        borrowed := store.borrowed.erase index }
  | .dropQueued queue =>
      match store.lists[queue]? with
      | none => store
      | some list =>
          let (arena, after) := LinkedArena.drop list.count store.arena list
          { store with
            arena := arena
            lists := store.lists.set queue after
            left := store.noteLeft queue (store.queued list) false }

/-- Only a slot that is out of the pool is given back. -/
def Possible (store : Store) : Event → Prop
  | .release index => index ∈ store.borrowed
  | _ => True

instance (store : Store) : (event : Event) → Decidable (store.Possible event)
  | .release index => inferInstanceAs (Decidable (index ∈ store.borrowed))
  | .enqueue .. | .enqueueControl .. | .pop _ | .dropQueued _ => .isTrue trivial

/-- The slots that are in use. -/
def used (store : Store) : List Nat := store.borrowed ++ (store.lists.map store.queued).flatten

/-- What the arena promises. -/
structure Intact (store : Store) : Prop where
  free : Chain store.arena.slots store.arena.freeHead store.free
  queues : ∀ (queue : Nat) (list : LinkedList), store.lists[queue]? = some list →
    Chain store.arena.slots list.head (store.queued list) ∧
      list.tail = (store.queued list).getLast? ∧ (store.queued list).length = list.count
  partition : (store.free ++ store.used).Perm (List.range store.arena.size)
  order : ∀ (queue : Nat) (list : LinkedList), store.lists[queue]? = some list →
    (store.left queue).map Prod.fst ++
        (store.queued list).map (fun index => (store.arena.slots index).part) =
      (store.accepted queue).flatMap Part.cut
  limit : ∀ list ∈ store.lists, list.count ≤ store.arena.maxPerConn
  quota : ∀ realm < maxTrackedRealms, store.arena.quota.counts realm =
    store.used.countP fun index => (store.arena.slots index).realm = realm
  refusal : ∀ list ∈ store.lists, ∀ streamId data isFin kind,
    ∃ outcome, store.arena.enqueueEvent list streamId data isFin kind = some outcome ∧
      (outcome.2.2 = false → outcome = (store.arena, list, false))

/-- The store seen as an arena with lists of slots. -/
structure Shows (store : Store) (arena : SlotArena) (lists : List SlotList)
    (borrowed : List Slot) : Prop where
  links : store.arena.Reads arena
  length : store.lists.length = lists.length
  reads : ∀ (queue : Nat) (linked : LinkedList) (list : SlotList),
    store.lists[queue]? = some linked → lists[queue]? = some list →
      linked.Reads store.arena.slots list
  out : store.borrowed.Perm (borrowed.map Slot.index)
  shows : ∀ slot ∈ borrowed, (store.arena.slots slot.index).Shows slot
  partition : (arena.free ++ (borrowed.map Slot.index ++
    (lists.map SlotList.indices).flatten)).Perm (List.range arena.size)
  order : ∀ (queue : Nat) (list : SlotList), lists[queue]? = some list →
    (store.left queue).map Prod.fst ++ list.queue.map Slot.part =
      (store.accepted queue).flatMap Part.cut
  limit : ∀ list ∈ lists, list.queue.length ≤ arena.maxPerConn
  tracked : arena.quota.tracked = maxTrackedRealms
  quota : arena.quota.Holds (((borrowed ++ (lists.map SlotList.queue).flatten).map
    Slot.realm).filter (· < maxTrackedRealms))

/-- The lists, with one of them in front. -/
theorem flatten_perm {Item Entry : Type} {lists : List Item} {queue : Nat} {list : Item}
    (found : lists[queue]? = some list) (entries : Item → List Entry) :
    (lists.map entries).flatten.Perm
      (entries list ++ ((lists.eraseIdx queue).map entries).flatten) := by
  obtain ⟨inside, rfl⟩ := List.getElem?_eq_some_iff.mp found
  have front := (List.getElem_cons_eraseIdx_perm inside).map entries
  exact front.symm.flatten

theorem flatten_set_perm {Item Entry : Type} {lists : List Item} {queue : Nat} {list : Item}
    (found : lists[queue]? = some list) (changed : Item) (entries : Item → List Entry) :
    ((lists.set queue changed).map entries).flatten.Perm
      (entries changed ++ ((lists.eraseIdx queue).map entries).flatten) := by
  obtain ⟨inside, -⟩ := List.getElem?_eq_some_iff.mp found
  have held : (lists.set queue changed)[queue]? = some changed := by
    rw [List.getElem?_set_self inside]
  have front := flatten_perm held entries
  rwa [List.eraseIdx_set_eq] at front

namespace Shows

variable {store : Store} {arena : SlotArena} {lists : List SlotList} {borrowed : List Slot}

theorem found (shows : store.Shows arena lists borrowed) {queue : Nat} {linked : LinkedList}
    (held : store.lists[queue]? = some linked) :
    ∃ list, lists[queue]? = some list ∧ linked.Reads store.arena.slots list := by
  obtain ⟨inside, -⟩ := List.getElem?_eq_some_iff.mp held
  have within : queue < lists.length := shows.length ▸ inside
  exact ⟨_, List.getElem?_eq_getElem within,
    shows.reads queue linked _ held (List.getElem?_eq_getElem within)⟩

/-- All slots, those of one queue apart. -/
theorem distinct (shows : store.Shows arena lists borrowed) {queue : Nat} {list : SlotList}
    (held : lists[queue]? = some list) :
    (arena.free ++ list.indices ++ (borrowed.map Slot.index ++
      ((lists.eraseIdx queue).map SlotList.indices).flatten)).Nodup := by
  refine (List.Perm.nodup_iff ?_).mp (shows.partition.nodup_iff.mpr List.nodup_range)
  rw [List.append_assoc]
  refine List.Perm.append_left _ ?_
  refine ((flatten_perm held SlotList.indices).append_left _).trans ?_
  rw [← List.append_assoc, ← List.append_assoc]
  exact List.perm_append_comm.append_right _

/-- A queue other than this one. -/
theorem elsewhere {queue other : Nat} {list : SlotList} (differs : other ≠ queue)
    (held : lists[other]? = some list) {index : Nat} (listed : index ∈ list.indices) :
    index ∈ ((lists.eraseIdx queue).map SlotList.indices).flatten :=
  List.mem_flatten.mpr ⟨list.indices, List.mem_map_of_mem
    (List.mem_eraseIdx_iff_getElem?.mpr ⟨other, differs, held⟩), listed⟩

/-- A change of one queue, which leaves the other slots as they are. -/
theorem change (shows : store.Shows arena lists borrowed) {queue : Nat} {list : SlotList}
    {old : LinkedList} (held : lists[queue]? = some list) (own : store.lists[queue]? = some old)
    {links : LinkedArena} {linked : LinkedList} {after : SlotArena} {changed : SlotList}
    (taken : List Slot) {accepted : Nat → List Part} {left : Nat → List (Part × Bool)}
    (arenaReads : links.Reads after) (listReads : linked.Reads links.slots changed)
    (holds : ∀ slot ∈ taken, (links.slots slot.index).Shows slot)
    (kept : ∀ index, index ∉ arena.free → index ∉ list.indices →
      links.slots index = store.arena.slots index)
    (size : after.size = arena.size) (maxPerConn : after.maxPerConn = arena.maxPerConn)
    (tracked : after.quota.tracked = arena.quota.tracked)
    (partition : (after.free ++ (taken.map Slot.index ++ changed.indices)).Perm
      (arena.free ++ list.indices))
    (limit : changed.queue.length ≤ arena.maxPerConn)
    (order : (left queue).map Prod.fst ++ changed.queue.map Slot.part =
      (accepted queue).flatMap Part.cut)
    (others : ∀ other, other ≠ queue → left other = store.left other ∧
      accepted other = store.accepted other)
    (quota : ∀ realms, arena.quota.Holds ((list.queue.map Slot.realm ++ realms).filter
      (· < maxTrackedRealms)) → after.quota.Holds (((taken ++ changed.queue).map Slot.realm ++
        realms).filter (· < maxTrackedRealms))) :
    Shows { arena := links
            lists := store.lists.set queue linked
            borrowed := taken.map Slot.index ++ store.borrowed
            accepted := accepted
            left := left } after (lists.set queue changed) (taken ++ borrowed) := by
  have apart := List.nodup_append.mp (shows.distinct held)
  have inside : queue < lists.length := (List.getElem?_eq_some_iff.mp held).1
  have within : queue < store.lists.length := (List.getElem?_eq_some_iff.mp own).1
  have keeps {index : Nat} (listed : index ∈ borrowed.map Slot.index ++
      ((lists.eraseIdx queue).map SlotList.indices).flatten) :
      links.slots index = store.arena.slots index := by
    refine kept index (fun free => ?_) fun queued => ?_
    · exact apart.2.2 index (List.mem_append_left _ free) index listed rfl
    · exact apart.2.2 index (List.mem_append_right _ queued) index listed rfl
  constructor
  case links => exact arenaReads
  case length => simpa using shows.length
  case reads =>
    intro other linked' list' one two
    by_cases same : other = queue
    · subst same
      rw [List.getElem?_set_self within] at one
      rw [List.getElem?_set_self inside] at two
      cases one
      cases two
      exact listReads
    · rw [List.getElem?_set_ne (Ne.symm same)] at one two
      exact (shows.reads other linked' list' one two).frame fun index listed =>
        keeps (List.mem_append_right _ (elsewhere same two listed))
  case out =>
    rw [List.map_append]
    exact shows.out.append_left _
  case shows =>
    intro slot listed
    rcases List.mem_append.mp listed with new | old
    · exact holds slot new
    · rw [keeps (List.mem_append_left _ (List.mem_map_of_mem old))]
      exact shows.shows slot old
  case partition =>
    rw [size]
    refine List.Perm.trans ?_ shows.partition
    have before := flatten_perm held SlotList.indices
    have behind := flatten_set_perm held changed SlotList.indices
    generalize ((lists.eraseIdx queue).map SlotList.indices).flatten = rest at before behind
    refine List.perm_iff_count.mpr fun index => ?_
    have moved := partition.count_eq index
    have one := before.count_eq index
    have two := behind.count_eq index
    simp only [List.map_append, List.count_append] at moved one two ⊢
    omega
  case order =>
    intro other list' two
    by_cases same : other = queue
    · subst same
      rw [List.getElem?_set_self inside] at two
      cases two
      exact order
    · rw [List.getElem?_set_ne (Ne.symm same)] at two
      obtain ⟨left', accepted'⟩ := others other same
      simp only [left', accepted']
      exact shows.order other list' two
  case limit =>
    intro list' listed
    rw [maxPerConn]
    rcases List.mem_or_eq_of_mem_set listed with old | rfl
    · exact shows.limit list' old
    · exact limit
  case tracked => exact tracked.trans shows.tracked
  case quota =>
    have before := flatten_perm held SlotList.queue
    have behind := flatten_set_perm held changed SlotList.queue
    generalize ((lists.eraseIdx queue).map SlotList.queue).flatten = rest at before behind
    have counted := quota ((borrowed ++ rest).map Slot.realm) (shows.quota.perm (.filter _ ?_))
    · refine counted.perm (.filter _ ?_)
      rw [← List.map_append]
      refine List.Perm.map _ (List.Perm.symm ?_)
      refine (behind.append_left _).trans ?_
      rw [List.append_assoc, List.append_assoc]
      refine List.Perm.append_left _ ?_
      rw [← List.append_assoc, ← List.append_assoc]
      exact List.perm_append_comm.append_right _
    · rw [← List.map_append]
      refine List.Perm.map _ ((before.append_left _).trans ?_)
      rw [← List.append_assoc, ← List.append_assoc]
      exact List.perm_append_comm.append_right _

theorem tracked_acquire (realm : RealmId) (count : Nat) (quota : Quota) :
    ((List.range count).foldl (fun quota _ => quota.acquire realm) quota).tracked =
      quota.tracked := by
  induction count generalizing quota with
  | zero => rfl
  | succ count ih =>
      rw [LinkedArena.acquire_succ, ih]
      exact congrArg Prod.fst (Quota.limits_acquire quota realm)

theorem holds_acquire {realm : RealmId} {realms : List RealmId} (count : Nat) {quota : Quota}
    (tracked : quota.tracked = maxTrackedRealms)
    (holds : quota.Holds (realms.filter (· < maxTrackedRealms))) :
    ((List.range count).foldl (fun quota _ => quota.acquire realm) quota).Holds
      ((List.replicate count realm ++ realms).filter (· < maxTrackedRealms)) := by
  induction count generalizing quota realms with
  | zero => exact holds
  | succ count ih =>
      have after : (quota.acquire realm).tracked = maxTrackedRealms :=
        (congrArg Prod.fst (Quota.limits_acquire quota realm)).trans tracked
      have one : (quota.acquire realm).Holds ((realm :: realms).filter (· < maxTrackedRealms)) := by
        by_cases known : realm < maxTrackedRealms
        · rw [List.filter_cons_of_pos (by simpa using known)]
          exact holds.acquire (tracked ▸ known)
        · rw [List.filter_cons_of_neg (by simpa using known), Quota.acquire,
            if_pos (by rw [tracked]; exact Nat.le_of_not_lt known)]
          exact holds
      rw [LinkedArena.acquire_succ, List.replicate_succ', List.append_assoc]
      exact ih after one

theorem holds_release {realm : RealmId} {realms : List RealmId} {quota : Quota}
    (tracked : quota.tracked = maxTrackedRealms)
    (holds : quota.Holds ((realm :: realms).filter (· < maxTrackedRealms))) :
    (quota.release realm).Holds (realms.filter (· < maxTrackedRealms)) := by
  by_cases known : realm < maxTrackedRealms
  · rw [List.filter_cons_of_pos (by simpa using known)] at holds
    exact holds.release
  · rw [List.filter_cons_of_neg (by simpa using known)] at holds
    rw [Quota.release, if_pos (by rw [tracked]; exact Nat.le_of_not_lt known)]
    exact holds

/-- What a piece looks like in the slots it is put into. -/
theorem fill_spec (piece : Part) (realm : RealmId) {indices : List Nat}
    (enough : indices.length = SlotArena.chunks piece.data.length) :
    let filled := SlotArena.fill piece.streamId piece.data piece.isFin piece.kind realm 0 indices
    filled.map Slot.index = indices ∧ filled.map Slot.part = piece.cut ∧
      filled.map Slot.realm = List.replicate indices.length realm := by
  refine ⟨?_, ?_, ?_⟩
  · rw [SlotArena.fill, List.map_map]
    exact List.zipIdx_map_fst 0 indices
  · rw [SlotArena.fill, List.map_map, Part.cut, ← enough]
    have positions := congrArg (List.map fun i => ({ piece with
      data := (piece.data.drop (i * slotBytes)).take slotBytes
      isFin := piece.isFin && i + 1 = indices.length } : Part)) (List.zipIdx_map_snd 0 indices)
    rw [List.map_map, ← List.range_eq_range'] at positions
    rw [← positions]
    refine List.map_congr_left fun entry _ => ?_
    simp [Slot.part, enough]
  · rw [SlotArena.fill, List.map_map]
    refine List.eq_replicate_iff.mpr ⟨by simp, fun other listed => ?_⟩
    obtain ⟨entry, -, rfl⟩ := List.mem_map.mp listed
    rfl

/-- Following the links of a chain reads it off. -/
theorem walk_eq {linked : LinkedArena} {head : Option Nat} {indices : List Nat}
    (chain : Chain linked.slots head indices) : linked.walk indices.length head = indices := by
  induction indices generalizing head with
  | nil => rfl
  | cons index rest ih =>
      obtain ⟨rfl, chain⟩ := chain
      rw [List.length_cons, LinkedArena.walk, ih chain]

theorem queued_eq {list : SlotList} {linked : LinkedList}
    (reads : linked.Reads store.arena.slots list) : store.queued linked = list.indices := by
  have count : linked.count = list.indices.length := by simp [reads.count, SlotList.indices]
  rw [queued, count, walk_eq reads.chain]

theorem free_eq (shows : store.Shows arena lists borrowed) : store.free = arena.free := by
  rw [free, shows.links.freeCount, walk_eq shows.links.free]

theorem part_eq {linked : LinkedSlot} {slot : Slot} (shows : linked.Shows slot) :
    linked.part = slot.part := by
  obtain ⟨streamId, data, isFin, kind, -⟩ := shows
  rw [LinkedSlot.part, Slot.part, streamId, data, isFin, kind]

/-- A piece is put into a queue as a whole or not at all. -/
theorem put (shows : store.Shows arena lists borrowed) (queue : Nat) (piece : Part) :
    ∃ arena lists, (store.put queue piece fun list => store.arena.enqueueEvent list
      piece.streamId piece.data piece.isFin piece.kind).Shows arena lists borrowed := by
  unfold Store.put
  split
  · exact ⟨arena, lists, shows⟩
  rename_i linked own
  obtain ⟨list, held, reads⟩ := shows.found own
  have distinct := (List.nodup_append.mp (shows.distinct held)).1
  have inside : queue < store.lists.length := (List.getElem?_eq_some_iff.mp own).1
  rcases LinkedArena.enqueueEvent_reads shows.links reads distinct piece.streamId piece.data
    piece.isFin piece.kind with ⟨-, refused⟩ | ⟨arena', list', links, longer, done, taken, arenaReads,
      listReads, kept⟩
  · have same : store.lists.set queue linked = store.lists := by
      obtain ⟨_, rfl⟩ := List.getElem?_eq_some_iff.mp own
      exact List.set_getElem_self inside
    simp only [refused, same]
    exact ⟨arena, lists, shows⟩
  simp only [taken, if_true]
  unfold SlotArena.enqueueEvent at done
  simp only at done
  split at done
  · cases done
  rename_i room
  split at done
  · cases done
  rename_i limit
  split at done
  · cases done
  cases done
  have enough : (arena.free.take (SlotArena.chunks piece.data.length)).length =
      SlotArena.chunks piece.data.length := by
    rw [List.length_take]
    omega
  obtain ⟨indices, parts, realms⟩ := fill_spec piece list.realm enough
  refine ⟨_, _, shows.change held own [] arenaReads listReads ?_ ?_ rfl rfl ?_ ?_ ?_ ?_ ?_
    ?_⟩
  · exact fun slot listed => absurd listed List.not_mem_nil
  · intro index unfree unqueued
    exact kept index (fun listed => unfree (List.mem_of_mem_take listed)) unqueued
  · exact tracked_acquire _ _ _
  · rw [SlotList.indices, List.map_append, indices, List.map_nil, List.nil_append,
      ← SlotList.indices]
    refine List.perm_append_comm.trans ?_
    rw [List.append_assoc, List.take_append_drop]
    exact List.perm_append_comm
  · have filled : (SlotArena.fill piece.streamId piece.data piece.isFin piece.kind list.realm 0
        (arena.free.take (SlotArena.chunks piece.data.length))).length =
        SlotArena.chunks piece.data.length := by
      have counted := congrArg List.length indices
      rw [List.length_map] at counted
      exact counted.trans enough
    rw [List.length_append, filled]
    omega
  · rw [List.map_append, ← List.append_assoc, shows.order queue list held, parts,
      Function.update_self, List.flatMap_append]
    simp
  · exact fun other differs => ⟨rfl, Function.update_of_ne differs _ _⟩
  · intro realms' holds
    have counted := @holds_acquire list.realm _ (SlotArena.chunks piece.data.length) _
      shows.tracked holds
    refine counted.perm (.filter _ ?_)
    rw [List.nil_append, List.map_append, realms, enough, ← List.append_assoc]
    exact List.perm_append_comm.append_right _

/-- A slot that is popped is out of the pool. -/
theorem pop (shows : store.Shows arena lists borrowed) (queue : Nat) :
    ∃ arena lists borrowed, (store.step (.pop queue)).Shows arena lists borrowed := by
  simp only [step]
  split
  · exact ⟨arena, lists, borrowed, shows⟩
  rename_i linked own
  obtain ⟨list, held, reads⟩ := shows.found own
  have distinct := (List.nodup_append.mp (shows.distinct held)).1
  cases first : list.queue with
  | nil =>
      rw [LinkedArena.pop_eq_none reads first]
      exact ⟨arena, lists, borrowed, shows⟩
  | cons slot rest =>
      obtain ⟨links, shorter, popped, arenaReads, listReads, holds, kept⟩ :=
        LinkedArena.pop_reads shows.links reads first distinct
      have listed : slot.index ∈ list.indices := by
        rw [SlotList.indices, first]
        exact List.mem_cons_self
      have part := part_eq (reads.shows slot (first ▸ List.mem_cons_self))
      simp only [popped]
      refine ⟨_, _, _, shows.change held own [slot] arenaReads listReads ?_ ?_ rfl rfl rfl
        ?_ ?_ ?_ ?_ ?_⟩
      · intro other member
        obtain rfl := List.mem_singleton.mp member
        exact holds
      · exact fun index _ unqueued => kept index fun same => unqueued (same ▸ listed)
      · simp [SlotList.indices, first]
      · have limit := shows.limit list (List.mem_of_getElem? held)
        rw [first, List.length_cons] at limit
        exact Nat.le_of_succ_le limit
      · rw [← shows.order queue list held, noteLeft, Function.update_self, first]
        simp [part]
      · exact fun other differs => ⟨Function.update_of_ne differs _ _, rfl⟩
      · intro realms holds
        rw [first] at holds
        exact holds

theorem release (shows : store.Shows arena lists borrowed) {index : Nat}
    (out : index ∈ store.borrowed) :
    ∃ arena borrowed, (store.step (.release index)).Shows arena lists borrowed := by
  obtain ⟨slot, listed, rfl⟩ := List.mem_map.mp (shows.out.mem_iff.mp out)
  have apart := List.perm_cons_erase listed
  have distinct : (arena.free ++ (borrowed.map Slot.index ++
      (lists.map SlotList.indices).flatten)).Nodup :=
    shows.partition.nodup_iff.mpr List.nodup_range
  have unfree : slot.index ∉ arena.free := fun free =>
    (List.nodup_append.mp distinct).2.2 _ free _
      (List.mem_append_left _ (List.mem_map_of_mem listed)) rfl
  have others := (List.nodup_append.mp distinct).2.1
  rw [((apart.map Slot.index).append_right _).nodup_iff] at others
  have unused : slot.index ∉ (borrowed.erase slot).map Slot.index ++
      (lists.map SlotList.indices).flatten := (List.nodup_cons.mp others).1
  obtain ⟨arenaReads, kept⟩ :=
    LinkedArena.release_reads shows.links (shows.shows slot listed) unfree
  have keeps {other : Nat} (member : other ∈ (borrowed.erase slot).map Slot.index ++
      (lists.map SlotList.indices).flatten) :
      (store.arena.release slot.index).slots other = store.arena.slots other :=
    kept other fun same => unused (same ▸ member)
  refine ⟨arena.release slot, borrowed.erase slot, ?_⟩
  constructor
  case links => exact arenaReads
  case length => exact shows.length
  case reads =>
    intro queue linked list one two
    refine (shows.reads queue linked list one two).frame fun other member => keeps ?_
    exact List.mem_append_right _ (List.mem_flatten.mpr
      ⟨list.indices, List.mem_map_of_mem (List.mem_of_getElem? two), member⟩)
  case out =>
    have erased := (shows.out.trans (apart.map Slot.index)).erase slot.index
    rwa [List.map_cons, List.erase_cons_head] at erased
  case shows =>
    intro other member
    change ((store.arena.release slot.index).slots other.index).Shows other
    rw [keeps (List.mem_append_left _ (List.mem_map_of_mem member))]
    exact shows.shows other (List.mem_of_mem_erase member)
  case partition =>
    refine List.Perm.trans ?_ shows.partition
    refine List.perm_middle.symm.trans (List.Perm.append_left _ ?_)
    exact ((apart.map Slot.index).append_right _).symm
  case order => exact shows.order
  case limit => exact shows.limit
  case tracked =>
    exact (congrArg Prod.fst (Quota.limits_release arena.quota slot.realm)).trans shows.tracked
  case quota =>
    refine holds_release shows.tracked (shows.quota.perm (.filter _ ?_))
    exact (apart.append_right _).map Slot.realm

theorem released (waiting : List Slot) (arena : SlotArena) :
    (waiting.foldl SlotArena.release arena).free.Perm (arena.free ++ waiting.map Slot.index) ∧
      (waiting.foldl SlotArena.release arena).size = arena.size ∧
      (waiting.foldl SlotArena.release arena).maxPerConn = arena.maxPerConn ∧
      (waiting.foldl SlotArena.release arena).quota.tracked = arena.quota.tracked := by
  induction waiting generalizing arena with
  | nil => exact ⟨by simp, rfl, rfl, rfl⟩
  | cons slot waiting ih =>
      obtain ⟨free, size, maxPerConn, tracked⟩ := ih (arena.release slot)
      refine ⟨free.trans List.perm_middle.symm, size, maxPerConn, tracked.trans ?_⟩
      exact congrArg Prod.fst (Quota.limits_release arena.quota slot.realm)

theorem holds_drop {realms : List RealmId} (waiting : List Slot) {arena : SlotArena}
    (tracked : arena.quota.tracked = maxTrackedRealms)
    (holds : arena.quota.Holds ((waiting.map Slot.realm ++ realms).filter
      (· < maxTrackedRealms))) :
    (waiting.foldl SlotArena.release arena).quota.Holds (realms.filter (· < maxTrackedRealms)) := by
  induction waiting generalizing arena with
  | nil => exact holds
  | cons slot waiting ih =>
      refine @ih (arena.release slot) ?_ (holds_release tracked holds)
      exact (congrArg Prod.fst (Quota.limits_release arena.quota slot.realm)).trans tracked

/-- The queue of a connection that is destroyed. -/
theorem dropQueued (shows : store.Shows arena lists borrowed) (queue : Nat) :
    ∃ arena lists, (store.step (.dropQueued queue)).Shows arena lists borrowed := by
  simp only [step]
  split
  · exact ⟨arena, lists, shows⟩
  rename_i linked own
  obtain ⟨list, held, reads⟩ := shows.found own
  have distinct := (List.nodup_append.mp (shows.distinct held)).1
  obtain ⟨arenaReads, listReads, kept⟩ := LinkedArena.drop_reads shows.links reads distinct
  obtain ⟨free, size, maxPerConn, tracked⟩ := released list.queue arena
  have parts : (store.queued linked).map (fun index => (store.arena.slots index).part) =
      list.queue.map Slot.part := by
    rw [queued_eq reads, SlotList.indices, List.map_map]
    exact List.map_congr_left fun slot member => part_eq (reads.shows slot member)
  refine ⟨_, _, shows.change held own [] arenaReads listReads ?_ ?_ size maxPerConn tracked
    ?_ ?_ ?_ ?_ ?_⟩
  · exact fun slot listed => absurd listed List.not_mem_nil
  · exact fun index _ unqueued => kept index unqueued
  · simpa [SlotList.indices] using free
  · exact Nat.zero_le _
  · rw [← shows.order queue list held, noteLeft, Function.update_self, ← parts]
    simp [Function.comp_def]
  · exact fun other differs => ⟨Function.update_of_ne differs _ _, rfl⟩
  · exact fun realms holds => holds_drop list.queue shows.tracked holds

theorem step (shows : store.Shows arena lists borrowed) {event : Event}
    (possible : store.Possible event) :
    ∃ arena lists borrowed, (store.step event).Shows arena lists borrowed := by
  cases event with
  | enqueue queue streamId data isFin =>
      obtain ⟨arena, lists, after⟩ := shows.put queue ⟨streamId, data, isFin, .data⟩
      exact ⟨arena, lists, borrowed, after⟩
  | enqueueControl queue streamId kind =>
      obtain ⟨arena, lists, after⟩ := shows.put queue ⟨streamId, [], true, kind⟩
      exact ⟨arena, lists, borrowed, after⟩
  | pop queue => exact shows.pop queue
  | release index =>
      obtain ⟨arena, borrowed, after⟩ := shows.release possible
      exact ⟨arena, lists, borrowed, after⟩
  | dropQueued queue =>
      obtain ⟨arena, lists, after⟩ := shows.dropQueued queue
      exact ⟨arena, lists, borrowed, after⟩

theorem init (count maxPerConn : Nat) (realms : List RealmId) :
    (Store.init count maxPerConn realms).Shows (SlotArena.init count maxPerConn)
      (realms.map fun realm => { realm := realm }) [] := by
  have linked (first rest : Nat) (total : first + (rest + 1) = max count 1) :
      Chain (LinkedArena.init count maxPerConn).slots (some first)
        (List.range' first (rest + 1)) := by
    induction rest generalizing first with
    | zero =>
        have last : ¬ first + 1 < max count 1 := by omega
        refine ⟨rfl, ?_⟩
        change (if first + 1 < max count 1 then some (first + 1) else none) = none
        rw [if_neg last]
    | succ rest ih =>
        rw [List.range'_succ]
        refine ⟨rfl, ?_⟩
        have next : ((LinkedArena.init count maxPerConn).slots first).next = some (first + 1) :=
          if_pos (by omega)
        rw [next]
        exact ih (first + 1) (by omega)
  constructor
  case links =>
    refine ⟨rfl, ?_, by simp [Store.init, LinkedArena.init, SlotArena.init], rfl, rfl⟩
    have free : (SlotArena.init count maxPerConn).free = List.range' 0 (max count 1 - 1 + 1) := by
      rw [← List.range_eq_range', Nat.sub_add_cancel (Nat.le_max_right count 1)]
      rfl
    rw [free]
    exact linked 0 (max count 1 - 1) (by omega)
  case length => simp [Store.init]
  case reads =>
    intro queue linked list one two
    simp only [Store.init, List.getElem?_map, Option.map_eq_some_iff] at one two
    obtain ⟨realm, held, rfl⟩ := one
    obtain ⟨other, also, rfl⟩ := two
    obtain rfl := Option.some.inj (held.symm.trans also)
    exact ⟨rfl, rfl, rfl, rfl, fun slot listed => nomatch listed⟩
  case out => exact .refl _
  case shows => exact fun slot listed => nomatch listed
  case partition =>
    have none : ((realms.map fun realm => ({ realm := realm } : SlotList)).map
        SlotList.indices).flatten = [] := by
      rw [List.map_map]
      exact List.flatten_eq_nil_iff.mpr fun indices listed => by
        obtain ⟨realm, -, rfl⟩ := List.mem_map.mp listed
        rfl
    rw [none]
    simp [SlotArena.init]
  case order =>
    intro queue list two
    simp only [List.getElem?_map, Option.map_eq_some_iff] at two
    obtain ⟨realm, -, rfl⟩ := two
    rfl
  case limit =>
    intro list listed
    obtain ⟨realm, -, rfl⟩ := List.mem_map.mp listed
    exact Nat.zero_le _
  case tracked => rfl
  case quota =>
    have none : ((realms.map fun realm => ({ realm := realm } : SlotList)).map
        SlotList.queue).flatten = [] := by
      rw [List.map_map]
      exact List.flatten_eq_nil_iff.mpr fun queue listed => by
        obtain ⟨realm, -, rfl⟩ := List.mem_map.mp listed
        rfl
    rw [none]
    exact Quota.Holds.init _ _ _

/-- Every queue reads off as the list that belongs to it. -/
theorem map_queued (shows : store.Shows arena lists borrowed) :
    store.lists.map store.queued = lists.map SlotList.indices := by
  refine List.ext_getElem? fun queue => ?_
  rw [List.getElem?_map, List.getElem?_map]
  cases held : store.lists[queue]? with
  | none =>
      have beyond : lists.length ≤ queue := shows.length ▸ List.getElem?_eq_none_iff.mp held
      rw [List.getElem?_eq_none beyond]
      rfl
  | some linked =>
      obtain ⟨list, also, reads⟩ := shows.found held
      rw [also, Option.map_some, Option.map_some, queued_eq reads]

theorem intact (shows : store.Shows arena lists borrowed) : store.Intact := by
  have free := free_eq shows
  have queues := map_queued shows
  have used : store.used.Perm ((borrowed ++ (lists.map SlotList.queue).flatten).map Slot.index) := by
    rw [Store.used, queues, List.map_append, List.map_flatten, List.map_map]
    exact shows.out.append_right _
  constructor
  case free => exact free ▸ shows.links.free
  case queues =>
    intro queue linked own
    obtain ⟨list, held, reads⟩ := shows.found own
    rw [queued_eq reads]
    exact ⟨reads.chain, reads.tail, by simp [SlotList.indices, reads.count]⟩
  case partition =>
    rw [free, Store.used, queues, shows.links.size]
    exact ((shows.out.append_right _).append_left _).trans shows.partition
  case order =>
    intro queue linked own
    obtain ⟨list, held, reads⟩ := shows.found own
    rw [queued_eq reads, SlotList.indices, List.map_map, ← shows.order queue list held]
    refine congrArg _ (List.map_congr_left fun slot member => ?_)
    exact part_eq (reads.shows slot member)
  case limit =>
    intro linked listed
    obtain ⟨queue, own⟩ := List.mem_iff_getElem?.mp listed
    obtain ⟨list, held, reads⟩ := shows.found own
    rw [reads.count, shows.links.maxPerConn]
    exact shows.limit list (List.mem_of_getElem? held)
  case quota =>
    intro realm known
    have same (slot : Slot) (member : slot ∈ borrowed ++ (lists.map SlotList.queue).flatten) :
        (store.arena.slots slot.index).realm = slot.realm := by
      rcases List.mem_append.mp member with out | queued
      · exact (shows.shows slot out).2.2.2.2
      · obtain ⟨_, listed, member⟩ := List.mem_flatten.mp queued
        obtain ⟨list, held, rfl⟩ := List.mem_map.mp listed
        obtain ⟨queue, held⟩ := List.mem_iff_getElem?.mp held
        have inside : queue < store.lists.length :=
          shows.length ▸ (List.getElem?_eq_some_iff.mp held).1
        exact ((shows.reads queue _ list (List.getElem?_eq_getElem inside) held).shows slot
          member).2.2.2.2
    rw [shows.links.quota, shows.quota.counts, List.count_filter (by simpa using known),
      used.countP_eq, List.countP_map, List.count, List.countP_map]
    refine List.countP_congr fun slot member => ?_
    simp [same slot member]
  case refusal =>
    intro linked listed streamId data isFin kind
    obtain ⟨queue, own⟩ := List.mem_iff_getElem?.mp listed
    obtain ⟨list, held, reads⟩ := shows.found own
    have distinct := (List.nodup_append.mp (shows.distinct held)).1
    rcases LinkedArena.enqueueEvent_reads shows.links reads distinct streamId data isFin kind with
      ⟨-, refused⟩ | ⟨_, _, links, longer, -, taken, -⟩
    · exact ⟨_, refused, fun _ => rfl⟩
    · exact ⟨_, taken, fun wrong => by cases wrong⟩

end Shows

/-- Data that fits into this many slots is what the slots hold. -/
theorem flatMap_slots (count : Nat) (data : Bytes) (fits : data.length ≤ count * slotBytes) :
    (List.range count).flatMap (fun i => (data.drop (i * slotBytes)).take slotBytes) = data := by
  induction count generalizing data with
  | zero =>
      rw [Nat.zero_mul] at fits
      exact (List.eq_nil_of_length_eq_zero (Nat.le_zero.mp fits)).symm
  | succ count ih =>
      have rest : (data.drop slotBytes).length ≤ count * slotBytes := by
        rw [List.length_drop]
        rw [Nat.succ_mul] at fits
        omega
      have behind := ih (data.drop slotBytes) rest
      rw [List.range_succ_eq_map, List.flatMap_cons, List.flatMap_map]
      simp only [List.drop_drop] at behind
      calc (data.drop (0 * slotBytes)).take slotBytes ++
            (List.range count).flatMap (fun i => (data.drop (i.succ * slotBytes)).take slotBytes)
          = data.take slotBytes ++ data.drop slotBytes := by
            rw [Nat.zero_mul, List.drop_zero]
            refine congrArg _ (Eq.trans ?_ behind)
            refine congrArg (fun piece => (List.range count).flatMap piece) (funext fun i => ?_)
            rw [Nat.succ_mul, Nat.add_comm]
        _ = data := List.take_append_drop slotBytes data

theorem chunks_spec (length : Nat) :
    length ≤ SlotArena.chunks length * slotBytes ∧
      ∃ count, SlotArena.chunks length = count + 1 := by
  simp only [SlotArena.chunks, slotBytes]
  exact ⟨by omega, Nat.exists_eq_add_one.mpr (by omega)⟩

/-- The parts of a piece make it up, and only the last one may end it. -/
theorem cut_spec (piece : Part) :
    piece.cut.flatMap Part.data = piece.data ∧ ∃ parts last, piece.cut = parts ++ [last] ∧
      (∀ part ∈ parts, part.isFin = false) ∧ last.isFin = piece.isFin := by
  obtain ⟨fits, count, chunks⟩ := chunks_spec piece.data.length
  constructor
  · rw [Part.cut, List.flatMap_map]
    exact flatMap_slots _ _ fits
  · rw [Part.cut, chunks, List.range_succ, List.map_append]
    refine ⟨_, _, rfl, ?_, by simp⟩
    intro part listed
    obtain ⟨i, inside, rfl⟩ := List.mem_map.mp listed
    have earlier : i ≠ count := (List.mem_range.mp inside).ne
    simp [earlier]

/-- Whatever the connections do, the arena stays intact. -/
theorem arena_stays_intact (count maxPerConn : Nat) (realms : List RealmId) (events : List Event)
    (meets : Run.Meets step Possible (init count maxPerConn realms) events) :
    (Run.final step (init count maxPerConn realms) events).Intact ∧
      ∀ piece : Part, piece.cut.flatMap Part.data = piece.data ∧
        ∃ parts last, piece.cut = parts ++ [last] ∧
          (∀ part ∈ parts, part.isFin = false) ∧ last.isFin = piece.isFin := by
  have shown : ∃ arena lists borrowed,
      (Run.final step (init count maxPerConn realms) events).Shows arena lists borrowed := by
    refine @Run.invariant _ _ _ _ (fun store => ∃ arena lists borrowed,
      store.Shows arena lists borrowed) ?_ _ _ ⟨_, _, _, .init count maxPerConn realms⟩ meets
    rintro store event ⟨arena, lists, borrowed, shows⟩ possible
    exact shows.step possible
  obtain ⟨arena, lists, borrowed, shows⟩ := shown
  exact ⟨shows.intact, cut_spec⟩

/-- Data is put in, popped and given back, beside a reset. -/
theorem arena_stays_intact_release :
    (Run.final step (init 4 4 [3, 5]) [.enqueue 0 8 [7] true, .enqueueControl 1 0 .streamReset, .pop 0,
      .release 0, .dropQueued 1]).Intact :=
  (arena_stays_intact 4 4 [3, 5] _ (by decide)).1

/-- A realm beyond the table is not counted: its share is not limited. -/
theorem untracked_realm_is_uncounted :
    ∃ store, store = Run.final step (init 4 4 [maxTrackedRealms]) [.enqueue 0 8 [7] true] ∧
      (store.used.countP fun index => (store.arena.slots index).realm = maxTrackedRealms) = 1 ∧
      store.arena.quota.counts maxTrackedRealms = 0 :=
  ⟨_, rfl, by decide, by decide⟩

end Store

end LyuneGateway.Backend
