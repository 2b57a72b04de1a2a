import LyuneGateway.Io.Handoff
import LyuneGateway.Lib.Run
import Mathlib.Data.Nat.ModEq

/-!
# The ring behind a queue between workers

Any thread pushes, the owner pops, each under the lock of the queue. The thread
that makes an empty queue non-empty calls the notifier, but only after it has
left the lock; so does the thread that registers a notifier for a queue that is
not empty. Between the two the notifier is in the hand of the thread.
-/

namespace LyuneGateway.Io

open Foundation

/-- The realm of an application message. -/
def AppMessage.tracked (message : AppMessage) : Option RealmId := some message.realm

def AppMessage.init (bytes : Bytes) (realm : RealmId) (session : Nat) :
    Except HandoffError AppMessage :=
  if maxMessageSize < bytes.length then .error .messageTooLarge
  else .ok { realm := realm, session := session, bytes := bytes }

/-- A callback that wakes the owner, by its number. -/
abbrev Notifier := Nat

/-- The ring of a queue; a slot that was never written holds nothing. -/
structure RingQueue (α : Type) where
  items : Nat → Option α := fun _ => none
  capacity : Nat
  head : Nat := 0
  len : Nat := 0
  notifier : Option Notifier := none
  quota : Quota

namespace RingQueue

variable {α : Type}

def init (capacity : Nat) : RingQueue α where
  capacity := capacity
  quota := Quota.init maxTrackedRealms capacity defaultWatermarkPercent

/-- The new notifier, and whom to notify outside the lock. -/
def setNotifier (queue : RingQueue α) (notifier : Option Notifier) :
    Option Notifier × RingQueue α :=
  (if queue.len ≠ 0 then notifier else none, { queue with notifier := notifier })

/-- The ring with an item in the slot after its last one. -/
def store (realmOf : α → Option RealmId) (queue : RingQueue α) (item : α) : RingQueue α :=
  let tail := (queue.head + queue.len) % queue.capacity
  { queue with
    items := Function.update queue.items tail (some item)
    len := queue.len + 1
    quota := (realmOf item).elim queue.quota queue.quota.acquire }

/-- The ring without the item of its first slot. -/
def drop (realmOf : α → Option RealmId) (queue : RingQueue α) (item : α) : RingQueue α :=
  { queue with
    head := (queue.head + 1) % queue.capacity
    len := queue.len - 1
    quota := (realmOf item).elim queue.quota queue.quota.release }

/-- `realmOf` answers nothing for items without a realm, which have no quota. -/
def push (realmOf : α → Option RealmId) (queue : RingQueue α) (item : α) :
    Except HandoffError (Option Notifier) × RingQueue α :=
  if queue.len = queue.capacity then (.error .queueFull, queue)
  else if (realmOf item).all queue.quota.allows = false then (.error .realmOverShare, queue)
  else
    let wasEmpty := queue.len = 0
    (.ok (if wasEmpty then queue.notifier else none), queue.store realmOf item)

def pop (realmOf : α → Option RealmId) (queue : RingQueue α) : Option α × RingQueue α :=
  if queue.len = 0 then (none, queue)
  else
    match queue.items queue.head with
    | none => (none, queue)
    | some item => (some item, queue.drop realmOf item)

/-- The items of the ring, the oldest first. -/
def contents (queue : RingQueue α) : List α :=
  (List.range queue.len).filterMap fun index =>
    queue.items ((queue.head + index) % queue.capacity)

/-- The realms of some items that the quota keeps a count for. -/
def counted (realmOf : α → Option RealmId) (items : List α) : List RealmId :=
  (items.filterMap realmOf).filter (· < maxTrackedRealms)

theorem counted_tracked (messages : List AppMessage) :
    counted AppMessage.tracked messages =
      (messages.map (·.realm)).filter (· < maxTrackedRealms) := by
  have realms : messages.filterMap AppMessage.tracked = messages.map (·.realm) :=
    List.filterMap_eq_map' ▸ rfl
  rw [counted, realms]

/-- The ring holds these items, the oldest first, and the quota counts them. -/
structure Stores (realmOf : α → Option RealmId) (queue : RingQueue α) (items : List α) : Prop where
  inRange : queue.head < queue.capacity
  length : queue.len = items.length
  fits : items.length ≤ queue.capacity
  slots : ∀ index, (within : index < items.length) →
    queue.items ((queue.head + index) % queue.capacity) = some items[index]
  quota : queue.quota.Holds (counted realmOf items)
  limits : queue.quota.limits =
    (Quota.init maxTrackedRealms queue.capacity defaultWatermarkPercent).limits

theorem filterMap_range_getElem? (items : List α) :
    (List.range items.length).filterMap (fun index => items[index]?) = items := by
  induction items using List.reverseRecOn with
  | nil => rfl
  | append_singleton items item ih =>
      have earlier : ∀ index ∈ List.range items.length,
          (items ++ [item])[index]? = items[index]? := fun index listed =>
        List.getElem?_append_left (List.mem_range.mp listed)
      rw [List.length_append, List.length_singleton, List.range_succ, List.filterMap_append,
        List.filterMap_congr earlier, ih]
      simp

namespace Stores

variable {realmOf : α → Option RealmId} {queue : RingQueue α} {items : List α} {item : α}

theorem init {capacity : Nat} (positive : 0 < capacity) :
    (RingQueue.init capacity : RingQueue α).Stores realmOf [] where
  inRange := positive
  length := rfl
  fits := Nat.zero_le _
  slots index within := absurd within (Nat.not_lt_zero index)
  quota := Quota.Holds.init _ _ _
  limits := rfl

theorem tracked (stores : queue.Stores realmOf items) :
    queue.quota.tracked = maxTrackedRealms := congrArg Prod.fst stores.limits

theorem setNotifier (stores : queue.Stores realmOf items) (notifier : Option Notifier) :
    (queue.setNotifier notifier).2.Stores realmOf items :=
  ⟨stores.inRange, stores.length, stores.fits, stores.slots, stores.quota, stores.limits⟩

/-- What a push takes from the quota is what its item counts. -/
theorem acquired (stores : queue.Stores realmOf items) (item : α) :
    ((realmOf item).elim queue.quota queue.quota.acquire).Holds
      (counted realmOf (items ++ [item])) := by
  cases has : realmOf item with
  | none => simpa [counted, has] using stores.quota
  | some realm =>
      simp only [Option.elim_some]
      by_cases known : realm < maxTrackedRealms
      · have here : counted realmOf (items ++ [item]) = counted realmOf items ++ [realm] := by
          simp [counted, has, known]
        rw [here]
        exact (stores.quota.acquire (stores.tracked ▸ known)).perm
          (List.perm_append_singleton realm _).symm
      · have here : counted realmOf (items ++ [item]) = counted realmOf items := by
          simp [counted, has, known]
        rw [here, Quota.acquire, if_pos (stores.tracked ▸ not_lt.mp known)]
        exact stores.quota

/-- What a pop gives back is what its item counted. -/
theorem released (stores : queue.Stores realmOf (item :: items)) :
    ((realmOf item).elim queue.quota queue.quota.release).Holds (counted realmOf items) := by
  have holds := stores.quota
  cases has : realmOf item with
  | none => simpa [counted, has] using holds
  | some realm =>
      simp only [Option.elim_some]
      by_cases known : realm < maxTrackedRealms
      · have here : counted realmOf (item :: items) = realm :: counted realmOf items := by
          simp [counted, has, known]
        rw [here] at holds
        exact holds.release
      · have here : counted realmOf (item :: items) = counted realmOf items := by
          simp [counted, has, known]
        rw [here] at holds
        rw [Quota.release, if_pos (stores.tracked ▸ not_lt.mp known)]
        exact holds

theorem store (stores : queue.Stores realmOf items) (item : α)
    (room : items.length < queue.capacity) :
    (queue.store realmOf item).Stores realmOf (items ++ [item]) where
  inRange := stores.inRange
  length := by simp [RingQueue.store, stores.length]
  fits := by
    rw [List.length_append, List.length_singleton]
    exact room
  slots index within := by
    simp only [List.length_append, List.length_singleton] at within
    simp only [RingQueue.store]
    by_cases last : index = items.length
    · subst last
      simp [stores.length]
    · have before : index < items.length := by omega
      have away : (queue.head + index) % queue.capacity ≠
          (queue.head + queue.len) % queue.capacity := by
        intro same
        have same : index % queue.capacity = queue.len % queue.capacity :=
          Nat.ModEq.add_left_cancel' queue.head same
        rw [Nat.mod_eq_of_lt (by omega), stores.length, Nat.mod_eq_of_lt room] at same
        exact last same
      rw [Function.update_of_ne away, stores.slots index before,
        List.getElem_append_left before]
  quota := stores.acquired item
  limits := by
    refine Eq.trans ?_ stores.limits
    rw [RingQueue.store]
    cases realmOf item
    · rfl
    · exact Quota.limits_acquire _ _

theorem drop (stores : queue.Stores realmOf (item :: items)) :
    (queue.drop realmOf item).Stores realmOf items where
  inRange := Nat.mod_lt _ (Nat.zero_lt_of_lt stores.inRange)
  length := by simp [RingQueue.drop, stores.length]
  fits := (Nat.le_succ _).trans stores.fits
  slots index within := by
    have next := stores.slots (index + 1) (by simpa using within)
    simp only [List.getElem_cons_succ] at next
    simp only [RingQueue.drop]
    rw [← next, Nat.mod_add_mod, Nat.add_assoc, Nat.add_comm 1 index]
  quota := stores.released
  limits := by
    refine Eq.trans ?_ stores.limits
    rw [RingQueue.drop]
    cases realmOf item
    · rfl
    · exact Quota.limits_release _ _

/-- A push is refused and changes nothing, or its item is the last of the queue. -/
theorem push (stores : queue.Stores realmOf items) (item : α) :
    (∃ problem, queue.push realmOf item = (.error problem, queue)) ∨
      (queue.push realmOf item =
        (.ok (if items = [] then queue.notifier else none), queue.store realmOf item) ∧
        (queue.store realmOf item).Stores realmOf (items ++ [item])) := by
  unfold RingQueue.push
  by_cases full : queue.len = queue.capacity
  · exact .inl ⟨.queueFull, by simp [full]⟩
  by_cases refused : (realmOf item).all queue.quota.allows = false
  · exact .inl ⟨.realmOverShare, by simp [full, refused]⟩
  refine .inr ⟨?_, stores.store item (lt_of_le_of_ne stores.fits (stores.length ▸ full))⟩
  have empty : queue.len = 0 ↔ items = [] := by rw [stores.length, List.length_eq_zero_iff]
  simp only [full, refused, Bool.true_eq_false, if_false, empty]

/-- A pop takes the first item of the queue. -/
theorem pop (stores : queue.Stores realmOf (item :: items)) :
    queue.pop realmOf = (some item, queue.drop realmOf item) ∧
      (queue.drop realmOf item).Stores realmOf items := by
  have first := stores.slots 0 (by simp)
  rw [Nat.add_zero, Nat.mod_eq_of_lt stores.inRange, List.getElem_cons_zero] at first
  have held : queue.len ≠ 0 := by simp [stores.length]
  exact ⟨by simp only [RingQueue.pop, held, if_false, first], stores.drop⟩

theorem pop_nil (stores : queue.Stores realmOf []) : queue.pop realmOf = (none, queue) := by
  simp [RingQueue.pop, stores.length]

theorem contents_eq (stores : queue.Stores realmOf items) : queue.contents = items := by
  have same : ∀ index ∈ List.range queue.len,
      queue.items ((queue.head + index) % queue.capacity) = items[index]? := by
    intro index listed
    have within : index < items.length := stores.length ▸ List.mem_range.mp listed
    rw [stores.slots index within, List.getElem?_eq_getElem within]
  rw [contents, List.filterMap_congr same, stores.length, filterMap_range_getElem?]

end Stores

/-- The ring and the list of messages stand for the same queue. -/
structure Refines (ring : RingQueue AppMessage) (queue : MessageQueue) : Prop where
  stores : ring.Stores AppMessage.tracked queue.items
  capacity : ring.capacity = queue.capacity
  quota : ring.quota = queue.quota

namespace Refines

variable {ring : RingQueue AppMessage} {queue : MessageQueue}

/-- A push of the list answers as the push of the ring does. -/
theorem push (refines : ring.Refines queue) (message : AppMessage) :
    match queue.push message with
    | .error problem => ring.push AppMessage.tracked message = (.error problem, ring)
    | .ok after => ∃ waiting pushed, ring.push AppMessage.tracked message = (.ok waiting, pushed) ∧
        pushed.Refines after := by
  have full : ring.len = ring.capacity ↔ queue.items.length = queue.capacity := by
    rw [refines.stores.length, refines.capacity]
  have allows : (AppMessage.tracked message).all ring.quota.allows =
      queue.quota.allows message.realm := by
    simp [AppMessage.tracked, refines.quota]
  unfold MessageQueue.push RingQueue.push
  rw [allows]
  by_cases isFull : queue.items.length = queue.capacity
  · simp [isFull, full]
  by_cases refused : queue.quota.allows message.realm = false
  · simp [isFull, full, refused]
  simp only [isFull, full, refused, if_false]
  exact ⟨_, _, rfl, refines.stores.store message
    (lt_of_le_of_ne refines.stores.fits (refines.capacity ▸ isFull)), refines.capacity,
    congrArg (·.acquire message.realm) refines.quota⟩

theorem pop (refines : ring.Refines queue) :
    match queue.pop with
    | none => ring.pop AppMessage.tracked = (none, ring)
    | some (message, after) => ∃ popped, ring.pop AppMessage.tracked = (some message, popped) ∧
        popped.Refines after := by
  obtain ⟨stores, capacity, quota⟩ := refines
  unfold MessageQueue.pop
  cases held : queue.items with
  | nil => exact (held ▸ stores).pop_nil
  | cons message rest =>
      obtain ⟨popped, after⟩ := (held ▸ stores).pop
      exact ⟨_, popped, after, capacity, congrArg (·.release message.realm) quota⟩

end Refines

end RingQueue

/-- What the threads of a node do with the queue of one worker. -/
inductive HandoffEvent where
  | deliver (thread : Nat) (bytes : Bytes) (realm : RealmId) (session : Nat)
  | pop (thread : Nat)
  | setNotifier (thread : Nat) (notifier : Option Notifier)
  | notify (thread : Nat)
  deriving DecidableEq, Repr

/-- The queue of a worker, what the threads outside the lock are about to notify, and the history:
the messages that were accepted and popped, and the notifiers called since the queue was last
empty. -/
structure Handoff where
  queue : RingQueue AppMessage
  inHand : Nat → Option Notifier := fun _ => none
  accepted : List AppMessage := []
  popped : List AppMessage := []
  notified : List Notifier := []

namespace Handoff

def init (capacity : Nat) : Handoff := { queue := RingQueue.init capacity }

/-- A thread between its lock and its notification does nothing else. -/
def step (handoff : Handoff) : HandoffEvent → Handoff
  | .deliver thread bytes realm session =>
      if handoff.inHand thread ≠ none then handoff
      else
        match AppMessage.init bytes realm session with
        | .error _ => handoff
        | .ok message =>
            match handoff.queue.push AppMessage.tracked message with
            | (.error _, queue) => { handoff with queue := queue }
            | (.ok notifier, queue) => { handoff with
                queue := queue
                inHand := Function.update handoff.inHand thread notifier
                accepted := handoff.accepted ++ [message]
                notified := if handoff.queue.len = 0 then [] else handoff.notified }
  | .pop thread =>
      if handoff.inHand thread ≠ none then handoff
      else
        match handoff.queue.pop AppMessage.tracked with
        | (none, queue) => { handoff with queue := queue }
        | (some message, queue) => { handoff with
            queue := queue
            popped := handoff.popped ++ [message] }
  | .setNotifier thread notifier =>
      if handoff.inHand thread ≠ none then handoff
      else
        match handoff.queue.setNotifier notifier with
        | (waiting, queue) => { handoff with
            queue := queue
            inHand := Function.update handoff.inHand thread waiting }
  | .notify thread =>
      match handoff.inHand thread with
      | none => handoff
      | some notifier => { handoff with
          inHand := Function.update handoff.inHand thread none
          notified := notifier :: handoff.notified }

/-- A registered notifier of a queue that is not empty was called, or is about to be. -/
def Wakes (handoff : Handoff) : Prop :=
  handoff.queue.len ≠ 0 → ∀ notifier, handoff.queue.notifier = some notifier →
    notifier ∈ handoff.notified ∨ ∃ thread, handoff.inHand thread = some notifier

/-- The queue holds what was accepted and not popped yet, and the owner learns of it. -/
structure Lawful (handoff : Handoff) (waiting : List AppMessage) : Prop where
  stores : handoff.queue.Stores AppMessage.tracked waiting
  history : handoff.popped ++ waiting = handoff.accepted
  wakes : handoff.Wakes

namespace Lawful

variable {handoff : Handoff} {waiting : List AppMessage}

theorem deliver (lawful : handoff.Lawful waiting) (thread : Nat) (bytes : Bytes) (realm : RealmId)
    (session : Nat) : ∃ after, (handoff.step (.deliver thread bytes realm session)).Lawful after := by
  simp only [step]
  split
  · exact ⟨waiting, lawful⟩
  rename_i idle
  cases made : AppMessage.init bytes realm session with
  | error problem => exact ⟨waiting, lawful⟩
  | ok message =>
      obtain ⟨problem, refused⟩ | ⟨taken, stores⟩ := lawful.stores.push message
      · simp only [refused]
        exact ⟨waiting, lawful⟩
      simp only [taken]
      refine ⟨waiting ++ [message], stores, ?_, fun _ notifier registered => ?_⟩
      · rw [← lawful.history, List.append_assoc]
      have registered : handoff.queue.notifier = some notifier := registered
      by_cases empty : waiting = []
      · -- the edge: this thread takes the notifier out of the lock
        exact .inr ⟨thread, by simp [empty, registered]⟩
      · have held : handoff.queue.len ≠ 0 := by simpa [lawful.stores.length] using empty
        obtain called | ⟨other, holds⟩ := lawful.wakes held notifier registered
        · exact .inl (by simpa [held] using called)
        · refine .inr ⟨other, ?_⟩
          have different : other ≠ thread := by
            rintro rfl
            exact idle (by simp [holds])
          simpa [different] using holds

theorem pop (lawful : handoff.Lawful waiting) (thread : Nat) :
    ∃ after, (handoff.step (.pop thread)).Lawful after := by
  simp only [step]
  split
  · exact ⟨waiting, lawful⟩
  cases waiting with
  | nil =>
      rw [lawful.stores.pop_nil]
      exact ⟨[], lawful⟩
  | cons message rest =>
      obtain ⟨popped, stores⟩ := lawful.stores.pop
      simp only [popped]
      refine ⟨rest, stores, ?_, fun _ notifier registered => ?_⟩
      · rw [← lawful.history, List.append_assoc, List.singleton_append]
      have held : handoff.queue.len ≠ 0 := by simp [lawful.stores.length]
      exact lawful.wakes held notifier registered

theorem setNotifier (lawful : handoff.Lawful waiting) (thread : Nat)
    (notifier : Option Notifier) :
    ∃ after, (handoff.step (.setNotifier thread notifier)).Lawful after := by
  simp only [step]
  split
  · exact ⟨waiting, lawful⟩
  refine ⟨waiting, lawful.stores.setNotifier notifier, lawful.history, fun held other registered =>
    .inr ⟨thread, ?_⟩⟩
  have registered : notifier = some other := registered
  have held : handoff.queue.len ≠ 0 := held
  simp [RingQueue.setNotifier, held, registered]

theorem notify (lawful : handoff.Lawful waiting) (thread : Nat) :
    ∃ after, (handoff.step (.notify thread)).Lawful after := by
  simp only [step]
  cases holds : handoff.inHand thread with
  | none => exact ⟨waiting, lawful⟩
  | some called =>
      refine ⟨waiting, lawful.stores, lawful.history, fun held notifier registered => ?_⟩
      obtain before | ⟨other, has⟩ := lawful.wakes held notifier registered
      · exact .inl (List.mem_cons_of_mem _ before)
      by_cases same : other = thread
      · subst same
        rw [holds] at has
        exact .inl (by simp [Option.some.inj has])
      · exact .inr ⟨other, by simpa [same] using has⟩

theorem step (lawful : handoff.Lawful waiting) (event : HandoffEvent) :
    ∃ after, (handoff.step event).Lawful after := by
  cases event with
  | deliver thread bytes realm session => exact lawful.deliver thread bytes realm session
  | pop thread => exact lawful.pop thread
  | setNotifier thread notifier => exact lawful.setNotifier thread notifier
  | notify thread => exact lawful.notify thread

theorem run {capacity : Nat} (positive : 0 < capacity) (events : List HandoffEvent) :
    ∃ waiting, (Run.final Handoff.step (Handoff.init capacity) events).Lawful waiting := by
  suffices all : ∀ handoff waiting, Lawful handoff waiting →
      ∃ after, (Run.final Handoff.step handoff events).Lawful after from
    all _ [] ⟨RingQueue.Stores.init positive, rfl, fun held => absurd rfl held⟩
  induction events with
  | nil => exact fun handoff waiting lawful => ⟨waiting, lawful⟩
  | cons event events ih =>
      intro handoff waiting lawful
      obtain ⟨after, next⟩ := lawful.step event
      exact ih _ after next

/-- A delivery is refused as a whole, or its message is the last one of the queue. -/
theorem deliver_eq (lawful : handoff.Lawful waiting) (thread : Nat) (bytes : Bytes)
    (realm : RealmId) (session : Nat) :
    handoff.step (.deliver thread bytes realm session) = handoff ∨
      (handoff.step (.deliver thread bytes realm session)).accepted =
        handoff.accepted ++ [{ realm := realm, session := session, bytes := bytes }] := by
  simp only [Handoff.step]
  split
  · exact .inl rfl
  cases made : AppMessage.init bytes realm session with
  | error problem => exact .inl rfl
  | ok message =>
      have is : message = { realm := realm, session := session, bytes := bytes } := by
        unfold AppMessage.init at made
        split at made
        · simp at made
        · exact (Except.ok.inj made).symm
      obtain ⟨problem, refused⟩ | ⟨taken, -⟩ := lawful.stores.push message
      · exact .inl (by simp only [refused])
      · exact .inr (by simp only [taken, ← is])

end Lawful

/-- In every interleaving the messages come out in the order in which they were accepted, with their
bytes, realm and session; a delivery that is refused changes nothing; the quota counts the waiting
messages of every tracked realm; and a notifier that is registered while messages wait has been
called since the queue was last empty, or a thread that has just left the lock is about to. -/
theorem run_exact (capacity : Nat) (positive : 0 < capacity) (events : List HandoffEvent) :
    let handoff := Run.final step (init capacity) events
    handoff.popped ++ handoff.queue.contents = handoff.accepted ∧
    (∀ thread bytes realm session,
      handoff.step (.deliver thread bytes realm session) = handoff ∨
        (handoff.step (.deliver thread bytes realm session)).accepted =
          handoff.accepted ++ [{ realm := realm, session := session, bytes := bytes }]) ∧
    (∀ realm < maxTrackedRealms, handoff.queue.quota.counts realm =
      (handoff.queue.contents.filter (·.realm = realm)).length) ∧
    handoff.queue.quota.total =
      (handoff.queue.contents.filter (·.realm < maxTrackedRealms)).length ∧
    (handoff.queue.contents ≠ [] → ∀ notifier, handoff.queue.notifier = some notifier →
      notifier ∈ handoff.notified ∨ ∃ thread, handoff.inHand thread = some notifier) := by
  obtain ⟨waiting, lawful⟩ := Lawful.run positive events
  have counts := lawful.stores.quota.counts
  have total := lawful.stores.quota.total
  dsimp only
  rw [lawful.stores.contents_eq]
  refine ⟨lawful.history, lawful.deliver_eq, fun realm known => ?_, ?_, fun held =>
    lawful.wakes (by simpa [lawful.stores.length] using held)⟩
  · rw [counts, RingQueue.counted_tracked, List.count_filter (by simpa using known),
      List.count_eq_countP, List.countP_map, List.countP_eq_length_filter]
    congr 2
  · rw [total, RingQueue.counted_tracked, List.filter_map, List.length_map]
    rfl

/-- Two messages of different realms, with the notifier called once. -/
theorem run_exact_two :
    let events := [HandoffEvent.setNotifier 1 (some 7), .deliver 2 [0x61] 1 0, .notify 2,
      .deliver 3 [0x62] 2 9, .pop 1]
    (Run.final step (init 2) events).popped ++ (Run.final step (init 2) events).queue.contents =
      (Run.final step (init 2) events).accepted :=
  (run_exact 2 (by decide) _).1

/-- A realm beyond the tracked ones waits uncounted, and a message waits before its thread has
called the notifier. -/
theorem run_untracked :
    let events := [HandoffEvent.setNotifier 1 (some 7), .deliver 2 [0x61] 1024 0]
    let handoff := Run.final step (init 2) events
    handoff.queue.contents = [{ realm := 1024, bytes := [0x61] }] ∧
      handoff.queue.quota.counts 1024 = 0 ∧ handoff.queue.notifier = some 7 ∧
      handoff.notified = [] := by
  decide

end Handoff

end LyuneGateway.Io
