import LyuneGateway.Foundation.Quota

/-!
# Messages between the workers of a node

Every worker has one bounded queue of application messages. A push is refused
as a whole or taken as a whole, and a realm may be refused while there is room
for others.
-/

namespace LyuneGateway.Io

open Foundation

def maxMessageSize : Nat := 8 + 65535

/-- A frame on its way to another worker; session zero stands for a one-shot message. -/
structure AppMessage where
  realm : RealmId
  session : Nat := 0
  bytes : Bytes
  deriving DecidableEq, Repr

inductive HandoffError where
  | invalidWorkerId
  | messageTooLarge
  | queueFull
  | realmOverShare
  deriving DecidableEq, Repr

/-- The messages of one worker, the oldest first. -/
structure MessageQueue where
  items : List AppMessage := []
  capacity : Nat
  quota : Quota

namespace MessageQueue

def init (capacity : Nat) : MessageQueue where
  capacity := capacity
  quota := Quota.init maxTrackedRealms capacity defaultWatermarkPercent

def push (queue : MessageQueue) (message : AppMessage) : Except HandoffError MessageQueue :=
  if queue.items.length = queue.capacity then .error .queueFull
  else if queue.quota.allows message.realm = false then .error .realmOverShare
  else .ok { queue with
    items := queue.items ++ [message]
    quota := queue.quota.acquire message.realm }

def pop (queue : MessageQueue) : Option (AppMessage × MessageQueue) :=
  match queue.items with
  | [] => none
  | message :: items =>
      some (message, { queue with items := items, quota := queue.quota.release message.realm })

theorem push_eq_ok {queue after : MessageQueue} {message : AppMessage}
    (pushed : queue.push message = .ok after) : after.items = queue.items ++ [message] := by
  unfold push at pushed
  split at pushed
  · simp at pushed
  split at pushed
  · simp at pushed
  · cases pushed
    rfl

theorem pop_eq_some {queue after : MessageQueue} {message : AppMessage}
    (popped : queue.pop = some (message, after)) : queue.items = message :: after.items := by
  unfold pop at popped
  split at popped
  · simp at popped
  · rename_i held
    cases popped
    exact held

end MessageQueue

structure MessageRouter where
  workerCount : Nat
  queues : Nat → MessageQueue

namespace MessageRouter

def init (workerCount capacity : Nat) : MessageRouter where
  workerCount := workerCount
  queues := fun _ => .init capacity

def deliver (router : MessageRouter) (workerId : Nat) (bytes : Bytes) (realm : RealmId)
    (session : Nat) : Except HandoffError MessageRouter :=
  if router.workerCount ≤ workerId then .error .invalidWorkerId
  else if maxMessageSize < bytes.length then .error .messageTooLarge
  else
    match (router.queues workerId).push { realm := realm, session := session, bytes := bytes } with
    | .error error => .error error
    | .ok queue => .ok { router with queues := Function.update router.queues workerId queue }

def pop (router : MessageRouter) (workerId : Nat) : Option (AppMessage × MessageRouter) :=
  if router.workerCount ≤ workerId then none
  else
    match (router.queues workerId).pop with
    | none => none
    | some (message, queue) =>
        some (message, { router with queues := Function.update router.queues workerId queue })

/-- The messages that wait for a worker. -/
def pending (router : MessageRouter) (workerId : Nat) : List AppMessage :=
  (router.queues workerId).items

theorem deliver_eq_ok {router after : MessageRouter} {workerId : Nat} {bytes : Bytes}
    {realm : RealmId} {session : Nat}
    (delivered : router.deliver workerId bytes realm session = .ok after) :
    after.workerCount = router.workerCount ∧ workerId < router.workerCount ∧
      after.pending = Function.update router.pending workerId
        (router.pending workerId ++ [{ realm := realm, session := session, bytes := bytes }]) := by
  unfold deliver at delivered
  split at delivered
  · simp at delivered
  rename_i exists_
  split at delivered
  · simp at delivered
  split at delivered
  · simp at delivered
  rename_i queue pushed
  cases delivered
  refine ⟨rfl, not_le.mp exists_, ?_⟩
  funext other
  by_cases same : other = workerId
  · subst same
    simp [pending, MessageQueue.push_eq_ok pushed]
  · simp [pending, same]

theorem pop_eq_some {router after : MessageRouter} {workerId : Nat} {message : AppMessage}
    (popped : router.pop workerId = some (message, after)) :
    after.workerCount = router.workerCount ∧
      router.pending workerId = message :: after.pending workerId ∧
      ∀ other, other ≠ workerId → after.pending other = router.pending other := by
  unfold pop at popped
  split at popped
  · simp at popped
  split at popped
  · simp at popped
  rename_i popped'
  cases popped
  refine ⟨rfl, ?_, fun other different => ?_⟩
  · simpa [pending] using MessageQueue.pop_eq_some popped'
  · simp [pending, different]

end MessageRouter

end LyuneGateway.Io
