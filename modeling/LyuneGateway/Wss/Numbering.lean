import LyuneGateway.Worker.Ingress
import LyuneGateway.Wss.Moves

/-!
# The numbers of the streams on a WebSocket connection

A client numbers the streams it opens 0, 4, 8, and so on, the gateway numbers
its own 1, 5, 9. The client may leave numbers out, the gateway may not. The
session gives out the gateway's numbers and the connection checks them: both
count in step as long as the connection is open, since whatever could set them
apart closes it.
-/

namespace LyuneGateway.Wss

open Session

/-- The streams that the gateway has opened on a session. `opened` is no part of the session: it
keeps every number that has been given out, the oldest first. -/
structure Outbound where
  transport : TransportSession := { kind := .wss, ptr := 0 }
  opened : List Nat := []
  deriving Repr

namespace Outbound

/-- The number of the next stream is given out, whatever becomes of the first write on it. -/
def reserve (outbound : Outbound) : Outbound where
  transport := outbound.transport.reserveOutboundExchange
  opened := outbound.opened ++ [outbound.transport.nextOutboundExchangeId]

/-- A worker writes on the streams of the client, and on those of its own that it has opened. -/
def mayAsk (outbound : Outbound) : Call → Bool
  | .write streamId _ _ => streamId % 4 ≠ 1 || outbound.opened.contains streamId
  | _ => true

end Outbound

/-- What a worker does with an event, through its session: the number of a stream that it opens is
chosen there. -/
inductive Wish (Worker : Type) where
  | done (worker : Worker)
  | open (bytes : Bytes) (fin : Bool) (resume : Option Nat → Wish Worker)
  | call (call : Call) (resume : Bool → Wish Worker)

namespace Wish

variable {Worker : Type}

/-- The calls that a wish comes down to. -/
def carryOut : Wish Worker → Outbound → Reaction (Worker × Outbound)
  | .done worker, outbound => .done (worker, outbound)
  | .open bytes fin resume, outbound =>
      let streamId := outbound.transport.nextOutboundExchangeId
      .call (.write streamId bytes fin) fun answer =>
        (resume (if answer then some streamId else none)).carryOut outbound.reserve
  | .call wanted resume, outbound =>
      if outbound.mayAsk wanted then .call wanted fun answer => (resume answer).carryOut outbound
      else (resume false).carryOut outbound

end Wish

/-- A worker that reaches its client through a session. -/
structure Gateway (Worker : Type) where
  init : Worker
  accept : Worker → Option Bytes → Option SessionHandle × Worker
  streamData : Worker → SessionHandle → Nat → Bytes → Bool → Wish Worker
  control : Worker → SessionHandle → Nat → StreamControl → Wish Worker
  ephemeral : Worker → SessionHandle → Bytes → Wish Worker
  closed : Worker → SessionHandle → Wish Worker

/-- A session begins with a transport of its own when it is accepted. -/
def Gateway.handler {Worker : Type} (gateway : Gateway Worker) : Handler (Worker × Outbound) where
  init := (gateway.init, {})
  accept both serverName :=
    match gateway.accept both.1 serverName with
    | (none, worker) => (none, (worker, both.2))
    | (some handle, worker) => (some handle, (worker, {}))
  streamData both handle streamId bytes fin :=
    (gateway.streamData both.1 handle streamId bytes fin).carryOut both.2
  control both handle streamId control :=
    (gateway.control both.1 handle streamId control).carryOut both.2
  ephemeral both handle bytes := (gateway.ephemeral both.1 handle bytes).carryOut both.2
  closed both handle := (gateway.closed both.1 handle).carryOut both.2

/-- What happens to a connection, with the worker acting through its session. -/
inductive Happening where
  | read (result : Option Bytes)
  | wrote (result : Option Nat)
  | poll (now : Nat)
  | loopStopped
  | open (bytes : Bytes) (fin : Bool)
  | call (call : Call)

/-- The stream that a call has taken a first frame on. -/
def Asked.claimed (asked : Asked) : Option Nat :=
  match asked.call with
  | .claimInboundExchange streamId => if asked.answer then some streamId else none
  | _ => none

/-- A write on a stream of the gateway that finds the connection open is on one that the connection
knows, or on the next. -/
def Asked.Known (asked : Asked) : Prop :=
  ∀ streamId bytes fin, asked.call = .write streamId bytes fin → streamId % 4 = 1 →
    asked.before.state = .open →
    (noteServerExchange asked.before.highestServerExchangeId streamId).isSome

/-- The numbers that the gateway has written on, in the order of its records. -/
def gatewayStreams (records : List Record) : List Nat :=
  (records.filter fun record => record.recordType = .stream && record.streamId % 4 = 1).map
    Record.streamId

/-- The binary messages among the frames carry these records. -/
def Carries (frames : List Bytes) (records : List Record) : Prop :=
  (frames.filter isBinary).map Except.ok = records.map Queue.frameRecord

/-- The first numbers of the gateway. -/
def firstNumbers (count : Nat) : List Nat := (List.range count).map (4 * · + 1)

namespace Connection

variable {State Worker : Type}

/-- The streams of the client on which a first frame has been taken, the oldest first. -/
def claimed (connection : Connection State Worker) : List Nat :=
  connection.calls.filterMap Asked.claimed

section Events

variable (config : ListenerConfig) (tls : Tls State) (gateway : Gateway Worker)

/-- The worker opens a stream on the session of the connection. -/
def openStream (connection : Connection State (Worker × Outbound)) (bytes : Bytes) (fin : Bool) :
    Connection State (Worker × Outbound) :=
  let (worker, outbound) := connection.worker
  ({ connection with worker := (worker, outbound.reserve) }.ask tls
    (drive config tls gateway.handler)
    (.write outbound.transport.nextOutboundExchangeId bytes fin)).2

def happen (connection : Connection State (Worker × Outbound)) :
    Happening → Connection State (Worker × Outbound)
  | .read result => connection.step config tls gateway.handler (.read result)
  | .wrote result => connection.step config tls gateway.handler (.wrote result)
  | .poll now => connection.step config tls gateway.handler (.poll now)
  | .loopStopped => connection.step config tls gateway.handler .loopStopped
  | .open bytes fin =>
      if connection.socketClosed = false ∧ connection.session.isSome then
        connection.openStream config tls gateway bytes fin
      else connection
  | .call call =>
      if connection.worker.2.mayAsk call then
        connection.step config tls gateway.handler (.call call)
      else connection

end Events

/-- No stream of the client is opened twice; the gateway opens its own in the order of their
numbers, without a gap; and the connection knows every stream that the gateway writes on. -/
structure KeepsNumbers (connection : Connection State (Worker × Outbound)) : Prop where
  claimed : connection.claimed.Pairwise (· < ·)
  given : ∃ count, connection.worker.2.opened = firstNumbers count
  opened : ∃ records count, Carries connection.output.accepted records ∧
    (gatewayStreams records).eraseDups = firstNumbers count
  known : ∀ asked ∈ connection.calls, asked.Known

end Connection

/-! ## Counting in step -/

theorem firstNumbers_succ (count : Nat) :
    firstNumbers (count + 1) = firstNumbers count ++ [4 * count + 1] := by
  simp [firstNumbers, List.range_succ]

theorem mem_firstNumbers {count streamId : Nat} :
    streamId ∈ firstNumbers count ↔ ∃ index < count, 4 * index + 1 = streamId := by
  simp [firstNumbers]

theorem getLast_firstNumbers_succ (count : Nat) :
    (firstNumbers (count + 1)).getLast? = some (4 * count + 1) := by
  simp [firstNumbers_succ]

/-- A stream that has a number already is known. -/
theorem note_known {count streamId : Nat} (given : streamId ∈ firstNumbers count) :
    noteServerExchange (firstNumbers count).getLast? streamId =
      some (firstNumbers count).getLast? := by
  obtain ⟨index, below, rfl⟩ := mem_firstNumbers.mp given
  obtain ⟨count, rfl⟩ := Nat.exists_eq_succ_of_ne_zero (Nat.ne_of_gt (Nat.zero_lt_of_lt below))
  rw [getLast_firstNumbers_succ]
  have low : 4 * index + 1 ≤ 4 * count + 1 := by omega
  simp [noteServerExchange, low]

/-- The next number is taken. -/
theorem note_next (count : Nat) :
    noteServerExchange (firstNumbers count).getLast? (4 * count + 1) =
      some (firstNumbers (count + 1)).getLast? := by
  rw [getLast_firstNumbers_succ]
  cases count with
  | zero => rfl
  | succ count =>
      rw [getLast_firstNumbers_succ]
      have high : ¬ 4 * (count + 1) + 1 ≤ 4 * count + 1 := by omega
      simp [noteServerExchange, high]
      omega

theorem eraseDups_concat {α : Type} [BEq α] [LawfulBEq α] (items : List α) (item : α) :
    (items ++ [item]).eraseDups =
      if item ∈ items then items.eraseDups else items.eraseDups ++ [item] := by
  rw [List.eraseDups_append]
  by_cases old : item ∈ items
  · simp [List.removeAll, old]
  · simp [List.removeAll, old]
    rfl

theorem carries_append {frames more : List Bytes} {records others : List Record}
    (first : Carries frames records) (second : Carries more others) :
    Carries (frames ++ more) (records ++ others) := by
  unfold Carries at *
  rw [List.filter_append, List.map_append, List.map_append, first, second]

theorem carries_frame {frame : Bytes} (other : isBinary frame = false) : Carries [frame] [] := by
  simp [Carries, other]

theorem carries_record {frame : Bytes} {record : Record}
    (framed : Queue.frameRecord record = .ok frame) : Carries [frame] [record] := by
  simp [Carries, Queue.isBinary_frameRecord framed, framed]

theorem gatewayStreams_append (records others : List Record) :
    gatewayStreams (records ++ others) = gatewayStreams records ++ gatewayStreams others := by
  simp [gatewayStreams]

namespace Queue

/-- A record is framed and queued, or dropped when it may be. -/
theorem accepted_of_enqueueRecord {queue output : Queue} {record : Record} {delivery : Delivery}
    {outcome : EnqueueOutcome}
    (taken : queue.enqueueRecord record delivery = .ok (outcome, output)) :
    (∃ frame, frameRecord record = .ok frame ∧ output.accepted = queue.accepted ++ [frame]) ∨
      (delivery = .ephemeral ∧ output = queue) := by
  unfold enqueueRecord at taken
  split at taken
  · cases taken
  rename_i frame framed
  split at taken
  · rename_i queued
    cases taken
    exact .inl ⟨frame, framed, accepted_of_enqueue queued⟩
  · split at taken
    · rename_i lossy
      cases taken
      exact .inr ⟨lossy, rfl⟩
    · cases taken

theorem accepted_of_enqueueDiscard {queue output : Queue} {streamId appErrorCode : Nat}
    (taken : queue.enqueueDiscard streamId appErrorCode = .ok output) :
    ∃ reset stop, output.accepted = queue.accepted ++ [reset, stop] ∧
      frameRecord { recordType := .reset, streamId := streamId, appErrorCode := appErrorCode } =
        .ok reset ∧
      frameRecord { recordType := .stop, streamId := streamId, appErrorCode := appErrorCode } =
        .ok stop := by
  unfold enqueueDiscard at taken
  dsimp only at taken
  split at taken
  · rename_i reset stop first second
    split at taken
    · cases taken
    · cases taken
      exact ⟨reset, stop, by simp, first, second⟩
  · cases taken

end Queue

namespace Outbound

/-- The numbers given out are the first ones, and the counter is at the next. -/
def Counted (outbound : Outbound) : Prop :=
  ∃ count, outbound.opened = firstNumbers count ∧
    outbound.transport.nextOutboundExchangeId = 4 * count + 1

theorem counted_new : Counted {} := ⟨0, rfl, rfl⟩

theorem Counted.reserve {outbound : Outbound} (counted : outbound.Counted) :
    outbound.reserve.Counted := by
  obtain ⟨count, opened, next⟩ := counted
  refine ⟨count + 1, ?_, ?_⟩
  · simp only [Outbound.reserve, firstNumbers_succ, opened, next]
  · simp only [Outbound.reserve, TransportSession.reserveOutboundExchange, next]
    omega

/-- How a write may come about: on a stream of the client, on one that has been opened, or to open
the next one. -/
inductive Covers : Outbound → Nat → Outbound → Prop where
  | client {outbound : Outbound} {streamId : Nat} (other : streamId % 4 ≠ 1) :
      Covers outbound streamId outbound
  | given {outbound : Outbound} {streamId : Nat} (listed : streamId ∈ outbound.opened) :
      Covers outbound streamId outbound
  | next {outbound : Outbound} :
      Covers outbound outbound.transport.nextOutboundExchangeId outbound.reserve

namespace Covers

variable {before after : Outbound} {streamId : Nat}

theorem of_mayAsk {outbound : Outbound} {bytes : Bytes} {fin : Bool}
    (may : outbound.mayAsk (.write streamId bytes fin) = true) :
    Covers outbound streamId outbound := by
  simp only [mayAsk, ne_eq, decide_not, Bool.or_eq_true, Bool.not_eq_true', decide_eq_false_iff_not,
    List.contains_iff_mem] at may
  exact may.elim .client .given

theorem counted (covers : Covers before streamId after) (counted : before.Counted) :
    after.Counted := by
  cases covers with
  | client other => exact counted
  | given listed => exact counted
  | next => exact counted.reserve

theorem wider (covers : Covers before streamId after) : before.opened <+: after.opened := by
  cases covers with
  | client other => exact List.prefix_rfl
  | given listed => exact List.prefix_rfl
  | next => exact List.prefix_append ..

/-- A connection that has counted along takes the number. -/
theorem noted (covers : Covers before streamId after) (counted : before.Counted) :
    (if streamId % 4 = 1 then noteServerExchange before.opened.getLast? streamId
      else some before.opened.getLast?) = some after.opened.getLast? := by
  obtain ⟨count, opened, next⟩ := counted
  cases covers with
  | client other => rw [if_neg other]
  | given listed =>
      rw [opened] at listed ⊢
      split
      · exact note_known listed
      · rfl
  | next =>
      have own : (4 * count + 1) % 4 = 1 := by omega
      simp only [reserve, next, own, if_true, opened, ← firstNumbers_succ]
      exact note_next count

/-- So do the records that have been sent. -/
theorem eraseDups (covers : Covers before streamId after) (counted : before.Counted)
    {records : List Record} (sent : (gatewayStreams records).eraseDups = before.opened)
    (fin : Bool) (bytes : Bytes) :
    (gatewayStreams (records ++
      [{ recordType := .stream, streamId := streamId, fin := fin, payload := bytes }])).eraseDups =
      after.opened := by
  have own : gatewayStreams
      [{ recordType := .stream, streamId := streamId, fin := fin, payload := bytes }] =
      if streamId % 4 = 1 then [streamId] else [] := by
    by_cases numbered : streamId % 4 = 1 <;> simp [gatewayStreams, numbered]
  rw [gatewayStreams_append, own]
  obtain ⟨count, opened, next⟩ := counted
  cases covers with
  | client other => rw [if_neg other, List.append_nil, sent]
  | given listed =>
      split
      · rw [eraseDups_concat, if_pos (by rwa [← List.mem_eraseDups, sent]), sent]
      · rw [List.append_nil, sent]
  | next =>
      have fresh : ¬ 4 * count + 1 ∈ gatewayStreams records := by
        rw [← List.mem_eraseDups, sent, opened, mem_firstNumbers]
        rintro ⟨index, below, same⟩
        omega
      rw [next, if_pos (by omega), eraseDups_concat, if_neg fresh, sent]
      simp [reserve, next]

end Covers

end Outbound

end LyuneGateway.Wss
