import Mathlib.Logic.Function.Basic
import LyuneGateway.Wss.Envelope
import LyuneGateway.Wss.Websocket

/-!
# The output queue of a WebSocket connection

Frames wait in a ring of bytes until they are encrypted; a second ring says where
each begins and how much of it has been taken. Neither ring grows: what does not
fit is refused as a whole, or dropped as a whole when it may be lost.
-/

namespace LyuneGateway.Wss

inductive Delivery where
  | reliable
  | ephemeral
  deriving DecidableEq, Repr

inductive EnqueueOutcome where
  | queued
  | dropped
  deriving DecidableEq, Repr

inductive QueueError where
  | queueFull
  | recordTooLarge
  | invalidRecord
  deriving DecidableEq, Repr

/-- Where a frame lies in the ring of bytes. -/
structure Entry where
  start : Nat := 0
  len : Nat := 0
  sent : Nat := 0
  deriving DecidableEq, Repr

/-- Both rings are arrays of a fixed length. `accepted` is no part of the queue: it keeps every
frame that has been taken in, the oldest first. -/
structure Queue where
  byteCapacity : Nat
  recordCapacity : Nat
  bytes : Nat → UInt8 := fun _ => 0
  entries : Nat → Entry := fun _ => {}
  byteWrite : Nat := 0
  bytesUsed : Nat := 0
  entryHead : Nat := 0
  entryCount : Nat := 0
  accepted : List Bytes := []

namespace Queue

def init (byteCapacity recordCapacity : Nat) : Queue where
  byteCapacity := byteCapacity
  recordCapacity := recordCapacity

def hasCapacity (queue : Queue) (byteCount recordCount : Nat) : Bool :=
  byteCount ≤ queue.byteCapacity - queue.bytesUsed &&
    recordCount ≤ queue.recordCapacity - queue.entryCount

def writeByte (queue : Queue) (byte : UInt8) : Queue :=
  { queue with
    bytes := Function.update queue.bytes queue.byteWrite byte
    byteWrite := (queue.byteWrite + 1) % queue.byteCapacity }

/-- The bytes are copied into the ring, from its start again when its end is reached. -/
def writeBytes (queue : Queue) (input : Bytes) : Queue := input.foldl writeByte queue

def enqueuePieces (queue : Queue) (frame : Bytes) : Queue :=
  let index := (queue.entryHead + queue.entryCount) % queue.recordCapacity
  { queue with
    entries := Function.update queue.entries index
      { start := queue.byteWrite, len := frame.length }
    entryCount := queue.entryCount + 1
    bytesUsed := queue.bytesUsed + frame.length
    accepted := queue.accepted ++ [frame] }.writeBytes frame

/-- A frame that is larger than the ring can never be taken. -/
def enqueue (queue : Queue) (frame : Bytes) : Except QueueError Queue :=
  if queue.byteCapacity < frame.length then .error .recordTooLarge
  else if queue.hasCapacity frame.length 1 = false then .error .queueFull
  else .ok (queue.enqueuePieces frame)

def enqueueRaw (queue : Queue) (payload : Bytes) : Except QueueError Queue :=
  queue.enqueue payload

/-- A WebSocket message of one record. -/
def frameRecord (record : Record) : Except QueueError Bytes :=
  match encodeServerHeader .binary true (headerSize + record.payload.length),
    record.encodeHeader with
  | .ok head, .ok header => .ok (head ++ header ++ record.payload)
  | _, _ => .error .invalidRecord

def enqueueRecord (queue : Queue) (record : Record) (delivery : Delivery) :
    Except QueueError (EnqueueOutcome × Queue) :=
  match frameRecord record with
  | .error error => .error error
  | .ok frame =>
      match queue.enqueue frame with
      | .ok queue => .ok (.queued, queue)
      | .error error => if delivery = .ephemeral then .ok (.dropped, queue) else .error error

/-- Both directions of a stream end together, or neither does. -/
def enqueueDiscard (queue : Queue) (streamId appErrorCode : Nat) : Except QueueError Queue :=
  let reset : Record := { recordType := .reset, streamId := streamId, appErrorCode := appErrorCode }
  let stop : Record := { recordType := .stop, streamId := streamId, appErrorCode := appErrorCode }
  match frameRecord reset, frameRecord stop with
  | .ok first, .ok second =>
      if queue.hasCapacity (first.length + second.length) 2 = false then .error .queueFull
      else .ok ((queue.enqueuePieces first).enqueuePieces second)
  | _, _ => .error .invalidRecord

/-- A control frame of the server. -/
def frameControl (opcode : Opcode) (payload : Bytes) : Except QueueError Bytes :=
  match encodeServerHeader opcode true payload.length with
  | .error _ => .error .invalidRecord
  | .ok head => .ok (head ++ payload)

def enqueueControl (queue : Queue) (opcode : Opcode) (payload : Bytes) : Except QueueError Queue :=
  match frameControl opcode payload with
  | .error error => .error error
  | .ok frame => queue.enqueue frame

/-- What comes next of the oldest frame, as far as it lies in one piece. -/
def peek (queue : Queue) : Option Bytes :=
  if queue.entryCount = 0 then none
  else
    let entry := queue.entries queue.entryHead
    let position := (entry.start + entry.sent) % queue.byteCapacity
    let count := min (entry.len - entry.sent) (queue.byteCapacity - position)
    some ((List.range count).map fun offset => queue.bytes (position + offset))

/-- So many bytes of what `peek` shows have been taken. -/
def consume (queue : Queue) (count : Nat) : Queue :=
  if queue.entryCount = 0 then queue
  else
    let entry := queue.entries queue.entryHead
    let queue := { queue with bytesUsed := queue.bytesUsed - count }
    if entry.sent + count = entry.len then
      { queue with
        entries := Function.update queue.entries queue.entryHead {}
        entryHead := (queue.entryHead + 1) % queue.recordCapacity
        entryCount := queue.entryCount - 1 }
    else
      { queue with
        entries := Function.update queue.entries queue.entryHead
          { entry with sent := entry.sent + count } }

end Queue

end LyuneGateway.Wss
