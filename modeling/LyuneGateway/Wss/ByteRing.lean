import LyuneGateway.Lib.Ring
import LyuneGateway.Lib.Run
import LyuneGateway.Wss.OutputQueue

/-!
# The output queue is a queue of bytes

Behind the two rings is a list of frames, of whose first one some bytes have been
taken. A frame is written behind the bytes that still wait and never over them,
and what is taken, put together, is the beginning of what was taken in.
-/

namespace LyuneGateway.Wss

namespace Queue

/-- The entries of consecutive frames, the first of which lies at `base`. -/
def descriptors (capacity : Nat) : (base sent : Nat) → List Bytes → List Entry
  | _, _, [] => []
  | base, sent, frame :: frames =>
      { start := base % capacity, len := frame.length, sent := sent } ::
        descriptors capacity (base + frame.length) 0 frames

@[simp] theorem length_descriptors (capacity base sent : Nat) (frames : List Bytes) :
    (descriptors capacity base sent frames).length = frames.length := by
  induction frames generalizing base sent with
  | nil => rfl
  | cons frame frames ih => rw [descriptors, List.length_cons, List.length_cons, ih]

theorem descriptors_append (capacity base sent : Nat) (frames : List Bytes) (frame : Bytes) :
    descriptors capacity base sent (frames ++ [frame]) =
      descriptors capacity base sent frames ++ [{
        start := (base + frames.flatten.length) % capacity
        len := frame.length
        sent := if frames = [] then sent else 0 }] := by
  induction frames generalizing base sent with
  | nil => rfl
  | cons first frames ih =>
      rw [List.cons_append, descriptors, ih, descriptors, List.cons_append, List.flatten_cons,
        List.length_append, Nat.add_assoc]
      simp

/-- The queue holds these frames, the first without its `sent` first bytes; it lies, or would lie,
at `base`. -/
structure Stores (queue : Queue) (frames : List Bytes) (sent base : Nat) : Prop where
  positive : 0 < queue.byteCapacity
  head : queue.entryHead < queue.recordCapacity
  count : queue.entryCount = frames.length
  few : frames.length ≤ queue.recordCapacity
  used : queue.bytesUsed + sent = frames.flatten.length
  room : queue.bytesUsed ≤ queue.byteCapacity
  begun : sent = 0 ∨ sent < (frames.headD []).length
  write : queue.byteWrite = (base + frames.flatten.length) % queue.byteCapacity
  bytes : Ring.Lies queue.bytes queue.byteCapacity (base + sent) (frames.flatten.drop sent)
  entries : Ring.Lies queue.entries queue.recordCapacity queue.entryHead
    (descriptors queue.byteCapacity base sent frames)

variable {queue : Queue} {frames : List Bytes} {frame : Bytes} {sent base count : Nat}

/-- Bytes are written behind those that wait. -/
theorem lies_writeBytes (input : Bytes) {items : Bytes} {start : Nat}
    (lies : Ring.Lies queue.bytes queue.byteCapacity start items)
    (write : queue.byteWrite = (start + items.length) % queue.byteCapacity)
    (room : items.length + input.length ≤ queue.byteCapacity) :
    ∃ bytes, queue.writeBytes input = { queue with
        bytes := bytes
        byteWrite := (start + items.length + input.length) % queue.byteCapacity } ∧
      Ring.Lies bytes queue.byteCapacity start (items ++ input) := by
  induction input generalizing queue items with
  | nil =>
      refine ⟨queue.bytes, ?_, by simpa using lies⟩
      rw [List.length_nil, Nat.add_zero, ← write]
      rfl
  | cons byte input ih =>
      rw [List.length_cons] at room
      have written := @Ring.Lies.write _ _ _ _ _ byte lies (by omega)
      rw [← write] at written
      have longer : (items ++ [byte]).length = items.length + 1 := by simp
      obtain ⟨bytes, same, rest⟩ := @ih (queue.writeByte byte) (items ++ [byte]) written
        (by
          change (queue.byteWrite + 1) % queue.byteCapacity = _ % queue.byteCapacity
          rw [write, Nat.mod_add_mod, longer, Nat.add_assoc])
        (by
          change _ ≤ queue.byteCapacity
          omega)
      rw [List.append_assoc, List.singleton_append] at rest
      refine ⟨bytes, ?_, rest⟩
      have place : start + (items ++ [byte]).length + input.length =
          start + items.length + (byte :: input).length := by
        rw [longer, List.length_cons]
        omega
      rw [place] at same
      exact same

namespace Stores

theorem sent_le (stores : queue.Stores frames sent base) : sent ≤ frames.flatten.length := by
  have used := stores.used
  omega

theorem init {byteCapacity recordCapacity : Nat} (bytes : 0 < byteCapacity)
    (records : 0 < recordCapacity) : (Queue.init byteCapacity recordCapacity).Stores [] 0 0 where
  positive := bytes
  head := records
  count := rfl
  few := Nat.zero_le _
  used := rfl
  room := Nat.zero_le _
  begun := .inl rfl
  write := (Nat.zero_mod _).symm
  bytes := .nil
  entries := .nil

theorem enqueuePieces (stores : queue.Stores frames sent base)
    (bytesFit : frame.length ≤ queue.byteCapacity - queue.bytesUsed)
    (recordFits : 1 ≤ queue.recordCapacity - queue.entryCount) :
    (queue.enqueuePieces frame).Stores (frames ++ [frame]) sent base := by
  have room := stores.room
  have used := stores.used
  have count := stores.count
  have waiting : (frames.flatten.drop sent).length = queue.bytesUsed := by
    rw [List.length_drop]
    omega
  have behind : base + sent + (frames.flatten.drop sent).length =
      base + frames.flatten.length := by
    rw [waiting]
    omega
  have place : (queue.entryHead + queue.entryCount) % queue.recordCapacity =
      (queue.entryHead + (descriptors queue.byteCapacity base sent frames).length) %
        queue.recordCapacity := by
    rw [length_descriptors, count]
  let entered : Queue := { queue with
    entries := Function.update queue.entries
      ((queue.entryHead + queue.entryCount) % queue.recordCapacity)
      { start := queue.byteWrite, len := frame.length }
    entryCount := queue.entryCount + 1
    bytesUsed := queue.bytesUsed + frame.length
    accepted := queue.accepted ++ [frame] }
  have lies : Ring.Lies entered.bytes entered.byteCapacity (base + sent)
    (frames.flatten.drop sent) := stores.bytes
  obtain ⟨bytes, same, after⟩ := lies_writeBytes frame lies
    (by rw [behind]; exact stores.write) (by rw [waiting]; change _ ≤ queue.byteCapacity; omega)
  have flat : (frames ++ [frame]).flatten = frames.flatten ++ frame := by simp
  have result : queue.enqueuePieces frame = { entered with
      bytes := bytes
      byteWrite := (base + frames.flatten.length + frame.length) % queue.byteCapacity } := by
    rw [behind] at same
    exact same
  rw [result]
  refine ⟨stores.positive, stores.head, ?_, ?_, ?_, ?_, ?_, ?_, ?_, ?_⟩
  · change queue.entryCount + 1 = _
    rw [List.length_append, List.length_singleton, count]
  · rw [List.length_append, List.length_singleton]
    change _ ≤ queue.recordCapacity
    omega
  · change queue.bytesUsed + frame.length + sent = _
    rw [flat, List.length_append]
    omega
  · change queue.bytesUsed + frame.length ≤ queue.byteCapacity
    omega
  · cases frames with
    | nil =>
        have none_ : queue.bytesUsed + sent = 0 := used
        exact .inl (by omega)
    | cons first frames => exact stores.begun
  · change _ % _ = _ % _
    rw [flat, List.length_append, Nat.add_assoc]
  · rw [flat, List.drop_append_of_le_length stores.sent_le]
    exact after
  · have fresh : (if frames = [] then sent else 0) = 0 := by
      split
      · rename_i empty
        subst empty
        have none_ : queue.bytesUsed + sent = 0 := used
        omega
      · rfl
    rw [descriptors_append, fresh]
    change Ring.Lies (Function.update queue.entries _ _) _ _ _
    rw [place, stores.write]
    exact stores.entries.write (by rw [length_descriptors]; omega)

/-- The entry of the oldest frame. -/
theorem front (stores : queue.Stores (frame :: frames) sent base) :
    queue.entries queue.entryHead =
      { start := base % queue.byteCapacity, len := frame.length, sent := sent } := by
  have first := stores.entries 0 (by simp)
  rwa [Nat.add_zero, Nat.mod_eq_of_lt stores.head] at first

theorem sent_le_front (stores : queue.Stores (frame :: frames) sent base) :
    sent ≤ frame.length := by
  obtain none_ | some_ := stores.begun
  · omega
  · exact Nat.le_of_lt some_

theorem peek_nil (stores : queue.Stores [] sent base) : queue.peek = none := by
  exact if_pos stores.count

/-- What is shown is the rest of the oldest frame, up to the end of the ring. -/
theorem peek_cons (stores : queue.Stores (frame :: frames) sent base) :
    queue.peek = some ((frame.drop sent).take
      (queue.byteCapacity - (base + sent) % queue.byteCapacity)) := by
  have some_ : queue.entryCount ≠ 0 := by simp [stores.count]
  have begun := stores.sent_le_front
  have place : (base % queue.byteCapacity + sent) % queue.byteCapacity =
      (base + sent) % queue.byteCapacity := by rw [Nat.mod_add_mod]
  have flat : (frame :: frames).flatten.drop sent = frame.drop sent ++ frames.flatten := by
    rw [List.flatten_cons, List.drop_append_of_le_length begun]
  have small := Nat.mod_lt (base + sent) stores.positive
  have piece := @Ring.Lies.piece _ _ _ _ _ stores.bytes (min (frame.length - sent)
    (queue.byteCapacity - (base + sent) % queue.byteCapacity))
    (by rw [flat, List.length_append, List.length_drop]; omega) (by omega)
  rw [peek, if_neg some_, stores.front]
  simp only [place, piece, flat, Option.some.injEq]
  rw [List.take_append_of_le_length (by rw [List.length_drop]; omega), ← List.length_drop,
    Nat.min_comm, ← List.take_take, List.take_length]

/-- The last bytes of the oldest frame are taken. -/
theorem consume_last (stores : queue.Stores (frame :: frames) sent base)
    (last : sent + count = frame.length) :
    (queue.consume count).Stores frames 0 (base + frame.length) := by
  have some_ : queue.entryCount ≠ 0 := by simp [stores.count]
  have counted := stores.count
  have few := stores.few
  have used := stores.used
  have room := stores.room
  rw [List.length_cons] at counted few
  rw [List.flatten_cons, List.length_append] at used
  have taken : queue.consume count = { queue with
      bytesUsed := queue.bytesUsed - count
      entries := Function.update queue.entries queue.entryHead {}
      entryHead := (queue.entryHead + 1) % queue.recordCapacity
      entryCount := queue.entryCount - 1 } := by
    rw [consume, if_neg some_]
    dsimp only
    rw [stores.front, if_pos last]
  rw [taken]
  refine ⟨stores.positive, Nat.mod_lt _ (Nat.zero_lt_of_lt stores.head), ?_, ?_, ?_, ?_, .inl rfl,
    ?_, ?_, ?_⟩
  · change queue.entryCount - 1 = _
    omega
  · change _ ≤ queue.recordCapacity
    omega
  · change queue.bytesUsed - count + 0 = _
    omega
  · change queue.bytesUsed - count ≤ queue.byteCapacity
    omega
  · change queue.byteWrite = _
    rw [stores.write, List.flatten_cons, List.length_append, Nat.add_assoc]
  · have rest := stores.bytes.drop count
    rwa [List.drop_drop, Nat.add_assoc, last, List.flatten_cons, List.drop_left] at rest
  · have blank := stores.entries
    rw [descriptors] at blank
    have rest := (blank.change (by rw [length_descriptors]; omega) {}).drop 1
    rw [Nat.mod_eq_of_lt stores.head] at rest
    exact rest.congr (Nat.mod_mod _ _)

/-- More bytes of the oldest frame are taken, but not all. -/
theorem consume_more (stores : queue.Stores (frame :: frames) sent base)
    (more : sent + count < frame.length) :
    (queue.consume count).Stores (frame :: frames) (sent + count) base := by
  have some_ : queue.entryCount ≠ 0 := by simp [stores.count]
  have few := stores.few
  have used := stores.used
  have room := stores.room
  rw [List.length_cons] at few
  rw [List.flatten_cons, List.length_append] at used
  have taken : queue.consume count = { queue with
      bytesUsed := queue.bytesUsed - count
      entries := Function.update queue.entries queue.entryHead {
        start := base % queue.byteCapacity, len := frame.length, sent := sent + count } } := by
    rw [consume, if_neg some_]
    dsimp only
    rw [stores.front, if_neg more.ne]
  rw [taken]
  refine ⟨stores.positive, stores.head, stores.count, stores.few, ?_, ?_, .inr more, stores.write,
    ?_, ?_⟩
  · change queue.bytesUsed - count + (sent + count) = _
    rw [List.flatten_cons, List.length_append]
    omega
  · change queue.bytesUsed - count ≤ queue.byteCapacity
    omega
  · have rest := stores.bytes.drop count
    rwa [List.drop_drop, Nat.add_assoc] at rest
  · have blank := stores.entries
    rw [descriptors] at blank
    have changed := blank.change (by rw [length_descriptors]; omega) {
      start := base % queue.byteCapacity, len := frame.length, sent := sent + count }
    rwa [Nat.mod_eq_of_lt stores.head] at changed

end Stores

/-! ## Runs -/

/-- Writing changes nothing but the ring of bytes. -/
theorem writeBytes_eq (input : Bytes) (queue : Queue) : ∃ bytes byteWrite,
    queue.writeBytes input = { queue with bytes := bytes, byteWrite := byteWrite } := by
  unfold writeBytes
  induction input generalizing queue with
  | nil => exact ⟨_, _, rfl⟩
  | cons byte input ih => exact ih (queue.writeByte byte)

/-- What a frame that is put in takes up. -/
theorem enqueuePieces_frame (queue : Queue) (frame : Bytes) :
    (queue.enqueuePieces frame).accepted = queue.accepted ++ [frame] ∧
      (queue.enqueuePieces frame).byteCapacity = queue.byteCapacity ∧
      (queue.enqueuePieces frame).recordCapacity = queue.recordCapacity ∧
      (queue.enqueuePieces frame).bytesUsed = queue.bytesUsed + frame.length ∧
      (queue.enqueuePieces frame).entryCount = queue.entryCount + 1 := by
  unfold enqueuePieces
  dsimp only
  obtain ⟨bytes, byteWrite, written⟩ := writeBytes_eq frame { queue with
    entries := Function.update queue.entries
      ((queue.entryHead + queue.entryCount) % queue.recordCapacity)
      { start := queue.byteWrite, len := frame.length }
    entryCount := queue.entryCount + 1
    bytesUsed := queue.bytesUsed + frame.length
    accepted := queue.accepted ++ [frame] }
  rw [written]
  exact ⟨rfl, rfl, rfl, rfl, rfl⟩

theorem logs_consume (queue : Queue) (count : Nat) :
    (queue.consume count).accepted = queue.accepted := by
  unfold consume
  split
  · rfl
  dsimp only
  split <;> rfl

/-- Frames for each of which there was room when it came. -/
inductive Added : Queue → List Bytes → Queue → Prop
  | none (queue : Queue) : Added queue [] queue
  | cons {queue after : Queue} {frame : Bytes} {frames : List Bytes}
      (bytesFit : frame.length ≤ queue.byteCapacity - queue.bytesUsed)
      (recordFits : 1 ≤ queue.recordCapacity - queue.entryCount)
      (rest : Added (queue.enqueuePieces frame) frames after) : Added queue (frame :: frames) after

theorem hasCapacity_iff {byteCount recordCount : Nat} :
    queue.hasCapacity byteCount recordCount = true ↔
      byteCount ≤ queue.byteCapacity - queue.bytesUsed ∧
        recordCount ≤ queue.recordCapacity - queue.entryCount := by
  simp [hasCapacity]

theorem added_pair {first second : Bytes}
    (room : queue.hasCapacity (first.length + second.length) 2 = true) :
    Added queue [first, second] ((queue.enqueuePieces first).enqueuePieces second) := by
  obtain ⟨bytesFit, recordsFit⟩ := hasCapacity_iff.mp room
  obtain ⟨-, bytes, records, used, count⟩ := queue.enqueuePieces_frame first
  refine .cons (by omega) (by omega) (.cons ?_ ?_ (.none _))
  · rw [bytes, used]
    omega
  · rw [records, count]
    omega

theorem added_enqueue {after : Queue} (taken : queue.enqueue frame = .ok after) :
    Added queue [frame] after := by
  unfold enqueue at taken
  split at taken
  · cases taken
  split at taken
  · cases taken
  rename_i room
  rw [Bool.not_eq_false, hasCapacity_iff] at room
  cases taken
  exact .cons room.1 room.2 (.none _)

namespace Stores

/-- What is added changes nothing of what is shown. -/
theorem add {after : Queue} {more : List Bytes} (stores : queue.Stores frames sent base)
    (added : Added queue more after) :
    after.Stores (frames ++ more) sent base ∧ after.accepted = queue.accepted ++ more ∧
      after.byteCapacity = queue.byteCapacity := by
  induction added generalizing frames with
  | none queue => exact ⟨by simpa using stores, by simp, rfl⟩
  | cons bytesFit recordFits rest ih =>
      obtain ⟨kept, logged, same⟩ := ih (stores.enqueuePieces bytesFit recordFits)
      rw [List.append_assoc, List.singleton_append] at kept
      rw [(enqueuePieces_frame _ _).1, List.append_assoc, List.singleton_append] at logged
      exact ⟨kept, logged, same.trans (enqueuePieces_frame _ _).2.1⟩

/-- A frame that is shown is shown on, whatever is added behind it. -/
theorem peek_add {after : Queue} {more : List Bytes} {slice : Bytes}
    (stores : queue.Stores frames sent base) (added : Added queue more after)
    (shown : queue.peek = some slice) : after.peek = some slice := by
  cases frames with
  | nil =>
      rw [stores.peek_nil] at shown
      cases shown
  | cons frame frames =>
      obtain ⟨kept, -, same⟩ := stores.add added
      rw [kept.peek_cons, same, ← stores.peek_cons, shown]

end Stores

/-- What is done with a queue: a record, raw bytes or a control frame is put in, a stream is ended
in both directions, or bytes that are shown are taken. -/
inductive Use where
  | record (record : Record) (delivery : Delivery)
  | raw (payload : Bytes)
  | control (opcode : Opcode) (payload : Bytes)
  | discard (streamId appErrorCode : Nat)
  | consume (count : Nat)

namespace Use

/-- The frames that a use puts in, if there is room for all of them. -/
def pieces : Use → Option (List Bytes)
  | .record message _ => (frameRecord message).toOption.map ([·])
  | .raw payload => some [payload]
  | .control opcode payload => (frameControl opcode payload).toOption.map ([·])
  | .discard streamId appErrorCode => do
      let reset ← (frameRecord {
        recordType := .reset, streamId := streamId, appErrorCode := appErrorCode }).toOption
      let stop ← (frameRecord {
        recordType := .stop, streamId := streamId, appErrorCode := appErrorCode }).toOption
      some [reset, stop]
  | .consume _ => some []

def isConsume : Use → Bool
  | .consume _ => true
  | _ => false

end Use

/-- A queue and the bytes that were taken from it. -/
structure Account where
  queue : Queue
  taken : Bytes := []

namespace Account

/-- A queue stays as it is when nothing can be put in. -/
def step (account : Account) : Use → Account
  | .record record delivery =>
      match account.queue.enqueueRecord record delivery with
      | .ok (_, queue) => { account with queue := queue }
      | .error _ => account
  | .raw payload =>
      match account.queue.enqueueRaw payload with
      | .ok queue => { account with queue := queue }
      | .error _ => account
  | .control opcode payload =>
      match account.queue.enqueueControl opcode payload with
      | .ok queue => { account with queue := queue }
      | .error _ => account
  | .discard streamId appErrorCode =>
      match account.queue.enqueueDiscard streamId appErrorCode with
      | .ok queue => { account with queue := queue }
      | .error _ => account
  | .consume count => {
      queue := account.queue.consume count
      taken := account.taken ++ (account.queue.peek.getD []).take count }

/-- Only bytes that are shown are taken. -/
def Permits (account : Account) : Use → Prop
  | .consume count => count ≤ (account.queue.peek.getD []).length
  | _ => True

instance (account : Account) : (use : Use) → Decidable (account.Permits use)
  | .consume _ => inferInstanceAs (Decidable (_ ≤ _))
  | .record _ _ | .raw _ | .control _ _ | .discard _ _ => isTrue trivial

/-- The frames that were put in are those that have been taken and those that wait, and what was
taken of the first one that waits comes after the former. -/
def Sound (account : Account) : Prop :=
  ∃ gone frames sent base, account.queue.Stores frames sent base ∧
    account.queue.accepted = gone ++ frames ∧
    account.taken = gone.flatten ++ frames.flatten.take sent

variable {account : Account}

/-- A use other than taking puts all of its frames in, or leaves the queue alone. -/
theorem step_adds (account : Account) {use : Use} (puts : use.isConsume = false) :
    (account.step use).taken = account.taken ∧
      ((account.step use).queue = account.queue ∨ ∃ frames, use.pieces = some frames ∧
        Added account.queue frames (account.step use).queue) := by
  cases use with
  | record record delivery =>
      simp only [step, enqueueRecord, Use.pieces]
      cases framed : frameRecord record with
      | error error => exact ⟨rfl, .inl rfl⟩
      | ok frame =>
          dsimp only
          cases taken : account.queue.enqueue frame with
          | ok after => exact ⟨rfl, .inr ⟨[frame], rfl, added_enqueue taken⟩⟩
          | error error => cases delivery <;> exact ⟨rfl, .inl rfl⟩
  | raw payload =>
      simp only [step, enqueueRaw, Use.pieces]
      cases taken : account.queue.enqueue payload with
      | ok after => exact ⟨rfl, .inr ⟨[payload], rfl, added_enqueue taken⟩⟩
      | error error => exact ⟨rfl, .inl rfl⟩
  | control opcode payload =>
      simp only [step, enqueueControl, Use.pieces]
      cases framed : frameControl opcode payload with
      | error error => exact ⟨rfl, .inl rfl⟩
      | ok frame =>
          dsimp only
          cases taken : account.queue.enqueue frame with
          | ok after => exact ⟨rfl, .inr ⟨[frame], rfl, added_enqueue taken⟩⟩
          | error error => exact ⟨rfl, .inl rfl⟩
  | discard streamId appErrorCode =>
      simp only [step, enqueueDiscard, Use.pieces]
      cases first : frameRecord
          { recordType := .reset, streamId := streamId, appErrorCode := appErrorCode } with
      | error error => exact ⟨rfl, .inl rfl⟩
      | ok reset =>
          cases second : frameRecord
              { recordType := .stop, streamId := streamId, appErrorCode := appErrorCode } with
          | error error => exact ⟨rfl, .inl rfl⟩
          | ok stop =>
              dsimp only
              cases room : account.queue.hasCapacity (reset.length + stop.length) 2 with
              | false => exact ⟨rfl, .inl rfl⟩
              | true => exact ⟨rfl, .inr ⟨[reset, stop], rfl, added_pair room⟩⟩
  | consume count => cases puts

theorem Sound.step {use : Use} (sound : account.Sound) (permits : account.Permits use) :
    (account.step use).Sound := by
  obtain ⟨gone, frames, sent, base, stores, logged, taken⟩ := sound
  by_cases puts : use.isConsume = false
  · obtain ⟨same, unchanged | ⟨more, -, added⟩⟩ := account.step_adds puts
    · exact ⟨gone, frames, sent, base, unchanged ▸ stores, unchanged ▸ logged, same.trans taken⟩
    · obtain ⟨kept, log, -⟩ := stores.add added
      refine ⟨gone, frames ++ more, sent, base, kept, ?_, ?_⟩
      · rw [log, logged, List.append_assoc]
      · rw [same, taken, List.flatten_append, List.take_append_of_le_length stores.sent_le]
  · obtain ⟨count, rfl⟩ : ∃ count, use = .consume count := by
      cases use with
      | consume count => exact ⟨count, rfl⟩
      | _ => exact absurd rfl puts
    cases frames with
    | nil =>
        have none_ : account.queue.entryCount = 0 := stores.count
        refine ⟨gone, [], sent, base, ?_, ?_, ?_⟩
        · rw [Account.step, consume, if_pos none_]
          exact stores
        · rw [Account.step, logs_consume, logged]
        · simp only [Account.step, stores.peek_nil, Option.getD_none, List.take_nil,
            List.append_nil, taken]
    | cons frame frames =>
        have begun := stores.sent_le_front
        simp only [Permits, stores.peek_cons, Option.getD_some, List.length_take,
          List.length_drop] at permits
        have next : (account.step (.consume count)).taken =
            gone.flatten ++ (frame.take (sent + count)) := by
          simp only [Account.step, stores.peek_cons, Option.getD_some, taken, List.flatten_cons]
          rw [List.take_append_of_le_length begun, List.append_assoc, List.take_take,
            Nat.min_eq_left (by omega), List.take_add]
        by_cases last : sent + count = frame.length
        · refine ⟨gone ++ [frame], frames, 0, _, stores.consume_last last, ?_, ?_⟩
          · rw [Account.step, logs_consume, logged, List.append_assoc, List.singleton_append]
          · rw [next, last, List.take_length]
            simp
        · refine ⟨gone, frame :: frames, sent + count, base, stores.consume_more (by omega), ?_, ?_⟩
          · rw [Account.step, logs_consume, logged]
          · rw [next, List.flatten_cons, List.take_append_of_le_length (by omega)]

/-- What is shown is shown on until it is taken. -/
theorem Sound.peek {use : Use} {slice : Bytes} (sound : account.Sound)
    (puts : use.isConsume = false) (shown : account.queue.peek = some slice) :
    (account.step use).queue.peek = some slice := by
  obtain ⟨gone, frames, sent, base, stores, -, -⟩ := sound
  obtain ⟨-, unchanged | ⟨more, -, added⟩⟩ := account.step_adds puts
  · rw [unchanged, shown]
  · exact stores.peek_add added shown

theorem Sound.run {uses : List Use} (sound : account.Sound)
    (proper : Run.Meets Account.step Permits account uses) :
    (Run.final Account.step account uses).Sound :=
  Run.invariant (fun _ _ => Sound.step) sound proper

/-- Part of what is shown may be taken; the rest is shown on. -/
theorem Sound.peek_consume {slice : Bytes} {count : Nat} (sound : account.Sound)
    (shown : account.queue.peek = some slice) (part : count < slice.length) :
    (account.step (.consume count)).queue.peek = some (slice.drop count) := by
  obtain ⟨gone, frames, sent, base, stores, -, -⟩ := sound
  cases frames with
  | nil =>
      rw [stores.peek_nil] at shown
      cases shown
  | cons frame frames =>
      rw [stores.peek_cons] at shown
      obtain rfl := Option.some.inj shown
      rw [List.length_take, List.length_drop] at part
      have more : sent + count < frame.length := by omega
      have kept := stores.consume_more more
      have same : (account.queue.consume count).byteCapacity = account.queue.byteCapacity := by
        rw [consume]
        split
        · rfl
        dsimp only
        split <;> rfl
      have place : (base + (sent + count)) % account.queue.byteCapacity =
          (base + sent) % account.queue.byteCapacity + count := by
        rw [← Nat.add_assoc, ← Nat.mod_add_mod, Nat.mod_eq_of_lt (by omega)]
      rw [Account.step, kept.peek_cons, same, place, List.drop_take, List.drop_drop,
        Nat.sub_sub]

/-- The bytes that were taken are the first ones of the frames that were put in, and the counters
say what still waits. -/
structure Fifo (account : Account) : Prop where
  order : account.taken <+: account.queue.accepted.flatten
  bytes : account.taken.length + account.queue.bytesUsed = account.queue.accepted.flatten.length
  room : account.queue.bytesUsed ≤ account.queue.byteCapacity
  records : ∃ gone waiting, account.queue.accepted = gone ++ waiting ∧
    account.queue.entryCount = waiting.length ∧ gone.flatten <+: account.taken ∧
    ∀ frame rest, waiting = frame :: rest → account.taken = gone.flatten ∨
      account.taken.length < (gone ++ [frame]).flatten.length
  few : account.queue.entryCount ≤ account.queue.recordCapacity
  shown : ∀ slice, account.queue.peek = some slice →
    account.taken ++ slice <+: account.queue.accepted.flatten
  empty : account.queue.peek = none → account.taken = account.queue.accepted.flatten

theorem Sound.fifo (sound : account.Sound) : account.Fifo := by
  obtain ⟨gone, frames, sent, base, stores, logged, taken⟩ := sound
  have begun := stores.sent_le
  have used := stores.used
  have whole : account.queue.accepted.flatten =
      account.taken ++ frames.flatten.drop sent := by
    rw [logged, taken, List.flatten_append, List.append_assoc, List.take_append_drop]
  refine ⟨⟨_, whole.symm⟩, ?_, stores.room, ⟨gone, frames, logged, stores.count, ⟨_, taken.symm⟩, ?_⟩,
    stores.count ▸ stores.few, ?_, ?_⟩
  · rw [whole, List.length_append, List.length_drop]
    omega
  · rintro frame rest rfl
    obtain none_ | some_ := stores.begun
    · exact .inl (by rw [taken, none_, List.take_zero, List.append_nil])
    · refine .inr ?_
      rw [taken, List.length_append, List.length_take, List.flatten_append, List.length_append]
      simp only [List.headD_cons] at some_
      simp only [List.flatten_cons, List.flatten_nil, List.append_nil]
      omega
  · intro slice shown
    cases frames with
    | nil =>
        rw [stores.peek_nil] at shown
        cases shown
    | cons frame frames =>
        rw [stores.peek_cons] at shown
        obtain rfl := Option.some.inj shown
        rw [whole, List.flatten_cons, List.drop_append_of_le_length stores.sent_le_front]
        exact (List.prefix_append_right_inj _).mpr
          ((List.take_prefix _ _).trans (List.prefix_append _ _))
  · intro nothing
    cases frames with
    | nil => rw [whole, List.flatten_nil, List.drop_nil, List.append_nil]
    | cons frame frames =>
        rw [stores.peek_cons] at nothing
        cases nothing

end Account

end Queue

open Queue (Use Account)

/-- In every run the queue is first in, first out, byte by byte, and its counters are right. Each
use puts all of its frames in behind the others or leaves the queue as it was; what is shown stays
the same, whatever is put in, until it is taken. -/
theorem output_queue_is_fifo (byteCapacity recordCapacity : Nat) (uses : List Use)
    (bytes : 0 < byteCapacity) (records : 0 < recordCapacity)
    (proper : Run.Meets Account.step Account.Permits
      { queue := .init byteCapacity recordCapacity } uses) :
    let account := Run.final Account.step { queue := .init byteCapacity recordCapacity } uses
    account.Fifo ∧
      (∀ use : Use, use.isConsume = false → (account.step use).taken = account.taken ∧
        ((account.step use).queue = account.queue ∨ ∃ frames, use.pieces = some frames ∧
          (account.step use).queue.accepted = account.queue.accepted ++ frames)) ∧
      ∀ slice, account.queue.peek = some slice →
        (∀ more : List Use, (∀ use ∈ more, use.isConsume = false) →
          (Run.final Account.step account more).queue.peek = some slice) ∧
        ∀ count < slice.length,
          (account.step (.consume count)).queue.peek = some (slice.drop count) := by
  intro account
  have sound : account.Sound :=
    Account.Sound.run ⟨[], [], 0, 0, Queue.Stores.init bytes records, rfl, rfl⟩ proper
  refine ⟨sound.fifo, ?_, fun slice shown => ⟨?_, fun count => sound.peek_consume shown⟩⟩
  · intro use puts
    obtain ⟨same, unchanged | ⟨frames, named, added⟩⟩ := account.step_adds puts
    · exact ⟨same, .inl unchanged⟩
    · obtain ⟨gone, waiting, sent, base, stores, -, -⟩ := sound
      exact ⟨same, .inr ⟨frames, named, (stores.add added).2.1⟩⟩
  · intro more puts
    have permits : Run.Meets Account.step
        (fun account use => account.Permits use ∧ use.isConsume = false) account more := by
      refine Run.meets_of_forall (fun use listed state => ⟨?_, puts use listed⟩) account
      have never := puts use listed
      cases use with
      | consume count => cases never
      | _ => trivial
    have shows_ := @Run.invariant _ _ _ _
      (fun account : Account => account.Sound ∧ account.queue.peek = some slice)
      (fun _ _ kept may => ⟨kept.1.step may.1, kept.1.peek may.2 kept.2⟩) more account
      ⟨sound, shown⟩ permits
    exact shows_.2

/-- Seven bytes after five that were taken come round the end of a ring of eight. -/
theorem output_queue_is_fifo_wrapped :
    let uses : List Use := [.raw [1, 2, 3, 4, 5], .consume 5, .raw [6, 7, 8, 9, 10, 11, 12],
      .consume 2, .raw [13, 14, 15, 16]]
    (Run.final Account.step { queue := .init 8 3 } uses).Fifo ∧
      (Run.final Account.step { queue := .init 8 3 } uses).queue.accepted =
        [[1, 2, 3, 4, 5], [6, 7, 8, 9, 10, 11, 12]] :=
  ⟨(output_queue_is_fifo 8 3 _ (by decide) (by decide) (by decide)).1, rfl⟩

end LyuneGateway.Wss
