import LyuneGateway.Lib.Run
import LyuneGateway.Wss.Pump

/-!
# What follows a Close frame

A Close frame is the last that a connection should send. The input side keeps to
this: nothing is read any more once a Close frame is queued. The calls of the
worker do not, since a connection that waits for its queue to run empty is still
open for them. Nothing follows the Close frame exactly when none of the calls
made in that time finds room.
-/

namespace LyuneGateway.Wss

open Session

/-- The first byte of a Close frame of the server. -/
def isClose (frame : Bytes) : Bool := frame.head? = some 136

namespace Queue

/-- A Close frame has been taken in. -/
def closed (queue : Queue) : Bool := queue.accepted.any isClose

/-- No frame has been taken in after a Close frame. -/
def Sealed (queue : Queue) : Prop :=
  queue.accepted.Pairwise fun earlier _ => isClose earlier = false

/-- There is room for a frame. -/
def admits (queue : Queue) (frame : Except QueueError Bytes) : Bool :=
  match frame with
  | .error _ => false
  | .ok frame => frame.length ≤ queue.byteCapacity && queue.hasCapacity frame.length 1

/-- There is room for the two frames that discard a stream. -/
def admitsDiscard (queue : Queue) (streamId appErrorCode : Nat) : Bool :=
  match frameRecord { recordType := .reset, streamId := streamId, appErrorCode := appErrorCode },
    frameRecord { recordType := .stop, streamId := streamId, appErrorCode := appErrorCode } with
  | .ok reset, .ok stop => queue.hasCapacity (reset.length + stop.length) 2
  | _, _ => false

end Queue

/-- The call has something to send, which can be framed and for which there is room. -/
def Call.fits (before : Standing) : Call → Bool
  | .claimInboundExchange _ => false
  | .write streamId bytes fin =>
      (streamId % 4 ≠ 1 || (noteServerExchange before.highestServerExchangeId streamId).isSome) &&
        before.output.admits (Queue.frameRecord
          { recordType := .stream, streamId := streamId, fin := fin, payload := bytes })
  | .sendEphemeral bytes =>
      before.output.admits (Queue.frameRecord { recordType := .ephemeral, payload := bytes })
  | .resetSend streamId code =>
      before.output.admits (Queue.frameRecord
        { recordType := .reset, streamId := streamId, appErrorCode := narrowAppError code })
  | .stopReceive streamId code =>
      before.output.admits (Queue.frameRecord
        { recordType := .stop, streamId := streamId, appErrorCode := narrowAppError code })
  | .discard streamId code => before.output.admitsDiscard streamId (narrowAppError code)
  | .close code =>
      before.output.admits
        (Queue.frameControl .close (BigEndian.write 2 (websocketCloseCode code)))

/-- The call finds a connection that only waits for its queue to run empty, and room in it. -/
def Asked.Late (asked : Asked) : Prop :=
  asked.before.closeAfterFlush = true ∧ asked.before.state = .open ∧
    asked.call.fits asked.before = true

instance (asked : Asked) : Decidable asked.Late := by unfold Asked.Late; infer_instance

theorem head_encodeServerHeader {opcode : Opcode} {fin : Bool} {payloadLen : Nat} {head : Bytes}
    (encoded : encodeServerHeader opcode fin payloadLen = .ok head) :
    head.head? = some (UInt8.ofNat ((if fin then 128 else 0) + opcode.toNat)) := by
  unfold encodeServerHeader at encoded
  split at encoded
  · cases encoded
  dsimp only at encoded
  split at encoded
  · cases encoded
    rfl
  split at encoded <;> cases encoded <;> rfl

namespace Queue

theorem isClose_frameRecord {record : Record} {frame : Bytes}
    (framed : frameRecord record = .ok frame) : isClose frame = false := by
  unfold frameRecord at framed
  split at framed
  · rename_i head header encoded _
    cases framed
    have first := head_encodeServerHeader encoded
    simp [isClose, List.append_assoc, List.head?_append, first, Opcode.toNat]
  · cases framed

theorem isClose_frameControl {opcode : Opcode} {payload frame : Bytes}
    (framed : frameControl opcode payload = .ok frame) :
    isClose frame = decide (UInt8.ofNat (128 + opcode.toNat) = 136) := by
  unfold frameControl at framed
  split at framed
  · cases framed
  · rename_i head encoded
    cases framed
    have first := head_encodeServerHeader encoded
    simp [isClose, List.head?_append, first]

@[simp] theorem accepted_writeBytes (input : Bytes) (queue : Queue) :
    (queue.writeBytes input).accepted = queue.accepted := by
  unfold writeBytes
  induction input generalizing queue with
  | nil => rfl
  | cons byte input ih => exact ih _

@[simp] theorem accepted_enqueuePieces (queue : Queue) (frame : Bytes) :
    (queue.enqueuePieces frame).accepted = queue.accepted ++ [frame] := by
  simp [enqueuePieces]

/-- A frame that is taken in is the last that was, and one that does not fit is refused. -/
theorem enqueue_cases (queue : Queue) (frame : Bytes) :
    (queue.admits (.ok frame) = true ∧ queue.enqueue frame = .ok (queue.enqueuePieces frame)) ∨
      (queue.admits (.ok frame) = false ∧ ∃ error, queue.enqueue frame = .error error) := by
  unfold enqueue admits
  by_cases large : queue.byteCapacity < frame.length
  · exact .inr ⟨by simp [large], _, by simp only [large, if_true]; rfl⟩
  cases room : queue.hasCapacity frame.length 1 with
  | false => exact .inr ⟨by simp [room], _, by simp only [large, if_false]; rfl⟩
  | true => exact .inl ⟨by simpa [room] using large, by simp [large]⟩

theorem enqueueRecord_cases (queue : Queue) (record : Record) (delivery : Delivery) :
    (queue.admits (frameRecord record) = true ∧ ∃ frame output,
        queue.enqueueRecord record delivery = .ok (.queued, output) ∧
        output.accepted = queue.accepted ++ [frame] ∧ isClose frame = false) ∨
      (queue.admits (frameRecord record) = false ∧
        ((queue.enqueueRecord record delivery = .ok (.dropped, queue) ∧ delivery = .ephemeral) ∨
          ∃ error, queue.enqueueRecord record delivery = .error error)) := by
  unfold enqueueRecord
  cases framed : frameRecord record with
  | error error => exact .inr ⟨rfl, .inr ⟨error, rfl⟩⟩
  | ok frame =>
      dsimp only
      rcases queue.enqueue_cases frame with ⟨room, taken⟩ | ⟨full, error, refused⟩
      · rw [taken]
        exact .inl ⟨room, frame, _, rfl, by simp, isClose_frameRecord framed⟩
      · refine .inr ⟨full, ?_⟩
        rw [refused]
        cases delivery with
        | reliable => exact .inr ⟨error, rfl⟩
        | ephemeral => exact .inl ⟨rfl, rfl⟩

theorem enqueueControl_cases (queue : Queue) (opcode : Opcode) (payload : Bytes) :
    (queue.admits (frameControl opcode payload) = true ∧ ∃ frame output,
        queue.enqueueControl opcode payload = .ok output ∧
        output.accepted = queue.accepted ++ [frame] ∧
        isClose frame = decide (UInt8.ofNat (128 + opcode.toNat) = 136)) ∨
      (queue.admits (frameControl opcode payload) = false ∧
        ∃ error, queue.enqueueControl opcode payload = .error error) := by
  unfold enqueueControl
  cases framed : frameControl opcode payload with
  | error error => exact .inr ⟨rfl, error, rfl⟩
  | ok frame =>
      rcases queue.enqueue_cases frame with ⟨room, taken⟩ | ⟨full, error, refused⟩
      · exact .inl ⟨room, frame, _, taken, by simp, isClose_frameControl framed⟩
      · exact .inr ⟨full, error, refused⟩

theorem enqueueDiscard_cases (queue : Queue) (streamId appErrorCode : Nat) :
    (queue.admitsDiscard streamId appErrorCode = true ∧ ∃ reset stop output,
        queue.enqueueDiscard streamId appErrorCode = .ok output ∧
        output.accepted = queue.accepted ++ [reset, stop] ∧
        isClose reset = false ∧ isClose stop = false) ∨
      (queue.admitsDiscard streamId appErrorCode = false ∧
        ∃ error, queue.enqueueDiscard streamId appErrorCode = .error error) := by
  unfold enqueueDiscard admitsDiscard
  dsimp only
  cases first : frameRecord
      { recordType := .reset, streamId := streamId, appErrorCode := appErrorCode } with
  | error error => exact .inr ⟨rfl, _, rfl⟩
  | ok reset =>
      cases second : frameRecord
          { recordType := .stop, streamId := streamId, appErrorCode := appErrorCode } with
      | error error => exact .inr ⟨rfl, _, rfl⟩
      | ok stop =>
          dsimp only
          cases room : queue.hasCapacity (reset.length + stop.length) 2 with
          | false => exact .inr ⟨rfl, _, if_pos rfl⟩
          | true =>
              exact .inl ⟨rfl, reset, stop, _, if_neg (by simp), by simp,
                isClose_frameRecord first, isClose_frameRecord second⟩

end Queue

namespace Connection

variable {State Worker : Type} {before middle after : Connection State Worker}

/-- Nothing is queued after a Close frame, and the writes that come after it fail. -/
structure NothingFollowsClose (connection : Connection State Worker) : Prop where
  sealed : connection.output.Sealed
  refused : ∀ asked ∈ connection.calls, ∀ streamId bytes fin,
    asked.call = .write streamId bytes fin → asked.before.output.closed = true →
    asked.answer = false

/-- A connection waits for its queue to run empty when it has queued a Close frame, which it does
only after the upgrade; and a late call has left its trace. -/
structure Sound (connection : Connection State Worker) : Prop where
  closes : connection.output.closed = connection.closeAfterFlush
  upgraded : connection.session.isSome ∨ connection.closeAfterFlush = true →
    connection.upgradeComplete = true
  late : ∀ asked ∈ connection.calls, asked.Late → ¬ connection.output.Sealed
  snapshots : ∀ asked ∈ connection.calls,
    asked.before.output.closed = asked.before.closeAfterFlush

/-- What a part of the connection may do: it queues frames and answers calls, and only a late call
makes anything follow a Close frame. -/
structure Upright (before after : Connection State Worker) : Prop where
  accepted : before.output.accepted <+: after.output.accepted
  calls : before.calls <+: after.calls
  complete : before.upgradeComplete = true → after.upgradeComplete = true
  sound : before.Sound → after.Sound
  judged : before.Sound → (∀ asked ∈ after.calls, ¬ asked.Late) →
    before.NothingFollowsClose → after.NothingFollowsClose

namespace Upright

theorem refl (connection : Connection State Worker) : Upright connection connection where
  accepted := List.prefix_rfl
  calls := List.prefix_rfl
  complete := id
  sound := id
  judged := fun _ _ => id

theorem trans (first : Upright before middle) (second : Upright middle after) :
    Upright before after where
  accepted := first.accepted.trans second.accepted
  calls := first.calls.trans second.calls
  complete := second.complete ∘ first.complete
  sound := second.sound ∘ first.sound
  judged := fun sound timely nothing =>
    second.judged (first.sound sound) timely
      (first.judged sound (fun asked listed => timely asked (second.calls.subset listed)) nothing)

end Upright

/-- Frames are queued, at most the last of them a Close frame; no call is answered. -/
structure Enqueues (before : Connection State Worker) (frames : List Bytes)
    (after : Connection State Worker) : Prop where
  accepted : after.output.accepted = before.output.accepted ++ frames
  calls : after.calls = before.calls
  flush : after.closeAfterFlush = (before.closeAfterFlush || frames.any isClose)
  complete : before.upgradeComplete = true → after.upgradeComplete = true
  session : after.session.isSome → before.session.isSome ∨ after.upgradeComplete = true
  closing : frames.any isClose = true → before.upgradeComplete = true
  last : frames.Pairwise fun earlier _ => isClose earlier = false

namespace Enqueues

theorem sealed_iff {frames : List Bytes} (enqueues : Enqueues before frames after) :
    after.output.Sealed ↔
      before.output.Sealed ∧ (frames = [] ∨ before.output.closed = false) := by
  have apart : (∀ earlier ∈ before.output.accepted, ∀ later ∈ frames, isClose earlier = false) ↔
      (frames = [] ∨ before.output.closed = false) := by
    rcases frames with _ | ⟨frame, frames⟩
    · simp
    · simp only [Queue.closed, List.any_eq_false, Bool.not_eq_true, reduceCtorEq, false_or]
      exact ⟨fun each earlier listed => each earlier listed frame List.mem_cons_self,
        fun none earlier listed _ _ => none earlier listed⟩
  rw [Queue.Sealed, enqueues.accepted, List.pairwise_append, apart]
  exact ⟨fun parts => ⟨parts.1, parts.2.2⟩, fun parts => ⟨parts.1, enqueues.last, parts.2⟩⟩

theorem closed {frames : List Bytes} (enqueues : Enqueues before frames after) :
    after.output.closed = (before.output.closed || frames.any isClose) := by
  simp [Queue.closed, enqueues.accepted]

theorem sound {frames : List Bytes} (enqueues : Enqueues before frames after)
    (sound : before.Sound) : after.Sound where
  closes := by rw [enqueues.closed, sound.closes, enqueues.flush]
  upgraded := by
    rintro (live | waits)
    · exact (enqueues.session live).elim
        (fun live => enqueues.complete (sound.upgraded (.inl live))) id
    · rw [enqueues.flush, Bool.or_eq_true] at waits
      exact enqueues.complete (waits.elim (fun waits => sound.upgraded (.inr waits))
        enqueues.closing)
  late := by
    intro asked listed late unbroken
    rw [enqueues.calls] at listed
    exact sound.late asked listed late (enqueues.sealed_iff.mp unbroken).1
  snapshots := by
    rw [enqueues.calls]
    exact sound.snapshots

/-- Nothing is wrong with frames that are queued before a Close frame. -/
theorem upright {frames : List Bytes} (enqueues : Enqueues before frames after)
    (early : frames = [] ∨ before.closeAfterFlush = false) : Upright before after where
  accepted := enqueues.accepted ▸ List.prefix_append ..
  calls := enqueues.calls ▸ List.prefix_rfl
  complete := enqueues.complete
  sound := enqueues.sound
  judged := by
    intro sound _ nothing
    exact {
      sealed := enqueues.sealed_iff.mpr ⟨nothing.sealed, sound.closes ▸ early⟩
      refused := enqueues.calls ▸ nothing.refused }

theorem of_same (output : after.output = before.output) (calls : after.calls = before.calls)
    (flush : after.closeAfterFlush = before.closeAfterFlush)
    (complete : before.upgradeComplete = true → after.upgradeComplete = true)
    (session : after.session.isSome → before.session.isSome ∨ after.upgradeComplete = true) :
    Enqueues before [] after where
  accepted := by simp [output]
  calls := calls
  flush := by simp [flush]
  complete := complete
  session := session
  closing := by simp
  last := .nil

end Enqueues

/-- What changes neither the queue nor the calls is of no consequence. -/
theorem Upright.of_same (output : after.output = before.output) (calls : after.calls = before.calls)
    (flush : after.closeAfterFlush = before.closeAfterFlush)
    (complete : before.upgradeComplete = true → after.upgradeComplete = true)
    (session : after.session.isSome → before.session.isSome ∨ after.upgradeComplete = true) :
    Upright before after :=
  (Enqueues.of_same output calls flush complete session).upright (.inl rfl)

section Calls

variable {tls : Tls State} {drive : Driver State Worker}

theorem beginImmediateClose_enqueues (connection : Connection State Worker) :
    Enqueues connection [] (connection.beginImmediateClose tls) := by
  unfold beginImmediateClose
  split
  · exact .of_same rfl rfl rfl id .inl
  · exact .of_same rfl rfl rfl (fun _ => by simp [upgradeComplete]) .inl

theorem beginImmediateClose_upright (connection : Connection State Worker) :
    Upright connection (connection.beginImmediateClose tls) :=
  (beginImmediateClose_enqueues connection).upright (.inl rfl)

theorem driveOrClose_upright (upright : ∀ connection, Upright connection (drive connection).2)
    (connection : Connection State Worker) :
    Upright connection (driveOrClose tls drive connection).2 := by
  have driven := upright connection
  unfold driveOrClose
  split
  · rename_i result
    rwa [result] at driven
  · rename_i result
    rw [result] at driven
    exact driven.trans (beginImmediateClose_upright _)

/-- The queue has taken frames, and nothing else has changed that matters here. -/
theorem enqueues_frames {connection after : Connection State Worker} {frames : List Bytes}
    (accepted : after.output.accepted = connection.output.accepted ++ frames)
    (open_ : frames.any isClose = false) (calls : after.calls = connection.calls)
    (flush : after.closeAfterFlush = connection.closeAfterFlush)
    (complete : connection.upgradeComplete = true → after.upgradeComplete = true)
    (session : after.session.isSome → connection.session.isSome ∨ after.upgradeComplete = true) :
    Enqueues connection frames after where
  accepted := accepted
  calls := calls
  flush := by rw [flush, open_, Bool.or_false]
  complete := complete
  session := session
  closing := by simp [open_]
  last := by
    refine List.Pairwise.imp_of_mem (fun {earlier _} listed _ _ => ?_)
      (List.pairwise_of_forall fun _ _ => trivial)
    simpa using List.any_eq_false.mp open_ earlier listed

theorem protocolClose_enqueues {connection : Connection State Worker} {frame : Bytes}
    {output : Queue} (accepted : output.accepted = connection.output.accepted ++ [frame])
    (close : isClose frame = true) (ready : connection.upgradeComplete = true) :
    Enqueues connection [frame] { connection with output := output, closeAfterFlush := true } where
  accepted := accepted
  calls := rfl
  flush := by simp [close]
  complete := id
  session := .inl
  closing := fun _ => ready
  last := List.pairwise_singleton ..

/-- What a call does: it queues something exactly when the connection is open and there is room,
and a write that queues nothing fails. -/
structure Answers (tls : Tls State) (drive : Driver State Worker)
    (connection : Connection State Worker) (call : Call) (frames : List Bytes)
    (middle : Connection State Worker) : Prop where
  enqueues : Enqueues connection frames middle
  upright : Upright middle (connection.transport tls drive call).2
  queued : frames ≠ [] ↔ connection.state = .open ∧ call.fits connection.toStanding = true
  refused : ∀ streamId bytes fin, call = .write streamId bytes fin → frames = [] →
    (connection.transport tls drive call).1 = false

theorem answers_nothing {connection : Connection State Worker} {call : Call}
    (after : Connection State Worker) (answer : Bool)
    (result : connection.transport tls drive call = (answer, after))
    (enqueues : Enqueues connection [] after)
    (idle : ¬ (connection.state = .open ∧ call.fits connection.toStanding = true))
    (refused : ∀ streamId bytes fin, call = .write streamId bytes fin → answer = false) :
    ∃ frames middle, Answers tls drive connection call frames middle :=
  ⟨[], after, enqueues, by rw [result]; exact .refl _, by simpa using idle,
    fun streamId bytes fin isWrite _ => by rw [result]; exact refused streamId bytes fin isWrite⟩

theorem answers_frames (upright : ∀ connection, Upright connection (drive connection).2)
    (middle : Connection State Worker) {connection : Connection State Worker} {call : Call}
    {frames : List Bytes}
    (result : (connection.transport tls drive call).2 = (driveOrClose tls drive middle).2)
    (enqueues : Enqueues connection frames middle) (some_ : frames ≠ [])
    (open_ : connection.state = .open) (fits : call.fits connection.toStanding = true) :
    ∃ frames middle, Answers tls drive connection call frames middle :=
  ⟨frames, middle, enqueues, by rw [result]; exact driveOrClose_upright upright _,
    by simp [some_, open_, fits], fun _ _ _ _ none => absurd none some_⟩

theorem direction_answers (upright : ∀ connection, Upright connection (drive connection).2)
    {connection : Connection State Worker} {call : Call} {recordType : RecordType}
    {streamId code : Nat} (open_ : connection.state = .open)
    (result : connection.transport tls drive call =
      (true, connection.enqueueDirectionControl tls drive recordType streamId code))
    (fits : call.fits connection.toStanding = connection.output.admits (Queue.frameRecord
      { recordType := recordType, streamId := streamId, appErrorCode := narrowAppError code }))
    (other : ∀ streamId bytes fin, call ≠ .write streamId bytes fin) :
    ∃ frames middle, Answers tls drive connection call frames middle := by
  rcases Queue.enqueueRecord_cases connection.output
      { recordType := recordType, streamId := streamId, appErrorCode := narrowAppError code }
      .reliable with
    ⟨room, frame, output, taken, accepted, apart⟩ | ⟨full, ⟨_, lossy⟩ | ⟨error, refused⟩⟩
  · refine answers_frames upright { connection with output := output } ?_
      (enqueues_frames accepted (by simp [apart]) rfl rfl id .inl) (by simp) open_
      (fits.trans room)
    simp [result, enqueueDirectionControl, open_, taken]
  · cases lossy
  · refine answers_nothing (connection.beginImmediateClose tls) true ?_
      (beginImmediateClose_enqueues connection) (by simp [fits, full])
      (fun _ _ _ isWrite => absurd isWrite (other _ _ _))
    simp [result, enqueueDirectionControl, open_, refused]

theorem transport_answers (upright : ∀ connection, Upright connection (drive connection).2)
    {connection : Connection State Worker} (ready : connection.upgradeComplete = true)
    (call : Call) : ∃ frames middle, Answers tls drive connection call frames middle := by
  by_cases running : connection.state = .open
  case neg =>
    have closing : connection.state = .closing := by
      simpa [upgradeComplete, running] using ready
    refine answers_nothing connection (call matches .resetSend .. | .stopReceive .. |
      .discard .. | .close ..) ?_ (.of_same rfl rfl rfl id .inl)
      (fun both => running both.1) ?_
    · cases call <;> simp [transport, transportClaimInboundExchange, transportWrite,
        transportEphemeral, transportReset, transportStop, enqueueDirectionControl,
        transportDiscard, transportClose, closing]
    · rintro _ _ _ rfl
      rfl
  case pos =>
    cases call with
    | claimInboundExchange streamId =>
        have same : ∀ answer after,
            connection.transport tls drive (.claimInboundExchange streamId) = (answer, after) →
            Enqueues connection [] after := by
          intro answer after result
          simp only [transport, transportClaimInboundExchange] at result
          split at result
          · cases result
            exact .of_same rfl rfl rfl id .inl
          split at result <;> cases result <;> exact .of_same rfl rfl rfl id .inl
        exact answers_nothing _ _ rfl (same _ _ rfl) (by simp [Call.fits]) (by simp)
    | write streamId bytes fin =>
        cases noted : (if streamId % 4 = 1 then
            noteServerExchange connection.highestServerExchangeId streamId
          else some connection.highestServerExchangeId) with
        | none =>
            have gap : streamId % 4 = 1 ∧
                noteServerExchange connection.highestServerExchangeId streamId = none := by
              split at noted
              · exact ⟨‹_›, noted⟩
              · cases noted
            refine answers_nothing (connection.beginImmediateClose tls) false
              ?_ (beginImmediateClose_enqueues connection) (by simp [Call.fits, gap])
              (by simp)
            simp [transport, transportWrite, running, noted]
        | some highest =>
            have inOrder : (streamId % 4 ≠ 1 ||
                (noteServerExchange connection.highestServerExchangeId streamId).isSome) = true := by
              split at noted
              · simp [noted]
              · simp [*]
            rcases Queue.enqueueRecord_cases connection.output
                { recordType := .stream, streamId := streamId, fin := fin, payload := bytes }
                .reliable with
              ⟨room, frame, output, taken, accepted, apart⟩ | ⟨full, ⟨_, lossy⟩ | ⟨error, refused⟩⟩
            · refine answers_frames upright { connection with
                highestServerExchangeId := highest, output := output } ?_
                (enqueues_frames accepted (by simp [apart]) rfl rfl id .inl) (by simp) running
                (by simp only [Call.fits, inOrder, room, Bool.and_self])
              simp [transport, transportWrite, running, noted, taken]
            · cases lossy
            · refine answers_nothing ({ connection with
                highestServerExchangeId := highest }.beginImmediateClose tls) false ?_
                ?_ (by simp [Call.fits, full]) (by simp)
              · simp [transport, transportWrite, running, noted, refused]
              · have closes : Enqueues _ [] ({ connection with
                  highestServerExchangeId := highest }.beginImmediateClose tls) :=
                  beginImmediateClose_enqueues _
                exact ⟨closes.accepted, closes.calls, closes.flush, closes.complete,
                  closes.session, closes.closing, closes.last⟩
    | sendEphemeral bytes =>
        rcases Queue.enqueueRecord_cases connection.output
            { recordType := .ephemeral, payload := bytes } .ephemeral with
          ⟨room, frame, output, taken, accepted, apart⟩ | ⟨full, ⟨dropped, _⟩ | ⟨error, refused⟩⟩
        · refine answers_frames upright { connection with output := output } ?_
            (enqueues_frames accepted (by simp [apart]) rfl rfl id .inl) (by simp) running room
          simp [transport, transportEphemeral, running, taken]
        · refine ⟨[], connection, .of_same rfl rfl rfl id .inl, ?_, by simp [Call.fits, full],
            by simp⟩
          rw [transport, transportEphemeral, if_neg (not_not.mpr running), dropped]
          exact driveOrClose_upright upright connection
        · refine answers_nothing connection false ?_
            (.of_same rfl rfl rfl id .inl) (by simp [Call.fits, full]) (by simp)
          simp [transport, transportEphemeral, running, refused]
    | resetSend streamId code => exact direction_answers upright running rfl rfl (by simp)
    | stopReceive streamId code => exact direction_answers upright running rfl rfl (by simp)
    | discard streamId code =>
        rcases Queue.enqueueDiscard_cases connection.output streamId (narrowAppError code) with
          ⟨room, reset, stop, output, taken, accepted, first, second⟩ | ⟨full, error, refused⟩
        · refine answers_frames upright { connection with output := output } ?_
            (enqueues_frames accepted (by simp [first, second]) rfl rfl id .inl) (by simp) running
            room
          simp [transport, transportDiscard, running, taken]
        · refine answers_nothing (connection.beginImmediateClose tls) true ?_
            (beginImmediateClose_enqueues connection) (by simp [Call.fits, full]) (by simp)
          simp [transport, transportDiscard, running, refused]
    | close code =>
        rcases Queue.enqueueControl_cases connection.output .close
            (BigEndian.write 2 (websocketCloseCode code)) with
          ⟨room, frame, output, taken, accepted, close⟩ | ⟨full, error, refused⟩
        · refine answers_frames upright { connection with
            output := output, closeAfterFlush := true } ?_
            (protocolClose_enqueues accepted close ready) (by simp) running room
          simp [transport, transportClose, protocolClose, running, taken]
        · refine ⟨[], connection.beginImmediateClose tls, beginImmediateClose_enqueues connection,
            ?_, by simp [Call.fits, full], by simp⟩
          have driven : Upright _ (driveOrClose tls drive (connection.beginImmediateClose tls)).2 :=
            driveOrClose_upright upright _
          simpa [transport, transportClose, protocolClose, running, refused] using driven

theorem Upright.sealed (upright : Upright before after) (unbroken : after.output.Sealed) :
    before.output.Sealed :=
  List.Pairwise.sublist upright.accepted.sublist unbroken

theorem ask_upright (upright : ∀ connection, Upright connection (drive connection).2)
    {connection : Connection State Worker} (ready : connection.upgradeComplete = true)
    (call : Call) : Upright connection (connection.ask tls drive call).2 := by
  obtain ⟨frames, middle, answers⟩ : ∃ frames middle,
      Answers tls drive connection call frames middle := transport_answers upright ready call
  have grows : connection.output.accepted <+:
      (connection.transport tls drive call).2.output.accepted :=
    (answers.enqueues.accepted ▸ List.prefix_append ..).trans answers.upright.accepted
  have recalls : connection.calls <+: (connection.transport tls drive call).2.calls := by
    rw [← answers.enqueues.calls]
    exact answers.upright.calls
  -- A late call queues something behind a Close frame.
  have broken (sound : connection.Sound)
      (late : (⟨connection.toStanding, call, (connection.transport tls drive call).1⟩ :
        Asked).Late) :
      frames ≠ [] ∧ ¬ (connection.transport tls drive call).2.output.Sealed := by
    obtain ⟨waits, open_, fits⟩ := late
    have queued := answers.queued.mpr ⟨open_, fits⟩
    refine ⟨queued, fun unbroken => ?_⟩
    have early := (answers.enqueues.sealed_iff.mp (answers.upright.sealed unbroken)).2
    rw [sound.closes] at early
    exact early.elim queued (by simp [show connection.closeAfterFlush = true from waits])
  exact {
    accepted := grows
    calls := recalls.trans (List.prefix_append ..)
    complete := fun ready => answers.upright.complete (answers.enqueues.complete ready)
    sound := by
      intro sound
      have sound' := answers.upright.sound (answers.enqueues.sound sound)
      refine ⟨sound'.closes, sound'.upgraded, fun asked listed late => ?_,
        fun asked listed => ?_⟩
      · rcases List.mem_append.mp listed with listed | new
        · exact sound'.late asked listed late
        · rw [List.mem_singleton.mp new] at late
          exact (broken sound late).2
      · rcases List.mem_append.mp listed with listed | new
        · exact sound'.snapshots asked listed
        · rw [List.mem_singleton.mp new]
          exact sound.closes
    judged := by
      intro sound timely nothing
      have early : frames = [] ∨ connection.closeAfterFlush = false := by
        by_contra wrong
        push Not at wrong
        refine timely _ (List.mem_append_right _ List.mem_cons_self) ⟨?_, ?_⟩
        · simpa using wrong.2
        · exact answers.queued.mp wrong.1
      have whole := (answers.enqueues.upright early).trans answers.upright
      have nothing' := whole.judged sound
        (fun asked listed => timely asked (List.mem_append_left _ listed)) nothing
      refine ⟨nothing'.sealed, fun asked listed streamId bytes fin isWrite closed => ?_⟩
      rcases List.mem_append.mp listed with listed | new
      · exact nothing'.refused asked listed streamId bytes fin isWrite closed
      · obtain rfl := List.mem_singleton.mp new
        refine answers.refused streamId bytes fin isWrite (early.resolve_right ?_)
        rw [← sound.closes]
        simpa using closed }

theorem react_upright (upright : ∀ connection, Upright connection (drive connection).2)
    {connection : Connection State Worker} (ready : connection.upgradeComplete = true)
    (reaction : Reaction Worker) : Upright connection (react tls drive reaction connection) := by
  induction reaction generalizing connection with
  | done worker =>
      exact Upright.of_same rfl rfl rfl id .inl
  | call call resume ih =>
      have asked : Upright connection (connection.ask tls drive call).2 :=
        ask_upright upright ready call
      exact asked.trans (ih _ (asked.complete ready))

end Calls

variable {config : ListenerConfig} {tls : Tls State} {handler : Handler Worker}

theorem reenter_upright (connection : Connection State Worker) :
    Upright connection (reenter connection).2 := .refl connection

theorem protocolClose_upright {connection : Connection State Worker} {code : Nat}
    (ready : connection.upgradeComplete = true) (reading : connection.closeAfterFlush = false) :
    Upright connection (connection.protocolClose tls code) := by
  unfold protocolClose
  rcases Queue.enqueueControl_cases connection.output .close (BigEndian.write 2 code) with
    ⟨_, frame, output, taken, accepted, close⟩ | ⟨_, error, refused⟩
  · rw [taken]
    exact (protocolClose_enqueues accepted close ready).upright (.inr reading)
  · rw [refused]
    exact beginImmediateClose_upright connection

theorem handleMessage_upright {connection : Connection State Worker} {message : Message}
    (ready : connection.upgradeComplete = true) (reading : connection.closeAfterFlush = false) :
    Upright connection (connection.handleMessage tls handler message).2 := by
  unfold handleMessage
  split
  · exact .refl _
  rename_i handle _
  split
  case h_1 | h_2 => exact .refl _
  case h_3 payload =>
    rcases Queue.enqueueControl_cases connection.output .pong payload with
      ⟨_, frame, output, taken, accepted, apart⟩ | ⟨_, error, refused⟩
    · rw [taken]
      have queued : Enqueues connection [frame] { connection with output := output } :=
        enqueues_frames accepted (by simp [apart, Opcode.toNat]) rfl rfl id .inl
      exact queued.upright (.inr reading)
    · rw [refused]
      exact beginImmediateClose_upright connection
  case h_4 payload =>
    split
    · exact protocolClose_upright ready reading
    rcases Queue.enqueueControl_cases connection.output .close payload with
      ⟨_, frame, output, taken, accepted, close⟩ | ⟨_, error, refused⟩
    · rw [taken]
      exact (protocolClose_enqueues accepted close ready).upright (.inr reading)
    · rw [refused]
      exact beginImmediateClose_upright connection
  case h_5 bytes =>
    split
    · exact protocolClose_upright ready reading
    split
    · exact protocolClose_upright ready reading
    · exact react_upright reenter_upright ready _

/-- A frame that begins with a letter. -/
theorem upgradeResponse_apart {key response : Bytes}
    (built : buildUpgradeResponse config.sha1 key = .ok response) : isClose response = false := by
  unfold buildUpgradeResponse at built
  split at built
  · cases built
  · cases built
    have first : (ascii "HTTP/1.1 101 Switching Protocols\r\nUpgrade: websocket\r\n").head? =
        some 72 := by decide +kernel
    simp [isClose, List.append_assoc, List.head?_append, first]

theorem upgrade_upright {connection : Connection State Worker} {request : UpgradeRequest}
    (reading : connection.closeAfterFlush = false) :
    Upright connection (connection.upgrade config tls handler request).2 ∧
      (connection.upgrade config tls handler request).2.closeAfterFlush = false := by
  unfold upgrade
  dsimp only
  split
  · exact ⟨.refl _, reading⟩
  split
  · exact ⟨.refl _, reading⟩
  split
  · exact ⟨.refl _, reading⟩
  rename_i response built
  rcases connection.output.enqueue_cases response with ⟨_, taken⟩ | ⟨_, error, refused⟩
  · rw [Queue.enqueueRaw, taken]
    dsimp only
    have apart := upgradeResponse_apart built
    split
    · exact ⟨Enqueues.upright (show Enqueues connection [response] _ from
        enqueues_frames (by simp) (by simp [apart]) rfl rfl id .inl) (.inr reading), reading⟩
    · exact ⟨Enqueues.upright (show Enqueues connection [response] _ from
        enqueues_frames (by simp [consumePlain]) (by simp [apart]) rfl rfl
          (fun _ => by simp [consumePlain, upgradeComplete])
          (fun _ => .inr (by simp [consumePlain, upgradeComplete]))) (.inr reading), reading⟩
  · rw [Queue.enqueueRaw, refused]
    exact ⟨.refl _, reading⟩

theorem takeUnit_upright {connection : Connection State Worker}
    (reading : connection.closeAfterFlush = false) :
    Upright connection (connection.takeUnit config tls handler).2 ∧
      ((connection.takeUnit config tls handler).1 = .ok true →
        (connection.takeUnit config tls handler).2.closeAfterFlush = false) := by
  unfold takeUnit
  split
  case h_1 | h_2 => exact ⟨.refl _, nofun⟩
  case h_3 =>
    split
    · exact ⟨.refl _, nofun⟩
    · exact ⟨.refl _, nofun⟩
    rename_i request _
    have upgraded : Upright connection (connection.upgrade config tls handler request).2 ∧
        (connection.upgrade config tls handler request).2.closeAfterFlush = false :=
      upgrade_upright reading
    split
    · rename_i result
      rw [result] at upgraded
      exact ⟨upgraded.1, nofun⟩
    · rename_i result
      rw [result] at upgraded
      exact ⟨upgraded.1, fun _ => upgraded.2⟩
  case h_4 running =>
    have ready : connection.upgradeComplete = true := by simp [upgradeComplete, running]
    split
    · exact ⟨.refl _, nofun⟩
    · exact ⟨protocolClose_upright ready reading, nofun⟩
    rename_i parsed _
    split
    · exact ⟨protocolClose_upright ready reading, nofun⟩
    rename_i message assembler _
    have handled : Upright { connection with assembler := assembler }
        ({ connection with assembler := assembler }.handleMessage tls handler message).2 :=
      handleMessage_upright ready reading
    have assembled : Upright connection { connection with assembler := assembler } :=
      .of_same rfl rfl rfl id .inl
    split
    · rename_i result
      rw [result] at handled
      exact ⟨assembled.trans handled, nofun⟩
    · rename_i after result
      rw [result] at handled
      have consumed : Upright after (after.consumePlain parsed.consumed) :=
        .of_same rfl rfl rfl id .inl
      refine ⟨(assembled.trans handled).trans consumed, fun more => ?_⟩
      simpa using more

theorem takeUnits_upright (fuel : Nat) {connection : Connection State Worker}
    (reading : connection.closeAfterFlush = false) :
    Upright connection (connection.takeUnits config tls handler fuel).2 := by
  induction fuel generalizing connection with
  | zero => exact .refl _
  | succ fuel ih =>
      have taken : Upright connection (connection.takeUnit config tls handler).2 ∧
          ((connection.takeUnit config tls handler).1 = .ok true →
            (connection.takeUnit config tls handler).2.closeAfterFlush = false) :=
        takeUnit_upright reading
      unfold takeUnits
      split
      · exact .refl _
      split
      · rename_i result
        rw [result] at taken
        exact taken.1
      · rename_i result
        rw [result] at taken
        exact taken.1
      · rename_i result
        rw [result] at taken
        exact taken.1.trans (ih (taken.2 rfl))

theorem processPlain_upright (connection : Connection State Worker) :
    Upright connection (connection.processPlain config tls handler).2 := by
  unfold processPlain
  split
  · exact .refl _
  · rename_i reading
    exact takeUnits_upright _ (by simpa using reading)

theorem takeOut_upright (connection : Connection State Worker) :
    Upright connection (connection.takeOut tls).2 := by
  unfold takeOut
  split <;> exact .of_same rfl rfl rfl id .inl

theorem inTurn_upright {parts : List (Part State Worker)}
    (each : ∀ part ∈ parts, ∀ connection, Upright connection (part connection).2)
    (connection : Connection State Worker) : Upright connection (inTurn parts connection).2 := by
  induction parts generalizing connection with
  | nil => exact .refl _
  | cons part parts ih =>
      have first := each part List.mem_cons_self connection
      have later := ih fun part listed => each part (List.mem_cons_of_mem _ listed)
      unfold inTurn
      split
      · rename_i result
        rwa [result] at first
      · rename_i middle result
        rw [result] at first
        have rest := later middle
        split
        · rename_i result
          rw [result] at rest
          exact first.trans rest
        · rename_i result
          rw [result] at rest
          exact first.trans rest

theorem shake_upright (connection : Connection State Worker) :
    Upright connection (shake tls connection).2 := by
  unfold shake
  split
  · exact .refl _
  rename_i started
  have shaking : connection.state = .tlsHandshake := not_not.mp started
  have early : connection.upgradeComplete = false := by simp [upgradeComplete, shaking]
  split
  · exact .of_same rfl rfl rfl id .inl
  · exact .of_same rfl rfl rfl id .inl
  · exact .of_same rfl rfl rfl (by simp [early]) .inl

theorem readIn_upright (connection : Connection State Worker) :
    Upright connection (readIn config tls handler connection).2 := by
  unfold readIn
  split
  case isFalse => exact .refl _
  split
  · exact .refl _
  split
  · exact .of_same rfl rfl rfl id .inl
  · rename_i bytes state _
    have filled : Upright connection
        { connection with tls := state, plain := connection.plain ++ bytes } :=
      .of_same rfl rfl rfl id .inl
    have processed : Upright connection (processPlain config tls handler
        { connection with tls := state, plain := connection.plain ++ bytes }).2 :=
      filled.trans (processPlain_upright _)
    split
    · rename_i result
      rwa [result] at processed
    · rename_i result
      rwa [result] at processed
  · exact .of_same rfl rfl rfl id .inl
  · rename_i state _
    have moved : Upright connection { connection with tls := state } :=
      .of_same rfl rfl rfl id .inl
    exact moved.trans (beginImmediateClose_upright _)

@[simp] theorem Queue.accepted_consume (queue : Queue) (count : Nat) :
    (queue.consume count).accepted = queue.accepted := by
  unfold Queue.consume
  split
  · rfl
  · dsimp only
    split <;> rfl

theorem writeOut_upright (connection : Connection State Worker) :
    Upright connection (writeOut tls connection).2 := by
  unfold writeOut
  split
  · exact .refl _
  split
  · exact .of_same rfl rfl rfl id .inl
  · exact Enqueues.upright (show Enqueues connection [] _ from
      enqueues_frames (by simp) rfl rfl rfl id .inl) (.inl rfl)
  · exact .of_same rfl rfl rfl id .inl
  · rename_i state _
    have moved : Upright connection { connection with tls := state } :=
      .of_same rfl rfl rfl id .inl
    exact moved.trans (beginImmediateClose_upright _)

theorem finish_upright (connection : Connection State Worker) :
    Upright connection (finish tls connection).2 := by
  unfold finish
  split
  case isFalse => exact .refl _
  have taken : Upright connection (connection.takeOut tls).2 := takeOut_upright connection
  split <;> rename_i result <;> rw [result] at taken
  · exact taken
  · exact taken
  · exact taken.trans (beginImmediateClose_upright _)

theorem round_upright (connection : Connection State Worker) :
    Upright connection (round config tls handler connection).2 := by
  refine inTurn_upright (fun part listed connection => ?_) connection
  simp only [List.mem_cons, List.not_mem_nil, or_false] at listed
  rcases listed with rfl | rfl | rfl | rfl | rfl | rfl
  · unfold provide
    split
    · exact .refl _
    · exact .of_same rfl rfl rfl id .inl
  · exact shake_upright connection
  · exact readIn_upright connection
  · exact writeOut_upright connection
  · unfold send
    split
    · exact .refl _
    · exact takeOut_upright connection
  · exact finish_upright connection

theorem settle_upright (connection : Connection State Worker) :
    Upright connection connection.settle.2 := by
  unfold settle
  split <;> exact .refl _

theorem driveFor_upright (rounds : Nat) (connection : Connection State Worker) :
    Upright connection (driveFor config tls handler rounds connection).2 := by
  induction rounds generalizing connection with
  | zero => exact .refl _
  | succ rounds ih =>
      have once : Upright connection (round config tls handler connection).2 :=
        round_upright connection
      unfold driveFor
      split
      · exact settle_upright connection
      split <;> rename_i result <;> rw [result] at once
      · exact once
      · exact once
      · exact once.trans (ih _)
      · exact once.trans (settle_upright _)

theorem drive_upright (connection : Connection State Worker) :
    Upright connection (drive config tls handler connection).2 :=
  driveFor_upright maxRounds connection

theorem destroy_upright {connection : Connection State Worker} (sound : connection.Sound) :
    Upright connection (connection.destroy config tls handler) := by
  unfold destroy notifySessionClosed
  dsimp only
  split
  · exact .of_same rfl rfl rfl id .inl
  · rename_i handle live
    have ready : connection.upgradeComplete = true := sound.upgraded (.inl (by simp [live]))
    have left : Upright connection { connection with socketClosed := true, session := none } :=
      .of_same rfl rfl rfl id (by simp)
    exact left.trans (react_upright drive_upright (left.complete ready) _)

theorem startRead_upright (connection : Connection State Worker) :
    Upright connection connection.startRead := by
  unfold startRead
  split
  · exact .refl _
  · exact .of_same rfl rfl rfl id .inl

theorem readCallback_upright (connection : Connection State Worker) (result : Option Bytes) :
    Upright connection (connection.readCallback config tls handler result) := by
  have idle : Upright connection { connection with readActive := false } :=
    .of_same rfl rfl rfl id .inl
  unfold readCallback
  dsimp only
  split
  · exact idle.trans (beginImmediateClose_upright _)
  · exact idle.trans (beginImmediateClose_upright _)
  split
  · exact idle.trans (beginImmediateClose_upright _)
  · rename_i bytes _ _
    have filled : Upright connection
        { connection with readActive := false, encryptedIn := bytes } :=
      .of_same rfl rfl rfl id .inl
    exact (filled.trans (driveOrClose_upright drive_upright _)).trans (startRead_upright _)

theorem writeCallback_upright (connection : Connection State Worker) (result : Option Nat) :
    Upright connection (connection.writeCallback config tls handler result) := by
  have idle : Upright connection { connection with writeActive := false } :=
    .of_same rfl rfl rfl id .inl
  unfold writeCallback
  dsimp only
  split
  · exact idle.trans (beginImmediateClose_upright _)
  · exact idle.trans (beginImmediateClose_upright _)
  split
  · exact .of_same rfl rfl rfl id .inl
  split
  · exact .of_same rfl rfl rfl id .inl
  · have emptied : Upright connection
        { connection with writeActive := false, encryptedOut := [] } :=
      .of_same rfl rfl rfl id .inl
    exact emptied.trans (driveOrClose_upright drive_upright _)

theorem poll_upright {connection : Connection State Worker} (sound : connection.Sound)
    (now : Nat) : Upright connection (connection.poll config tls handler now) := by
  have timed : Upright connection
      (if connection.upgradeComplete = false ∧ connection.handshakeDeadlineUs ≤ now then
        connection.beginImmediateClose tls else connection) := by
    split
    · exact beginImmediateClose_upright connection
    · exact .refl _
  unfold poll
  dsimp only
  generalize (if connection.upgradeComplete = false ∧ connection.handshakeDeadlineUs ≤ now then
    connection.beginImmediateClose tls else connection) = after at timed ⊢
  split
  · exact timed.trans (destroy_upright (timed.sound sound))
  · exact timed

theorem step_upright {connection : Connection State Worker} (sound : connection.Sound)
    (event : Event) : Upright connection (connection.step config tls handler event) := by
  unfold step
  split
  · exact .refl _
  cases event with
  | read result =>
      dsimp only
      split
      · exact readCallback_upright connection result
      · exact .refl _
  | wrote result =>
      dsimp only
      split
      · exact writeCallback_upright connection result
      · exact .refl _
  | call call =>
      dsimp only
      split
      · rename_i live
        exact ask_upright drive_upright (sound.upgraded (.inl live)) call
      · exact .refl _
  | poll now => exact poll_upright sound now
  | loopStopped => exact destroy_upright sound

theorem run_upright {connection : Connection State Worker} (sound : connection.Sound)
    (events : List Event) :
    Upright connection (Run.final (step config tls handler) connection events) := by
  induction events generalizing connection with
  | nil => exact .refl _
  | cons event events ih =>
      have once : Upright connection (step config tls handler connection event) :=
        step_upright sound event
      exact once.trans (ih (once.sound sound))

theorem create_sound (config : ListenerConfig) (tls : Tls State) (handler : Handler Worker)
    (deadline : Nat) : (create config tls handler deadline).Sound where
  closes := rfl
  upgraded := by simp [create]
  late := by simp [create]
  snapshots := by simp [create]

/-- In every run nothing follows a Close frame if and only if no call came late. -/
theorem nothing_follows_close_iff (config : ListenerConfig) (tls : Tls State)
    (handler : Handler Worker) (deadline : Nat) (events : List Event) :
    (Run.final (step config tls handler) (create config tls handler deadline)
        events).NothingFollowsClose ↔
      ∀ asked ∈ (Run.final (step config tls handler) (create config tls handler deadline)
        events).calls, ¬ asked.Late := by
  have sound := create_sound config tls handler deadline
  have upright : Upright (create config tls handler deadline)
      (Run.final (step config tls handler) (create config tls handler deadline) events) :=
    run_upright sound events
  constructor
  · intro nothing asked listed late
    exact (upright.sound sound).late asked listed late nothing.sealed
  · intro timely
    exact upright.judged sound timely ⟨.nil, by simp [create]⟩

/-- A TLS layer that moves every byte as it is. -/
def plainTls : Tls (Bytes × Bytes) where
  init := ([], [])
  provideEncrypted state bytes := (bytes.length, (state.1 ++ bytes, state.2))
  handshake state := (.ok true, state)
  serverName _ := some (ascii "gateway.example")
  readPlain state room :=
    if state.1 = [] then (.ok .wouldBlock, state)
    else (.ok (.bytes (state.1.take room)), (state.1.drop room, state.2))
  writePlain state bytes := (.ok (.bytes bytes.length), (state.1, state.2 ++ bytes))
  takeEncrypted state room := (.ok (state.2.take room), (state.1, state.2.drop room))
  shutdown state := state

/-- A worker that takes every session and does nothing with it. -/
def idleHandler : Handler Unit where
  init := ()
  accept _ _ := (some ⟨0, 1⟩, ())
  streamData _ _ _ _ _ := .done ()
  control _ _ _ _ := .done ()
  ephemeral _ _ _ := .done ()
  closed _ _ := .done ()

def openConfig : ListenerConfig where
  allowMissingOrigin := true
  sha1 := fun _ => List.replicate 20 0

def upgradeHead : Bytes :=
  ascii "GET /lyune/v2 HTTP/1.1\r\nHost: gateway.example\r\nUpgrade: websocket\r\n" ++
    ascii "Connection: Upgrade\r\nSec-WebSocket-Key: dGhlIHNhbXBsZSBub25jZQ==\r\n" ++
    ascii "Sec-WebSocket-Version: 13\r\nSec-WebSocket-Protocol: lyune.v2\r\n\r\n"

/-- The client closes, and the worker writes an answer before the socket has sent the Close
frame. -/
def closingEvents : List Event :=
  [.read (some upgradeHead), .read (some [136, 128, 0, 0, 0, 0]),
    .call (.write 0 (ascii "late") true)]

theorem write_follows_close :
    ¬ (Run.final (step openConfig plainTls idleHandler)
      (create openConfig plainTls idleHandler 0) closingEvents).NothingFollowsClose := by
  intro nothing
  have broken : ¬ (Run.final (step openConfig plainTls idleHandler)
      (create openConfig plainTls idleHandler 0) closingEvents).output.Sealed := by
    unfold Queue.Sealed
    decide +kernel
  exact broken nothing.sealed

end Connection

end LyuneGateway.Wss
