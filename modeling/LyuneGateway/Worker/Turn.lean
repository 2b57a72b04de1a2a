import LyuneGateway.Worker.Origins

/-!
# Deliveries of a backend transport

A delivery is handled in turns. The frames of a push stream that a chunk of
bytes completes are dispatched one after the other; what is left of the chunk is
dealt with at its end, together with the end of the stream.
-/

namespace LyuneGateway.Worker

open Foundation Io Protocol Session

/-- What a worker does in one go: a step, or the end of a chunk of a push stream. -/
inductive Turn where
  | event (event : Event)
  | chunkEnd (key : StreamKey) (spill : Bytes) (refused isFin : Bool)

namespace GatewayWorker

/-- The end of a chunk: its rest is kept or, if the framing was violated, dropped, and the stream
may be over. Nothing happens when there is no room for the stream. -/
def endChunk (worker : GatewayWorker) (key : StreamKey) (spill : Bytes) (refused isFin : Bool) :
    GatewayWorker :=
  let existing := worker.egress.pushes.lookup key
  if existing.isNone ∧ maxPushStreams ≤ worker.egress.pushes.size then worker
  else
    match worker.keepPush key existing.isSome spill with
    | none => worker.ask.2
    | some worker =>
        if refused then worker.dropPush key
        else if isFin then worker.abortBackendPush key
        else worker

def takeTurn (worker : GatewayWorker) : Turn → GatewayWorker
  | .event event => worker.step event
  | .chunkEnd key spill refused isFin => worker.endChunk key spill refused isFin

variable {worker : GatewayWorker}

theorem pushes_frames (key : StreamKey) (realm : RealmId) (frames : List Frame) :
    (frames.foldl (fun worker frame => (onPushFrame key realm worker frame).1)
      worker).egress.pushes = worker.egress.pushes := by
  induction frames generalizing worker with
  | nil => rfl
  | cons frame frames ih => exact ih.trans (@step_pushes worker (.pushFrame key realm frame) rfl)

theorem turns_frames (key : StreamKey) (realm : RealmId) (frames : List Frame) :
    Run.final takeTurn worker (frames.map fun frame => .event (.pushFrame key realm frame)) =
      frames.foldl (fun worker frame => (onPushFrame key realm worker frame).1) worker := by
  induction frames generalizing worker with
  | nil => rfl
  | cons frame frames ih => exact ih

theorem drainFrames_frames (key : StreamKey) (realm : RealmId) (memory : Nat → Bool)
    (data : Bytes) : ∃ frames : List Frame,
      (Framing.drainFrames (onPushFrame key realm) memory maxFrameSize worker
        ((worker.egress.pushes.lookup key).getD []) data).1 =
      frames.foldl (fun worker frame => (onPushFrame key realm worker frame).1) worker :=
  Framing.drainFrames_handles worker _ data

/-- A chunk for which there is room is drained and brought to its end. -/
theorem handlePush_eq_endChunk {transport : Nat} {realm : RealmId} {recv : TransportRecv}
    {memory : Nat → Bool} {key : StreamKey} (same : ⟨transport, recv.streamId⟩ = key)
    {drained : GatewayWorker × Bytes × Except DrainError Unit}
    (drains : Framing.drainFrames (onPushFrame key realm) memory maxFrameSize worker
      ((worker.egress.pushes.lookup key).getD []) recv.data = drained)
    (room : ¬ ((worker.egress.pushes.lookup key).isNone ∧
      maxPushStreams ≤ worker.egress.pushes.size)) :
    worker.handlePush transport realm recv memory =
      drained.1.endChunk key drained.2.1 (drained.2.2 matches .error _) recv.isFin := by
  obtain ⟨frames, handled⟩ := @drainFrames_frames worker key realm memory recv.data
  have pushes := @pushes_frames worker key realm frames
  rw [← handled, drains] at pushes
  obtain ⟨middle, spill, outcome⟩ := drained
  simp only at pushes
  unfold handlePush endChunk
  rw [same]
  simp only [drains, pushes]
  rw [if_neg room, if_neg room]
  cases middle.keepPush key (worker.egress.pushes.lookup key).isSome spill with
  | none => rfl
  | some kept => cases outcome <;> rfl

/-- A chunk is handled frame by frame and then brought to its end. -/
theorem handlePush_turns (transport : Nat) (realm : RealmId) (recv : TransportRecv)
    (memory : Nat → Bool) : ∃ (frames : List Frame) (spill : Bytes) (refused : Bool),
      worker.handlePush transport realm recv memory = Run.final takeTurn worker
        ((frames.map fun frame => .event (.pushFrame ⟨transport, recv.streamId⟩ realm frame)) ++
          [.chunkEnd ⟨transport, recv.streamId⟩ spill refused recv.isFin]) := by
  generalize same : (⟨transport, recv.streamId⟩ : StreamKey) = key
  by_cases full : (worker.egress.pushes.lookup key).isNone ∧
      maxPushStreams ≤ worker.egress.pushes.size
  · refine ⟨[], [], false, ?_⟩
    unfold handlePush
    rw [same]
    simp only [List.map_nil, List.nil_append, Run.final_cons, takeTurn, endChunk]
    rw [if_pos full, if_pos full]
    rfl
  · obtain ⟨frames, handled⟩ := @drainFrames_frames worker key realm memory recv.data
    have finished := @handlePush_eq_endChunk worker transport realm recv memory key same _ rfl full
    rw [handled] at finished
    generalize (Framing.drainFrames (onPushFrame key realm) memory maxFrameSize worker
      ((worker.egress.pushes.lookup key).getD []) recv.data).2 = answer at finished
    refine ⟨frames, answer.1, answer.2 matches .error _, finished.trans ?_⟩
    rw [Run.final_append, turns_frames]
    rfl

/-- Every delivery is handled by turns on its stream; it is data of a push stream, or something
else by one step. -/
theorem drainTransport_turns (transport : Nat) (realm : RealmId) (recv : TransportRecv)
    (memory : Nat → Bool) :
    ∃ turns, worker.drainTransport transport realm recv memory =
      Run.final takeTurn worker turns := by
  have single (event : Event) : ∃ turns, worker.step event = Run.final takeTurn worker turns :=
    ⟨[.event event], rfl⟩
  unfold drainTransport
  simp only
  split
  · exact single (.streamControl _ _ _)
  · exact single (.streamControl _ _ _)
  split
  · exact single (.authResponse _ _ _)
  split
  · rename_i route found
    obtain ⟨turns, same⟩ := single (.response _ recv.data recv.isFin)
    rw [step, found] at same
    exact ⟨turns, same⟩
  split
  · obtain ⟨frames, spill, refused, same⟩ := @handlePush_turns worker transport realm recv memory
    exact ⟨_, same⟩
  · exact ⟨[], rfl⟩

end GatewayWorker

end LyuneGateway.Worker
