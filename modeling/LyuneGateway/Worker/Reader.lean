import LyuneGateway.Worker.Vigil

/-!
# Reading a push stream

What a backend sends on a push stream arrives in chunks, with anything else in
between. The frames that are dispatched are the first ones of what the stream
brought, as long as the kept partial frame is all that is left of it and no frame
has been refused.
-/

namespace LyuneGateway.Worker

open Foundation Io Protocol Session

/-- The event is not a piece of the handling of a chunk. -/
def Event.isWhole : Event → Bool
  | .pushFrame .. | .pushSpill .. | .pushDrop _ | .pushEnd _ => false
  | _ => true

/-- What a worker takes in. -/
inductive Arrival where
  | chunk (transport : Nat) (realm : RealmId) (recv : TransportRecv) (memory : Nat → Bool)
  | event (event : Event) (whole : event.isWhole = true)

/-- A worker, what it has received on a push stream, and how many frames of the stream had been
dispatched when the framing failed for the first time. -/
structure Reader where
  worker : GatewayWorker
  received : Bytes := []
  failed : Option Nat := none

/-- The action does not tell that a frame was dispatched. -/
def Action.Unheard : Action → Prop
  | .dispatched .. => False
  | _ => True

def Op.Unheard : Op → Prop
  | .record action => action.Unheard
  | _ => True

/-- The frame of a push stream that an action tells of, with the answer to it. -/
def Action.dispatch (key : StreamKey) : Action → Option (Frame × Bool)
  | .dispatched own frame continues => if own = key then some (frame, continues) else none
  | _ => none

namespace GatewayWorker

variable {worker after : GatewayWorker} {event : Event} {key : StreamKey}

/-- The frames of a push stream that have been dispatched, with the answers to them. -/
def dispatches (worker : GatewayWorker) (key : StreamKey) : List (Frame × Bool) :=
  worker.log.filterMap (Action.dispatch key)

def spill (worker : GatewayWorker) (key : StreamKey) : Bytes :=
  (worker.egress.pushes.lookup key).getD []

/-- There is no room for another push stream. -/
def Crowded (worker : GatewayWorker) (key : StreamKey) : Prop :=
  (worker.egress.pushes.lookup key).isNone ∧ maxPushStreams ≤ worker.egress.pushes.size

instance : Decidable (worker.Crowded key) := inferInstanceAs (Decidable (_ ∧ _))

/-- The framing of a chunk fails. -/
def fails (worker : GatewayWorker) (key : StreamKey) (realm : RealmId) (data : Bytes)
    (memory : Nat → Bool) : Bool :=
  (Framing.drainFrames (onPushFrame key realm) memory maxFrameSize worker (worker.spill key)
    data).2.2 matches .error _

/-- The partial frames that are kept are partial. -/
def KeepsPartial (worker : GatewayWorker) : Prop :=
  ∀ key spill, worker.egress.pushes.lookup key = some spill →
    FrameScanner.next maxFrameSize spill = .ok none

theorem unheard_of_calm {action : Action} (calm : action.Calm) : action.Unheard := by
  cases action <;> trivial

end GatewayWorker

open GatewayWorker in
/-- No operation but the record of it tells that a frame was dispatched. -/
theorem Op.Unheard.grows {op : Op} (unheard : op.Unheard) (worker : GatewayWorker) :
    Grows Action.Unheard worker (op.apply worker) := by
  have calmly {after : GatewayWorker} (calm : Undisturbed worker after) :
      Grows Action.Unheard worker after := calm.log.mono fun _ => unheard_of_calm
  cases op with
  | record action => exact .record unheard
  | accept =>
      simp only [Op.apply, addConnection]
      split <;> exact .refl
  | remove | conn => exact .refl
  | bindDest handle destId => exact calmly (.setConns _)
  | bind => exact calmly (.resolveBind _ _ _)
  | group => exact calmly (.applyGroupChange _ _ _ _)
  | kick realm token =>
      refine (@grows_kickOne worker realm token).mono ?_
      rintro action (calm | ⟨slot, ctx, -, -, -, rfl⟩)
      · exact unheard_of_calm calm
      · trivial
  | publish slot kind reason =>
      refine (grows_publish _ _ _).mono ?_
      rintro action (calm | ⟨ctx, -, rfl⟩)
      · exact unheard_of_calm calm
      · trivial
  | revoke => exact calmly (.revokeAdmission _ _)
  | admitClient =>
      refine (grows_admitSession _ _ _ _).mono ?_
      rintro action (calm | ⟨own, _, -, rfl⟩)
      · exact unheard_of_calm calm
      · trivial
  | pushes => exact .refl
  | placement => exact .of_log (refreshPlacement_frame _ _).1
  | outside => exact .of_log (changeOutside_frame _).1
  | _ => exact calmly (Op.Quiet.calm (by trivial) worker)

open GatewayWorker in
theorem Op.Unheard.sidelines : Sidelines Op.Unheard where
  locals := ⟨fun _ _ => trivial, fun _ _ => trivial⟩
  streams := ⟨fun _ _ _ => trivial, fun _ _ _ => trivial, fun _ _ => trivial, fun _ => trivial,
    fun _ _ _ _ => trivial⟩
  forwards _ _ _ _ := ⟨fun _ => trivial, fun _ => trivial⟩
  commands _ _ := ⟨fun _ _ _ _ _ _ => trivial, fun _ _ _ _ _ => trivial⟩
  completes := ⟨⟨trivial, fun _ _ _ _ => trivial, fun _ _ => trivial⟩,
    fun _ => ⟨fun _ _ _ => trivial, fun _ => trivial⟩⟩
  close _ _ := trivial
  reset _ _ := trivial
  relay _ _ _ _ := trivial
  admitClient _ _ _ _ := trivial
  publish _ _ _ := trivial
  revoke _ _ := trivial
  pushes _ := trivial
  placement _ _ := trivial
  outside _ := trivial

namespace GatewayWorker

variable {worker after : GatewayWorker} {event : Event} {key : StreamKey}

/-- Partial frames that are only dropped stay partial. -/
theorem KeepsPartial.of_subset (keeps : worker.KeepsPartial)
    (subset : ∀ key spill, after.egress.pushes.lookup key = some spill →
      worker.egress.pushes.lookup key = some spill) : after.KeepsPartial :=
  fun key spill kept => keeps key spill (subset key spill kept)

theorem KeepsPartial.of_egress (keeps : worker.KeepsPartial)
    (same : after.egress.pushes = worker.egress.pushes) : after.KeepsPartial :=
  keeps.of_subset fun key spill kept => by rwa [same] at kept

theorem KeepsPartial.dropPush (keeps : worker.KeepsPartial) (own : StreamKey) :
    (worker.dropPush own).KeepsPartial := by
  apply keeps.of_subset
  intro key spill kept
  exact (Table.lookup_erase_eq_some.mp kept).2

theorem KeepsPartial.abortBackendPush (keeps : worker.KeepsPartial) (own : StreamKey) :
    (worker.abortBackendPush own).KeepsPartial := by
  unfold GatewayWorker.abortBackendPush
  simp only
  split
  · exact keeps.dropPush own
  · exact (keeps.dropPush own).of_egress (pushes_abortSession _)

/-- Keeping a partial frame adds none but that. -/
theorem lookup_keepPush {own : StreamKey} {known : Bool} {spill kept : Bytes}
    (keeps : worker.keepPush own known spill = some after)
    (held : after.egress.pushes.lookup key = some kept) :
    key = own ∧ spill = kept ∨ worker.egress.pushes.lookup key = some kept := by
  unfold keepPush at keeps
  split at keeps
  · cases keeps
    split at held
    · exact .inr (Table.lookup_erase_eq_some.mp held).2
    · exact (Table.lookup_insert_cases held).imp_right And.right
  split at keeps
  · cases keeps
    exact .inr held
  split at keeps <;> rename_i answer <;> cases keeps
  obtain rfl := congrArg Prod.snd answer
  exact (Table.lookup_insert_cases held).imp_right And.right

theorem KeepsPartial.endChunk {own : StreamKey} {spill : Bytes} {refused isFin : Bool}
    (keeps : worker.KeepsPartial)
    (short : refused = false → FrameScanner.next maxFrameSize spill = .ok none) :
    (worker.endChunk own spill refused isFin).KeepsPartial := by
  unfold GatewayWorker.endChunk
  simp only
  split
  · exact keeps
  split
  · exact keeps
  rename_i after kept
  split
  · apply keeps.of_subset
    intro key spill held
    obtain ⟨other, held⟩ := Table.lookup_erase_eq_some.mp held
    exact (lookup_keepPush kept held).resolve_left fun same => other same.1
  · rename_i accepted
    have keeps : after.KeepsPartial := by
      intro key spill held
      obtain ⟨-, rfl⟩ | held := lookup_keepPush kept held
      · exact short (by simpa using accepted)
      · exact keeps key spill held
    split
    · exact keeps.abortBackendPush own
    · exact keeps

theorem KeepsPartial.step (keeps : worker.KeepsPartial) (whole : event.isWhole = true) :
    (worker.step event).KeepsPartial := by
  cases push : event.isPush with
  | false => exact keeps.of_egress (step_pushes push)
  | true =>
      cases event with
      | streamControl own reason peerInitiated =>
          have answers : Answers Op.KeepsEgress :=
            ⟨fun _ => rfl, fun _ _ _ _ _ => rfl, fun _ _ _ => rfl⟩
          simp only [GatewayWorker.step, handleBackendStreamControl]
          split
          · refine keeps.of_egress ?_
            rw [Via.egress (failAuth_via answers)]
          split
          · refine keeps.of_egress ?_
            simp only
            rw [Via.egress (failRoute_via answers)]
          split
          · exact keeps.abortBackendPush own
          · exact keeps
      | pushSpill | pushDrop | pushEnd => cases whole
      | _ => cases push

theorem KeepsPartial.short (keeps : worker.KeepsPartial) (key : StreamKey) :
    FrameScanner.next maxFrameSize (worker.spill key) = .ok none := by
  unfold GatewayWorker.spill
  cases kept : worker.egress.pushes.lookup key with
  | none => rfl
  | some spill => exact keeps key spill kept

theorem handlePush_of_crowded {transport : Nat} {realm : RealmId} {recv : TransportRecv}
    {memory : Nat → Bool} (same : ⟨transport, recv.streamId⟩ = key) (full : worker.Crowded key) :
    worker.handlePush transport realm recv memory = worker := by
  unfold handlePush
  rw [same]
  exact if_pos full

theorem KeepsPartial.handlePush {transport : Nat} {realm : RealmId} {recv : TransportRecv}
    {memory : Nat → Bool} (keeps : worker.KeepsPartial) :
    (worker.handlePush transport realm recv memory).KeepsPartial := by
  generalize same : (⟨transport, recv.streamId⟩ : StreamKey) = key
  by_cases full : worker.Crowded key
  · rwa [handlePush_of_crowded same full]
  rw [handlePush_eq_endChunk same rfl full]
  obtain ⟨frames, handled⟩ := @drainFrames_frames worker key realm memory recv.data
  have drained := @Framing.drainFrames_drained _ (onPushFrame key realm) memory maxFrameSize worker
    _ recv.data (keeps.short key)
  unfold GatewayWorker.spill at drained
  generalize Framing.drainFrames (onPushFrame key realm) memory maxFrameSize worker
    ((worker.egress.pushes.lookup key).getD []) recv.data = answer at handled drained ⊢
  apply KeepsPartial.endChunk
  · apply keeps.of_egress
    rw [handled]
    exact pushes_frames key realm frames
  · intro clean
    obtain ⟨_, _, outcome⟩ := answer
    cases outcome with
    | error => cases clean
    | ok => exact drained.partialFrame rfl

end GatewayWorker

namespace Reader

open GatewayWorker

variable {key : StreamKey} {reader : Reader} {arrival : Arrival}

/-- What a push stream brings is read, whatever else happens. -/
def take (key : StreamKey) (reader : Reader) : Arrival → Reader
  | .event event _ => { reader with worker := reader.worker.step event }
  | .chunk transport realm recv memory =>
      let worker := reader.worker.handlePush transport realm recv memory
      if ⟨transport, recv.streamId⟩ = key then
        let failing := ¬ reader.worker.Crowded key ∧
          reader.worker.fails key realm recv.data memory = true
        { worker := worker
          received := reader.received ++ recv.data
          failed := reader.failed <|>
            if failing then some (worker.dispatches key).length else none }
      else { reader with worker := worker }

/-- All that was received has been dispatched and accepted, but for the kept partial frame. -/
def Intact (key : StreamKey) (reader : Reader) : Prop :=
  (frameScanner maxFrameSize).tokens reader.received =
      ((reader.worker.dispatches key).map Prod.fst, .more (reader.worker.spill key)) ∧
    (∀ entry ∈ reader.worker.dispatches key, entry.2 = true) ∧ reader.failed = none

instance (reader : Reader) : Decidable (reader.Intact key) := inferInstanceAs (Decidable (_ ∧ _))

/-- A chunk of the stream completes a frame only as long as the stream is intact. -/
def Fits (key : StreamKey) (reader : Reader) : Arrival → Prop
  | .event _ _ => True
  | .chunk transport _ recv _ => ⟨transport, recv.streamId⟩ = key →
      reader.Intact key ∨ reader.worker.Crowded key ∨
        ((frameScanner maxFrameSize).tokens (reader.worker.spill key ++ recv.data)).1 = []

instance decidableFits (reader : Reader) :
    ∀ arrival : Arrival, Decidable (reader.Fits key arrival)
  | .event _ _ => isTrue trivial
  | .chunk _ _ _ _ => inferInstanceAs (Decidable (_ → _))

/-- The dispatched frames are the first ones of what was received, and nothing is dispatched after
one that was refused or after a failure of the framing. -/
structure Faithful (key : StreamKey) (reader : Reader) : Prop where
  parsed : (reader.worker.dispatches key).map Prod.fst <+:
    ((frameScanner maxFrameSize).tokens reader.received).1
  accepted : ∀ entry ∈ (reader.worker.dispatches key).dropLast, entry.2 = true
  stopped : ∀ dispatched, reader.failed = some dispatched →
    (reader.worker.dispatches key).length = dispatched

/-- What holds while a push stream is read. -/
structure Keeps (key : StreamKey) (reader : Reader) : Prop where
  faithful : reader.Faithful key
  keepsPartial : reader.worker.KeepsPartial

/-- A chunk that is not heard of leaves everything as it is. -/
theorem Faithful.silent (faithful : reader.Faithful key) {worker : GatewayWorker} (data : Bytes)
    (failing : Prop) [Decidable failing]
    (same : worker.dispatches key = reader.worker.dispatches key) :
    Faithful key {
      worker := worker
      received := reader.received ++ data
      failed := reader.failed <|> if failing then some (worker.dispatches key).length else none }
    where
  parsed := by
    simp only [same]
    exact faithful.parsed.trans (Scanner.tokens_prefix_append _ data)
  accepted := by
    simp only [same]
    exact faithful.accepted
  stopped dispatched failed := by
    cases before : reader.failed with
    | some count =>
        simp only [before, Option.some_or, Option.orElse_eq_or, Option.orElse_eq_orElse,
          Option.some.injEq] at failed
        rw [same, faithful.stopped count before, failed]
    | none =>
        rw [before] at failed
        simpa using (Option.ite_none_right_eq_some.mp failed).2

/-- What a chunk brings to an intact stream follows what has been dispatched. -/
theorem Intact.heard (intact : reader.Intact key) {worker : GatewayWorker} (data : Bytes)
    (failing : Prop) [Decidable failing] {more : List (Frame × Bool)}
    (heard : worker.dispatches key = reader.worker.dispatches key ++ more)
    (first : more.map Prod.fst <+:
      ((frameScanner maxFrameSize).tokens (reader.worker.spill key ++ data)).1)
    (answers : ∀ entry ∈ more.dropLast, entry.2 = true) :
    Faithful key {
      worker := worker
      received := reader.received ++ data
      failed := reader.failed <|> if failing then some (worker.dispatches key).length else none }
    where
  parsed := by
    simp only [heard, List.map_append]
    rw [Scanner.tokens_append_of_more intact.1]
    exact (List.prefix_append_right_inj _).mpr first
  accepted := by
    simp only [heard]
    intro entry listed
    cases more with
    | nil => exact intact.2.1 entry (List.dropLast_subset _ (by simpa using listed))
    | cons next more =>
        rw [List.dropLast_append_cons] at listed
        exact (List.mem_append.mp listed).elim (intact.2.1 entry) (answers entry)
  stopped dispatched failed := by
    rw [intact.2.2] at failed
    simpa using (Option.ite_none_right_eq_some.mp failed).2

end Reader

end LyuneGateway.Worker
