import LyuneGateway.Backend.Direct
import LyuneGateway.Worker.Drain
import Mathlib.Data.Nat.Bitwise

/-!
# Handles of backend streams

A handle packs the id of a backend connection, its generation and the number of
a stream into 64 bits. The worker tells by masks which handles a failed connection
had, and by the lowest bit who has opened the stream. All of it is right as long
as stream numbers fit into the 32 bits that are left for them.
-/

namespace LyuneGateway.Backend

open Worker (StreamSelector)

/-- What a handle is made from. -/
structure Call where
  connId : Nat
  generation : Nat
  streamId : Nat
  deriving DecidableEq, Repr

def Call.handle (call : Call) : Nat := makeHandle call.connId call.generation call.streamId

/-- The streams of a failed connection. -/
def DirectTransport.failureSelector (transport : DirectTransport) : StreamSelector where
  mask := (2 ^ 32 - 1) <<< 32
  value := transport.lastFailureConn <<< 32

/-- Streams of the gateway have even numbers, since it is the client. -/
def isPeerInitiated (streamId : Nat) : Bool := streamId &&& 1 = 1

/-- The parts of a handle have the bits that they are to have. -/
structure Call.Fits (call : Call) : Prop where
  connId : call.connId < 2 ^ 16
  generation : call.generation < 2 ^ 16
  streamId : call.streamId < 2 ^ 32

section Packing

variable {call other : Call} {handle key : Nat}

/-- The parts do not overlap, so that they may be added. -/
theorem Call.handle_eq_or (fits : call.Fits) :
    call.connId <<< 48 ||| call.generation <<< 32 ||| call.streamId = call.handle := by
  obtain ⟨-, generation, streamId⟩ := fits
  have middle : call.generation <<< 32 < 2 ^ 48 := by
    rw [Nat.shiftLeft_eq]
    omega
  have upper : call.connId <<< 48 + call.generation <<< 32 =
      (call.connId * 2 ^ 16 + call.generation) <<< 32 := by
    simp only [Nat.shiftLeft_eq]
    omega
  rw [← Nat.shiftLeft_add_eq_or_of_lt middle, upper, ← Nat.shiftLeft_add_eq_or_of_lt streamId,
    Nat.shiftLeft_eq]
  unfold Call.handle makeHandle
  omega

theorem Call.handle_parts (fits : call.Fits) : handleConnId call.handle = call.connId ∧
    handleGeneration call.handle = call.generation ∧
    handleStreamId call.handle = call.streamId := by
  obtain ⟨connId, generation, streamId⟩ := fits
  unfold handleConnId handleGeneration handleStreamId Call.handle makeHandle
  omega

theorem Call.handle_inj (fits : call.Fits) (others : other.Fits) (same : call.handle = other.handle) :
    call = other := by
  obtain ⟨connId, generation, streamId⟩ := Call.handle_parts fits
  obtain ⟨otherConnId, otherGeneration, otherStreamId⟩ := Call.handle_parts others
  cases call
  cases other
  simp_all

theorem Call.handle_lt (fits : call.Fits) : call.handle < 2 ^ 64 := by
  obtain ⟨connId, generation, streamId⟩ := fits
  unfold Call.handle makeHandle
  omega

/-- The mask leaves the upper half. -/
theorem and_upper (narrow : handle < 2 ^ 64) :
    handle &&& (2 ^ 32 - 1) <<< 32 = (handle / 2 ^ 32) <<< 32 := by
  apply Nat.eq_of_testBit_eq
  intro bit
  rw [Nat.testBit_and, Nat.testBit_shiftLeft, Nat.testBit_shiftLeft, Nat.testBit_two_pow_sub_one,
    ← Nat.shiftRight_eq_div_pow, Nat.testBit_shiftRight]
  by_cases lower : 32 ≤ bit
  · by_cases upper : bit - 32 < 32
    · simp [lower, upper]
    · have beyond : handle.testBit bit = false :=
        Nat.testBit_lt_two_pow (narrow.trans_le (Nat.pow_le_pow_right (by decide) (by omega)))
      simp [lower, beyond]
  · simp [lower]

theorem covers_iff (narrow : handle < 2 ^ 64) {transport : DirectTransport} :
    transport.failureSelector.covers handle = true ↔
      handle / 2 ^ 32 = transport.lastFailureConn := by
  rw [StreamSelector.covers, decide_eq_true_iff, DirectTransport.failureSelector]
  dsimp only
  rw [and_upper narrow, Nat.shiftLeft_eq, Nat.shiftLeft_eq]
  exact Nat.mul_left_inj (by decide)

/-- The selector of a connection covers the handles of its generation, and no others. -/
theorem Call.covered_iff (fits : call.Fits) {transport : DirectTransport} {conn : BackendConn}
    (failed : transport.lastFailureConn = conn.connectionKey) (narrow : conn.generation < 2 ^ 16) :
    transport.failureSelector.covers call.handle = true ↔
      call.connId = conn.id ∧ call.generation = conn.generation := by
  rw [covers_iff (Call.handle_lt fits), failed]
  obtain ⟨connId, generation, streamId⟩ := fits
  unfold BackendConn.connectionKey Call.handle makeHandle
  omega

theorem Call.isPeerInitiated_handle (call : Call) :
    isPeerInitiated call.handle = isPeerInitiated call.streamId := by
  unfold isPeerInitiated Call.handle makeHandle
  rw [Nat.and_one_is_mod, Nat.and_one_is_mod]
  congr 1
  apply propext
  omega

end Packing

def BackendConn.call (conn : BackendConn) (streamId : Nat) : Call where
  connId := conn.id
  generation := conn.generation
  streamId := streamId

namespace Backends

/-! ## The handles that are made -/

/-- The connection takes what is written on it. -/
def takes (outside : Outside) (id : Nat) (conn : BackendConn) : Bool :=
  conn.isReady && conn.cnx.isSome && outside.connected id && outside.write id

/-- The first connection at one of these positions that takes a new stream. -/
def taker (backends : Backends) (transport : Nat) (outside : Outside) (positions : List Nat) :
    Option BackendConn :=
  positions.findSome? fun position =>
    let id := (backends.transports transport).conns.getD position 0
    (backends.conns id).filter (takes outside id)

/-- The positions of a transport, from the one that is to be tried first. -/
def rotation (backends : Backends) (transport : Nat) : List Nat :=
  let count := (backends.transports transport).conns.length
  (List.range count).map fun offset => ((backends.transports transport).nextConn + offset) % count

/-- The connection that takes more of the stream of a handle. -/
def holder (backends : Backends) (transport value : Nat) (outside : Outside) : Option BackendConn :=
  (((backends.transports transport).conns.find? fun id => id = handleConnId value).bind
    backends.conns).filter fun conn => takes outside (handleConnId value) conn &&
      (handleConnId value = conn.id && handleGeneration value = conn.generation)

/-- The connection that listens to an event of a QUIC connection. -/
def listener (backends : Backends) (cnx : Cnx) : Option BackendConn :=
  ((backends.pool.index cnx).bind backends.conns).filter BackendConn.isReady

/-- What handles are made from during an event. -/
def calls (backends : Backends) : Event → List Call
  | .send transport none outside =>
      (backends.taker transport outside (backends.rotation transport)).toList.map fun conn =>
        conn.call conn.nextBidiStreamId
  | .send transport (some value) outside =>
      (backends.holder transport value outside).toList.map fun conn =>
        conn.call (handleStreamId value)
  | .streamData cnx streamId data isFin _ =>
      if data = [] ∧ isFin = false then []
      else (backends.listener cnx).toList.map fun conn => conn.call streamId
  | .streamControl cnx streamId _ _ =>
      (backends.listener cnx).toList.map fun conn => conn.call streamId
  | _ => []

/-- What handles are made from during a run. -/
def made (backends : Backends) : List Event → List Call
  | [] => []
  | event :: events => backends.calls event ++ (backends.step event).made events

/-- A write on a new stream answers with the handle of that stream, if the connection takes it. -/
theorem sendOn_new (conn : BackendConn) {outside : Outside} {id : Nat} (ready : conn.isReady = true) :
    (conn.sendOn none (outside.connected id) (outside.write id)).2.toOption =
      if takes outside id conn then some (conn.call conn.nextBidiStreamId).handle else none := by
  unfold BackendConn.sendOn takes
  cases conn.cnx with
  | none => simp [Except.toOption]
  | some cnx =>
      cases outside.connected id <;> cases outside.write id <;>
        simp [ready, Except.toOption, Call.handle, BackendConn.call]

theorem sendOn_held (conn : BackendConn) {outside : Outside} {id value : Nat}
    (ready : conn.isReady = true) :
    (conn.sendOn (some value) (outside.connected id) (outside.write id)).2.toOption =
      if (takes outside id conn && (handleConnId value = conn.id &&
        handleGeneration value = conn.generation)) = true then
          some (conn.call (handleStreamId value)).handle
      else none := by
  unfold BackendConn.sendOn takes
  cases conn.cnx with
  | none => simp [Except.toOption]
  | some cnx =>
      by_cases own : handleConnId value = conn.id <;>
        by_cases current : handleGeneration value = conn.generation <;>
        cases outside.connected id <;> cases outside.write id <;>
        simp [ready, own, current, Except.toOption, Call.handle, BackendConn.call]

/-- A write that fails takes the connection down, and leaves all others as they are. -/
theorem failConn_sendOn {backends : Backends} {id : Nat} {conn : BackendConn}
    (error : TransportError) (outside : Outside) (found : backends.conns id = some conn) :
    let after := (backends.modify id fun conn =>
      (conn.sendOn none (outside.connected id) (outside.write id)).1).failConn id error outside
    (∀ transport, (after.transports transport).conns = (backends.transports transport).conns) ∧
      (∃ down, after.conns id = some down ∧ down.isReady = false) ∧
      ∀ other, other ≠ id → after.conns other = backends.conns other := by
  intro after
  let wrote := backends.modify id fun conn =>
    (conn.sendOn none (outside.connected id) (outside.write id)).1
  let tried := (conn.sendOn none (outside.connected id) (outside.write id)).1
  have written : wrote.conns id = some tried := by
    simp only [wrote, modify_conns_self, found, Option.map_some, tried]
  have failed : after = (wrote.signalFailure tried.transport tried.connectionKey).modify id
      fun conn => conn.markFailed error outside.now := by
    simp only [after, failConn]
    rw [written]
  rw [failed]
  refine ⟨fun transport => ?_, ⟨tried.markFailed error outside.now, ?_, ?_⟩, fun other different => ?_⟩
  · rw [modify_transports, signalFailure_lists]
    rfl
  · rw [modify_conns_self, signalFailure_conns, written, Option.map_some]
  · simp [BackendConn.isReady]
  · rw [modify_conns_of_ne _ different, signalFailure_conns, modify_conns_of_ne _ different]

/-- A connection that has failed takes nothing, and it did not take this. -/
theorem taker_failed {backends : Backends} {id transport : Nat} {conn : BackendConn}
    {error : TransportError} {outside : Outside} (found : backends.conns id = some conn)
    (refused : takes outside id conn = false) (positions : List Nat) :
    ((backends.modify id fun conn =>
        (conn.sendOn none (outside.connected id) (outside.write id)).1).failConn id error outside).taker
      transport outside positions = backends.taker transport outside positions := by
  obtain ⟨lists, ⟨down, held, idle⟩, others⟩ := failConn_sendOn error outside found
  generalize (backends.modify id fun conn =>
    (conn.sendOn none (outside.connected id) (outside.write id)).1).failConn id error outside = after
    at lists held others
  have same (other : Nat) : (after.conns other).filter (takes outside other) =
      (backends.conns other).filter (takes outside other) := by
    by_cases here : other = id
    · subst here
      have waiting : takes outside other down = false := by simp [takes, idle]
      rw [held, found, Option.filter_some, Option.filter_some, waiting, refused]
      rfl
    · rw [others other here]
  simp only [taker, lists, same]

theorem sendNew_answer (transport : Nat) (outside : Outside) (positions : List Nat)
    (backends : Backends) (lastError : TransportError) :
    (backends.sendNew transport outside positions lastError).2.toOption.map Prod.snd =
      (backends.taker transport outside positions).map fun conn =>
        (conn.call conn.nextBidiStreamId).handle := by
  induction positions generalizing backends lastError with
  | nil => rfl
  | cons position positions ih =>
      unfold sendNew
      rw [taker, List.findSome?_cons]
      dsimp only
      generalize place : (backends.transports transport).conns.getD position 0 = id
      cases found : backends.conns id with
      | none => exact ih backends lastError
      | some conn =>
          dsimp only
          split
          · rename_i waiting
            have refused : takes outside id conn = false := by simp [takes, waiting]
            rw [Option.filter_some, refused]
            exact ih backends lastError
          · rename_i ready
            have answer := @sendOn_new conn outside id (by simpa using ready)
            split
            · rename_i error sent
              rw [sent] at answer
              have refused : takes outside id conn = false := by
                by_contra taken
                rw [if_pos (by simpa using taken)] at answer
                cases answer
              rw [ih, taker_failed found refused, Option.filter_some, refused]
              rfl
            · rename_i handle sent
              rw [sent] at answer
              have taken : takes outside id conn = true := by
                by_contra refused
                rw [if_neg refused] at answer
                cases answer
              rw [if_pos taken] at answer
              rw [Option.filter_some, taken]
              exact answer

/-- A send answers with the handle that it makes, if it makes one. -/
theorem sendStream_answer (backends : Backends) (transport : Nat) (handle : Option Nat)
    (outside : Outside) : (backends.sendStream transport handle outside).2.toOption =
      (backends.calls (.send transport handle outside)).head?.map Call.handle := by
  unfold sendStream
  simp only
  split
  · rename_i none_
    cases handle <;> simp [calls, rotation, taker, holder, none_, Except.toOption]
  cases handle with
  | none =>
      have answer := backends.sendNew_answer transport outside (backends.rotation transport)
        .connectionFailed
      rw [calls]
      simp only [rotation] at answer ⊢
      split <;> rename_i outcome <;> rw [outcome] at answer <;>
        cases taken : backends.taker transport outside _ <;> rw [taken] at answer <;>
        first | cases answer; rfl | exact answer
  | some value =>
      rw [calls, holder]
      dsimp only
      split
      · rename_i absent
        simp [absent, Except.toOption]
      rename_i id found
      have named : id = handleConnId value := by simpa using List.find?_some found
      subst named
      rw [found, Option.bind_some]
      split
      · rename_i absent
        simp [absent, Except.toOption]
      rename_i conn held
      rw [held, Option.filter_some]
      split
      · rename_i waiting
        simp [takes, waiting, Except.toOption]
      rename_i ready
      have answer := @sendOn_held conn outside (handleConnId value) value (by simpa using ready)
      rcases sent : conn.sendOn (some value) (outside.connected (handleConnId value))
        (outside.write (handleConnId value)) with ⟨after, error | handle⟩ <;> rw [sent] at answer
      · dsimp only
        split <;>
        · split at answer
          · cases answer
          · rename_i refused
            rw [if_neg (by simpa using refused)]
            rfl
      · split at answer
        · rename_i taken
          rw [if_pos (by simpa using taken)]
          exact answer
        · cases answer

/-! ## Runs -/

/-- Ids and generations have sixteen bits. -/
structure Numbered (backends : Backends) : Prop where
  next : backends.pool.nextConnId < 2 ^ 16
  ids : ∀ {id conn}, backends.conns id = some conn → conn.id < 2 ^ 16
  generations : ∀ {id conn}, backends.conns id = some conn → conn.generation < 2 ^ 16

namespace Numbered

variable {backends : Backends}

theorem congr {after : Backends} (numbered : Numbered backends)
    (conns : after.conns = backends.conns)
    (next : after.pool.nextConnId = backends.pool.nextConnId) : Numbered after where
  next := next ▸ numbered.next
  ids := conns ▸ numbered.ids
  generations := conns ▸ numbered.generations

/-- The change keeps the id, and the generation or counts it up. -/
theorem modify (numbered : Numbered backends) (id : Nat) {change : BackendConn → BackendConn}
    (same : ∀ conn, (change conn).id = conn.id ∧ ((change conn).generation = conn.generation ∨
      (change conn).generation = (conn.generation + 1) % 2 ^ 16)) :
    Numbered (backends.modify id change) where
  next := numbered.next
  ids := by
    intro other conn found
    rcases modify_conns_cases found with ⟨old, before, -, rfl⟩ | ⟨-, before⟩
    · rw [(same old).1]
      exact numbered.ids before
    · exact numbered.ids before
  generations := by
    intro other conn found
    rcases modify_conns_cases found with ⟨old, before, -, rfl⟩ | ⟨-, before⟩
    · rcases (same old).2 with kept | counted
      · rw [kept]
        exact numbered.generations before
      · rw [counted]
        exact Nat.mod_lt _ (Nat.two_pow_pos 16)
    · exact numbered.generations before

theorem still (numbered : Numbered backends) (id : Nat) {change : BackendConn → BackendConn}
    (same : ∀ conn, (change conn).id = conn.id ∧ (change conn).generation = conn.generation) :
    Numbered (backends.modify id change) :=
  numbered.modify id fun conn => ⟨(same conn).1, .inl (same conn).2⟩

theorem signalFailure (numbered : Numbered backends) (transport key : Nat) :
    Numbered (backends.signalFailure transport key) :=
  numbered.congr (by simp) (by simp)

theorem onResolved (numbered : Numbered backends) (id : Nat) (result : ResolveResult)
    (outside : Outside) : Numbered (backends.onResolved id result outside) := by
  have settled : Numbered (backends.modify id .lookupDone) := numbered.still id fun _ => ⟨rfl, rfl⟩
  rcases onResolved_cases backends id result outside with
    ⟨problem, -, same⟩ | ⟨spent, -, same⟩ | ⟨pool, -, registration, same⟩ <;> rw [same]
  · exact settled.still id fun _ => ⟨rfl, rfl⟩
  · have spending : Numbered ({ backends with nextCnx := backends.nextCnx + spent }.modify id
        .lookupDone) := settled.congr rfl rfl
    exact spending.still id fun _ => ⟨rfl, rfl⟩
  · have attached : Numbered ((backends.modify id .lookupDone).modify id fun conn =>
        conn.setCnx (some backends.nextCnx)) := settled.still id fun _ => ⟨rfl, rfl⟩
    exact attached.congr rfl (BackendPool.register_nextConnId registration)

theorem ensureConnecting (numbered : Numbered backends) (id : Nat) (outside : Outside) :
    Numbered (backends.ensureConnecting id outside) := by
  unfold Backends.ensureConnecting
  split
  · exact numbered
  split
  · exact numbered
  split
  · exact numbered
  have begun : Numbered (backends.modify id .attempt) := numbered.still id fun _ => ⟨rfl, rfl⟩
  have asked : Numbered ((backends.modify id .attempt).modify id .lookupStarted) :=
    begun.still id fun _ => ⟨rfl, rfl⟩
  have started : Numbered ((backends.modify id .attempt).startConnect id outside).1 := by
    unfold startConnect
    split
    · exact begun
    split
    · exact begun
    · exact asked.onResolved id _ outside
    · exact asked
  split <;> rename_i outcome <;> rw [outcome] at started
  · exact started
  · exact started.still id fun _ => ⟨rfl, rfl⟩

theorem allocated (numbered : Numbered backends) {id : Nat} {pool : BackendPool}
    (allocated : backends.pool.allocConnId = some (id, pool)) :
    id < 2 ^ 16 ∧ Numbered { backends with pool := pool } := by
  have next := numbered.next
  have more : backends.pool.nextConnId ≠ 65535 := by
    intro last
    simp [BackendPool.allocConnId, last] at allocated
  obtain ⟨rfl, rfl⟩ := BackendPool.allocConnId_eq_some allocated
  exact ⟨next, ⟨by simp only; omega, numbered.ids, numbered.generations⟩⟩

theorem addConn (numbered : Numbered backends) (transport : Nat) (endpoint : Endpoint) {id : Nat}
    (narrow : id < 2 ^ 16) : Numbered (backends.addConn transport endpoint id) where
  next := numbered.next
  ids := by
    intro other conn found
    by_cases same : other = id
    · simp only [Backends.addConn, same, Function.update_self, Option.some.injEq] at found
      exact found ▸ narrow
    · exact numbered.ids (by simpa [Backends.addConn, same] using found)
  generations := by
    intro other conn found
    by_cases same : other = id
    · simp only [Backends.addConn, same, Function.update_self, Option.some.injEq] at found
      exact found ▸ Nat.two_pow_pos 16
    · exact numbered.generations (by simpa [Backends.addConn, same] using found)

theorem failConn (numbered : Numbered backends) (id : Nat) (error : TransportError)
    (outside : Outside) : Numbered (backends.failConn id error outside) := by
  unfold Backends.failConn
  split
  · exact numbered
  · exact (numbered.signalFailure _ _).still id fun _ => ⟨rfl, rfl⟩

theorem keeps (outside : Outside) : Keeps Numbered outside where
  connecting := fun id numbered => numbered.ensureConnecting id outside
  reserved := fun allocated numbered => (numbered.allocated allocated).2
  created := fun transport endpoint allocated numbered =>
    have ⟨narrow, reserved⟩ := numbered.allocated allocated
    reserved.addConn transport endpoint narrow
  waiting := fun id _ numbered => numbered.still id fun _ => ⟨rfl, rfl⟩
  wrote := by
    intro backends id connected accepted numbered
    refine numbered.still id fun conn => ?_
    unfold BackendConn.sendOn
    split
    · exact ⟨rfl, rfl⟩
    split
    · exact ⟨rfl, rfl⟩
    · dsimp only
      split <;> exact ⟨rfl, rfl⟩
  failed := fun id error numbered => numbered.failConn id error outside
  advanced := fun _ _ numbered => numbered.congr rfl rfl

theorem enqueueOrAbort (numbered : Numbered backends) (id : Nat) (cnx : Cnx) (conn : BackendConn)
    (streamId : Nat) (data : Bytes) (isFin : Bool) (kind : RecvKind) (outside : Outside) :
    Numbered (backends.enqueueOrAbort id cnx conn streamId data isFin kind outside) := by
  unfold Backends.enqueueOrAbort
  dsimp only
  split
  · unfold Backends.abortConnection
    split
    · exact numbered
    · exact (numbered.signalFailure _ _).still id fun _ => ⟨rfl, rfl⟩
  · rename_i arena queue _
    have stored : Numbered { backends with pool := { backends.pool with arena := arena } } :=
      numbered.congr rfl rfl
    exact stored.still id fun _ => ⟨rfl, rfl⟩

theorem hookClose (numbered : Numbered backends) (id : Nat) (outside : Outside) :
    Numbered (backends.hookClose id outside) := by
  unfold Backends.hookClose
  split
  · exact numbered
  split
  · exact (numbered.signalFailure _ _).still id fun _ => ⟨rfl, rfl⟩
  · exact numbered.still id fun _ => ⟨rfl, rfl⟩

theorem step (numbered : Numbered backends) (event : Event) : Numbered (backends.step event) := by
  suffices handled : Numbered (backends.handle event) from handled.congr rfl rfl
  cases event with
  | resolve transport callback outside => exact (keeps outside).resolve numbered transport callback
  | send transport handle outside => exact (keeps outside).sendStream numbered transport handle
  | resolved conn result outside => exact numbered.onResolved conn result outside
  | connected cnx =>
      simp only [handle]
      split
      · exact numbered
      · unfold hookConnected
        split
        · exact numbered
        · rename_i conn _
          have born : Numbered { backends with
              born := Function.update backends.born cnx (some conn.markConnected.generation) } :=
            numbered.congr rfl rfl
          exact born.modify _ fun _ => ⟨rfl, .inr rfl⟩
  | streamData cnx streamId data isFin outside =>
      simp only [handle]
      split
      · exact numbered
      unfold hookStreamData
      split
      · exact numbered
      split
      · exact numbered
      split
      · exact numbered
      · exact numbered.enqueueOrAbort _ _ _ _ _ _ _ _
  | streamControl cnx streamId stopSending outside =>
      simp only [handle]
      split
      · exact numbered
      unfold hookStreamControl
      split
      · exact numbered
      split
      · exact numbered
      · exact numbered.enqueueOrAbort _ _ _ _ _ _ _ _
  | close cnx outside =>
      simp only [handle]
      split
      · exact numbered
      · exact (numbered.hookClose _ outside).congr rfl (BackendPool.unregister_nextConnId _ _)
  | receive transport =>
      simp only [handle, Backends.receive]
      split
      · split
        · exact numbered
        · exact numbered.still _ fun _ => ⟨rfl, rfl⟩
      · split
        · exact numbered
        · exact numbered.congr rfl rfl
  | release slot => exact numbered.congr rfl rfl

end Numbered

/-- The stream has a number that is small enough for a handle: the one that a backend has opened, and
the next one of the gateway on the connection that takes it. -/
def Narrow (backends : Backends) : Event → Prop
  | .send transport none outside =>
      ∀ conn, backends.taker transport outside (backends.rotation transport) = some conn →
        conn.nextBidiStreamId < 2 ^ 32
  | .streamData cnx streamId data isFin _ =>
      ¬ (data = [] ∧ isFin = false) → (backends.listener cnx).isSome → streamId < 2 ^ 32
  | .streamControl cnx streamId _ _ => (backends.listener cnx).isSome → streamId < 2 ^ 32
  | _ => True

variable {backends : Backends}

theorem listener_eq_some {cnx : Cnx} {conn : BackendConn}
    (listens : backends.listener cnx = some conn) : ∃ id, backends.conns id = some conn := by
  obtain ⟨found, -⟩ := Option.filter_eq_some_iff.mp listens
  obtain ⟨id, -, found⟩ := Option.bind_eq_some_iff.mp found
  exact ⟨id, found⟩

theorem taker_eq_some {transport : Nat} {outside : Outside} {positions : List Nat}
    {conn : BackendConn} (taken : backends.taker transport outside positions = some conn) :
    ∃ id, backends.conns id = some conn := by
  obtain ⟨position, -, found⟩ := List.exists_of_findSome?_eq_some taken
  exact ⟨_, (Option.filter_eq_some_iff.mp found).1⟩

theorem holder_eq_some {transport value : Nat} {outside : Outside} {conn : BackendConn}
    (held : backends.holder transport value outside = some conn) :
    ∃ id, backends.conns id = some conn := by
  obtain ⟨found, -⟩ := Option.filter_eq_some_iff.mp held
  obtain ⟨id, -, found⟩ := Option.bind_eq_some_iff.mp found
  exact ⟨id, found⟩

/-- Handles are made for connections. -/
theorem mem_calls {event : Event} {call : Call} (listed : call ∈ backends.calls event) :
    ∃ id conn streamId, backends.conns id = some conn ∧ call = conn.call streamId := by
  cases event with
  | send transport handle outside =>
      cases handle with
      | none =>
          obtain ⟨conn, taken, rfl⟩ := List.mem_map.mp listed
          obtain ⟨id, found⟩ := taker_eq_some (Option.mem_toList.mp taken)
          exact ⟨id, conn, _, found, rfl⟩
      | some value =>
          obtain ⟨conn, held, rfl⟩ := List.mem_map.mp listed
          obtain ⟨id, found⟩ := holder_eq_some (Option.mem_toList.mp held)
          exact ⟨id, conn, _, found, rfl⟩
  | streamData cnx streamId data isFin outside =>
      rw [calls] at listed
      split at listed
      · cases listed
      obtain ⟨conn, listens, rfl⟩ := List.mem_map.mp listed
      obtain ⟨id, found⟩ := listener_eq_some (Option.mem_toList.mp listens)
      exact ⟨id, conn, _, found, rfl⟩
  | streamControl cnx streamId stopSending outside =>
      obtain ⟨conn, listens, rfl⟩ := List.mem_map.mp listed
      obtain ⟨id, found⟩ := listener_eq_some (Option.mem_toList.mp listens)
      exact ⟨id, conn, _, found, rfl⟩
  | _ => cases listed

theorem calls_narrow_iff (event : Event) :
    (∀ call ∈ backends.calls event, call.streamId < 2 ^ 32) ↔ Narrow backends event := by
  have heard (cnx : Cnx) (streamId : Nat) : (∀ call ∈ (backends.listener cnx).toList.map fun conn =>
      conn.call streamId, call.streamId < 2 ^ 32) ↔
      ((backends.listener cnx).isSome → streamId < 2 ^ 32) := by
    cases backends.listener cnx <;> simp [BackendConn.call]
  cases event with
  | send transport handle outside =>
      cases handle with
      | none => simp [calls, Narrow, BackendConn.call]
      | some value =>
          have narrow : handleStreamId value < 2 ^ 32 := Nat.mod_lt _ (Nat.two_pow_pos 32)
          refine iff_of_true (fun call listed => ?_) trivial
          obtain ⟨conn, -, rfl⟩ := List.mem_map.mp listed
          exact narrow
  | streamData cnx streamId data isFin outside =>
      rw [calls, Narrow]
      by_cases nothing : data = [] ∧ isFin = false
      · simp [nothing]
      · rw [if_neg nothing, heard]
        exact (imp_iff_right nothing).symm
  | streamControl cnx streamId stopSending outside => exact heard cnx streamId
  | _ => simp [calls, Narrow]

theorem made_narrow_iff (events : List Event) (backends : Backends) :
    (∀ call ∈ backends.made events, call.streamId < 2 ^ 32) ↔
      Run.Meets step Narrow backends events := by
  induction events generalizing backends with
  | nil => simp [made, Run.Meets]
  | cons event events ih =>
      rw [made, List.forall_mem_append, calls_narrow_iff, ih]
      rfl

theorem Numbered.made {events : List Event} {call : Call} (numbered : Numbered backends)
    (listed : call ∈ backends.made events) :
    call.connId < 2 ^ 16 ∧ call.generation < 2 ^ 16 := by
  induction events generalizing backends with
  | nil => cases listed
  | cons event events ih =>
      obtain here | later := List.mem_append.mp listed
      · obtain ⟨id, conn, streamId, found, rfl⟩ := mem_calls here
        exact ⟨numbered.ids found, numbered.generations found⟩
      · exact ih (numbered.step event) later

/-- What is to hold of the handles of a run. -/
structure Faithful (handles : List Call) : Prop where
  fits : ∀ call ∈ handles, call.streamId < 2 ^ 32
  parts : ∀ call ∈ handles, handleConnId call.handle = call.connId ∧
    handleGeneration call.handle = call.generation ∧ handleStreamId call.handle = call.streamId
  injective : ∀ call ∈ handles, ∀ other ∈ handles, call.handle = other.handle → call = other
  selected : ∀ call ∈ handles, ∀ (transport : DirectTransport) (conn : BackendConn),
    conn.generation < 2 ^ 16 → transport.lastFailureConn = conn.connectionKey →
      (transport.failureSelector.covers call.handle = true ↔
        call.connId = conn.id ∧ call.generation = conn.generation)
  initiator : ∀ call ∈ handles,
    isPeerInitiated call.handle = isPeerInitiated call.streamId

/-- The handles of a run are faithful if and only if all streams that they are made for have numbers
that are small enough. -/
theorem handles_are_faithful (maxConns recvSlots maxSlotsPerConn : Nat)
    (transports : Nat → DirectTransport) (events : List Event) :
    let start := init (.init maxConns recvSlots maxSlotsPerConn) transports
    Faithful (start.made events) ↔ Run.Meets step Narrow start events := by
  intro start
  refine ⟨fun faithful => (made_narrow_iff events start).mp faithful.fits, fun narrow => ?_⟩
  have numbered : Numbered start := {
    next := Nat.two_pow_pos 16
    ids := by
      rintro _ _ ⟨⟩
    generations := by
      rintro _ _ ⟨⟩ }
  have small := (made_narrow_iff events start).mpr narrow
  have fits (call : Call) (listed : call ∈ start.made events) : call.Fits :=
    ⟨(numbered.made listed).1, (numbered.made listed).2, small call listed⟩
  exact {
    fits := small
    parts := fun call listed => Call.handle_parts (fits call listed)
    injective := fun call listed other others =>
      Call.handle_inj (fits call listed) (fits other others)
    selected := fun call listed _ _ narrow failed =>
      Call.covered_iff (fits call listed) failed narrow
    initiator := fun call _ => call.isPeerInitiated_handle }

/-- A backend that has opened 2 ^ 30 streams opens another one. -/
theorem late_stream_has_no_handle : ¬ Faithful (oneBackend.made
    [.resolve 0 none { now := 0 }, .resolved 0 .address { now := 0 }, .connected 0,
      .streamData 0 (2 ^ 32 + 1) [7] false { now := 1 }]) := by
  intro faithful
  have narrow := faithful.fits { connId := 0, generation := 1, streamId := 2 ^ 32 + 1 }
    (by decide +kernel)
  exact absurd narrow (by decide)

end Backends

end LyuneGateway.Backend
