import Mathlib.Logic.Relation
import LyuneGateway.Wss.Closing

/-!
# What the driver of a connection does

Whatever the TLS layer and the client do, the driver changes little of what the
worker can see of a connection: it queues frames of its own, takes up a session
once, hands records to the worker and closes. Every run of the driver is a chain
of such moves.
-/

namespace LyuneGateway.Wss

open Session

/-- A binary message of the server in one frame. -/
def isBinary (frame : Bytes) : Bool := frame.head? = some 130

namespace Queue

theorem isBinary_frameRecord {record : Record} {frame : Bytes}
    (framed : frameRecord record = .ok frame) : isBinary frame = true := by
  unfold frameRecord at framed
  split at framed
  · rename_i head header encoded _
    cases framed
    have first := head_encodeServerHeader encoded
    simp [isBinary, List.append_assoc, List.head?_append, first, Opcode.toNat]
  · cases framed

theorem isBinary_frameControl {opcode : Opcode} {payload frame : Bytes}
    (control : opcode.isControl = true) (framed : frameControl opcode payload = .ok frame) :
    isBinary frame = false := by
  unfold frameControl at framed
  split at framed
  · cases framed
  · rename_i head encoded
    cases framed
    have first := head_encodeServerHeader encoded
    cases opcode with
    | continuation => cases control
    | binary => cases control
    | close => simp [isBinary, List.head?_append, first, Opcode.toNat]
    | ping => simp [isBinary, List.head?_append, first, Opcode.toNat]
    | pong => simp [isBinary, List.head?_append, first, Opcode.toNat]

theorem accepted_of_enqueue {queue output : Queue} {frame : Bytes}
    (taken : queue.enqueue frame = .ok output) :
    output.accepted = queue.accepted ++ [frame] := by
  rcases queue.enqueue_cases frame with ⟨_, queued⟩ | ⟨_, error, refused⟩
  · cases queued.symm.trans taken
    exact accepted_enqueuePieces queue frame
  · cases refused.symm.trans taken

theorem accepted_of_enqueueControl {queue output : Queue} {opcode : Opcode} {payload : Bytes}
    (control : opcode.isControl = true)
    (taken : queue.enqueueControl opcode payload = .ok output) :
    ∃ frame, output.accepted = queue.accepted ++ [frame] ∧ isBinary frame = false := by
  unfold enqueueControl at taken
  split at taken
  · cases taken
  · rename_i frame framed
    exact ⟨frame, accepted_of_enqueue taken, isBinary_frameControl control framed⟩

end Queue

theorem isBinary_upgradeResponse {sha1 : Bytes → Bytes} {key response : Bytes}
    (built : buildUpgradeResponse sha1 key = .ok response) : isBinary response = false := by
  unfold buildUpgradeResponse at built
  split at built
  · cases built
  · cases built
    have first : (ascii "HTTP/1.1 101 Switching Protocols\r\nUpgrade: websocket\r\n").head? =
        some 72 := by decide +kernel
    simp [isBinary, List.append_assoc, List.head?_append, first]

namespace Connection

variable {State Worker : Type}

/-- The parts that the worker and the peer can tell connections apart by are the same. -/
structure Alike (before after : Connection State Worker) : Prop where
  accepted : after.output.accepted = before.output.accepted
  server : after.highestServerExchangeId = before.highestServerExchangeId
  client : after.highestClientExchangeId = before.highestClientExchangeId
  calls : after.calls = before.calls
  session : after.session = before.session
  worker : after.worker = before.worker

theorem Alike.rfl {connection : Connection State Worker} : Alike connection connection :=
  ⟨.refl _, .refl _, .refl _, .refl _, .refl _, .refl _⟩

/-- What the driver does in one go. -/
inductive Move (tls : Tls State) (handler : Handler Worker) :
    Connection State Worker → Connection State Worker → Prop where
  | shift {before after : Connection State Worker} (alike : Alike before after)
      (state : after.state = before.state) : Move tls handler before after
  | shake {before after : Connection State Worker} (alike : Alike before after)
      (early : before.upgradeComplete = false) (still : after.upgradeComplete = false) :
      Move tls handler before after
  | close (before : Connection State Worker) :
      Move tls handler before (before.beginImmediateClose tls)
  | say {before : Connection State Worker} {output : Queue} {frame : Bytes} (waits : Bool)
      (accepted : output.accepted = before.output.accepted ++ [frame])
      (other : isBinary frame = false) :
      Move tls handler before { before with output := output, closeAfterFlush := waits }
  | reject {before : Connection State Worker} {name : Option Bytes} {worker : Worker}
      (early : before.upgradeComplete = false)
      (refused : handler.accept before.worker name = (none, worker)) :
      Move tls handler before { before with worker := worker }
  | accept {before : Connection State Worker} {name : Option Bytes} {worker : Worker}
      {handle : SessionHandle} (early : before.upgradeComplete = false)
      (taken : handler.accept before.worker name = (some handle, worker)) :
      Move tls handler before
        { before with worker := worker, session := some handle, state := .open }
  | react {before : Connection State Worker} {handle : SessionHandle} (record : Record)
      (live : before.session = some handle) :
      Move tls handler before
        (react tls reenter (dispatch handler before.worker handle record) before)

/-- A chain of moves. -/
abbrev Moves (tls : Tls State) (handler : Handler Worker) :
    Connection State Worker → Connection State Worker → Prop :=
  Relation.ReflTransGen (Move tls handler)

section Driver

variable {config : ListenerConfig} {tls : Tls State} {handler : Handler Worker}
  {before middle after connection : Connection State Worker}

theorem Moves.shift (alike : Alike before after) (state : after.state = before.state) :
    Moves tls handler before after :=
  .single (.shift alike state)

theorem Moves.close (connection : Connection State Worker) :
    Moves tls handler connection (connection.beginImmediateClose tls) :=
  .single (.close connection)

theorem protocolClose_moves (connection : Connection State Worker) (code : Nat) :
    Moves tls handler connection (connection.protocolClose tls code) := by
  unfold protocolClose
  split
  · exact .close connection
  · rename_i output taken
    obtain ⟨frame, accepted, other⟩ := Queue.accepted_of_enqueueControl (by decide) taken
    exact .single (.say true accepted other)

theorem handleMessage_moves (connection : Connection State Worker) (message : Message) :
    Moves tls handler connection (connection.handleMessage tls handler message).2 := by
  unfold handleMessage
  split
  · exact .refl
  rename_i handle live
  split
  case h_1 | h_2 => exact .refl
  case h_3 payload =>
    split
    · exact .close connection
    · rename_i output taken
      obtain ⟨frame, accepted, other⟩ := Queue.accepted_of_enqueueControl (by decide) taken
      exact .single (.say connection.closeAfterFlush accepted other)
  case h_4 payload =>
    split
    · exact protocolClose_moves connection _
    split
    · exact .close connection
    · rename_i output taken
      obtain ⟨frame, accepted, other⟩ := Queue.accepted_of_enqueueControl (by decide) taken
      exact .single (.say true accepted other)
  case h_5 bytes =>
    split
    · exact protocolClose_moves connection _
    split
    · exact protocolClose_moves connection _
    · rename_i record _ _
      exact .single (.react record live)

theorem upgrade_moves (early : connection.upgradeComplete = false) (request : UpgradeRequest) :
    Moves tls handler connection (connection.upgrade config tls handler request).2 := by
  unfold upgrade
  dsimp only
  split
  · exact .refl
  split
  · exact .refl
  split
  · exact .refl
  rename_i response built
  split
  · exact .refl
  rename_i output taken
  have said : Moves tls handler connection { connection with output := output } :=
    .single (.say connection.closeAfterFlush (Queue.accepted_of_enqueue taken)
      (isBinary_upgradeResponse built))
  have early' : ({ connection with output := output } : Connection State Worker).upgradeComplete =
      false := early
  split
  · rename_i worker refused
    exact said.tail (.reject early' refused)
  · rename_i handle worker granted
    refine (said.tail (.accept early' granted)).trans (Moves.shift ?_ rfl)
    exact ⟨rfl, rfl, rfl, rfl, rfl, rfl⟩

theorem takeUnit_moves (connection : Connection State Worker) :
    Moves tls handler connection (connection.takeUnit config tls handler).2 := by
  unfold takeUnit
  split
  case h_1 | h_2 => exact .refl
  case h_3 starting =>
    split
    · exact .refl
    · exact .refl
    rename_i request _
    have upgraded : Moves tls handler connection
        (connection.upgrade config tls handler request).2 :=
      upgrade_moves (by simp [upgradeComplete, starting]) request
    split <;> rename_i result <;> rw [result] at upgraded <;> exact upgraded
  case h_4 =>
    split
    · exact .refl
    · exact protocolClose_moves connection _
    rename_i parsed _
    split
    · exact protocolClose_moves connection _
    rename_i message assembler _
    have assembled : Moves tls handler connection { connection with assembler := assembler } :=
      .shift ⟨rfl, rfl, rfl, rfl, rfl, rfl⟩ rfl
    have handled : Moves tls handler connection
        ({ connection with assembler := assembler }.handleMessage tls handler message).2 :=
      assembled.trans (handleMessage_moves _ message)
    split <;> rename_i result <;> rw [result] at handled
    · exact handled
    · exact handled.trans (Moves.shift ⟨rfl, rfl, rfl, rfl, rfl, rfl⟩ rfl)

theorem takeUnits_moves (fuel : Nat) (connection : Connection State Worker) :
    Moves tls handler connection (connection.takeUnits config tls handler fuel).2 := by
  induction fuel generalizing connection with
  | zero => exact .refl
  | succ fuel ih =>
      have taken : Moves tls handler connection (connection.takeUnit config tls handler).2 :=
        takeUnit_moves connection
      unfold takeUnits
      split
      · exact .refl
      split <;> rename_i result <;> rw [result] at taken
      · exact taken
      · exact taken
      · exact taken.trans (ih _)

theorem processPlain_moves (connection : Connection State Worker) :
    Moves tls handler connection (connection.processPlain config tls handler).2 := by
  unfold processPlain
  split
  · exact .refl
  · exact takeUnits_moves _ connection

theorem takeOut_moves (connection : Connection State Worker) :
    Moves tls handler connection (connection.takeOut tls).2 := by
  unfold takeOut
  split <;> exact .shift ⟨rfl, rfl, rfl, rfl, rfl, rfl⟩ rfl

theorem inTurn_moves {parts : List (Part State Worker)}
    (each : ∀ part ∈ parts, ∀ connection, Moves tls handler connection (part connection).2)
    (connection : Connection State Worker) :
    Moves tls handler connection (inTurn parts connection).2 := by
  induction parts generalizing connection with
  | nil => exact .refl
  | cons part parts ih =>
      have first := each part List.mem_cons_self connection
      have later := ih fun part listed => each part (List.mem_cons_of_mem _ listed)
      unfold inTurn
      split
      · rename_i result
        rwa [result] at first
      · rename_i middle result
        rw [result] at first
        have rest := later middle
        split <;> rename_i result <;> rw [result] at rest <;> exact first.trans rest

theorem shake_moves (connection : Connection State Worker) :
    Moves tls handler connection (Connection.shake tls connection).2 := by
  unfold Connection.shake
  split
  · exact .refl
  rename_i started
  have shaking : connection.state = .tlsHandshake := not_not.mp started
  split
  · exact .shift ⟨rfl, rfl, rfl, rfl, rfl, rfl⟩ rfl
  · exact .shift ⟨rfl, rfl, rfl, rfl, rfl, rfl⟩ rfl
  · refine .single (.shake ⟨rfl, rfl, rfl, rfl, rfl, rfl⟩ ?_ ?_)
    · simp [upgradeComplete, shaking]
    · simp [upgradeComplete]

theorem readIn_moves (connection : Connection State Worker) :
    Moves tls handler connection (readIn config tls handler connection).2 := by
  unfold readIn
  split
  case isFalse => exact .refl
  split
  · exact .refl
  split
  · exact .shift ⟨rfl, rfl, rfl, rfl, rfl, rfl⟩ rfl
  · rename_i bytes state _
    have filled : Moves tls handler connection
        { connection with tls := state, plain := connection.plain ++ bytes } :=
      .shift ⟨rfl, rfl, rfl, rfl, rfl, rfl⟩ rfl
    have processed : Moves tls handler connection (processPlain config tls handler
        { connection with tls := state, plain := connection.plain ++ bytes }).2 :=
      filled.trans (processPlain_moves _)
    split <;> rename_i result <;> rwa [result] at processed
  · exact .shift ⟨rfl, rfl, rfl, rfl, rfl, rfl⟩ rfl
  · rename_i state _
    have moved : Moves tls handler connection { connection with tls := state } :=
      .shift ⟨rfl, rfl, rfl, rfl, rfl, rfl⟩ rfl
    exact moved.trans (Moves.close _)

theorem writeOut_moves (connection : Connection State Worker) :
    Moves tls handler connection (writeOut tls connection).2 := by
  unfold writeOut
  split
  · exact .refl
  split
  · exact .shift ⟨rfl, rfl, rfl, rfl, rfl, rfl⟩ rfl
  · exact .shift ⟨by simp, rfl, rfl, rfl, rfl, rfl⟩ rfl
  · exact .shift ⟨rfl, rfl, rfl, rfl, rfl, rfl⟩ rfl
  · rename_i state _
    have moved : Moves tls handler connection { connection with tls := state } :=
      .shift ⟨rfl, rfl, rfl, rfl, rfl, rfl⟩ rfl
    exact moved.trans (Moves.close _)

theorem finish_moves (connection : Connection State Worker) :
    Moves tls handler connection (finish tls connection).2 := by
  unfold finish
  split
  case isFalse => exact .refl
  have taken : Moves tls handler connection (connection.takeOut tls).2 := takeOut_moves connection
  split <;> rename_i result <;> rw [result] at taken
  · exact taken
  · exact taken
  · exact taken.trans (Moves.close _)

theorem round_moves (connection : Connection State Worker) :
    Moves tls handler connection (round config tls handler connection).2 := by
  refine inTurn_moves (fun part listed connection => ?_) connection
  simp only [List.mem_cons, List.not_mem_nil, or_false] at listed
  rcases listed with rfl | rfl | rfl | rfl | rfl | rfl
  · unfold provide
    split
    · exact .refl
    · exact .shift ⟨rfl, rfl, rfl, rfl, rfl, rfl⟩ rfl
  · exact shake_moves connection
  · exact readIn_moves connection
  · exact writeOut_moves connection
  · unfold send
    split
    · exact .refl
    · exact takeOut_moves connection
  · exact finish_moves connection

theorem driveFor_moves (rounds : Nat) (connection : Connection State Worker) :
    Moves tls handler connection (driveFor config tls handler rounds connection).2 := by
  have settled (connection : Connection State Worker) :
      Moves tls handler connection connection.settle.2 := by
    unfold settle
    split <;> exact .refl
  induction rounds generalizing connection with
  | zero => exact .refl
  | succ rounds ih =>
      have once : Moves tls handler connection (round config tls handler connection).2 :=
        round_moves connection
      unfold driveFor
      split
      · exact settled connection
      split <;> rename_i result <;> rw [result] at once
      · exact once
      · exact once
      · exact once.trans (ih _)
      · exact once.trans (settled _)

theorem drive_moves (connection : Connection State Worker) :
    Moves tls handler connection (drive config tls handler connection).2 :=
  driveFor_moves maxRounds connection

theorem driveOrClose_moves (connection : Connection State Worker) :
    Moves tls handler connection
      (driveOrClose tls (drive config tls handler) connection).2 := by
  have driven : Moves tls handler connection (drive config tls handler connection).2 :=
    drive_moves connection
  unfold driveOrClose
  split <;> rename_i result <;> rw [result] at driven
  · exact driven
  · exact driven.trans (Moves.close _)

theorem startRead_moves (connection : Connection State Worker) :
    Moves tls handler connection connection.startRead := by
  unfold startRead
  split
  · exact .refl
  · exact .shift ⟨rfl, rfl, rfl, rfl, rfl, rfl⟩ rfl

theorem readCallback_moves (connection : Connection State Worker) (result : Option Bytes) :
    Moves tls handler connection (connection.readCallback config tls handler result) := by
  have idle : Moves tls handler connection { connection with readActive := false } :=
    .shift ⟨rfl, rfl, rfl, rfl, rfl, rfl⟩ rfl
  unfold readCallback
  dsimp only
  split
  · exact idle.trans (Moves.close _)
  · exact idle.trans (Moves.close _)
  split
  · exact idle.trans (Moves.close _)
  · rename_i bytes _ _
    have filled : Moves tls handler connection
        { connection with readActive := false, encryptedIn := bytes } :=
      .shift ⟨rfl, rfl, rfl, rfl, rfl, rfl⟩ rfl
    exact (filled.trans (driveOrClose_moves _)).trans (startRead_moves _)

theorem writeCallback_moves (connection : Connection State Worker) (result : Option Nat) :
    Moves tls handler connection (connection.writeCallback config tls handler result) := by
  have idle : Moves tls handler connection { connection with writeActive := false } :=
    .shift ⟨rfl, rfl, rfl, rfl, rfl, rfl⟩ rfl
  unfold writeCallback
  dsimp only
  split
  · exact idle.trans (Moves.close _)
  · exact idle.trans (Moves.close _)
  split
  · exact .shift ⟨rfl, rfl, rfl, rfl, rfl, rfl⟩ rfl
  split
  · exact .shift ⟨rfl, rfl, rfl, rfl, rfl, rfl⟩ rfl
  · have emptied : Moves tls handler connection
        { connection with writeActive := false, encryptedOut := [] } :=
      .shift ⟨rfl, rfl, rfl, rfl, rfl, rfl⟩ rfl
    exact emptied.trans (driveOrClose_moves _)

end Driver

end Connection

end LyuneGateway.Wss
