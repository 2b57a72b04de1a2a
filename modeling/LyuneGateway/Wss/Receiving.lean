import LyuneGateway.Wss.ClientFrames
import LyuneGateway.Wss.Closing

/-!
# A connection receives what its client says

A client says messages, each in as many frames as it likes and under masks of
its choice, with control frames between them. The connection gets the bytes in
pieces that have nothing to do with frames. It handles the messages and the
control frames as if they had been handed to it one by one.
-/

namespace LyuneGateway.Wss

/-! ## What a client says -/

inductive ControlKind where
  | close
  | ping
  | pong
  deriving DecidableEq, Repr

def ControlKind.opcode : ControlKind → Opcode
  | close => .close
  | ping => .ping
  | pong => .pong

/-- A control frame that the protocol allows. -/
structure Control where
  kind : ControlKind
  payload : Bytes
  mask : Mask
  small : payload.length ≤ 125
  code : kind = .close → payload.length ≠ 1

/-- A part of a message. -/
structure Fragment where
  bytes : Bytes
  mask : Mask

/-- A frame and the mask it is sent under. -/
abbrev MaskedFrame := WebFrame × Mask

/-- A control frame, or a message in fragments with the control frames before each but the first. -/
inductive Saying where
  | control (control : Control)
  | message (first : Fragment) (rest : List (List Control × Fragment))

def Control.frame (control : Control) : MaskedFrame :=
  ({ opcode := control.kind.opcode, fin := true, payload := control.payload }, control.mask)

def Control.message (control : Control) : Message :=
  match control.kind with
  | .close => .close control.payload
  | .ping => .ping control.payload
  | .pong => .pong control.payload

/-- The fragments after the first. -/
def continuations : List (List Control × Fragment) → List MaskedFrame
  | [] => []
  | (controls, fragment) :: rest =>
      controls.map Control.frame ++
        ({ opcode := .continuation, fin := rest.isEmpty, payload := fragment.bytes },
          fragment.mask) :: continuations rest

namespace Saying

def frames : Saying → List MaskedFrame
  | control said => [said.frame]
  | message first rest =>
      ({ opcode := .binary, fin := rest.isEmpty, payload := first.bytes }, first.mask) ::
        continuations rest

/-- What is to be handled, in the order in which it is complete. -/
def messages : Saying → List Message
  | control said => [said.message]
  | message first rest =>
      (rest.flatMap Prod.fst).map Control.message ++
        [.binary (first.bytes ++ rest.flatMap fun part => part.2.bytes)]

/-- A message keeps to the limit. -/
def Legal (maxPayload : Nat) : Saying → Prop
  | control _ => True
  | message first rest =>
      (first.bytes ++ rest.flatMap fun part => part.2.bytes).length ≤ maxPayload

end Saying

/-- The bytes of frames. -/
def encodeFrames (frames : List MaskedFrame) : Bytes :=
  frames.flatMap fun sent => encodeClientFrame sent.1 sent.2

namespace Connection

variable {State Worker : Type}

/-- The connection still takes what its client sends. -/
def listens (connection : Connection State Worker) : Bool :=
  connection.state = .open && !connection.closeAfterFlush

section Reception

variable (config : ListenerConfig) (tls : Tls State) (handler : Handler Worker)

/-- The driver has read some bytes. -/
def receive (connection : Connection State Worker) (piece : Bytes) : Connection State Worker :=
  match { connection with plain := connection.plain ++ piece }.processPlain config tls handler with
  | (.ok _, connection) => connection
  | (.error _, connection) => connection.beginImmediateClose tls

/-- The connection is handed messages one by one, as long as it listens. -/
def hear (connection : Connection State Worker) (messages : List Message) :
    Connection State Worker :=
  messages.foldl (fun connection message =>
    if connection.listens then (connection.handleMessage tls handler message).2 else connection)
    connection

end Reception

/-- The same connection with other input waiting in it. -/
abbrev withInput (connection : Connection State Worker) (plain : Bytes)
    (assembler : MessageAssembler) : Connection State Worker :=
  { connection with plain := plain, assembler := assembler }

/-- A connection that listens and has nothing waiting. -/
structure Idle (connection : Connection State Worker) : Prop where
  listens : connection.listens = true
  session : connection.session.isSome
  plain : connection.plain = []
  assembler : connection.assembler = { capacity := maxRecordSize }

/-! ## Handling does not depend on what waits -/

section Independence

variable (tls : Tls State) (handler : Handler Worker) (connection : Connection State Worker)
  (plain : Bytes) (assembler : MessageAssembler)

theorem beginImmediateClose_withInput :
    (connection.withInput plain assembler).beginImmediateClose tls =
      (connection.beginImmediateClose tls).withInput plain assembler := by
  unfold beginImmediateClose withInput
  by_cases closing : connection.state = .closing
  · simp only [if_pos closing]
  · simp only [if_neg closing]

theorem protocolClose_withInput (code : Nat) :
    (connection.withInput plain assembler).protocolClose tls code =
      (connection.protocolClose tls code).withInput plain assembler := by
  unfold protocolClose
  rw [show (connection.withInput plain assembler).output = connection.output from rfl]
  cases connection.output.enqueueControl .close (BigEndian.write 2 code) with
  | error error => exact beginImmediateClose_withInput tls connection plain assembler
  | ok output => rfl

theorem direction_withInput (recordType : RecordType) (streamId code : Nat) :
    (connection.withInput plain assembler).enqueueDirectionControl tls reenter recordType streamId
        code =
      (connection.enqueueDirectionControl tls reenter recordType streamId code).withInput plain
        assembler := by
  simp only [enqueueDirectionControl, withInput]
  by_cases stopped : connection.state ≠ .open
  · simp only [if_pos stopped]
  simp only [if_neg stopped]
  cases connection.output.enqueueRecord {
      recordType := recordType
      streamId := streamId
      appErrorCode := narrowAppError code } .reliable with
  | error error => exact beginImmediateClose_withInput tls connection plain assembler
  | ok output => rfl

theorem transport_withInput (call : Call) :
    (connection.withInput plain assembler).transport tls reenter call =
      ((connection.transport tls reenter call).1,
        (connection.transport tls reenter call).2.withInput plain assembler) := by
  cases call with
  | claimInboundExchange streamId =>
      simp only [transport, transportClaimInboundExchange, withInput]
      by_cases refused : connection.state ≠ .open ∨ streamId % 4 ≠ 0
      · simp only [if_pos refused]
      · simp only [if_neg refused]
        cases connection.highestClientExchangeId.any (streamId ≤ ·) <;> rfl
  | write streamId bytes fin =>
      simp only [transport, transportWrite, withInput]
      by_cases stopped : connection.state ≠ .open
      · simp only [if_pos stopped]
      simp only [if_neg stopped]
      generalize (if streamId % 4 = 1 then
        noteServerExchange connection.highestServerExchangeId streamId
        else some connection.highestServerExchangeId) = noted
      cases noted with
      | none => exact Prod.ext rfl (beginImmediateClose_withInput tls connection plain assembler)
      | some highest =>
          dsimp only
          generalize connection.output.enqueueRecord
            { recordType := .stream, streamId := streamId, fin := fin, payload := bytes }
            .reliable = queued
          cases queued with
          | error error =>
              exact Prod.ext rfl (beginImmediateClose_withInput tls
                { connection with highestServerExchangeId := highest } plain assembler)
          | ok output => rfl
  | sendEphemeral bytes =>
      simp only [transport, transportEphemeral, withInput]
      by_cases stopped : connection.state ≠ .open
      · simp only [if_pos stopped]
      simp only [if_neg stopped]
      cases connection.output.enqueueRecord { recordType := .ephemeral, payload := bytes }
        .ephemeral <;> rfl
  | resetSend streamId code =>
      exact Prod.ext rfl (direction_withInput tls connection plain assembler .reset streamId code)
  | stopReceive streamId code =>
      exact Prod.ext rfl (direction_withInput tls connection plain assembler .stop streamId code)
  | discard streamId code =>
      simp only [transport, transportDiscard, withInput]
      by_cases stopped : connection.state ≠ .open
      · simp only [if_pos stopped]
      simp only [if_neg stopped]
      cases connection.output.enqueueDiscard streamId (narrowAppError code) with
      | error error => exact Prod.ext rfl (beginImmediateClose_withInput tls connection plain assembler)
      | ok output => rfl
  | close code =>
      have closed : (connection.withInput plain assembler).transportClose tls reenter code =
          (connection.transportClose tls reenter code).withInput plain assembler := by
        unfold transportClose
        rw [show (connection.withInput plain assembler).state = connection.state from rfl,
          protocolClose_withInput]
        by_cases closing : connection.state = .closing
        · simp only [if_pos closing]
        · simp only [if_neg closing]
          rfl
      exact Prod.ext rfl closed

theorem react_withInput (reaction : Reaction Worker) :
    react tls reenter reaction (connection.withInput plain assembler) =
      (react tls reenter reaction connection).withInput plain assembler := by
  induction reaction generalizing connection with
  | done worker => rfl
  | call call resume ih =>
      simp only [react, ask, transport_withInput]
      exact ih (connection.ask tls reenter call).1 (connection.ask tls reenter call).2

theorem handleMessage_withInput (message : Message) :
    (connection.withInput plain assembler).handleMessage tls handler message =
      ((connection.handleMessage tls handler message).1,
        (connection.handleMessage tls handler message).2.withInput plain assembler) := by
  unfold handleMessage
  rw [show (connection.withInput plain assembler).session = connection.session from rfl,
    show (connection.withInput plain assembler).output = connection.output from rfl,
    show (connection.withInput plain assembler).worker = connection.worker from rfl]
  cases connection.session with
  | none => rfl
  | some handle =>
      cases message with
      | incomplete => rfl
      | pong payload => rfl
      | ping payload =>
          dsimp only
          cases connection.output.enqueueControl .pong payload with
          | error error =>
              exact Prod.ext rfl (beginImmediateClose_withInput tls connection plain assembler)
          | ok output => rfl
      | close payload =>
          dsimp only
          cases validClosePayload payload with
          | false => exact Prod.ext rfl (protocolClose_withInput tls connection plain assembler _)
          | true =>
              cases connection.output.enqueueControl .close payload with
              | error error =>
                  exact Prod.ext rfl (beginImmediateClose_withInput tls connection plain assembler)
              | ok output => rfl
      | binary bytes =>
          dsimp only
          cases decode bytes with
          | error error => exact Prod.ext rfl (protocolClose_withInput tls connection plain assembler _)
          | ok record =>
              dsimp only
              rw [show (connection.withInput plain assembler).refusesRecord record =
                connection.refusesRecord record from rfl]
              cases connection.refusesRecord record with
              | true => exact Prod.ext rfl (protocolClose_withInput tls connection plain assembler _)
              | false => exact Prod.ext rfl (react_withInput tls connection plain assembler _)

end Independence

/-! ## The loop over the frames is a scan -/

section Loop

variable {config : ListenerConfig} {tls : Tls State} {handler : Handler Worker}
  {connection : Connection State Worker}

abbrev withPlain (connection : Connection State Worker) (plain : Bytes) : Connection State Worker :=
  { connection with plain := plain }

abbrev withAssembler (connection : Connection State Worker) (assembler : MessageAssembler) :
    Connection State Worker :=
  { connection with assembler := assembler }

variable (tls handler) in
/-- A frame adds to a message or is handled, and the connection goes on if it still listens. -/
def hearFrame (connection : Connection State Worker) (frame : WebFrame) :
    Connection State Worker × Bool :=
  match connection.assembler.accept frame with
  | .error _ => (connection.protocolClose tls closeProtocolError, false)
  | .ok (message, assembler) =>
      let connection := ((connection.withAssembler assembler).handleMessage tls handler message).2
      (connection, connection.listens)

/-- The connection has been told to take no more. -/
structure Deaf (connection : Connection State Worker) : Prop where
  stopped : connection.listens = false
  ready : connection.upgradeComplete = true

theorem ready_of_listens (listens : connection.listens = true) :
    connection.upgradeComplete = true := by
  simp only [Connection.listens, Bool.and_eq_true, decide_eq_true_eq] at listens
  simp [upgradeComplete, listens.1]

theorem reading_of_listens (listens : connection.listens = true) :
    connection.closeAfterFlush = false := by
  simp only [Connection.listens, Bool.and_eq_true, Bool.not_eq_true'] at listens
  exact listens.2

theorem open_of_listens (listens : connection.listens = true) : connection.state = .open := by
  simp only [Connection.listens, Bool.and_eq_true, decide_eq_true_eq] at listens
  exact listens.1

theorem deaf_protocolClose (listens : connection.listens = true) (code : Nat) :
    Deaf (connection.protocolClose tls code) := by
  have upright : Upright connection (connection.protocolClose tls code) :=
    protocolClose_upright (ready_of_listens listens) (reading_of_listens listens)
  refine ⟨?_, upright.complete (ready_of_listens listens)⟩
  unfold protocolClose
  split
  · unfold beginImmediateClose
    split <;> simp [Connection.listens, *]
  · simp [Connection.listens]

theorem session_beginImmediateClose (connection : Connection State Worker) :
    (connection.beginImmediateClose tls).session = connection.session := by
  unfold beginImmediateClose
  split <;> rfl

theorem session_protocolClose (connection : Connection State Worker) (code : Nat) :
    (connection.protocolClose tls code).session = connection.session := by
  unfold protocolClose
  split
  · exact session_beginImmediateClose connection
  · rfl

theorem session_transport (connection : Connection State Worker) (call : Call) :
    (connection.transport tls reenter call).2.session = connection.session := by
  cases call with
  | claimInboundExchange streamId =>
      simp only [transport, transportClaimInboundExchange]
      split
      · rfl
      split <;> rfl
  | write streamId bytes fin =>
      simp only [transport, transportWrite]
      split
      · rfl
      split
      · exact session_beginImmediateClose connection
      split
      · exact session_beginImmediateClose _
      · rfl
  | sendEphemeral bytes =>
      simp only [transport, transportEphemeral]
      split
      · rfl
      split <;> rfl
  | resetSend streamId code | stopReceive streamId code =>
      simp only [transport, transportReset, transportStop, enqueueDirectionControl]
      split
      · rfl
      split
      · exact session_beginImmediateClose connection
      · rfl
  | discard streamId code =>
      simp only [transport, transportDiscard]
      split
      · rfl
      split
      · exact session_beginImmediateClose connection
      · rfl
  | close code =>
      simp only [transport, transportClose]
      split
      · rfl
      · exact session_protocolClose connection _

theorem session_react (reaction : Reaction Worker) (connection : Connection State Worker) :
    (react tls reenter reaction connection).session = connection.session := by
  induction reaction generalizing connection with
  | done worker => rfl
  | call call resume ih =>
      simp only [react]
      exact (ih _ _).trans (session_transport connection call)

variable (tls handler) in
theorem session_handleMessage (connection : Connection State Worker) (message : Message) :
    (connection.handleMessage tls handler message).2.session = connection.session := by
  unfold handleMessage
  split
  · rfl
  split
  · rfl
  · rfl
  · split
    · exact session_beginImmediateClose connection
    · rfl
  · split
    · exact session_protocolClose connection _
    split
    · exact session_beginImmediateClose connection
    · rfl
  · split
    · exact session_protocolClose connection _
    split
    · exact session_protocolClose connection _
    · exact session_react _ connection

variable (tls handler) in
theorem handleMessage_ok (connection : Connection State Worker) (session : connection.session.isSome)
    (message : Message) : (connection.handleMessage tls handler message).1 = .ok () := by
  unfold handleMessage
  split
  · rename_i none
    rw [none] at session
    cases session
  split
  · rfl
  · rfl
  · split <;> rfl
  · split
    · rfl
    split <;> rfl
  · split
    · rfl
    split <;> rfl

theorem deaf_of_stopped {connection : Connection State Worker} (listens : connection.listens = true)
    {message : Message}
    (stopped : (connection.handleMessage tls handler message).2.listens = false) :
    Deaf (connection.handleMessage tls handler message).2 := by
  have upright : Upright connection (connection.handleMessage tls handler message).2 :=
    handleMessage_upright (ready_of_listens listens) (reading_of_listens listens)
  exact ⟨stopped, upright.complete (ready_of_listens listens)⟩

/-- How the connection is left by a scan of its input. -/
inductive Leads (tls : Tls State) :
    Connection State Worker × Verdict UInt8 WebFrameError → Connection State Worker → Prop where
  | more {final : Connection State Worker} (rest : Bytes) (listens : final.listens = true)
      (session : final.session.isSome) : Leads tls (final, .more rest) (final.withPlain rest)
  | stopped {final : Connection State Worker} (rest : Bytes) (deaf : Deaf final) :
      Leads tls (final, .stopped) (final.withPlain rest)
  | failed {final : Connection State Worker} {error : WebFrameError} (rest : Bytes)
      (listens : final.listens = true) : Leads tls (final, .failed error)
        ((final.protocolClose tls closeProtocolError).withPlain rest)

/-- A unit of input that is not complete is left as it is. -/
theorem takeUnit_of_none (connection : Connection State Worker)
    (open_ : connection.state = .open)
    (waits : parseClientFrame connection.plain maxRecordSize = .error .needMore) :
    connection.takeUnit config tls handler = (.ok false, connection) := by
  unfold takeUnit
  simp only [open_, waits]

variable (tls handler) in
theorem assembler_handleMessage (connection : Connection State Worker) (message : Message) :
    (connection.handleMessage tls handler message).2.assembler = connection.assembler := by
  have same := handleMessage_withInput tls handler connection
    connection.plain connection.assembler message
  exact congrArg (fun result => result.2.assembler) same

variable (tls handler) in
theorem handleMessage_withPlain (connection : Connection State Worker) (plain : Bytes)
    (message : Message) :
    (connection.withPlain plain).handleMessage tls handler message =
      ((connection.handleMessage tls handler message).1,
        (connection.handleMessage tls handler message).2.withPlain plain) := by
  have same := handleMessage_withInput tls handler connection plain
    connection.assembler message
  have kept := assembler_handleMessage tls handler connection message
  refine same.trans (Prod.ext rfl ?_)
  dsimp only
  rw [← kept]

theorem protocolClose_withPlain (connection : Connection State Worker) (plain : Bytes) (code : Nat) :
    (connection.withPlain plain).protocolClose tls code =
      (connection.protocolClose tls code).withPlain plain := by
  have same := protocolClose_withInput tls connection connection.plain
    connection.assembler code
  have kept : (connection.protocolClose tls code).assembler = connection.assembler := by
    have kept := congrArg Connection.assembler same
    exact kept
  refine (protocolClose_withInput tls connection plain connection.assembler code).trans ?_
  rw [← kept]

variable (config tls handler) in
/-- What the loop does with a frame, however much input there is behind it. -/
theorem takeUnit_of_found {connection : Connection State Worker} {input : Bytes}
    {frame : WebFrame} {length : Nat} (listens : connection.listens = true)
    (session : connection.session.isSome)
    (found : parseClientFrame input maxRecordSize = .ok ⟨frame, length⟩) :
    ((connection.withPlain input).takeUnit config tls handler =
        (.ok false, (hearFrame tls handler connection frame).1.withPlain input) ∧
      (hearFrame tls handler connection frame).2 = false ∧
      Deaf (hearFrame tls handler connection frame).1) ∨
    ((connection.withPlain input).takeUnit config tls handler =
        (.ok !(hearFrame tls handler connection frame).1.closeAfterFlush,
          (hearFrame tls handler connection frame).1.withPlain (input.drop length)) ∧
      (hearFrame tls handler connection frame).1.session.isSome ∧
      ((hearFrame tls handler connection frame).2 = false →
        Deaf (hearFrame tls handler connection frame).1) ∧
      ((hearFrame tls handler connection frame).2 = true →
        (hearFrame tls handler connection frame).1.listens = true)) := by
  have open_ : connection.state = .open := open_of_listens listens
  unfold takeUnit hearFrame
  simp only [open_, found]
  cases connection.assembler.accept frame with
  | error error =>
      refine .inl ⟨?_, rfl, deaf_protocolClose listens _⟩
      dsimp only
      rw [protocolClose_withPlain]
  | ok answer =>
      obtain ⟨message, assembler⟩ := answer
      have handled := handleMessage_withPlain tls handler
        (connection.withAssembler assembler) input message
      have fine := handleMessage_ok tls handler (connection.withAssembler assembler) session
        message
      have stays := session_handleMessage tls handler
        (connection.withAssembler assembler) message
      rw [fine] at handled
      refine .inr ⟨?_, ?_, fun stopped => deaf_of_stopped (by exact listens) stopped, id⟩
      · dsimp only
        rw [handled]
        rfl
      · rw [stays]
        exact session

theorem takeUnits_closing (connection : Connection State Worker)
    (closing : connection.state = .closing) (fuel : Nat) :
    connection.takeUnits config tls handler fuel = (.ok (), connection) := by
  cases fuel with
  | zero => rfl
  | succ fuel =>
      unfold takeUnits
      split
      · rfl
      · unfold takeUnit
        simp only [closing]

/-- What the scanner answers is what the parser has found. -/
theorem next_clientScanner {input : Bytes} {maxPayload : Nat} :
    (∀ error, (clientScanner maxPayload).next input = .error error →
        parseClientFrame input maxPayload = .error error ∧ error ≠ .needMore) ∧
      ((clientScanner maxPayload).next input = .ok none →
        parseClientFrame input maxPayload = .error .needMore) ∧
      ∀ frame length, (clientScanner maxPayload).next input = .ok (some (frame, length)) →
        parseClientFrame input maxPayload = .ok ⟨frame, length⟩ := by
  simp only [clientScanner]
  split
  · rename_i parsed found
    refine ⟨fun _ same => (by cases same), fun same => (by cases same), ?_⟩
    rintro _ _ ⟨⟩
    exact found
  · rename_i waits
    exact ⟨fun _ same => (by cases same), fun _ => waits, fun _ _ same => by cases same⟩
  · rename_i error other refused
    refine ⟨?_, fun same => (by cases same), fun _ _ same => by cases same⟩
    rintro _ ⟨⟩
    exact ⟨refused, other⟩

variable (config tls handler) in
theorem takeUnits_leads (connection : Connection State Worker) (input : Bytes) (fuel : Nat)
    (enough : input.length ≤ fuel) (listens : connection.listens = true)
    (session : connection.session.isSome) :
    ∃ after, (connection.withPlain input).takeUnits config tls handler fuel = (.ok (), after) ∧
      Leads tls ((clientScanner maxRecordSize).fold (hearFrame tls handler) connection input)
        after := by
  induction connection, input using @Scanner.fold_induction _ _ _ _ (clientScanner maxRecordSize)
    (hearFrame tls handler) generalizing fuel with
  | error connection input problem scanned =>
      have open_ : connection.state = .open := open_of_listens listens
      obtain ⟨refused, other⟩ := next_clientScanner.1 problem scanned
      rw [Scanner.fold_of_error scanned]
      refine ⟨_, ?_, .failed input listens⟩
      cases fuel with
      | zero =>
          obtain rfl := List.length_eq_zero_iff.mp (Nat.le_zero.mp enough)
          cases refused
          exact absurd rfl other
      | succ fuel =>
          unfold takeUnits
          split
          · rename_i empty
            obtain rfl : input = [] := empty
            cases refused
            exact absurd rfl other
          · unfold takeUnit
            simp only [open_, refused]
            rw [protocolClose_withPlain]
  | incomplete connection input scanned =>
      have open_ : connection.state = .open := open_of_listens listens
      have waits := next_clientScanner.2.1 scanned
      rw [Scanner.fold_of_none scanned]
      refine ⟨_, ?_, .more input listens session⟩
      cases fuel with
      | zero => rfl
      | succ fuel =>
          unfold takeUnits
          split
          · rfl
          · rw [takeUnit_of_none (connection.withPlain input) open_ waits]
  | refused connection input frame length scanned refusal =>
      have found := next_clientScanner.2.2 frame length scanned
      have bounds := parseClientFrame_consumed found
      obtain ⟨fuel, rfl⟩ : ∃ less, fuel = less + 1 := ⟨fuel - 1, by dsimp only at bounds; omega⟩
      have filled : input ≠ [] := by
        rintro rfl
        dsimp only [List.length_nil] at bounds
        omega
      rw [Scanner.fold_of_refused scanned refusal]
      unfold takeUnits
      rw [if_neg filled]
      rcases takeUnit_of_found config tls handler listens session
          found with ⟨taken, _, deaf⟩ | ⟨taken, _, deaf, _⟩
      · rw [taken]
        exact ⟨_, rfl, .stopped input deaf⟩
      · rw [taken]
        have deaf := deaf refusal
        refine ⟨_, ?_, .stopped (input.drop length) deaf⟩
        cases flush : (hearFrame tls handler connection frame).1.closeAfterFlush with
        | true => rfl
        | false =>
            refine takeUnits_closing _ ?_ fuel
            have stopped := deaf.stopped
            have ready := deaf.ready
            simp only [Connection.listens, flush, Bool.not_false, Bool.and_true,
              decide_eq_false_iff_not] at stopped
            simpa [upgradeComplete, stopped] using ready
  | accepted connection input frame length scanned acceptance ih =>
      have found := next_clientScanner.2.2 frame length scanned
      have bounds := parseClientFrame_consumed found
      obtain ⟨fuel, rfl⟩ : ∃ less, fuel = less + 1 := ⟨fuel - 1, by dsimp only at bounds; omega⟩
      have filled : input ≠ [] := by
        rintro rfl
        dsimp only [List.length_nil] at bounds
        omega
      rw [Scanner.fold_of_accepted scanned acceptance]
      unfold takeUnits
      rw [if_neg filled]
      rcases takeUnit_of_found config tls handler listens session
          found with ⟨_, stops, _⟩ | ⟨taken, stays, _, going⟩
      · rw [stops] at acceptance
        cases acceptance
      · have going := going acceptance
        rw [taken, reading_of_listens going]
        refine ih fuel ?_ going stays
        rw [List.length_drop]
        dsimp only at bounds
        omega

/-- A connection that takes no more only collects its input. -/
theorem receive_of_deaf (connection : Connection State Worker) (deaf : Deaf connection)
    (piece : Bytes) : ∃ plain, connection.receive config tls handler piece =
      connection.withPlain plain := by
  refine ⟨connection.plain ++ piece, ?_⟩
  unfold receive processPlain
  split_ifs with flush
  · rfl
  · have closing : connection.state = .closing := by
      have stopped := deaf.stopped
      have reading : connection.closeAfterFlush = false := by simpa using flush
      simp only [Connection.listens, reading, Bool.not_false, Bool.and_true,
        decide_eq_false_iff_not] at stopped
      have ready := deaf.ready
      simpa [upgradeComplete, stopped] using ready
    rw [takeUnits_closing (connection.withPlain (connection.plain ++ piece)) closing]

variable (config tls handler) in
theorem receive_all_of_deaf {connection : Connection State Worker} (deaf : Deaf connection)
    (plain : Bytes) (pieces : List Bytes) :
    ∃ rest, pieces.foldl (receive config tls handler) (connection.withPlain plain) =
      connection.withPlain rest := by
  induction pieces generalizing plain with
  | nil => exact ⟨plain, rfl⟩
  | cons piece pieces ih =>
      obtain ⟨more, same⟩ : ∃ more, (connection.withPlain plain).receive config tls handler piece =
          (connection.withPlain plain).withPlain more :=
        receive_of_deaf (connection.withPlain plain) ⟨deaf.stopped, deaf.ready⟩ piece
      rw [List.foldl_cons, same]
      exact ih more

variable (config tls handler) in
/-- A piece of input is scanned behind what was left over. -/
theorem receive_leads {connection : Connection State Worker} (listens : connection.listens = true)
    (session : connection.session.isSome) (rest piece : Bytes) :
    Leads tls ((clientScanner maxRecordSize).fold (hearFrame tls handler) connection (rest ++ piece))
      ((connection.withPlain rest).receive config tls handler piece) := by
  obtain ⟨after, taken, leads⟩ := takeUnits_leads config tls handler
    connection (rest ++ piece) (rest ++ piece).length le_rfl listens session
  have reading : connection.closeAfterFlush = false := reading_of_listens listens
  unfold receive processPlain
  dsimp only
  rw [if_neg (by simp [reading]), taken]
  exact leads

variable (config tls handler) in
/-- Pieces of input are scanned as one. -/
theorem receive_all_leads (pieces : List Bytes) {connection : Connection State Worker}
    (listens : connection.listens = true) (session : connection.session.isSome) (rest : Bytes)
    (short : (clientScanner maxRecordSize).next rest = .ok none) :
    Leads tls ((clientScanner maxRecordSize).fold (hearFrame tls handler) connection
        (rest ++ pieces.flatten))
      (pieces.foldl (receive config tls handler) (connection.withPlain rest)) := by
  rw [← Scanner.feed_eq_fold short]
  induction pieces generalizing connection rest with
  | nil => exact .more rest listens session
  | cons piece pieces ih =>
      have first := receive_leads config tls handler listens
        session rest piece
      rw [Scanner.feed, List.foldl_cons]
      rcases scan : (clientScanner maxRecordSize).fold (hearFrame tls handler) connection
        (rest ++ piece) with ⟨final, verdict⟩
      rw [scan] at first
      generalize (connection.withPlain rest).receive config tls handler piece = after at first ⊢
      cases first with
      | more leftover listens session => exact ih listens session leftover (Scanner.next_rest scan)
      | stopped leftover deaf =>
          obtain ⟨collected, same⟩ := receive_all_of_deaf config tls handler
            deaf leftover pieces
          rw [same]
          exact .stopped collected deaf
      | failed leftover listens =>
          obtain ⟨collected, same⟩ := receive_all_of_deaf config tls handler
            (deaf_protocolClose listens _) leftover pieces
          rw [same]
          exact .failed collected listens

/-- What is left over while the connection listens is less than the buffer holds. -/
theorem plain_of_receive {connection : Connection State Worker} (listens : connection.listens = true)
    (session : connection.session.isSome) (piece : Bytes)
    (still : (connection.receive config tls handler piece).listens = true) :
    (connection.receive config tls handler piece).plain.length < plainBufferSize := by
  have leads := receive_leads config tls handler listens session
    connection.plain piece
  rw [show connection.withPlain connection.plain = connection from rfl] at leads
  rcases scan : (clientScanner maxRecordSize).fold (hearFrame tls handler) connection
    (connection.plain ++ piece) with ⟨final, verdict⟩
  rw [scan] at leads
  generalize connection.receive config tls handler piece = after at leads still ⊢
  cases leads with
  | more rest listens session =>
      have waits := next_clientScanner.2.1 (Scanner.next_rest scan)
      exact (length_of_needMore waits).trans_le (le_max_right _ _)
  | stopped rest deaf =>
      have stopped := deaf.stopped
      rw [show final.listens = true from still] at stopped
      cases stopped
  | failed rest listens =>
      have deaf : Deaf (final.protocolClose tls closeProtocolError) :=
        deaf_protocolClose listens closeProtocolError
      have stopped := deaf.stopped
      rw [show (final.protocolClose tls closeProtocolError).listens = true from still] at stopped
      cases stopped

end Loop

end Connection

/-! ## What the frames amount to -/

/-- The assembler makes these messages of the frames, one of each. -/
inductive Assembles : MessageAssembler → List MaskedFrame → List Message → MessageAssembler → Prop
  | nil (assembler : MessageAssembler) : Assembles assembler [] [] assembler
  | cons {assembler middle after : MessageAssembler} {sent : MaskedFrame} {message : Message}
      {frames : List MaskedFrame} {messages : List Message}
      (taken : assembler.accept sent.1 = .ok (message, middle))
      (others : Assembles middle frames messages after) :
      Assembles assembler (sent :: frames) (message :: messages) after

theorem Assembles.append {assembler middle after : MessageAssembler}
    {frames more : List MaskedFrame} {messages others : List Message}
    (first : Assembles assembler frames messages middle)
    (second : Assembles middle more others after) :
    Assembles assembler (frames ++ more) (messages ++ others) after := by
  induction first with
  | nil => exact second
  | cons taken _ ih => exact .cons taken (ih second)

/-- An assembler that is between two messages. -/
def freshAssembler : MessageAssembler := { capacity := maxRecordSize }

theorem assembles_controls (assembler : MessageAssembler) (controls : List Control) :
    Assembles assembler (controls.map Control.frame) (controls.map Control.message) assembler := by
  induction controls with
  | nil => exact .nil assembler
  | cons control controls ih =>
      refine .cons ?_ ih
      unfold Control.frame Control.message
      cases control.kind <;> rfl

/-- The messages that are to be handled. -/
def complete (messages : List Message) : List Message := messages.filter (· ≠ .incomplete)

theorem complete_append (messages others : List Message) :
    complete (messages ++ others) = complete messages ++ complete others :=
  List.filter_append ..

theorem complete_controls (controls : List Control) :
    complete (controls.map Control.message) = controls.map Control.message := by
  refine List.filter_eq_self.mpr fun message listed => ?_
  obtain ⟨control, _, rfl⟩ := List.mem_map.mp listed
  unfold Control.message
  cases control.kind <;> rfl

theorem assembles_continuations (rest : List (List Control × Fragment)) (more : rest ≠ [])
    (seen : Bytes)
    (fits : (seen ++ rest.flatMap fun part => part.2.bytes).length ≤ maxRecordSize) :
    ∃ messages, Assembles { capacity := maxRecordSize, scratch := seen, fragmented := true }
        (continuations rest) messages freshAssembler ∧
      complete messages = (rest.flatMap Prod.fst).map Control.message ++
        [.binary (seen ++ rest.flatMap fun part => part.2.bytes)] := by
  induction rest generalizing seen with
  | nil => exact absurd rfl more
  | cons part rest ih =>
      obtain ⟨controls, fragment⟩ := part
      have room : ¬ maxRecordSize - seen.length < fragment.bytes.length := by
        simp only [List.flatMap_cons, List.length_append] at fits
        omega
      have before := assembles_controls
        { capacity := maxRecordSize, scratch := seen, fragmented := true } controls
      cases rest with
      | nil =>
          refine ⟨controls.map Control.message ++ [.binary (seen ++ fragment.bytes)],
            before.append (.cons ?_ (.nil freshAssembler)), ?_⟩
          · simp only [MessageAssembler.accept, MessageAssembler.append, room, if_false, bind,
              Except.bind, List.isEmpty_nil]
            rfl
          · rw [complete_append, complete_controls]
            simp [complete]
      | cons next rest =>
          obtain ⟨messages, assembles, same⟩ := ih (by simp) (seen ++ fragment.bytes) (by
            simpa [List.append_assoc] using fits)
          refine ⟨controls.map Control.message ++ .incomplete :: messages,
            before.append (.cons ?_ assembles), ?_⟩
          · simp only [MessageAssembler.accept, MessageAssembler.append, room, if_false, bind,
              Except.bind, List.isEmpty_cons]
            rfl
          · rw [complete_append, complete_controls, show complete (.incomplete :: messages) =
              complete messages from rfl, same]
            simp [List.append_assoc]

/-- What is said is put together to its messages. -/
theorem assembles_saying {saying : Saying} (legal : saying.Legal maxRecordSize) :
    ∃ messages, Assembles freshAssembler saying.frames messages freshAssembler ∧
      complete messages = saying.messages := by
  cases saying with
  | control said =>
      exact ⟨_, assembles_controls freshAssembler [said], complete_controls [said]⟩
  | message first rest =>
      cases rest with
      | nil =>
          refine ⟨[.binary first.bytes], .cons rfl (.nil freshAssembler), ?_⟩
          simp [complete, Saying.messages]
      | cons part rest =>
          obtain ⟨messages, assembles, same⟩ := assembles_continuations (part :: rest) (by simp)
            first.bytes legal
          have room : ¬ maxRecordSize < first.bytes.length := by
            simp only [Saying.Legal, List.length_append] at legal
            omega
          refine ⟨.incomplete :: messages, .cons ?_ assembles, same⟩
          simp only [MessageAssembler.accept, MessageAssembler.append, freshAssembler,
            List.isEmpty_cons, List.length_nil, Nat.sub_zero, room, if_false, bind, Except.bind]
          rfl

theorem assembles_sayings {sayings : List Saying}
    (legal : ∀ saying ∈ sayings, saying.Legal maxRecordSize) :
    ∃ messages, Assembles freshAssembler (sayings.flatMap Saying.frames) messages freshAssembler ∧
      complete messages = sayings.flatMap Saying.messages := by
  induction sayings with
  | nil => exact ⟨[], .nil freshAssembler, rfl⟩
  | cons saying sayings ih =>
      obtain ⟨first, assembles, same⟩ := assembles_saying (legal saying List.mem_cons_self)
      obtain ⟨others, continues, same'⟩ := ih fun other listed =>
        legal other (List.mem_cons_of_mem _ listed)
      refine ⟨first ++ others, ?_, ?_⟩
      · rw [List.flatMap_cons]
        exact assembles.append continues
      · rw [complete_append, same, same', List.flatMap_cons]

theorem legal_control (control : Control) : control.frame.1.Legal maxRecordSize where
  short := control.small.trans (by decide)
  whole := fun _ => rfl
  small := fun _ => control.small
  code := by
    intro close
    refine control.code ?_
    simp only [Control.frame] at close
    cases kind : control.kind with
    | close => rfl
    | ping => simp [kind, ControlKind.opcode] at close
    | pong => simp [kind, ControlKind.opcode] at close

theorem legal_data {opcode : Opcode} {fin : Bool} {payload : Bytes}
    (data : opcode = .binary ∨ opcode = .continuation) (short : payload.length ≤ maxRecordSize) :
    WebFrame.Legal { opcode := opcode, fin := fin, payload := payload } maxRecordSize where
  short := short
  whole := by rcases data with rfl | rfl <;> simp [Opcode.isControl, Opcode.toNat]
  small := by rcases data with rfl | rfl <;> simp [Opcode.isControl, Opcode.toNat]
  code := by rcases data with rfl | rfl <;> simp

theorem legal_continuations (rest : List (List Control × Fragment))
    (fits : (rest.flatMap fun part => part.2.bytes).length ≤ maxRecordSize) :
    ∀ sent ∈ continuations rest, sent.1.Legal maxRecordSize := by
  induction rest with
  | nil => simp [continuations]
  | cons part rest ih =>
      obtain ⟨controls, fragment⟩ := part
      simp only [List.flatMap_cons, List.length_append] at fits
      intro sent listed
      simp only [continuations, List.mem_append, List.mem_map, List.mem_cons] at listed
      rcases listed with ⟨control, _, rfl⟩ | rfl | listed
      · exact legal_control control
      · exact legal_data (.inr rfl) (by omega)
      · exact ih (by omega) sent listed

/-- What is said within the limit is sent in frames that the protocol allows. -/
theorem legal_frames {saying : Saying} (legal : saying.Legal maxRecordSize) :
    ∀ sent ∈ saying.frames, sent.1.Legal maxRecordSize := by
  cases saying with
  | control said =>
      intro sent listed
      rw [List.mem_singleton.mp listed]
      exact legal_control said
  | message first rest =>
      simp only [Saying.Legal, List.length_append] at legal
      intro sent listed
      rcases List.mem_cons.mp listed with rfl | listed
      · exact legal_data (.inl rfl) (by omega)
      · exact legal_continuations rest (by omega) sent listed

namespace Connection

variable {State Worker : Type} {config : ListenerConfig} {tls : Tls State}
  {handler : Handler Worker}

theorem handleMessage_withAssembler (connection : Connection State Worker)
    (assembler : MessageAssembler) (message : Message) :
    (connection.withAssembler assembler).handleMessage tls handler message =
      ((connection.handleMessage tls handler message).1,
        (connection.handleMessage tls handler message).2.withAssembler assembler) := by
  have same := handleMessage_withInput tls handler connection
    connection.plain connection.assembler message
  have kept : (connection.handleMessage tls handler message).2.plain = connection.plain := by
    have kept := congrArg (fun result => result.2.plain) same
    exact kept
  refine (handleMessage_withInput tls handler connection connection.plain assembler message).trans
    (Prod.ext rfl ?_)
  dsimp only
  rw [← kept]

theorem hear_of_stopped (connection : Connection State Worker)
    (stopped : connection.listens = false) (messages : List Message) :
    connection.hear tls handler messages = connection := by
  induction messages with
  | nil => rfl
  | cons message messages ih =>
      rw [hear, List.foldl_cons, if_neg (by simp [stopped])]
      exact ih

theorem hear_cons (connection : Connection State Worker) (listens : connection.listens = true)
    (message : Message) (messages : List Message) :
    connection.hear tls handler (message :: messages) =
      (connection.handleMessage tls handler message).2.hear tls handler messages := by
  rw [hear, List.foldl_cons, if_pos listens]
  rfl

theorem hear_withAssembler (connection : Connection State Worker) (assembler : MessageAssembler)
    (messages : List Message) :
    (connection.withAssembler assembler).hear tls handler messages =
      (connection.hear tls handler messages).withAssembler assembler := by
  induction messages generalizing connection with
  | nil => rfl
  | cons message messages ih =>
      cases listens : connection.listens with
      | false =>
          rw [hear_of_stopped (connection.withAssembler assembler) listens,
            hear_of_stopped connection listens]
      | true =>
          rw [hear_cons (connection.withAssembler assembler) listens,
            hear_cons connection listens, handleMessage_withAssembler]
          exact ih _

/-- A fragment that completes nothing is not heard of. -/
theorem hear_complete (connection : Connection State Worker) (messages : List Message) :
    connection.hear tls handler (complete messages) = connection.hear tls handler messages := by
  induction messages generalizing connection with
  | nil => rfl
  | cons message messages ih =>
      cases listens : connection.listens with
      | false => rw [hear_of_stopped _ listens, hear_of_stopped _ listens]
      | true =>
          by_cases silent : message = .incomplete
          · subst silent
            have nothing : (connection.handleMessage tls handler .incomplete).2 = connection := by
              unfold handleMessage
              split <;> rfl
            rw [hear_cons _ listens, nothing]
            exact ih connection
          · rw [show complete (message :: messages) = message :: complete messages by
                simp [complete, silent], hear_cons _ listens, hear_cons _ listens]
            exact ih _

variable (tls handler) in
/-- A scan of frames hands over the messages that they amount to. -/
theorem fold_assembles {assembler after : MessageAssembler} {frames : List MaskedFrame}
    {messages : List Message} (assembles : Assembles assembler frames messages after)
    (legal : ∀ sent ∈ frames, sent.1.Legal maxRecordSize) (connection : Connection State Worker)
    (own : connection.assembler = assembler) (listens : connection.listens = true)
    (session : connection.session.isSome) :
    ∃ kept verdict, (clientScanner maxRecordSize).fold (hearFrame tls handler) connection
        (encodeFrames frames) =
        ((connection.hear tls handler messages).withAssembler kept, verdict) ∧
      ((connection.hear tls handler messages).listens = true → kept = after ∧ verdict = .more []) ∧
      ((connection.hear tls handler messages).listens = false → verdict = .stopped) := by
  induction assembles generalizing connection with
  | nil assembler =>
      subst own
      refine ⟨connection.assembler, .more [], Scanner.fold_of_none rfl, fun _ => ⟨rfl, rfl⟩, ?_⟩
      intro stopped
      rw [show connection.listens = false from stopped] at listens
      cases listens
  | @cons assembler middle after sent message frames messages taken others ih =>
      subst own
      have found : (clientScanner maxRecordSize).next (encodeFrames (sent :: frames)) =
          .ok (some (sent.1, (encodeClientFrame sent.1 sent.2).length)) := by
        have parsed := parse_encodeClientFrame (legal sent List.mem_cons_self) (by decide) sent.2
          (encodeFrames frames)
        simp only [clientScanner, encodeFrames, List.flatMap_cons] at parsed ⊢
        rw [parsed]
      have behind : (encodeFrames (sent :: frames)).drop
          (encodeClientFrame sent.1 sent.2).length = encodeFrames frames := by
        rw [encodeFrames, List.flatMap_cons, List.drop_left]
        rfl
      have heard : hearFrame tls handler connection sent.1 =
          ((connection.handleMessage tls handler message).2.withAssembler middle,
            (connection.handleMessage tls handler message).2.listens) := by
        unfold hearFrame
        rw [taken]
        dsimp only
        rw [handleMessage_withAssembler]
        rfl
      rw [hear_cons _ listens]
      cases going : (connection.handleMessage tls handler message).2.listens with
      | false =>
          refine ⟨middle, .stopped, ?_, fun on => ?_, fun _ => rfl⟩
          · rw [Scanner.fold_of_refused found (by rw [heard]; exact going), heard,
              hear_of_stopped _ going]
          · rw [hear_of_stopped _ going, going] at on
            cases on
      | true =>
          obtain ⟨kept, verdict, scan, on, off⟩ := ih
            (fun other listed => legal other (List.mem_cons_of_mem _ listed))
            ((connection.handleMessage tls handler message).2.withAssembler middle)
            rfl going ((session_handleMessage tls handler connection message).symm ▸ session)
          rw [hear_withAssembler] at scan on off
          refine ⟨kept, verdict, ?_, on, off⟩
          rw [Scanner.fold_of_accepted found (by rw [heard]; exact going), heard, behind]
          exact scan

/-- However the bytes of what a client says come in, the connection ends up as if it had been
handed the messages one by one, with nothing left over if it still listens. Input that is not
complete stays as it is, and always leaves room: a full buffer holds a frame, or one that is
refused. -/
theorem messages_received_exactly (config : ListenerConfig) (tls : Tls State)
    (handler : Handler Worker) {connection : Connection State Worker} (idle : connection.Idle)
    {sayings : List Saying} (legal : ∀ saying ∈ sayings, saying.Legal maxRecordSize)
    {pieces : List Bytes} (whole : pieces.flatten = encodeFrames (sayings.flatMap Saying.frames)) :
    (∃ plain assembler,
      pieces.foldl (receive config tls handler) connection =
        (connection.hear tls handler (sayings.flatMap Saying.messages)).withInput plain
          assembler ∧
      ((connection.hear tls handler (sayings.flatMap Saying.messages)).listens = true →
        plain = [] ∧ assembler = { capacity := maxRecordSize })) ∧
    (∀ waiting : Connection State Worker, waiting.state = .open →
      parseClientFrame waiting.plain maxRecordSize = .error .needMore →
      waiting.takeUnit config tls handler = (.ok false, waiting)) ∧
    (∀ input : Bytes, plainBufferSize ≤ input.length →
      parseClientFrame input maxRecordSize ≠ .error .needMore) ∧
    ∀ (reader : Connection State Worker) (piece : Bytes), reader.listens = true →
      reader.session.isSome → (reader.receive config tls handler piece).listens = true →
      (reader.receive config tls handler piece).plain.length < plainBufferSize := by
  refine ⟨?_, takeUnit_of_none, fun input full waits => ?_,
    fun _ piece listens session => plain_of_receive listens session piece⟩
  · obtain ⟨messages, assembles, same⟩ := assembles_sayings legal
    have legal' : ∀ sent ∈ sayings.flatMap Saying.frames, sent.1.Legal maxRecordSize := by
      intro sent listed
      obtain ⟨saying, said, listed⟩ := List.mem_flatMap.mp listed
      exact legal_frames (legal saying said) sent listed
    obtain ⟨kept, verdict, scan, on, off⟩ := fold_assembles tls handler
      assembles legal' connection idle.assembler idle.listens idle.session
    have leads := receive_all_leads config tls handler pieces idle.listens idle.session [] rfl
    rw [List.nil_append, whole, scan, ← idle.plain] at leads
    rw [← hear_complete, same] at on off leads
    generalize connection.hear tls handler (sayings.flatMap Saying.messages) = heard at on off leads ⊢
    rw [show connection.withPlain connection.plain = connection from rfl] at leads
    generalize pieces.foldl (receive config tls handler) connection = after at leads ⊢
    cases leads with
    | more rest listens session =>
        obtain ⟨fresh, empty⟩ := on listens
        cases empty
        exact ⟨[], kept, rfl, fun _ => ⟨rfl, fresh⟩⟩
    | stopped rest deaf =>
        refine ⟨rest, kept, rfl, fun listens => ?_⟩
        rw [show heard.listens = false from deaf.stopped] at listens
        cases listens
    | failed rest listens => cases (on listens).2
  · have short := length_of_needMore waits
    have least : maxClientFrameSize ≤ plainBufferSize := le_max_right _ _
    unfold maxClientFrameSize at least
    omega

/-- A connection of a session, with nothing received yet. -/
def quietConnection : Connection (Bytes × Bytes) Unit where
  state := .open
  output := .init 1024 8
  tls := plainTls.init
  worker := ()
  session := some ⟨0, 1⟩

/-- A message in two fragments under different masks, with a ping between them. -/
def interruptedGreeting : List Saying :=
  [.message ⟨ascii "he", ⟨[1, 2, 3, 4], rfl⟩⟩
    [([⟨.ping, [], ⟨[0, 0, 0, 0], rfl⟩, by decide, by decide⟩],
      ⟨ascii "llo", ⟨[255, 0, 255, 0], rfl⟩⟩)]]

/-- The bytes come one by one. -/
theorem messages_received_exactly_bytewise :
    ∃ plain assembler,
      ((encodeFrames (interruptedGreeting.flatMap Saying.frames)).map fun byte => [byte]).foldl
          (receive openConfig plainTls idleHandler) quietConnection =
        (quietConnection.hear plainTls idleHandler
          [.ping [], .binary (ascii "hello")]).withInput plain assembler ∧
      ((quietConnection.hear plainTls idleHandler
          [.ping [], .binary (ascii "hello")]).listens = true →
        plain = [] ∧ assembler = { capacity := maxRecordSize }) := by
  have said : interruptedGreeting.flatMap Saying.messages = [.ping [], .binary (ascii "hello")] := by
    decide +kernel
  have idle : quietConnection.Idle := ⟨rfl, rfl, rfl, rfl⟩
  have legal : ∀ saying ∈ interruptedGreeting, saying.Legal maxRecordSize := by
    intro saying listed
    rw [List.mem_singleton.mp listed]
    have five : (ascii "he" ++ ascii "llo").length ≤ maxRecordSize := by decide +kernel
    simpa [Saying.Legal] using five
  have whole : ((encodeFrames (interruptedGreeting.flatMap Saying.frames)).map
      fun byte => [byte]).flatten = encodeFrames (interruptedGreeting.flatMap Saying.frames) := by
    decide +kernel
  have received := messages_received_exactly openConfig plainTls idleHandler idle legal whole
  rw [said] at received
  exact received.1

end Connection

end LyuneGateway.Wss
