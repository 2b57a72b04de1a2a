import LyuneGateway.Session.Transport
import LyuneGateway.Wss.OutputQueue
import LyuneGateway.Wss.Tls
import LyuneGateway.Wss.Upgrade

/-!
# WebSocket connections

A connection goes from the TLS handshake over the HTTP upgrade to the open state.
What a client sends is handed to the worker, which may answer at once: it calls
back into the connection while that is still handling its input. One driver
moves bytes between the socket, the TLS layer, the input and the output queue
until nothing moves any more.
-/

namespace LyuneGateway.Wss

open Session

def encryptedBufferSize : Nat := 16 * 1024
def maxClientFrameSize : Nat := maxRecordSize + 14
def plainBufferSize : Nat := max maxHttpHeadSize maxClientFrameSize
def closeNormal : Nat := 1000
def closeProtocolError : Nat := 1002
def closeInternalError : Nat := 1011

/-- What the listener is set up with; `sha1` is the hash function. -/
structure ListenerConfig where
  allowedOrigins : List Bytes := []
  allowMissingOrigin : Bool := false
  maxQueuedBytes : Nat := 1024 * 1024
  maxQueuedRecords : Nat := 64
  sha1 : Bytes → Bytes

inductive ConnectionState where
  | tlsHandshake
  | httpUpgrade
  | open
  | closing
  deriving DecidableEq, Repr

inductive StreamControl where
  | reset
  | stop
  deriving DecidableEq, Repr

/-- What a worker asks of a client transport. -/
inductive Call where
  | claimInboundExchange (streamId : Nat)
  | write (streamId : Nat) (bytes : Bytes) (fin : Bool)
  | sendEphemeral (bytes : Bytes)
  | resetSend (streamId appErrorCode : Nat)
  | stopReceive (streamId appErrorCode : Nat)
  | discard (streamId appErrorCode : Nat)
  | close (appErrorCode : Nat)
  deriving DecidableEq, Repr

/-- What a worker does with an event: it makes calls, each of which it learns the answer of, and
is left in a state of its own. -/
inductive Reaction (Worker : Type) where
  | done (worker : Worker)
  | call (call : Call) (resume : Bool → Reaction Worker)

/-- The worker behind a connection. -/
structure Handler (Worker : Type) where
  init : Worker
  accept : Worker → Option Bytes → Option SessionHandle × Worker
  streamData : Worker → SessionHandle → Nat → Bytes → Bool → Reaction Worker
  control : Worker → SessionHandle → Nat → StreamControl → Reaction Worker
  ephemeral : Worker → SessionHandle → Bytes → Reaction Worker
  closed : Worker → SessionHandle → Reaction Worker

/-- The part of a connection that decides what becomes of a call. -/
structure Standing where
  state : ConnectionState := .tlsHandshake
  closeAfterFlush : Bool := false
  output : Queue
  highestServerExchangeId : Option Nat := none

/-- A call as the connection found it, and the answer it got. -/
structure Asked where
  before : Standing
  call : Call
  answer : Bool

/-- `encryptedIn` is what of the last read the TLS layer has not taken yet, `encryptedOut` what of
the last write the socket has not taken. `calls` is no part of the connection: it keeps every
call that has been answered, the oldest first. -/
structure Connection (State Worker : Type) extends Standing where
  tls : State
  worker : Worker
  encryptedIn : Bytes := []
  encryptedOut : Bytes := []
  plain : Bytes := []
  assembler : MessageAssembler := { capacity := maxRecordSize }
  session : Option SessionHandle := none
  highestClientExchangeId : Option Nat := none
  handshakeDeadlineUs : Nat := 0
  readActive : Bool := false
  writeActive : Bool := false
  socketClosed : Bool := false
  calls : List Asked := []

inductive DriveError where
  | tls (error : TlsError)
  | plainInputTooLarge
  | upgrade (error : UpgradeError)
  | originRejected
  | hostSniMismatch
  | queue (error : QueueError)
  | sessionRejected
  | sessionMissing
  | tlsProgressLoopExceeded
  | tlsBioCapacityExhausted
  deriving DecidableEq, Repr

def narrowAppError (value : Nat) : Nat := min value 4294967295

/-- The close code for no error, a violated protocol, a kick, a redirect, or another error. -/
def websocketCloseCode : Nat → Nat
  | 0 => closeNormal
  | 1 => closeProtocolError
  | 2 => 4002
  | 3 => 4003
  | _ => closeInternalError

/-- The next stream that the gateway has opened is noted; a gap is refused. -/
def noteServerExchange (highest : Option Nat) (streamId : Nat) : Option (Option Nat) :=
  match highest with
  | none => if streamId = 1 then some (some streamId) else none
  | some previous =>
      if streamId ≤ previous then some highest
      else if streamId = previous + 4 then some (some streamId)
      else none

def isContinuation (byte : UInt8) : Bool := 128 ≤ byte && byte ≤ 191

/-- The bytes are a text in UTF-8. -/
def utf8Validate : Bytes → Bool
  | [] => true
  | first :: rest =>
      if first < 128 then utf8Validate rest
      else
        match rest with
        | [] => false
        | second :: rest =>
            if 194 ≤ first ∧ first ≤ 223 then isContinuation second && utf8Validate rest
            else
              match rest with
              | [] => false
              | third :: rest =>
                  if 224 ≤ first ∧ first ≤ 239 then
                    -- No overlong form, and no half of a surrogate pair.
                    isContinuation second && isContinuation third &&
                      (first ≠ 224 || 160 ≤ second) && (first ≠ 237 || second ≤ 159) &&
                      utf8Validate rest
                  else
                    match rest with
                    | [] => false
                    | fourth :: rest =>
                        240 ≤ first && first ≤ 244 && isContinuation second &&
                          isContinuation third && isContinuation fourth &&
                          (first ≠ 240 || 144 ≤ second) && (first ≠ 244 || second ≤ 143) &&
                          utf8Validate rest

/-- A close frame says nothing, or gives a code that may be sent and a text. -/
def validClosePayload (payload : Bytes) : Bool :=
  if payload.length = 0 then true
  else if payload.length = 1 then false
  else
    let code := BigEndian.readAt payload 0 2
    if code < 1000 ∨ 5000 ≤ code ∨ code = 1004 ∨ code = 1005 ∨ code = 1006 ∨ code = 1015 then
      false
    else if 1016 ≤ code ∧ code ≤ 2999 then false
    else utf8Validate (payload.drop 2)

namespace Connection

variable {State Worker : Type}

/-- An accepted socket, which is read from at once. -/
def create (config : ListenerConfig) (tls : Tls State) (handler : Handler Worker)
    (handshakeDeadlineUs : Nat) : Connection State Worker where
  tls := tls.init
  worker := handler.init
  output := .init config.maxQueuedBytes config.maxQueuedRecords
  handshakeDeadlineUs := handshakeDeadlineUs
  readActive := true

def upgradeComplete (connection : Connection State Worker) : Bool :=
  connection.state = .open || connection.state = .closing

def startRead (connection : Connection State Worker) : Connection State Worker :=
  if connection.readActive ∨ connection.state = .closing then connection
  else { connection with readActive := true }

def startWrite (connection : Connection State Worker) : Connection State Worker :=
  { connection with writeActive := true }

def beginImmediateClose (tls : Tls State) (connection : Connection State Worker) :
    Connection State Worker :=
  if connection.state = .closing then connection
  else { connection with state := .closing, tls := tls.shutdown connection.tls }

/-- Close after what is queued has been sent; a Close frame that does not fit is left out. -/
def protocolClose (tls : Tls State) (connection : Connection State Worker) (code : Nat) :
    Connection State Worker :=
  match connection.output.enqueueControl .close (BigEndian.write 2 code) with
  | .error _ => connection.beginImmediateClose tls
  | .ok output => { connection with output := output, closeAfterFlush := true }

/-- What drives a connection on; it may fail, and then the connection is closed. -/
abbrev Driver (State Worker : Type) :=
  Connection State Worker → Except DriveError Unit × Connection State Worker

/-- The driver while it is running already: it returns at once. -/
def reenter : Driver State Worker := fun connection => (.ok (), connection)

section Calls

variable (tls : Tls State) (drive : Driver State Worker)

/-- Drive on, and close if that fails. -/
def driveOrClose (connection : Connection State Worker) : Bool × Connection State Worker :=
  match drive connection with
  | (.ok _, connection) => (true, connection)
  | (.error _, connection) => (false, connection.beginImmediateClose tls)

def transportClaimInboundExchange (connection : Connection State Worker) (streamId : Nat) :
    Bool × Connection State Worker :=
  if connection.state ≠ .open ∨ streamId % 4 ≠ 0 then (false, connection)
  else if connection.highestClientExchangeId.any (streamId ≤ ·) then (false, connection)
  else (true, { connection with highestClientExchangeId := some streamId })

def transportWrite (connection : Connection State Worker) (streamId : Nat) (bytes : Bytes)
    (fin : Bool) : Bool × Connection State Worker :=
  if connection.state ≠ .open then (false, connection)
  else
    let noted := if streamId % 4 = 1 then
      noteServerExchange connection.highestServerExchangeId streamId
      else some connection.highestServerExchangeId
    match noted with
    | none => (false, connection.beginImmediateClose tls)
    | some highest =>
        let connection := { connection with highestServerExchangeId := highest }
        match connection.output.enqueueRecord
            { recordType := .stream, streamId := streamId, fin := fin, payload := bytes }
            .reliable with
        | .error _ => (false, connection.beginImmediateClose tls)
        | .ok (_, output) => driveOrClose tls drive { connection with output := output }

def transportEphemeral (connection : Connection State Worker) (bytes : Bytes) :
    Bool × Connection State Worker :=
  if connection.state ≠ .open then (false, connection)
  else
    match connection.output.enqueueRecord { recordType := .ephemeral, payload := bytes }
        .ephemeral with
    | .error _ => (false, connection)
    | .ok (_, output) => driveOrClose tls drive { connection with output := output }

def enqueueDirectionControl (connection : Connection State Worker) (recordType : RecordType)
    (streamId appErrorCode : Nat) : Connection State Worker :=
  if connection.state ≠ .open then connection
  else
    match connection.output.enqueueRecord {
        recordType := recordType
        streamId := streamId
        appErrorCode := narrowAppError appErrorCode } .reliable with
    | .error _ => connection.beginImmediateClose tls
    | .ok (_, output) => (driveOrClose tls drive { connection with output := output }).2

def transportReset (connection : Connection State Worker) (streamId appErrorCode : Nat) :
    Connection State Worker :=
  connection.enqueueDirectionControl tls drive .reset streamId appErrorCode

def transportStop (connection : Connection State Worker) (streamId appErrorCode : Nat) :
    Connection State Worker :=
  connection.enqueueDirectionControl tls drive .stop streamId appErrorCode

def transportDiscard (connection : Connection State Worker) (streamId appErrorCode : Nat) :
    Connection State Worker :=
  if connection.state ≠ .open then connection
  else
    match connection.output.enqueueDiscard streamId (narrowAppError appErrorCode) with
    | .error _ => connection.beginImmediateClose tls
    | .ok output => (driveOrClose tls drive { connection with output := output }).2

def transportClose (connection : Connection State Worker) (appErrorCode : Nat) :
    Connection State Worker :=
  if connection.state = .closing then connection
  else
    (driveOrClose tls drive
      (connection.protocolClose tls (websocketCloseCode appErrorCode))).2

/-- A call of the worker; the calls that answer nothing always succeed. -/
def transport (connection : Connection State Worker) : Call → Bool × Connection State Worker
  | .claimInboundExchange streamId => connection.transportClaimInboundExchange streamId
  | .write streamId bytes fin => connection.transportWrite tls drive streamId bytes fin
  | .sendEphemeral bytes => connection.transportEphemeral tls drive bytes
  | .resetSend streamId code => (true, connection.transportReset tls drive streamId code)
  | .stopReceive streamId code => (true, connection.transportStop tls drive streamId code)
  | .discard streamId code => (true, connection.transportDiscard tls drive streamId code)
  | .close code => (true, connection.transportClose tls drive code)

/-- The call, and the record of it. -/
def ask (connection : Connection State Worker) (call : Call) : Bool × Connection State Worker :=
  let (answer, after) := connection.transport tls drive call
  (answer, { after with calls := after.calls ++ [⟨connection.toStanding, call, answer⟩] })

/-- The worker makes its calls one after the other. -/
def react : Reaction Worker → Connection State Worker → Connection State Worker
  | .done worker, connection => { connection with worker := worker }
  | .call call resume, connection =>
      let (answer, connection) := connection.ask tls drive call
      react (resume answer) connection

end Calls

end Connection

end LyuneGateway.Wss
