import LyuneGateway.Wss.Listener

/-!
# The driver of a WebSocket connection

Each round of the driver moves at most one piece in each direction: encrypted
bytes into the TLS layer, plain bytes out of it, queued bytes into it, encrypted
bytes out of it. It stops when a round moves nothing, and fails when that has not
happened after a fixed number of rounds.
-/

namespace LyuneGateway.Wss

open Session

namespace Connection

variable {State Worker : Type} (config : ListenerConfig) (tls : Tls State)
  (handler : Handler Worker)

def consumePlain (connection : Connection State Worker) (count : Nat) : Connection State Worker :=
  { connection with plain := connection.plain.drop count }

/-- A stream record of the client may not be on a stream that only the gateway writes, nor on one
of the gateway's that does not exist yet; on those it may only end its direction. -/
def refusesRecord (connection : Connection State Worker) (record : Record) : Bool :=
  if record.recordType = .ephemeral then false
  else if record.streamId / 2 % 2 = 1 then true
  else if record.streamId % 4 = 1 then
    match connection.highestServerExchangeId with
    | none => true
    | some highest =>
        highest < record.streamId ||
          (record.recordType = .stream && (!record.fin || record.payload.length ≠ 0))
  else false

/-- What the worker makes of a record. -/
def dispatch (worker : Worker) (handle : SessionHandle) (record : Record) : Reaction Worker :=
  match record.recordType with
  | .stream => handler.streamData worker handle record.streamId record.payload record.fin
  | .reset => handler.control worker handle record.streamId .reset
  | .stop => handler.control worker handle record.streamId .stop
  | .ephemeral => handler.ephemeral worker handle record.payload

def handleMessage (connection : Connection State Worker) (message : Message) :
    Except DriveError Unit × Connection State Worker :=
  match connection.session with
  | none => (.error .sessionMissing, connection)
  | some handle =>
      match message with
      | .incomplete | .pong _ => (.ok (), connection)
      | .ping payload =>
          match connection.output.enqueueControl .pong payload with
          | .error _ => (.ok (), connection.beginImmediateClose tls)
          | .ok output => (.ok (), { connection with output := output })
      | .close payload =>
          if validClosePayload payload = false then
            (.ok (), connection.protocolClose tls closeProtocolError)
          else
            match connection.output.enqueueControl .close payload with
            | .error _ => (.ok (), connection.beginImmediateClose tls)
            | .ok output => (.ok (), { connection with output := output, closeAfterFlush := true })
      | .binary bytes =>
          match decode bytes with
          | .error _ => (.ok (), connection.protocolClose tls closeProtocolError)
          | .ok record =>
              if connection.refusesRecord record then
                (.ok (), connection.protocolClose tls closeProtocolError)
              else
                (.ok (), react tls reenter (dispatch handler connection.worker handle record)
                  connection)

/-- The connection takes up the session, if the request asks for what it may have. -/
def upgrade (connection : Connection State Worker) (request : UpgradeRequest) :
    Except DriveError Unit × Connection State Worker :=
  let policy : OriginPolicy := ⟨config.allowedOrigins, config.allowMissingOrigin⟩
  let serverName := tls.serverName connection.tls
  if policy.allows request.origin = false then (.error .originRejected, connection)
  else if hostMatchesServerName request.host serverName = false then
    (.error .hostSniMismatch, connection)
  else
    match buildUpgradeResponse config.sha1 request.key with
    | .error error => (.error (.upgrade error), connection)
    | .ok response =>
        match connection.output.enqueueRaw response with
        | .error error => (.error (.queue error), connection)
        | .ok output =>
            match handler.accept connection.worker serverName with
            | (none, worker) =>
                (.error .sessionRejected, { connection with output := output, worker := worker })
            | (some handle, worker) =>
                (.ok (), { connection with
                  output := output
                  worker := worker
                  session := some handle
                  state := .open }.consumePlain request.consumed)

/-- One unit of plain input: the upgrade request, or a frame. Nothing is left to do when there is
no complete unit, or when the connection is about to close. -/
def takeUnit (connection : Connection State Worker) :
    Except DriveError Bool × Connection State Worker :=
  match connection.state with
  | .tlsHandshake | .closing => (.ok false, connection)
  | .httpUpgrade =>
      match parseUpgrade connection.plain with
      | .error .needMore => (.ok false, connection)
      | .error error => (.error (.upgrade error), connection)
      | .ok request =>
          match connection.upgrade config tls handler request with
          | (.error error, connection) => (.error error, connection)
          | (.ok _, connection) => (.ok true, connection)
  | .open =>
      match parseClientFrame connection.plain maxRecordSize with
      | .error .needMore => (.ok false, connection)
      | .error _ => (.ok false, connection.protocolClose tls closeProtocolError)
      | .ok parsed =>
          match connection.assembler.accept parsed.frame with
          | .error _ => (.ok false, connection.protocolClose tls closeProtocolError)
          | .ok (message, assembler) =>
              match { connection with assembler := assembler }.handleMessage tls handler
                  message with
              | (.error error, connection) => (.error error, connection)
              | (.ok _, connection) =>
                  let connection := connection.consumePlain parsed.consumed
                  (.ok !connection.closeAfterFlush, connection)

/-- Every unit is of at least one byte, so that as many units as there are bytes are enough. -/
def takeUnits : Nat → Connection State Worker → Except DriveError Unit × Connection State Worker
  | 0, connection => (.ok (), connection)
  | fuel + 1, connection =>
      if connection.plain = [] then (.ok (), connection)
      else
        match connection.takeUnit config tls handler with
        | (.error error, connection) => (.error error, connection)
        | (.ok false, connection) => (.ok (), connection)
        | (.ok true, connection) => takeUnits fuel connection

def processPlain (connection : Connection State Worker) :
    Except DriveError Unit × Connection State Worker :=
  if connection.closeAfterFlush then (.ok (), connection)
  else takeUnits config tls handler connection.plain.length connection

/-- How a round comes to an end before its last part. -/
inductive Exit where
  | returned
  | failed (error : DriveError)
  deriving DecidableEq, Repr

/-- A part of a round, which says whether it has moved anything. -/
abbrev Part (State Worker : Type) :=
  Connection State Worker → Except Exit Bool × Connection State Worker

/-- One part after the other; a part that ends the round is the last. -/
def inTurn : List (Part State Worker) → Part State Worker
  | [], connection => (.ok false, connection)
  | part :: parts, connection =>
      match part connection with
      | (.error exit, connection) => (.error exit, connection)
      | (.ok moved, connection) =>
          match inTurn parts connection with
          | (.error exit, connection) => (.error exit, connection)
          | (.ok more, connection) => (.ok (moved || more), connection)

def provide : Part State Worker := fun connection =>
  if connection.encryptedIn = [] then (.ok false, connection)
  else
    let (consumed, state) := tls.provideEncrypted connection.tls connection.encryptedIn
    (.ok (consumed ≠ 0),
      { connection with tls := state, encryptedIn := connection.encryptedIn.drop consumed })

def shake : Part State Worker := fun connection =>
  if connection.state ≠ .tlsHandshake then (.ok false, connection)
  else
    match tls.handshake connection.tls with
    | (.error error, state) => (.error (.failed (.tls error)), { connection with tls := state })
    | (.ok false, state) => (.ok false, { connection with tls := state })
    | (.ok true, state) => (.ok true, { connection with tls := state, state := .httpUpgrade })

def readIn : Part State Worker := fun connection =>
  if (connection.state = .httpUpgrade ∨ connection.state = .open) ∧
      connection.closeAfterFlush = false then
    if connection.plain.length = plainBufferSize then
      (.error (.failed .plainInputTooLarge), connection)
    else
      match tls.readPlain connection.tls (plainBufferSize - connection.plain.length) with
      | (.error error, state) =>
          (.error (.failed (.tls error)), { connection with tls := state })
      | (.ok (.bytes bytes), state) =>
          match { connection with tls := state, plain := connection.plain ++ bytes }.processPlain
              config tls handler with
          | (.error error, connection) => (.error (.failed error), connection)
          | (.ok _, connection) => (.ok true, connection)
      | (.ok .wouldBlock, state) => (.ok false, { connection with tls := state })
      | (.ok .closed, state) =>
          (.error .returned, { connection with tls := state }.beginImmediateClose tls)
  else (.ok false, connection)

def writeOut : Part State Worker := fun connection =>
  match connection.output.peek with
  | none => (.ok false, connection)
  | some part =>
      match tls.writePlain connection.tls part with
      | (.error error, state) =>
          (.error (.failed (.tls error)), { connection with tls := state })
      | (.ok (.bytes count), state) =>
          (.ok true,
            { connection with tls := state, output := connection.output.consume count })
      | (.ok .wouldBlock, state) => (.ok false, { connection with tls := state })
      | (.ok .closed, state) =>
          (.error .returned, { connection with tls := state }.beginImmediateClose tls)

/-- Start to write what the TLS layer has encrypted, if there is any. -/
def takeOut (connection : Connection State Worker) :
    Except Exit Bool × Connection State Worker :=
  match tls.takeEncrypted connection.tls encryptedBufferSize with
  | (.error error, state) => (.error (.failed (.tls error)), { connection with tls := state })
  | (.ok [], state) => (.ok false, { connection with tls := state })
  | (.ok bytes, state) =>
      (.ok true, { connection with tls := state, encryptedOut := bytes }.startWrite)

def send : Part State Worker := fun connection =>
  if connection.writeActive then (.ok false, connection) else takeOut tls connection

/-- A connection that closes is closed when its last byte has been sent. -/
def finish : Part State Worker := fun connection =>
  if connection.closeAfterFlush ∧ connection.output.bytesUsed = 0 ∧
      connection.writeActive = false then
    match takeOut tls connection with
    | (.error exit, connection) => (.error exit, connection)
    | (.ok true, connection) => (.error .returned, connection)
    | (.ok false, connection) => (.error .returned, connection.beginImmediateClose tls)
  else (.ok false, connection)

def round : Part State Worker :=
  inTurn [provide tls, shake tls, readIn config tls handler, writeOut tls, send tls, finish tls]

/-- Nothing of what was read may be left over. -/
def settle (connection : Connection State Worker) :
    Except DriveError Unit × Connection State Worker :=
  if connection.encryptedIn ≠ [] then (.error .tlsBioCapacityExhausted, connection)
  else (.ok (), connection)

def driveFor : Nat → Driver State Worker
  | 0, connection => (.error .tlsProgressLoopExceeded, connection)
  | rounds + 1, connection =>
      if connection.state = .closing then connection.settle
      else
        match round config tls handler connection with
        | (.error .returned, connection) => (.ok (), connection)
        | (.error (.failed error), connection) => (.error error, connection)
        | (.ok true, connection) => driveFor rounds connection
        | (.ok false, connection) => connection.settle

def maxRounds : Nat := 128

def drive : Driver State Worker := driveFor config tls handler maxRounds

def readyToDestroy (connection : Connection State Worker) : Bool :=
  connection.state = .closing && !connection.readActive && !connection.writeActive &&
    !connection.socketClosed

/-- The worker is told, once, that its session is gone. -/
def notifySessionClosed (connection : Connection State Worker) : Connection State Worker :=
  match connection.session with
  | none => connection
  | some handle =>
      react tls (drive config tls handler) (handler.closed connection.worker handle)
        { connection with session := none }

def destroy (connection : Connection State Worker) : Connection State Worker :=
  { connection with socketClosed := true }.notifySessionClosed config tls handler

/-- The end of a read; no bytes are the end of the input, and no result is an error. -/
def readCallback (connection : Connection State Worker) (result : Option Bytes) :
    Connection State Worker :=
  let connection := { connection with readActive := false }
  match result with
  | none | some [] => connection.beginImmediateClose tls
  | some bytes =>
      if connection.state = .closing then connection.beginImmediateClose tls
      else
        (driveOrClose tls (drive config tls handler)
          { connection with encryptedIn := bytes }).2.startRead

def writeCallback (connection : Connection State Worker) (result : Option Nat) :
    Connection State Worker :=
  let connection := { connection with writeActive := false }
  match result with
  | none | some 0 => connection.beginImmediateClose tls
  | some count =>
      let connection := { connection with encryptedOut := connection.encryptedOut.drop count }
      if connection.encryptedOut ≠ [] ∧ connection.state ≠ .closing then connection.startWrite
      else
        let connection := { connection with encryptedOut := [] }
        if connection.state = .closing then connection
        else (driveOrClose tls (drive config tls handler) connection).2

def poll (connection : Connection State Worker) (now : Nat) : Connection State Worker :=
  let connection :=
    if connection.upgradeComplete = false ∧ connection.handshakeDeadlineUs ≤ now then
      connection.beginImmediateClose tls
    else connection
  if connection.readyToDestroy then connection.destroy config tls handler else connection

/-- What happens to a connection: the socket has read or written, the worker calls, time passes,
the event loop has stopped for good. -/
inductive Event where
  | read (result : Option Bytes)
  | wrote (result : Option Nat)
  | call (call : Call)
  | poll (now : Nat)
  | loopStopped

/-- Completions come only for what has been started, calls only on a session, and nothing comes
after the socket is closed. -/
def step (connection : Connection State Worker) (event : Event) : Connection State Worker :=
  if connection.socketClosed then connection
  else
    match event with
    | .read result =>
        if connection.readActive then connection.readCallback config tls handler result
        else connection
    | .wrote result =>
        if connection.writeActive then connection.writeCallback config tls handler result
        else connection
    | .call call =>
        if connection.session.isSome then (connection.ask tls (drive config tls handler) call).2
        else connection
    | .poll now => connection.poll config tls handler now
    | .loopStopped => connection.destroy config tls handler

end Connection

end LyuneGateway.Wss
