import LyuneGateway.Lib.Table
import LyuneGateway.Protocol.Codec
import LyuneGateway.Wss.Canonical
import Mathlib.Tactic.SplitIfs

/-!
# The browser's session

A browser reaches the gateway over a WebSocket and keeps all its exchanges in
one session: a map of the streams it waits on, a map of the streams the gateway
pushes on, and one handler that every message goes through. A promise of the
source is an entry of `settled` here, made when it is resolved or rejected.
-/

namespace LyuneGateway.Clients.Browser

/-- What the errors of the session say. -/
inductive Fault where
  | truncatedEnvelope
  | illegalEnvelope
  | envelopeLength
  | unknownRecord
  | truncatedHeader
  | illegalFrame
  | requestTooLarge
  | notBinary
  | unidirectional
  | reset (appError : Nat)
  | stop (appError : Nat)
  | timedOut
  | unexpectedData
  | notOneFrame
  | illegalPush
  | truncatedTargets
  | wideInteger
  | notJson
  | socketFailed
  | socketClosed
  | loggedOut
  deriving DecidableEq, Repr

def envelopeVersion : UInt8 := 1
def envelopeHeaderSize : Nat := 20
def recordStream : UInt8 := 1
def recordReset : UInt8 := 2
def recordStop : UInt8 := 3
def recordEphemeral : UInt8 := 4
def flagFin : UInt8 := 1
def frameOpen : UInt8 := 0
def frameData : UInt8 := 1
def frameEof : UInt8 := 1
def destGateway : UInt8 := 0
def destService : UInt8 := 1
def destPeer : UInt8 := 2
def responseRequired : UInt8 := 0
def responseNone : UInt8 := 1

structure Envelope where
  recordType : UInt8
  fin : Bool
  streamId : Nat
  appError : Nat
  payload : Bytes
  deriving DecidableEq, Repr

structure Frame where
  frameType : UInt8
  flags : UInt8
  dest : UInt8 := 0
  response : UInt8 := 0
  group : UInt8 := 0
  route : UInt8 := 0
  body : Bytes
  deriving DecidableEq, Repr

def encodeEnvelope (record : Envelope) : Bytes :=
  envelopeVersion :: record.recordType :: (if record.fin then flagFin else 0) :: 0 ::
    (BigEndian.write 8 record.streamId ++ BigEndian.write 4 record.appError ++
      BigEndian.write 4 record.payload.length ++ record.payload)

def decodeEnvelope (bytes : Bytes) : Except Fault Envelope :=
  if bytes.length < envelopeHeaderSize then .error .truncatedEnvelope
  else if bytes.getD 0 0 ≠ envelopeVersion ∨ bytes.getD 3 0 ≠ 0 ∨
      bytes.getD 2 0 &&& ~~~flagFin ≠ 0 then
    .error .illegalEnvelope
  else if bytes.length ≠ envelopeHeaderSize + BigEndian.readAt bytes 16 4 then
    .error .envelopeLength
  else if bytes.getD 1 0 ∉ [recordStream, recordReset, recordStop, recordEphemeral] then
    .error .unknownRecord
  else .ok {
    recordType := bytes.getD 1 0
    fin := bytes.getD 2 0 &&& flagFin ≠ 0
    streamId := BigEndian.readAt bytes 4 8
    appError := BigEndian.readAt bytes 12 4
    payload := bytes.drop envelopeHeaderSize }

/-- An OPEN that is also the last frame; the body is the text of a JSON value. -/
def encodeOpen (dest group route response : UInt8) (body : Bytes) : Except Fault Bytes :=
  if 0xffff < body.length then .error .requestTooLarge
  else .ok (frameOpen :: frameEof :: (BigEndian.write 2 body.length ++
    [dest, response, group, route] ++ body))

/-- The length of the header that the first byte announces. -/
def headerLength (frameType : UInt8) : Nat :=
  if frameType = frameOpen then 8 else if frameType = frameData then 4 else 0

/-- The frames of `bytes`, of which there are at most as many as bytes. -/
def decodeFramesFor : Nat → Bytes → Except Fault (List Frame)
  | 0, _ => .ok []
  | fuel + 1, bytes =>
      if bytes = [] then .ok []
      else if bytes.length < 4 then .error .truncatedHeader
      else
        let frameType := bytes.getD 0 0
        let length := headerLength frameType
        let total := length + BigEndian.readAt bytes 2 2
        if length = 0 ∨ bytes.length < total then .error .illegalFrame
        else do
          let frame : Frame := {
            frameType := frameType
            flags := bytes.getD 1 0
            dest := if frameType = frameOpen then bytes.getD 4 0 else 0
            response := if frameType = frameOpen then bytes.getD 5 0 else 0
            group := if frameType = frameOpen then bytes.getD 6 0 else 0
            route := if frameType = frameOpen then bytes.getD 7 0 else 0
            body := (bytes.take total).drop length }
          let rest ← decodeFramesFor fuel (bytes.drop total)
          .ok (frame :: rest)

def decodeFrames (bytes : Bytes) : Except Fault (List Frame) :=
  decodeFramesFor (bytes.length + 1) bytes

structure PendingStream where
  chunks : List Bytes := []
  noResponse : Bool
  deriving DecidableEq, Repr

/-- How a promise was settled. -/
inductive Settlement where
  | resolved (frame : Option Frame)
  | rejected (fault : Fault)
  deriving DecidableEq, Repr

structure PushEvent (Json : Type) where
  seq : Nat
  targets : List Nat
  payload : Json
  deriving DecidableEq, Repr

structure Session (Json : Type) where
  /-- The socket is open: it takes messages and hands them over. -/
  ready : Bool := true
  connected : Bool := true
  closedBy : Option Fault := none
  nextClientStreamId : Nat := 0
  pending : Table Nat PendingStream := ∅
  pushes : Table Nat (List Bytes) := ∅
  pushSequence : Nat := 0
  sent : List Bytes := []
  settled : List (Nat × Settlement) := []
  heard : List (PushEvent Json) := []

namespace Session

variable {Json : Type} (json : Bytes → Option Json)

def send (session : Session Json) (record : Envelope) : Session Json :=
  if session.ready then { session with sent := session.sent ++ [encodeEnvelope record] }
  else session

def settle (session : Session Json) (streamId : Nat) (settlement : Settlement) : Session Json :=
  { session with settled := session.settled ++ [(streamId, settlement)] }

/-- Send a request on the next stream; a socket that is not open rejects it at once. -/
def exchange (session : Session Json) (payload : Bytes) (noResponse : Bool) : Session Json :=
  if session.ready then
    let streamId := session.nextClientStreamId
    let session : Session Json := {
      session with
      nextClientStreamId := streamId + 4
      pending := session.pending.insert streamId { noResponse := noResponse } }
    session.send {
      recordType := recordStream
      fin := true
      streamId := streamId
      appError := 0
      payload := payload }
  else session

/-- The exchange of `authenticate`; a request that is too large never gets that far. -/
def authenticate (session : Session Json) (body : Bytes) : Session Json :=
  match encodeOpen destGateway 0 0x10 responseRequired body with
  | .error _ => session
  | .ok payload => session.exchange payload false

/-- The exchange of `command`, for a session that has a token. -/
def command (session : Session Json) (body : Bytes) (noResponse : Bool) : Session Json :=
  match encodeOpen destService 1 2 (if noResponse then responseNone else responseRequired) body with
  | .error _ => session
  | .ok payload => session.exchange payload noResponse

/-- Reject the exchange that waits on a stream, if there is one. -/
def reject (session : Session Json) (streamId : Nat) (fault : Fault) : Session Json :=
  match session.pending.lookup streamId with
  | none => session
  | some _ =>
      ({ session with pending := session.pending.erase streamId } : Session Json).settle streamId
        (.rejected fault)

def timeout (session : Session Json) (streamId : Nat) : Session Json :=
  session.reject streamId .timedOut

def handleClose (session : Session Json) (fault : Fault) : Session Json :=
  if session.connected = false ∧ session.closedBy.isSome then session
  else {
    session with
    connected := false
    closedBy := some fault
    settled := session.settled ++
      session.pending.entries.map fun entry => (entry.1, .rejected fault)
    pending := ∅
    pushes := ∅ }

/-- The response of a stream, when its last record has come. -/
def finishResponse (session : Session Json) (streamId : Nat) (pending : PendingStream) :
    Session Json × Option Fault :=
  let bytes := pending.chunks.flatten
  let session : Session Json := { session with pending := session.pending.erase streamId }
  if pending.noResponse then
    if bytes.length ≠ 0 then (session.settle streamId (.rejected .unexpectedData), none)
    else (session.settle streamId (.resolved none), none)
  else
    match decodeFrames bytes with
    | .error fault => (session, some fault)
    | .ok [frame] => (session.settle streamId (.resolved (some frame)), none)
    | .ok _ => (session.settle streamId (.rejected .notOneFrame), none)

def handleResponse (session : Session Json) (record : Envelope) : Session Json × Option Fault :=
  match session.pending.lookup record.streamId with
  | none => (session, none)
  | some pending =>
      let pending :=
        if 0 < record.payload.length then
          { pending with chunks := pending.chunks ++ [record.payload] }
        else pending
      if record.fin then session.finishResponse record.streamId pending
      else ({ session with pending := session.pending.insert record.streamId pending }, none)

def maxSafeInteger : Nat := 2 ^ 53 - 1

/-- The targets and the payload that the frame of a push carries. -/
def readPush (frames : List Frame) : Except Fault (List Nat × Json) :=
  match frames with
  | [frame] =>
      if frame.frameType ≠ frameOpen ∨ frame.dest ≠ destPeer ∨ frame.flags &&& frameEof = 0 then
        .error .illegalPush
      else if frame.body.length < 2 then .error .truncatedTargets
      else
        let count := BigEndian.readAt frame.body 0 2
        let start := 2 + count * 8
        if frame.body.length < start then .error .truncatedTargets
        else
          let targets := (List.range count).map fun index =>
            BigEndian.readAt frame.body (2 + index * 8) 8
          if ∃ target ∈ targets, maxSafeInteger < target then .error .wideInteger
          else
            match json (frame.body.drop start) with
            | none => .error .notJson
            | some payload => .ok (targets, payload)
  | _ => .error .illegalPush

def handlePush (session : Session Json) (record : Envelope) : Session Json × Option Fault :=
  let before := (session.pushes.lookup record.streamId).getD []
  let chunks := if 0 < record.payload.length then before ++ [record.payload] else before
  if record.fin = false then
    ({ session with pushes := session.pushes.insert record.streamId chunks }, none)
  else
    let session : Session Json := { session with pushes := session.pushes.erase record.streamId }
    match decodeFrames chunks.flatten >>= readPush json with
    | .error fault => (session, some fault)
    | .ok (targets, payload) =>
        let seq := session.pushSequence + 1
        let session : Session Json := {
          session with
          pushSequence := seq
          heard := session.heard ++ [{ seq := seq, targets := targets, payload := payload }] }
        let answer : Envelope := {
          recordType := recordStream
          fin := true
          streamId := record.streamId
          appError := 0
          payload := [] }
        (session.send answer, none)

/-- A record, and the error that handling it ends with. -/
def handleRecord (session : Session Json) (record : Envelope) : Session Json × Option Fault :=
  if record.recordType = recordEphemeral then (session, none)
  else if record.recordType = recordReset ∨ record.recordType = recordStop then
    let fault : Fault :=
      if record.recordType = recordReset then .reset record.appError else .stop record.appError
    let session := session.reject record.streamId fault
    if record.recordType = recordStop then
      (session.send {
        recordType := recordReset
        fin := false
        streamId := record.streamId
        appError := record.appError
        payload := [] }, none)
    else (session, none)
  else if record.recordType ≠ recordStream then (session, none)
  else if record.streamId % 4 = 0 then session.handleResponse record
  else if record.streamId % 4 = 1 then session.handlePush json record
  else (session, some .unidirectional)

/-- A message of the socket, of which there are none once it is not open; an error closes it. -/
def handleMessage (session : Session Json) (data : Option Bytes) : Session Json :=
  if session.ready = false then session
  else
    let handled :=
      match data with
      | none => (session, some .notBinary)
      | some bytes =>
          match decodeEnvelope bytes with
          | .error fault => (session, some fault)
          | .ok record => session.handleRecord json record
    match handled with
    | (session, none) => session
    | (session, some fault) => ({ session with ready := false } : Session Json).handleClose fault

def close (session : Session Json) : Session Json :=
  ({ session with ready := false } : Session Json).handleClose .loggedOut

/-- What happens to a session: calls, messages, timers, and the socket's own events. -/
inductive Event where
  | authenticate (body : Bytes)
  | command (body : Bytes) (noResponse : Bool)
  | message (data : Option Bytes)
  | timeout (streamId : Nat)
  | socketClosing
  | socketClosed
  | socketError
  | close
  deriving DecidableEq, Repr

def step (session : Session Json) : Event → Session Json
  | .authenticate body => session.authenticate body
  | .command body noResponse => session.command body noResponse
  | .message data => session.handleMessage json data
  | .timeout streamId => session.timeout streamId
  | .socketClosing => { session with ready := false }
  | .socketClosed => ({ session with ready := false } : Session Json).handleClose .socketClosed
  | .socketError => if session.ready then session else session.handleClose .socketFailed
  | .close => session.close

def run (session : Session Json) (events : List Event) : Session Json :=
  events.foldl (step json) session

section Frames

variable (session : Session Json)

/-- What is done to an exchange is done to what is pending and what is settled, and nothing else. -/
theorem reject_eq (streamId : Nat) (fault : Fault) : ∃ pending settled,
    session.reject streamId fault = { session with pending := pending, settled := settled } := by
  unfold reject
  split <;> exact ⟨_, _, rfl⟩

theorem finishResponse_eq (streamId : Nat) (waiting : PendingStream) : ∃ pending settled,
    (session.finishResponse streamId waiting).1 =
      { session with pending := pending, settled := settled } := by
  unfold finishResponse
  simp only
  split_ifs
  · exact ⟨_, _, rfl⟩
  · exact ⟨_, _, rfl⟩
  · cases decodeFrames waiting.chunks.flatten with
    | error fault => exact ⟨_, _, rfl⟩
    | ok frames => rcases frames with _ | ⟨frame, _ | ⟨other, more⟩⟩ <;> exact ⟨_, _, rfl⟩

theorem handleResponse_eq (record : Envelope) : ∃ pending settled,
    (session.handleResponse record).1 =
      { session with pending := pending, settled := settled } := by
  unfold handleResponse
  cases session.pending.lookup record.streamId with
  | none => exact ⟨_, _, rfl⟩
  | some waiting =>
      simp only
      split_ifs
      · exact session.finishResponse_eq _ _
      · exact session.finishResponse_eq _ _
      · exact ⟨_, _, rfl⟩
      · exact ⟨_, _, rfl⟩

end Frames

end Session

end LyuneGateway.Clients.Browser
