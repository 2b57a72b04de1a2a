import LyuneGateway.Protocol.Frame

/-!
# Records of a WebSocket connection

A WebSocket has no streams of its own. Every binary message of it therefore
carries one record: a header of twenty bytes that says what happens on which
stream, and the bytes of that stream.
-/

namespace LyuneGateway.Wss

def version : UInt8 := 1
def headerSize : Nat := 20
def maxPayloadSize : Nat := Protocol.maxFrameSize
def maxRecordSize : Nat := headerSize + maxPayloadSize

inductive EnvelopeError where
  | truncated
  | trailingBytes
  | unsupportedVersion
  | unknownRecordType
  | reservedBitsSet
  | payloadTooLarge
  | invalidStreamRecord
  | invalidControlRecord
  | invalidEphemeralRecord
  deriving DecidableEq, Repr

inductive RecordType where
  | stream
  | reset
  | stop
  | ephemeral
  deriving DecidableEq, Repr

namespace RecordType

def toByte : RecordType → UInt8
  | stream => 1
  | reset => 2
  | stop => 3
  | ephemeral => 4

def decode (byte : UInt8) : Except EnvelopeError RecordType :=
  if byte = 1 then .ok stream
  else if byte = 2 then .ok reset
  else if byte = 3 then .ok stop
  else if byte = 4 then .ok ephemeral
  else .error .unknownRecordType

end RecordType

structure Record where
  recordType : RecordType
  fin : Bool := false
  streamId : Nat := 0
  appErrorCode : Nat := 0
  payload : Bytes := []
  deriving DecidableEq, Repr

namespace Record

/-- What a record of each type may not carry. -/
def validate (record : Record) : Except EnvelopeError Unit :=
  match record.recordType with
  | .stream => if record.appErrorCode ≠ 0 then .error .invalidStreamRecord else .ok ()
  | .reset | .stop =>
      if record.fin ∨ record.payload.length ≠ 0 then .error .invalidControlRecord else .ok ()
  | .ephemeral =>
      if record.fin ∨ record.streamId ≠ 0 ∨ record.appErrorCode ≠ 0 then
        .error .invalidEphemeralRecord
      else .ok ()

/-- The twenty bytes before the payload. -/
def header (record : Record) : Bytes :=
  version :: record.recordType.toByte :: (if record.fin then 1 else 0) :: 0 ::
    (BigEndian.write 8 record.streamId ++ BigEndian.write 4 record.appErrorCode ++
      BigEndian.write 4 record.payload.length)

def encodeHeader (record : Record) : Except EnvelopeError Bytes :=
  match record.validate with
  | .error error => .error error
  | .ok () =>
      if maxPayloadSize < record.payload.length then .error .payloadTooLarge
      else .ok record.header

@[simp] theorem length_header (record : Record) : record.header.length = headerSize := by
  simp [header, headerSize]

end Record

/-- The bytes of a record in a buffer of `capacity` bytes. -/
def encode (capacity : Nat) (record : Record) : Except EnvelopeError Bytes := do
  let header ← record.encodeHeader
  if capacity < headerSize + record.payload.length then .error .truncated
  else .ok (header ++ record.payload)

/-- The one record of a message; a message that holds more or less is refused. -/
def decode (bytes : Bytes) : Except EnvelopeError Record :=
  if bytes.length < headerSize then .error .truncated
  else if bytes.getD 0 0 ≠ version then .error .unsupportedVersion
  else do
    let recordType ← RecordType.decode (bytes.getD 1 0)
    if 2 ≤ (bytes.getD 2 0).toNat ∨ bytes.getD 3 0 ≠ 0 then .error .reservedBitsSet
    else
      let payloadLen := BigEndian.readAt bytes 16 4
      if maxPayloadSize < payloadLen then .error .payloadTooLarge
      else if bytes.length < headerSize + payloadLen then .error .truncated
      else if bytes.length ≠ headerSize + payloadLen then .error .trailingBytes
      else
        let record : Record := {
          recordType := recordType
          fin := bytes.getD 2 0 = 1
          streamId := BigEndian.readAt bytes 4 8
          appErrorCode := BigEndian.readAt bytes 12 4
          payload := bytes.drop headerSize }
        record.validate
        .ok record

end LyuneGateway.Wss
