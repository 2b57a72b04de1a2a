import LyuneGateway.Clients.Browser
import LyuneGateway.Protocol.Roundtrip
import Mathlib.Tactic.SplitIfs

/-!
# What the browser and the gateway say to each other

The browser decodes every record the gateway may encode, and sends nothing that
the gateway would not take. It is the more lenient of the two: it does not look
at what a record of a type may not carry, nor at the enumerated bytes of a frame.
-/

namespace LyuneGateway.Clients.Browser

open Protocol (FrameHeader FrameType parseExactFrame)

/-- A record of the gateway, as the browser has it. -/
def Envelope.of (record : Wss.Record) : Envelope where
  recordType := record.recordType.toByte
  fin := record.fin
  streamId := record.streamId
  appError := record.appErrorCode
  payload := record.payload

/-- A frame of the gateway, as the browser has it. -/
def Frame.of (frame : Protocol.Frame) : Frame where
  frameType := frame.header.frameType.toByte
  flags := frame.header.flags.toByte
  dest := frame.header.destKind.toByte
  response := frame.header.responseMode.toByte
  group := frame.header.group
  route := frame.header.routeKey
  body := frame.body

section Envelopes

variable {record : Wss.Record} {bytes : Bytes} {envelope : Envelope}

theorem encodeEnvelope_of : encodeEnvelope (.of record) = record.header ++ record.payload := by
  simp only [encodeEnvelope, Envelope.of, Wss.Record.header, List.cons_append, List.append_assoc]
  rfl

theorem decodeEnvelope_small (decoded : decodeEnvelope bytes = .ok envelope) :
    envelope.streamId < 2 ^ 64 ∧ envelope.appError < 2 ^ 32 := by
  unfold decodeEnvelope at decoded
  split_ifs at decoded
  cases decoded
  exact ⟨BigEndian.readAt_lt bytes 4 8, BigEndian.readAt_lt bytes 12 4⟩

end Envelopes

section Frames

/-- A message that the gateway takes: the end of a stream, its reset, or one OPEN that is all the
request there is. -/
def Taken (message : Bytes) : Prop :=
  ∃ record, Wss.decode message = .ok record ∧
    (record.payload = [] ∨ ∃ frame, parseExactFrame record.payload = .ok frame ∧
      frame.header.isOpen ∧ frame.header.isLast)

/-- A number that is too wide for its field is written as what is left of it there. -/
theorem decode_encodeEnvelope {record : Wss.Record} (code : record.appErrorCode < 2 ^ 32)
    (valid : record.validate = .ok ()) (small : record.payload.length ≤ Wss.maxPayloadSize)
    (lasting : record.recordType ≠ .ephemeral) :
    Wss.decode (encodeEnvelope (.of record)) =
      .ok { record with streamId := record.streamId % 2 ^ 64 } := by
  have same : BigEndian.write 8 (record.streamId % 2 ^ 64) = BigEndian.write 8 record.streamId :=
    BigEndian.write_congr (Nat.mod_mod _ _)
  refine @Wss.Record.decode_of_encode _ _ (Wss.headerSize + record.payload.length)
    ⟨Nat.mod_lt _ (by decide), code⟩ (Wss.Record.encode_eq_ok.mpr ⟨?_, small, le_rfl, ?_⟩)
  · cases kind : record.recordType with
    | ephemeral => exact absurd kind lasting
    | stream => simpa [Wss.Record.validate, kind] using valid
    | reset => simpa [Wss.Record.validate, kind] using valid
    | stop => simpa [Wss.Record.validate, kind] using valid
  · rw [encodeEnvelope_of, Wss.Record.header, Wss.Record.header, same]

theorem wellFormed_of_wire {header : FrameHeader} (fit : header.Encodable) {body : Bytes}
    (exact : body.length = header.bodyLen) :
    Protocol.Frame.WellFormed ⟨header, body, header.wire ++ body⟩ := by
  have front := FrameHeader.length_wire fit.notDatagram
  refine ⟨FrameHeader.decode_wire fit body, ?_, ?_⟩
  · simp only [List.length_append, front, exact, FrameHeader.frameSize]
  · simp only [← front, List.drop_left]

theorem encodeOpen_exact {dest : Protocol.DestKind} {response : Protocol.ResponseMode}
    {group route : UInt8} {body payload : Bytes}
    (encoded : encodeOpen dest.toByte group route response.toByte body = .ok payload) :
    parseExactFrame payload = .ok (Protocol.openFrame dest { group := group, routeKey := route }
      response .last body) ∧ payload.length ≤ Wss.maxPayloadSize := by
  unfold encodeOpen at encoded
  split_ifs at encoded with large
  cases encoded
  have fit : (FrameHeader.initOpen dest { group := group, routeKey := route } response .last
      body.length).Encodable :=
    ⟨by simp [FrameHeader.initOpen], not_lt.mp large, by simp [FrameHeader.initOpen],
      by simp [FrameHeader.initOpen]⟩
  refine ⟨Protocol.parseExactFrame_eq_ok_iff.mpr ⟨wellFormed_of_wire fit rfl, ?_⟩, ?_⟩
  · simp [Protocol.openFrame, FrameHeader.wire, FrameHeader.initOpen, FrameType.toByte,
      Protocol.Flags.toByte, Protocol.Flags.last, frameOpen, frameEof]
  · have small := not_lt.mp large
    simp only [Wss.maxPayloadSize, Protocol.maxFrameSize, Protocol.openHeaderSize,
      Protocol.maxBodySize, List.length_cons, List.length_append, BigEndian.length_write,
      List.length_nil]
    omega

/-- The frame of the gateway is the one frame that the browser decodes of its bytes. -/
theorem decodeFrames_bytes {frame : Protocol.Frame} (wellFormed : frame.WellFormed) :
    decodeFrames frame.bytes = .ok [.of frame] := by
  obtain ⟨answer, exact, body⟩ := wellFormed
  have reads := FrameHeader.decode_eq_ok_iff.mp answer
  have four := (FrameHeader.four_le_headerSize reads.notDatagram).trans reads.covered
  have given : frame.bytes ≠ [] := by
    intro empty
    simp [empty] at four
  have kind := Protocol.FrameType.toByte_of_decode reads.frameType
  have flags := Protocol.Flags.toByte_of_decode reads.flags
  have length : headerLength (frame.bytes.getD 0 0) = frame.header.headerSize := by
    rw [← kind, FrameHeader.headerSize]
    cases is : frame.header.frameType with
    | datagram => exact absurd is reads.notDatagram
    | _ => rfl
  have total : frame.header.headerSize + BigEndian.readAt frame.bytes 2 2 = frame.bytes.length := by
    rw [← reads.bodyLen, exact]
    rfl
  have fields : ({
      frameType := frame.bytes.getD 0 0
      flags := frame.bytes.getD 1 0
      dest := if frame.bytes.getD 0 0 = frameOpen then frame.bytes.getD 4 0 else 0
      response := if frame.bytes.getD 0 0 = frameOpen then frame.bytes.getD 5 0 else 0
      group := if frame.bytes.getD 0 0 = frameOpen then frame.bytes.getD 6 0 else 0
      route := if frame.bytes.getD 0 0 = frameOpen then frame.bytes.getD 7 0 else 0
      body := frame.bytes.drop frame.header.headerSize } : Frame) = .of frame := by
    rw [← kind]
    cases is : frame.header.frameType with
    | datagram => exact absurd is reads.notDatagram
    | data =>
        obtain ⟨dest, response, group, route⟩ := reads.defaults (by simp [is])
        rw [Frame.of, is, flags, dest, response, group, route, body]
        rfl
    | openFrame =>
        obtain ⟨dest, response, group, route⟩ := reads.destination is
        rw [Frame.of, is, flags, group, route, body, Protocol.DestKind.toByte_of_decode dest,
          Protocol.ResponseMode.toByte_of_decode response]
        rfl
  have positive := frame.header.headerSize_pos
  obtain ⟨fuel, enough⟩ : ∃ fuel, frame.bytes.length = fuel + 1 :=
    Nat.exists_eq_succ_of_ne_zero (by omega)
  rw [decodeFrames, decodeFramesFor, if_neg given, if_neg (not_lt.mpr four)]
  simp only [length, total]
  rw [if_neg (by omega), List.drop_length, List.take_length, fields, enough]
  rfl

end Frames

end LyuneGateway.Clients.Browser
