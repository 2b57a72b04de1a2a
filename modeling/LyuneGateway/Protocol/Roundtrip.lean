import LyuneGateway.Protocol.Codec
import Mathlib.Tactic.IntervalCases
import Mathlib.Tactic.SplitIfs

/-!
# What the encoders and the decoder agree on

An encoder writes the flag byte with whatever its reserved bits are, and looks
at nothing of a header but its frame type; legality is checked when a frame is
decoded. Legal headers come back as they were, and only they do.
-/

namespace LyuneGateway.Protocol

/-- The flag byte as an encoder is given it, with its five reserved bits. -/
structure PackedFlags extends Flags where
  reserved : Fin 32 := 0
  deriving DecidableEq, Repr

namespace PackedFlags

def toByte (flags : PackedFlags) : UInt8 :=
  flags.toFlags.toByte + 8 * UInt8.ofNat flags.reserved

theorem decode_toByte (flags : PackedFlags) :
    Flags.decode flags.toByte =
      if flags.reserved = 0 then .ok flags.toFlags else .error .reservedBitsSet := by
  rcases flags with ⟨⟨eof, report, unreliable⟩, reserved⟩
  revert eof report unreliable reserved
  decide

end PackedFlags

/-- A header as an encoder is given it; the length is a sixteen-bit field. -/
structure PackedHeader where
  header : FrameHeader
  reserved : Fin 32 := 0
  small : header.bodyLen ≤ maxBodySize

namespace PackedHeader

def initOpen (destKind : DestKind) (route : RouteId) (responseMode : ResponseMode)
    (flags : PackedFlags) (body : Bytes) (small : body.length ≤ maxBodySize) : PackedHeader where
  header := .initOpen destKind route responseMode flags.toFlags body.length
  reserved := flags.reserved
  small := small

def initData (flags : PackedFlags) (body : Bytes) (small : body.length ≤ maxBodySize) :
    PackedHeader where
  header := .initData flags.toFlags body.length
  reserved := flags.reserved
  small := small

def flags (packed : PackedHeader) : PackedFlags :=
  { packed.header.flags with reserved := packed.reserved }

def wire (packed : PackedHeader) : Bytes :=
  packed.header.frameType.toByte :: packed.flags.toByte ::
    (BigEndian.write 2 packed.header.bodyLen ++
      if packed.header.frameType = .openFrame then
        [packed.header.destKind.toByte, packed.header.responseMode.toByte, packed.header.group,
          packed.header.routeKey]
      else [])

def encode (packed : PackedHeader) (capacity : Nat) : Except FrameError Bytes :=
  if packed.header.frameType = .datagram then .error .datagramOnStream
  else if capacity < packed.header.headerSize then .error .bufferTooSmall
  else .ok packed.wire

/-- The headers that a decoder knows: no reserved bit, and on DATA neither a report nor a
destination. -/
structure Legal (packed : PackedHeader) : Prop where
  reserved : packed.reserved = 0
  report : packed.header.frameType = .data → packed.header.flags.report = false
  defaults : packed.header.frameType ≠ .openFrame →
    packed.header.destKind = .gateway ∧ packed.header.responseMode = .required ∧
    packed.header.group = 0 ∧ packed.header.routeKey = 0

end PackedHeader

namespace FrameEncoder

/-- A header and a body, written into a buffer of `capacity` bytes. -/
def write (capacity : Nat) (packed : PackedHeader) (body : Bytes) : Except FrameError Bytes := do
  let front ← packed.encode capacity
  if capacity < front.length + body.length then .error .bufferTooSmall
  else .ok (front ++ body)

def encodeOpen (capacity : Nat) (destKind : DestKind) (route : RouteId)
    (responseMode : ResponseMode) (flags : PackedFlags) (body : Bytes) :
    Except FrameError Bytes :=
  if small : body.length ≤ maxBodySize then
    write capacity (.initOpen destKind route responseMode flags body small) body
  else .error .bodyTooLarge

def encodeData (capacity : Nat) (flags : PackedFlags) (body : Bytes) : Except FrameError Bytes :=
  if small : body.length ≤ maxBodySize then write capacity (.initData flags body small) body
  else .error .bodyTooLarge

end FrameEncoder

namespace PackedHeader

variable {packed : PackedHeader} {capacity : Nat} {front : Bytes}

theorem encode_eq_ok : packed.encode capacity = .ok front ↔
    packed.header.frameType ≠ .datagram ∧ packed.header.headerSize ≤ capacity ∧
      packed.wire = front := by
  unfold encode
  split
  · simp_all
  · split
    · simp_all
    · simp_all

/-- Without reserved bits the bytes are those of the header. -/
theorem wire_eq (packed : PackedHeader) (clear : packed.reserved = 0) :
    packed.wire = packed.header.wire := by
  have same : packed.flags.toByte = packed.header.flags.toByte := by
    simp [PackedFlags.toByte, flags, clear]
  rw [wire, FrameHeader.wire, same]

theorem length_wire (onStream : packed.header.frameType ≠ .datagram) :
    packed.wire.length = packed.header.headerSize := by
  rw [← FrameHeader.length_wire onStream]
  simp [wire, FrameHeader.wire]

theorem Legal.encodable (legal : packed.Legal) (onStream : packed.header.frameType ≠ .datagram) :
    packed.header.Encodable :=
  ⟨onStream, packed.small, legal.report, legal.defaults⟩

/-- An encoded header comes back as it was exactly when it is legal. -/
theorem decode_encode (accepted : packed.encode capacity = .ok front) (rest : Bytes) :
    FrameHeader.decode (front ++ rest) = .ok packed.header ↔ packed.Legal := by
  obtain ⟨onStream, -, rfl⟩ := encode_eq_ok.mp accepted
  constructor
  · intro decoded
    have reads := FrameHeader.decode_eq_ok_iff.mp decoded
    refine ⟨?_, reads.report, reads.defaults⟩
    have flagsDecoded := reads.flags
    have second : (packed.wire ++ rest).getD 1 0 = packed.flags.toByte := by simp [wire]
    rw [second, PackedFlags.decode_toByte] at flagsDecoded
    by_contra reserved
    simp [flags, reserved] at flagsDecoded
  · intro legal
    rw [packed.wire_eq legal.reserved]
    exact FrameHeader.decode_wire (legal.encodable onStream) rest

/-- An encoded frame is parsed back as it was exactly when its header is legal. -/
theorem parse_write {body bytes : Bytes} (exact : packed.header.bodyLen = body.length)
    (written : FrameEncoder.write capacity packed body = .ok bytes) :
    parseExactFrame bytes = .ok { header := packed.header, body := body, bytes := bytes } ↔
      packed.Legal := by
  obtain ⟨front, accepted, complete⟩ := FrameHeader.bind_eq_ok.mp written
  split at complete
  · simp at complete
  cases complete
  have length : front.length = packed.header.headerSize := by
    obtain ⟨onStream, -, rfl⟩ := encode_eq_ok.mp accepted
    exact length_wire onStream
  rw [← decode_encode accepted body]
  refine ⟨fun parsed => (parseExactFrame_eq_ok_iff.mp parsed).1.decoded, fun decoded =>
    parseExactFrame_eq_ok_iff.mpr ⟨⟨decoded, ?_, ?_⟩, rfl⟩⟩
  · simp [FrameHeader.frameSize, length, exact]
  · simp [← length]

end PackedHeader

theorem FrameType.toByte_of_decode {byte : UInt8} {kind : FrameType}
    (decoded : FrameType.decode byte = .ok kind) : kind.toByte = byte := by
  unfold decode at decoded
  split_ifs at decoded with is
  all_goals
    cases decoded
    exact Eq.symm ‹byte = _›

theorem Flags.toByte_of_decode {byte : UInt8} {flags : Flags}
    (decoded : Flags.decode byte = .ok flags) : flags.toByte = byte := by
  unfold Flags.decode at decoded
  split at decoded
  · simp at decoded
  cases decoded
  rename_i small
  have is : byte = UInt8.ofNat byte.toNat := by simp
  have below : byte.toNat < 8 := not_le.mp small
  generalize byte.toNat = number at is below ⊢
  subst is
  interval_cases number <;> rfl

theorem DestKind.toByte_of_decode {byte : UInt8} {kind : DestKind}
    (decoded : DestKind.decode byte = .ok kind) : kind.toByte = byte := by
  unfold decode at decoded
  split_ifs at decoded with is
  all_goals
    cases decoded
    exact Eq.symm ‹byte = _›

theorem ResponseMode.toByte_of_decode {byte : UInt8} {mode : ResponseMode}
    (decoded : ResponseMode.decode byte = .ok mode) : mode.toByte = byte := by
  unfold decode at decoded
  split_ifs at decoded with is
  all_goals
    cases decoded
    exact Eq.symm ‹byte = _›

namespace FrameHeader

/-- The header of a buffer, written again. -/
theorem Reads.wire_eq {buf : Bytes} {header : FrameHeader} (reads : Reads buf header) :
    header.wire = buf.take header.headerSize := by
  have covered := reads.covered
  have four := four_le_headerSize reads.notDatagram
  obtain ⟨b0, b1, b2, b3, rest, rfl⟩ : ∃ b0 b1 b2 b3 rest, buf = b0 :: b1 :: b2 :: b3 :: rest := by
    rcases buf with _ | ⟨b0, _ | ⟨b1, _ | ⟨b2, _ | ⟨b3, rest⟩⟩⟩⟩
    all_goals first
      | exact ⟨_, _, _, _, _, rfl⟩
      | (simp at covered; omega)
  have kind : header.frameType.toByte = b0 := FrameType.toByte_of_decode reads.frameType
  have flags : header.flags.toByte = b1 := Flags.toByte_of_decode reads.flags
  have length : BigEndian.write 2 header.bodyLen = [b2, b3] := by
    rw [reads.bodyLen]
    exact BigEndian.write_read [b2, b3]
  by_cases isOpen : header.frameType = .openFrame
  · have size : header.headerSize = 8 := by rw [headerSize, isOpen]; rfl
    obtain ⟨dest, mode, group, route⟩ := reads.destination isOpen
    obtain ⟨b4, b5, b6, b7, rest, rfl⟩ :
        ∃ b4 b5 b6 b7 more, rest = b4 :: b5 :: b6 :: b7 :: more := by
      rcases rest with _ | ⟨b4, _ | ⟨b5, _ | ⟨b6, _ | ⟨b7, more⟩⟩⟩⟩
      all_goals first
        | exact ⟨_, _, _, _, _, rfl⟩
        | (simp at covered; omega)
    have destByte : header.destKind.toByte = b4 := DestKind.toByte_of_decode dest
    have modeByte : header.responseMode.toByte = b5 := ResponseMode.toByte_of_decode mode
    have groupByte : header.group = b6 := group
    have routeByte : header.routeKey = b7 := route
    simp [wire, size, isOpen, ← kind, ← flags, length, destByte, modeByte, groupByte, routeByte]
  · have isData : header.frameType = .data := by
      cases is : header.frameType
      · exact absurd is isOpen
      · rfl
      · exact absurd is reads.notDatagram
    have size : header.headerSize = 4 := by rw [headerSize, isData]; rfl
    simp [wire, size, isData, ← kind, ← flags, length]

/-- A decoded header, as an encoder is given it. -/
def Reads.packed {buf : Bytes} {header : FrameHeader} (reads : Reads buf header) :
    PackedHeader where
  header := header
  small := by
    have bound := BigEndian.readAt_lt buf 2 2
    rw [← reads.bodyLen] at bound
    exact Nat.le_of_lt_succ bound

theorem Reads.legal {buf : Bytes} {header : FrameHeader} (reads : Reads buf header) :
    reads.packed.Legal :=
  ⟨rfl, reads.report, reads.defaults⟩

/-- A decoded header is encoded to exactly the bytes it was decoded from. -/
theorem Reads.encode_eq {buf : Bytes} {header : FrameHeader} (reads : Reads buf header)
    {capacity : Nat} (room : header.headerSize ≤ capacity) :
    reads.packed.encode capacity = .ok (buf.take header.headerSize) :=
  PackedHeader.encode_eq_ok.mpr
    ⟨reads.notDatagram, room, (reads.packed.wire_eq rfl).trans reads.wire_eq⟩

end FrameHeader

/-- A parsed frame is encoded to exactly the bytes it was parsed from. -/
theorem Frame.WellFormed.write_eq {frame : Frame} (wellFormed : frame.WellFormed)
    (reads : FrameHeader.Reads frame.bytes frame.header) :
    FrameEncoder.write frame.bytes.length reads.packed frame.body = .ok frame.bytes := by
  have exact := wellFormed.exact
  have front : (frame.bytes.take frame.header.headerSize).length = frame.header.headerSize :=
    List.length_take_of_le reads.covered
  have whole : (frame.bytes.take frame.header.headerSize).length + frame.body.length =
      frame.bytes.length := by
    rw [front, wellFormed.body, List.length_drop]
    have := reads.covered
    omega
  rw [FrameEncoder.write, reads.encode_eq reads.covered, FrameHeader.ok_bind, whole,
    if_neg (lt_irrefl _), wellFormed.body, List.take_append_drop]

namespace FrameEncoder

variable {capacity : Nat} {flags : PackedFlags} {body bytes : Bytes}

/-- An OPEN comes back as it was unless a reserved bit was set. -/
theorem parse_encodeOpen {destKind : DestKind} {route : RouteId} {responseMode : ResponseMode}
    (encoded : encodeOpen capacity destKind route responseMode flags body = .ok bytes) :
    parseExactFrame bytes = .ok {
      header := .initOpen destKind route responseMode flags.toFlags body.length
      body := body
      bytes := bytes } ↔ flags.reserved = 0 := by
  unfold encodeOpen at encoded
  split at encoded
  · rename_i small
    have back := (PackedHeader.initOpen destKind route responseMode flags body small).parse_write
      rfl encoded
    refine back.trans ⟨fun legal => legal.reserved, fun clear => ⟨clear, ?_, ?_⟩⟩
    · intro isData
      simp [PackedHeader.initOpen, FrameHeader.initOpen] at isData
    · intro notOpen
      simp [PackedHeader.initOpen, FrameHeader.initOpen] at notOpen
  · simp at encoded

/-- A DATA frame comes back as it was unless it asked for a report or a reserved bit was set. -/
theorem parse_encodeData (encoded : encodeData capacity flags body = .ok bytes) :
    parseExactFrame bytes = .ok {
      header := .initData flags.toFlags body.length
      body := body
      bytes := bytes } ↔ flags.reserved = 0 ∧ flags.report = false := by
  unfold encodeData at encoded
  split at encoded
  · rename_i small
    have back := (PackedHeader.initData flags body small).parse_write rfl encoded
    exact back.trans
      ⟨fun legal => ⟨legal.reserved, legal.report rfl⟩, fun ⟨clear, silent⟩ =>
        ⟨clear, fun _ => silent, fun _ => ⟨rfl, rfl, rfl, rfl⟩⟩⟩
  · simp at encoded

end FrameEncoder

/-- Encoders and decoder are inverse to each other on the legal headers: what an encoder accepted
comes back as it was exactly when its header is legal, and whatever is decoded is legal and encoded
again to the bytes it was decoded from. -/
theorem frame_codec_agrees :
    (∀ (packed : PackedHeader) (capacity : Nat) (front rest : Bytes),
      packed.encode capacity = .ok front →
        (FrameHeader.decode (front ++ rest) = .ok packed.header ↔ packed.Legal)) ∧
    (∀ (packed : PackedHeader) (capacity : Nat) (body bytes : Bytes),
      packed.header.bodyLen = body.length →
      FrameEncoder.write capacity packed body = .ok bytes →
        (parseExactFrame bytes = .ok { header := packed.header, body := body, bytes := bytes } ↔
          packed.Legal)) ∧
    (∀ (capacity : Nat) (destKind : DestKind) (route : RouteId) (responseMode : ResponseMode)
      (flags : PackedFlags) (body bytes : Bytes),
      FrameEncoder.encodeOpen capacity destKind route responseMode flags body = .ok bytes →
        (parseExactFrame bytes = .ok {
          header := .initOpen destKind route responseMode flags.toFlags body.length
          body := body
          bytes := bytes } ↔ flags.reserved = 0)) ∧
    (∀ (capacity : Nat) (flags : PackedFlags) (body bytes : Bytes),
      FrameEncoder.encodeData capacity flags body = .ok bytes →
        (parseExactFrame bytes = .ok {
          header := .initData flags.toFlags body.length
          body := body
          bytes := bytes } ↔ flags.reserved = 0 ∧ flags.report = false)) ∧
    (∀ (buf : Bytes) (header : FrameHeader), FrameHeader.decode buf = .ok header →
      ∃ packed : PackedHeader, packed.header = header ∧ packed.Legal ∧
        packed.encode buf.length = .ok (buf.take header.headerSize)) ∧
    (∀ (data : Bytes) (frame : Frame), parseExactFrame data = .ok frame →
      ∃ packed : PackedHeader, packed.header = frame.header ∧ packed.Legal ∧
        packed.header.bodyLen = frame.body.length ∧
        FrameEncoder.write data.length packed frame.body = .ok data) ∧
    (∀ (maxFrameSize : Nat) (rest : Bytes) (frame : Frame),
      FrameScanner.next maxFrameSize rest = .ok (some frame) →
      ∃ packed : PackedHeader, packed.header = frame.header ∧ packed.Legal ∧
        packed.header.bodyLen = frame.body.length ∧
        FrameEncoder.write frame.bytes.length packed frame.body = .ok frame.bytes ∧
        frame.bytes = rest.take frame.header.frameSize) := by
  have again : ∀ frame : Frame, frame.WellFormed →
      ∃ packed : PackedHeader, packed.header = frame.header ∧ packed.Legal ∧
        packed.header.bodyLen = frame.body.length ∧
        FrameEncoder.write frame.bytes.length packed frame.body = .ok frame.bytes := by
    intro frame wellFormed
    have reads := FrameHeader.decode_eq_ok_iff.mp wellFormed.decoded
    refine ⟨reads.packed, rfl, reads.legal, ?_, wellFormed.write_eq reads⟩
    have exact := wellFormed.exact
    rw [wellFormed.body, List.length_drop, exact, FrameHeader.frameSize]
    exact (Nat.add_sub_cancel_left ..).symm
  refine ⟨fun packed capacity front rest accepted => packed.decode_encode accepted rest,
    fun packed capacity body bytes => PackedHeader.parse_write,
    fun capacity destKind route responseMode flags body bytes => FrameEncoder.parse_encodeOpen,
    fun capacity flags body bytes => FrameEncoder.parse_encodeData, ?_, ?_, ?_⟩
  · intro buf header decoded
    have reads := FrameHeader.decode_eq_ok_iff.mp decoded
    exact ⟨reads.packed, rfl, reads.legal, reads.encode_eq reads.covered⟩
  · intro data frame parsed
    obtain ⟨wellFormed, rfl⟩ := parseExactFrame_eq_ok_iff.mp parsed
    exact again frame wellFormed
  · intro maxFrameSize rest frame scanned
    obtain ⟨packed, same, legal, length, written⟩ :=
      again frame (FrameScanner.next_wellFormed scanned)
    exact ⟨packed, same, legal, length, written,
      (FrameScanner.next_eq_some_iff.mp scanned).2.2.2.1⟩

/-- A DATA frame that asks for a report is encoded and then refused. -/
theorem data_report_refused :
    FrameEncoder.encodeData 64 { report := true } [0x78] = .ok [1, 2, 0, 1, 0x78] ∧
      parseExactFrame [1, 2, 0, 1, 0x78] = .error .reservedBitsSet := by
  decide

end LyuneGateway.Protocol
