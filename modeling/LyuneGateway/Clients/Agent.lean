import LyuneGateway.Protocol.Prefixes
import LyuneGateway.Protocol.Reassembly
import LyuneGateway.Protocol.Roundtrip

/-!
# The frames of the validation agent

The agent has a codec of its own: it reads frames field by field off a stream
that may end anywhere, and writes the frames of a request. It keeps the
enumerated bytes as they are and checks each of them where it is read.
-/

namespace LyuneGateway.Clients.Agent

open Protocol

/-- What reading and writing fails with; the first two are those of the reader underneath. -/
inductive WireError where
  | eof
  | unexpectedEof
  | unknownFrameType
  | unknownDestKind
  | unknownResponse
  | reservedBits
  | bodyTooLarge
  deriving DecidableEq, Repr

def frameOpen : UInt8 := 0
def frameData : UInt8 := 1
def flagEof : UInt8 := 1
def flagReport : UInt8 := 2
def knownFlags : UInt8 := 7
def destGateway : UInt8 := 0
def destService : UInt8 := 1
def responseRequired : UInt8 := 0
def responseNone : UInt8 := 1

structure Header where
  frameType : UInt8
  flags : UInt8 := 0
  bodyLen : Nat := 0
  destKind : UInt8 := 0
  response : UInt8 := 0
  group : UInt8 := 0
  routeKey : UInt8 := 0
  deriving DecidableEq, Repr

structure Frame where
  header : Header
  body : Bytes
  deriving DecidableEq, Repr

def validateDest (dest : UInt8) : Except WireError Unit :=
  if dest = 0 ∨ dest = 1 ∨ dest = 2 ∨ dest = 3 then .ok () else .error .unknownDestKind

def validateResponse (response : UInt8) : Except WireError Unit :=
  if response = 0 ∨ response = 1 then .ok () else .error .unknownResponse

/-- The bits that must not be set: those without a meaning, and `report` on DATA. -/
def Header.reservedSet (header : Header) : Bool :=
  header.flags &&& ~~~knownFlags ≠ 0 ∨
    header.frameType = frameData ∧ header.flags &&& flagReport ≠ 0

def newOpen (dest group routeKey response flags : UInt8) (body : Bytes) : Except WireError Frame :=
  if maxBodySize < body.length then .error .bodyTooLarge
  else do
    validateDest dest
    validateResponse response
    .ok {
      header := {
        frameType := frameOpen
        flags := flags
        bodyLen := body.length
        destKind := dest
        response := response
        group := group
        routeKey := routeKey }
      body := body }

def newData (flags : UInt8) (body : Bytes) : Except WireError Frame :=
  if maxBodySize < body.length then .error .bodyTooLarge
  else .ok {
    header := { frameType := frameData, flags := flags, bodyLen := body.length }
    body := body }

/-- Exactly `count` bytes of a stream and what follows them; only a stream that ends at once has
come to its end in order. -/
def readFull (count : Nat) (stream : Bytes) : Except WireError (Bytes × Bytes) :=
  if count ≤ stream.length then .ok (stream.take count, stream.drop count)
  else if stream = [] then .error .eof
  else .error .unexpectedEof

/-- The four bytes that follow on an OPEN. -/
def readSuffix (header : Header) (stream : Bytes) : Except WireError (Header × Bytes) :=
  if header.frameType = frameOpen then do
    let suffix ← readFull 4 stream
    validateDest (suffix.1.getD 0 0)
    validateResponse (suffix.1.getD 1 0)
    .ok ({
      header with
      destKind := suffix.1.getD 0 0
      response := suffix.1.getD 1 0
      group := suffix.1.getD 2 0
      routeKey := suffix.1.getD 3 0 }, suffix.2)
  else if header.frameType = frameData then .ok (header, stream)
  else .error .unknownFrameType

/-- The header at the start of a stream, and what follows it. -/
def readHeader (stream : Bytes) : Except WireError (Header × Bytes) := do
  let front ← readFull 4 stream
  let header : Header := {
    frameType := front.1.getD 0 0
    flags := front.1.getD 1 0
    bodyLen := BigEndian.readAt front.1 2 2 }
  if header.reservedSet then .error .reservedBits
  else readSuffix header front.2

/-- The next frame of a stream, and what follows it. -/
def readFrame (stream : Bytes) : Except WireError (Frame × Bytes) := do
  let front ← readHeader stream
  let body ← readFull front.1.bodyLen front.2
  .ok ({ header := front.1, body := body.1 }, body.2)

/-- The frames of a response, read until the stream ends; the end itself is no error. -/
def readFrames : Nat → Bytes → List Frame × Option WireError
  | 0, _ => ([], none)
  | fuel + 1, stream =>
      match readFrame stream with
      | .error .eof => ([], none)
      | .error problem => ([], some problem)
      | .ok (frame, rest) =>
          let more := readFrames fuel rest
          (frame :: more.1, more.2)

/-- Every frame takes bytes, so there are fewer of them than bytes. -/
def readResponse (stream : Bytes) : List Frame × Option WireError :=
  readFrames (stream.length + 1) stream

/-- The bytes a frame is written as; the length on the wire is that of the body. -/
def writeFrame (frame : Frame) : Except WireError Bytes :=
  let header := frame.header
  if maxBodySize < frame.body.length then .error .bodyTooLarge
  else if header.reservedSet then .error .reservedBits
  else if header.frameType = frameOpen then do
    validateDest header.destKind
    validateResponse header.response
    .ok (header.frameType :: header.flags :: (BigEndian.write 2 frame.body.length ++
      [header.destKind, header.response, header.group, header.routeKey]) ++ frame.body)
  else if header.frameType = frameData then
    .ok (header.frameType :: header.flags :: BigEndian.write 2 frame.body.length ++ frame.body)
  else .error .unknownFrameType

/-- The granted identity, its lifetime in seconds, and the bytes of the service. -/
def parseAuthGrant (body : Bytes) : Except WireError (Nat × Nat × Bytes) :=
  if body.length < 12 then .error .unexpectedEof
  else .ok (BigEndian.readAt body 0 8, BigEndian.readAt body 8 4, body.drop 12)

/-- The identities a push is for, and its payload. -/
def parseTargetList (body : Bytes) : Except WireError (List Nat × Bytes) :=
  if body.length < 2 then .error .unexpectedEof
  else
    let count := BigEndian.readAt body 0 2
    if body.length < 2 + count * 8 then .error .unexpectedEof
    else .ok ((List.range count).map fun index => BigEndian.readAt body (2 + index * 8) 8,
      body.drop (2 + count * 8))

/-- What is asked of one exchange; `resetInputAfter` counts frames, and zero is never. -/
structure ExchangeRequest where
  control : Bool := false
  group : UInt8 := 0
  routeKey : UInt8 := 0
  noResponse : Bool := false
  resetInputAfter : Nat := 0
  deriving DecidableEq, Repr

/-- How the sending half of an exchange was left. -/
inductive Ending where
  | closed
  | reset
  | failed (problem : WireError)
  deriving DecidableEq, Repr

namespace ExchangeRequest

def dest (request : ExchangeRequest) : UInt8 :=
  if request.control then destGateway else destService

def serviceGroup (request : ExchangeRequest) : UInt8 := if request.control then 0 else request.group

def response (request : ExchangeRequest) : UInt8 :=
  if request.noResponse then responseNone else responseRequired

/-- The frame of the chunk at `index`, of which `rest` is still to come. -/
def frame (request : ExchangeRequest) (index : Nat) (chunk : Bytes) (rest : List Bytes) :
    Except WireError Frame :=
  let flags := if rest = [] then flagEof else 0
  if index = 0 then
    newOpen request.dest request.serviceGroup request.routeKey request.response flags chunk
  else newData flags chunk

/-- The chunks from `index` on, written to the stream one after the other. -/
def send (request : ExchangeRequest) (index : Nat) : List Bytes → Bytes × Ending
  | [] => ([], .closed)
  | chunk :: rest =>
      match request.frame index chunk rest >>= writeFrame with
      | .error problem => ([], .failed problem)
      | .ok bytes =>
          if request.resetInputAfter = index + 1 then (bytes, .reset)
          else
            let more := request.send (index + 1) rest
            (bytes ++ more.1, more.2)

end ExchangeRequest

/-- A frame of the gateway, as the agent has it. -/
def Header.of (header : FrameHeader) : Header where
  frameType := header.frameType.toByte
  flags := header.flags.toByte
  bodyLen := header.bodyLen
  destKind := header.destKind.toByte
  response := header.responseMode.toByte
  group := header.group
  routeKey := header.routeKey

def Frame.of (frame : Protocol.Frame) : Frame where
  header := .of frame.header
  body := frame.body

section Bytes

private theorem each_byte {p : UInt8 → Prop} (each : ∀ n : Fin 256, p (UInt8.ofFin n))
    (byte : UInt8) : p byte := by
  simpa using each byte.toFin

theorem decode_flags (byte : UInt8) :
    Flags.decode byte = if byte &&& ~~~knownFlags ≠ 0 then .error .reservedBitsSet
      else .ok {
        eof := byte.toNat.testBit 0
        report := byte &&& flagReport ≠ 0
        unreliable := byte.toNat.testBit 2 } := by
  revert byte
  exact each_byte (by decide +kernel)

theorem decode_dest (byte : UInt8) :
    validateDest byte = .ok () ↔ ∃ kind, DestKind.decode byte = .ok kind := by
  unfold validateDest DestKind.decode
  split_ifs <;> simp_all

theorem decode_response (byte : UInt8) :
    validateResponse byte = .ok () ↔ ∃ mode, ResponseMode.decode byte = .ok mode := by
  unfold validateResponse ResponseMode.decode
  split_ifs <;> simp_all

end Bytes

section Reading

variable {stream taken rest : Bytes} {count : Nat}

theorem readFull_eq_ok :
    readFull count stream = .ok (taken, rest) ↔
      count ≤ stream.length ∧ taken = stream.take count ∧ rest = stream.drop count := by
  unfold readFull
  split_ifs with covered ended
  · simp [covered, eq_comm]
  · simp [covered]
  · simp [covered]

theorem readFull_eq_eof : readFull count stream = .error .eof ↔ stream = [] ∧ 0 < count := by
  unfold readFull
  split_ifs with covered ended
  · constructor
    · intro other
      cases other
    · rintro ⟨rfl, positive⟩
      simp at covered
      omega
  · subst ended
    simpa [Nat.pos_iff_ne_zero] using covered
  · simp [ended]

theorem exists_of_four (covered : 4 ≤ stream.length) :
    ∃ b0 b1 b2 b3 more, stream = b0 :: b1 :: b2 :: b3 :: more := by
  rcases stream with _ | ⟨b0, _ | ⟨b1, _ | ⟨b2, _ | ⟨b3, more⟩⟩⟩⟩
  all_goals first
    | exact ⟨_, _, _, _, _, rfl⟩
    | simp at covered

/-- The first four bytes of a header, as the agent takes them. -/
def Header.front (b0 b1 b2 b3 : UInt8) : Header where
  frameType := b0
  flags := b1
  bodyLen := BigEndian.read [b2, b3]

theorem readHeader_cons (b0 b1 b2 b3 : UInt8) (more : Bytes) :
    readHeader (b0 :: b1 :: b2 :: b3 :: more) =
      if (Header.front b0 b1 b2 b3).reservedSet then .error .reservedBits
      else readSuffix (.front b0 b1 b2 b3) more := by
  simp only [readHeader, readFull, bind, Except.bind, Header.front, BigEndian.readAt]
  rfl

/-- The flags that both sides let through. -/
theorem reservedSet_eq_false {header : Header} :
    header.reservedSet = false ↔ ∃ flags, Flags.decode header.flags = .ok flags ∧
      (header.frameType = frameData → flags.report = false) := by
  rw [decode_flags]
  by_cases known : header.flags &&& ~~~knownFlags = 0
  · simp [Header.reservedSet, known, imp_iff_not_or]
  · simp [Header.reservedSet, known]

theorem readSuffix_eq_ok {front header : Header} :
    readSuffix front stream = .ok (header, rest) ↔
      (front.frameType = frameData ∧ header = front ∧ rest = stream) ∨
      (front.frameType = frameOpen ∧ 4 ≤ stream.length ∧ rest = stream.drop 4 ∧
        (∃ kind, DestKind.decode (stream.getD 0 0) = .ok kind) ∧
        (∃ mode, ResponseMode.decode (stream.getD 1 0) = .ok mode) ∧
        header = {
          front with
          destKind := stream.getD 0 0
          response := stream.getD 1 0
          group := stream.getD 2 0
          routeKey := stream.getD 3 0 }) := by
  have same (i : Nat) (inside : i < 4) : (stream.take 4).getD i 0 = stream.getD i 0 := by
    simp [inside]
  unfold readSuffix
  split_ifs with isOpen isData
  · simp only [FrameHeader.bind_eq_ok, Prod.exists, readFull_eq_ok, Except.ok.injEq,
      Prod.mk.injEq, ← decode_dest, ← decode_response]
    constructor
    · rintro ⟨_, _, ⟨covered, rfl, rfl⟩, ⟨⟩, dest, ⟨⟩, response, rfl, rfl⟩
      simp only [same 0 (by decide), same 1 (by decide), same 2 (by decide),
        same 3 (by decide)] at dest response ⊢
      exact Or.inr ⟨isOpen, covered, trivial, dest, response, trivial⟩
    · rintro (⟨isData, -⟩ | ⟨-, covered, rfl, dest, response, rfl⟩)
      · rw [isOpen] at isData
        cases isData
      · refine ⟨_, _, ⟨covered, rfl, rfl⟩, (), ?_, (), ?_, ?_, rfl⟩
        · rwa [same 0 (by decide)]
        · rwa [same 1 (by decide)]
        · simp only [same 0 (by decide), same 1 (by decide), same 2 (by decide),
            same 3 (by decide)]
  · simp [isData, frameData, frameOpen, eq_comm]
  · simp [isOpen, isData]

/-- The agent reads a header where the gateway decodes one, and the same. -/
theorem readHeader_eq_ok {header : Header} :
    readHeader stream = .ok (header, rest) ↔
      ∃ decoded, FrameHeader.decode stream = .ok decoded ∧ header = .of decoded ∧
        rest = stream.drop decoded.headerSize := by
  constructor
  · intro read
    have covered : 4 ≤ stream.length := by
      rw [readHeader, FrameHeader.bind_eq_ok] at read
      obtain ⟨front, taken, -⟩ := read
      exact (readFull_eq_ok.mp taken).1
    obtain ⟨b0, b1, b2, b3, more, rfl⟩ := exists_of_four covered
    rw [readHeader_cons] at read
    split_ifs at read with reserved
    obtain ⟨flags, flagsDecoded, report⟩ :=
      reservedSet_eq_false.mp (Bool.eq_false_of_not_eq_true reserved)
    have flagByte : flags.toByte = b1 := Flags.toByte_of_decode flagsDecoded
    have length : BigEndian.read [b2, b3] =
      BigEndian.readAt (b0 :: b1 :: b2 :: b3 :: more) 2 2 := rfl
    rcases readSuffix_eq_ok.mp read with ⟨isData, rfl, rfl⟩ |
      ⟨isOpen, long, rfl, ⟨kind, dest⟩, ⟨mode, response⟩, rfl⟩
    · have is : b0 = 1 := isData
      subst is
      refine ⟨{ frameType := .data, flags := flags, bodyLen := BigEndian.read [b2, b3] },
        FrameHeader.decode_eq_ok_iff.mpr ⟨rfl, by simp, by simp [FrameHeader.headerSize,
          FrameType.headerSize, dataHeaderSize], flagsDecoded, fun _ => report isData, length,
          by simp, by simp⟩, ?_, rfl⟩
      simp [Header.of, Header.front, FrameType.toByte, flagByte, DestKind.toByte,
        ResponseMode.toByte]
    · have is : b0 = 0 := isOpen
      subst is
      refine ⟨{
          frameType := .openFrame
          flags := flags
          bodyLen := BigEndian.read [b2, b3]
          destKind := kind
          responseMode := mode
          group := more.getD 2 0
          routeKey := more.getD 3 0 },
        FrameHeader.decode_eq_ok_iff.mpr ⟨rfl, by simp, ?_, flagsDecoded, by simp, length,
          fun _ => ⟨dest, response, rfl, rfl⟩, by simp⟩, ?_, rfl⟩
      · simpa [FrameHeader.headerSize, FrameType.headerSize, openHeaderSize] using long
      · simp [Header.of, Header.front, FrameType.toByte, flagByte,
          DestKind.toByte_of_decode dest, ResponseMode.toByte_of_decode response]
  · rintro ⟨decoded, answer, rfl, rfl⟩
    have reads := FrameHeader.decode_eq_ok_iff.mp answer
    have covered := (FrameHeader.four_le_headerSize reads.notDatagram).trans reads.covered
    obtain ⟨b0, b1, b2, b3, more, rfl⟩ := exists_of_four covered
    have kind : decoded.frameType.toByte = b0 := FrameType.toByte_of_decode reads.frameType
    have flags : decoded.flags.toByte = b1 := Flags.toByte_of_decode reads.flags
    have legal : (Header.front b0 b1 b2 b3).reservedSet = false := by
      refine reservedSet_eq_false.mpr ⟨decoded.flags, reads.flags, fun isData => reads.report ?_⟩
      cases is : decoded.frameType
      · rw [is] at kind
        cases kind.trans isData
      · rfl
      · exact absurd is reads.notDatagram
    rw [readHeader_cons, legal, if_neg (by simp), readSuffix_eq_ok]
    have length : BigEndian.read [b2, b3] = decoded.bodyLen := reads.bodyLen.symm
    cases is : decoded.frameType with
    | openFrame =>
        right
        have size : decoded.headerSize = 8 := by rw [FrameHeader.headerSize, is]; rfl
        obtain ⟨dest, response, group, route⟩ := reads.destination is
        have long := reads.covered
        rw [size] at long ⊢
        refine ⟨kind.symm.trans (by rw [is]; rfl), by simpa using long, rfl, ⟨_, dest⟩,
          ⟨_, response⟩, ?_⟩
        rw [Header.of, kind, flags, group, route, DestKind.toByte_of_decode dest,
          ResponseMode.toByte_of_decode response, ← length]
        rfl
    | data =>
        left
        have size : decoded.headerSize = 4 := by rw [FrameHeader.headerSize, is]; rfl
        obtain ⟨dest, response, group, route⟩ := reads.defaults (by simp [is])
        refine ⟨kind.symm.trans (by rw [is]; rfl), ?_, by rw [size]; rfl⟩
        rw [Header.of, kind, flags, dest, response, group, route, ← length]
        rfl
    | datagram => exact absurd is reads.notDatagram

theorem frameSize_le_max {decoded : FrameHeader} (reads : FrameHeader.Reads stream decoded) :
    decoded.frameSize ≤ maxFrameSize := by
  have small := reads.packed.small
  have short : decoded.headerSize ≤ openHeaderSize := by
    rw [FrameHeader.headerSize]
    cases decoded.frameType <;> decide
  simp only [FrameHeader.frameSize, maxFrameSize]
  exact Nat.add_le_add short small

/-- The agent reads a frame where the gateway cuts one off, and the same. -/
theorem readFrame_eq_ok {frame : Frame} :
    readFrame stream = .ok (frame, rest) ↔
      ∃ found, FrameScanner.next maxFrameSize stream = .ok (some found) ∧
        frame = .of found ∧ rest = stream.drop found.bytes.length := by
  have within (decoded : FrameHeader) (covered : decoded.headerSize ≤ stream.length) :
      decoded.bodyLen ≤ (stream.drop decoded.headerSize).length ↔
        decoded.frameSize ≤ stream.length := by
    rw [List.length_drop, FrameHeader.frameSize]
    omega
  simp only [readFrame, FrameHeader.bind_eq_ok, Prod.exists, readHeader_eq_ok, readFull_eq_ok,
    FrameScanner.next_eq_some_iff, Except.ok.injEq, Prod.mk.injEq]
  constructor
  · rintro ⟨_, _, ⟨decoded, answer, rfl, rfl⟩, _, _, ⟨long, rfl, rfl⟩, rfl, rfl⟩
    have reads := FrameHeader.decode_eq_ok_iff.mp answer
    have complete := (within decoded reads.covered).mp long
    refine ⟨{
      header := decoded
      body := (stream.take decoded.frameSize).drop decoded.headerSize
      bytes := stream.take decoded.frameSize },
      ⟨answer, frameSize_le_max reads, complete, rfl, rfl⟩, ?_, ?_⟩
    · simp [Frame.of, List.drop_take, FrameHeader.frameSize, Header.of]
    · rw [List.length_take, min_eq_left complete, List.drop_drop]
      rfl
  · rintro ⟨found, ⟨answer, -, complete, bytes, body⟩, rfl, rfl⟩
    have reads := FrameHeader.decode_eq_ok_iff.mp answer
    refine ⟨_, _, ⟨found.header, answer, rfl, rfl⟩, _, _,
      ⟨(within found.header reads.covered).mpr complete, rfl, rfl⟩, ?_, ?_⟩
    · simp [Frame.of, body, bytes, List.drop_take, FrameHeader.frameSize, Header.of]
    · rw [bytes, List.length_take, min_eq_left complete, List.drop_drop]
      rfl

/-- Streams that end before a frame, or behind one of the parts of its header. -/
def Cut (stream : Bytes) : Prop :=
  ∃ header : FrameHeader, header.Encodable ∧ stream <+: header.wire ∧
    stream.length < header.frameSize ∧
    (stream.length = 0 ∨ stream.length = 4 ∨ stream.length = header.headerSize)

theorem bind_eq_error {ε α β : Type} {first : Except ε α} {next : α → Except ε β}
    {problem : ε} :
    (first >>= next) = .error problem ↔
      first = .error problem ∨ ∃ value, first = .ok value ∧ next value = .error problem := by
  cases first with
  | error other => simp [bind, Except.bind]
  | ok value => simp [bind, Except.bind]

theorem validateDest_ne_eof (dest : UInt8) : validateDest dest ≠ .error .eof := by
  unfold validateDest
  split_ifs <;> simp

theorem validateResponse_ne_eof (response : UInt8) : validateResponse response ≠ .error .eof := by
  unfold validateResponse
  split_ifs <;> simp

theorem readSuffix_eq_eof {front : Header} :
    readSuffix front stream = .error .eof ↔ front.frameType = frameOpen ∧ stream = [] := by
  unfold readSuffix
  split_ifs with isOpen isData
  · simp only [bind_eq_error, readFull_eq_eof, validateDest_ne_eof, validateResponse_ne_eof,
      reduceCtorEq, and_false, exists_false, or_false, isOpen, true_and, Nat.ofNat_pos, and_true]
  · simp [isOpen]
  · simp [isOpen]

/-- The headers of which only the first part is there. -/
theorem readHeader_eq_eof :
    readHeader stream = .error .eof ↔ stream = [] ∨
      ∃ header : FrameHeader, header.Encodable ∧ header.frameType = .openFrame ∧
        stream = header.wire.take 4 := by
  constructor
  · intro ended
    by_cases covered : 4 ≤ stream.length
    · obtain ⟨b0, b1, b2, b3, more, rfl⟩ := exists_of_four covered
      rw [readHeader_cons] at ended
      split_ifs at ended with reserved
      · cases ended
      obtain ⟨isOpen, rfl⟩ := readSuffix_eq_eof.mp ended
      obtain ⟨flags, flagsDecoded, -⟩ :=
        reservedSet_eq_false.mp (Bool.eq_false_of_not_eq_true reserved)
      have flagByte : flags.toByte = b1 := Flags.toByte_of_decode flagsDecoded
      have kind : b0 = 0 := isOpen
      have length : BigEndian.write 2 (BigEndian.read [b2, b3]) = [b2, b3] :=
        BigEndian.write_read [b2, b3]
      have small : BigEndian.read [b2, b3] ≤ maxBodySize := by
        have below := BigEndian.read_lt [b2, b3]
        simp only [List.length_cons, List.length_nil] at below
        unfold maxBodySize
        omega
      refine Or.inr ⟨{
        frameType := .openFrame
        flags := flags
        bodyLen := BigEndian.read [b2, b3] }, ⟨by simp, small, by simp, by simp⟩, rfl, ?_⟩
      simp [FrameHeader.wire, length, flagByte, kind, FrameType.toByte]
    · rw [readHeader, bind_eq_error, readFull_eq_eof] at ended
      obtain ⟨empty, -⟩ | ⟨front, taken, -⟩ := ended
      · exact Or.inl empty
      · exact absurd (readFull_eq_ok.mp taken).1 covered
  · rintro (rfl | ⟨header, fit, isOpen, rfl⟩)
    · rfl
    · obtain ⟨b2, b3, length⟩ : ∃ b2 b3, BigEndian.write 2 header.bodyLen = [b2, b3] :=
        ⟨_, _, rfl⟩
      have first : header.wire.take 4 = [0, header.flags.toByte, b2, b3] := by
        simp [FrameHeader.wire, length, isOpen, FrameType.toByte]
      have legal : (Header.front 0 header.flags.toByte b2 b3).reservedSet = false :=
        reservedSet_eq_false.mpr ⟨header.flags, Flags.decode_toByte _, by simp [Header.front,
          frameData]⟩
      rw [first, readHeader_cons, legal, if_neg (by simp)]
      exact readSuffix_eq_eof.mpr ⟨rfl, rfl⟩

/-- A stream that ends behind a part of a header is one that has come to its end in order. -/
theorem readFrame_eq_eof : readFrame stream = .error .eof ↔ Cut stream := by
  rw [readFrame, bind_eq_error, readHeader_eq_eof]
  constructor
  · rintro ((rfl | ⟨header, fit, isOpen, rfl⟩) | ⟨front, read, ended⟩)
    · exact ⟨.initData {} 0, ⟨by simp [FrameHeader.initData], Nat.zero_le _,
        by simp [FrameHeader.initData], by simp [FrameHeader.initData]⟩, List.nil_prefix,
        FrameHeader.frameSize_pos _, Or.inl rfl⟩
    · have size : header.headerSize = 8 := by rw [FrameHeader.headerSize, isOpen]; rfl
      have length := FrameHeader.length_wire fit.notDatagram
      have four : (header.wire.take 4).length = 4 := by rw [List.length_take, length, size]; rfl
      refine ⟨header, fit, List.take_prefix _ _, ?_, Or.inr (Or.inl four)⟩
      rw [four, FrameHeader.frameSize, size]
      omega
    · obtain ⟨header, after⟩ := front
      obtain ⟨decoded, answer, rfl, rest⟩ := readHeader_eq_ok.mp read
      rw [bind_eq_error, readFull_eq_eof] at ended
      obtain ⟨nothing, body⟩ | ⟨taken, -, other⟩ := ended
      · have reads := FrameHeader.decode_eq_ok_iff.mp answer
        have long : stream.length ≤ decoded.headerSize := by
          exact List.drop_eq_nil_iff.mp (rest.symm.trans nothing)
        have exact := le_antisymm long reads.covered
        refine ⟨decoded, ⟨reads.notDatagram, reads.packed.small, reads.report, reads.defaults⟩,
          ?_, ?_, Or.inr (Or.inr exact)⟩
        · rw [reads.wire_eq, List.take_of_length_le long]
        · rw [exact, FrameHeader.frameSize]
          exact Nat.lt_add_of_pos_right body
      · cases other
  · rintro ⟨header, fit, front, short, place⟩
    have length := FrameHeader.length_wire fit.notDatagram
    by_cases whole : stream.length = header.headerSize
    · right
      obtain rfl : stream = header.wire := front.eq_of_length (whole.trans length.symm)
      have answer := FrameHeader.decode_wire fit []
      rw [List.append_nil] at answer
      refine ⟨_, readHeader_eq_ok.mpr ⟨header, answer, rfl, rfl⟩, ?_⟩
      rw [bind_eq_error, readFull_eq_eof]
      left
      refine ⟨List.drop_of_length_le length.le, ?_⟩
      rw [whole, FrameHeader.frameSize] at short
      exact Nat.pos_of_lt_add_right short
    · left
      obtain empty | four | full := place
      · exact Or.inl (List.eq_nil_of_length_eq_zero empty)
      · right
        refine ⟨header, fit, ?_, ?_⟩
        · cases is : header.frameType
          · rfl
          · rw [FrameHeader.headerSize, is] at whole
            exact absurd four whole
          · exact absurd is fit.notDatagram
        · rw [← four, ← List.prefix_iff_eq_take]
          exact front
      · exact absurd full whole

/-- A whole frame is cut off whatever follows it. -/
theorem next_of_wire {header : FrameHeader} (fit : header.Encodable) {body : Bytes}
    (exact : body.length = header.bodyLen) (more : Bytes) :
    FrameScanner.next maxFrameSize (header.wire ++ body ++ more) =
      .ok (some { header := header, body := body, bytes := header.wire ++ body }) := by
  have answer : FrameHeader.decode (header.wire ++ body ++ more) = .ok header := by
    rw [List.append_assoc]
    exact FrameHeader.decode_wire fit _
  have front := FrameHeader.length_wire fit.notDatagram
  have length : (header.wire ++ body).length = header.frameSize := by
    rw [List.length_append, front, exact, FrameHeader.frameSize]
  refine FrameScanner.next_eq_some_iff.mpr
    ⟨answer, frameSize_le_max (FrameHeader.decode_eq_ok_iff.mp answer), ?_, ?_, ?_⟩
  · rw [List.length_append, length]
    exact Nat.le_add_right _ _
  · rw [← length, List.take_left]
  · rw [← front, List.drop_left]

/-- The gateway waits for the rest where a header is cut. -/
theorem Cut.next (cut : Cut stream) : FrameScanner.next maxFrameSize stream = .ok none := by
  obtain ⟨header, fit, ⟨tail, front⟩, short, -⟩ := cut
  have whole := next_of_wire fit (List.length_replicate (n := header.bodyLen) (a := 0)) []
  rw [← front, List.append_nil, List.append_assoc] at whole
  cases answer : FrameScanner.next maxFrameSize stream with
  | error problem =>
      rw [FrameScanner.next_append_of_error _ answer] at whole
      cases whole
  | ok found =>
      cases found with
      | none => rfl
      | some found =>
          rw [FrameScanner.next_append_of_some _ answer] at whole
          obtain ⟨-, -, complete, -⟩ := FrameScanner.next_eq_some_iff.mp answer
          cases whole
          exact absurd complete (not_le.mpr short)

theorem readFrames_of_error {fuel : Nat} {problem : WireError}
    (failed : readFrame stream = .error problem) :
    readFrames (fuel + 1) stream = ([], if problem = .eof then none else some problem) := by
  cases problem <;> simp [readFrames, failed]

theorem readFrames_eq {fuel : Nat} (enough : stream.length < fuel) :
    (readFrames fuel stream).1 = ((frameScanner maxFrameSize).tokens stream).1.map .of ∧
      ((readFrames fuel stream).2 = none ↔
        ∃ rest, ((frameScanner maxFrameSize).tokens stream).2 = .more rest ∧ Cut rest) := by
  induction fuel generalizing stream with
  | zero => omega
  | succ fuel ih =>
      cases read : readFrame stream with
      | ok front =>
          obtain ⟨found, answer, frame, rest⟩ := readFrame_eq_ok.mp read
          have scanned : (frameScanner maxFrameSize).next stream =
              .ok (some (found, found.bytes.length)) := by
            simp [answer, Except.map]
          have progress := (frameScanner maxFrameSize).progress scanned
          have shorter : (stream.drop found.bytes.length).length < fuel := by
            rw [List.length_drop]
            omega
          obtain ⟨frames, ending⟩ := ih shorter
          rw [Scanner.tokens_of_next scanned, readFrames, read]
          simp only [frame, rest, frames, ending, List.map_cons, and_self]
      | error problem =>
          rw [readFrames_of_error read]
          have ended : (if problem = .eof then none else some problem) = none ↔ Cut stream := by
            rw [← readFrame_eq_eof, read]
            simp
          cases answer : FrameScanner.next maxFrameSize stream with
          | error malformed =>
              have scanned : (frameScanner maxFrameSize).next stream = .error malformed := by
                simp [answer, Except.map]
              rw [Scanner.tokens, Scanner.fold_of_error scanned]
              refine ⟨rfl, ended.trans ⟨fun cut => ?_, ?_⟩⟩
              · rw [cut.next] at answer
                cases answer
              · rintro ⟨rest, ⟨⟩, -⟩
          | ok found =>
              cases found with
              | none =>
                  have scanned : (frameScanner maxFrameSize).next stream = .ok none := by
                    simp [answer, Except.map]
                  rw [Scanner.tokens, Scanner.fold_of_none scanned]
                  refine ⟨rfl, ended.trans ⟨fun cut => ⟨stream, rfl, cut⟩, ?_⟩⟩
                  rintro ⟨rest, ⟨⟩, cut⟩
                  exact cut
              | some found =>
                  rw [readFrame_eq_ok.mpr ⟨found, answer, rfl, rfl⟩] at read
                  cases read

/-- The agent has of a response the frames that the gateway's own scanner cuts off it. To the agent
the response has come to its end in order also where a header has begun, or no byte of its body is
there. -/
theorem response_read_as_cut (stream : Bytes) :
    (readResponse stream).1 = ((frameScanner maxFrameSize).tokens stream).1.map .of ∧
      ((readResponse stream).2 = none ↔
        ∃ rest, ((frameScanner maxFrameSize).tokens stream).2 = .more rest ∧ Cut rest) :=
  readFrames_eq (Nat.lt_succ_self _)

end Reading

section Parsing

variable {body rest : Bytes} {targets : List Nat} {destId ttlSeconds : Nat}

/-- The agent finds the grant that the gateway has put before the bytes of the service. -/
theorem parseAuthGrant_eq_ok :
    parseAuthGrant body = .ok (destId, ttlSeconds, rest) ↔
      AuthGrant.decode body = .ok { destId := destId, ttlSeconds := ttlSeconds } ∧
        rest = body.drop AuthGrant.size := by
  unfold parseAuthGrant AuthGrant.decode
  simp only [AuthGrant.size]
  by_cases short : body.length < 12
  · simp [short]
  · simp [short, eq_comm, and_assoc]

end Parsing

/-- Frames whose bytes are those of their header and body. -/
structure Whole (frame : Protocol.Frame) : Prop where
  fit : frame.header.Encodable
  exact : frame.body.length = frame.header.bodyLen
  bytes : frame.bytes = frame.header.wire ++ frame.body

/-- A handler that takes what it is given is given whole frames as they are. -/
theorem fold_whole {σ : Type} {onFrame : σ → Protocol.Frame → σ × Bool}
    (accepts : ∀ state frame, (onFrame state frame).2 = true)
    (delivery : Framing.Delivery σ) {frames : List Protocol.Frame}
    (whole : ∀ frame ∈ frames, Whole frame) :
    ∃ final, (frameScanner maxFrameSize).fold (Framing.Delivery.take onFrame) delivery
        (frames.flatMap Protocol.Frame.bytes) = (final, .more []) ∧
      final.frames = delivery.frames ++ frames := by
  induction frames generalizing delivery with
  | nil => exact ⟨delivery, Scanner.fold_of_none rfl, by simp⟩
  | cons frame frames ih =>
      obtain ⟨⟨fit, exact, bytes⟩, whole⟩ := List.forall_mem_cons.mp whole
      have cut := next_of_wire fit exact (frames.flatMap Protocol.Frame.bytes)
      rw [← bytes, ← List.flatMap_cons] at cut
      have scanned : (frameScanner maxFrameSize).next
          ((frame :: frames).flatMap Protocol.Frame.bytes) =
            .ok (some (frame, frame.bytes.length)) := by
        rw [frameScanner_next, cut]
        rfl
      have accepted : (delivery.take onFrame frame).2 = true := accepts _ _
      obtain ⟨final, scan, delivered⟩ := ih (delivery.take onFrame frame).1 whole
      refine ⟨final, ?_, ?_⟩
      · rw [Scanner.fold_of_accepted scanned accepted, List.flatMap_cons, List.drop_left]
        exact scan
      · simp [delivered, Framing.Delivery.take]

namespace ExchangeRequest

variable (request : ExchangeRequest)

/-- The frame that the gateway is to have of the chunk at `index`. -/
def asFrame (index : Nat) (chunk : Bytes) (rest : List Bytes) : Protocol.Frame :=
  let flags : Flags := if rest = [] then .last else {}
  if index = 0 then
    openFrame (if request.control then .gateway else .service)
      { group := request.serviceGroup, routeKey := request.routeKey }
      (if request.noResponse then .none else .required) flags chunk
  else dataFrame flags chunk

def asFrames (index : Nat) : List Bytes → List Protocol.Frame
  | [] => []
  | chunk :: rest => request.asFrame index chunk rest :: asFrames (index + 1) rest

theorem toByte_dest :
    (if request.control then DestKind.gateway else .service).toByte = request.dest := by
  unfold dest
  split_ifs <;> rfl

theorem toByte_response :
    (if request.noResponse then ResponseMode.none else .required).toByte = request.response := by
  unfold response
  split_ifs <;> rfl

theorem toByte_flags (rest : List Bytes) :
    (if rest = [] then Flags.last else {}).toByte = if rest = [] then flagEof else 0 := by
  split_ifs <;> rfl

/-- A chunk is written as its frame, unless it is too long for one. -/
theorem frame_write (index : Nat) (chunk : Bytes) (rest : List Bytes) :
    (request.frame index chunk rest >>= writeFrame) =
      if maxBodySize < chunk.length then .error .bodyTooLarge
      else .ok (request.asFrame index chunk rest).bytes := by
  have dest : validateDest request.dest = .ok () :=
    (decode_dest _).mpr ⟨_, by rw [← toByte_dest, DestKind.decode_toByte]⟩
  have response : validateResponse request.response = .ok () :=
    (decode_response _).mpr ⟨_, by rw [← toByte_response, ResponseMode.decode_toByte]⟩
  have legal (kind dest response group routeKey : UInt8) (length : Nat) :
      Header.reservedSet ⟨kind, if rest = [] then flagEof else 0, length, dest, response, group,
        routeKey⟩ = false := by
    refine reservedSet_eq_false.mpr ⟨if rest = [] then .last else {}, ?_, fun _ => ?_⟩
    · rw [← toByte_flags, Flags.decode_toByte]
    · split_ifs <;> rfl
  by_cases large : maxBodySize < chunk.length
  · by_cases first : index = 0
    · simp [frame, newOpen, first, large, bind, Except.bind]
    · simp [frame, newData, first, large, bind, Except.bind]
  · by_cases first : index = 0
    · simp only [frame, newOpen, first, large, dest, response, FrameHeader.ok_bind, ↓reduceIte,
        writeFrame, legal, Bool.false_eq_true]
      simp [asFrame, openFrame, FrameHeader.wire, FrameHeader.initOpen, toByte_dest,
        toByte_response, toByte_flags, FrameType.toByte, frameOpen]
    · simp only [frame, newData, first, large, FrameHeader.ok_bind, ↓reduceIte, writeFrame,
        legal, Bool.false_eq_true, frameData, frameOpen]
      simp [asFrame, dataFrame, first, FrameHeader.wire, FrameHeader.initData, toByte_flags,
        FrameType.toByte]

/-- How far the chunks from `index` on have been sent when the sending half is left: all of them,
up to the frame after which it was to be reset, or up to a chunk that no frame can take. -/
def Left (index : Nat) (chunks : List Bytes) (count : Nat) : Ending → Prop
  | .closed => count = chunks.length ∧
      ¬ (index < request.resetInputAfter ∧ request.resetInputAfter ≤ index + count)
  | .reset => 0 < count ∧ request.resetInputAfter = index + count
  | .failed problem => problem = .bodyTooLarge ∧
      (∃ chunk, chunks[count]? = some chunk ∧ maxBodySize < chunk.length) ∧
      ¬ (index < request.resetInputAfter ∧ request.resetInputAfter ≤ index + count)

theorem send_eq (index : Nat) (chunks : List Bytes) :
    ∃ count ≤ chunks.length,
      (request.send index chunks).1 =
        ((request.asFrames index chunks).take count).flatMap Protocol.Frame.bytes ∧
      (∀ chunk ∈ chunks.take count, chunk.length ≤ maxBodySize) ∧
      request.Left index chunks count (request.send index chunks).2 := by
  induction chunks generalizing index with
  | nil => exact ⟨0, le_rfl, rfl, by simp, rfl, by omega⟩
  | cons chunk rest ih =>
      by_cases large : maxBodySize < chunk.length
      · refine ⟨0, Nat.zero_le _, ?_, by simp, ?_⟩
        · rw [send, frame_write, if_pos large]
          rfl
        · rw [send, frame_write, if_pos large]
          exact ⟨rfl, ⟨chunk, rfl, large⟩, by omega⟩
      by_cases last : request.resetInputAfter = index + 1
      · refine ⟨1, Nat.succ_pos _, ?_, by simpa using large, ?_⟩
        · rw [send, frame_write, if_neg large]
          simp [last, asFrames]
        · rw [send, frame_write, if_neg large]
          simp [last, Left]
      obtain ⟨count, within, written, small, left⟩ := ih (index + 1)
      refine ⟨count + 1, Nat.succ_le_succ within, ?_, ?_, ?_⟩
      · rw [send, frame_write, if_neg large]
        simp [last, asFrames, written]
      · simpa using ⟨not_lt.mp large, small⟩
      · rw [send, frame_write, if_neg large]
        simp only [last, ↓reduceIte]
        cases ending : (request.send (index + 1) rest).2 with
        | closed =>
            rw [ending] at left
            obtain ⟨all, never⟩ := left
            exact ⟨by rw [all, List.length_cons], by omega⟩
        | reset =>
            rw [ending] at left
            obtain ⟨positive, place⟩ := left
            exact ⟨Nat.succ_pos _, by omega⟩
        | failed problem =>
            rw [ending] at left
            obtain ⟨rfl, tooLong, never⟩ := left
            exact ⟨rfl, by simpa using tooLong, by omega⟩

theorem asFrame_whole (index : Nat) {chunk : Bytes} (small : chunk.length ≤ maxBodySize)
    (rest : List Bytes) : Whole (request.asFrame index chunk rest) := by
  unfold asFrame
  split_ifs
  all_goals
    refine ⟨⟨?_, small, ?_, ?_⟩, rfl, rfl⟩
    all_goals simp [openFrame, dataFrame, FrameHeader.initOpen, FrameHeader.initData, Flags.last]

theorem asFrames_whole (index : Nat) {chunks : List Bytes} {count : Nat}
    (small : ∀ chunk ∈ chunks.take count, chunk.length ≤ maxBodySize) :
    ∀ frame ∈ (request.asFrames index chunks).take count, Whole frame := by
  induction chunks generalizing index count with
  | nil => simp [asFrames]
  | cons chunk rest ih =>
      cases count with
      | zero => simp
      | succ count =>
          obtain ⟨short, small⟩ := List.forall_mem_cons.mp small
          exact List.forall_mem_cons.mpr
            ⟨request.asFrame_whole index short rest, ih (index + 1) small⟩

/-- However the network cuts what the agent has sent, the gateway's reassembly hands over the frames
of the chunks that were sent, one for one and in their order, and has no byte left. -/
theorem request_cut_as_sent (chunks pieces : List Bytes) {σ : Type}
    (onFrame : σ → Protocol.Frame → σ × Bool) (state : σ)
    (accepts : ∀ state frame, (onFrame state frame).2 = true)
    (arrives : pieces.flatten = (request.send 0 chunks).1) :
    let drained := Framing.drainChunks onFrame (fun _ => true) maxFrameSize { state := state } []
      pieces
    ∃ count ≤ chunks.length,
      drained.1.frames = (request.asFrames 0 chunks).take count ∧ drained.2 = ([], .clean) ∧
      request.Left 0 chunks count (request.send 0 chunks).2 := by
  obtain ⟨count, within, written, small, left⟩ := request.send_eq 0 chunks
  obtain ⟨final, scan, frames⟩ := fold_whole accepts { state := state }
    (request.asFrames_whole 0 small)
  obtain ⟨ends, spill⟩ := @Framing.drainChunks_eq_parseAll _ onFrame maxFrameSize
    { state := state } [] pieces rfl rfl
  rw [List.nil_append, arrives, written] at ends spill
  rw [Framing.parseAll, scan] at ends
  obtain ⟨delivered, outcome⟩ := Prod.mk.inj ends
  refine ⟨count, within, ?_, Prod.ext (spill final [] scan) outcome, left⟩
  rw [delivered, frames]
  rfl

/-- Two chunks in three pieces, the header of the second of them cut in two. -/
theorem request_cut_as_sent_pieces :
    ∃ count ≤ 2, (Framing.drainChunks (fun (_ : Unit) _ => ((), true)) (fun _ => true) maxFrameSize
        { state := () } [] [[0, 0, 0, 2, 1, 0, 7, 9], [5, 6, 1, 1], [0, 1, 8]]).1.frames =
          (ExchangeRequest.asFrames { group := 7, routeKey := 9 } 0 [[5, 6], [8]]).take count ∧
      count = 2 := by
  obtain ⟨count, within, frames, -, all, -⟩ := request_cut_as_sent { group := 7, routeKey := 9 }
    [[5, 6], [8]] [[0, 0, 0, 2, 1, 0, 7, 9], [5, 6, 1, 1], [0, 1, 8]]
    (fun (_ : Unit) _ => ((), true)) () (fun _ _ => rfl) (by decide +kernel)
  exact ⟨count, within, frames, all⟩

end ExchangeRequest

end LyuneGateway.Clients.Agent
