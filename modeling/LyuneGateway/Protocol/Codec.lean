import LyuneGateway.Lib.Scanner
import LyuneGateway.Protocol.Frame

/-!
# Cutting bytes into frames

`FrameScanner.next` takes the next complete frame off a run of bytes, and
`parseExactFrame` accepts a buffer that holds exactly one frame. Both are driven
by the header alone, so their answers never change when more bytes arrive.
-/

namespace LyuneGateway.Protocol

/-- A decoded frame: its header, its body, and the bytes of both. -/
structure Frame where
  header : FrameHeader
  body : Bytes
  bytes : Bytes
  deriving DecidableEq, Repr

namespace FrameScanner

/-- The next complete frame at the start of `rest`, or nothing when bytes are missing. -/
def next (maxFrameSize : Nat) (rest : Bytes) : Except FrameError (Option Frame) :=
  match rest with
  | [] => .ok none
  | first :: _ => do
      let frameType ← FrameType.decode first
      if frameType = .datagram then .error .datagramOnStream
      else
        let headerSize := frameType.headerSize
        if rest.length < headerSize then .ok none
        else
          let header ← FrameHeader.decode (rest.take headerSize)
          let total := header.frameSize
          if maxFrameSize < total then .error .frameTooLarge
          else if rest.length < total then .ok none
          else .ok (some {
            header := header
            body := (rest.take total).drop headerSize
            bytes := rest.take total })

end FrameScanner

/-- The frame a buffer consists of, with no byte to spare. -/
def parseExactFrame (data : Bytes) : Except FrameError Frame := do
  let header ← FrameHeader.decode data
  if data.length ≠ header.frameSize then .error .frameLengthMismatch
  else .ok { header := header, body := data.drop header.headerSize, bytes := data }

/-- A control exchange of the gateway: one OPEN with `eof` that expects no response. -/
def encodeControlFrame (capacity : Nat) (kind : ControlType) (body : Bytes) :
    Except FrameError Bytes := do
  if maxBodySize < body.length then .error .bodyTooLarge
  else
    let header := FrameHeader.initOpen .gateway { routeKey := kind.toByte } .none Flags.last
      body.length
    let front ← header.encode capacity
    if capacity < front.length + body.length then .error .bufferTooSmall
    else .ok (front ++ body)

/-- A control frame as its receiver has it. -/
def controlFrame (kind : ControlType) (mode : ResponseMode) (body : Bytes) : Frame where
  header := .initOpen .gateway { routeKey := kind.toByte } mode Flags.last body.length
  body := body
  bytes :=
    (FrameHeader.initOpen .gateway { routeKey := kind.toByte } mode Flags.last body.length).wire ++
      body

/-- An OPEN frame as its receiver has it. -/
def openFrame (kind : DestKind) (route : RouteId) (mode : ResponseMode) (flags : Flags)
    (body : Bytes) : Frame where
  header := .initOpen kind route mode flags body.length
  body := body
  bytes := (FrameHeader.initOpen kind route mode flags body.length).wire ++ body

/-- A DATA frame as its receiver has it. -/
def dataFrame (flags : Flags) (body : Bytes) : Frame where
  header := .initData flags body.length
  body := body
  bytes := (FrameHeader.initData flags body.length).wire ++ body

/-- The frames that are what their bytes say. -/
structure Frame.WellFormed (frame : Frame) : Prop where
  decoded : FrameHeader.decode frame.bytes = .ok frame.header
  exact : frame.bytes.length = frame.header.frameSize
  body : frame.body = frame.bytes.drop frame.header.headerSize

namespace FrameHeader

theorem four_le_headerSize {header : FrameHeader} (onStream : header.frameType ≠ .datagram) :
    4 ≤ header.headerSize := by
  cases kind : header.frameType
  · simp [headerSize, kind, FrameType.headerSize, openHeaderSize]
  · simp [headerSize, kind, FrameType.headerSize, dataHeaderSize]
  · exact absurd kind onStream

/-- Decoding looks at the header bytes only. -/
theorem Reads.append {buf : Bytes} {header : FrameHeader} (reads : Reads buf header)
    (more : Bytes) : Reads (buf ++ more) header := by
  have covered := reads.covered
  have first : 4 ≤ buf.length := le_trans (four_le_headerSize reads.notDatagram) covered
  have same (i : Nat) (inside : i < buf.length) : (buf ++ more).getD i 0 = buf.getD i 0 := by
    simp [List.getElem?_append_left inside]
  refine ⟨?_, reads.notDatagram, ?_, ?_, reads.report, ?_, ?_, reads.defaults⟩
  · rw [same 0 (by omega)]
    exact reads.frameType
  · rw [List.length_append]
    omega
  · rw [same 1 (by omega)]
    exact reads.flags
  · rw [reads.bodyLen, BigEndian.readAt, BigEndian.readAt,
      List.drop_append_of_le_length (by omega),
      List.take_append_of_le_length (by rw [List.length_drop]; omega)]
  · intro isOpen
    have long : 8 ≤ buf.length := by
      simpa [headerSize, isOpen, FrameType.headerSize, openHeaderSize] using covered
    rw [same 4 (by omega), same 5 (by omega), same 6 (by omega), same 7 (by omega)]
    exact reads.destination isOpen

theorem Reads.take {buf : Bytes} {header : FrameHeader} (reads : Reads buf header) (n : Nat)
    (covers : header.headerSize ≤ n) : Reads (buf.take n) header := by
  have covered := reads.covered
  have first := four_le_headerSize reads.notDatagram
  have same (i : Nat) (inside : i < n) : (buf.take n).getD i 0 = buf.getD i 0 := by
    simp [inside]
  refine ⟨?_, reads.notDatagram, ?_, ?_, reads.report, ?_, ?_, reads.defaults⟩
  · rw [same 0 (by omega)]
    exact reads.frameType
  · rw [List.length_take]
    omega
  · rw [same 1 (by omega)]
    exact reads.flags
  · rw [reads.bodyLen, BigEndian.readAt, BigEndian.readAt, List.drop_take, List.take_take,
      Nat.min_eq_left (by omega)]
  · intro isOpen
    have long : 8 ≤ n := by
      simpa [headerSize, isOpen, FrameType.headerSize, openHeaderSize] using covers
    rw [same 4 (by omega), same 5 (by omega), same 6 (by omega), same 7 (by omega)]
    exact reads.destination isOpen

end FrameHeader

namespace FrameScanner

theorem next_cons (maxFrameSize : Nat) (first : UInt8) (tail : Bytes) :
    next maxFrameSize (first :: tail) = (do
      let frameType ← FrameType.decode first
      if frameType = .datagram then .error .datagramOnStream
      else if (first :: tail).length < frameType.headerSize then .ok none
      else
        let header ← FrameHeader.decode ((first :: tail).take frameType.headerSize)
        if maxFrameSize < header.frameSize then .error .frameTooLarge
        else if (first :: tail).length < header.frameSize then .ok none
        else .ok (some {
          header := header
          body := ((first :: tail).take header.frameSize).drop frameType.headerSize
          bytes := (first :: tail).take header.frameSize })) := rfl

/-- The scanner takes a frame exactly when the header decodes and the frame is complete. -/
theorem next_eq_some_iff {maxFrameSize : Nat} {rest : Bytes} {frame : Frame} :
    next maxFrameSize rest = .ok (some frame) ↔
      FrameHeader.decode rest = .ok frame.header ∧ frame.header.frameSize ≤ maxFrameSize ∧
      frame.header.frameSize ≤ rest.length ∧ frame.bytes = rest.take frame.header.frameSize ∧
      frame.body = frame.bytes.drop frame.header.headerSize := by
  cases rest with
  | nil => simp [next, FrameHeader.decode]
  | cons first tail =>
      rw [next_cons]
      constructor
      · intro scanned
        simp only [FrameHeader.bind_eq_ok] at scanned
        obtain ⟨frameType, typeDecoded, scanned⟩ := scanned
        split at scanned
        · simp at scanned
        rename_i onStream
        split at scanned
        · simp at scanned
        rename_i long
        simp only [FrameHeader.bind_eq_ok] at scanned
        obtain ⟨header, decoded, scanned⟩ := scanned
        split at scanned
        · simp at scanned
        rename_i fits
        split at scanned
        · simp at scanned
        rename_i complete
        cases scanned
        have reads := (FrameHeader.decode_eq_ok_iff.mp decoded)
        have same : frameType = header.frameType := by
          have := reads.frameType
          rw [List.getD_eq_getElem?_getD, List.getElem?_take_of_lt frameType.headerSize_pos] at this
          simpa [typeDecoded] using this
        subst same
        refine ⟨?_, not_lt.mp fits, not_lt.mp complete, rfl, rfl⟩
        rw [FrameHeader.decode_eq_ok_iff]
        simpa using reads.append ((first :: tail).drop header.frameType.headerSize)
      · rintro ⟨decoded, fits, complete, bytes, body⟩
        have reads := FrameHeader.decode_eq_ok_iff.mp decoded
        have typeDecoded : FrameType.decode first = .ok frame.header.frameType := reads.frameType
        have headerDecoded := FrameHeader.decode_eq_ok_iff.mpr
          (reads.take frame.header.frameType.headerSize le_rfl)
        have long : ¬ (first :: tail).length < frame.header.frameType.headerSize :=
          not_lt.mpr reads.covered
        simp only [typeDecoded, FrameHeader.ok_bind, reads.notDatagram, long, headerDecoded,
          not_lt.mpr fits, not_lt.mpr complete, ↓reduceIte]
        rcases frame with ⟨header, frameBody, frameBytes⟩
        simp only at bytes body
        subst bytes body
        rfl

theorem next_wellFormed {maxFrameSize : Nat} {rest : Bytes} {frame : Frame}
    (scanned : next maxFrameSize rest = .ok (some frame)) : frame.WellFormed := by
  obtain ⟨decoded, -, complete, bytes, body⟩ := next_eq_some_iff.mp scanned
  have reads := FrameHeader.decode_eq_ok_iff.mp decoded
  refine ⟨?_, by simp [bytes, complete], body⟩
  rw [bytes, FrameHeader.decode_eq_ok_iff]
  exact reads.take _ (Nat.le_add_right _ _)

theorem next_append_of_some {maxFrameSize : Nat} {rest : Bytes} {frame : Frame} (more : Bytes)
    (scanned : next maxFrameSize rest = .ok (some frame)) :
    next maxFrameSize (rest ++ more) = .ok (some frame) := by
  obtain ⟨decoded, fits, complete, bytes, body⟩ := next_eq_some_iff.mp scanned
  have reads := FrameHeader.decode_eq_ok_iff.mp decoded
  refine next_eq_some_iff.mpr ⟨?_, fits, ?_, ?_, body⟩
  · exact FrameHeader.decode_eq_ok_iff.mpr (reads.append more)
  · rw [List.length_append]
    omega
  · rw [bytes, List.take_append_of_le_length complete]

theorem next_append_of_error {maxFrameSize : Nat} {rest : Bytes} {problem : FrameError}
    (more : Bytes) (scanned : next maxFrameSize rest = .error problem) :
    next maxFrameSize (rest ++ more) = .error problem := by
  cases rest with
  | nil => simp [next] at scanned
  | cons first tail =>
      rw [next_cons] at scanned
      rw [List.cons_append, next_cons]
      cases typeDecoded : FrameType.decode first with
      | error other => simpa [typeDecoded, bind, Except.bind] using scanned
      | ok frameType =>
          simp only [typeDecoded, FrameHeader.ok_bind] at scanned ⊢
          split at scanned
          · rename_i onDatagram
            simpa [onDatagram] using scanned
          rename_i onStream
          split at scanned
          · simp at scanned
          rename_i long
          have longer : ¬ (first :: (tail ++ more)).length < frameType.headerSize := by
            simp only [List.length_cons, List.length_append] at long ⊢
            omega
          have same : (first :: (tail ++ more)).take frameType.headerSize =
              (first :: tail).take frameType.headerSize := by
            rw [← List.cons_append, List.take_append_of_le_length (not_lt.mp long)]
          simp only [onStream, longer, same, ↓reduceIte]
          cases decoded : FrameHeader.decode ((first :: tail).take frameType.headerSize) with
          | error other => simpa [decoded, bind, Except.bind] using scanned
          | ok header =>
              simp only [decoded, FrameHeader.ok_bind] at scanned ⊢
              split at scanned
              · rename_i tooLarge
                simpa [tooLarge] using scanned
              · split at scanned <;> simp at scanned

end FrameScanner

/-- Frames of at most `maxFrameSize` bytes, cut off a byte stream one after the other. -/
def frameScanner (maxFrameSize : Nat) : Scanner UInt8 FrameError Frame where
  next := fun rest =>
    (FrameScanner.next maxFrameSize rest).map (Option.map fun frame => (frame, frame.bytes.length))
  progress := by
    intro input frame length scanned
    cases answer : FrameScanner.next maxFrameSize input with
    | error problem => simp [answer, Except.map] at scanned
    | ok found =>
        cases found with
        | none => simp [answer, Except.map] at scanned
        | some other =>
            simp only [answer, Except.map, Option.map_some, Except.ok.injEq, Option.some.injEq,
              Prod.mk.injEq] at scanned
            obtain ⟨rfl, rfl⟩ := scanned
            have exact := (FrameScanner.next_wellFormed answer).exact
            have complete := (FrameScanner.next_eq_some_iff.mp answer).2.2.1
            have positive := other.header.frameSize_pos
            omega
  token_stable := by
    intro input frame length more scanned
    cases answer : FrameScanner.next maxFrameSize input with
    | error problem => simp [answer, Except.map] at scanned
    | ok found =>
        cases found with
        | none => simp [answer, Except.map] at scanned
        | some other =>
            rw [FrameScanner.next_append_of_some more answer]
            simpa [answer] using scanned
  error_stable := by
    intro input problem more scanned
    cases answer : FrameScanner.next maxFrameSize input with
    | error other =>
        rw [FrameScanner.next_append_of_error more answer]
        simpa [answer] using scanned
    | ok found => simp [answer, Except.map] at scanned

@[simp] theorem frameScanner_next (maxFrameSize : Nat) (rest : Bytes) :
    (frameScanner maxFrameSize).next rest = (FrameScanner.next maxFrameSize rest).map
      (Option.map fun frame => (frame, frame.bytes.length)) := rfl

theorem parseExactFrame_eq_ok_iff {data : Bytes} {frame : Frame} :
    parseExactFrame data = .ok frame ↔ frame.WellFormed ∧ frame.bytes = data := by
  unfold parseExactFrame
  simp only [FrameHeader.bind_eq_ok]
  constructor
  · rintro ⟨header, decoded, accepted⟩
    split at accepted
    · simp at accepted
    rename_i exact
    cases accepted
    exact ⟨⟨decoded, not_not.mp exact, rfl⟩, rfl⟩
  · rintro ⟨wellFormed, rfl⟩
    refine ⟨frame.header, wellFormed.decoded, ?_⟩
    rw [if_neg (not_not.mpr wellFormed.exact), ← wellFormed.body]

end LyuneGateway.Protocol
