import LyuneGateway.Lib.Layout
import LyuneGateway.Wss.Envelope

/-!
# Records have one form

A record that may be sent is decoded as it was encoded, and what is decoded is
encoded to the same bytes. Everything else is rejected: what is cut off, what
has bytes to spare or reserved bits set, and what its type may not carry.
-/

namespace LyuneGateway.Wss

namespace RecordType

@[simp] theorem decode_toByte (recordType : RecordType) :
    decode recordType.toByte = .ok recordType := by
  cases recordType <;> rfl

theorem toByte_of_decode {byte : UInt8} {recordType : RecordType}
    (decoded : decode byte = .ok recordType) : recordType.toByte = byte := by
  unfold decode at decoded
  repeat' split at decoded
  all_goals
    cases decoded
    try exact Eq.symm ‹byte = _›

end RecordType

namespace Record

variable {record : Record} {bytes header rest : Bytes} {capacity : Nat}

/-- The numbers of a record fit their fields. -/
structure Fits (record : Record) : Prop where
  streamId : record.streamId < 2 ^ 64
  appErrorCode : record.appErrorCode < 2 ^ 32

theorem encodeHeader_eq_ok : record.encodeHeader = .ok header ↔
    record.validate = .ok () ∧ record.payload.length ≤ maxPayloadSize ∧
      record.header = header := by
  unfold encodeHeader
  cases record.validate with
  | error error => simp
  | ok _ =>
      by_cases large : maxPayloadSize < record.payload.length
      · simp [large]
      · simp [large, not_lt.mp large]

theorem encode_eq_ok : encode capacity record = .ok bytes ↔
    record.validate = .ok () ∧ record.payload.length ≤ maxPayloadSize ∧
      headerSize + record.payload.length ≤ capacity ∧
      record.header ++ record.payload = bytes := by
  unfold encode
  cases encoded : record.encodeHeader with
  | error error =>
      have never := fun header => (@encodeHeader_eq_ok record header).not.mp (by rw [encoded]; simp)
      simp only [bind, Except.bind, reduceCtorEq, false_iff]
      exact fun accepted => never record.header ⟨accepted.1, accepted.2.1, rfl⟩
  | ok header =>
      obtain ⟨valid, small, rfl⟩ := encodeHeader_eq_ok.mp encoded
      simp only [bind, Except.bind, valid, small, true_and]
      by_cases room : headerSize + record.payload.length ≤ capacity
      · simp [room, not_lt.mpr room]
      · simp [room, not_le.mp room]

/-- What is decoded of a header and any bytes behind it. -/
theorem decode_header (fits : record.Fits) (small : record.payload.length < 2 ^ 32) :
    decode (record.header ++ rest) =
      if maxPayloadSize < record.payload.length then .error .payloadTooLarge
      else if rest.length < record.payload.length then .error .truncated
      else if rest.length ≠ record.payload.length then .error .trailingBytes
      else
        ({ record with payload := rest } : Record).validate >>= fun _ =>
          .ok { record with payload := rest } := by
  have reads := Layout.read_wire
    [(8, record.streamId), (4, record.appErrorCode), (4, record.payload.length)]
    [version, record.recordType.toByte, if record.fin then 1 else 0, 0] rest (by
      intro field listed
      simp only [List.mem_cons, List.not_mem_nil, or_false] at listed
      obtain rfl | rfl | rfl := listed
      · exact fits.streamId
      · exact fits.appErrorCode
      · exact small)
  have same : [version, record.recordType.toByte, if record.fin then 1 else 0, 0] ++
      (Layout.wire [(8, record.streamId), (4, record.appErrorCode),
        (4, record.payload.length)] ++ rest) = record.header ++ rest := by
    simp [header]
  rw [same] at reads
  simp only [List.map_cons, List.map_nil, Layout.read, List.length_cons, List.length_nil,
    List.cons.injEq, and_true, Nat.zero_add, Nat.reduceAdd] at reads
  obtain ⟨streamRead, codeRead, lengthRead⟩ := reads
  have long : ¬ (record.header ++ rest).length < headerSize := by simp
  have dropped : (record.header ++ rest).drop headerSize = rest := by
    rw [← record.length_header, List.drop_left]
  have versionRead : (record.header ++ rest).getD 0 0 = version := by simp [header]
  have typeRead : (record.header ++ rest).getD 1 0 = record.recordType.toByte := by simp [header]
  have finRead : (record.header ++ rest).getD 2 0 = if record.fin then 1 else 0 := by
    simp [header]
  have zeroRead : (record.header ++ rest).getD 3 0 = 0 := by simp [header]
  have plain : ¬ (2 ≤ ((record.header ++ rest).getD 2 0).toNat ∨
      (record.header ++ rest).getD 3 0 ≠ 0) := by
    rw [finRead, zeroRead]
    cases record.fin <;> decide
  have finShown : decide ((record.header ++ rest).getD 2 0 = 1) = record.fin := by
    rw [finRead]
    cases record.fin <;> decide
  rw [decode, if_neg long, if_neg (not_not.mpr versionRead), typeRead, RecordType.decode_toByte]
  simp only [bind, Except.bind, if_neg plain, lengthRead, streamRead, codeRead, dropped, finShown,
    List.length_append, length_header, Nat.add_lt_add_iff_left, ne_eq, Nat.add_left_cancel_iff]

/-- What is decoded may be sent, and its bytes are the ones it was decoded from. -/
theorem wire_of_decode (decoded : decode bytes = .ok record) :
    record.Fits ∧ record.validate = .ok () ∧ record.payload.length ≤ maxPayloadSize ∧
      record.header ++ record.payload = bytes := by
  unfold decode at decoded
  split at decoded
  · cases decoded
  rename_i long
  have long : 20 ≤ bytes.length := not_lt.mp long
  split at decoded
  · cases decoded
  rename_i versionRead
  simp only [bind, Except.bind] at decoded
  split at decoded
  · cases decoded
  rename_i recordType typeRead
  split at decoded
  · cases decoded
  rename_i plain
  split at decoded
  · cases decoded
  rename_i small
  split at decoded
  · cases decoded
  split at decoded
  · cases decoded
  rename_i exact
  split at decoded
  · cases decoded
  rename_i valid
  cases decoded
  have payloadLength : (bytes.drop headerSize).length = BigEndian.readAt bytes 16 4 := by
    rw [List.length_drop, not_not.mp exact]
    omega
  refine ⟨⟨BigEndian.readAt_lt bytes 4 8, BigEndian.readAt_lt bytes 12 4⟩, valid,
    payloadLength ▸ not_lt.mp small, ?_⟩
  push Not at plain
  have finByte : (if decide (bytes.getD 2 0 = 1) then 1 else 0 : UInt8) = bytes.getD 2 0 := by
    have two := plain.1
    generalize bytes.getD 2 0 = byte at two
    by_cases one : byte = 1
    · simp [one]
    · have zero : byte = 0 := by
        have notOne : byte.toNat ≠ 1 := fun same => one (UInt8.toNat_inj.mp same)
        exact UInt8.toNat_inj.mp (by simp; omega)
      simp [zero]
  have fields := Layout.wire_read (show 4 + [8, 4, 4].sum ≤ bytes.length from long)
  simp only [Layout.read, List.zip_cons_cons, List.zip_nil_right, Layout.wire_cons,
    Layout.wire_nil, List.append_nil, ← payloadLength] at fields
  have head : version :: recordType.toByte :: (if decide (bytes.getD 2 0 = 1) then 1 else 0) ::
      0 :: bytes.drop 4 = bytes := by
    have last := @Layout.byte_cons 3 bytes (by omega)
    rw [plain.2] at last
    rw [finByte, ← not_not.mp versionRead, RecordType.toByte_of_decode typeRead, last,
      Layout.byte_cons (by omega), Layout.byte_cons (by omega), Layout.byte_cons (by omega),
      List.drop_zero]
  conv_rhs => rw [← head, ← Layout.field_append 4 [8, 4, 4].sum, ← fields]
  simp [header, headerSize]

/-- A record that may be sent comes back. -/
theorem decode_of_encode (fits : record.Fits) (encoded : encode capacity record = .ok bytes) :
    decode bytes = .ok record := by
  obtain ⟨valid, small, -, rfl⟩ := encode_eq_ok.mp encoded
  have narrow : record.payload.length < 2 ^ 32 := lt_of_le_of_lt small (by decide)
  rw [decode_header fits narrow, if_neg (not_lt.mpr small), if_neg (lt_irrefl _),
    if_neg (not_not.mpr rfl)]
  simp only [valid, bind, Except.bind]

/-- A record that may not be sent is not received either, for the same reason. -/
theorem decode_invalid (fits : record.Fits) (small : record.payload.length ≤ maxPayloadSize)
    {error : EnvelopeError} (invalid : record.validate = .error error) :
    decode (record.header ++ record.payload) = .error error := by
  have narrow : record.payload.length < 2 ^ 32 := lt_of_le_of_lt small (by decide)
  rw [decode_header fits narrow, if_neg (not_lt.mpr small), if_neg (lt_irrefl _),
    if_neg (not_not.mpr rfl)]
  simp only [invalid, bind, Except.bind]

theorem decode_short {count : Nat} (fits : record.Fits)
    (small : record.payload.length ≤ maxPayloadSize)
    (short : count < headerSize + record.payload.length) :
    decode ((record.header ++ record.payload).take count) = .error .truncated := by
  by_cases inside : count < headerSize
  · rw [decode, if_pos]
    exact lt_of_le_of_lt (List.length_take_le _ _) inside
  · have narrow : record.payload.length < 2 ^ 32 := lt_of_le_of_lt small (by decide)
    have part : (record.header ++ record.payload).take count =
        record.header ++ record.payload.take (count - headerSize) := by
      rw [List.take_append, List.take_of_length_le (by simp; omega), length_header]
    rw [part, decode_header fits narrow, if_neg (not_lt.mpr small), if_pos]
    rw [List.length_take]
    omega

theorem decode_long {more : Bytes} (fits : record.Fits)
    (small : record.payload.length ≤ maxPayloadSize) (given : more ≠ []) :
    decode (record.header ++ record.payload ++ more) = .error .trailingBytes := by
  have narrow : record.payload.length < 2 ^ 32 := lt_of_le_of_lt small (by decide)
  have some_ := List.length_pos_iff.mpr given
  rw [List.append_assoc, decode_header fits narrow, if_neg (not_lt.mpr small), if_neg, if_pos]
  · rw [List.length_append]
    omega
  · rw [List.length_append]
    omega

end Record

theorem decode_reserved {bytes : Bytes} (reserved : 2 ≤ (bytes.getD 2 0).toNat ∨ bytes.getD 3 0 ≠ 0) :
    ∃ error, decode bytes = .error error := by
  unfold decode
  split
  · exact ⟨_, rfl⟩
  split
  · exact ⟨_, rfl⟩
  cases RecordType.decode (bytes.getD 1 0) with
  | error error => exact ⟨error, rfl⟩
  | ok recordType => exact ⟨.reservedBitsSet, by simp only [bind, Except.bind]⟩

/-- Encoding and decoding undo each other, on the records that may be sent and on the bytes that
are accepted. A record that is cut short, has bytes to spare, is too large or carries what its type
may not carry is rejected with the error that says so, and so is anything with reserved bits. -/
theorem records_have_one_form :
    (∀ record : Record, record.Fits → ∀ capacity bytes, encode capacity record = .ok bytes →
      decode bytes = .ok record) ∧
    (∀ bytes record, decode bytes = .ok record → record.Fits ∧
      ∀ capacity, bytes.length ≤ capacity → encode capacity record = .ok bytes) ∧
    (∀ record : Record, record.Fits → record.payload.length ≤ maxPayloadSize →
      (∀ count < headerSize + record.payload.length,
        decode ((record.header ++ record.payload).take count) = .error .truncated) ∧
      (∀ more ≠ [], decode (record.header ++ record.payload ++ more) = .error .trailingBytes) ∧
      ∀ error, record.validate = .error error →
        decode (record.header ++ record.payload) = .error error ∧
        ∀ capacity, encode capacity record = .error error) ∧
    (∀ record : Record, record.Fits → maxPayloadSize < record.payload.length →
      record.payload.length < 2 ^ 32 →
      decode (record.header ++ record.payload) = .error .payloadTooLarge) ∧
    ∀ bytes : Bytes, 2 ≤ (bytes.getD 2 0).toNat ∨ bytes.getD 3 0 ≠ 0 →
      ∃ error, decode bytes = .error error := by
  refine ⟨fun record fits capacity bytes => Record.decode_of_encode fits, ?_, ?_, ?_,
    fun _ => decode_reserved⟩
  · intro bytes record decoded
    obtain ⟨fits, valid, small, rfl⟩ := Record.wire_of_decode decoded
    refine ⟨fits, fun capacity room => ?_⟩
    rw [List.length_append, Record.length_header] at room
    exact Record.encode_eq_ok.mpr ⟨valid, small, room, rfl⟩
  · intro record fits small
    refine ⟨fun count short => Record.decode_short fits small short,
      fun more given => Record.decode_long fits small given, fun error invalid =>
        ⟨Record.decode_invalid fits small invalid, fun capacity => ?_⟩⟩
    simp only [encode, Record.encodeHeader, invalid, bind, Except.bind]
  · intro record fits large narrow
    rw [Record.decode_header fits narrow, if_pos large]

end LyuneGateway.Wss
