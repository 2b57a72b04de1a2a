import LyuneGateway.Lib.Layout
import LyuneGateway.Membership.Gossip
import Mathlib.Algebra.Order.BigOperators.Group.List

/-!
# Messages and their bytes

Every message whose numbers fit their fields is decoded as it was encoded, and
every byte string that is decoded is the encoding of its message. A message with
all its events and its tag is far smaller than the buffers it is written to.
-/

namespace LyuneGateway.Membership

open Control (NodeStatus)
open Layout (field_append byte_cons)

/-- The numbers of an event fit their fields. -/
structure Event.Fits (event : Event) : Prop where
  nodeId : event.nodeId < 2 ^ 16
  incarnation : event.incarnation < 2 ^ 32

/-- The numbers of a message fit their fields, and no flag is set that has no meaning. -/
structure Message.Fits (message : Message) : Prop where
  sender : message.sender < 2 ^ 16
  seq : message.seq < 2 ^ 32
  target : message.target < 2 ^ 16
  flags : message.flags ≤ syncRequestFlag + syncMoreFlag
  few : message.events.length ≤ maxEvents
  events : ∀ event ∈ message.events, event.Fits

theorem MessageType.ofByte_toByte (type : MessageType) : ofByte type.toByte = some type := by
  cases type <;> rfl

theorem MessageType.toByte_of_ofByte {byte : UInt8} {type : MessageType}
    (told : ofByte byte = some type) : type.toByte = byte := by
  unfold ofByte at told
  split_ifs at told with is
  all_goals
    cases told
    exact Eq.symm ‹byte = _›

theorem statusOfByte_statusByte (status : NodeStatus) :
    statusOfByte (statusByte status) = some status := by
  cases status <;> rfl

theorem statusByte_of_statusOfByte {byte : UInt8} {status : NodeStatus}
    (told : statusOfByte byte = some status) : statusByte status = byte := by
  unfold statusOfByte at told
  split_ifs at told with is
  all_goals
    cases told
    exact Eq.symm ‹byte = _›

theorem fin_ofNat_of_eq {n value : Nat} [NeZero n] {number : Fin n} (same : value = number.val) :
    Fin.ofNat n value = number := by
  subst same
  exact Fin.ext (Nat.mod_eq_of_lt number.isLt)

/-! ## Addresses and events -/

theorem Address.decode_wire (address : Address) (rest : Bytes) :
    ∃ family tail, address.wire = family :: tail ∧
      Address.decode family (tail ++ rest) = .ok (address, rest) := by
  cases address with
  | ip4 host port =>
      refine ⟨4, _, rfl, ?_⟩
      have hostSmall : host.val < 256 ^ 4 := host.isLt
      have portSmall : port.val < 256 ^ 2 := port.isLt
      have hostRead := BigEndian.readAt_write List.length_nil hostSmall
        (BigEndian.write 2 port.val ++ rest)
      have portRead := BigEndian.readAt_write (BigEndian.length_write 4 host.val) portSmall rest
      rw [List.nil_append] at hostRead
      rw [Address.decode, if_pos rfl, List.append_assoc, if_neg (by simp; omega), hostRead, portRead,
        fin_ofNat_of_eq rfl, fin_ofNat_of_eq rfl]
      simp [BigEndian.write]
  | ip6 host port =>
      refine ⟨6, _, rfl, ?_⟩
      have hostSmall : host.val < 256 ^ 16 := host.isLt
      have portSmall : port.val < 256 ^ 2 := port.isLt
      have hostRead := BigEndian.readAt_write List.length_nil hostSmall
        (BigEndian.write 2 port.val ++ rest)
      have portRead := BigEndian.readAt_write (BigEndian.length_write 16 host.val) portSmall rest
      rw [List.nil_append] at hostRead
      rw [Address.decode, if_neg (by decide), if_pos rfl, List.append_assoc,
        if_neg (by simp; omega), hostRead, portRead, fin_ofNat_of_eq rfl, fin_ofNat_of_eq rfl]
      simp [BigEndian.write]

/-- A host and a port are written again to the bytes that they were read from. -/
theorem write_host_port {bytes : Bytes} {width : Nat} (long : width + 2 ≤ bytes.length) :
    BigEndian.write width (BigEndian.readAt bytes 0 width) ++
      BigEndian.write 2 (BigEndian.readAt bytes width 2) ++ bytes.drop (width + 2) = bytes := by
  rw [BigEndian.write_readAt (by omega), BigEndian.write_readAt long, List.append_assoc,
    field_append, List.drop_zero, List.take_append_drop]

theorem fin_ofNat_readAt {bytes : Bytes} {offset width n : Nat} [NeZero n]
    (same : 256 ^ width = n) :
    (Fin.ofNat n (BigEndian.readAt bytes offset width)).val = BigEndian.readAt bytes offset width :=
  Nat.mod_eq_of_lt (same ▸ BigEndian.readAt_lt bytes offset width)

/-- A decoded address is written again to the bytes that it was read from. -/
theorem Address.wire_of_decode {family : UInt8} {rest rest' : Bytes} {address : Address}
    (decoded : Address.decode family rest = .ok (address, rest')) :
    address.wire ++ rest' = family :: rest := by
  unfold Address.decode at decoded
  split_ifs at decoded with is4 short is6 short
  · cases decoded
    have back := @write_host_port rest 4 (by omega)
    rw [Address.wire, fin_ofNat_readAt (by norm_num), fin_ofNat_readAt (by norm_num), is4,
      List.cons_append, back]
  · cases decoded
    have back := @write_host_port rest 16 (by omega)
    rw [Address.wire, fin_ofNat_readAt (by norm_num), fin_ofNat_readAt (by norm_num), is6,
      List.cons_append, back]

theorem Event.length_wire_le (event : Event) : event.wire.length ≤ maxEventSize := by
  rcases event with ⟨nodeId, status, incarnation, host | host⟩ <;>
    simp [Event.wire, Address.wire, maxEventSize]

theorem Event.decode_wire {event : Event} (fits : event.Fits) (rest : Bytes) :
    Event.decode (event.wire ++ rest) = .ok (event, rest) := by
  obtain ⟨family, tail, split, addressDecoded⟩ := event.address.decode_wire rest
  have nodeSmall : event.nodeId < 256 ^ 2 := fits.nodeId
  have incarnationSmall : event.incarnation < 256 ^ 4 := fits.incarnation
  have whole : event.wire ++ rest = BigEndian.write 2 event.nodeId ++ (statusByte event.status ::
      (BigEndian.write 4 event.incarnation ++ (family :: (tail ++ rest)))) := by
    simp [Event.wire, split]
  have nodeRead := BigEndian.readAt_write List.length_nil nodeSmall (statusByte event.status ::
      (BigEndian.write 4 event.incarnation ++ (family :: (tail ++ rest))))
  have front : (BigEndian.write 2 event.nodeId ++ [statusByte event.status]).length = 3 := by simp
  have incarnationRead := BigEndian.readAt_write front incarnationSmall (family :: (tail ++ rest))
  rw [List.nil_append] at nodeRead
  rw [List.append_assoc, List.singleton_append] at incarnationRead
  have long : ¬(event.wire ++ rest).length < 8 := by
    rw [whole]
    simp
    omega
  have statusRead : (event.wire ++ rest).getD 2 0 = statusByte event.status := by
    simp [whole, BigEndian.write]
  have familyRead : (event.wire ++ rest).getD 7 0 = family := by
    simp [whole, BigEndian.write]
  have after : (event.wire ++ rest).drop 8 = tail ++ rest := by
    simp [whole, BigEndian.write]
  rw [Event.decode, if_neg long, statusRead, statusOfByte_statusByte]
  simp only [familyRead, after, addressDecoded]
  rw [whole, nodeRead, incarnationRead]

/-- A decoded event fits, and is written again to the bytes that it was read from. -/
theorem Event.wire_of_decode {rest rest' : Bytes} {event : Event}
    (decoded : Event.decode rest = .ok (event, rest')) :
    event.Fits ∧ event.wire ++ rest' = rest := by
  unfold Event.decode at decoded
  split at decoded
  · cases decoded
  rename_i long
  split at decoded
  · cases decoded
  rename_i status statusRead
  split at decoded
  · cases decoded
  rename_i address after addressDecoded
  cases decoded
  refine ⟨⟨BigEndian.readAt_lt rest 0 2, BigEndian.readAt_lt rest 3 4⟩, ?_⟩
  have address' := Address.wire_of_decode addressDecoded
  rw [Event.wire, List.append_assoc, List.cons_append, List.append_assoc, address',
    statusByte_of_statusOfByte statusRead, byte_cons (by omega),
    BigEndian.write_readAt (by omega), BigEndian.write_readAt (by omega), field_append,
    byte_cons (by omega), field_append, List.drop_zero]

theorem decodeEvents_wire {events : List Event} (fits : ∀ event ∈ events, event.Fits)
    (rest : Bytes) :
    decodeEvents events.length (events.flatMap Event.wire ++ rest) = .ok (events, rest) := by
  induction events with
  | nil => rfl
  | cons event events ih =>
      have others := ih fun other listed => fits other (List.mem_cons_of_mem event listed)
      rw [List.length_cons, decodeEvents, List.flatMap_cons, List.append_assoc,
        Event.decode_wire (fits event List.mem_cons_self)]
      simp only [others]

theorem wire_of_decodeEvents {count : Nat} {rest rest' : Bytes} {events : List Event}
    (decoded : decodeEvents count rest = .ok (events, rest')) :
    events.length = count ∧ (∀ event ∈ events, event.Fits) ∧
      events.flatMap Event.wire ++ rest' = rest := by
  induction count generalizing rest events with
  | zero =>
      cases decoded
      exact ⟨rfl, by simp, rfl⟩
  | succ count ih =>
      rw [decodeEvents] at decoded
      split at decoded
      · cases decoded
      rename_i event after first
      split at decoded
      · cases decoded
      rename_i others last later
      cases decoded
      obtain ⟨fit, back⟩ := Event.wire_of_decode first
      obtain ⟨length, fits, backs⟩ := ih later
      refine ⟨by simp [length], ?_, ?_⟩
      · intro other listed
        obtain rfl | listed := List.mem_cons.mp listed
        · exact fit
        · exact fits other listed
      · rw [List.flatMap_cons, List.append_assoc, backs, back]

/-! ## Messages -/

namespace Message

variable {message : Message} {bytes : Bytes}

theorem length_wire_le (few : message.events.length ≤ maxEvents) :
    message.wire.length ≤ headerSize + maxEvents * maxEventSize := by
  have events : (message.events.flatMap Event.wire).length ≤
      message.events.length * maxEventSize := by
    rw [List.length_flatMap]
    refine (List.sum_le_card_nsmul _ maxEventSize ?_).trans (by simp)
    intro length listed
    obtain ⟨event, -, rfl⟩ := List.mem_map.mp listed
    exact event.length_wire_le
  have count := Nat.mul_le_mul_right maxEventSize few
  simp only [wire, List.length_append, List.length_cons, BigEndian.length_write, headerSize]
  omega

theorem decode_wire (fits : message.Fits) : decode message.wire = .ok message := by
  have senderSmall : message.sender < 256 ^ 2 := fits.sender
  have seqSmall : message.seq < 256 ^ 4 := fits.seq
  have targetSmall : message.target < 256 ^ 2 := fits.target
  have flagsSmall : message.flags < 256 := lt_of_le_of_lt fits.flags (by decide)
  have countSmall : message.events.length < 256 := lt_of_le_of_lt fits.few (by decide)
  have long : ¬message.wire.length < headerSize := by
    simp [wire, headerSize]
    omega
  have magicRead : BigEndian.readAt message.wire 0 2 = magic := by
    have small : magic < 256 ^ 2 := by decide
    simpa [wire] using BigEndian.readAt_write List.length_nil small _
  have senderRead : BigEndian.readAt message.wire 4 2 = message.sender := by
    have front : (BigEndian.write 2 magic ++ [version, message.type.toByte]).length = 4 := by simp
    have read := fun rest => BigEndian.readAt_write front senderSmall rest
    simp only [List.append_assoc, List.cons_append, List.nil_append] at read
    exact read _
  have seqRead : BigEndian.readAt message.wire 6 4 = message.seq := by
    have front : (BigEndian.write 2 magic ++ (version :: message.type.toByte ::
        BigEndian.write 2 message.sender)).length = 6 := by simp
    have read := fun rest => BigEndian.readAt_write front seqSmall rest
    simp only [List.append_assoc, List.cons_append] at read
    exact read _
  have targetRead : BigEndian.readAt message.wire 10 2 = message.target := by
    have front : (BigEndian.write 2 magic ++ (version :: message.type.toByte ::
        (BigEndian.write 2 message.sender ++ BigEndian.write 4 message.seq))).length = 10 := by simp
    have read := fun rest => BigEndian.readAt_write front targetSmall rest
    simp only [List.append_assoc, List.cons_append] at read
    exact read _
  have versionRead : message.wire.getD 2 0 = version := by simp [wire, BigEndian.write]
  have typeRead : message.wire.getD 3 0 = message.type.toByte := by simp [wire, BigEndian.write]
  have countRead : (message.wire.getD 12 0).toNat = message.events.length := by
    simp [wire, BigEndian.write, Nat.mod_eq_of_lt countSmall]
  have flagsRead : (message.wire.getD 13 0).toNat = message.flags := by
    simp [wire, BigEndian.write, Nat.mod_eq_of_lt flagsSmall]
  have after : message.wire.drop headerSize = message.events.flatMap Event.wire := by
    simp [wire, BigEndian.write, headerSize]
  have events := decodeEvents_wire fits.events []
  rw [List.append_nil] at events
  rw [decode, if_neg long, if_neg (not_not.mpr magicRead), if_neg (not_not.mpr versionRead), typeRead,
    MessageType.ofByte_toByte]
  simp only [flagsRead, countRead, after, events, not_lt.mpr fits.flags, not_lt.mpr fits.few,
    if_false, ne_eq, not_true, senderRead, seqRead, targetRead]

/-- A decoded message fits, and its bytes are the ones that it was decoded from. -/
theorem wire_of_decode (decoded : decode bytes = .ok message) :
    message.Fits ∧ message.wire = bytes := by
  unfold decode at decoded
  split at decoded
  · cases decoded
  rename_i long
  have long : 14 ≤ bytes.length := not_lt.mp long
  split at decoded
  · cases decoded
  rename_i magicRead
  split at decoded
  · cases decoded
  rename_i versionRead
  split at decoded
  · cases decoded
  rename_i type typeRead
  dsimp only at decoded
  split at decoded
  · cases decoded
  rename_i flags
  split at decoded
  · cases decoded
  rename_i few
  split at decoded
  · cases decoded
  rename_i events rest eventsDecoded
  split at decoded
  · cases decoded
  rename_i exact
  cases decoded
  obtain ⟨count, fits, back⟩ := wire_of_decodeEvents eventsDecoded
  rw [not_not.mp exact, List.append_nil] at back
  refine ⟨⟨BigEndian.readAt_lt bytes 4 2, BigEndian.readAt_lt bytes 6 4,
    BigEndian.readAt_lt bytes 10 2, not_lt.mp flags, count ▸ not_lt.mp few, fits⟩, ?_⟩
  rw [wire, ← not_not.mp magicRead, ← not_not.mp versionRead,
    MessageType.toByte_of_ofByte typeRead, count, UInt8.ofNat_toNat, UInt8.ofNat_toNat, back,
    headerSize, byte_cons (by omega), byte_cons (by omega), BigEndian.write_readAt (by omega),
    BigEndian.write_readAt (by omega), BigEndian.write_readAt (by omega),
    BigEndian.write_readAt (by omega), field_append, field_append, field_append,
    byte_cons (by omega), byte_cons (by omega), field_append, List.drop_zero]

end Message

/-- A buffer of the usual size takes every message. -/
theorem Message.encode_eq {message : Message} (few : message.events.length ≤ maxEvents)
    {capacity : Nat} (room : headerSize + maxEvents * maxEventSize ≤ capacity) :
    message.encode capacity = .ok message.wire := by
  have events := Nat.mul_le_mul_right maxEventSize few
  rw [Message.encode, if_neg (not_lt.mpr few), if_neg (by omega)]

/-- What is decoded are the encodings of the messages that fit, and nothing else. -/
theorem decode_eq_ok_iff {bytes : Bytes} {message : Message} :
    decode bytes = .ok message ↔
      message.Fits ∧ message.encode maxMessageSize = .ok bytes := by
  constructor
  · intro decoded
    obtain ⟨fits, rfl⟩ := Message.wire_of_decode decoded
    exact ⟨fits, Message.encode_eq fits.few (by decide)⟩
  · rintro ⟨fits, encoded⟩
    rw [Message.encode_eq fits.few (by decide)] at encoded
    cases encoded
    exact Message.decode_wire fits

/-! ## Authentication -/

inductive AuthEncodeError where
  | encode (problem : EncodeError)
  | secretTooShort
  deriving DecidableEq

def Message.encodeAuthenticated (mac : Mac) (message : Message) (secret : Bytes)
    (capacity : Nat) : Except AuthEncodeError Bytes :=
  if secret.length < minSecretSize then .error .secretTooShort
  else if capacity < authTagSize then .error (.encode .bufferTooSmall)
  else
    match message.encode (capacity - authTagSize) with
    | .error problem => .error (.encode problem)
    | .ok payload => .ok (payload ++ mac secret payload)

/-- Tags of the size that the wire format has for them. -/
def Mac.Sized (mac : Mac) : Prop := ∀ secret payload, (mac secret payload).length = authTagSize

section Authentication

variable {mac : Mac} {secret : Bytes} {message : Message} {bytes : Bytes}

theorem Message.encodeAuthenticated_eq (long : minSecretSize ≤ secret.length)
    (few : message.events.length ≤ maxEvents) :
    message.encodeAuthenticated mac secret maxMessageSize =
      .ok (message.wire ++ mac secret message.wire) := by
  rw [encodeAuthenticated, if_neg (not_lt.mpr long), if_neg (by decide),
    Message.encode_eq few (by decide)]

/-- With a secret, the encodings of the messages that fit are accepted, and nothing else is. -/
theorem decodeAuthenticated_eq_ok_iff (sized : mac.Sized) (long : minSecretSize ≤ secret.length) :
    decodeAuthenticated mac bytes secret = .ok message ↔
      message.Fits ∧ message.encodeAuthenticated mac secret maxMessageSize = .ok bytes := by
  unfold decodeAuthenticated
  rw [if_neg (not_lt.mpr long)]
  constructor
  · intro decoded
    split at decoded
    · cases decoded
    dsimp only at decoded
    split at decoded
    · cases decoded
    rename_i tagged
    obtain ⟨fits, payload⟩ := Message.wire_of_decode decoded
    refine ⟨fits, ?_⟩
    rw [Message.encodeAuthenticated_eq long fits.few, payload, not_not.mp tagged,
      List.take_append_drop]
  · rintro ⟨fits, encoded⟩
    rw [Message.encodeAuthenticated_eq long fits.few] at encoded
    cases encoded
    have size := sized secret message.wire
    have start : (message.wire ++ mac secret message.wire).length - authTagSize =
        message.wire.length := by
      rw [List.length_append, size, Nat.add_sub_cancel]
    have notShort : ¬(message.wire ++ mac secret message.wire).length ≤ authTagSize := by
      have : 0 < message.wire.length := by
        simp [Message.wire]
      rw [List.length_append, size]
      omega
    rw [if_neg notShort]
    simp only [start, List.take_left', List.drop_left', ne_eq, not_true, if_false]
    exact Message.decode_wire fits

/-- While the secret is being changed, the encodings with either secret are accepted. -/
theorem decodeAuthenticatedWithFallback_eq_ok {current previous : Bytes}
    (decoded : decodeAuthenticatedWithFallback mac bytes current previous = .ok message) :
    decodeAuthenticated mac bytes current = .ok message ∨
      previous ≠ [] ∧ decodeAuthenticated mac bytes previous = .ok message := by
  unfold decodeAuthenticatedWithFallback at decoded
  split at decoded
  · split at decoded
    · cases decoded
    · exact .inr ⟨‹_›, decoded⟩
  · exact .inl decoded

theorem fits_of_decodeAuthenticated (decoded : decodeAuthenticated mac bytes secret = .ok message) :
    message.Fits := by
  unfold decodeAuthenticated at decoded
  split at decoded
  · cases decoded
  split at decoded
  · cases decoded
  dsimp only at decoded
  split at decoded
  · cases decoded
  · exact (Message.wire_of_decode decoded).1

end Authentication

/-! ## Reading within the bounds -/

/-- A number at an offset; none if a byte of it is outside. -/
def readInt? (bytes : Bytes) (offset width : Nat) : Option Nat :=
  if offset + width ≤ bytes.length then some (BigEndian.readAt bytes offset width) else none

/-- The bytes from an offset to an end; none if they are not all there. -/
def slice? (bytes : Bytes) (start stop : Nat) : Option Bytes :=
  if start ≤ stop ∧ stop ≤ bytes.length then some ((bytes.drop start).take (stop - start)) else none

/-- `Address.decode` on offsets; none if a read goes out of the bounds. -/
def addressAt? (bytes : Bytes) (family : UInt8) (offset : Nat) :
    Option (Except DecodeError (Address × Nat)) :=
  if family = 4 then
    if bytes.length < offset + 6 then some (.error .messageTooShort)
    else do
      let host ← readInt? bytes offset 4
      let port ← readInt? bytes (offset + 4) 2
      some (.ok (.ip4 (Fin.ofNat _ host) (Fin.ofNat _ port), offset + 6))
  else if family = 6 then
    if bytes.length < offset + 18 then some (.error .messageTooShort)
    else do
      let host ← readInt? bytes offset 16
      let port ← readInt? bytes (offset + 16) 2
      some (.ok (.ip6 (Fin.ofNat _ host) (Fin.ofNat _ port), offset + 18))
  else some (.error .badAddressFamily)

/-- `Event.decode` on offsets. -/
def eventAt? (bytes : Bytes) (offset : Nat) : Option (Except DecodeError (Event × Nat)) :=
  if bytes.length < offset + 8 then some (.error .messageTooShort)
  else do
    let nodeId ← readInt? bytes offset 2
    match statusOfByte (← bytes[offset + 2]?) with
    | none => some (.error .badStatus)
    | some status =>
        let incarnation ← readInt? bytes (offset + 3) 4
        match ← addressAt? bytes (← bytes[offset + 7]?) (offset + 8) with
        | .error problem => some (.error problem)
        | .ok (address, offset) => some (.ok ({
            nodeId := nodeId
            status := status
            incarnation := incarnation
            address := address }, offset))

def eventsAt? (bytes : Bytes) : Nat → Nat → Option (Except DecodeError (List Event × Nat))
  | 0, offset => some (.ok ([], offset))
  | count + 1, offset => do
      match ← eventAt? bytes offset with
      | .error problem => some (.error problem)
      | .ok (event, offset) =>
          match ← eventsAt? bytes count offset with
          | .error problem => some (.error problem)
          | .ok (events, offset) => some (.ok (event :: events, offset))

/-- `decode` on offsets. -/
def decode? (bytes : Bytes) : Option (Except DecodeError Message) :=
  if bytes.length < headerSize then some (.error .messageTooShort)
  else do
    if (← readInt? bytes 0 2) ≠ magic then some (.error .badMagic)
    else if (← bytes[2]?) ≠ version then some (.error .badVersion)
    else
      match MessageType.ofByte (← bytes[3]?) with
      | none => some (.error .badMessageType)
      | some type =>
          let sender ← readInt? bytes 4 2
          let seq ← readInt? bytes 6 4
          let target ← readInt? bytes 10 2
          let flags := (← bytes[13]?).toNat
          if syncRequestFlag + syncMoreFlag < flags then some (.error .badFlags)
          else
            let count := (← bytes[12]?).toNat
            if maxEvents < count then some (.error .tooManyEvents)
            else
              match ← eventsAt? bytes count headerSize with
              | .error problem => some (.error problem)
              | .ok (events, offset) =>
                  if offset ≠ bytes.length then some (.error .trailingBytes)
                  else some (.ok {
                    type := type
                    sender := sender
                    seq := seq
                    target := target
                    flags := flags
                    events := events })

/-- `decodeAuthenticated` on offsets. -/
def decodeAuthenticated? (mac : Mac) (bytes secret : Bytes) : Option (Except DecodeError Message) :=
  if secret.length < minSecretSize then some (.error .secretTooShort)
  else if bytes.length ≤ authTagSize then some (.error .missingAuthTag)
  else do
    let payloadLen := bytes.length - authTagSize
    let expected ← slice? bytes payloadLen (payloadLen + authTagSize)
    let payload ← slice? bytes 0 payloadLen
    if mac secret payload ≠ expected then some (.error .invalidAuthTag) else decode? payload

section Bounds

variable {bytes : Bytes}

theorem readInt?_eq {offset width : Nat} (inside : offset + width ≤ bytes.length) :
    readInt? bytes offset width = some (BigEndian.readAt bytes offset width) := if_pos inside

theorem byte?_eq {offset : Nat} (inside : offset < bytes.length) :
    bytes[offset]? = some (bytes.getD offset 0) := by
  rw [List.getD_eq_getElem?_getD, List.getElem?_eq_getElem inside, Option.getD_some]

theorem readAt_drop (start offset width : Nat) :
    BigEndian.readAt (bytes.drop start) offset width =
      BigEndian.readAt bytes (start + offset) width := by
  rw [BigEndian.readAt, BigEndian.readAt, List.drop_drop]

theorem getD_drop (start offset : Nat) :
    (bytes.drop start).getD offset 0 = bytes.getD (start + offset) 0 := by
  simp [List.getD_eq_getElem?_getD, List.getElem?_drop]

/-- What is read on offsets is what is read off the rest, and the offset is where the rest
starts. -/
def Follows {α : Type} (bytes : Bytes) (checked : Option (Except DecodeError (α × Nat)))
    (read : Except DecodeError (α × Bytes)) : Prop :=
  (∃ problem, read = .error problem ∧ checked = some (.error problem)) ∨
    ∃ value offset, offset ≤ bytes.length ∧ read = .ok (value, bytes.drop offset) ∧
      checked = some (.ok (value, offset))

theorem addressAt?_follows {family : UInt8} {offset : Nat} (inside : offset ≤ bytes.length) :
    Follows bytes (addressAt? bytes family offset)
      (Address.decode family (bytes.drop offset)) := by
  unfold addressAt? Address.decode
  simp only [List.length_drop, readAt_drop, List.drop_drop, Nat.add_zero]
  by_cases is4 : family = 4
  · simp only [is4, if_true]
    by_cases short : bytes.length < offset + 6
    · exact .inl ⟨.messageTooShort, by rw [if_pos (by omega)], by rw [if_pos short]⟩
    · refine .inr ⟨_, offset + 6, by omega, by rw [if_neg (by omega)], ?_⟩
      rw [if_neg short, readInt?_eq (by omega), readInt?_eq (by omega)]
      rfl
  · simp only [is4, if_false]
    by_cases is6 : family = 6
    · simp only [is6, if_true]
      by_cases short : bytes.length < offset + 18
      · exact .inl ⟨.messageTooShort, by rw [if_pos (by omega)], by rw [if_pos short]⟩
      · refine .inr ⟨_, offset + 18, by omega, by rw [if_neg (by omega)], ?_⟩
        rw [if_neg short, readInt?_eq (by omega), readInt?_eq (by omega)]
        rfl
    · simp only [is6, if_false]
      exact .inl ⟨.badAddressFamily, rfl, rfl⟩

theorem eventAt?_follows {offset : Nat} (inside : offset ≤ bytes.length) :
    Follows bytes (eventAt? bytes offset) (Event.decode (bytes.drop offset)) := by
  unfold eventAt? Event.decode
  simp only [List.length_drop, readAt_drop, getD_drop, List.drop_drop, Nat.add_zero]
  by_cases short : bytes.length < offset + 8
  · exact .inl ⟨.messageTooShort, by rw [if_pos (by omega)], by rw [if_pos short]⟩
  rw [if_neg short, if_neg (by omega), readInt?_eq (by omega), byte?_eq (by omega)]
  simp only [Option.bind_eq_bind, Option.bind_some]
  cases statusOfByte (bytes.getD (offset + 2) 0) with
  | none => exact .inl ⟨.badStatus, rfl, rfl⟩
  | some status =>
      simp only
      rw [readInt?_eq (by omega), byte?_eq (by omega)]
      simp only [Option.bind_some]
      have behind : offset + 8 ≤ bytes.length := not_lt.mp short
      obtain ⟨problem, failed, checked⟩ | ⟨address, next, within, read, checked⟩ :=
        @addressAt?_follows bytes (bytes.getD (offset + 7) 0) _ behind
      · simp only [failed, checked, Option.bind_some]
        exact .inl ⟨problem, rfl, rfl⟩
      · simp only [read, checked, Option.bind_some]
        exact .inr ⟨_, next, within, rfl, rfl⟩

theorem eventsAt?_follows {count offset : Nat} (inside : offset ≤ bytes.length) :
    Follows bytes (eventsAt? bytes count offset) (decodeEvents count (bytes.drop offset)) := by
  induction count generalizing offset with
  | zero => exact .inr ⟨[], offset, inside, rfl, rfl⟩
  | succ count ih =>
      unfold eventsAt? decodeEvents
      obtain ⟨problem, failed, checked⟩ | ⟨event, next, within, read, checked⟩ :=
        eventAt?_follows inside
      · simp only [failed, checked, Option.bind_eq_bind, Option.bind_some]
        exact .inl ⟨problem, rfl, rfl⟩
      simp only [read, checked, Option.bind_eq_bind, Option.bind_some]
      obtain ⟨problem, failed, checked⟩ | ⟨events, last, within, read, checked⟩ := ih within
      · simp only [failed, checked, Option.bind_some]
        exact .inl ⟨problem, rfl, rfl⟩
      · simp only [read, checked, Option.bind_some]
        exact .inr ⟨_, last, within, rfl, rfl⟩

/-- No byte string makes the decoder read outside of it. -/
theorem decode?_eq (bytes : Bytes) : decode? bytes = some (decode bytes) := by
  unfold decode? decode
  by_cases short : bytes.length < headerSize
  · rw [if_pos short, if_pos short]
  have long : 14 ≤ bytes.length := not_lt.mp short
  simp only [short, if_false, readInt?_eq (show 0 + 2 ≤ bytes.length by omega),
    readInt?_eq (show 4 + 2 ≤ bytes.length by omega),
    readInt?_eq (show 6 + 4 ≤ bytes.length by omega),
    readInt?_eq (show 10 + 2 ≤ bytes.length by omega),
    byte?_eq (show 2 < bytes.length by omega), byte?_eq (show 3 < bytes.length by omega),
    byte?_eq (show 12 < bytes.length by omega), byte?_eq (show 13 < bytes.length by omega),
    Option.bind_eq_bind, Option.bind_some]
  split
  · rfl
  split
  · rfl
  cases MessageType.ofByte (bytes.getD 3 0) with
  | none => rfl
  | some type =>
      simp only
      split
      · rfl
      split
      · rfl
      obtain ⟨problem, failed, checked⟩ | ⟨events, last, within, read, checked⟩ :=
        @eventsAt?_follows bytes (bytes.getD 12 0).toNat headerSize long
      · simp only [failed, checked, Option.bind_some]
      · simp only [read, checked, Option.bind_some, ne_eq, List.drop_eq_nil_iff]
        by_cases all : last = bytes.length
        · simp [all]
        · rw [if_pos all, if_pos (by omega)]

theorem decodeAuthenticated?_eq (mac : Mac) (bytes secret : Bytes) :
    decodeAuthenticated? mac bytes secret = some (decodeAuthenticated mac bytes secret) := by
  unfold decodeAuthenticated? decodeAuthenticated
  split
  · rfl
  split
  · rfl
  rename_i long
  have tag : slice? bytes (bytes.length - authTagSize) (bytes.length - authTagSize + authTagSize) =
      some (bytes.drop (bytes.length - authTagSize)) := by
    have inside : bytes.length - authTagSize + authTagSize = bytes.length := by omega
    rw [slice?, if_pos (by omega), inside, List.take_of_length_le (by rw [List.length_drop])]
  have payload : slice? bytes 0 (bytes.length - authTagSize) =
      some (bytes.take (bytes.length - authTagSize)) := by
    rw [slice?, if_pos (by omega), List.drop_zero, Nat.sub_zero]
  simp only [tag, payload, Option.bind_eq_bind, Option.bind_some]
  split
  · rfl
  · exact decode?_eq _

end Bounds

end LyuneGateway.Membership
