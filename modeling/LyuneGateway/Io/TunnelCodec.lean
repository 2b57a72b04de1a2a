import LyuneGateway.Io.Forward
import LyuneGateway.Membership.Wire
import LyuneGateway.Protocol.Frame
import LyuneGateway.Reactor.ReturnPath

/-!
# Datagrams of the forward tunnel

A datagram has a header of thirty-two bytes, the host of a client, a packet of
that client and a tag over all of it. What is accepted are the datagrams with a
right tag and no others; but a packet may be longer there than the encoder lets
it be.
-/

namespace LyuneGateway.Io.Forward

open LyuneGateway.Membership (Address Mac fin_ofNat_readAt fin_ofNat_of_eq)
open LyuneGateway.Reactor (TunnelKind)

def magic : Nat := 0x4c46
def version : UInt8 := 1
def tagSize : Nat := 32
def minSecretSize : Nat := 16
def maxPacketSize : Nat := 2048
def maxDatagramSize : Nat := 2200
def fixedHeaderSize : Nat := 32

inductive CodecError where
  | bufferTooSmall
  | packetTooLarge
  | secretTooShort
  | messageTooShort
  | badMagic
  | badVersion
  | invalidIdentity
  | badKind
  | badAddressFamily
  | invalidTag
  | trailingBytes
  deriving DecidableEq, Repr

def kindByte : TunnelKind → UInt8
  | .request => 1
  | .response => 2

def kindOfByte (byte : UInt8) : Option TunnelKind :=
  if byte = 1 then some .request else if byte = 2 then some .response else none

/-- A datagram: what the replay test reads of it, and what it carries. -/
structure Datagram extends Decoded where
  kind : TunnelKind
  sourceWorkerId : Nat
  targetWorkerId : Nat
  clientAddress : Address
  payload : Bytes
  deriving DecidableEq

def family : Address → UInt8
  | .ip4 _ _ => 4
  | .ip6 _ _ => 6

def hostWidth : Address → Nat
  | .ip4 _ _ => 4
  | .ip6 _ _ => 16

def hostNumber : Address → Nat
  | .ip4 host _ => host
  | .ip6 host _ => host

def portNumber : Address → Nat
  | .ip4 _ port => port
  | .ip6 _ port => port

theorem four_le_hostWidth (address : Address) : 4 ≤ hostWidth address := by
  cases address with
  | ip4 _ _ => exact Nat.le_refl 4
  | ip6 _ _ => exact (by decide : 4 ≤ 16)

theorem hostWidth_le (address : Address) : hostWidth address ≤ 16 := by
  cases address with
  | ip4 _ _ => exact (by decide : 4 ≤ 16)
  | ip6 _ _ => exact Nat.le_refl 16

namespace Datagram

/-- Some number that may not be zero is. -/
def NoIdentity (datagram : Datagram) : Prop :=
  datagram.sourceNodeId = 0 ∨ datagram.targetNodeId = 0 ∨ datagram.sessionId = 0 ∨
    datagram.sequence = 0

instance (datagram : Datagram) : Decidable datagram.NoIdentity :=
  inferInstanceAs (Decidable (_ ∨ _ ∨ _ ∨ _))

/-- The bytes before the host. -/
def header (datagram : Datagram) : Bytes :=
  BigEndian.write 2 magic ++
    (version :: UInt8.ofNat datagram.targetWorkerId :: family datagram.clientAddress ::
      (BigEndian.write 2 (portNumber datagram.clientAddress) ++
        (BigEndian.write 2 datagram.payload.length ++
          (BigEndian.write 2 datagram.sourceNodeId ++ (BigEndian.write 2 datagram.targetNodeId ++
            (BigEndian.write 8 datagram.sessionId ++ (BigEndian.write 8 datagram.sequence ++
              [kindByte datagram.kind, UInt8.ofNat datagram.sourceWorkerId, 0])))))))

/-- The bytes before the tag. -/
def authenticated (datagram : Datagram) : Bytes :=
  datagram.header ++ (BigEndian.write (hostWidth datagram.clientAddress)
    (hostNumber datagram.clientAddress) ++ datagram.payload)

def wire (mac : Mac) (secret : Bytes) (datagram : Datagram) : Bytes :=
  datagram.authenticated ++ mac secret datagram.authenticated

end Datagram

/-- A datagram in a buffer of `capacity` bytes. -/
def encode (mac : Mac) (secret : Bytes) (capacity : Nat) (datagram : Datagram) :
    Except CodecError Bytes :=
  if secret.length < minSecretSize then .error .secretTooShort
  else if datagram.NoIdentity then .error .invalidIdentity
  else if maxPacketSize < datagram.payload.length then .error .packetTooLarge
  else if capacity < fixedHeaderSize + hostWidth datagram.clientAddress +
      datagram.payload.length + tagSize then .error .bufferTooSmall
  else .ok (datagram.wire mac secret)

/-- The address of a family byte, read from its host and port. -/
def addressOf (family : UInt8) (bytes : Bytes) : Option Address :=
  let port := Fin.ofNat (2 ^ 16) (BigEndian.readAt bytes 5 2)
  if family = 4 then
    some (.ip4 (Fin.ofNat (2 ^ 32) (BigEndian.readAt bytes fixedHeaderSize 4)) port)
  else if family = 6 then
    some (.ip6 (Fin.ofNat (2 ^ 128) (BigEndian.readAt bytes fixedHeaderSize 16)) port)
  else none

def decode (mac : Mac) (bytes secret : Bytes) : Except CodecError Datagram :=
  if secret.length < minSecretSize then .error .secretTooShort
  else if bytes.length < fixedHeaderSize + 4 + tagSize then .error .messageTooShort
  else if BigEndian.readAt bytes 0 2 ≠ magic then .error .badMagic
  else if bytes.getD 2 0 ≠ version then .error .badVersion
  else if bytes.getD 31 0 ≠ 0 then .error .badVersion
  else
    match kindOfByte (bytes.getD 29 0) with
    | none => .error .badKind
    | some kind =>
        let identity : Decoded := {
          sourceNodeId := BigEndian.readAt bytes 9 2
          targetNodeId := BigEndian.readAt bytes 11 2
          sessionId := BigEndian.readAt bytes 13 8
          sequence := BigEndian.readAt bytes 21 8 }
        if identity.sourceNodeId = 0 ∨ identity.targetNodeId = 0 ∨ identity.sessionId = 0 ∨
            identity.sequence = 0 then .error .invalidIdentity
        else
          match addressOf (bytes.getD 4 0) bytes with
          | none => .error .badAddressFamily
          | some address =>
              let payloadOffset := fixedHeaderSize + hostWidth address
              let authenticatedLen := payloadOffset + BigEndian.readAt bytes 7 2
              if authenticatedLen + tagSize ≠ bytes.length then .error .trailingBytes
              else if mac secret (bytes.take authenticatedLen) ≠ bytes.drop authenticatedLen then
                .error .invalidTag
              else .ok { identity with
                kind := kind
                sourceWorkerId := (bytes.getD 30 0).toNat
                targetWorkerId := (bytes.getD 3 0).toNat
                clientAddress := address
                payload := (bytes.take authenticatedLen).drop payloadOffset }

@[simp] theorem kindOfByte_kindByte (kind : TunnelKind) : kindOfByte (kindByte kind) = some kind := by
  cases kind <;> rfl

theorem kindByte_of_kindOfByte {byte : UInt8} {kind : TunnelKind}
    (known : kindOfByte byte = some kind) : kindByte kind = byte := by
  unfold kindOfByte at known
  split at known
  · cases known
    exact Eq.symm ‹byte = _›
  split at known
  · cases known
    exact Eq.symm ‹byte = _›
  · cases known

namespace Datagram

variable {mac : Mac} {secret bytes : Bytes} {datagram : Datagram} {capacity : Nat}

/-- The numbers of a datagram fit their fields, and none is zero that may not be. -/
structure Legal (datagram : Datagram) : Prop where
  sourceNodeId : datagram.sourceNodeId < 2 ^ 16
  targetNodeId : datagram.targetNodeId < 2 ^ 16
  sessionId : datagram.sessionId < 2 ^ 64
  sequence : datagram.sequence < 2 ^ 64
  sourceWorkerId : datagram.sourceWorkerId < 2 ^ 8
  targetWorkerId : datagram.targetWorkerId < 2 ^ 8
  payload : datagram.payload.length < 2 ^ 16
  identity : ¬ datagram.NoIdentity

@[simp] theorem length_header (datagram : Datagram) : datagram.header.length = fixedHeaderSize := by
  simp [header, fixedHeaderSize]

@[simp] theorem length_authenticated (datagram : Datagram) : datagram.authenticated.length =
    fixedHeaderSize + hostWidth datagram.clientAddress + datagram.payload.length := by
  rw [authenticated, List.length_append, length_header, List.length_append,
    BigEndian.length_write, Nat.add_assoc]

theorem length_wire (datagram : Datagram) (secret : Bytes) (sized : mac.Sized) :
    (datagram.wire mac secret).length = fixedHeaderSize + hostWidth datagram.clientAddress +
      datagram.payload.length + tagSize := by
  have tag : (mac secret datagram.authenticated).length = tagSize := sized secret _
  rw [wire, List.length_append, length_authenticated, tag]

/-- The header as numbers. -/
def fields (datagram : Datagram) : List (Nat × Nat) :=
  [(2, magic), (1, version.toNat), (1, datagram.targetWorkerId),
    (1, (family datagram.clientAddress).toNat), (2, portNumber datagram.clientAddress),
    (2, datagram.payload.length), (2, datagram.sourceNodeId), (2, datagram.targetNodeId),
    (8, datagram.sessionId), (8, datagram.sequence), (1, (kindByte datagram.kind).toNat),
    (1, datagram.sourceWorkerId), (1, 0),
    (hostWidth datagram.clientAddress, hostNumber datagram.clientAddress)]

theorem wire_fields (datagram : Datagram) :
    Layout.wire datagram.fields ++ datagram.payload = datagram.authenticated := by
  simp [fields, authenticated, header, BigEndian.write]

theorem fields_small (legal : datagram.Legal) :
    ∀ field ∈ datagram.fields, field.2 < 256 ^ field.1 := by
  have port : portNumber datagram.clientAddress < 256 ^ 2 := by
    cases datagram.clientAddress with
    | ip4 host port => exact port.isLt
    | ip6 host port => exact port.isLt
  have host : hostNumber datagram.clientAddress < 256 ^ hostWidth datagram.clientAddress := by
    cases datagram.clientAddress with
    | ip4 host port => exact host.isLt
    | ip6 host port => exact host.isLt
  have kind := (kindByte datagram.kind).toNat_lt
  have byte := (family datagram.clientAddress).toNat_lt
  simp only [fields, List.mem_cons, List.not_mem_nil, or_false, forall_eq_or_imp, forall_eq,
    pow_one]
  exact ⟨by decide, by decide, legal.targetWorkerId, byte, port, legal.payload, legal.sourceNodeId,
    legal.targetNodeId, legal.sessionId, legal.sequence, kind, legal.sourceWorkerId, by decide, host⟩

theorem addressOf_family {address : Address} {bytes : Bytes}
    (port : BigEndian.readAt bytes 5 2 = portNumber address)
    (host : BigEndian.readAt bytes fixedHeaderSize (hostWidth address) = hostNumber address) :
    addressOf (family address) bytes = some address := by
  cases address with
  | ip4 number own =>
      rw [addressOf, family, if_pos rfl, fin_ofNat_of_eq port]
      exact congrArg (fun host => some (Address.ip4 host own)) (fin_ofNat_of_eq host)
  | ip6 number own =>
      rw [addressOf, family, if_neg (by decide), if_pos rfl, fin_ofNat_of_eq port]
      exact congrArg (fun host => some (Address.ip6 host own)) (fin_ofNat_of_eq host)

/-- A datagram with its tag is decoded as it was encoded. -/
theorem decode_wire (sized : mac.Sized) (long : minSecretSize ≤ secret.length)
    (legal : datagram.Legal) : decode mac (datagram.wire mac secret) secret = .ok datagram := by
  have total := datagram.length_wire secret sized
  have width := four_le_hostWidth datagram.clientAddress
  have reads := Layout.read_wire datagram.fields []
    (datagram.payload ++ mac secret datagram.authenticated) (fields_small legal)
  rw [List.nil_append, ← List.append_assoc, wire_fields] at reads
  change Layout.read _ (datagram.wire mac secret) 0 = _ at reads
  simp only [fields, Layout.read, List.map_cons, List.map_nil, Layout.readAt_one, List.cons.injEq,
    and_true, Nat.zero_add, Nat.reduceAdd] at reads
  obtain ⟨magicRead, versionRead, targetWorker, familyRead, portRead, payloadRead, sourceNode,
    targetNode, session, sequence, kindRead, sourceWorker, zeroRead, hostRead⟩ := reads
  have named := UInt8.toNat_inj.mp familyRead
  have kindNamed := UInt8.toNat_inj.mp kindRead
  have front : (datagram.wire mac secret).take (fixedHeaderSize +
      hostWidth datagram.clientAddress + datagram.payload.length) = datagram.authenticated := by
    rw [wire, ← length_authenticated, List.take_left]
  have rest : (datagram.wire mac secret).drop (fixedHeaderSize +
      hostWidth datagram.clientAddress + datagram.payload.length) =
        mac secret datagram.authenticated := by
    rw [wire, ← length_authenticated, List.drop_left]
  have packet : datagram.authenticated.drop (fixedHeaderSize + hostWidth datagram.clientAddress) =
      datagram.payload := by
    have before : (datagram.header ++ BigEndian.write (hostWidth datagram.clientAddress)
        (hostNumber datagram.clientAddress)).length =
          fixedHeaderSize + hostWidth datagram.clientAddress := by simp
    rw [authenticated, ← List.append_assoc, ← before, List.drop_left]
  rw [decode, if_neg (not_lt.mpr long), if_neg (by rw [total]; omega),
    if_neg (not_not.mpr magicRead), if_neg (not_not.mpr (UInt8.toNat_inj.mp versionRead)),
    if_neg (not_not.mpr (UInt8.toNat_inj.mp zeroRead)), kindNamed, kindOfByte_kindByte]
  simp only [sourceNode, targetNode, session, sequence, named,
    addressOf_family portRead hostRead, payloadRead, front, rest, packet, total, sourceWorker,
    targetWorker, ne_eq, not_true, if_false]
  exact if_neg legal.identity

/-- An address was read from the bytes that say what it is. -/
theorem addressOf_reads {address : Address} {byte : UInt8}
    (read : addressOf byte bytes = some address) : family address = byte ∧
      portNumber address = BigEndian.readAt bytes 5 2 ∧
      hostNumber address = BigEndian.readAt bytes fixedHeaderSize (hostWidth address) := by
  unfold addressOf at read
  dsimp only at read
  split at read
  · cases read
    exact ⟨Eq.symm ‹byte = 4›, fin_ofNat_readAt (by norm_num), fin_ofNat_readAt (by norm_num)⟩
  split at read
  · cases read
    exact ⟨Eq.symm ‹byte = 6›, fin_ofNat_readAt (by norm_num), fin_ofNat_readAt (by norm_num)⟩
  · cases read

/-- The widths of a header and a host. -/
def widths (width : Nat) : List Nat := [2, 1, 1, 1, 2, 2, 2, 2, 8, 8, 1, 1, 1, width]

theorem sum_widths (width : Nat) : (widths width).sum = fixedHeaderSize + width := by
  simp only [widths, List.sum_cons, List.sum_nil, fixedHeaderSize]
  omega

/-- A part of the bytes, cut at the packet. -/
theorem length_packet {offset length rest : Nat} (whole : offset + length + rest = bytes.length) :
    ((bytes.take (offset + length)).drop offset).length = length := by
  rw [List.length_drop, List.length_take]
  omega

theorem take_packet (offset length : Nat) :
    bytes.take offset ++ (bytes.take (offset + length)).drop offset =
      bytes.take (offset + length) := by
  conv_rhs => rw [← List.take_append_drop offset (bytes.take (offset + length))]
  rw [List.take_take, Nat.min_eq_left (Nat.le_add_right _ _)]

/-- What is decoded is legal, and its bytes are the ones it was decoded from. -/
theorem wire_of_decode (decoded : decode mac bytes secret = .ok datagram) :
    minSecretSize ≤ secret.length ∧ datagram.Legal ∧ datagram.wire mac secret = bytes ∧
      datagram.payload.length = BigEndian.readAt bytes 7 2 := by
  unfold decode at decoded
  split at decoded
  · cases decoded
  rename_i long
  split at decoded
  · cases decoded
  split at decoded
  · cases decoded
  rename_i magicRead
  split at decoded
  · cases decoded
  rename_i versionRead
  split at decoded
  · cases decoded
  rename_i zeroRead
  split at decoded
  · cases decoded
  rename_i kind kindRead
  dsimp only at decoded
  split at decoded
  · cases decoded
  rename_i identity
  split at decoded
  · cases decoded
  rename_i address addressRead
  split at decoded
  · cases decoded
  rename_i whole
  split at decoded
  · cases decoded
  rename_i tagged
  have whole := not_not.mp whole
  obtain ⟨familyRead, portRead, hostRead⟩ := addressOf_reads addressRead
  have hostRead : hostNumber address = BigEndian.readAt bytes 32 (hostWidth address) := hostRead
  have payloadLength := length_packet whole
  cases decoded
  refine ⟨not_lt.mp long, ⟨BigEndian.readAt_lt bytes 9 2, BigEndian.readAt_lt bytes 11 2,
    BigEndian.readAt_lt bytes 13 8, BigEndian.readAt_lt bytes 21 8, UInt8.toNat_lt _,
    UInt8.toNat_lt _, payloadLength.trans_lt (BigEndian.readAt_lt bytes 7 2), identity⟩, ?_,
    payloadLength⟩
  have inside : 0 + (widths (hostWidth address)).sum ≤ bytes.length := by
    rw [sum_widths, Nat.zero_add, ← whole, Nat.add_assoc]
    exact Nat.le_add_right _ _
  have zero : UInt8.toNat 0 = 0 := rfl
  have same := Layout.wire_read inside
  rw [sum_widths, List.drop_zero] at same
  simp only [widths, Layout.read, List.zip_cons_cons, List.zip_nil_right, Nat.zero_add,
    Nat.reduceAdd, Layout.readAt_one, not_not.mp magicRead, not_not.mp versionRead,
    not_not.mp zeroRead, zero] at same
  rw [wire, ← wire_fields]
  simp only [fields, payloadLength, familyRead, portRead, hostRead,
    kindByte_of_kindOfByte kindRead]
  rw [same, take_packet, not_not.mp tagged, List.take_append_drop]

theorem encode_eq_ok : encode mac secret capacity datagram = .ok bytes ↔
    minSecretSize ≤ secret.length ∧ ¬ datagram.NoIdentity ∧
      datagram.payload.length ≤ maxPacketSize ∧
      fixedHeaderSize + hostWidth datagram.clientAddress + datagram.payload.length + tagSize ≤
        capacity ∧
      datagram.wire mac secret = bytes := by
  unfold encode
  by_cases short : secret.length < minSecretSize
  · simp [short]
  by_cases nobody : datagram.NoIdentity
  · simp [short, nobody]
  by_cases large : maxPacketSize < datagram.payload.length
  · simp [short, nobody, large]
  by_cases narrow : capacity < fixedHeaderSize + hostWidth datagram.clientAddress +
      datagram.payload.length + tagSize
  · simp [short, nobody, large, narrow]
  · simp only [short, nobody, large, narrow, if_false, Except.ok.injEq, not_lt.mp short,
      not_lt.mp large, not_lt.mp narrow, not_false_eq_true, true_and]

end Datagram

/-- The decoder accepts just the legal datagrams with a right tag. One that was encoded comes back
and is no longer than a datagram may be; one that was accepted is encoded to the same bytes if and
only if it says that its packet is no longer than a packet may be. -/
theorem tunnel_codec_exact (mac : Mac) (sized : mac.Sized) (secret : Bytes) :
    (∀ (capacity : Nat) (datagram : Datagram) (bytes : Bytes),
      datagram.sourceNodeId < 2 ^ 16 → datagram.targetNodeId < 2 ^ 16 →
      datagram.sessionId < 2 ^ 64 → datagram.sequence < 2 ^ 64 →
      datagram.sourceWorkerId < 2 ^ 8 → datagram.targetWorkerId < 2 ^ 8 →
      encode mac secret capacity datagram = .ok bytes →
        decode mac bytes secret = .ok datagram ∧ bytes.length ≤ capacity ∧
          bytes.length ≤ maxDatagramSize) ∧
    (∀ (bytes : Bytes) (datagram : Datagram), decode mac bytes secret = .ok datagram →
      ∀ capacity, bytes.length ≤ capacity →
        (encode mac secret capacity datagram = .ok bytes ↔
          BigEndian.readAt bytes 7 2 ≤ maxPacketSize)) ∧
    ∀ (bytes : Bytes) (datagram : Datagram), decode mac bytes secret = .ok datagram ↔
      minSecretSize ≤ secret.length ∧ datagram.Legal ∧ datagram.wire mac secret = bytes := by
  have total (datagram : Datagram) := datagram.length_wire secret sized
  refine ⟨?_, ?_, ?_⟩
  · intro capacity datagram bytes source target session sequence sourceWorker targetWorker encoded
    obtain ⟨long, identity, small, room, rfl⟩ := Datagram.encode_eq_ok.mp encoded
    have narrow : datagram.payload.length < 2 ^ 16 := lt_of_le_of_lt small (by decide)
    have width := hostWidth_le datagram.clientAddress
    refine ⟨Datagram.decode_wire sized long ⟨source, target, session, sequence, sourceWorker,
      targetWorker, narrow, identity⟩, (total datagram).trans_le room, ?_⟩
    rw [total]
    simp only [fixedHeaderSize, tagSize, maxPacketSize, maxDatagramSize] at small ⊢
    omega
  · intro bytes datagram decoded capacity room
    obtain ⟨long, legal, rfl, length⟩ := Datagram.wire_of_decode decoded
    rw [Datagram.encode_eq_ok, ← length]
    exact ⟨fun encoded => encoded.2.2.1, fun small =>
      ⟨long, legal.identity, small, total datagram ▸ room, rfl⟩⟩
  · intro bytes datagram
    refine ⟨fun decoded => ?_, fun ⟨long, legal, same⟩ =>
      same ▸ Datagram.decode_wire sized long legal⟩
    obtain ⟨long, legal, same, -⟩ := Datagram.wire_of_decode decoded
    exact ⟨long, legal, same⟩

/-- A datagram of a client with a packet of that many zeros. -/
private def zeros (count : Nat) : Datagram where
  sourceNodeId := 1
  targetNodeId := 2
  sessionId := 11
  sequence := 19
  kind := .request
  sourceWorkerId := 3
  targetWorkerId := 7
  clientAddress := .ip4 (Fin.ofNat _ 0xc0000201) (Fin.ofNat _ 44321)
  payload := List.replicate count 0

private theorem zeros_legal {count : Nat} (small : count < 2 ^ 16) : (zeros count).Legal where
  sourceNodeId := show 1 < 2 ^ 16 by decide
  targetNodeId := show 2 < 2 ^ 16 by decide
  sessionId := show 11 < 2 ^ 64 by decide
  sequence := show 19 < 2 ^ 64 by decide
  sourceWorkerId := show 3 < 2 ^ 8 by decide
  targetWorkerId := show 7 < 2 ^ 8 by decide
  payload := List.length_replicate.trans_lt small
  identity := show ¬ (1 = 0 ∨ 2 = 0 ∨ 11 = 0 ∨ 19 = 0) by decide

/-- A tag that does not depend on what it is a tag of. -/
private def blank : Mac := fun _ _ => List.replicate tagSize 0

private theorem blank_sized : blank.Sized := fun _ _ => List.length_replicate

theorem tunnel_codec_exact_zeros :
    decode blank ((zeros 2).wire blank (List.replicate minSecretSize 5))
      (List.replicate minSecretSize 5) = .ok (zeros 2) :=
  ((tunnel_codec_exact blank blank_sized (List.replicate minSecretSize 5)).2.2 _ _).mpr
    ⟨by decide, zeros_legal (by decide), rfl⟩

/-- A datagram with a packet of 2049 bytes is accepted, but cannot be encoded. -/
theorem long_packet_is_accepted :
    ∃ (mac : Mac) (secret bytes : Bytes) (datagram : Datagram), mac.Sized ∧
      bytes.length ≤ maxDatagramSize ∧ decode mac bytes secret = .ok datagram ∧
      ∀ capacity, encode mac secret capacity datagram = .error .packetTooLarge := by
  have long : minSecretSize ≤ (List.replicate minSecretSize (5 : UInt8)).length := by decide
  have legal : (zeros 2049).Legal := zeros_legal (by decide)
  have length : (zeros 2049).payload.length = 2049 := List.length_replicate
  refine ⟨blank, List.replicate minSecretSize 5, _, zeros 2049, blank_sized, ?_,
    Datagram.decode_wire blank_sized long legal, fun capacity => ?_⟩
  · rw [Datagram.length_wire _ _ blank_sized, length]
    decide
  · rw [encode, if_neg (not_lt.mpr long), if_neg legal.identity, if_pos]
    rw [length]
    decide

end LyuneGateway.Io.Forward
