import LyuneGateway.Lib.BigEndian

/-!
# Frame headers

An exchange starts with an OPEN frame, which carries the destination, and
continues with DATA frames, which carry only a length. Every enumerated byte is
decoded through an explicit whitelist; control types alone form an open space.
-/

namespace LyuneGateway

abbrev Bytes := List UInt8

/-- The isolation domain of a connection, two bytes on the wire. -/
abbrev RealmId := Nat

namespace Protocol

def openHeaderSize : Nat := 8
def dataHeaderSize : Nat := 4
def datagramHeaderSize : Nat := 2
def maxBodySize : Nat := 65535
def maxFrameSize : Nat := openHeaderSize + maxBodySize

inductive FrameError where
  | bufferTooSmall
  | unknownFrameType
  | unknownDestKind
  | unknownResponseMode
  | reservedBitsSet
  | datagramOnStream
  | invalidChannel
  | bodyTooLarge
  | frameTooLarge
  | frameLengthMismatch
  deriving DecidableEq, Repr

inductive FrameType where
  | openFrame
  | data
  | datagram
  deriving DecidableEq, Repr

namespace FrameType

def toByte : FrameType → UInt8
  | openFrame => 0
  | data => 1
  | datagram => 2

def headerSize : FrameType → Nat
  | openFrame => openHeaderSize
  | data => dataHeaderSize
  | datagram => datagramHeaderSize

def decode (byte : UInt8) : Except FrameError FrameType :=
  if byte = 0 then .ok openFrame
  else if byte = 1 then .ok data
  else if byte = 2 then .ok datagram
  else .error .unknownFrameType

@[simp] theorem decode_toByte (kind : FrameType) : decode kind.toByte = .ok kind := by
  cases kind <;> rfl

theorem headerSize_pos (kind : FrameType) : 0 < kind.headerSize := by
  cases kind <;> decide

end FrameType

/-- Where an exchange is addressed to. -/
inductive DestKind where
  | gateway
  | service
  | peer
  | multicast
  deriving DecidableEq, Repr

namespace DestKind

def toByte : DestKind → UInt8
  | gateway => 0
  | service => 1
  | peer => 2
  | multicast => 3

def decode (byte : UInt8) : Except FrameError DestKind :=
  if byte = 0 then .ok gateway
  else if byte = 1 then .ok service
  else if byte = 2 then .ok peer
  else if byte = 3 then .ok multicast
  else .error .unknownDestKind

def hasRouteKey (kind : DestKind) : Bool := kind = gateway || kind = service

@[simp] theorem decode_toByte (kind : DestKind) : decode kind.toByte = .ok kind := by
  cases kind <;> rfl

end DestKind

/-- Whether the side that opens an exchange expects application frames back. -/
inductive ResponseMode where
  | required
  | none
  deriving DecidableEq, Repr

namespace ResponseMode

def toByte : ResponseMode → UInt8
  | required => 0
  | none => 1

def decode (byte : UInt8) : Except FrameError ResponseMode :=
  if byte = 0 then .ok required
  else if byte = 1 then .ok none
  else .error .unknownResponseMode

@[simp] theorem decode_toByte (mode : ResponseMode) : decode mode.toByte = .ok mode := by
  cases mode <;> rfl

end ResponseMode

/-- The control types the gateway names; any other byte is `other`. -/
inductive ControlType where
  | heartbeat
  | heartbeatAck
  | ping
  | pong
  | authRequest
  | authSuccess
  | authFailure
  | kickOff
  | disconnect
  | forceClose
  | redirect
  | bindChannel
  | unbindChannel
  | sessionResume
  | sessionResumeAck
  | sessionResumeFail
  | sessionOnline
  | sessionOffline
  | joinGroup
  | leaveGroup
  | gatewayError
  | maintenance
  | other (code : UInt8)
  deriving DecidableEq, Repr

namespace ControlType

def toByte : ControlType → UInt8
  | heartbeat => 0x00
  | heartbeatAck => 0x01
  | ping => 0x02
  | pong => 0x03
  | authRequest => 0x10
  | authSuccess => 0x11
  | authFailure => 0x12
  | kickOff => 0x20
  | disconnect => 0x21
  | forceClose => 0x22
  | redirect => 0x23
  | bindChannel => 0x24
  | unbindChannel => 0x25
  | sessionResume => 0x30
  | sessionResumeAck => 0x31
  | sessionResumeFail => 0x32
  | sessionOnline => 0x33
  | sessionOffline => 0x34
  | joinGroup => 0x40
  | leaveGroup => 0x41
  | gatewayError => 0xF0
  | maintenance => 0xF1
  | other code => code

/-- The control types that have a name, in the order of their bytes. -/
def named : List ControlType :=
  [heartbeat, heartbeatAck, ping, pong, authRequest, authSuccess, authFailure, kickOff,
    disconnect, forceClose, redirect, bindChannel, unbindChannel, sessionResume,
    sessionResumeAck, sessionResumeFail, sessionOnline, sessionOffline, joinGroup, leaveGroup,
    gatewayError, maintenance]

def ofByte (byte : UInt8) : ControlType :=
  (named.find? fun kind => kind.toByte = byte).getD (other byte)

theorem toByte_ofByte (byte : UInt8) : (ofByte byte).toByte = byte := by
  unfold ofByte
  cases found : named.find? fun kind => kind.toByte = byte with
  | none => rfl
  | some kind => simpa using List.find?_some found

theorem ofByte_toByte_of_named {kind : ControlType} (member : kind ∈ named) :
    ofByte kind.toByte = kind := by
  revert kind
  decide

end ControlType

structure Flags where
  eof : Bool := false
  report : Bool := false
  unreliable : Bool := false
  deriving DecidableEq, Repr

namespace Flags

def last : Flags := { eof := true }

def toByte (flags : Flags) : UInt8 :=
  (if flags.eof then 1 else 0) + (if flags.report then 2 else 0) +
    (if flags.unreliable then 4 else 0)

/-- The five bits above the three flags are reserved and must be zero. -/
def decode (byte : UInt8) : Except FrameError Flags :=
  if 8 ≤ byte.toNat then .error .reservedBitsSet
  else .ok {
    eof := byte.toNat.testBit 0
    report := byte.toNat.testBit 1
    unreliable := byte.toNat.testBit 2 }

@[simp] theorem decode_toByte (flags : Flags) : decode flags.toByte = .ok flags := by
  rcases flags with ⟨_ | _, _ | _, _ | _⟩ <;> rfl

end Flags

/-- The header fields of OPEN and DATA frames; on DATA the destination keeps its defaults. -/
structure FrameHeader where
  frameType : FrameType
  flags : Flags := {}
  bodyLen : Nat := 0
  destKind : DestKind := .gateway
  responseMode : ResponseMode := .required
  group : UInt8 := 0
  routeKey : UInt8 := 0
  deriving DecidableEq, Repr

/-- A route key: the service group and the route within it. -/
structure RouteId where
  group : UInt8 := 0
  routeKey : UInt8 := 0
  deriving DecidableEq, Repr

namespace FrameHeader

def initOpen (destKind : DestKind) (route : RouteId) (responseMode : ResponseMode)
    (flags : Flags) (bodyLen : Nat) : FrameHeader where
  frameType := .openFrame
  flags := flags
  bodyLen := bodyLen
  destKind := destKind
  responseMode := responseMode
  group := route.group
  routeKey := route.routeKey

def initData (flags : Flags) (bodyLen : Nat) : FrameHeader where
  frameType := .data
  flags := flags
  bodyLen := bodyLen

def headerSize (header : FrameHeader) : Nat := header.frameType.headerSize

def frameSize (header : FrameHeader) : Nat := header.headerSize + header.bodyLen

def isOpen (header : FrameHeader) : Bool := header.frameType = .openFrame

def isLast (header : FrameHeader) : Bool := header.flags.eof

/-- The bytes of a header: four for every frame, four more on OPEN. -/
def wire (header : FrameHeader) : Bytes :=
  header.frameType.toByte :: header.flags.toByte :: (BigEndian.write 2 header.bodyLen ++
    if header.frameType = .openFrame then
      [header.destKind.toByte, header.responseMode.toByte, header.group, header.routeKey]
    else [])

/-- The header, written into a buffer of `capacity` bytes. -/
def encode (header : FrameHeader) (capacity : Nat) : Except FrameError Bytes :=
  if header.frameType = .datagram then .error .datagramOnStream
  else if capacity < header.headerSize then .error .bufferTooSmall
  else .ok header.wire

/-- The header at the start of a buffer, which must cover it completely. -/
def decode (buf : Bytes) : Except FrameError FrameHeader :=
  match buf with
  | [] => .error .bufferTooSmall
  | first :: _ => do
      let frameType ← FrameType.decode first
      if frameType = .datagram then .error .datagramOnStream
      else if buf.length < frameType.headerSize then .error .bufferTooSmall
      else
        let flags ← Flags.decode (buf.getD 1 0)
        if frameType = .data ∧ flags.report then .error .reservedBitsSet
        else
          let bodyLen := BigEndian.readAt buf 2 2
          if frameType = .openFrame then
            let destKind ← DestKind.decode (buf.getD 4 0)
            let responseMode ← ResponseMode.decode (buf.getD 5 0)
            .ok {
              frameType := frameType
              flags := flags
              bodyLen := bodyLen
              destKind := destKind
              responseMode := responseMode
              group := buf.getD 6 0
              routeKey := buf.getD 7 0 }
          else .ok { frameType := frameType, flags := flags, bodyLen := bodyLen }

/-- The route key, on the destinations that are addressed by one. -/
def routeId (header : FrameHeader) : Option RouteId :=
  if header.frameType ≠ .openFrame ∨ header.destKind.hasRouteKey = false then none
  else some { group := header.group, routeKey := header.routeKey }

/-- The control type of an OPEN to the gateway; a nonzero group leaves it undefined. -/
def controlType (header : FrameHeader) : Option ControlType :=
  if header.frameType ≠ .openFrame ∨ header.destKind ≠ .gateway ∨ header.group ≠ 0 then none
  else some (ControlType.ofByte header.routeKey)

/-- The realm that peer nodes carry in the two header bytes without a route key. -/
def realmHint (header : FrameHeader) : Option RealmId :=
  if header.frameType ≠ .openFrame ∨ header.destKind.hasRouteKey then none
  else some (header.group.toNat * 256 + header.routeKey.toNat)

theorem headerSize_pos (header : FrameHeader) : 0 < header.headerSize :=
  header.frameType.headerSize_pos

theorem frameSize_pos (header : FrameHeader) : 0 < header.frameSize :=
  Nat.add_pos_left header.headerSize_pos _

/-- A computation that may fail succeeds exactly when both of its parts do. -/
theorem bind_eq_ok {ε α β : Type} {first : Except ε α} {next : α → Except ε β} {result : β} :
    (first >>= next) = .ok result ↔ ∃ value, first = .ok value ∧ next value = .ok result := by
  cases first with
  | error problem => simp [bind, Except.bind]
  | ok value => simp [bind, Except.bind]

theorem ok_bind {ε α β : Type} (value : α) (next : α → Except ε β) :
    ((Except.ok value : Except ε α) >>= next) = next value := rfl

/-- What a successful decoding says about the bytes of the buffer. -/
structure Reads (buf : Bytes) (header : FrameHeader) : Prop where
  frameType : FrameType.decode (buf.getD 0 0) = .ok header.frameType
  notDatagram : header.frameType ≠ .datagram
  covered : header.headerSize ≤ buf.length
  flags : Flags.decode (buf.getD 1 0) = .ok header.flags
  report : header.frameType = .data → header.flags.report = false
  bodyLen : header.bodyLen = BigEndian.readAt buf 2 2
  destination : header.frameType = .openFrame →
    DestKind.decode (buf.getD 4 0) = .ok header.destKind ∧
    ResponseMode.decode (buf.getD 5 0) = .ok header.responseMode ∧
    header.group = buf.getD 6 0 ∧ header.routeKey = buf.getD 7 0
  defaults : header.frameType ≠ .openFrame →
    header.destKind = .gateway ∧ header.responseMode = .required ∧
    header.group = 0 ∧ header.routeKey = 0

theorem Reads.of_decode {buf : Bytes} {header : FrameHeader} (decoded : decode buf = .ok header) :
    Reads buf header := by
  cases buf with
  | nil => simp [decode] at decoded
  | cons first rest =>
      simp only [decode, bind_eq_ok] at decoded
      obtain ⟨frameType, typeDecoded, decoded⟩ := decoded
      split at decoded
      · simp at decoded
      rename_i onStream
      split at decoded
      · simp at decoded
      rename_i long
      simp only [bind_eq_ok] at decoded
      obtain ⟨flags, flagsDecoded, decoded⟩ := decoded
      split at decoded
      · simp at decoded
      rename_i noReport
      split at decoded
      · rename_i isOpen
        simp only [bind_eq_ok] at decoded
        obtain ⟨destKind, destDecoded, responseMode, modeDecoded, decoded⟩ := decoded
        cases decoded
        exact ⟨typeDecoded, onStream, not_lt.mp long, flagsDecoded, by simp [isOpen], rfl,
          fun _ => ⟨destDecoded, modeDecoded, rfl, rfl⟩, fun other => absurd isOpen other⟩
      · rename_i notOpen
        cases decoded
        exact ⟨typeDecoded, onStream, not_lt.mp long, flagsDecoded,
          fun isData => by simpa [show frameType = .data from isData] using noReport, rfl,
          fun isOpen => absurd isOpen notOpen, fun _ => ⟨rfl, rfl, rfl, rfl⟩⟩

theorem Reads.decode_eq {buf : Bytes} {header : FrameHeader} (reads : Reads buf header) :
    decode buf = .ok header := by
  cases buf with
  | nil =>
      have covered := reads.covered
      have positive := header.headerSize_pos
      simp at covered
      omega
  | cons first rest =>
      have typeDecoded : FrameType.decode first = .ok header.frameType := reads.frameType
      have long : ¬ (first :: rest).length < header.frameType.headerSize := not_lt.mpr reads.covered
      have noReport : ¬ (header.frameType = .data ∧ header.flags.report = true) := by
        rintro ⟨isData, reported⟩
        simp [reads.report isData] at reported
      simp only [decode, typeDecoded, ok_bind, reads.notDatagram, long, reads.flags, noReport,
        ↓reduceIte]
      by_cases isOpen : header.frameType = .openFrame
      · obtain ⟨destDecoded, modeDecoded, groupRead, routeRead⟩ := reads.destination isOpen
        simp only [isOpen, destDecoded, modeDecoded, ok_bind, ↓reduceIte, ← reads.bodyLen,
          ← groupRead, ← routeRead]
        simp [← isOpen]
      · obtain ⟨noDest, noMode, noGroup, noRoute⟩ := reads.defaults isOpen
        rcases header with ⟨frameType, flags, bodyLen, destKind, responseMode, group, routeKey⟩
        simp only at *
        subst noDest noMode noGroup noRoute
        simpa [isOpen] using reads.bodyLen.symm

theorem decode_eq_ok_iff {buf : Bytes} {header : FrameHeader} :
    decode buf = .ok header ↔ Reads buf header :=
  ⟨Reads.of_decode, Reads.decode_eq⟩

/-- The headers an encoder produces: DATA carries neither a destination nor a report. -/
structure Encodable (header : FrameHeader) : Prop where
  notDatagram : header.frameType ≠ .datagram
  small : header.bodyLen ≤ maxBodySize
  report : header.frameType = .data → header.flags.report = false
  defaults : header.frameType ≠ .openFrame →
    header.destKind = .gateway ∧ header.responseMode = .required ∧
    header.group = 0 ∧ header.routeKey = 0

theorem encode_eq_ok {header : FrameHeader} {capacity : Nat} {bytes : Bytes} :
    header.encode capacity = .ok bytes ↔
      header.frameType ≠ .datagram ∧ header.headerSize ≤ capacity ∧ header.wire = bytes := by
  unfold encode
  split
  · simp_all
  · split
    · simp_all
    · simp_all

theorem length_wire {header : FrameHeader} (onStream : header.frameType ≠ .datagram) :
    header.wire.length = header.headerSize := by
  cases kind : header.frameType
  · simp [wire, headerSize, kind, FrameType.headerSize, openHeaderSize]
  · simp [wire, headerSize, kind, FrameType.headerSize, dataHeaderSize]
  · exact absurd kind onStream

/-- An encoded header is decoded back, whatever body follows it. -/
theorem decode_wire {header : FrameHeader} (fit : header.Encodable) (body : Bytes) :
    decode (header.wire ++ body) = .ok header := by
  have length := length_wire fit.notDatagram
  have small : header.bodyLen < 256 ^ 2 := by
    have := fit.small
    simp only [maxBodySize] at this
    omega
  rw [decode_eq_ok_iff]
  refine ⟨by simp [wire], fit.notDatagram, by simp [length], by simp [wire], fit.report, ?_, ?_,
    fit.defaults⟩
  · symm
    have start : [header.frameType.toByte, header.flags.toByte].length = 2 := rfl
    simpa [wire] using BigEndian.readAt_write start small _
  · intro isOpen
    simp [wire, isOpen, BigEndian.write]

end FrameHeader

end Protocol

end LyuneGateway
