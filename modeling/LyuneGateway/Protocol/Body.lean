import LyuneGateway.Protocol.Frame

/-!
# Body prefixes the gateway reads and writes

Each prefix has a fixed layout and is followed by bytes the gateway never looks
at. A prefix that is cut short is rejected, never filled up with defaults.
-/

namespace LyuneGateway.Protocol

/-- The prefix the gateway puts before the body of an authentication request. -/
structure AuthContext where
  realm : RealmId := 0
  connToken : Nat := 0
  deriving DecidableEq, Repr

namespace AuthContext

def size : Nat := 18

def encode (context : AuthContext) : Bytes :=
  BigEndian.write 2 context.realm ++ BigEndian.write 16 context.connToken

/-- `encode` into a buffer of `capacity` bytes. -/
def encodeInto (capacity : Nat) (context : AuthContext) : Except FrameError Bytes :=
  if capacity < size then .error .bufferTooSmall else .ok context.encode

def decode (body : Bytes) : Except FrameError AuthContext :=
  if body.length < size then .error .bufferTooSmall
  else .ok { realm := BigEndian.readAt body 0 2, connToken := BigEndian.readAt body 2 16 }

end AuthContext

/-- The prefix of an authentication response: the granted identity and its lifetime. -/
structure AuthGrant where
  destId : Nat := 0
  ttlSeconds : Nat := 0
  deriving DecidableEq, Repr

namespace AuthGrant

def size : Nat := 12

def decode (body : Bytes) : Except FrameError AuthGrant :=
  if body.length < size then .error .bufferTooSmall
  else .ok { destId := BigEndian.readAt body 0 8, ttlSeconds := BigEndian.readAt body 8 4 }

def encode (capacity : Nat) (grant : AuthGrant) : Except FrameError Bytes :=
  if capacity < size then .error .bufferTooSmall
  else .ok (BigEndian.write 8 grant.destId ++ BigEndian.write 4 grant.ttlSeconds)

end AuthGrant

/-- A count followed by that many entries of `width` bytes each. -/
structure EntryList (width : Nat) where
  count : Nat
  entries : Bytes
  deriving DecidableEq, Repr

namespace EntryList

variable {width : Nat}

def byteSize (width count : Nat) : Nat := 2 + count * width

def decode (width : Nat) (body : Bytes) : Except FrameError (EntryList width) :=
  if body.length < 2 then .error .bufferTooSmall
  else
    let count := BigEndian.readAt body 0 2
    if body.length < byteSize width count then .error .bufferTooSmall
    else .ok { count := count, entries := (body.take (byteSize width count)).drop 2 }

def get (list : EntryList width) (i : Nat) : Nat :=
  BigEndian.readAt list.entries (i * width) width

def prefixLen (list : EntryList width) : Nat := byteSize width list.count

/-- The entries in the order of the list. -/
def toList (list : EntryList width) : List Nat := (List.range list.count).map list.get

/-- The most entries that fit the body of one frame. -/
def maxEntries (width : Nat) : Nat := (maxBodySize - 2) / width

def encode (width : Nat) (capacity : Nat) (values : List Nat) : Except FrameError Bytes :=
  if maxEntries width < values.length then .error .bodyTooLarge
  else if capacity < byteSize width values.length then .error .bufferTooSmall
  else .ok (BigEndian.write 2 values.length ++ values.flatMap (BigEndian.write width))

@[simp] theorem length_toList (list : EntryList width) : list.toList.length = list.count := by
  simp [toList]

end EntryList

def destIdSize : Nat := 8
def connTokenSize : Nat := 16

/-- The identities or groups an exchange is addressed to. -/
abbrev TargetList := EntryList destIdSize

/-- The connections a control exchange is about. -/
abbrev TokenList := EntryList connTokenSize

def maxTargets : Nat := EntryList.maxEntries destIdSize
def maxConnTokens : Nat := EntryList.maxEntries connTokenSize

def TargetList.decode (body : Bytes) : Except FrameError TargetList :=
  EntryList.decode destIdSize body

def TokenList.decode (body : Bytes) : Except FrameError TokenList :=
  EntryList.decode connTokenSize body

/-- A change of one group's membership: the group, then the connections. -/
structure GroupBinding where
  groupId : Nat
  members : TokenList
  deriving DecidableEq, Repr

namespace GroupBinding

def size : Nat := 8

def decode (body : Bytes) : Except FrameError GroupBinding :=
  if body.length < size then .error .bufferTooSmall
  else do
    let members ← TokenList.decode (body.drop size)
    .ok { groupId := BigEndian.readAt body 0 8, members := members }

def encode (capacity groupId : Nat) (members : List Nat) : Except FrameError Bytes :=
  if capacity < size then .error .bufferTooSmall
  else do
    let list ← EntryList.encode connTokenSize (capacity - size) members
    .ok (BigEndian.write 8 groupId ++ list)

end GroupBinding

/-- The channels one connection can bind, and the bound on a channel number. -/
def maxChannels : Nat := 8

structure ChannelBinding where
  channel : Nat
  groupId : Nat
  deriving DecidableEq, Repr

namespace ChannelBinding

def size : Nat := 9

def decode (body : Bytes) : Except FrameError ChannelBinding :=
  if body.length < size then .error .bufferTooSmall
  else
    let channel := (body.getD 0 0).toNat
    if maxChannels ≤ channel then .error .invalidChannel
    else .ok { channel := channel, groupId := BigEndian.readAt body 1 8 }

def encode (capacity channel groupId : Nat) : Except FrameError Bytes :=
  if capacity < size then .error .bufferTooSmall
  else if maxChannels ≤ channel then .error .invalidChannel
  else .ok (UInt8.ofNat channel :: BigEndian.write 8 groupId)

end ChannelBinding

def decodeChannel (body : Bytes) : Except FrameError Nat :=
  if body.length < 1 then .error .bufferTooSmall
  else if maxChannels ≤ (body.getD 0 0).toNat then .error .invalidChannel
  else .ok (body.getD 0 0).toNat

/-- A packet of the unreliable path: a channel number and its payload. -/
structure Datagram where
  channel : Nat
  payload : Bytes
  deriving DecidableEq, Repr

namespace Datagram

def decode (bytes : Bytes) : Except FrameError Datagram :=
  if bytes.length < datagramHeaderSize then .error .bufferTooSmall
  else if bytes.getD 0 0 ≠ FrameType.datagram.toByte then .error .unknownFrameType
  else
    let channel := (bytes.getD 1 0).toNat
    if maxChannels ≤ channel then .error .invalidChannel
    else .ok { channel := channel, payload := bytes.drop datagramHeaderSize }

theorem channel_lt {bytes : Bytes} {datagram : Datagram} (decoded : decode bytes = .ok datagram) :
    datagram.channel < maxChannels := by
  unfold decode at decoded
  split at decoded
  · simp at decoded
  split at decoded
  · simp at decoded
  simp only at decoded
  split at decoded
  · simp at decoded
  rename_i valid
  cases decoded
  exact not_le.mp valid

end Datagram

/-- Why a connection went online or offline. -/
inductive SessionReason where
  | authenticated
  | transportClosed
  | applicationClosed
  | statelessReset
  | clientDisconnect
  | kicked
  | admissionExpired
  | identityReplaced
  | leaseRefresh
  deriving DecidableEq, Repr

def SessionReason.toByte : SessionReason → UInt8
  | authenticated => 0
  | transportClosed => 1
  | applicationClosed => 2
  | statelessReset => 3
  | clientDisconnect => 4
  | kicked => 5
  | admissionExpired => 6
  | identityReplaced => 7
  | leaseRefresh => 8

def SessionReason.decode (byte : UInt8) : Except FrameError SessionReason :=
  if byte = 0 then .ok authenticated
  else if byte = 1 then .ok transportClosed
  else if byte = 2 then .ok applicationClosed
  else if byte = 3 then .ok statelessReset
  else if byte = 4 then .ok clientDisconnect
  else if byte = 5 then .ok kicked
  else if byte = 6 then .ok admissionExpired
  else if byte = 7 then .ok identityReplaced
  else if byte = 8 then .ok leaseRefresh
  else .error .reservedBitsSet

/-- The bits of a signed 64-bit time, and the time of such bits. -/
def timeBits (time : Int) : Nat := (time % 2 ^ 64).toNat

def timeOfBits (bits : Nat) : Int := Int.bmod bits (2 ^ 64)

/-- One lifecycle event of a connection, as the backend receives it. -/
structure SessionLifecycle where
  realm : RealmId
  connToken : Nat
  destId : Nat
  connectedAt : Int
  occurredAt : Int
  sequence : Nat
  reason : SessionReason
  deriving DecidableEq, Repr

namespace SessionLifecycle

def size : Nat := 51

def encode (event : SessionLifecycle) : Bytes :=
  BigEndian.write 2 event.realm ++ BigEndian.write 16 event.connToken ++
    BigEndian.write 8 event.destId ++ BigEndian.write 8 (timeBits event.connectedAt) ++
    BigEndian.write 8 (timeBits event.occurredAt) ++ BigEndian.write 8 event.sequence ++
    [event.reason.toByte]

def encodeInto (capacity : Nat) (event : SessionLifecycle) : Except FrameError Bytes :=
  if capacity < size then .error .bufferTooSmall else .ok event.encode

def decode (body : Bytes) : Except FrameError SessionLifecycle :=
  if body.length < size then .error .bufferTooSmall
  else do
    let reason ← SessionReason.decode (body.getD 50 0)
    .ok {
      realm := BigEndian.readAt body 0 2
      connToken := BigEndian.readAt body 2 16
      destId := BigEndian.readAt body 18 8
      connectedAt := timeOfBits (BigEndian.readAt body 26 8)
      occurredAt := timeOfBits (BigEndian.readAt body 34 8)
      sequence := BigEndian.readAt body 42 8
      reason := reason }

end SessionLifecycle

/-- Where a redirected client should go: an opaque placement hint and an address. -/
structure RedirectHint where
  hint : Bytes
  address : Bytes
  deriving DecidableEq, Repr

namespace RedirectHint

def headerSize : Nat := 2

def encode (capacity : Nat) (hint address : Bytes) : Except FrameError Bytes :=
  if 255 < hint.length ∨ 255 < address.length then .error .bodyTooLarge
  else if capacity < headerSize + hint.length + address.length then .error .bufferTooSmall
  else .ok (UInt8.ofNat hint.length :: UInt8.ofNat address.length :: (hint ++ address))

def decode (body : Bytes) : Except FrameError RedirectHint :=
  if body.length < headerSize then .error .bufferTooSmall
  else
    let hintLen := (body.getD 0 0).toNat
    let addressLen := (body.getD 1 0).toNat
    if body.length < headerSize + hintLen + addressLen then .error .bufferTooSmall
    else .ok {
      hint := (body.drop headerSize).take hintLen
      address := (body.drop (headerSize + hintLen)).take addressLen }

end RedirectHint

end LyuneGateway.Protocol
