import LyuneGateway.Lib.BigEndian
import LyuneGateway.Membership.Table

/-!
# Messages between the nodes of a cluster

A message has a header of fixed size and up to sixteen events, each of which says
what is known of a member. Decoding is strict, and nothing may follow the last
event. With a secret, a message is followed by an authentication tag.
-/

namespace LyuneGateway.Membership

open Control (NodeStatus)

abbrev Bytes := List UInt8

def magic : Nat := 0x4c4d
def version : UInt8 := 1
def maxMessageSize : Nat := 1400
def authTagSize : Nat := 32
def minSecretSize : Nat := 16
def maxEvents : Nat := 16
def headerSize : Nat := 14
def maxEventSize : Nat := 26
def syncRequestFlag : Nat := 1
def syncMoreFlag : Nat := 2

inductive MessageType where
  | ping
  | ack
  | pingReq
  | sync
  deriving DecidableEq

def MessageType.toByte : MessageType → UInt8
  | ping => 1
  | ack => 2
  | pingReq => 3
  | sync => 4

def MessageType.ofByte (byte : UInt8) : Option MessageType :=
  if byte = 1 then some ping
  else if byte = 2 then some ack
  else if byte = 3 then some pingReq
  else if byte = 4 then some sync
  else none

def statusByte : NodeStatus → UInt8
  | .alive => 0
  | .suspect => 1
  | .dead => 2
  | .left => 3

def statusOfByte (byte : UInt8) : Option NodeStatus :=
  if byte = 0 then some .alive
  else if byte = 1 then some .suspect
  else if byte = 2 then some .dead
  else if byte = 3 then some .left
  else none

/-- What a node says of a member. -/
structure Event where
  nodeId : Nat
  status : NodeStatus
  incarnation : Nat
  address : Address
  deriving DecidableEq

structure Message where
  type : MessageType
  sender : Nat
  seq : Nat
  target : Nat := 0
  flags : Nat := 0
  events : List Event := []
  deriving DecidableEq

inductive EncodeError where
  | bufferTooSmall
  | tooManyEvents
  deriving DecidableEq

inductive DecodeError where
  | messageTooShort
  | badMagic
  | badVersion
  | badMessageType
  | badStatus
  | badAddressFamily
  | badFlags
  | missingAuthTag
  | invalidAuthTag
  | secretTooShort
  | tooManyEvents
  | trailingBytes
  deriving DecidableEq

def Address.wire : Address → Bytes
  | ip4 host port => 4 :: (BigEndian.write 4 host ++ BigEndian.write 2 port)
  | ip6 host port => 6 :: (BigEndian.write 16 host ++ BigEndian.write 2 port)

def Event.wire (event : Event) : Bytes :=
  BigEndian.write 2 event.nodeId ++ (statusByte event.status ::
    (BigEndian.write 4 event.incarnation ++ event.address.wire))

def Message.wire (message : Message) : Bytes :=
  BigEndian.write 2 magic ++ (version :: message.type.toByte ::
    (BigEndian.write 2 message.sender ++ (BigEndian.write 4 message.seq ++
      (BigEndian.write 2 message.target ++ (UInt8.ofNat message.events.length ::
        UInt8.ofNat message.flags :: message.events.flatMap Event.wire)))))

def Message.encode (message : Message) (capacity : Nat) : Except EncodeError Bytes :=
  if maxEvents < message.events.length then .error .tooManyEvents
  else if capacity < headerSize + message.events.length * maxEventSize then .error .bufferTooSmall
  else .ok message.wire

/-- The address behind the byte of its family, and what follows it. -/
def Address.decode (family : UInt8) (rest : Bytes) : Except DecodeError (Address × Bytes) :=
  if family = 4 then
    if rest.length < 6 then .error .messageTooShort
    else .ok (.ip4 (Fin.ofNat _ (BigEndian.readAt rest 0 4)) (Fin.ofNat _ (BigEndian.readAt rest 4 2)),
      rest.drop 6)
  else if family = 6 then
    if rest.length < 18 then .error .messageTooShort
    else .ok (.ip6 (Fin.ofNat _ (BigEndian.readAt rest 0 16))
      (Fin.ofNat _ (BigEndian.readAt rest 16 2)), rest.drop 18)
  else .error .badAddressFamily

/-- The next event, and what follows it. -/
def Event.decode (rest : Bytes) : Except DecodeError (Event × Bytes) :=
  if rest.length < 8 then .error .messageTooShort
  else
    match statusOfByte (rest.getD 2 0) with
    | none => .error .badStatus
    | some status =>
        match Address.decode (rest.getD 7 0) (rest.drop 8) with
        | .error problem => .error problem
        | .ok (address, rest') => .ok ({
            nodeId := BigEndian.readAt rest 0 2
            status := status
            incarnation := BigEndian.readAt rest 3 4
            address := address }, rest')

def decodeEvents : Nat → Bytes → Except DecodeError (List Event × Bytes)
  | 0, rest => .ok ([], rest)
  | count + 1, rest =>
      match Event.decode rest with
      | .error problem => .error problem
      | .ok (event, rest) =>
          match decodeEvents count rest with
          | .error problem => .error problem
          | .ok (events, rest) => .ok (event :: events, rest)

def decode (bytes : Bytes) : Except DecodeError Message :=
  if bytes.length < headerSize then .error .messageTooShort
  else if BigEndian.readAt bytes 0 2 ≠ magic then .error .badMagic
  else if bytes.getD 2 0 ≠ version then .error .badVersion
  else
    match MessageType.ofByte (bytes.getD 3 0) with
    | none => .error .badMessageType
    | some type =>
        let flags := (bytes.getD 13 0).toNat
        if syncRequestFlag + syncMoreFlag < flags then .error .badFlags
        else
          let count := (bytes.getD 12 0).toNat
          if maxEvents < count then .error .tooManyEvents
          else
            match decodeEvents count (bytes.drop headerSize) with
            | .error problem => .error problem
            | .ok (events, rest) =>
                if rest ≠ [] then .error .trailingBytes
                else .ok {
                  type := type
                  sender := BigEndian.readAt bytes 4 2
                  seq := BigEndian.readAt bytes 6 4
                  target := BigEndian.readAt bytes 10 2
                  flags := flags
                  events := events }

/-- The tag of a message, by its secret. -/
abbrev Mac := Bytes → Bytes → Bytes

def decodeAuthenticated (mac : Mac) (bytes secret : Bytes) : Except DecodeError Message :=
  if secret.length < minSecretSize then .error .secretTooShort
  else if bytes.length ≤ authTagSize then .error .missingAuthTag
  else
    let payload := bytes.take (bytes.length - authTagSize)
    if mac secret payload ≠ bytes.drop (bytes.length - authTagSize) then .error .invalidAuthTag
    else decode payload

/-- While the secret is being changed, messages with the previous one are still accepted. -/
def decodeAuthenticatedWithFallback (mac : Mac) (bytes current previous : Bytes) :
    Except DecodeError Message :=
  match decodeAuthenticated mac bytes current with
  | .error .invalidAuthTag =>
      if previous = [] then .error .invalidAuthTag else decodeAuthenticated mac bytes previous
  | answer => answer

end LyuneGateway.Membership
