import LyuneGateway.Protocol.Codec

/-!
# Links to peer nodes

A worker holds at most one QUIC connection to each peer node. The realm of a
frame travels in two bytes of its header. A stream belongs to the connection it
was opened on, which an epoch identifies.
-/

namespace LyuneGateway.Worker

open Protocol

inductive LinkState where
  | idle
  | connecting
  | ready
  | backoff
  deriving DecidableEq, Repr

/-- The link to one node; node zero marks a link that is not in use. -/
structure Link where
  nodeId : Nat := 0
  cnx : Option Nat := none
  state : LinkState := .idle
  failureCount : Nat := 0
  retryAt : Nat := 0
  nextStreamId : Nat := 0
  epoch : Nat := 0
  deriving DecidableEq, Repr

/-- A stream of a link, good for the connection of its epoch only. -/
structure PeerStream where
  nodeId : Nat
  epoch : Nat
  streamId : Nat
  deriving DecidableEq, Repr

structure PeerLinks where
  links : List Link
  nextCnx : Nat := 0

/-- How the outside answers a link: whether a connection can be started, and whether a write is
taken. -/
structure LinkAnswers where
  connects : Bool
  accepts : Bool
  deriving DecidableEq, Repr

def linkBackoffBaseUs : Nat := 100000
def linkBackoffMaxUs : Nat := 30000000

/-- The frame that goes over the link: the realm takes the place of the route key. -/
def patchRealm (bytes : Bytes) (realm : RealmId) : Option Bytes :=
  if bytes.length < openHeaderSize ∨ maxFrameSize < bytes.length then none
  else some (bytes.take 6 ++ [UInt8.ofNat (realm / 256), UInt8.ofNat (realm % 256)] ++
    bytes.drop 8)

namespace Link

def fail (link : Link) (now : Nat) : Link :=
  let failures := min (link.failureCount + 1) (2 ^ 32 - 1)
  { link with
    cnx := none
    failureCount := failures
    retryAt := now + min (linkBackoffBaseUs * 2 ^ min (failures - 1) 8) linkBackoffMaxUs
    state := .backoff }

/-- Start a connection when the link has none and its wait is over. -/
def ensureConnecting (link : Link) (cnx now : Nat) (connects : Bool) : Link :=
  if link.state = .ready ∨ link.state = .connecting then link
  else if link.state = .backoff ∧ now < link.retryAt then link
  else if connects = false then link.fail now
  else { link with state := .connecting, cnx := some cnx }

end Link

namespace PeerLinks

def init (maxLinks : Nat) : PeerLinks where
  links := List.replicate (max maxLinks 1) {}

def get (links : PeerLinks) (i : Nat) : Link := links.links.getD i {}

def set (links : PeerLinks) (i : Nat) (link : Link) : PeerLinks :=
  { links with links := links.links.set i link }

/-- The position of a node's link, which takes a free one if need be. -/
def linkFor (links : PeerLinks) (nodeId : Nat) : PeerLinks × Option Nat :=
  match links.links.findIdx? fun link => link.nodeId = nodeId with
  | some i => (links, some i)
  | none =>
      match links.links.findIdx? fun link => link.nodeId = 0 with
      | none => (links, none)
      | some i => (links.set i { nodeId := nodeId }, some i)

/-- The position of a link that is ready; one that is not is brought up for later. -/
def readyLink (links : PeerLinks) (nodeId now : Nat) (answers : LinkAnswers) :
    PeerLinks × Option Nat :=
  match links.linkFor nodeId with
  | (links, none) => (links, none)
  | (links, some i) =>
      if (links.get i).state = .ready then (links, some i)
      else
        ({ links.set i ((links.get i).ensureConnecting links.nextCnx now answers.connects) with
          nextCnx := links.nextCnx + 1 }, none)

def write (links : PeerLinks) (i now : Nat) (answers : LinkAnswers) : PeerLinks × Bool :=
  if (links.get i).cnx = none then (links, false)
  else if answers.accepts = false then (links.set i ((links.get i).fail now), false)
  else (links, true)

/-- The next stream of a link that is ready. -/
def openStream (links : PeerLinks) (i : Nat) : PeerLinks × PeerStream :=
  (links.set i { links.get i with nextStreamId := (links.get i).nextStreamId + 4 },
    { nodeId := (links.get i).nodeId
      epoch := (links.get i).epoch
      streamId := (links.get i).nextStreamId })

/-- Write a frame on a new stream. The result has the stream and the bytes that were taken. -/
def send (links : PeerLinks) (nodeId : Nat) (realm : RealmId) (bytes : Bytes) (now : Nat)
    (answers : LinkAnswers) : PeerLinks × Option (PeerStream × Bytes) :=
  match links.readyLink nodeId now answers with
  | (links, none) => (links, none)
  | (links, some i) =>
      match patchRealm bytes realm with
      | none => (links, none)
      | some patched =>
          let (links, stream) := links.openStream i
          match links.write i now answers with
          | (links, false) => (links, none)
          | (links, true) => (links, some (stream, patched))

/-- The link of a stream, as long as the connection that the stream was opened on is up. -/
def streamLink (links : PeerLinks) (stream : PeerStream) : PeerLinks × Option Nat :=
  match links.linkFor stream.nodeId with
  | (links, none) => (links, none)
  | (links, some i) =>
      if (links.get i).state ≠ .ready ∨ (links.get i).epoch ≠ stream.epoch then (links, none)
      else (links, some i)

def sendOn (links : PeerLinks) (stream : PeerStream) (now : Nat) (answers : LinkAnswers) :
    PeerLinks × Bool :=
  match links.streamLink stream with
  | (links, none) => (links, false)
  | (links, some i) => links.write i now answers

def resetSession (links : PeerLinks) (stream : PeerStream) : PeerLinks × Bool :=
  match links.streamLink stream with
  | (links, none) => (links, false)
  | (links, some i) => (links, (links.get i).cnx.isSome)

def poll (links : PeerLinks) (now : Nat) (connects : Nat → Bool) : PeerLinks :=
  { links with
    nextCnx := links.nextCnx + links.links.length
    links := links.links.mapIdx fun i link =>
      if link.nodeId = 0 ∨ link.state ≠ .backoff then link
      else link.ensureConnecting (links.nextCnx + i) now (connects i) }

def findByCnx (links : PeerLinks) (cnx : Nat) : Option Nat :=
  links.links.findIdx? fun link => link.cnx = some cnx

def onConnected (links : PeerLinks) (cnx : Nat) : PeerLinks :=
  match links.findByCnx cnx with
  | none => links
  | some i => links.set i { links.get i with
      state := .ready
      failureCount := 0
      retryAt := 0
      epoch := ((links.get i).epoch + 1) % 2 ^ 32 }

def onClose (links : PeerLinks) (cnx now : Nat) : PeerLinks :=
  match links.findByCnx cnx with
  | none => links
  | some i => links.set i ((links.get i).fail now)

end PeerLinks

end LyuneGateway.Worker
