import Mathlib.Data.List.Basic
import LyuneGateway.Lib.Run
import LyuneGateway.Reactor.ReturnPath

/-!
# Which worker a packet is for

The connection id of a packet tells the node and the worker that own the
connection. A packet that has come to the wrong worker is handed to the right
one; one that has come to the wrong node goes there by a tunnel, and so does
the answer on its way back. Nothing else makes a worker send to a client what
has come by the tunnel.
-/

namespace LyuneGateway.Reactor

open LyuneGateway.Membership (Address)

abbrev Bytes := List UInt8

/-! ## Connection ids -/

namespace Cid

def length : Nat := 12
def magic : Nat := 0x4c59
def version : UInt8 := 1
def nodeOffset : Nat := 3
def workerOffset : Nat := 5

/-- The worker that owns a connection. -/
structure Fields where
  nodeId : Nat
  workerId : Nat
  deriving DecidableEq, Repr

def encode (nodeId : UInt16) (workerId : UInt8) (entropy : Vector UInt8 6) : Bytes :=
  BigEndian.write 2 magic ++ [version] ++ BigEndian.write 2 nodeId.toNat ++ [workerId] ++
    entropy.toList

def parse (connectionId : Bytes) : Option Fields :=
  if connectionId.length ≠ length then none
  else if BigEndian.readAt connectionId 0 2 ≠ magic ∨ connectionId.getD 2 0 ≠ version then none
  else
    let nodeId := BigEndian.readAt connectionId nodeOffset 2
    if nodeId = 0 then none
    else some { nodeId := nodeId, workerId := (connectionId.getD workerOffset 0).toNat }

theorem length_encode (nodeId : UInt16) (workerId : UInt8) (entropy : Vector UInt8 6) :
    (encode nodeId workerId entropy).length = length := by
  simp [encode, length]

/-- An id that the gateway has made is read back, whatever its last bytes. -/
theorem parse_encode {nodeId : UInt16} (named : nodeId ≠ 0) (workerId : UInt8)
    (entropy : Vector UInt8 6) :
    parse (encode nodeId workerId entropy) = some ⟨nodeId.toNat, workerId.toNat⟩ := by
  have small : nodeId.toNat < 256 ^ 2 := nodeId.toNat_lt
  have node : BigEndian.readAt (encode nodeId workerId entropy) nodeOffset 2 = nodeId.toNat :=
    (BigEndian.read_write_of_lt small : BigEndian.read (BigEndian.write 2 nodeId.toNat) = _)
  have nonzero : nodeId.toNat ≠ 0 := by simpa [← UInt16.toNat_inj] using named
  have mark : BigEndian.readAt (encode nodeId workerId entropy) 0 2 = magic :=
    (BigEndian.read_write_of_lt (by decide) : BigEndian.read (BigEndian.write 2 magic) = _)
  have marked : ¬ (BigEndian.readAt (encode nodeId workerId entropy) 0 2 ≠ magic ∨
      (encode nodeId workerId entropy).getD 2 0 ≠ version) := by
    rintro (other | other)
    · exact other mark
    · exact other rfl
  unfold parse
  rw [if_neg (not_not.mpr (length_encode nodeId workerId entropy)), if_neg marked]
  dsimp only
  rw [node, if_neg nonzero]
  rfl

end Cid

def maxCidLength : Nat := 20

inductive ParseError where
  | packetTooShort
  | versionNegotiation
  | dcidLengthExceedsMax
  deriving DecidableEq, Repr

/-- The header is a long one. -/
def isLongHeader (packet : Bytes) : Bool :=
  match packet with
  | [] => false
  | first :: _ => 128 ≤ first

/-- The connection id that a packet is sent to. A short header does not tell how long it is. -/
def parseDcidDetailed (packet : Bytes) (shortHeaderCidLen : Nat) : Except ParseError Bytes :=
  if packet.length < 1 then .error .packetTooShort
  else if isLongHeader packet then
    if packet.length < 6 then .error .packetTooShort
    else if BigEndian.readAt packet 1 4 = 0 then .error .versionNegotiation
    else
      let dcidLen := (packet.getD 5 0).toNat
      if maxCidLength < dcidLen then .error .dcidLengthExceedsMax
      else if packet.length < 6 + dcidLen then .error .packetTooShort
      else .ok ((packet.drop 6).take dcidLen)
  else if maxCidLength < shortHeaderCidLen then .error .dcidLengthExceedsMax
  else if packet.length < 1 + shortHeaderCidLen then .error .packetTooShort
  else .ok ((packet.drop 1).take shortHeaderCidLen)

def parseDcid (packet : Bytes) : Option Bytes := (parseDcidDetailed packet Cid.length).toOption

def isShortHeader (data : Bytes) : Bool :=
  match data with
  | [] => false
  | first :: _ => first < 128

def packetOwner (data : Bytes) : Option Cid.Fields := (parseDcid data).bind Cid.parse

/-! ## The driver -/

/-- The way to the tunnel. -/
structure Sender where
  returnPathEnabled : Bool
  returnPathCapacity : Nat
  returnPathTimeoutUs : Nat

/-- A packet that another worker of the node, or the tunnel, has handed over. -/
structure ForwardPacket where
  bytes : Bytes
  addrFrom : Address
  receivedTime : Nat
  tunnel : Option TunnelMetadata := none

/-- What a driver asks of the protocol stack, the other workers, the tunnel, and the socket. The
packets of its own connections go out by `batch`; `send` is for what has come by the tunnel. -/
inductive Output where
  | incoming (data : Bytes) (source : Address) (receivedAt : Nat)
  | handoff (workerId : Nat) (data : Bytes) (source : Address) (receivedTime : Nat)
  | sendRequest (nodeId workerId sourceWorkerId : Nat) (data : Bytes) (client : Address)
  | sendResponse (nodeId workerId sourceWorkerId : Nat) (data : Bytes) (client : Address)
  | batch (segment : Bytes) (dest : Address)
  | send (data : Bytes) (client : Address)
  deriving DecidableEq

structure ServerDriver where
  nodeId : Nat
  workerId : Nat
  forwardSender : Option Sender := none
  returnTracker : Option Tracker := none

/-- What a step finds outside: the order of the hash map, and whether it has room to spare. -/
structure Outside where
  iterator : Iterator
  spare : Bool

namespace ServerDriver

/-- Only with return paths does a driver keep track of them. -/
def init (nodeId workerId : Nat) (forwardSender : Option Sender) : Option ServerDriver :=
  let driver : ServerDriver := {
    nodeId := nodeId
    workerId := workerId
    forwardSender := forwardSender }
  match forwardSender with
  | none => some driver
  | some sender =>
      if sender.returnPathEnabled then do
        let tracker ← Tracker.init sender.returnPathCapacity sender.returnPathTimeoutUs
        some { driver with returnTracker := some tracker }
      else some driver

def forgetRoute (driver : ServerDriver) (client : Address) : ServerDriver :=
  { driver with returnTracker := driver.returnTracker.map fun tracker =>
      tracker.forgetRoute client }

/-- The packet is for this worker. Its connections may have something to send then, see `flush`. -/
def handleOwnedPacket (data : Bytes) (source : Address) (received now : Nat) : Output :=
  .incoming data source (if received = 0 then now else received)

/-- Send a packet on if it is for another worker; only a short header is believed. True if there is
nothing left to do with it. -/
def routeInbound (driver : ServerDriver) (outside : Outside) (data : Bytes) (source : Address)
    (now : Nat) : Bool × List Output × ServerDriver :=
  if isShortHeader data = false then (false, [], driver)
  else
    match packetOwner data with
    | none => (false, [], driver)
    | some owner =>
        if owner.nodeId ≠ driver.nodeId then
          match driver.forwardSender with
          | none => (true, [], driver)
          | some sender =>
              let request :=
                .sendRequest owner.nodeId owner.workerId driver.workerId data source
              if sender.returnPathEnabled then
                match driver.returnTracker with
                | none => (true, [], driver)
                | some tracker =>
                    -- The answer is granted before the packet is sent on.
                    let (granted, tracker) := tracker.grantResponse outside.iterator outside.spare
                      source owner.nodeId owner.workerId now
                    (true, if granted then [request] else [],
                      { driver with returnTracker := some tracker })
              else (true, [request], driver)
        else if owner.workerId ≠ driver.workerId then
          (true, [.handoff owner.workerId data source now], driver)
        else (false, [], driver)

def handleUdpRecv (driver : ServerDriver) (outside : Outside) (data : Bytes) (source : Address)
    (now : Nat) : List Output × ServerDriver :=
  let (routed, outputs, driver) := driver.routeInbound outside data source now
  if routed then (outputs, driver)
  else ([handleOwnedPacket data source now now], driver.forgetRoute source)

/-- Send to a client what has come by the tunnel, if its sender has been granted that. -/
def handleReturnResponse (driver : ServerDriver) (packet : ForwardPacket)
    (metadata : TunnelMetadata) (now : Nat) : List Output × ServerDriver :=
  match driver.returnTracker with
  | none => ([], driver)
  | some tracker =>
      let (granted, tracker) := tracker.isGranted packet.addrFrom metadata now
      (if granted then [.send packet.bytes packet.addrFrom] else [],
        { driver with returnTracker := some tracker })

def handleHandoffPacket (driver : ServerDriver) (outside : Outside) (packet : ForwardPacket)
    (now : Nat) : List Output × ServerDriver :=
  match packet.tunnel with
  | none =>
      ([handleOwnedPacket packet.bytes packet.addrFrom packet.receivedTime now],
        driver.forgetRoute packet.addrFrom)
  | some metadata =>
      match metadata.kind with
      | .request =>
          match driver.returnTracker with
          | none => ([handleOwnedPacket packet.bytes packet.addrFrom 0 now], driver)
          | some tracker =>
              let (stored, tracker) := tracker.rememberRoute outside.iterator outside.spare
                packet.addrFrom metadata.sourceNodeId metadata.sourceWorkerId now
              (if stored then [handleOwnedPacket packet.bytes packet.addrFrom 0 now] else [],
                { driver with returnTracker := some tracker })
      | .response => driver.handleReturnResponse packet metadata now

/-- Send what a connection has ready: by the way its packets have come, or else to the client. -/
def flush (driver : ServerDriver) (data : Bytes) (segmentSize : Nat) (dest : Address) (now : Nat) :
    List Output × ServerDriver :=
  let direct := (data.toChunks segmentSize).map fun segment => Output.batch segment dest
  match driver.returnTracker with
  | none => (direct, driver)
  | some tracker =>
      let (found, tracker) := tracker.lookupRoute dest now
      let driver := { driver with returnTracker := some tracker }
      match found with
      | none => (direct, driver)
      | some route =>
          (if driver.forwardSender.isNone then []
            else (data.toChunks segmentSize).map fun segment =>
              .sendResponse route.nodeId route.workerId driver.workerId segment dest, driver)

end ServerDriver

/-- What happens to a driver: a packet comes from the socket or from another worker or the tunnel,
or a connection has something to send. -/
inductive Event where
  | udp (outside : Outside) (data : Bytes) (source : Address) (now : Nat)
  | handoff (outside : Outside) (packet : ForwardPacket) (now : Nat)
  | flush (data : Bytes) (segmentSize : Nat) (dest : Address) (now : Nat)

namespace Event

def now : Event → Nat
  | udp _ _ _ now => now
  | handoff _ _ now => now
  | flush _ _ _ now => now

/-- The address that an event is about. -/
def address : Event → Address
  | udp _ _ source _ => source
  | handoff _ packet _ => packet.addrFrom
  | flush _ _ dest _ => dest

end Event

namespace ServerDriver

def react (driver : ServerDriver) : Event → List Output × ServerDriver
  | .udp outside data source now => driver.handleUdpRecv outside data source now
  | .handoff outside packet now => driver.handleHandoffPacket outside packet now
  | .flush data segmentSize dest now => driver.flush data segmentSize dest now

def step (driver : ServerDriver) (event : Event) : ServerDriver := (driver.react event).2

end ServerDriver

end LyuneGateway.Reactor
