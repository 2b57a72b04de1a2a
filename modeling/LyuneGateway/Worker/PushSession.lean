import LyuneGateway.Worker.Connection
import LyuneGateway.Worker.PeerLink

/-!
# Streaming push sessions

The targets of a streaming push are fixed when it is opened: local client
streams, streams to peer nodes, and other workers of the node. Its later frames
go to exactly these. A session lives in one of a fixed number of slots.
-/

namespace LyuneGateway.Worker

def maxListTargets : Nat := 8
def maxLocalTargets : Nat := 32
def maxNodes : Nat := 8
def maxSessions : Nat := 64
def sessionIdleTimeoutUs : Nat := 60000000

/-- A stream that the gateway opened on a client for a session. -/
structure LocalTarget where
  token : ConnToken
  streamId : Nat
  deriving DecidableEq, Repr

structure PushSession where
  id : Nat
  realm : RealmId
  origin : Option StreamKey := none
  locals : List LocalTarget := []
  nodes : List PeerStream := []
  workers : Nat → Bool := fun _ => false
  lastActive : Nat

namespace PushSession

def addLocal (session : PushSession) (target : LocalTarget) : PushSession :=
  { session with locals := session.locals ++ [target] }

def addNode (session : PushSession) (stream : PeerStream) : PushSession :=
  { session with nodes := session.nodes ++ [stream] }

def addWorker (session : PushSession) (workerId : Nat) : PushSession :=
  { session with workers := Function.update session.workers workerId true }

def touch (session : PushSession) (now : Nat) : PushSession := { session with lastActive := now }

end PushSession

structure PushSessions where
  workerId : Nat
  slots : Nat → Option PushSession := fun _ => none
  counter : Nat := 0

namespace PushSessions

/-- Session ids carry the worker that issued them in their top byte and are never zero. -/
def nextId (sessions : PushSessions) : Nat × PushSessions :=
  let next := (sessions.counter + 1) % 2 ^ 56
  let counter := if next = 0 then 1 else next
  (sessions.workerId * 2 ^ 56 + counter, { sessions with counter := counter })

/-- The first session that satisfies a condition. -/
def find (sessions : PushSessions) (which : PushSession → Bool) : Option Nat :=
  (List.range maxSessions).find? fun slot => (sessions.slots slot).any which

def findById (sessions : PushSessions) (id : Nat) : Option Nat :=
  if id = 0 then none else sessions.find fun session => session.id = id

def findByOrigin (sessions : PushSessions) (key : StreamKey) : Option Nat :=
  sessions.find fun session => session.origin = some key

def freeSlot (sessions : PushSessions) : Option Nat :=
  (List.range maxSessions).find? fun slot => (sessions.slots slot).isNone

/-- A session takes the first free slot. -/
def openSession (sessions : PushSessions) (session : PushSession) : Option (Nat × PushSessions) :=
  sessions.freeSlot.map fun slot =>
    (slot, { sessions with slots := Function.update sessions.slots slot (some session) })

def modify (sessions : PushSessions) (slot : Nat) (change : PushSession → PushSession) :
    PushSessions :=
  { sessions with slots := Function.update sessions.slots slot ((sessions.slots slot).map change) }

def close (sessions : PushSessions) (slot : Nat) : PushSessions :=
  { sessions with slots := Function.update sessions.slots slot none }

def expired (sessions : PushSessions) (now : Nat) : Option Nat :=
  sessions.find fun session => sessionIdleTimeoutUs ≤ now - session.lastActive

end PushSessions

end LyuneGateway.Worker
