import LyuneGateway.Backend.Pool
import LyuneGateway.Lib.Run

/-!
# Direct backend transports

A direct transport keeps one backend connection for each endpoint of its
service. A backend connection survives the QUIC connections it is made of: its
generation tells them apart. All transports of a worker share one pool, whose
index says which backend connection an event of a QUIC connection is for.
-/

namespace LyuneGateway.Backend

/-- The lifecycle of a backend connection. -/
inductive ConnState where
  | idle
  | connecting
  | ready
  | backoff
  deriving DecidableEq, Repr

inductive TransportError where
  | connectionFailed
  | sendFailed
  | receiveFailed
  | routeNotFound
  | timeout
  | closed
  | outOfMemory
  deriving DecidableEq, Repr

inductive ResolveError where
  | invalidHost
  | noAddress
  | resolverFailed
  | timeout
  | canceled
  | outOfMemory
  deriving DecidableEq, Repr

namespace ResolveError

def toTransportError : ResolveError → TransportError
  | outOfMemory => .outOfMemory
  | timeout => .timeout
  | _ => .connectionFailed

end ResolveError

/-- What a finished name lookup delivers; the address itself plays no role here. -/
inductive ResolveResult where
  | address
  | err (problem : ResolveError)
  deriving DecidableEq, Repr

/-- What starting a name lookup does: fail, answer at once, or answer later. -/
inductive Lookup where
  | refused (problem : ResolveError)
  | answered (result : ResolveResult)
  | outstanding
  deriving DecidableEq, Repr

structure Endpoint where
  host : String
  port : Nat
  deriving DecidableEq, Repr

def backoffBaseUs : Nat := 100000
def backoffMaxUs : Nat := 30000000

/-- `connection id : 16 | generation : 16 | QUIC stream id : 32`. -/
def makeHandle (connId generation streamId : Nat) : Nat :=
  connId * 2 ^ 48 + generation * 2 ^ 32 + streamId

def handleConnId (handle : Nat) : Nat := handle / 2 ^ 48
def handleGeneration (handle : Nat) : Nat := handle / 2 ^ 32 % 2 ^ 16
def handleStreamId (handle : Nat) : Nat := handle % 2 ^ 32

/-- One backend connection. `resolving` counts the lookups whose callback is still due,
`attempts` the connection attempts made so far. -/
structure BackendConn where
  id : Nat
  transport : Nat
  generation : Nat := 0
  endpoint : Endpoint
  cnx : Option Cnx := none
  resolving : Nat := 0
  queue : SlotList := {}
  state : ConnState := .idle
  failureCount : Nat := 0
  retryAt : Nat := 0
  pendingCallbacks : List Nat := []
  answered : List (Nat × Option TransportError) := []
  nextBidiStreamId : Nat := 0
  attempts : Nat := 0

namespace BackendConn

def isReady (conn : BackendConn) : Bool := conn.state = .ready

/-- The upper 32 bits of the handles of this generation. -/
def connectionKey (conn : BackendConn) : Nat := conn.id * 2 ^ 16 + conn.generation

@[simps] def fireCallbacks (conn : BackendConn) (error : Option TransportError) : BackendConn :=
  { conn with
    pendingCallbacks := []
    answered := conn.answered ++ conn.pendingCallbacks.map fun callback => (callback, error) }

/-- The wait after `failures` failures in a row. -/
def retryDelay (failures : Nat) : Nat := min (backoffBaseUs * 2 ^ min (failures - 1) 8) backoffMaxUs

/-- The number of failures in a row after one more. -/
def nextFailureCount (conn : BackendConn) : Nat := min (conn.failureCount + 1) (2 ^ 32 - 1)

@[simps!] def markFailed (conn : BackendConn) (error : TransportError) (now : Nat) : BackendConn :=
  fireCallbacks { conn with
    failureCount := conn.nextFailureCount
    retryAt := now + retryDelay conn.nextFailureCount
    state := .backoff } (some error)

/-- A QUIC connection is up: a new generation, whose streams are numbered from zero. -/
@[simps!] def markConnected (conn : BackendConn) : BackendConn :=
  fireCallbacks { conn with
    generation := (conn.generation + 1) % 2 ^ 16
    nextBidiStreamId := 0
    state := .ready
    failureCount := 0
    retryAt := 0 } none

/-- The callback of one lookup has been delivered. -/
@[simps] def lookupDone (conn : BackendConn) : BackendConn :=
  { conn with resolving := conn.resolving - 1 }

@[simps] def lookupStarted (conn : BackendConn) : BackendConn :=
  { conn with resolving := conn.resolving + 1 }

/-- A connection attempt begins. -/
@[simps] def attempt (conn : BackendConn) : BackendConn :=
  { conn with state := .connecting, attempts := conn.attempts + 1 }

@[simps] def setCnx (conn : BackendConn) (cnx : Option Cnx) : BackendConn := { conn with cnx := cnx }

@[simps] def setQueue (conn : BackendConn) (queue : SlotList) : BackendConn :=
  { conn with queue := queue }

@[simps] def await (conn : BackendConn) (callbacks : List Nat) : BackendConn :=
  { conn with pendingCallbacks := conn.pendingCallbacks ++ callbacks }

/-- Write on a new stream, or on the stream of a handle of this very generation. -/
def sendOn (conn : BackendConn) (handle : Option Nat) (connected accepted : Bool) :
    BackendConn × Except TransportError Nat :=
  match conn.cnx with
  | none => (conn, .error .connectionFailed)
  | some _ =>
      if connected = false then (conn, .error .connectionFailed)
      else
        match handle with
        | some value =>
            if handleConnId value ≠ conn.id ∨ handleGeneration value ≠ conn.generation then
              (conn, .error .closed)
            else if accepted = false then (conn, .error .sendFailed)
            else (conn, .ok (makeHandle conn.id conn.generation (handleStreamId value)))
        | none =>
            let streamId := conn.nextBidiStreamId
            let conn := { conn with nextBidiStreamId := streamId + 4 }
            if accepted = false then (conn, .error .sendFailed)
            else (conn, .ok (makeHandle conn.id conn.generation streamId))

end BackendConn

structure DirectTransport where
  realm : RealmId := 0
  endpoints : List Endpoint := []
  conns : List Nat := []
  nextConn : Nat := 0
  pendingFailures : List Nat := []
  lastFailureConn : Nat := 0

/-- The pool of a worker, its transports and their backend connections. `born` is the generation
each QUIC connection was given when it became connected. -/
structure Backends where
  pool : BackendPool
  transports : Nat → DirectTransport
  conns : Nat → Option BackendConn
  nextCnx : Cnx := 0
  born : Cnx → Option Nat
  clock : Nat := 0

/-- What the outside world answers during one event: the time, whether the shared client can be
had, and for each backend connection how a lookup, a connect and a write turn out. -/
structure Outside where
  now : Nat
  acquire : Bool := true
  reserve : Bool := true
  append : Bool := true
  lookup : Nat → Lookup := fun _ => .outstanding
  connect : Nat → Bool := fun _ => true
  connected : Nat → Bool := fun _ => true
  write : Nat → Bool := fun _ => true

namespace Backends

def init (pool : BackendPool) (transports : Nat → DirectTransport) : Backends where
  pool := pool
  transports := fun transport => { transports transport with
    conns := [], pendingFailures := [] }
  conns := fun _ => none
  born := fun _ => none

/-- A worker with one direct transport to one endpoint. -/
def oneBackend : Backends :=
  init (.init 512 8 256) fun _ => { endpoints := [{ host := "backend", port := 4433 }] }

def modify (backends : Backends) (id : Nat) (change : BackendConn → BackendConn) : Backends :=
  { backends with conns := Function.update backends.conns id ((backends.conns id).map change) }

/-- Queue a failure notice for the worker, once for each generation of a connection. -/
def signalFailure (backends : Backends) (transport key : Nat) : Backends :=
  if key ∈ (backends.transports transport).pendingFailures then backends
  else { backends with
    transports := Function.update backends.transports transport
      { backends.transports transport with
        pendingFailures := (backends.transports transport).pendingFailures ++ [key] }
    pool := { backends.pool with pendingFailures := backends.pool.pendingFailures + 1 } }

/-- A new QUIC connection becomes the current one of a backend connection. -/
def attach (backends : Backends) (id : Nat) (pool : BackendPool) : Backends :=
  { backends with
    pool := pool
    nextCnx := backends.nextCnx + 1
    conns := Function.update backends.conns id
      ((backends.conns id).map fun conn => conn.setCnx (some backends.nextCnx)) }

/-- The callback of a finished lookup. A QUIC connection that cannot be registered is closed at
once: nobody would get its events. -/
def onResolved (backends : Backends) (id : Nat) (result : ResolveResult) (outside : Outside) :
    Backends :=
  let backends := backends.modify id .lookupDone
  match result with
  | .err problem => backends.modify id fun conn => conn.fireCallbacks (some problem.toTransportError)
  | .address =>
      if outside.acquire = false then
        backends.modify id fun conn => conn.markFailed .connectionFailed outside.now
      else if outside.connect id = false then
        backends.modify id fun conn => conn.markFailed .connectionFailed outside.now
      else
        match backends.pool.register backends.nextCnx id with
        | none =>
            { backends with nextCnx := backends.nextCnx + 1 }.modify id fun conn =>
              conn.markFailed .connectionFailed outside.now
        | some pool => backends.attach id pool

/-- Start a lookup; the QUIC connection is made when it has been answered. -/
def startConnect (backends : Backends) (id : Nat) (outside : Outside) :
    Backends × Option TransportError :=
  if outside.acquire = false then (backends, some .connectionFailed)
  else
    match outside.lookup id with
    | .refused problem => (backends, some problem.toTransportError)
    | .answered result => ((backends.modify id .lookupStarted).onResolved id result outside, none)
    | .outstanding => (backends.modify id .lookupStarted, none)

/-- The only way into a connection attempt. -/
def ensureConnecting (backends : Backends) (id : Nat) (outside : Outside) : Backends :=
  match backends.conns id with
  | none => backends
  | some conn =>
      if conn.state = .ready ∨ conn.state = .connecting then backends
      else if conn.state = .backoff ∧ outside.now < conn.retryAt then backends
      else
        match (backends.modify id .attempt).startConnect id outside with
        | (backends, none) => backends
        | (backends, some error) => backends.modify id fun conn => conn.markFailed error outside.now

/-- A connection that has never been connected. -/
def freshConn (id transport : Nat) (endpoint : Endpoint) (realm : RealmId) : BackendConn where
  id := id
  transport := transport
  endpoint := endpoint
  queue := { realm := realm }

def addConn (backends : Backends) (transport : Nat) (endpoint : Endpoint) (id : Nat) : Backends :=
  { backends with
    conns := Function.update backends.conns id
      (some (freshConn id transport endpoint (backends.transports transport).realm))
    transports := Function.update backends.transports transport
      { backends.transports transport with
        conns := (backends.transports transport).conns ++ [id] } }

/-- The connection that a transport has for an endpoint. -/
def existingConn (backends : Backends) (transport : Nat) (endpoint : Endpoint) : Option Nat :=
  (backends.transports transport).conns.find? fun id =>
    (backends.conns id).any fun conn => conn.endpoint = endpoint

/-- The backend connection of an endpoint, created when there is none. -/
def getOrCreateConn (backends : Backends) (transport : Nat) (endpoint : Endpoint)
    (outside : Outside) : Backends × Except TransportError Nat :=
  match backends.existingConn transport endpoint with
  | some id => (backends, .ok id)
  | none =>
      if outside.reserve = false then (backends, .error .outOfMemory)
      else
        match backends.pool.allocConnId with
        | none => (backends, .error .connectionFailed)
        | some (id, pool) =>
            let backends := { backends with pool := pool }
            if outside.append = false then (backends, .error .outOfMemory)
            else (backends.addConn transport endpoint id, .ok id)

def ready (backends : Backends) (id : Nat) : Bool := (backends.conns id).any BackendConn.isReady

/-- What `resolve` has found so far: how many endpoints have a connection, the first of these
that is not ready, and the last error. -/
structure Resolving where
  reachable : Nat := 0
  waiting : Option Nat := none
  lastError : TransportError := .routeNotFound

/-- Connect every endpoint that is not ready. -/
def resolveEndpoints (backends : Backends) (transport : Nat) (outside : Outside) :
    List Endpoint → Resolving → Backends × Resolving
  | [], progress => (backends, progress)
  | endpoint :: endpoints, progress =>
      match backends.getOrCreateConn transport endpoint outside with
      | (backends, .error error) =>
          backends.resolveEndpoints transport outside endpoints
            { progress with lastError := error }
      | (backends, .ok id) =>
          let progress := { progress with reachable := progress.reachable + 1 }
          if backends.ready id then
            backends.resolveEndpoints transport outside endpoints progress
          else
            (backends.ensureConnecting id outside).resolveEndpoints transport outside endpoints
              { progress with waiting := progress.waiting.or (some id) }

/-- Bring the transport up. The result is what the callback is told at once; without one it waits
on a connection that is not ready. -/
def resolve (backends : Backends) (transport : Nat) (callback : Option Nat) (outside : Outside) :
    Backends × Option (Option TransportError) :=
  let (backends, progress) :=
    backends.resolveEndpoints transport outside (backends.transports transport).endpoints {}
  let conns := (backends.transports transport).conns
  if progress.reachable = 0 then (backends, some (some progress.lastError))
  else if conns.any backends.ready then (backends, some none)
  else
    let target := progress.waiting.getD (conns.headD 0)
    (backends.modify target fun conn => conn.await callback.toList, none)

/-- A failed write makes the whole connection fail. -/
def failConn (backends : Backends) (id : Nat) (error : TransportError) (outside : Outside) :
    Backends :=
  match backends.conns id with
  | none => backends
  | some conn =>
      (backends.signalFailure conn.transport conn.connectionKey).modify id fun conn =>
        conn.markFailed error outside.now

/-- The next new stream is tried at this position first. -/
def advance (backends : Backends) (transport position : Nat) : Backends :=
  { backends with
    transports := Function.update backends.transports transport
      { backends.transports transport with nextConn := position } }

/-- Try a new stream on the ready connections at these positions, in order; the result has the
position that took it. -/
def sendNew (backends : Backends) (transport : Nat) (outside : Outside) :
    List Nat → TransportError → Backends × Except TransportError (Nat × Nat)
  | [], lastError => (backends, .error lastError)
  | position :: positions, lastError =>
      let id := (backends.transports transport).conns.getD position 0
      match backends.conns id with
      | none => backends.sendNew transport outside positions lastError
      | some conn =>
          if conn.isReady = false then backends.sendNew transport outside positions lastError
          else
            let wrote := backends.modify id fun conn =>
              (conn.sendOn none (outside.connected id) (outside.write id)).1
            match (conn.sendOn none (outside.connected id) (outside.write id)).2 with
            | .error error =>
                (wrote.failConn id error outside).sendNew transport outside positions error
            | .ok handle => (wrote, .ok (position, handle))

/-- Only a connection found dead, not a stream that was reset, counts as a connection failure. -/
def existingStreamFailureBreaksConnection (error : TransportError) : Bool :=
  error = .connectionFailed

def sendStream (backends : Backends) (transport : Nat) (handle : Option Nat) (outside : Outside) :
    Backends × Except TransportError Nat :=
  let conns := (backends.transports transport).conns
  if conns = [] then (backends, .error .routeNotFound)
  else
    match handle with
    | some value =>
        match conns.find? fun id => id = handleConnId value with
        | none => (backends, .error .closed)
        | some id =>
            match backends.conns id with
            | none => (backends, .error .closed)
            | some conn =>
                if conn.isReady = false then (backends, .error .connectionFailed)
                else
                  match conn.sendOn (some value) (outside.connected id) (outside.write id) with
                  | (_, .ok handle) => (backends, .ok handle)
                  | (_, .error error) =>
                      if existingStreamFailureBreaksConnection error then
                        (backends.failConn id error outside, .error error)
                      else (backends, .error error)
    | none =>
        let start := (backends.transports transport).nextConn
        let positions := (List.range conns.length).map fun offset => (start + offset) % conns.length
        match backends.sendNew transport outside positions .connectionFailed with
        | (backends, .ok (position, handle)) =>
            (backends.advance transport ((position + 1) % conns.length), .ok handle)
        | (backends, .error error) =>
            (conns.foldl (fun backends id => backends.ensureConnecting id outside) backends,
              .error error)

def hookConnected (backends : Backends) (id : Nat) (cnx : Cnx) : Backends :=
  match backends.conns id with
  | none => backends
  | some conn =>
      { backends with
        born := Function.update backends.born cnx (some conn.markConnected.generation) }.modify id
        .markConnected

/-- Give up the current QUIC connection; its close event will take it off the index. -/
def abortConnection (backends : Backends) (id : Nat) (error : TransportError) (outside : Outside) :
    Backends :=
  match backends.conns id with
  | none => backends
  | some conn =>
      (backends.signalFailure conn.transport conn.connectionKey).modify id fun conn =>
        (conn.setCnx none).markFailed error outside.now

/-- Put a callback's bytes into the queue, or give the connection up when they do not fit. -/
def enqueueOrAbort (backends : Backends) (id : Nat) (cnx : Cnx) (conn : BackendConn)
    (streamId : Nat) (data : Bytes) (isFin : Bool) (kind : RecvKind) (outside : Outside) :
    Backends :=
  let handle := makeHandle conn.id conn.generation streamId
  match backends.pool.arena.enqueueEvent conn.queue handle data isFin kind cnx with
  | none => backends.abortConnection id .receiveFailed outside
  | some (arena, queue) =>
      { backends with pool := { backends.pool with arena := arena } }.modify id fun conn =>
        conn.setQueue queue

def hookStreamData (backends : Backends) (id : Nat) (cnx : Cnx) (streamId : Nat) (data : Bytes)
    (isFin : Bool) (outside : Outside) : Backends :=
  match backends.conns id with
  | none => backends
  | some conn =>
      if conn.state ≠ .ready then backends
      else if data = [] ∧ isFin = false then backends
      else backends.enqueueOrAbort id cnx conn streamId data isFin .data outside

def hookStreamControl (backends : Backends) (id : Nat) (cnx : Cnx) (streamId : Nat)
    (stopSending : Bool) (outside : Outside) : Backends :=
  match backends.conns id with
  | none => backends
  | some conn =>
      if conn.state ≠ .ready then backends
      else
        backends.enqueueOrAbort id cnx conn streamId [] true
          (if stopSending then .stopSending else .streamReset) outside

def hookClose (backends : Backends) (id : Nat) (outside : Outside) : Backends :=
  match backends.conns id with
  | none => backends
  | some conn =>
      if conn.state = .ready then
        (backends.signalFailure conn.transport conn.connectionKey).modify id fun conn =>
          (conn.setCnx none).markFailed .closed outside.now
      else
        backends.modify id fun conn => (conn.setCnx none).markFailed .connectionFailed outside.now

/-- What the worker takes from a transport: bytes of a stream, or the notice of a failure. -/
inductive Received where
  | chunk (slot : Slot)
  | failure (key : Nat)
  deriving DecidableEq, Repr

/-- The first queued slot of the transport's connections, then the pending failures. -/
def receive (backends : Backends) (transport : Nat) : Backends × Option Received :=
  let own := backends.transports transport
  let waiting := own.conns.find? fun id =>
    (backends.conns id).any fun conn => conn.queue.queue ≠ []
  match waiting with
  | some id =>
      match (backends.conns id).bind fun conn => conn.queue.queue.head? with
      | none => (backends, none)
      | some slot =>
          (backends.modify id fun conn =>
            conn.setQueue { conn.queue with queue := conn.queue.queue.tail }, some (.chunk slot))
  | none =>
      match own.pendingFailures.getLast? with
      | none => (backends, none)
      | some key =>
          ({ backends with
            transports := Function.update backends.transports transport
              { own with
                pendingFailures := own.pendingFailures.dropLast
                lastFailureConn := key }
            pool := { backends.pool with pendingFailures := backends.pool.pendingFailures - 1 } },
            some (.failure key))

def releaseRecv (backends : Backends) (slot : Slot) : Backends :=
  { backends with pool := { backends.pool with arena := backends.pool.arena.release slot } }

/-- The events of a worker's backend side. -/
inductive Event where
  | resolve (transport : Nat) (callback : Option Nat) (outside : Outside)
  | send (transport : Nat) (handle : Option Nat) (outside : Outside)
  | resolved (conn : Nat) (result : ResolveResult) (outside : Outside)
  | connected (cnx : Cnx)
  | streamData (cnx : Cnx) (streamId : Nat) (data : Bytes) (isFin : Bool) (outside : Outside)
  | streamControl (cnx : Cnx) (streamId : Nat) (stopSending : Bool) (outside : Outside)
  | close (cnx : Cnx) (outside : Outside)
  | receive (transport : Nat)
  | release (slot : Slot)

/-- The time an event takes place at, for the events that read the clock. -/
def Event.time : Event → Option Nat
  | resolve _ _ outside | send _ _ outside | resolved _ _ outside
  | streamData _ _ _ _ outside | streamControl _ _ _ outside | close _ outside =>
      some outside.now
  | connected _ | receive _ | release _ => none

/-- An event of a QUIC connection reaches the backend connection that registered it, if any. -/
def handle (backends : Backends) : Event → Backends
  | .resolve transport callback outside => (backends.resolve transport callback outside).1
  | .send transport handle outside => (backends.sendStream transport handle outside).1
  | .resolved conn result outside => backends.onResolved conn result outside
  | .connected cnx =>
      match backends.pool.index cnx with
      | none => backends
      | some id => backends.hookConnected id cnx
  | .streamData cnx streamId data isFin outside =>
      match backends.pool.index cnx with
      | none => backends
      | some id => backends.hookStreamData id cnx streamId data isFin outside
  | .streamControl cnx streamId stopSending outside =>
      match backends.pool.index cnx with
      | none => backends
      | some id => backends.hookStreamControl id cnx streamId stopSending outside
  | .close cnx outside =>
      match backends.pool.index cnx with
      | none => backends
      | some id =>
          let backends := backends.hookClose id outside
          { backends with pool := backends.pool.unregister cnx }
  | .receive transport => (backends.receive transport).1
  | .release slot => backends.releaseRecv slot

def step (backends : Backends) (event : Event) : Backends :=
  let after := backends.handle event
  { after with clock := event.time.getD after.clock }

/-- What the resolver and the QUIC library promise: time does not go back, only lookups that are
due are answered, a QUIC connection becomes connected once, and its streams come after that. -/
def Possible (backends : Backends) (event : Event) : Prop :=
  backends.clock ≤ event.time.getD backends.clock ∧
  match event with
  | .resolved conn _ _ => (backends.conns conn).any fun own => 0 < own.resolving
  | .connected cnx => cnx < backends.nextCnx ∧ backends.born cnx = none
  | .streamData cnx streamId _ _ _ | .streamControl cnx streamId _ _ =>
      backends.born cnx ≠ none ∧ streamId < 2 ^ 32
  | _ => True

instance (backends : Backends) (event : Event) : Decidable (Possible backends event) := by
  unfold Possible
  cases event <;> infer_instance

section Updates

variable (backends : Backends)

@[simp] theorem modify_pool (id : Nat) (change : BackendConn → BackendConn) :
    (backends.modify id change).pool = backends.pool := rfl

@[simp] theorem modify_born (id : Nat) (change : BackendConn → BackendConn) :
    (backends.modify id change).born = backends.born := rfl

@[simp] theorem modify_nextCnx (id : Nat) (change : BackendConn → BackendConn) :
    (backends.modify id change).nextCnx = backends.nextCnx := rfl

@[simp] theorem modify_transports (id : Nat) (change : BackendConn → BackendConn) :
    (backends.modify id change).transports = backends.transports := rfl

@[simp] theorem modify_conns_self (id : Nat) (change : BackendConn → BackendConn) :
    (backends.modify id change).conns id = (backends.conns id).map change := by
  simp [modify]

theorem modify_conns_of_ne {id other : Nat} (different : other ≠ id)
    (change : BackendConn → BackendConn) :
    (backends.modify id change).conns other = backends.conns other := by
  simp [modify, different]

theorem modify_modify (id : Nat) (first second : BackendConn → BackendConn) :
    (backends.modify id first).modify id second = backends.modify id (second ∘ first) := by
  simp [modify]

variable {backends} in
theorem modify_conns_cases {id other : Nat} {change : BackendConn → BackendConn}
    {conn : BackendConn} (found : (backends.modify id change).conns other = some conn) :
    (∃ old, backends.conns other = some old ∧ other = id ∧ change old = conn) ∨
      other ≠ id ∧ backends.conns other = some conn := by
  by_cases same : other = id
  · subst same
    simp only [modify_conns_self, Option.map_eq_some_iff] at found
    obtain ⟨old, before, changed⟩ := found
    exact .inl ⟨old, before, rfl, changed⟩
  · exact .inr ⟨same, by rwa [modify_conns_of_ne _ same] at found⟩

variable {backends} in
theorem attach_conns_cases {id other : Nat} {pool : BackendPool} {conn : BackendConn}
    (found : (backends.attach id pool).conns other = some conn) :
    (∃ old, backends.conns other = some old ∧ other = id ∧
      old.setCnx (some backends.nextCnx) = conn) ∨
      other ≠ id ∧ backends.conns other = some conn :=
  modify_conns_cases (found : (backends.modify id _).conns other = some conn)

@[simp] theorem signalFailure_conns (transport key : Nat) :
    (backends.signalFailure transport key).conns = backends.conns := by
  unfold signalFailure
  split <;> rfl

@[simp] theorem signalFailure_index (transport key : Nat) :
    (backends.signalFailure transport key).pool.index = backends.pool.index := by
  unfold signalFailure
  split <;> rfl

@[simp] theorem signalFailure_arena (transport key : Nat) :
    (backends.signalFailure transport key).pool.arena = backends.pool.arena := by
  unfold signalFailure
  split <;> rfl

@[simp] theorem signalFailure_nextConnId (transport key : Nat) :
    (backends.signalFailure transport key).pool.nextConnId = backends.pool.nextConnId := by
  unfold signalFailure
  split <;> rfl

@[simp] theorem signalFailure_born (transport key : Nat) :
    (backends.signalFailure transport key).born = backends.born := by
  unfold signalFailure
  split <;> rfl

@[simp] theorem signalFailure_nextCnx (transport key : Nat) :
    (backends.signalFailure transport key).nextCnx = backends.nextCnx := by
  unfold signalFailure
  split <;> rfl

@[simp] theorem signalFailure_lists (transport key other : Nat) :
    ((backends.signalFailure transport key).transports other).conns =
      (backends.transports other).conns := by
  unfold signalFailure
  split
  · rfl
  · by_cases same : other = transport
    · subst same
      simp
    · simp [same]

end Updates

/-- The outcomes of a finished lookup. -/
theorem onResolved_cases (backends : Backends) (id : Nat) (result : ResolveResult)
    (outside : Outside) :
    (∃ problem, result = .err problem ∧ backends.onResolved id result outside =
      (backends.modify id .lookupDone).modify id fun conn =>
        conn.fireCallbacks (some problem.toTransportError)) ∨
    (∃ spent, result = .address ∧ backends.onResolved id result outside =
      ({ backends with nextCnx := backends.nextCnx + spent }.modify id .lookupDone).modify id
        fun conn => conn.markFailed .connectionFailed outside.now) ∨
    ∃ pool, result = .address ∧ backends.pool.register backends.nextCnx id = some pool ∧
      backends.onResolved id result outside = (backends.modify id .lookupDone).attach id pool := by
  unfold onResolved
  cases result with
  | err problem => exact .inl ⟨problem, rfl, rfl⟩
  | address =>
      dsimp only
      split
      · exact .inr (.inl ⟨0, rfl, rfl⟩)
      split
      · exact .inr (.inl ⟨0, rfl, rfl⟩)
      split
      · exact .inr (.inl ⟨1, rfl, rfl⟩)
      · exact .inr (.inr ⟨_, rfl, ‹_›, rfl⟩)

theorem hookClose_index (backends : Backends) (id : Nat) (outside : Outside) :
    (backends.hookClose id outside).pool.index = backends.pool.index := by
  unfold hookClose
  split
  · rfl
  split <;> simp

theorem hookClose_cnx {backends : Backends} {id : Nat} {outside : Outside} {conn : BackendConn}
    (found : (backends.hookClose id outside).conns id = some conn) : conn.cnx = none := by
  unfold hookClose at found
  cases before : backends.conns id with
  | none => simp [before] at found
  | some own =>
      simp only [before] at found
      split at found
      · simp only [modify_conns_self, signalFailure_conns, before, Option.map_some,
          Option.some.injEq] at found
        simp [← found]
      · simp only [modify_conns_self, before, Option.map_some, Option.some.injEq] at found
        simp [← found]

/-- The references between backend connections and QUIC connections: a current QUIC connection is
registered for its backend connection, and those to come are not in use. -/
structure Linked (backends : Backends) : Prop where
  ids : ∀ {id conn}, backends.conns id = some conn → conn.id = id
  registered : ∀ {id conn cnx}, backends.conns id = some conn → conn.cnx = some cnx →
    backends.pool.index cnx = some id
  fresh : ∀ {cnx}, backends.nextCnx ≤ cnx → backends.pool.index cnx = none
  unused : ∀ {id}, backends.pool.nextConnId ≤ id → backends.conns id = none
  listed : ∀ {transport id}, id ∈ (backends.transports transport).conns →
    id < backends.pool.nextConnId

namespace Linked

variable {backends : Backends}

theorem init (pool : BackendPool) (transports : Nat → DirectTransport)
    (empty : ∀ cnx, pool.index cnx = none) : Linked (Backends.init pool transports) where
  ids := by simp [Backends.init]
  registered := by simp [Backends.init]
  fresh := fun _ => empty _
  unused := fun _ => rfl
  listed := by simp [Backends.init]

/-- Changing one connection keeps the references if it keeps its QUIC connection or drops it. -/
theorem modify (linked : Linked backends) (id : Nat) (change : BackendConn → BackendConn)
    (kept : ∀ conn, (change conn).id = conn.id ∧
      ((change conn).cnx = conn.cnx ∨ (change conn).cnx = none)) :
    Linked (backends.modify id change) where
  ids := by
    intro other conn found
    rcases modify_conns_cases found with ⟨old, before, -, rfl⟩ | ⟨-, before⟩
    · rw [(kept old).1, linked.ids before]
    · exact linked.ids before
  registered := by
    intro other conn cnx found current
    rcases modify_conns_cases found with ⟨old, before, -, rfl⟩ | ⟨-, before⟩
    · rcases (kept old).2 with keeps | drops
      · exact linked.registered before (keeps ▸ current)
      · simp [drops] at current
    · exact linked.registered before current
  fresh := linked.fresh
  unused := by
    intro other later
    have before := linked.unused later
    by_cases same : other = id
    · subst same
      simp [before]
    · rw [modify_conns_of_ne _ same, before]
  listed := linked.listed

/-- The references look at the connections, the index and the next QUIC connection only. -/
theorem congr {after : Backends} (linked : Linked backends) (conns : after.conns = backends.conns)
    (index : after.pool.index = backends.pool.index) (next : backends.nextCnx ≤ after.nextCnx)
    (ids : backends.pool.nextConnId ≤ after.pool.nextConnId)
    (lists : ∀ transport, (after.transports transport).conns =
      (backends.transports transport).conns) : Linked after where
  ids := by rw [conns]; exact linked.ids
  registered := by rw [conns, index]; exact linked.registered
  fresh := fun later => by rw [index]; exact linked.fresh (le_trans next later)
  unused := fun later => by rw [conns]; exact linked.unused (le_trans ids later)
  listed := fun member => lt_of_lt_of_le (linked.listed (lists _ ▸ member)) ids

theorem signalFailure (linked : Linked backends) (transport key : Nat) :
    Linked (backends.signalFailure transport key) :=
  linked.congr (by simp) (by simp) (by simp) (by simp) (by simp)

theorem attach (linked : Linked backends) {id : Nat} {pool : BackendPool}
    (registration : backends.pool.register backends.nextCnx id = some pool) :
    Linked (backends.attach id pool) where
  ids := by
    intro other conn found
    rcases attach_conns_cases found with ⟨old, before, -, rfl⟩ | ⟨-, before⟩
    · rw [BackendConn.setCnx_id, linked.ids before]
    · exact linked.ids before
  registered := by
    intro other conn cnx found current
    have index := BackendPool.register_index registration
    rcases attach_conns_cases found with ⟨old, before, rfl, rfl⟩ | ⟨-, before⟩
    · simp only [BackendConn.setCnx_cnx, Option.some.injEq] at current
      simp [Backends.attach, index, ← current]
    · have registered := linked.registered before current
      have older : cnx ≠ backends.nextCnx := by
        rintro rfl
        simp [linked.fresh le_rfl] at registered
      simpa [Backends.attach, index, Function.update_of_ne older] using registered
  fresh := by
    intro cnx later
    have newer : backends.nextCnx < cnx := later
    simp only [Backends.attach, BackendPool.register_index registration]
    rw [Function.update_of_ne newer.ne']
    exact linked.fresh newer.le
  unused := by
    intro other later
    rw [Backends.attach, BackendPool.register_nextConnId registration] at later
    have before := linked.unused later
    by_cases same : other = id
    · subst same
      simp [Backends.attach, before]
    · simp [Backends.attach, same, before]
  listed := fun member => by
    rw [Backends.attach, BackendPool.register_nextConnId registration]
    exact linked.listed member

theorem onResolved (linked : Linked backends) (id : Nat) (result : ResolveResult)
    (outside : Outside) : Linked (backends.onResolved id result outside) := by
  have settled : Linked (backends.modify id .lookupDone) :=
    linked.modify id _ fun _ => ⟨rfl, .inl rfl⟩
  rcases onResolved_cases backends id result outside with
    ⟨problem, -, same⟩ | ⟨spent, -, same⟩ | ⟨pool, -, registration, same⟩ <;> rw [same]
  · exact settled.modify id _ fun _ => ⟨rfl, .inl rfl⟩
  · have spending : Linked { backends with nextCnx := backends.nextCnx + spent } :=
      linked.congr rfl rfl (Nat.le_add_right _ _) le_rfl fun _ => rfl
    exact (spending.modify id .lookupDone fun _ => ⟨rfl, .inl rfl⟩).modify id _
      fun _ => ⟨rfl, .inl rfl⟩
  · exact settled.attach registration

theorem startConnect (linked : Linked backends) (id : Nat) (outside : Outside) :
    Linked (backends.startConnect id outside).1 := by
  unfold Backends.startConnect
  split
  · exact linked
  split
  · exact linked
  · exact (linked.modify id .lookupStarted fun _ => ⟨rfl, .inl rfl⟩).onResolved id _ outside
  · exact linked.modify id _ fun _ => ⟨rfl, .inl rfl⟩

theorem ensureConnecting (linked : Linked backends) (id : Nat) (outside : Outside) :
    Linked (backends.ensureConnecting id outside) := by
  unfold Backends.ensureConnecting
  split
  · exact linked
  split
  · exact linked
  split
  · exact linked
  have started := (linked.modify id .attempt fun _ => ⟨rfl, .inl rfl⟩).startConnect
    id outside
  split <;> rename_i outcome <;> rw [outcome] at started
  · exact started
  · exact started.modify id _ fun _ => ⟨rfl, .inl rfl⟩

theorem failConn (linked : Linked backends) (id : Nat) (error : TransportError)
    (outside : Outside) : Linked (backends.failConn id error outside) := by
  unfold Backends.failConn
  split
  · exact linked
  · exact (linked.signalFailure _ _).modify id _ fun _ => ⟨rfl, .inl rfl⟩

theorem addConn (linked : Linked backends) (transport : Nat) (endpoint : Endpoint) {id : Nat}
    {pool : BackendPool} (allocated : backends.pool.allocConnId = some (id, pool)) :
    Linked ({ backends with pool := pool }.addConn transport endpoint id) := by
  obtain ⟨rfl, rfl⟩ := BackendPool.allocConnId_eq_some allocated
  refine ⟨?_, ?_, linked.fresh, ?_, ?_⟩
  · intro other conn found
    by_cases same : other = backends.pool.nextConnId
    · simp only [Backends.addConn, same, Function.update_self, Option.some.injEq] at found
      simp [← found, same, freshConn]
    · exact linked.ids (by simpa [Backends.addConn, same] using found)
  · intro other conn cnx found current
    by_cases same : other = backends.pool.nextConnId
    · simp only [Backends.addConn, same, Function.update_self, Option.some.injEq] at found
      simp [← found, freshConn] at current
    · exact linked.registered (by simpa [Backends.addConn, same] using found) current
  · intro other later
    have newer : backends.pool.nextConnId < other := later
    simpa [Backends.addConn, Function.update_of_ne newer.ne'] using linked.unused newer.le
  · intro other member listed
    by_cases same : other = transport
    · subst same
      simp only [Backends.addConn, Function.update_self, List.mem_append,
        List.mem_singleton] at listed
      rcases listed with older | rfl
      · exact Nat.lt_succ_of_lt (linked.listed older)
      · exact Nat.lt_succ_self _
    · exact Nat.lt_succ_of_lt (linked.listed (by simpa [Backends.addConn, same] using listed))

theorem hookClose (linked : Linked backends) (id : Nat) (outside : Outside) :
    Linked (backends.hookClose id outside) := by
  unfold Backends.hookClose
  split
  · exact linked
  split
  · exact (linked.signalFailure _ _).modify id _ fun _ => ⟨rfl, .inr rfl⟩
  · exact linked.modify id _ fun _ => ⟨rfl, .inr rfl⟩

/-- Closing a QUIC connection takes it off the index; the connection it was for holds none. -/
theorem closed (linked : Linked backends) {id : Nat} {cnx : Cnx}
    (registration : backends.pool.index cnx = some id) (outside : Outside) :
    Linked { backends.hookClose id outside with
      pool := (backends.hookClose id outside).pool.unregister cnx } := by
  have hooked := linked.hookClose id outside
  have index := BackendPool.unregister_index (backends.hookClose id outside).pool cnx
  refine ⟨hooked.ids, ?_, ?_, ?_, ?_⟩
  · intro other conn cnx' found current
    have before := hooked.registered found current
    have apart : cnx' ≠ cnx := by
      rintro rfl
      have same : other = id := by
        rw [hookClose_index, registration] at before
        exact (Option.some.inj before).symm
      subst same
      simp [hookClose_cnx found] at current
    rw [index, Function.update_of_ne apart]
    exact before
  · intro cnx' later
    rw [index]
    by_cases same : cnx' = cnx
    · simp [same]
    · rw [Function.update_of_ne same]
      exact hooked.fresh later
  · intro other later
    rw [BackendPool.unregister_nextConnId] at later
    exact hooked.unused later
  · intro transport other member
    rw [BackendPool.unregister_nextConnId]
    exact hooked.listed member

end Linked

/-- A finished lookup concerns the connection that it was made for. -/
theorem onResolved_conns_of_ne (backends : Backends) {id other : Nat} (different : other ≠ id)
    (result : ResolveResult) (outside : Outside) :
    (backends.onResolved id result outside).conns other = backends.conns other := by
  rcases onResolved_cases backends id result outside with
    ⟨problem, -, same⟩ | ⟨spent, -, same⟩ | ⟨pool, -, -, same⟩ <;> rw [same]
  · simp only [modify_conns_of_ne _ different]
  · simp only [modify_conns_of_ne _ different]
  · simp [attach, different, modify_conns_of_ne _ different]

/-- An attempt concerns the connection that it is made on. -/
theorem ensureConnecting_conns_of_ne (backends : Backends) {id other : Nat}
    (different : other ≠ id) (outside : Outside) :
    (backends.ensureConnecting id outside).conns other = backends.conns other := by
  have started : ((backends.modify id .attempt).startConnect id outside).1.conns other =
      backends.conns other := by
    unfold startConnect
    split
    · exact modify_conns_of_ne _ different _
    split
    · exact modify_conns_of_ne _ different _
    · rw [onResolved_conns_of_ne _ different, modify_conns_of_ne _ different,
        modify_conns_of_ne _ different]
    · rw [modify_conns_of_ne _ different, modify_conns_of_ne _ different]
  unfold ensureConnecting
  split
  · rfl
  split
  · rfl
  split
  · rfl
  split <;> rename_i outcome <;> rw [outcome] at started
  · exact started
  · rw [modify_conns_of_ne _ different, started]

/-- The steps that `resolve` and `sendStream` consist of, with respect to a property they keep. -/
structure Keeps (Inv : Backends → Prop) (outside : Outside) : Prop where
  connecting : ∀ {backends} id, Inv backends → Inv (backends.ensureConnecting id outside)
  reserved : ∀ {backends id pool}, backends.pool.allocConnId = some (id, pool) → Inv backends →
    Inv { backends with pool := pool }
  created : ∀ {backends id pool} transport endpoint, backends.pool.allocConnId = some (id, pool) →
    Inv backends → Inv ({ backends with pool := pool }.addConn transport endpoint id)
  waiting : ∀ {backends} id callbacks, Inv backends →
    Inv (backends.modify id fun conn => conn.await callbacks)
  wrote : ∀ {backends} id connected accepted, Inv backends →
    Inv (backends.modify id fun conn => (conn.sendOn none connected accepted).1)
  failed : ∀ {backends} id error, Inv backends → Inv (backends.failConn id error outside)
  advanced : ∀ {backends} transport position, Inv backends →
    Inv (backends.advance transport position)

namespace Keeps

variable {Inv : Backends → Prop} {outside : Outside}

theorem getOrCreateConn (keeps : Keeps Inv outside) {backends : Backends} (holds : Inv backends)
    (transport : Nat) (endpoint : Endpoint) :
    Inv (backends.getOrCreateConn transport endpoint outside).1 := by
  unfold Backends.getOrCreateConn
  split
  · exact holds
  split
  · exact holds
  split
  · exact holds
  split
  · exact keeps.reserved ‹_› holds
  · exact keeps.created transport endpoint ‹_› holds

theorem resolveEndpoints (keeps : Keeps Inv outside) (transport : Nat)
    (endpoints : List Endpoint) {backends : Backends} (holds : Inv backends)
    (progress : Resolving) :
    Inv (backends.resolveEndpoints transport outside endpoints progress).1 := by
  induction endpoints generalizing backends progress with
  | nil => exact holds
  | cons endpoint endpoints ih =>
      have created := keeps.getOrCreateConn holds transport endpoint
      unfold Backends.resolveEndpoints
      split <;> rename_i outcome <;> rw [outcome] at created
      · exact ih created _
      · simp only
        split
        · exact ih created _
        · exact ih (keeps.connecting _ created) _

theorem resolve (keeps : Keeps Inv outside) {backends : Backends} (holds : Inv backends)
    (transport : Nat) (callback : Option Nat) :
    Inv (backends.resolve transport callback outside).1 := by
  have resolved := keeps.resolveEndpoints transport (backends.transports transport).endpoints
    holds {}
  unfold Backends.resolve
  simp only
  split
  · exact resolved
  split
  · exact resolved
  · exact keeps.waiting _ _ resolved

theorem sendNew (keeps : Keeps Inv outside) (transport : Nat) (positions : List Nat)
    {backends : Backends} (holds : Inv backends) (lastError : TransportError) :
    Inv (backends.sendNew transport outside positions lastError).1 := by
  induction positions generalizing backends lastError with
  | nil => exact holds
  | cons position positions ih =>
      unfold Backends.sendNew
      simp only
      split
      · exact ih holds _
      split
      · exact ih holds _
      split
      · exact ih (keeps.failed _ _ (keeps.wrote _ _ _ holds)) _
      · exact keeps.wrote _ _ _ holds

theorem sendStream (keeps : Keeps Inv outside) {backends : Backends} (holds : Inv backends)
    (transport : Nat) (handle : Option Nat) :
    Inv (backends.sendStream transport handle outside).1 := by
  unfold Backends.sendStream
  simp only
  split
  · exact holds
  cases handle with
  | some value =>
      simp only
      split
      · exact holds
      split
      · exact holds
      split
      · exact holds
      split
      · exact holds
      split
      · exact keeps.failed _ _ holds
      · exact holds
  | none =>
      have sent := keeps.sendNew transport ((List.range
        (backends.transports transport).conns.length).map fun offset =>
          ((backends.transports transport).nextConn + offset) %
            (backends.transports transport).conns.length) holds .connectionFailed
      simp only
      split <;> rename_i outcome <;> rw [outcome] at sent
      · exact keeps.advanced _ _ sent
      · have woken (ids : List Nat) {backends : Backends} (holds : Inv backends) :
            Inv (ids.foldl (fun backends id => backends.ensureConnecting id outside) backends) := by
          induction ids generalizing backends with
          | nil => exact holds
          | cons id ids ih => exact ih (keeps.connecting id holds)
        exact woken _ sent

end Keeps

end Backends

end LyuneGateway.Backend
