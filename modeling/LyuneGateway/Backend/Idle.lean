import LyuneGateway.Backend.Direct
import LyuneGateway.Lib.Tally

/-!
# Whether anything waits for the worker

A worker looks at its transports only when the pool says that something waits
there: a slot that is not free, or the notice of a failed connection. The pool
keeps count of both for all transports, and a transport that is closed gives
back what it had.
-/

namespace LyuneGateway.Backend

/-- All slots of a queue are free again. -/
def SlotArena.drop (arena : SlotArena) (list : SlotList) : SlotArena :=
  list.queue.foldl SlotArena.release arena

namespace BackendPool

def acknowledgeFailure (pool : BackendPool) : BackendPool :=
  { pool with pendingFailures := pool.pendingFailures - 1 }

/-- All slots are free, and no failure waits to be noticed. -/
def idle (pool : BackendPool) : Bool :=
  pool.arena.free.length = pool.arena.size && pool.pendingFailures = 0

end BackendPool

namespace Backends

/-- A backend connection that is destroyed leaves the index and gives its queue back. -/
def dropConn (backends : Backends) (id : Nat) : Backends :=
  match backends.conns id with
  | none => backends
  | some conn =>
      let pool := match conn.cnx with
        | none => backends.pool
        | some cnx => backends.pool.unregister cnx
      { backends with
        pool := { pool with arena := pool.arena.drop conn.queue }
        conns := Function.update backends.conns id none }

/-- The notices that a transport has queued are taken back, and its connections destroyed. -/
def deinit (backends : Backends) (transport : Nat) : Backends :=
  let own := backends.transports transport
  let acknowledged := { backends with
    pool := own.pendingFailures.foldl (fun pool _ => pool.acknowledgeFailure) backends.pool }
  let dropped := own.conns.foldl dropConn acknowledged
  { dropped with
    transports := Function.update dropped.transports transport
      { dropped.transports transport with conns := [], pendingFailures := [] } }

end Backends

/-- The backends of a worker whose transports can be closed. `borrowed` has the slots that were
taken and not yet given back. -/
structure Facility where
  backends : Backends
  closed : Nat → Bool := fun _ => false
  borrowed : List Slot := []

namespace Facility

inductive Use where
  | event (event : Backends.Event)
  | deinit (transport : Nat)

def init (maxConns recvSlots maxSlotsPerConn : Nat) (transports : Nat → DirectTransport) :
    Facility where
  backends := .init (.init maxConns recvSlots maxSlotsPerConn) transports

/-- A transport that is closed answers every call with an error. -/
def refuses (facility : Facility) : Backends.Event → Bool
  | .resolve transport _ _ | .send transport _ _ | .receive transport => facility.closed transport
  | _ => false

/-- The slots that are out of the pool after an event. -/
def noteSlots (facility : Facility) : Backends.Event → List Slot
  | .receive transport =>
      match (facility.backends.receive transport).2 with
      | some (.chunk slot) => slot :: facility.borrowed
      | _ => facility.borrowed
  | .release slot => facility.borrowed.erase slot
  | _ => facility.borrowed

def step (facility : Facility) : Use → Facility
  | .event event =>
      if facility.refuses event then facility
      else { facility with
        backends := facility.backends.step event
        borrowed := facility.noteSlots event }
  | .deinit transport =>
      if facility.closed transport then facility
      else { facility with
        backends := facility.backends.deinit transport
        closed := Function.update facility.closed transport true }

/-- A slot is given back by the one who took it. -/
def Owns (facility : Facility) : Backends.Event → Prop
  | .release slot => slot ∈ facility.borrowed
  | _ => True

instance (facility : Facility) : (event : Backends.Event) → Decidable (facility.Owns event)
  | .release slot => inferInstanceAs (Decidable (slot ∈ facility.borrowed))
  | .resolve .. | .send .. | .resolved .. | .connected _ | .streamData .. => .isTrue trivial
  | .streamControl .. | .close .. | .receive _ => .isTrue trivial

/-- What the outside and the worker promise. -/
def Possible (facility : Facility) : Use → Prop
  | .event event => facility.backends.Possible event ∧ facility.Owns event
  | .deinit _ => True

instance (facility : Facility) : (use : Use) → Decidable (facility.Possible use)
  | .event event =>
      inferInstanceAs (Decidable (facility.backends.Possible event ∧ facility.Owns event))
  | .deinit _ => .isTrue trivial

end Facility

namespace Backends

/-- The number of slots that wait on a backend connection. -/
def waiting (backends : Backends) (id : Nat) : Nat :=
  (backends.conns id).elim 0 fun conn => conn.queue.queue.length

/-- The pool counts the notices of all transports, and its slots are free, queued or taken. -/
structure Accounted (backends : Backends) (taken : Nat) : Prop where
  failures : Tally (fun transport => (backends.transports transport).pendingFailures.length)
    backends.pool.pendingFailures
  slots : ∃ queued, Tally backends.waiting queued ∧
    backends.pool.arena.free.length + taken + queued = backends.pool.arena.size
  unused : ∀ id, backends.pool.nextConnId ≤ id → backends.conns id = none

namespace Accounted

variable {backends after : Backends} {taken : Nat}

/-- What the accounts look at. -/
theorem congr (accounted : backends.Accounted taken)
    (failures : ∀ transport, (after.transports transport).pendingFailures =
      (backends.transports transport).pendingFailures)
    (pending : after.pool.pendingFailures = backends.pool.pendingFailures)
    (arena : after.pool.arena = backends.pool.arena)
    (waiting : after.waiting = backends.waiting)
    (unused : ∀ id, after.pool.nextConnId ≤ id → after.conns id = none) :
    after.Accounted taken where
  failures := by
    simp only [failures, pending]
    exact accounted.failures
  slots := by
    rw [waiting, arena]
    exact accounted.slots
  unused := unused

theorem waiting_modify (id : Nat) {change : BackendConn → BackendConn}
    (same : ∀ conn, (change conn).queue.queue.length = conn.queue.queue.length) :
    (backends.modify id change).waiting = backends.waiting := by
  funext other
  unfold waiting
  by_cases here : other = id
  · subst here
    rw [modify_conns_self]
    cases backends.conns other with
    | none => rfl
    | some conn => exact same conn
  · rw [modify_conns_of_ne _ here]

theorem unused_modify (unused : ∀ id, backends.pool.nextConnId ≤ id → backends.conns id = none)
    (id : Nat) (change : BackendConn → BackendConn) (other : Nat)
    (later : backends.pool.nextConnId ≤ other) :
    (backends.modify id change).conns other = none := by
  have none := unused other later
  by_cases here : other = id
  · subst here
    rw [modify_conns_self, none]
    rfl
  · rw [modify_conns_of_ne _ here, none]

theorem modify (accounted : backends.Accounted taken) (id : Nat)
    {change : BackendConn → BackendConn}
    (same : ∀ conn, (change conn).queue.queue.length = conn.queue.queue.length) :
    (backends.modify id change).Accounted taken :=
  accounted.congr (fun _ => rfl) rfl rfl (waiting_modify id same)
    (unused_modify accounted.unused id change)

theorem signalFailure (accounted : backends.Accounted taken) (transport key : Nat) :
    (backends.signalFailure transport key).Accounted taken := by
  refine ⟨?_, ?_, ?_⟩
  · unfold Backends.signalFailure
    split
    · exact accounted.failures
    · have amounts : (fun other => (Function.update backends.transports transport
          { backends.transports transport with
            pendingFailures := (backends.transports transport).pendingFailures ++ [key] }
              other).pendingFailures.length) =
          Function.update (fun other => (backends.transports other).pendingFailures.length)
            transport ((backends.transports transport).pendingFailures.length + 1) := by
        funext other
        by_cases same : other = transport
        · subst same
          simp
        · simp [same]
      simp only
      rw [amounts]
      refine accounted.failures.update transport ?_
      omega
  · obtain ⟨queued, tally, sum⟩ := accounted.slots
    have same : (backends.signalFailure transport key).waiting = backends.waiting := by
      unfold waiting
      rw [signalFailure_conns]
    refine ⟨queued, same ▸ tally, ?_⟩
    simpa using sum
  · simpa using accounted.unused

theorem attach (accounted : backends.Accounted taken) {id : Nat} {pool : BackendPool}
    (registration : backends.pool.register backends.nextCnx id = some pool) :
    (backends.attach id pool).Accounted taken := by
  have kept : pool.pendingFailures = backends.pool.pendingFailures ∧
      pool.arena = backends.pool.arena := by
    unfold BackendPool.register at registration
    split at registration
    · split at registration
      · cases registration
      · cases registration
        exact ⟨rfl, rfl⟩
    · cases registration
      exact ⟨rfl, rfl⟩
  refine accounted.congr (fun _ => rfl) kept.1 kept.2 ?_ ?_
  · exact waiting_modify id fun _ => rfl
  · intro other later
    rw [Backends.attach, BackendPool.register_nextConnId registration] at later
    exact unused_modify accounted.unused id (fun conn => conn.setCnx (some backends.nextCnx)) other
      later

theorem onResolved (accounted : backends.Accounted taken) (id : Nat) (result : ResolveResult)
    (outside : Outside) : (backends.onResolved id result outside).Accounted taken := by
  have done : (backends.modify id .lookupDone).Accounted taken := accounted.modify id fun _ => rfl
  rcases onResolved_cases backends id result outside with
    ⟨problem, -, same⟩ | ⟨spent, -, same⟩ | ⟨pool, -, registration, same⟩ <;> rw [same]
  · exact done.modify id fun _ => rfl
  · have spending : Accounted { backends with nextCnx := backends.nextCnx + spent } taken :=
      accounted.congr (fun _ => rfl) rfl rfl rfl accounted.unused
    exact (@modify _ _ spending id .lookupDone fun _ => rfl).modify id fun _ => rfl
  · exact done.attach registration

theorem startConnect (accounted : backends.Accounted taken) (id : Nat) (outside : Outside) :
    (backends.startConnect id outside).1.Accounted taken := by
  unfold Backends.startConnect
  split
  · exact accounted
  split
  · exact accounted
  · exact (@modify _ _ accounted id .lookupStarted fun _ => rfl).onResolved id _ outside
  · exact accounted.modify id fun _ => rfl

theorem ensureConnecting (accounted : backends.Accounted taken) (id : Nat) (outside : Outside) :
    (backends.ensureConnecting id outside).Accounted taken := by
  unfold Backends.ensureConnecting
  split
  · exact accounted
  split
  · exact accounted
  split
  · exact accounted
  have started := (@modify _ _ accounted id .attempt fun _ => rfl).startConnect id outside
  split <;> rename_i outcome <;> rw [outcome] at started
  · exact started
  · exact started.modify id fun _ => rfl

theorem failConn (accounted : backends.Accounted taken) (id : Nat) (error : TransportError)
    (outside : Outside) : (backends.failConn id error outside).Accounted taken := by
  unfold Backends.failConn
  split
  · exact accounted
  · exact (accounted.signalFailure _ _).modify id fun _ => rfl

theorem addConn (accounted : backends.Accounted taken) (transport : Nat) (endpoint : Endpoint)
    {id : Nat} {pool : BackendPool} (allocated : backends.pool.allocConnId = some (id, pool)) :
    ({ backends with pool := pool }.addConn transport endpoint id).Accounted taken := by
  obtain ⟨rfl, rfl⟩ := BackendPool.allocConnId_eq_some allocated
  have none := accounted.unused _ (Nat.le_refl _)
  refine accounted.congr (fun other => ?_) rfl rfl ?_ fun other later => ?_
  · simp only [Backends.addConn]
    by_cases same : other = transport
    · subst same
      simp
    · simp [same]
  · funext other
    unfold waiting
    by_cases same : other = backends.pool.nextConnId
    · subst same
      rw [none]
      simp [Backends.addConn, freshConn]
    · simp [Backends.addConn, same]
  · have newer : backends.pool.nextConnId < other := later
    simpa [Backends.addConn, Function.update_of_ne newer.ne'] using accounted.unused other newer.le

/-- What `resolve` and `send` do to the accounts. -/
theorem keeps (taken : Nat) (outside : Outside) : Keeps (Accounted · taken) outside where
  connecting id accounted := accounted.ensureConnecting id outside
  reserved allocated accounted := by
    obtain ⟨rfl, rfl⟩ := BackendPool.allocConnId_eq_some allocated
    exact accounted.congr (fun _ => rfl) rfl rfl rfl fun other later =>
      accounted.unused other (Nat.le_of_succ_le later)
  created transport endpoint allocated accounted := accounted.addConn transport endpoint allocated
  waiting id callbacks accounted := accounted.modify id fun _ => rfl
  wrote id connected accepted accounted := by
    refine accounted.modify id fun conn => ?_
    unfold BackendConn.sendOn
    split
    · rfl
    split
    · rfl
    · simp only
      split <;> rfl
  failed id error accounted := accounted.failConn id error outside
  advanced transport position accounted := by
    refine accounted.congr (fun other => ?_) rfl rfl rfl accounted.unused
    simp only [Backends.advance]
    by_cases same : other = transport
    · subst same
      simp
    · simp [same]

theorem abortConnection (accounted : backends.Accounted taken) (id : Nat)
    (error : TransportError) (outside : Outside) :
    (backends.abortConnection id error outside).Accounted taken := by
  unfold Backends.abortConnection
  split
  · exact accounted
  · exact (accounted.signalFailure _ _).modify id fun _ => rfl

/-- The slots of a queue that has grown or shrunk, and those left in the pool. -/
theorem requeue (accounted : backends.Accounted taken) {id : Nat} {conn : BackendConn}
    (found : backends.conns id = some conn) {arena : SlotArena}
    {change : BackendConn → BackendConn} {later : Nat}
    (size : arena.size = backends.pool.arena.size)
    (balance : arena.free.length + later + (change conn).queue.queue.length =
      backends.pool.arena.free.length + taken + conn.queue.queue.length) :
    ({ backends with pool := { backends.pool with arena := arena } }.modify id
      change).Accounted later := by
  obtain ⟨queued, tally, sum⟩ := accounted.slots
  have here : backends.waiting id = conn.queue.queue.length := by
    simp [waiting, found]
  have some := tally.le id
  refine ⟨accounted.failures, ⟨queued - backends.waiting id + (change conn).queue.queue.length, ?_, ?_⟩, ?_⟩
  · have amounts : ({ backends with pool := { backends.pool with arena := arena } }.modify id
        change).waiting =
        Function.update backends.waiting id (change conn).queue.queue.length := by
      funext other
      unfold waiting
      by_cases same : other = id
      · subst same
        rw [modify_conns_self, Function.update_self, found]
        rfl
      · rw [modify_conns_of_ne _ same, Function.update_of_ne same]
    rw [amounts]
    exact tally.update id (by omega)
  · change arena.free.length + later +
      (queued - backends.waiting id + (change conn).queue.queue.length) = arena.size
    omega
  · exact @unused_modify { backends with pool := { backends.pool with arena := arena } }
      accounted.unused id _

theorem enqueueOrAbort (accounted : backends.Accounted taken) {id : Nat} {conn : BackendConn}
    (found : backends.conns id = some conn) (cnx : Cnx) (streamId : Nat) (data : Bytes)
    (isFin : Bool) (kind : RecvKind) (outside : Outside) :
    (backends.enqueueOrAbort id cnx conn streamId data isFin kind outside).Accounted taken := by
  unfold Backends.enqueueOrAbort
  simp only
  split
  · exact accounted.abortConnection id .receiveFailed outside
  rename_i arena queue fits
  unfold SlotArena.enqueueEvent at fits
  simp only at fits
  split at fits
  · cases fits
  rename_i room
  split at fits
  · cases fits
  split at fits
  · cases fits
  cases fits
  refine accounted.requeue found rfl ?_
  simp only [BackendConn.setQueue_queue, List.length_drop, List.length_append, SlotArena.fill,
    List.length_map, List.length_zipIdx, List.length_take]
  omega

theorem hookClose (accounted : backends.Accounted taken) (id : Nat) (outside : Outside) :
    (backends.hookClose id outside).Accounted taken := by
  unfold Backends.hookClose
  split
  · exact accounted
  split
  · exact (accounted.signalFailure _ _).modify id fun _ => rfl
  · exact accounted.modify id fun _ => rfl

theorem unregister (accounted : backends.Accounted taken) (cnx : Cnx) :
    Accounted { backends with pool := backends.pool.unregister cnx } taken := by
  have kept : (backends.pool.unregister cnx).pendingFailures = backends.pool.pendingFailures ∧
      (backends.pool.unregister cnx).arena = backends.pool.arena := by
    unfold BackendPool.unregister
    split
    · exact ⟨rfl, rfl⟩
    · exact ⟨rfl, rfl⟩
  refine accounted.congr (fun _ => rfl) kept.1 kept.2 rfl fun id later => ?_
  exact accounted.unused id ((BackendPool.unregister_nextConnId _ cnx).symm ▸ later)

/-- A slot that is taken leaves its queue, and a notice that is taken is no longer counted. -/
theorem receive (accounted : backends.Accounted taken) (transport : Nat) :
    (backends.receive transport).1.Accounted
      (match (backends.receive transport).2 with
        | some (.chunk _) => taken + 1
        | _ => taken) := by
  unfold Backends.receive
  simp only
  split
  · rename_i id first
    cases found : backends.conns id with
    | none => exact accounted
    | some conn =>
        cases queue : conn.queue.queue with
        | nil =>
            simp only [Option.bind_some, queue, List.head?_nil]
            exact accounted
        | cons slot rest =>
            simp only [Option.bind_some, queue, List.head?_cons]
            refine @requeue backends taken accounted id conn found backends.pool.arena _ _ rfl ?_
            simp only [BackendConn.setQueue_queue, queue, List.tail_cons, List.length_cons]
            omega
  split
  · exact accounted
  · rename_i key last
    obtain ⟨queued, tally, sum⟩ := accounted.slots
    refine ⟨?_, ⟨queued, tally, sum⟩, accounted.unused⟩
    have amounts : (fun other => (Function.update backends.transports transport
        { backends.transports transport with
          pendingFailures := (backends.transports transport).pendingFailures.dropLast
          lastFailureConn := key } other).pendingFailures.length) =
        Function.update (fun other => (backends.transports other).pendingFailures.length)
          transport ((backends.transports transport).pendingFailures.length - 1) := by
      funext other
      by_cases same : other = transport
      · subst same
        simp
      · simp [same]
    have some := accounted.failures.le transport
    have full : 0 < (backends.transports transport).pendingFailures.length := by
      refine List.length_pos_iff.mpr fun empty => ?_
      rw [empty] at last
      cases last
    simp only
    rw [amounts]
    exact accounted.failures.update transport (by omega)

theorem release (accounted : backends.Accounted (taken + 1)) (slot : Slot) :
    (backends.releaseRecv slot).Accounted taken := by
  obtain ⟨queued, tally, sum⟩ := accounted.slots
  refine ⟨accounted.failures, ⟨queued, tally, ?_⟩, accounted.unused⟩
  simp only [releaseRecv, SlotArena.release, List.length_cons]
  omega

theorem handle (accounted : backends.Accounted taken) {event : Event}
    (other : (∀ transport, event ≠ .receive transport) ∧ ∀ slot, event ≠ .release slot) :
    (backends.handle event).Accounted taken := by
  cases event with
  | resolve transport callback outside =>
      exact (keeps taken outside).resolve accounted transport callback
  | send transport handle outside =>
      exact (keeps taken outside).sendStream accounted transport handle
  | resolved conn result outside => exact accounted.onResolved conn result outside
  | connected cnx =>
      simp only [Backends.handle]
      split
      · exact accounted
      rename_i id _
      unfold hookConnected
      split
      · exact accounted
      rename_i conn _
      have begun : Accounted { backends with
          born := Function.update backends.born cnx (some conn.markConnected.generation) } taken :=
        accounted.congr (fun _ => rfl) rfl rfl rfl accounted.unused
      exact @modify _ _ begun id .markConnected fun _ => rfl
  | streamData cnx streamId data isFin outside =>
      simp only [Backends.handle]
      split
      · exact accounted
      unfold hookStreamData
      split
      · exact accounted
      split
      · exact accounted
      split
      · exact accounted
      · exact accounted.enqueueOrAbort ‹_› cnx streamId data isFin .data outside
  | streamControl cnx streamId stopSending outside =>
      simp only [Backends.handle]
      split
      · exact accounted
      unfold hookStreamControl
      split
      · exact accounted
      split
      · exact accounted
      · exact accounted.enqueueOrAbort ‹_› cnx streamId [] true _ outside
  | close cnx outside =>
      simp only [Backends.handle]
      split
      · exact accounted
      · exact (accounted.hookClose _ outside).unregister cnx
  | receive transport => exact absurd rfl (other.1 transport)
  | release slot => exact absurd rfl (other.2 slot)

theorem drop_free (list : List Slot) (arena : SlotArena) :
    (list.foldl SlotArena.release arena).free.length = arena.free.length + list.length ∧
      (list.foldl SlotArena.release arena).size = arena.size := by
  induction list generalizing arena with
  | nil => exact ⟨rfl, rfl⟩
  | cons slot list ih =>
      obtain ⟨free, size⟩ := ih (arena.release slot)
      rw [List.foldl_cons, free, size]
      simp only [SlotArena.release, List.length_cons]
      exact ⟨by omega, trivial⟩

theorem dropConn (accounted : backends.Accounted taken) (id : Nat) :
    (backends.dropConn id).Accounted taken := by
  unfold Backends.dropConn
  cases found : backends.conns id with
  | none => exact accounted
  | some conn =>
      have detached : Accounted { backends with
          pool := match conn.cnx with
            | none => backends.pool
            | some cnx => backends.pool.unregister cnx } taken := by
        cases conn.cnx with
        | none => exact accounted
        | some cnx => exact accounted.unregister cnx
      simp only
      generalize (match conn.cnx with
        | none => backends.pool
        | some cnx => backends.pool.unregister cnx) = pool at detached ⊢
      obtain ⟨queued, tally, sum⟩ := detached.slots
      obtain ⟨free, size⟩ := drop_free conn.queue.queue pool.arena
      have here : Backends.waiting { backends with pool := pool } id =
          conn.queue.queue.length := by
        simp [waiting, found]
      have some := tally.le id
      have sum : pool.arena.free.length + taken + queued = pool.arena.size := sum
      refine ⟨detached.failures, ⟨queued - conn.queue.queue.length, ?_, ?_⟩, fun other later => ?_⟩
      · have amounts : Backends.waiting { backends with
            pool := { pool with arena := pool.arena.drop conn.queue }
            conns := Function.update backends.conns id none } =
            Function.update (Backends.waiting { backends with pool := pool }) id 0 := by
          funext other
          unfold waiting
          by_cases same : other = id
          · subst same
            simp
          · simp [same]
        rw [amounts]
        exact tally.update id (by omega)
      · simp only [SlotArena.drop, free, size]
        omega
      · by_cases same : other = id
        · subst same
          simp
        · simpa [same] using detached.unused other later

/-- Destroying connections does not look at the transports. -/
theorem dropConns_transports (transports : Nat → DirectTransport) (ids : List Nat)
    (backends : Backends) :
    ids.foldl Backends.dropConn { backends with transports := transports } =
      { ids.foldl Backends.dropConn backends with transports := transports } ∧
    (ids.foldl Backends.dropConn backends).transports = backends.transports := by
  have one (backends : Backends) (id : Nat) :
      Backends.dropConn { backends with transports := transports } id =
        { backends.dropConn id with transports := transports } ∧
      (backends.dropConn id).transports = backends.transports := by
    unfold Backends.dropConn
    cases backends.conns id with
    | none => exact ⟨rfl, rfl⟩
    | some conn => exact ⟨rfl, rfl⟩
  induction ids generalizing backends with
  | nil => exact ⟨rfl, rfl⟩
  | cons id ids ih =>
      obtain ⟨commutes, same⟩ := ih (backends.dropConn id)
      rw [List.foldl_cons, List.foldl_cons, (one backends id).1]
      exact ⟨commutes, same.trans (one backends id).2⟩

theorem dropConns (accounted : backends.Accounted taken) (ids : List Nat) :
    (ids.foldl Backends.dropConn backends).Accounted taken := by
  induction ids generalizing backends with
  | nil => exact accounted
  | cons id ids ih => exact ih (accounted.dropConn id)

theorem acknowledge_all (keys : List Nat) (pool : BackendPool) :
    keys.foldl (fun pool _ => pool.acknowledgeFailure) pool =
      { pool with pendingFailures := pool.pendingFailures - keys.length } := by
  induction keys generalizing pool with
  | nil => rfl
  | cons key keys ih =>
      rw [List.foldl_cons, ih]
      simp only [BackendPool.acknowledgeFailure, List.length_cons, BackendPool.mk.injEq, true_and,
        and_true]
      omega

theorem deinit (accounted : backends.Accounted taken) (transport : Nat) :
    (backends.deinit transport).Accounted taken := by
  have some := accounted.failures.le transport
  let own := backends.transports transport
  let acknowledged := { backends with
    pool := own.pendingFailures.foldl (fun pool _ => pool.acknowledgeFailure) backends.pool }
  let emptied := Function.update backends.transports transport
    { own with conns := [], pendingFailures := [] }
  have leads : backends.deinit transport =
      own.conns.foldl Backends.dropConn { acknowledged with transports := emptied } := by
    obtain ⟨commutes, same⟩ := dropConns_transports emptied own.conns acknowledged
    rw [commutes]
    simp only [Backends.deinit]
    rw [same]
  have notices := acknowledge_all own.pendingFailures backends.pool
  have settled : Accounted { acknowledged with transports := emptied } taken := by
    obtain ⟨queued, tally, sum⟩ := accounted.slots
    have amounts : (fun other => (emptied other).pendingFailures.length) =
        Function.update (fun other => (backends.transports other).pendingFailures.length)
          transport 0 := by
      funext other
      by_cases same : other = transport
      · subst same
        simp [emptied]
      · simp [emptied, same]
    refine ⟨?_, ⟨queued, tally, ?_⟩, ?_⟩
    · simp only [acknowledged, notices]
      rw [amounts]
      exact accounted.failures.update transport (by simp only [own]; omega)
    · simpa only [acknowledged, notices] using sum
    · simpa only [acknowledged, notices] using accounted.unused
  rw [leads]
  exact settled.dropConns own.conns

theorem step (accounted : backends.Accounted taken) {event : Event}
    (other : (∀ transport, event ≠ .receive transport) ∧ ∀ slot, event ≠ .release slot) :
    (backends.step event).Accounted taken :=
  (accounted.handle other).congr (fun _ => rfl) rfl rfl rfl (accounted.handle other).unused

end Accounted

end Backends

namespace Facility

variable {facility : Facility}

/-- Nothing waits for the worker, and nothing is out of the pool. -/
structure Quiet (facility : Facility) : Prop where
  returned : facility.borrowed = []
  queues : ∀ id conn, facility.backends.conns id = some conn → conn.queue.queue = []
  notices : ∀ transport, (facility.backends.transports transport).pendingFailures = []

theorem accounted_step (accounted : facility.backends.Accounted facility.borrowed.length)
    {use : Use} (possible : facility.Possible use) :
    (facility.step use).backends.Accounted (facility.step use).borrowed.length := by
  cases use with
  | deinit transport =>
      simp only [step]
      split
      · exact accounted
      · exact accounted.deinit transport
  | event event =>
      simp only [step]
      split
      · exact accounted
      by_cases receives : ∃ transport, event = .receive transport
      · obtain ⟨transport, rfl⟩ := receives
        have taken := accounted.receive transport
        simp only [noteSlots, Backends.step, Backends.handle]
        generalize facility.backends.receive transport = answer at taken ⊢
        obtain ⟨after, received⟩ := answer
        have kept {count : Nat} (taken : after.Accounted count) :
            Backends.Accounted { after with
              clock := (Backends.Event.receive transport).time.getD after.clock } count :=
          taken.congr (fun _ => rfl) rfl rfl rfl taken.unused
        cases received with
        | none => exact kept taken
        | some received =>
            cases received with
            | chunk slot => exact kept taken
            | failure key => exact kept taken
      by_cases releases : ∃ slot, event = .release slot
      · obtain ⟨slot, rfl⟩ := releases
        have out : slot ∈ facility.borrowed := possible.2
        have fewer : (facility.borrowed.erase slot).length + 1 = facility.borrowed.length := by
          have some := List.length_pos_of_mem out
          rw [List.length_erase_of_mem out]
          omega
        rw [← fewer] at accounted
        have released := accounted.release slot
        exact released.congr (fun _ => rfl) rfl rfl rfl released.unused
      · have other : facility.noteSlots event = facility.borrowed := by
          cases event with
          | receive transport => exact absurd ⟨transport, rfl⟩ receives
          | release slot => exact absurd ⟨slot, rfl⟩ releases
          | _ => rfl
        rw [other]
        exact accounted.step ⟨fun transport same => receives ⟨transport, same⟩,
          fun slot same => releases ⟨slot, same⟩⟩

theorem init_accounted (maxConns recvSlots maxSlotsPerConn : Nat)
    (transports : Nat → DirectTransport) :
    (init maxConns recvSlots maxSlotsPerConn transports).backends.Accounted 0 where
  failures := .zero
  slots := ⟨0, .zero, by simp [init, Backends.init, BackendPool.init, SlotArena.init]⟩
  unused := fun _ _ => rfl

theorem idle_iff_quiet (accounted : facility.backends.Accounted facility.borrowed.length) :
    facility.backends.pool.idle = true ↔ facility.Quiet := by
  obtain ⟨failures, ⟨queued, tally, sum⟩, -⟩ := accounted
  simp only [BackendPool.idle, Bool.and_eq_true, decide_eq_true_eq]
  constructor
  · rintro ⟨free, pending⟩
    refine ⟨List.eq_nil_of_length_eq_zero (by omega), fun id conn found => ?_, fun transport => ?_⟩
    · have most := tally.le id
      simp only [Backends.waiting, found, Option.elim_some] at most
      exact List.eq_nil_of_length_eq_zero (by omega)
    · have most := failures.le transport
      exact List.eq_nil_of_length_eq_zero (by omega)
  · rintro ⟨returned, queues, notices⟩
    have none : queued = 0 := by
      refine tally.eq_zero fun id => ?_
      unfold Backends.waiting
      cases found : facility.backends.conns id with
      | none => rfl
      | some conn => simp [queues id conn found]
    have noted := failures.eq_zero fun transport => by simp [notices transport]
    rw [returned, List.length_nil] at sum
    exact ⟨by omega, noted⟩

/-- There is nothing to be taken from any transport then. -/
theorem Quiet.receive (quiet : facility.Quiet) (transport : Nat) :
    (facility.backends.receive transport).2 = none := by
  unfold Backends.receive
  simp only [quiet.notices transport, List.getLast?_nil]
  split
  · rename_i id first
    have waits := List.find?_some first
    cases found : facility.backends.conns id with
    | none => simp [found] at waits
    | some conn => simp [found, quiet.queues id conn found] at waits
  · rfl

/-- The pool is idle just when nothing is queued, taken or to be noticed, in whatever way its
transports were used; no transport has anything to be received then. -/
theorem idle_agrees (maxConns recvSlots maxSlotsPerConn : Nat)
    (transports : Nat → DirectTransport) (uses : List Use)
    (meets : Run.Meets step Possible (init maxConns recvSlots maxSlotsPerConn transports) uses) :
    let facility := Run.final step (init maxConns recvSlots maxSlotsPerConn transports) uses
    Tally (fun transport => (facility.backends.transports transport).pendingFailures.length)
        facility.backends.pool.pendingFailures ∧
      (facility.backends.pool.idle = true ↔ facility.Quiet) ∧
      (facility.backends.pool.idle = true → ∀ transport, facility.closed transport = false →
        (facility.backends.receive transport).2 = none) := by
  have accounted := @Run.invariant _ _ _ _
    (fun facility => facility.backends.Accounted facility.borrowed.length)
    (fun facility use accounted possible => accounted_step accounted possible) _ _
    (init_accounted maxConns recvSlots maxSlotsPerConn transports) meets
  refine ⟨accounted.failures, idle_iff_quiet accounted, fun idle transport _ => ?_⟩
  exact ((idle_iff_quiet accounted).mp idle).receive transport

/-- A connection that brings a chunk and fails. -/
def answerAndFailure : List Use :=
  [.event (.resolve 0 none { now := 0 }), .event (.resolved 0 .address { now := 0 }),
    .event (.connected 0), .event (.streamData 0 0 [1] true { now := 0 }),
    .event (.close 0 { now := 0 }), .event (.receive 0), .event (.receive 0)]

theorem idle_agrees_failure :
    let facility := Run.final step
      (init 8 4 2 fun _ => { endpoints := [{ host := "backend", port := 4433 }] }) answerAndFailure
    Tally (fun transport => (facility.backends.transports transport).pendingFailures.length)
        facility.backends.pool.pendingFailures ∧
      (facility.backends.pool.idle = true ↔ facility.Quiet) ∧
      (facility.backends.pool.idle = true → ∀ transport, facility.closed transport = false →
        (facility.backends.receive transport).2 = none) :=
  idle_agrees 8 4 2 (fun _ => { endpoints := [{ host := "backend", port := 4433 }] })
    answerAndFailure (by decide)

end Facility

end LyuneGateway.Backend
