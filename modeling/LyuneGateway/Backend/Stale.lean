import LyuneGateway.Backend.Direct

/-!
# Events of superseded QUIC connections

A QUIC connection stays registered until its close event, also when its backend
connection has failed and moved on to another one. The hooks look at the state
of the backend connection only, so an event of the superseded connection can act
on its successor. Exactly when it does not is `Harmless`; in runs where it never
does, every received chunk carries the generation of the connection it came by.
-/

namespace LyuneGateway.Backend

namespace Backends

/-- The QUIC connection an event is about. -/
def Event.cnx : Event → Option Cnx
  | .connected cnx | .streamData cnx _ _ _ _ | .streamControl cnx _ _ _ | .close cnx _ => some cnx
  | _ => none

/-- The states of a backend connection in which a stale event finds nothing to change. -/
def Harmless (conn : BackendConn) : Event → Prop
  | .connected _ => False
  | .streamData _ _ data isFin _ => conn.state ≠ .ready ∨ data = [] ∧ isFin = false
  | .streamControl _ _ _ _ => conn.state ≠ .ready
  | .close _ outside => conn.cnx = none ∧ conn.state = .backoff ∧
      conn.retryAt = outside.now + BackendConn.retryDelay conn.nextFailureCount
  | _ => True

instance (conn : BackendConn) : (event : Event) → Decidable (Harmless conn event)
  | .connected _ => inferInstanceAs (Decidable False)
  | .streamData _ _ data isFin _ =>
      inferInstanceAs (Decidable (conn.state ≠ .ready ∨ data = [] ∧ isFin = false))
  | .streamControl _ _ _ _ => inferInstanceAs (Decidable (conn.state ≠ .ready))
  | .close _ outside => inferInstanceAs (Decidable (conn.cnx = none ∧ conn.state = .backoff ∧
      conn.retryAt = outside.now + BackendConn.retryDelay conn.nextFailureCount))
  | .resolve .. | .send .. | .resolved .. | .receive _ | .release _ =>
      inferInstanceAs (Decidable True)

/-- Every queued chunk belongs to the generation of the QUIC connection it came by, and the current
QUIC connection, once connected, to that of its backend connection. -/
structure Attributed (backends : Backends) : Prop extends Linked backends where
  unborn : ∀ {cnx}, backends.nextCnx ≤ cnx → backends.born cnx = none
  bounded : ∀ {id conn}, backends.conns id = some conn → conn.generation < 2 ^ 16
  current : ∀ {id conn cnx generation}, backends.conns id = some conn → conn.cnx = some cnx →
    backends.born cnx = some generation → conn.generation = generation
  queued : ∀ {id conn slot}, backends.conns id = some conn → slot ∈ conn.queue.queue →
    backends.born slot.origin = some (handleGeneration slot.streamId)

namespace Attributed

variable {backends : Backends}

theorem init (pool : BackendPool) (transports : Nat → DirectTransport)
    (empty : ∀ cnx, pool.index cnx = none) : Attributed (Backends.init pool transports) where
  toLinked := Linked.init pool transports empty
  unborn := fun _ => rfl
  bounded := by simp [Backends.init]
  current := by simp [Backends.init]
  queued := by simp [Backends.init]

/-- A change that opens no generation, takes no other QUIC connection and queues nothing. -/
structure Quiet (change : BackendConn → BackendConn) : Prop where
  id : ∀ conn, (change conn).id = conn.id
  generation : ∀ conn, (change conn).generation = conn.generation
  cnx : ∀ conn, (change conn).cnx = conn.cnx ∨ (change conn).cnx = none
  queue : ∀ conn, (change conn).queue.queue ⊆ conn.queue.queue

theorem Quiet.of_rfl {change : BackendConn → BackendConn}
    (same : ∀ conn, (change conn).id = conn.id ∧ (change conn).generation = conn.generation ∧
      (change conn).cnx = conn.cnx ∧ (change conn).queue = conn.queue) : Quiet change where
  id := fun conn => (same conn).1
  generation := fun conn => (same conn).2.1
  cnx := fun conn => .inl (same conn).2.2.1
  queue := fun conn => by rw [(same conn).2.2.2]; exact List.Subset.refl _

theorem Quiet.failed (error : TransportError) (now : Nat) :
    Quiet fun conn => conn.markFailed error now :=
  .of_rfl fun _ => ⟨rfl, rfl, rfl, rfl⟩

theorem Quiet.dropped (error : TransportError) (now : Nat) :
    Quiet fun conn => (conn.setCnx none).markFailed error now where
  id := fun _ => rfl
  generation := fun _ => rfl
  cnx := fun _ => .inr rfl
  queue := fun _ => List.Subset.refl _

theorem modify (attributed : Attributed backends) (id : Nat) {change : BackendConn → BackendConn}
    (quiet : Quiet change) : Attributed (backends.modify id change) where
  toLinked := attributed.toLinked.modify id change fun conn => ⟨quiet.id conn, quiet.cnx conn⟩
  unborn := attributed.unborn
  bounded := by
    intro other conn found
    rcases modify_conns_cases found with ⟨old, before, -, rfl⟩ | ⟨-, before⟩
    · rw [quiet.generation]
      exact attributed.bounded before
    · exact attributed.bounded before
  current := by
    intro other conn cnx generation found isCurrent born
    rcases modify_conns_cases found with ⟨old, before, -, rfl⟩ | ⟨-, before⟩
    · rcases quiet.cnx old with keeps | drops
      · rw [quiet.generation]
        exact attributed.current before (keeps ▸ isCurrent) born
      · simp [drops] at isCurrent
    · exact attributed.current before isCurrent born
  queued := by
    intro other conn slot found member
    rcases modify_conns_cases found with ⟨old, before, -, rfl⟩ | ⟨-, before⟩
    · exact attributed.queued before (quiet.queue old member)
    · exact attributed.queued before member

theorem congr {after : Backends} (attributed : Attributed backends)
    (conns : after.conns = backends.conns) (index : after.pool.index = backends.pool.index)
    (born : after.born = backends.born) (next : backends.nextCnx ≤ after.nextCnx)
    (ids : backends.pool.nextConnId ≤ after.pool.nextConnId)
    (lists : ∀ transport, (after.transports transport).conns =
      (backends.transports transport).conns) : Attributed after where
  toLinked := attributed.toLinked.congr conns index next ids lists
  unborn := fun later => by rw [born]; exact attributed.unborn (le_trans next later)
  bounded := by rw [conns]; exact attributed.bounded
  current := by rw [conns, born]; exact attributed.current
  queued := by rw [conns, born]; exact attributed.queued

theorem signalFailure (attributed : Attributed backends) (transport key : Nat) :
    Attributed (backends.signalFailure transport key) :=
  attributed.congr (by simp) (by simp) (by simp) (by simp) (by simp) (by simp)

theorem attach (attributed : Attributed backends) {id : Nat} {pool : BackendPool}
    (registration : backends.pool.register backends.nextCnx id = some pool) :
    Attributed (backends.attach id pool) where
  toLinked := attributed.toLinked.attach registration
  unborn := fun later => attributed.unborn (le_trans (Nat.le_succ _) later)
  bounded := by
    intro other conn found
    rcases attach_conns_cases found with ⟨old, before, -, rfl⟩ | ⟨-, before⟩
    · have := attributed.bounded before
      exact this
    · exact attributed.bounded before
  current := by
    intro other conn cnx generation found isCurrent born
    rcases attach_conns_cases found with ⟨old, -, -, rfl⟩ | ⟨-, before⟩
    · simp only [BackendConn.setCnx_cnx, Option.some.injEq] at isCurrent
      have unborn := attributed.unborn isCurrent.le
      simp [Backends.attach, unborn] at born
    · exact attributed.current before isCurrent born
  queued := by
    intro other conn slot found member
    rcases attach_conns_cases found with ⟨old, before, -, rfl⟩ | ⟨-, before⟩
    · have := attributed.queued before member
      exact this
    · exact attributed.queued before member

theorem onResolved (attributed : Attributed backends) (id : Nat) (result : ResolveResult)
    (outside : Outside) : Attributed (backends.onResolved id result outside) := by
  have settling : Quiet BackendConn.lookupDone := .of_rfl fun _ => ⟨rfl, rfl, rfl, rfl⟩
  rcases onResolved_cases backends id result outside with
    ⟨problem, -, same⟩ | ⟨spent, -, same⟩ | ⟨pool, -, registration, same⟩ <;> rw [same]
  · exact (attributed.modify id settling).modify id (.of_rfl fun _ => ⟨rfl, rfl, rfl, rfl⟩)
  · have spending : Attributed { backends with nextCnx := backends.nextCnx + spent } :=
      attributed.congr rfl rfl rfl (Nat.le_add_right _ _) le_rfl fun _ => rfl
    exact (spending.modify id settling).modify id (.failed _ _)
  · exact (attributed.modify id settling).attach registration

theorem ensureConnecting (attributed : Attributed backends) (id : Nat) (outside : Outside) :
    Attributed (backends.ensureConnecting id outside) := by
  unfold Backends.ensureConnecting
  split
  · exact attributed
  split
  · exact attributed
  split
  · exact attributed
  have begun : Attributed (backends.modify id .attempt) :=
    attributed.modify id (.of_rfl fun _ => ⟨rfl, rfl, rfl, rfl⟩)
  have counting : Quiet BackendConn.lookupStarted := .of_rfl fun _ => ⟨rfl, rfl, rfl, rfl⟩
  have started : Attributed ((backends.modify id .attempt).startConnect id outside).1 := by
    unfold Backends.startConnect
    split
    · exact begun
    split
    · exact begun
    · exact (begun.modify id counting).onResolved id _ outside
    · exact begun.modify id counting
  split <;> rename_i outcome <;> rw [outcome] at started
  · exact started
  · exact started.modify id (.failed _ _)

theorem failConn (attributed : Attributed backends) (id : Nat) (error : TransportError)
    (outside : Outside) : Attributed (backends.failConn id error outside) := by
  unfold Backends.failConn
  split
  · exact attributed
  · exact (attributed.signalFailure _ _).modify id (.failed _ _)

theorem addConn (attributed : Attributed backends) (transport : Nat) (endpoint : Endpoint)
    {id : Nat} {pool : BackendPool} (allocated : backends.pool.allocConnId = some (id, pool)) :
    Attributed ({ backends with pool := pool }.addConn transport endpoint id) where
  toLinked := attributed.toLinked.addConn transport endpoint allocated
  unborn := attributed.unborn
  bounded := by
    intro other conn found
    by_cases same : other = id
    · simp only [Backends.addConn, same, Function.update_self, Option.some.injEq] at found
      simp [← found, freshConn]
    · exact attributed.bounded (by simpa [Backends.addConn, same] using found)
  current := by
    intro other conn cnx generation found isCurrent born
    by_cases same : other = id
    · simp only [Backends.addConn, same, Function.update_self, Option.some.injEq] at found
      simp [← found, freshConn] at isCurrent
    · exact attributed.current (by simpa [Backends.addConn, same] using found) isCurrent born
  queued := by
    intro other conn slot found member
    by_cases same : other = id
    · simp only [Backends.addConn, same, Function.update_self, Option.some.injEq] at found
      simp [← found, freshConn] at member
    · exact attributed.queued (by simpa [Backends.addConn, same] using found) member

theorem keeps (outside : Outside) : Keeps Attributed outside where
  connecting := fun id attributed => attributed.ensureConnecting id outside
  reserved := by
    intro backends id pool allocated attributed
    obtain ⟨rfl, rfl⟩ := BackendPool.allocConnId_eq_some allocated
    exact attributed.congr rfl rfl rfl le_rfl (Nat.le_succ _) fun _ => rfl
  created := fun transport endpoint allocated attributed =>
    attributed.addConn transport endpoint allocated
  waiting := fun id _ attributed => attributed.modify id (.of_rfl fun _ => ⟨rfl, rfl, rfl, rfl⟩)
  wrote := by
    intro backends id connected accepted attributed
    refine attributed.modify id (.of_rfl fun conn => ?_)
    unfold BackendConn.sendOn
    split
    · exact ⟨rfl, rfl, rfl, rfl⟩
    split
    · exact ⟨rfl, rfl, rfl, rfl⟩
    · simp only
      split <;> exact ⟨rfl, rfl, by simp_all, rfl⟩
  failed := fun id error attributed => attributed.failConn id error outside
  advanced := by
    intro backends transport position attributed
    refine attributed.congr rfl rfl rfl le_rfl le_rfl fun other => ?_
    by_cases same : other = transport
    · subst same
      simp [Backends.advance]
    · simp [Backends.advance, same]

end Attributed

theorem handleGeneration_makeHandle {connId generation streamId : Nat}
    (generationBound : generation < 2 ^ 16) (streamBound : streamId < 2 ^ 32) :
    handleGeneration (makeHandle connId generation streamId) = generation := by
  unfold handleGeneration makeHandle
  omega

/-- No stale event acts on the successor of its QUIC connection. -/
def Inoffensive (backends : Backends) (event : Event) : Prop :=
  ∀ conn ∈ (event.cnx.bind backends.pool.index).bind backends.conns,
    conn.cnx = event.cnx ∨ Harmless conn event

instance (backends : Backends) (event : Event) : Decidable (Inoffensive backends event) := by
  unfold Inoffensive
  infer_instance

namespace Attributed

variable {backends : Backends}

theorem hookConnected (attributed : Attributed backends) {id : Nat} {cnx : Cnx}
    {conn : BackendConn} (registered : backends.pool.index cnx = some id)
    (found : backends.conns id = some conn) (isCurrent : conn.cnx = some cnx)
    (issued : cnx < backends.nextCnx) (unborn : backends.born cnx = none) :
    Attributed (backends.hookConnected id cnx) := by
  simp only [Backends.hookConnected, found]
  refine ⟨?_, ?_, ?_, ?_, ?_⟩
  · exact (attributed.toLinked.modify id .markConnected fun _ => ⟨rfl, .inl rfl⟩).congr rfl rfl
      le_rfl le_rfl fun _ => rfl
  · intro other later
    have newer : cnx < other := lt_of_lt_of_le issued later
    simpa [Function.update_of_ne newer.ne'] using attributed.unborn later
  · intro other conn found
    rcases modify_conns_cases found with ⟨old, before, -, rfl⟩ | ⟨-, before⟩
    · simp only [BackendConn.markConnected_generation]
      omega
    · exact attributed.bounded before
  · intro other conn' cnx' generation found' current' born
    rcases modify_conns_cases found' with ⟨old, before, rfl, rfl⟩ | ⟨different, before⟩
    · have same : old = conn := Option.some.inj (before.symm.trans found)
      subst same
      have sameCnx : cnx' = cnx := Option.some.inj (current'.symm.trans isCurrent)
      simpa [sameCnx] using born
    · have apart : cnx' ≠ cnx := by
        rintro rfl
        have := attributed.registered before current'
        exact different (Option.some.inj (this.symm.trans registered))
      simp only [modify_born, Function.update_of_ne apart] at born
      exact attributed.current before current' born
  · intro other conn' slot found' member
    have queued : backends.born slot.origin = some (handleGeneration slot.streamId) := by
      rcases modify_conns_cases found' with ⟨old, before, -, rfl⟩ | ⟨-, before⟩
      · exact attributed.queued before (by simpa using member)
      · exact attributed.queued before member
    have apart : slot.origin ≠ cnx := by
      intro same
      simp [same, unborn] at queued
    simpa [Function.update_of_ne apart] using queued

theorem abortConnection (attributed : Attributed backends) (id : Nat) (error : TransportError)
    (outside : Outside) : Attributed (backends.abortConnection id error outside) := by
  unfold Backends.abortConnection
  split
  · exact attributed
  · exact (attributed.signalFailure _ _).modify id (.dropped _ _)

theorem enqueueOrAbort (attributed : Attributed backends) {id : Nat} {cnx : Cnx}
    {conn : BackendConn} (found : backends.conns id = some conn)
    (isCurrent : conn.cnx = some cnx) (born : backends.born cnx ≠ none) {streamId : Nat}
    (streamBound : streamId < 2 ^ 32) (data : Bytes) (isFin : Bool) (kind : RecvKind)
    (outside : Outside) :
    Attributed (backends.enqueueOrAbort id cnx conn streamId data isFin kind outside) := by
  obtain ⟨generation, born⟩ := Option.ne_none_iff_exists'.mp born
  have sameGeneration := attributed.current found isCurrent born
  have bounded := attributed.bounded found
  unfold Backends.enqueueOrAbort
  simp only
  split
  · exact attributed.abortConnection id _ outside
  · rename_i arena queue enqueued
    refine ⟨?_, attributed.unborn, ?_, ?_, ?_⟩
    · exact (attributed.toLinked.modify id (fun conn => conn.setQueue queue)
        fun _ => ⟨rfl, .inl rfl⟩).congr rfl rfl le_rfl le_rfl fun _ => rfl
    · intro other conn' found'
      rcases modify_conns_cases found' with ⟨old, before, -, rfl⟩ | ⟨-, before⟩
      · have := attributed.bounded before
        exact this
      · exact attributed.bounded before
    · intro other conn' cnx' generation' found' current' born'
      rcases modify_conns_cases found' with ⟨old, before, -, rfl⟩ | ⟨-, before⟩
      · have := attributed.current before current' born'
        exact this
      · exact attributed.current before current' born'
    · intro other conn' slot found' member
      rcases modify_conns_cases found' with ⟨old, before, rfl, rfl⟩ | ⟨-, before⟩
      · rcases SlotArena.mem_queue_of_enqueueEvent enqueued member with kept | ⟨stream, origin⟩
        · exact attributed.queued found kept
        · rw [origin, stream, handleGeneration_makeHandle bounded streamBound, sameGeneration]
          exact born
      · exact attributed.queued before member

theorem closed (attributed : Attributed backends) {id : Nat} {cnx : Cnx}
    (registered : backends.pool.index cnx = some id) (outside : Outside) :
    Attributed { backends.hookClose id outside with
      pool := (backends.hookClose id outside).pool.unregister cnx } := by
  have hooked : Attributed (backends.hookClose id outside) := by
    unfold Backends.hookClose
    split
    · exact attributed
    split
    · exact (attributed.signalFailure _ _).modify id (.dropped _ _)
    · exact attributed.modify id (.dropped _ _)
  exact ⟨attributed.toLinked.closed registered outside, hooked.unborn, hooked.bounded,
    hooked.current, hooked.queued⟩

theorem receive (attributed : Attributed backends) (transport : Nat) :
    Attributed (backends.receive transport).1 := by
  unfold Backends.receive
  simp only
  split
  · split
    · exact attributed
    · exact attributed.modify _ ⟨fun _ => rfl, fun _ => rfl, fun _ => .inl rfl,
        fun _ _ member => List.mem_of_mem_tail member⟩
  · split
    · exact attributed
    · exact attributed.congr rfl rfl rfl le_rfl le_rfl fun other => by
        by_cases same : other = transport
        · subst same
          simp
        · simp [same]

/-- One event of a run keeps the attribution, as long as stale events find nothing to act on. -/
theorem step (attributed : Attributed backends) {event : Event}
    (possible : Possible backends event) (inoffensive : Inoffensive backends event) :
    Attributed (backends.step event) := by
  suffices handled : Attributed (backends.handle event) from
    handled.congr rfl rfl rfl le_rfl le_rfl fun _ => rfl
  cases event with
  | resolve transport callback outside => exact (keeps outside).resolve attributed transport callback
  | send transport handle outside => exact (keeps outside).sendStream attributed transport handle
  | resolved conn result outside => exact attributed.onResolved conn result outside
  | connected cnx =>
      obtain ⟨-, issued, unborn⟩ := possible
      simp only [handle]
      cases registered : backends.pool.index cnx with
      | none => exact attributed
      | some id =>
          cases found : backends.conns id with
          | none => simpa [Backends.hookConnected, found] using attributed
          | some conn =>
              have isCurrent := inoffensive conn (by simp [Event.cnx, registered, found])
              simp only [Harmless, or_false] at isCurrent
              exact attributed.hookConnected registered found isCurrent issued unborn
  | streamData cnx streamId data isFin outside =>
      obtain ⟨-, born, streamBound⟩ := possible
      simp only [handle]
      cases registered : backends.pool.index cnx with
      | none => exact attributed
      | some id =>
          simp only [Backends.hookStreamData]
          cases found : backends.conns id with
          | none => exact attributed
          | some conn =>
              simp only
              split
              · exact attributed
              split
              · exact attributed
              rename_i ready nonempty
              have isCurrent := inoffensive conn (by simp [Event.cnx, registered, found])
              simp only [Harmless, ready, nonempty, or_false] at isCurrent
              exact attributed.enqueueOrAbort found isCurrent born streamBound _ _ _ outside
  | streamControl cnx streamId stopSending outside =>
      obtain ⟨-, born, streamBound⟩ := possible
      simp only [handle]
      cases registered : backends.pool.index cnx with
      | none => exact attributed
      | some id =>
          simp only [Backends.hookStreamControl]
          cases found : backends.conns id with
          | none => exact attributed
          | some conn =>
              simp only
              split
              · exact attributed
              rename_i ready
              have isCurrent := inoffensive conn (by simp [Event.cnx, registered, found])
              simp only [Harmless, ready, or_false] at isCurrent
              exact attributed.enqueueOrAbort found isCurrent born streamBound _ _ _ outside
  | close cnx outside =>
      simp only [handle]
      cases registered : backends.pool.index cnx with
      | none => exact attributed
      | some id => exact attributed.closed registered outside
  | receive transport => exact attributed.receive transport
  | release slot => exact attributed.congr rfl rfl rfl le_rfl le_rfl fun _ => rfl

end Attributed

end Backends

end LyuneGateway.Backend
