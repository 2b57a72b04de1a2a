import LyuneGateway.Backend.Direct
import Mathlib.Data.List.Find
import Mathlib.Data.List.GetD

/-!
# Reconnecting to a backend

A backend connection that is connecting waits for a name lookup or for a QUIC
connection; one in backoff may be tried again after a bounded time. The callback
of a failed lookup leaves the state as it is, so a connection whose only lookup
fails stays connecting with nothing to wait for. In runs without such a lookup
every connection keeps a way out, and `resolve` takes it once the wait is over.
-/

namespace LyuneGateway.Backend

namespace Backends

/-- A connection that is connecting awaits a lookup or has a QUIC connection, and one in backoff
may be tried again within the longest wait from `now`. -/
structure Progressing (now : Nat) (conn : BackendConn) : Prop where
  connecting : conn.state = .connecting → 0 < conn.resolving ∨ conn.cnx ≠ none
  backoff : conn.state = .backoff → conn.retryAt ≤ now + backoffMaxUs

theorem retryDelay_pos (failures : Nat) : 0 < BackendConn.retryDelay failures := by
  have : 0 < backoffBaseUs * 2 ^ min (failures - 1) 8 := by
    simp [backoffBaseUs]
  simp [BackendConn.retryDelay, backoffMaxUs, this]

theorem retryDelay_le (failures : Nat) : BackendConn.retryDelay failures ≤ backoffMaxUs :=
  Nat.min_le_right _ _

namespace Progressing

variable {now : Nat} {conn : BackendConn}

theorem later (progressing : Progressing now conn) {time : Nat} (passed : now ≤ time) :
    Progressing time conn where
  connecting := progressing.connecting
  backoff := fun backoff => le_trans (progressing.backoff backoff) (Nat.add_le_add_right passed _)

theorem failed (conn : BackendConn) (error : TransportError) (now : Nat) :
    Progressing now (conn.markFailed error now) where
  connecting := by simp
  backoff := fun _ => Nat.add_le_add_left (retryDelay_le _) _

/-- Only the state, the lookups, the QUIC connection and the retry time matter. -/
theorem congr (progressing : Progressing now conn) {after : BackendConn}
    (state : after.state = conn.state) (resolving : after.resolving = conn.resolving)
    (cnx : after.cnx = conn.cnx) (retryAt : after.retryAt = conn.retryAt) :
    Progressing now after where
  connecting := by rw [state, resolving, cnx]; exact progressing.connecting
  backoff := by rw [state, retryAt]; exact progressing.backoff

end Progressing

/-- Every backend connection keeps a way out of the state it is in. -/
structure Recovering (now : Nat) (backends : Backends) : Prop extends Linked backends where
  progressing : ∀ {id conn}, backends.conns id = some conn → Progressing now conn

/-- A failed lookup does no harm: no attempt depends on it, or there is something else to wait
for. -/
def Excused (now : Nat) (conn : BackendConn) : Prop :=
  conn.state = .ready ∨ conn.state = .connecting ∨
    conn.state = .backoff ∧ now < conn.retryAt ∨ 0 < conn.resolving ∨ conn.cnx ≠ none

/-- Lookups that are answered with an error while an attempt starts belong to excused
connections. -/
def LookupsExcused (outside : Outside) (backends : Backends) : Prop :=
  outside.acquire = true → ∀ id problem, outside.lookup id = .answered (.err problem) →
    ∃ conn, backends.conns id = some conn ∧ Excused outside.now conn

/-- No connection that is connecting loses its last lookup to an error. -/
def NoLostLookup (backends : Backends) : Event → Prop
  | .resolved id (.err _) _ => ∀ conn, backends.conns id = some conn → conn.state = .connecting →
      1 < conn.resolving ∨ conn.cnx ≠ none
  | .resolve _ _ outside | .send _ _ outside => LookupsExcused outside backends
  | _ => True

namespace Recovering

variable {now : Nat} {backends : Backends}

theorem init (now : Nat) (pool : BackendPool) (transports : Nat → DirectTransport)
    (empty : ∀ cnx, pool.index cnx = none) : Recovering now (Backends.init pool transports) where
  toLinked := Linked.init pool transports empty
  progressing := by simp [Backends.init]

theorem later (recovering : Recovering now backends) {time : Nat} (passed : now ≤ time) :
    Recovering time backends where
  toLinked := recovering.toLinked
  progressing := fun found => (recovering.progressing found).later passed

theorem congr {after : Backends} (recovering : Recovering now backends)
    (conns : after.conns = backends.conns) (index : after.pool.index = backends.pool.index)
    (next : backends.nextCnx ≤ after.nextCnx)
    (ids : backends.pool.nextConnId ≤ after.pool.nextConnId)
    (lists : ∀ transport, (after.transports transport).conns =
      (backends.transports transport).conns) : Recovering now after where
  toLinked := recovering.toLinked.congr conns index next ids lists
  progressing := by rw [conns]; exact recovering.progressing

theorem modify (recovering : Recovering now backends) (id : Nat)
    (change : BackendConn → BackendConn)
    (kept : ∀ conn, (change conn).id = conn.id ∧
      ((change conn).cnx = conn.cnx ∨ (change conn).cnx = none))
    (progress : ∀ conn, backends.conns id = some conn → Progressing now (change conn)) :
    Recovering now (backends.modify id change) where
  toLinked := recovering.toLinked.modify id change kept
  progressing := by
    intro other conn found
    rcases modify_conns_cases found with ⟨old, before, rfl, rfl⟩ | ⟨-, before⟩
    · exact progress old before
    · exact recovering.progressing before

theorem signalFailure (recovering : Recovering now backends) (transport key : Nat) :
    Recovering now (backends.signalFailure transport key) :=
  recovering.congr (by simp) (by simp) (by simp) (by simp) (by simp)

/-- A finished lookup leaves a way out, unless it is an error that a connecting connection was
waiting for. -/
theorem onResolved (recovering : Recovering now backends) {id : Nat} {result : ResolveResult}
    {outside : Outside} (sameTime : outside.now = now)
    (harmless : ∀ problem conn, result = .err problem → backends.conns id = some conn →
      conn.state = .connecting → 1 < conn.resolving ∨ conn.cnx ≠ none) :
    Recovering now (backends.onResolved id result outside) := by
  subst sameTime
  have linked := recovering.toLinked.onResolved id result outside
  refine ⟨linked, ?_⟩
  intro other conn found
  rcases onResolved_cases backends id result outside with
    ⟨problem, isError, same⟩ | ⟨spent, -, same⟩ | ⟨pool, -, -, same⟩ <;> rw [same] at found
  · rcases modify_conns_cases found with ⟨middle, settled, rfl, rfl⟩ | ⟨apart, settled⟩ <;>
      rcases modify_conns_cases settled with ⟨old, before, same, rfl⟩ | ⟨different, before⟩
    · refine ⟨fun connecting => ?_, fun backoff => (recovering.progressing before).backoff backoff⟩
      rcases harmless problem old isError before connecting with more | current
      · exact .inl (Nat.sub_pos_of_lt more)
      · exact .inr current
    · exact absurd rfl different
    · exact absurd same apart
    · exact recovering.progressing before
  · rcases modify_conns_cases found with ⟨middle, -, rfl, rfl⟩ | ⟨apart, settled⟩
    · exact .failed _ _ _
    · rcases modify_conns_cases settled with ⟨old, -, same, -⟩ | ⟨-, before⟩
      · exact absurd same apart
      · exact recovering.progressing before
  · rcases attach_conns_cases found with ⟨middle, settled, rfl, rfl⟩ | ⟨apart, settled⟩ <;>
      rcases modify_conns_cases settled with ⟨old, before, same, rfl⟩ | ⟨different, before⟩
    · exact ⟨fun _ => .inr (by simp), fun backoff => (recovering.progressing before).backoff backoff⟩
    · exact absurd rfl different
    · exact absurd same apart
    · exact recovering.progressing before

/-- An attempt starts only on a connection that is idle or has waited long enough, and either
waits for a lookup or a QUIC connection or fails. -/
theorem ensureConnecting (recovering : Recovering now backends) {outside : Outside}
    (sameTime : outside.now = now) (excused : LookupsExcused outside backends) (id : Nat) :
    Recovering now (backends.ensureConnecting id outside) := by
  unfold Backends.ensureConnecting
  split
  · exact recovering
  rename_i conn found
  split
  · exact recovering
  split
  · exact recovering
  rename_i notUp notEarly
  have retried (error : TransportError) : Recovering now
      ((backends.modify id .attempt).modify id fun conn => conn.markFailed error outside.now) := by
    rw [modify_modify]
    exact recovering.modify id _ (fun _ => ⟨rfl, .inl rfl⟩) fun _ _ => sameTime ▸ .failed _ _ _
  have started : Recovering now ((backends.modify id .attempt).modify id .lookupStarted) := by
    rw [modify_modify]
    refine recovering.modify id _ (fun _ => ⟨rfl, .inl rfl⟩) fun _ _ => ⟨?_, ?_⟩
    · exact fun _ => .inl (Nat.succ_pos _)
    · simp
  unfold Backends.startConnect
  by_cases refused : outside.acquire = false
  · simpa [refused] using retried _
  simp only [refused]
  cases lookup : outside.lookup id with
  | refused problem => exact retried _
  | outstanding => exact started
  | answered result =>
      refine started.onResolved sameTime ?_
      rintro problem own rfl waiting -
      obtain ⟨_, found', excused⟩ := excused (by simpa using refused) id problem lookup
      obtain rfl := Option.some.inj (found.symm.trans found')
      simp only [modify_conns_self, found, Option.map_some, Option.some.injEq] at waiting
      subst waiting
      rcases excused with ready | connecting | early | pending | current
      · exact absurd (.inl ready) notUp
      · exact absurd (.inr connecting) notUp
      · exact absurd early notEarly
      · exact .inl (Nat.succ_lt_succ pending)
      · exact .inr current

end Recovering

namespace LookupsExcused

variable {outside : Outside} {backends : Backends}

theorem congr {after : Backends} (excused : LookupsExcused outside backends)
    (conns : after.conns = backends.conns) : LookupsExcused outside after := by
  unfold LookupsExcused
  rw [conns]
  exact excused

theorem modify (excused : LookupsExcused outside backends) (id : Nat)
    {change : BackendConn → BackendConn}
    (kept : ∀ conn, Excused outside.now conn → Excused outside.now (change conn)) :
    LookupsExcused outside (backends.modify id change) := by
  intro acquired other problem lookup
  obtain ⟨conn, found, own⟩ := excused acquired other problem lookup
  by_cases same : other = id
  · subst same
    exact ⟨change conn, by simp [found], kept conn own⟩
  · exact ⟨conn, by rwa [modify_conns_of_ne _ same], own⟩

theorem ensureConnecting (excused : LookupsExcused outside backends) (id : Nat) :
    LookupsExcused outside (backends.ensureConnecting id outside) := by
  intro acquired other problem lookup
  obtain ⟨conn, found, own⟩ := excused acquired other problem lookup
  by_cases same : other = id
  · subst same
    simp only [Backends.ensureConnecting, found]
    split
    · exact ⟨conn, found, own⟩
    split
    · exact ⟨conn, found, own⟩
    simp [startConnect, acquired, lookup, onResolved, found, Excused]
  · exact ⟨conn, by rwa [ensureConnecting_conns_of_ne _ same], own⟩

theorem addConn (excused : LookupsExcused outside backends) (linked : Linked backends)
    (transport : Nat) (endpoint : Endpoint) {id : Nat} {pool : BackendPool}
    (allocated : backends.pool.allocConnId = some (id, pool)) :
    LookupsExcused outside ({ backends with pool := pool }.addConn transport endpoint id) := by
  obtain ⟨rfl, rfl⟩ := BackendPool.allocConnId_eq_some allocated
  intro acquired other problem lookup
  obtain ⟨conn, found, own⟩ := excused acquired other problem lookup
  have different : other ≠ backends.pool.nextConnId := by
    rintro rfl
    simp [linked.unused le_rfl] at found
  exact ⟨conn, by simpa [Backends.addConn, different] using found, own⟩

theorem failConn (excused : LookupsExcused outside backends) (id : Nat) (error : TransportError) :
    LookupsExcused outside (backends.failConn id error outside) := by
  unfold Backends.failConn
  split
  · exact excused
  · refine (excused.congr (by simp)).modify id fun conn _ => .inr (.inr (.inl ⟨rfl, ?_⟩))
    exact Nat.lt_add_of_pos_right (retryDelay_pos _)

end LookupsExcused

theorem step_clock (backends : Backends) (event : Event) :
    (backends.step event).clock = event.time.getD backends.clock := by
  cases event with
  | connected cnx =>
      simp only [Backends.step, handle, Event.time, Option.getD_none]
      split
      · rfl
      · unfold hookConnected
        split <;> rfl
  | receive transport =>
      simp only [Backends.step, handle, Event.time, Option.getD_none, Backends.receive]
      split <;> split <;> rfl
  | _ => rfl

/-- A write on a new stream changes the next stream id at most. -/
theorem sendOn_new_fst (conn : BackendConn) (connected accepted : Bool) :
    ∃ streamId, (conn.sendOn none connected accepted).1 =
      { conn with nextBidiStreamId := streamId } := by
  unfold BackendConn.sendOn
  split
  · exact ⟨conn.nextBidiStreamId, rfl⟩
  split
  · exact ⟨conn.nextBidiStreamId, rfl⟩
  · simp only
    split <;> exact ⟨conn.nextBidiStreamId + 4, rfl⟩

namespace Recovering

variable {now : Nat} {backends : Backends}

theorem failConn (recovering : Recovering now backends) {outside : Outside}
    (sameTime : outside.now = now) (id : Nat) (error : TransportError) :
    Recovering now (backends.failConn id error outside) := by
  unfold Backends.failConn
  split
  · exact recovering
  · exact (recovering.signalFailure _ _).modify id _ (fun _ => ⟨rfl, .inl rfl⟩)
      fun _ _ => sameTime ▸ .failed _ _ _

theorem addConn (recovering : Recovering now backends) (transport : Nat) (endpoint : Endpoint)
    {id : Nat} {pool : BackendPool} (allocated : backends.pool.allocConnId = some (id, pool)) :
    Recovering now ({ backends with pool := pool }.addConn transport endpoint id) where
  toLinked := recovering.toLinked.addConn transport endpoint allocated
  progressing := by
    intro other conn found
    by_cases same : other = id
    · simp only [Backends.addConn, same, Function.update_self, Option.some.injEq] at found
      subst found
      exact ⟨by simp [freshConn], by simp [freshConn]⟩
    · exact recovering.progressing (by simpa [Backends.addConn, same] using found)

theorem keeps (outside : Outside) : Keeps (fun backends =>
    Recovering outside.now backends ∧ LookupsExcused outside backends) outside where
  connecting := fun id holds =>
    ⟨holds.1.ensureConnecting rfl holds.2 id, holds.2.ensureConnecting id⟩
  reserved := by
    intro backends id pool allocated holds
    obtain ⟨rfl, rfl⟩ := BackendPool.allocConnId_eq_some allocated
    exact ⟨holds.1.congr rfl rfl le_rfl (Nat.le_succ _) fun _ => rfl, holds.2⟩
  created := fun transport endpoint allocated holds =>
    ⟨holds.1.addConn transport endpoint allocated,
      holds.2.addConn holds.1.toLinked transport endpoint allocated⟩
  waiting := fun id _ holds =>
    ⟨holds.1.modify id _ (fun _ => ⟨rfl, .inl rfl⟩) fun _ found =>
      (holds.1.progressing found).congr rfl rfl rfl rfl, holds.2.modify id fun _ own => own⟩
  wrote := by
    intro backends id connected accepted holds
    constructor
    · refine holds.1.modify id _ (fun conn => ?_) fun conn found => ?_ <;>
        obtain ⟨streamId, same⟩ := sendOn_new_fst conn connected accepted <;> rw [same]
      · exact ⟨rfl, .inl rfl⟩
      · exact (holds.1.progressing found).congr rfl rfl rfl rfl
    · refine holds.2.modify id fun conn own => ?_
      obtain ⟨streamId, same⟩ := sendOn_new_fst conn connected accepted
      rw [same]
      exact own
  failed := fun id error holds => ⟨holds.1.failConn rfl id error, holds.2.failConn id error⟩
  advanced := fun transport position holds =>
    ⟨holds.1.congr rfl rfl le_rfl le_rfl fun other => by
      by_cases same : other = transport
      · subst same
        simp [Backends.advance]
      · simp [Backends.advance, same], holds.2⟩

theorem abortConnection (recovering : Recovering now backends) {outside : Outside}
    (sameTime : outside.now = now) (id : Nat) (error : TransportError) :
    Recovering now (backends.abortConnection id error outside) := by
  unfold Backends.abortConnection
  split
  · exact recovering
  · exact (recovering.signalFailure _ _).modify id _ (fun _ => ⟨rfl, .inr rfl⟩)
      fun _ _ => sameTime ▸ .failed _ _ _

theorem setQueue (recovering : Recovering now backends) (id : Nat) (queue : BackendConn → SlotList) :
    Recovering now (backends.modify id fun conn => conn.setQueue (queue conn)) :=
  recovering.modify id _ (fun _ => ⟨rfl, .inl rfl⟩) fun _ found =>
    (recovering.progressing found).congr rfl rfl rfl rfl

theorem enqueueOrAbort (recovering : Recovering now backends) {outside : Outside}
    (sameTime : outside.now = now) (id : Nat) (cnx : Cnx) (conn : BackendConn) (streamId : Nat)
    (data : Bytes) (isFin : Bool) (kind : RecvKind) :
    Recovering now (backends.enqueueOrAbort id cnx conn streamId data isFin kind outside) := by
  unfold Backends.enqueueOrAbort
  simp only
  split
  · exact recovering.abortConnection sameTime id _
  · exact (recovering.setQueue id fun _ => _).congr rfl rfl le_rfl le_rfl fun _ => rfl

theorem hookConnected (recovering : Recovering now backends) (id : Nat) (cnx : Cnx) :
    Recovering now (backends.hookConnected id cnx) := by
  unfold Backends.hookConnected
  split
  · exact recovering
  · exact (recovering.modify id .markConnected (fun _ => ⟨rfl, .inl rfl⟩)
      fun _ _ => ⟨by simp, by simp⟩).congr rfl rfl le_rfl le_rfl fun _ => rfl

theorem closed (recovering : Recovering now backends) {outside : Outside}
    (sameTime : outside.now = now) {id : Nat} {cnx : Cnx}
    (registration : backends.pool.index cnx = some id) :
    Recovering now { backends.hookClose id outside with
      pool := (backends.hookClose id outside).pool.unregister cnx } := by
  have hooked : Recovering now (backends.hookClose id outside) := by
    unfold Backends.hookClose
    split
    · exact recovering
    split
    · exact (recovering.signalFailure _ _).modify id _ (fun _ => ⟨rfl, .inr rfl⟩)
        fun _ _ => sameTime ▸ .failed _ _ _
    · exact recovering.modify id _ (fun _ => ⟨rfl, .inr rfl⟩)
        fun _ _ => sameTime ▸ .failed _ _ _
  exact ⟨recovering.toLinked.closed registration outside, hooked.progressing⟩

theorem receive (recovering : Recovering now backends) (transport : Nat) :
    Recovering now (backends.receive transport).1 := by
  unfold Backends.receive
  simp only
  split
  · split
    · exact recovering
    · exact recovering.setQueue _ _
  · split
    · exact recovering
    · exact recovering.congr rfl rfl le_rfl le_rfl fun other => by
        by_cases same : other = transport
        · subst same
          simp
        · simp [same]

/-- One event of a run leaves every connection a way out, as long as no lookup is lost. -/
theorem step (recovering : Recovering backends.clock backends) {event : Event}
    (possible : Possible backends event) (noLostLookup : NoLostLookup backends event) :
    Recovering (backends.step event).clock (backends.step event) := by
  rw [step_clock]
  suffices handled : Recovering (event.time.getD backends.clock) (backends.handle event) from
    handled.congr rfl rfl le_rfl le_rfl fun _ => rfl
  have recovering := recovering.later possible.1
  cases event with
  | resolve transport callback outside =>
      exact ((keeps outside).resolve ⟨recovering, noLostLookup⟩ transport callback).1
  | send transport handle outside =>
      exact ((keeps outside).sendStream ⟨recovering, noLostLookup⟩ transport handle).1
  | resolved conn result outside =>
      refine recovering.onResolved rfl ?_
      rintro problem own rfl found connecting
      exact noLostLookup own found connecting
  | connected cnx =>
      simp only [handle]
      split
      · exact recovering
      · exact recovering.hookConnected _ cnx
  | streamData cnx streamId data isFin outside =>
      simp only [handle, Backends.hookStreamData]
      split
      · exact recovering
      split
      · exact recovering
      split
      · exact recovering
      split
      · exact recovering
      · exact recovering.enqueueOrAbort rfl _ cnx _ streamId data isFin .data
  | streamControl cnx streamId stopSending outside =>
      simp only [handle, Backends.hookStreamControl]
      split
      · exact recovering
      split
      · exact recovering
      split
      · exact recovering
      · exact recovering.enqueueOrAbort rfl _ cnx _ streamId [] true _
  | close cnx outside =>
      simp only [handle]
      split
      · exact recovering
      · rename_i id registration
        exact recovering.closed rfl registration
  | receive transport => exact recovering.receive transport
  | release slot => exact recovering.congr rfl rfl le_rfl le_rfl fun _ => rfl

end Recovering

/-- The next attempt on the connection may start. -/
def Retryable (now : Nat) (conn : BackendConn) : Prop :=
  conn.state = .idle ∨ conn.state = .backoff ∧ conn.retryAt ≤ now

/-- More than `count` attempts have been made on the connection. -/
def Attempted (count id : Nat) (backends : Backends) : Prop :=
  ∃ conn, backends.conns id = some conn ∧ count < conn.attempts

/-- The attempt after the first `count` ones has been made, or may start. -/
def Due (count now id : Nat) (backends : Backends) : Prop :=
  ∃ conn, backends.conns id = some conn ∧
    (count < conn.attempts ∨ count = conn.attempts ∧ Retryable now conn)

namespace Attempted

variable {count id : Nat} {backends : Backends}

theorem due (attempted : Attempted count id backends) (now : Nat) :
    Due count now id backends := by
  obtain ⟨conn, found, more⟩ := attempted
  exact ⟨conn, found, .inl more⟩

theorem modify (attempted : Attempted count id backends) (other : Nat)
    {change : BackendConn → BackendConn} (kept : ∀ conn, (change conn).attempts = conn.attempts) :
    Attempted count id (backends.modify other change) := by
  obtain ⟨conn, found, more⟩ := attempted
  by_cases same : id = other
  · subst same
    exact ⟨change conn, by simp [found], by rwa [kept]⟩
  · exact ⟨conn, by rwa [modify_conns_of_ne _ same], more⟩

theorem signalFailure (attempted : Attempted count id backends) (transport key : Nat) :
    Attempted count id (backends.signalFailure transport key) := by
  unfold Attempted
  rw [signalFailure_conns]
  exact attempted

theorem onResolved (attempted : Attempted count id backends) (other : Nat) (result : ResolveResult)
    (outside : Outside) : Attempted count id (backends.onResolved other result outside) := by
  have settled : Attempted count id (backends.modify other .lookupDone) :=
    attempted.modify other fun _ => rfl
  rcases onResolved_cases backends other result outside with
    ⟨problem, -, same⟩ | ⟨spent, -, same⟩ | ⟨pool, -, -, same⟩ <;> rw [same]
  · exact settled.modify other fun _ => rfl
  · exact settled.modify other fun _ => rfl
  · exact settled.modify other fun _ => rfl

/-- Starting an attempt counts it, however it turns out. -/
theorem started {backends : Backends} (due : Attempted count id (backends.modify id .attempt))
    (outside : Outside) :
    Attempted count id (match (backends.modify id .attempt).startConnect id outside with
      | (backends, none) => backends
      | (backends, some error) =>
          backends.modify id fun conn => conn.markFailed error outside.now) := by
  have counted : Attempted count id ((backends.modify id .attempt).modify id .lookupStarted) :=
    due.modify id fun _ => rfl
  unfold startConnect
  split <;> rename_i outcome
  · split at outcome
    · simp at outcome
    split at outcome
    · simp at outcome
    · cases outcome
      exact counted.onResolved id _ outside
    · cases outcome
      exact counted
  · split at outcome
    · cases outcome
      exact due.modify id fun _ => rfl
    split at outcome
    · cases outcome
      exact due.modify id fun _ => rfl
    · simp at outcome
    · simp at outcome

end Attempted

/-- `ensureConnecting` makes the attempt that is due. -/
theorem Due.ensureConnecting {count id : Nat} {backends : Backends} {outside : Outside}
    (due : Due count outside.now id backends) :
    Attempted count id (backends.ensureConnecting id outside) := by
  obtain ⟨conn, found, due⟩ := due
  have counted : Attempted count id (backends.modify id .attempt) := by
    refine ⟨conn.attempt, by simp [found], ?_⟩
    rw [BackendConn.attempt_attempts]
    omega
  simp only [Backends.ensureConnecting, found]
  split
  · rename_i up
    rcases due with more | ⟨-, idle | ⟨backoff, -⟩⟩
    · exact ⟨conn, found, more⟩
    · simp [idle] at up
    · simp [backoff] at up
  split
  · rename_i early
    rcases due with more | ⟨-, idle | ⟨-, elapsed⟩⟩
    · exact ⟨conn, found, more⟩
    · simp [idle] at early
    · omega
  · exact counted.started outside

theorem Due.ensureConnecting_any {count id : Nat} {backends : Backends} {outside : Outside}
    (due : Due count outside.now id backends) (other : Nat) :
    Due count outside.now id (backends.ensureConnecting other outside) := by
  by_cases same : id = other
  · subst same
    exact due.ensureConnecting.due _
  · obtain ⟨conn, found, due⟩ := due
    exact ⟨conn, by rwa [ensureConnecting_conns_of_ne _ same], due⟩

theorem Attempted.ensureConnecting {count id : Nat} {backends : Backends}
    (attempted : Attempted count id backends) (other : Nat) (outside : Outside) :
    Attempted count id (backends.ensureConnecting other outside) := by
  by_cases same : id = other
  · subst same
    exact (attempted.due _).ensureConnecting
  · obtain ⟨conn, found, more⟩ := attempted
    exact ⟨conn, by rwa [ensureConnecting_conns_of_ne _ same], more⟩

/-- What is known while the endpoints before that of a connection are being connected. -/
structure Upcoming (count now id transport : Nat) (endpoint : Endpoint) (backends : Backends) :
    Prop where
  linked : Linked backends
  own : backends.existingConn transport endpoint = some id
  due : Due count now id backends

theorem existingConn_modify {backends : Backends} {transport : Nat} {endpoint : Endpoint}
    {owner : Option Nat} (own : backends.existingConn transport endpoint = owner) (id : Nat)
    {change : BackendConn → BackendConn} (kept : ∀ conn, (change conn).endpoint = conn.endpoint) :
    (backends.modify id change).existingConn transport endpoint = owner := by
  have same (other : Nat) :
      ((backends.modify id change).conns other).any (fun conn => conn.endpoint = endpoint) =
        (backends.conns other).any fun conn => conn.endpoint = endpoint := by
    by_cases changed : other = id
    · subst changed
      cases found : backends.conns other <;> simp [found, kept]
    · rw [modify_conns_of_ne _ changed]
  rw [← own]
  simp only [existingConn, modify_transports, same]

theorem existingConn_onResolved (backends : Backends) (transport : Nat) (endpoint : Endpoint)
    (id : Nat) (result : ResolveResult) (outside : Outside) :
    (backends.onResolved id result outside).existingConn transport endpoint =
      backends.existingConn transport endpoint := by
  have settled : (backends.modify id .lookupDone).existingConn transport endpoint =
      backends.existingConn transport endpoint :=
    existingConn_modify rfl id fun _ => rfl
  rcases onResolved_cases backends id result outside with
    ⟨problem, -, same⟩ | ⟨spent, -, same⟩ | ⟨pool, -, -, same⟩ <;> rw [same]
  · exact existingConn_modify settled id fun _ => rfl
  · exact existingConn_modify settled id fun _ => rfl
  · exact existingConn_modify settled id fun _ => rfl

theorem existingConn_ensureConnecting (backends : Backends) (transport : Nat) (endpoint : Endpoint)
    (id : Nat) (outside : Outside) :
    (backends.ensureConnecting id outside).existingConn transport endpoint =
      backends.existingConn transport endpoint := by
  have begun : (backends.modify id .attempt).existingConn transport endpoint =
      backends.existingConn transport endpoint :=
    existingConn_modify rfl id fun _ => rfl
  have started : ((backends.modify id .attempt).startConnect id outside).1.existingConn transport
      endpoint = backends.existingConn transport endpoint := by
    unfold startConnect
    split
    · exact begun
    split
    · exact begun
    · rw [existingConn_onResolved]
      exact existingConn_modify begun id fun _ => rfl
    · exact existingConn_modify begun id fun _ => rfl
  unfold ensureConnecting
  split
  · rfl
  split
  · rfl
  split
  · rfl
  split <;> rename_i outcome <;> rw [outcome] at started
  · exact started
  · exact existingConn_modify started id fun _ => rfl

/-- A connection created for one endpoint does not hide that of another. -/
theorem existingConn_addConn {backends : Backends} (linked : Linked backends) {transport : Nat}
    {endpoint : Endpoint} {id : Nat} (own : backends.existingConn transport endpoint = some id)
    (otherTransport : Nat) (otherEndpoint : Endpoint) :
    ({ backends with
      pool := { backends.pool with
        nextConnId := backends.pool.nextConnId + 1 } }.addConn otherTransport otherEndpoint
        backends.pool.nextConnId).existingConn transport endpoint = some id := by
  have kept : (backends.transports transport).conns.find? (fun other =>
      (Function.update backends.conns backends.pool.nextConnId (some (freshConn
        backends.pool.nextConnId otherTransport otherEndpoint
        (backends.transports otherTransport).realm)) other).any
          fun conn => conn.endpoint = endpoint) = some id := by
    rw [← own, existingConn]
    refine List.find?_congr fun other member => ?_
    rw [Function.update_of_ne (linked.listed member).ne]
  by_cases same : transport = otherTransport
  · subst same
    simp only [existingConn, addConn, Function.update_self, List.find?_append, kept,
      Option.some_or]
  · simpa only [existingConn, addConn, Function.update_of_ne same] using kept

namespace Upcoming

variable {count id transport : Nat} {endpoint : Endpoint} {backends : Backends} {outside : Outside}

theorem ensureConnecting (upcoming : Upcoming count outside.now id transport endpoint backends)
    (other : Nat) :
    Upcoming count outside.now id transport endpoint (backends.ensureConnecting other outside) where
  linked := upcoming.linked.ensureConnecting other outside
  own := by rw [existingConn_ensureConnecting, upcoming.own]
  due := upcoming.due.ensureConnecting_any other

theorem getOrCreateConn (upcoming : Upcoming count outside.now id transport endpoint backends)
    (other : Endpoint) : Upcoming count outside.now id transport endpoint
      (backends.getOrCreateConn transport other outside).1 := by
  unfold Backends.getOrCreateConn
  split
  · exact upcoming
  split
  · exact upcoming
  split
  · exact upcoming
  rename_i allocated
  obtain ⟨rfl, rfl⟩ := BackendPool.allocConnId_eq_some allocated
  split
  · exact ⟨upcoming.linked.congr rfl rfl le_rfl (Nat.le_succ _) fun _ => rfl, upcoming.own,
      upcoming.due⟩
  · refine ⟨upcoming.linked.addConn transport other allocated,
      existingConn_addConn upcoming.linked upcoming.own transport other, ?_⟩
    obtain ⟨conn, found, due⟩ := upcoming.due
    have different : id ≠ backends.pool.nextConnId := by
      rintro rfl
      simp [upcoming.linked.unused le_rfl] at found
    exact ⟨conn, by simpa [Backends.addConn, different] using found, due⟩

end Upcoming

/-- What holds of a connection's attempts survives the steps of `resolve` and `sendStream`. -/
theorem Attempted.keeps (count id : Nat) (outside : Outside) :
    Keeps (fun backends => Linked backends ∧ Attempted count id backends) outside where
  connecting := fun other holds =>
    ⟨holds.1.ensureConnecting other outside, holds.2.ensureConnecting other outside⟩
  reserved := by
    intro backends other pool allocated holds
    obtain ⟨rfl, rfl⟩ := BackendPool.allocConnId_eq_some allocated
    exact ⟨holds.1.congr rfl rfl le_rfl (Nat.le_succ _) fun _ => rfl, holds.2⟩
  created := by
    intro backends other pool transport endpoint allocated holds
    refine ⟨holds.1.addConn transport endpoint allocated, ?_⟩
    obtain ⟨rfl, rfl⟩ := BackendPool.allocConnId_eq_some allocated
    obtain ⟨conn, found, more⟩ := holds.2
    have different : id ≠ backends.pool.nextConnId := by
      rintro rfl
      simp [holds.1.unused le_rfl] at found
    exact ⟨conn, by simpa [Backends.addConn, different] using found, more⟩
  waiting := fun other _ holds =>
    ⟨holds.1.modify other _ fun _ => ⟨rfl, .inl rfl⟩, holds.2.modify other fun _ => rfl⟩
  wrote := by
    intro backends other connected accepted holds
    constructor
    · refine holds.1.modify other _ fun conn => ?_
      obtain ⟨streamId, same⟩ := sendOn_new_fst conn connected accepted
      rw [same]
      exact ⟨rfl, .inl rfl⟩
    · refine holds.2.modify other fun conn => ?_
      obtain ⟨streamId, same⟩ := sendOn_new_fst conn connected accepted
      rw [same]
  failed := by
    intro backends other error holds
    refine ⟨holds.1.failConn other error outside, ?_⟩
    unfold Backends.failConn
    split
    · exact holds.2
    · exact (holds.2.signalFailure _ _).modify other fun _ => rfl
  advanced := by
    intro backends transport position holds
    refine ⟨holds.1.congr rfl rfl le_rfl le_rfl fun other => ?_, holds.2⟩
    by_cases same : other = transport
    · subst same
      simp [Backends.advance]
    · simp [Backends.advance, same]

namespace Upcoming

variable {count id transport : Nat} {endpoint : Endpoint} {backends : Backends} {outside : Outside}

theorem resolveEndpoints (upcoming : Upcoming count outside.now id transport endpoint backends)
    {endpoints : List Endpoint} (configured : endpoint ∈ endpoints) (progress : Resolving) :
    Linked (backends.resolveEndpoints transport outside endpoints progress).1 ∧
      Attempted count id (backends.resolveEndpoints transport outside endpoints progress).1 := by
  induction endpoints generalizing backends progress with
  | nil => simp at configured
  | cons head endpoints ih =>
      have created := upcoming.getOrCreateConn head
      by_cases same : head = endpoint
      · subst same
        have rest {after : Backends} (linked : Linked after) (attempted : Attempted count id after)
            (progress : Resolving) :=
          (Attempted.keeps count id outside).resolveEndpoints transport endpoints
            ⟨linked, attempted⟩ progress
        unfold Backends.resolveEndpoints
        simp only [Backends.getOrCreateConn, upcoming.own]
        split
        · rename_i up
          refine rest upcoming.linked ?_ _
          obtain ⟨conn, found, more | ⟨-, retryable⟩⟩ := upcoming.due
          · exact ⟨conn, found, more⟩
          · rcases retryable with idle | ⟨backoff, -⟩ <;>
              simp_all [Backends.ready, BackendConn.isReady]
        · exact rest (upcoming.linked.ensureConnecting id outside) upcoming.due.ensureConnecting _
      · have later : endpoint ∈ endpoints := by
          rcases List.mem_cons.mp configured with rfl | later
          · exact absurd rfl same
          · exact later
        unfold Backends.resolveEndpoints
        split <;> rename_i outcome <;> rw [outcome] at created
        · exact ih created later _
        · simp only
          split
          · exact ih created later _
          · exact ih (created.ensureConnecting _) later _

/-- `resolve` makes the attempt that is due on the connection of each configured endpoint. -/
theorem resolve (upcoming : Upcoming count outside.now id transport endpoint backends)
    (configured : endpoint ∈ (backends.transports transport).endpoints) (callback : Option Nat) :
    Attempted count id (backends.resolve transport callback outside).1 := by
  have resolved := upcoming.resolveEndpoints configured {}
  unfold Backends.resolve
  simp only
  split
  · exact resolved.2
  split
  · exact resolved.2
  · exact resolved.2.modify _ fun _ => rfl

end Upcoming

theorem sendNew_of_none_ready {backends : Backends} {transport : Nat} {positions : List Nat}
    {outside : Outside}
    (noneReady : ∀ position ∈ positions,
      backends.ready ((backends.transports transport).conns.getD position 0) = false)
    (error : TransportError) :
    backends.sendNew transport outside positions error = (backends, .error error) := by
  induction positions with
  | nil => rfl
  | cons position positions ih =>
      have rest := ih fun other member => noneReady other (List.mem_cons_of_mem _ member)
      have own := noneReady position (by simp)
      unfold sendNew
      simp only
      split
      · exact rest
      · rename_i conn found
        have notReady : conn.isReady = false := by
          simpa only [ready, found, Option.any_some] using own
        rw [if_pos notReady]
        exact rest

/-- With no connection ready, a send makes the attempts that are due on the connections of its
transport. -/
theorem Due.send {count id transport : Nat} {backends : Backends} {outside : Outside}
    (due : Due count outside.now id backends)
    (member : id ∈ (backends.transports transport).conns)
    (noneReady : ∀ other ∈ (backends.transports transport).conns, backends.ready other = false) :
    Attempted count id (backends.sendStream transport none outside).1 := by
  have positive := List.length_pos_of_mem member
  have nonempty : (backends.transports transport).conns ≠ [] := List.ne_nil_of_mem member
  have swept (ids : List Nat) {backends : Backends} (due : Due count outside.now id backends)
      (member : id ∈ ids) : Attempted count id
        (ids.foldl (fun backends id => backends.ensureConnecting id outside) backends) := by
    induction ids generalizing backends with
    | nil => simp at member
    | cons head ids ih =>
        have kept (ids : List Nat) {backends : Backends}
            (attempted : Attempted count id backends) : Attempted count id
              (ids.foldl (fun backends id => backends.ensureConnecting id outside) backends) := by
          induction ids generalizing backends with
          | nil => exact attempted
          | cons head ids ih => exact ih (attempted.ensureConnecting head outside)
        rcases List.mem_cons.mp member with rfl | later
        · exact kept ids due.ensureConnecting
        · exact ih (due.ensureConnecting_any head) later
  unfold sendStream
  simp only [nonempty, if_false]
  rw [sendNew_of_none_ready]
  · exact swept _ due member
  · intro position inRange
    obtain ⟨offset, -, rfl⟩ := List.mem_map.mp inRange
    refine noneReady _ ?_
    rw [List.getD_eq_getElem _ _ (Nat.mod_lt _ positive)]
    exact List.getElem_mem _

/-- In every run that loses no lookup, a connection that is connecting awaits a lookup or has a
registered QUIC connection, one in backoff may be tried again after a bounded wait, and then
`resolve`, or a send that finds no connection ready, starts the next attempt. -/
theorem every_connection_keeps_a_way_out (maxConns recvSlots maxSlotsPerConn : Nat)
    (transports : Nat → DirectTransport) (events : List Event)
    (meets : Run.Meets step (fun backends event =>
        Possible backends event ∧ NoLostLookup backends event)
      (init (.init maxConns recvSlots maxSlotsPerConn) transports) events) :
    let backends := Run.final step (init (.init maxConns recvSlots maxSlotsPerConn) transports)
      events
    ∀ id conn, backends.conns id = some conn →
      (conn.state = .connecting → 0 < conn.resolving ∨
        ∃ cnx, conn.cnx = some cnx ∧ backends.pool.index cnx = some id) ∧
      (conn.state = .backoff → conn.retryAt ≤ backends.clock + backoffMaxUs) ∧
      ∀ transport outside, Retryable outside.now conn →
        (∀ endpoint ∈ (backends.transports transport).endpoints,
          backends.existingConn transport endpoint = some id → ∀ callback,
            Attempted conn.attempts id (backends.resolve transport callback outside).1) ∧
        (id ∈ (backends.transports transport).conns →
          (∀ other ∈ (backends.transports transport).conns, backends.ready other = false) →
            Attempted conn.attempts id (backends.sendStream transport none outside).1) := by
  intro backends id conn found
  have recovering : Recovering backends.clock backends :=
    Run.invariant (fun (backends : Backends) _ (recovering : Recovering backends.clock backends)
      allowed => recovering.step allowed.1 allowed.2) (Recovering.init _ _ _ fun _ => rfl) meets
  refine ⟨fun connecting => ?_, (recovering.progressing found).backoff, ?_⟩
  · rcases (recovering.progressing found).connecting connecting with lookup | current
    · exact .inl lookup
    · obtain ⟨cnx, current⟩ := Option.ne_none_iff_exists'.mp current
      exact .inr ⟨cnx, current, recovering.registered found current⟩
  · intro transport outside retryable
    have due : Due conn.attempts outside.now id backends := ⟨conn, found, .inr ⟨rfl, retryable⟩⟩
    refine ⟨fun endpoint configured own callback => ?_, fun member noneReady => ?_⟩
    · exact Upcoming.resolve ⟨recovering.toLinked, own, due⟩ configured callback
    · exact due.send member noneReady

/-- The only lookup of an attempt times out. -/
def lostLookup : List Event :=
  [.resolve 0 none { now := 0 }, .resolved 0 (.err .timeout) { now := 1 }]

/-- The connection is connecting with no lookup due and no QUIC connection, and no later `resolve`
starts another attempt. -/
theorem lost_lookup_is_stuck :
    Run.Meets step Possible oneBackend lostLookup ∧
    (((Run.final step oneBackend lostLookup).conns 0).map fun conn =>
      (conn.state, conn.resolving, conn.cnx, conn.attempts)) = some (.connecting, 0, none, 1) ∧
    ∀ callback outside,
      ((((Run.final step oneBackend lostLookup).resolve 0 callback outside).1.conns 0).map
        fun conn => (conn.state, conn.attempts)) = some (.connecting, 1) := by
  refine ⟨by decide +kernel, by decide +kernel, fun callback outside => ?_⟩
  rfl

/-- A QUIC connection closes before it is up. -/
def closedEarly : List Event :=
  [.resolve 0 none { now := 0 }, .resolved 0 .address { now := 1 }, .close 0 { now := 2 }]

/-- A second after the close the connection is tried again. -/
theorem every_connection_keeps_a_way_out_closed :
    Attempted 1 0 ((Run.final step oneBackend closedEarly).resolve 0 none
      { now := 1000000 }).1 := by
  have meets : Run.Meets step (fun backends event =>
      Possible backends event ∧ NoLostLookup backends event) oneBackend closedEarly := by
    refine ⟨⟨by decide +kernel, ?_⟩, ⟨by decide +kernel, trivial⟩, ⟨by decide +kernel, trivial⟩,
      trivial⟩
    intro _ id problem lookup
    simp at lookup
  have found : (Run.final step oneBackend closedEarly).conns 0 =
      some (((Run.final step oneBackend closedEarly).conns 0).getD
        (freshConn 0 0 { host := "backend", port := 4433 } 0)) := rfl
  refine ((every_connection_keeps_a_way_out 512 8 256 _ closedEarly meets 0 _ found).2.2 0
    { now := 1000000 } (.inr ⟨?_, ?_⟩)).1 { host := "backend", port := 4433 } ?_ ?_ none <;>
      decide +kernel

end Backends

end LyuneGateway.Backend
