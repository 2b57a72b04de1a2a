import LyuneGateway.Backend.Handles
import LyuneGateway.Backend.Reconnect

/-!
# Room for failure notices

A failed connection puts its key on the list of its transport, where it stays
until the worker takes it. The list does not grow at that time: room for one more
key is reserved whenever a connection is created. What is reserved while the list
is empty does not add up, and a connection that comes up again and fails again has
two keys; so the list has room as long as no more keys are on it at a time than
were reserved for.
-/

namespace LyuneGateway.Backend

namespace Backends

variable {backends : Backends} {transport : Nat}

/-- Put a key on a list, unless it is there. -/
def note (pending : List Nat) (key : Nat) : List Nat :=
  if key ∈ pending then pending else pending ++ [key]

/-- Put the keys of the connections of a transport on its list. -/
def noted (transport : Nat) (conns : List BackendConn) (pending : List Nat) : List Nat :=
  (conns.filter fun conn => conn.transport = transport).foldl
    (fun pending conn => note pending conn.connectionKey) pending

/-- The connections at these positions that are tried for a new stream, and do not take it. -/
def tried (backends : Backends) (transport : Nat) (outside : Outside) : List Nat → List BackendConn
  | [] => []
  | position :: positions =>
      let id := (backends.transports transport).conns.getD position 0
      match backends.conns id with
      | none => backends.tried transport outside positions
      | some conn =>
          if conn.isReady = false then backends.tried transport outside positions
          else if takes outside id conn then []
          else conn :: backends.tried transport outside positions

/-- The bytes of an event do not fit into the queue of the connection. -/
def overflows (backends : Backends) (cnx : Cnx) (streamId : Nat) (data : Bytes) (isFin : Bool)
    (kind : RecvKind) (conn : BackendConn) : Bool :=
  (backends.pool.arena.enqueueEvent conn.queue (makeHandle conn.id conn.generation streamId) data
    isFin kind cnx).isNone

/-- The connections that fail by an event, although they were ready. -/
def failing (backends : Backends) : Event → List BackendConn
  | .send transport none outside =>
      backends.tried transport outside (backends.rotation transport)
  | .send transport (some value) outside =>
      ((((backends.transports transport).conns.find? fun id => id = handleConnId value).bind
        backends.conns).filter fun conn => conn.isReady &&
          (conn.cnx.isNone || !outside.connected (handleConnId value))).toList
  | .streamData cnx streamId data isFin _ =>
      if data = [] ∧ isFin = false then []
      else ((backends.listener cnx).filter (backends.overflows cnx streamId data isFin .data)).toList
  | .streamControl cnx streamId stopSending _ =>
      ((backends.listener cnx).filter (backends.overflows cnx streamId [] true
        (if stopSending then .stopSending else .streamReset))).toList
  | .close cnx _ => (backends.listener cnx).toList
  | _ => []

/-- The keys on the list of a transport. -/
def pending (backends : Backends) (transport : Nat) : List Nat :=
  (backends.transports transport).pendingFailures

section Lists

variable {pending : List Nat} {key other : Nat} {conns : List BackendConn} {conn : BackendConn}

theorem mem_note : other ∈ note pending key ↔ other = key ∨ other ∈ pending := by
  rw [note]
  split
  · exact ⟨.inr, fun listed => listed.elim (· ▸ ‹_›) id⟩
  · simp [or_comm]

theorem nodup_note (once : pending.Nodup) : (note pending key).Nodup := by
  rw [note]
  split
  · exact once
  · rename_i new
    exact List.nodup_append.mpr ⟨once, List.nodup_singleton key, by
      rintro other listed _ last rfl
      exact new (List.mem_singleton.mp last ▸ listed)⟩

theorem noted_cons (conn : BackendConn) (conns : List BackendConn) (pending : List Nat) :
    noted transport (conn :: conns) pending = noted transport conns
      (if conn.transport = transport then note pending conn.connectionKey else pending) := by
  rw [noted, List.filter_cons]
  split <;> rename_i own
  · rw [if_pos (by simpa using own)]
    rfl
  · rw [if_neg (by simpa using own)]
    rfl

theorem mem_noted : key ∈ noted transport conns pending ↔ key ∈ pending ∨
    ∃ conn ∈ conns, conn.transport = transport ∧ conn.connectionKey = key := by
  induction conns generalizing pending with
  | nil => simp [noted]
  | cons conn conns ih =>
      rw [noted_cons, ih]
      split <;> rename_i own
      · rw [mem_note]
        simp only [List.exists_mem_cons_iff, own, true_and]
        constructor
        · rintro ((rfl | listed) | later)
          · exact .inr (.inl rfl)
          · exact .inl listed
          · exact .inr (.inr later)
        · rintro (listed | rfl | later)
          · exact .inl (.inr listed)
          · exact .inl (.inl rfl)
          · exact .inr later
      · simp [own]

theorem nodup_noted (once : pending.Nodup) : (noted transport conns pending).Nodup := by
  induction conns generalizing pending with
  | nil => exact once
  | cons conn conns ih =>
      rw [noted_cons]
      split
      · exact ih (nodup_note once)
      · exact ih once

theorem noted_nil (pending : List Nat) : noted transport [] pending = pending := rfl

/-- Who has a key on the list already changes nothing. -/
theorem noted_cons_of_mem (listed : conn.transport = transport → conn.connectionKey ∈ pending) :
    noted transport (conn :: conns) pending = noted transport conns pending := by
  rw [noted_cons]
  split
  · rw [note, if_pos (listed ‹_›)]
  · rfl

end Lists

/-! ## What an event puts on the lists -/

theorem pending_signalFailure (own key : Nat) : (backends.signalFailure own key).pending transport =
    if own = transport then note (backends.pending transport) key
    else backends.pending transport := by
  unfold signalFailure pending note
  by_cases same : own = transport
  · subst same
    rw [if_pos rfl]
    split <;> simp
  · rw [if_neg same]
    split
    · rfl
    · simp [Ne.symm same]

theorem pending_signals {conn : BackendConn} :
    (backends.signalFailure conn.transport conn.connectionKey).pending transport =
      noted transport [conn] (backends.pending transport) := by
  rw [pending_signalFailure, noted_cons, noted_nil]

theorem pending_failConn {id : Nat} {conn : BackendConn} {error : TransportError}
    {outside : Outside} (found : backends.conns id = some conn) :
    (backends.failConn id error outside).pending transport =
      noted transport [conn] (backends.pending transport) := by
  rw [failConn, found, ← pending_signals]
  rfl

/-- A connection that has failed is not tried again, and has its key on the list. -/
theorem noted_tried_failed {id own : Nat} {conn : BackendConn} {error : TransportError}
    {outside : Outside} {pending : List Nat} (found : backends.conns id = some conn)
    (ready : conn.isReady = true) (refused : takes outside id conn = false)
    (listed : conn.transport = transport → conn.connectionKey ∈ pending) (positions : List Nat) :
    noted transport (((backends.modify id fun conn =>
        (conn.sendOn none (outside.connected id) (outside.write id)).1).failConn id error
        outside).tried own outside positions) pending =
      noted transport (backends.tried own outside positions) pending := by
  obtain ⟨lists, ⟨down, held, idle⟩, others⟩ := failConn_sendOn error outside found
  generalize (backends.modify id fun conn =>
    (conn.sendOn none (outside.connected id) (outside.write id)).1).failConn id error outside = after
    at lists held others
  induction positions generalizing pending with
  | nil => rfl
  | cons position positions ih =>
      rw [tried, tried, lists]
      by_cases same : (backends.transports own).conns.getD position 0 = id
      · rw [same, held, found]
        dsimp only
        rw [if_pos idle, if_neg (by simp [ready]), refused, if_neg Bool.false_ne_true,
          noted_cons_of_mem listed]
        exact ih listed
      · rw [others _ same]
        split
        · exact ih listed
        split
        · exact ih listed
        split
        · rfl
        · rw [noted_cons, noted_cons]
          split
          · exact ih fun own => mem_note.mpr (.inr (listed own))
          · exact ih listed

theorem pending_sendNew (own : Nat) (outside : Outside) (positions : List Nat)
    (backends : Backends) (lastError : TransportError) :
    (backends.sendNew own outside positions lastError).1.pending transport =
      noted transport (backends.tried own outside positions) (backends.pending transport) := by
  induction positions generalizing backends lastError with
  | nil => rfl
  | cons position positions ih =>
      rw [sendNew, tried]
      dsimp only
      generalize (backends.transports own).conns.getD position 0 = id
      cases found : backends.conns id with
      | none => exact ih backends lastError
      | some conn =>
          dsimp only
          split
          · exact ih backends lastError
          · rename_i ready
            have ready : conn.isReady = true := by simpa using ready
            have answer := @sendOn_new conn outside id ready
            split
            · rename_i error sent
              rw [sent] at answer
              have refused : takes outside id conn = false := by
                by_contra taken
                rw [if_pos (by simpa using taken)] at answer
                cases answer
              obtain ⟨streamId, same⟩ := sendOn_new_fst conn (outside.connected id) (outside.write id)
              have written : (backends.modify id fun conn =>
                  (conn.sendOn none (outside.connected id) (outside.write id)).1).conns id =
                  some { conn with nextBidiStreamId := streamId } := by
                rw [modify_conns_self, found, Option.map_some, same]
              rw [if_neg (by simp [refused]), noted_cons, ih, pending_failConn written, noted_cons,
                noted_nil]
              change noted transport _ (if conn.transport = transport then
                note (backends.pending transport) conn.connectionKey else backends.pending transport) = _
              apply noted_tried_failed found ready refused
              intro own
              rw [if_pos own]
              exact mem_note.mpr (.inl rfl)
            · rename_i handle sent
              rw [sent] at answer
              have taken : takes outside id conn = true := by
                by_contra refused
                rw [if_neg refused] at answer
                cases answer
              rw [if_pos taken]
              rfl

theorem pending_onResolved (id : Nat) (result : ResolveResult) (outside : Outside) :
    (backends.onResolved id result outside).pending transport = backends.pending transport := by
  rcases onResolved_cases backends id result outside with
    ⟨problem, -, same⟩ | ⟨spent, -, same⟩ | ⟨pool, -, -, same⟩ <;> rw [same] <;> rfl

theorem pending_ensureConnecting (id : Nat) (outside : Outside) :
    (backends.ensureConnecting id outside).pending transport = backends.pending transport := by
  have started : ((backends.modify id .attempt).startConnect id outside).1.pending transport =
      backends.pending transport := by
    unfold startConnect
    split
    · rfl
    split
    · rfl
    · exact pending_onResolved _ _ _
    · rfl
  unfold ensureConnecting
  split
  · rfl
  split
  · rfl
  split
  · rfl
  split <;> rename_i outcome <;> rw [outcome] at started
  · exact started
  · exact started

theorem pending_getOrCreateConn (own : Nat) (endpoint : Endpoint) (outside : Outside) :
    (backends.getOrCreateConn own endpoint outside).1.pending transport =
      backends.pending transport := by
  unfold getOrCreateConn
  split
  · rfl
  split
  · rfl
  split
  · rfl
  split
  · rfl
  · by_cases same : transport = own
    · subst same
      simp [pending, addConn]
    · simp [pending, addConn, same]

theorem pending_resolveEndpoints (own : Nat) (outside : Outside) (endpoints : List Endpoint)
    (backends : Backends) (progress : Resolving) :
    (backends.resolveEndpoints own outside endpoints progress).1.pending transport =
      backends.pending transport := by
  induction endpoints generalizing backends progress with
  | nil => rfl
  | cons endpoint endpoints ih =>
      have created := @pending_getOrCreateConn backends transport own endpoint outside
      unfold resolveEndpoints
      split <;> rename_i outcome <;> rw [outcome] at created
      · exact (ih _ _).trans created
      · dsimp only
        split
        · exact (ih _ _).trans created
        · exact (ih _ _).trans ((pending_ensureConnecting _ _).trans created)

theorem pending_resolve (own : Nat) (callback : Option Nat) (outside : Outside) :
    (backends.resolve own callback outside).1.pending transport = backends.pending transport := by
  have resolved := @pending_resolveEndpoints transport own outside
    (backends.transports own).endpoints backends {}
  unfold resolve
  dsimp only
  split
  · exact resolved
  split
  · exact resolved
  · exact resolved

theorem pending_ensureAll (outside : Outside) (ids : List Nat) (backends : Backends) :
    (ids.foldl (fun backends id => backends.ensureConnecting id outside) backends).pending transport =
      backends.pending transport := by
  induction ids generalizing backends with
  | nil => rfl
  | cons id ids ih => exact (ih _).trans (pending_ensureConnecting id outside)

theorem pending_advance (own position : Nat) :
    (backends.advance own position).pending transport = backends.pending transport := by
  by_cases same : transport = own
  · subst same
    simp [pending, advance]
  · simp [pending, advance, same]

theorem pending_sendStream (own : Nat) (handle : Option Nat) (outside : Outside) :
    (backends.sendStream own handle outside).1.pending transport =
      noted transport (backends.failing (.send own handle outside)) (backends.pending transport) := by
  unfold sendStream
  dsimp only
  split
  · rename_i none_
    cases handle <;> simp [failing, rotation, tried, none_, noted_nil]
  cases handle with
  | none =>
      have sent := @pending_sendNew transport own outside (backends.rotation own)
        backends .connectionFailed
      rw [failing]
      simp only [rotation] at sent ⊢
      split <;> rename_i outcome <;> rw [outcome] at sent
      · exact (pending_advance _ _).trans sent
      · exact (pending_ensureAll _ _ _).trans sent
  | some value =>
      rw [failing]
      dsimp only
      split
      · rename_i absent
        simp [absent, noted_nil]
      rename_i id found
      have named : id = handleConnId value := by simpa using List.find?_some found
      subst named
      rw [found, Option.bind_some]
      split
      · rename_i absent
        simp [absent, noted_nil]
      rename_i conn held
      rw [held, Option.filter_some]
      split
      · rename_i waiting
        simp [waiting, noted_nil]
      rename_i ready
      have ready : conn.isReady = true := by simpa using ready
      have breaks : existingStreamFailureBreaksConnection .connectionFailed = true := rfl
      have stays : existingStreamFailureBreaksConnection .closed = false ∧
          existingStreamFailureBreaksConnection .sendFailed = false := ⟨rfl, rfl⟩
      unfold BackendConn.sendOn
      cases current : conn.cnx with
      | none =>
          dsimp only
          rw [if_pos breaks, ready, pending_failConn held]
          rfl
      | some cnx =>
          cases up : outside.connected (handleConnId value) with
          | false =>
              dsimp only
              rw [if_pos rfl]
              dsimp only
              rw [if_pos breaks, ready, pending_failConn held]
              rfl
          | true =>
              simp only [Option.isNone_some, Bool.not_true, Bool.or_self, Bool.and_false,
                Bool.true_eq_false, if_false, Bool.false_eq_true, Option.toList_none, noted_nil]
              by_cases apart : handleConnId value ≠ conn.id ∨ handleGeneration value ≠ conn.generation
              · rw [if_pos apart]
                simp [stays.1]
              · rw [if_neg apart]
                cases outside.write (handleConnId value)
                · simp [stays.2]
                · rfl

theorem pending_enqueueOrAbort {id streamId : Nat} {cnx : Cnx} {conn : BackendConn} {data : Bytes}
    {isFin : Bool} {kind : RecvKind} {outside : Outside} (found : backends.conns id = some conn) :
    (backends.enqueueOrAbort id cnx conn streamId data isFin kind outside).pending transport =
      noted transport ((some conn).filter (backends.overflows cnx streamId data isFin kind)).toList
        (backends.pending transport) := by
  rw [Option.filter_some, overflows]
  unfold enqueueOrAbort
  dsimp only
  split <;> rename_i answer <;> rw [answer]
  · rw [abortConnection, found]
    exact pending_signals
  · rfl

theorem listener_of_found {id : Nat} {cnx : Cnx} {conn : BackendConn}
    (registered : backends.pool.index cnx = some id) (found : backends.conns id = some conn) :
    backends.listener cnx = if conn.state = .ready then some conn else none := by
  rw [listener, registered, Option.bind_some, found, Option.filter_some, BackendConn.isReady]
  simp

theorem listener_of_none {cnx : Cnx} (absent : (backends.pool.index cnx).bind backends.conns = none) :
    backends.listener cnx = none := by
  rw [listener, absent]
  rfl

/-- The keys of the connections that fail come to the lists, and only the worker takes keys off
them. -/
theorem pending_step (event : Event) (others : event ≠ .receive transport) :
    (backends.step event).pending transport =
      noted transport (backends.failing event) (backends.pending transport) := by
  change (backends.handle event).pending transport = _
  cases event with
  | resolve own callback outside => exact pending_resolve own callback outside
  | send own handle outside => exact pending_sendStream own handle outside
  | resolved conn result outside => exact pending_onResolved conn result outside
  | connected cnx =>
      rw [handle]
      split
      · rfl
      · unfold hookConnected
        split <;> rfl
  | streamData cnx streamId data isFin outside =>
      rw [handle, failing]
      cases registered : backends.pool.index cnx with
      | none =>
          rw [listener_of_none (by rw [registered]; rfl), Option.filter_none, Option.toList_none,
            ite_self]
          rfl
      | some id =>
          dsimp only
          rw [hookStreamData]
          cases found : backends.conns id with
          | none =>
              rw [listener_of_none (by rw [registered, Option.bind_some, found]),
                Option.filter_none, Option.toList_none, ite_self]
              rfl
          | some conn =>
              dsimp only
              rw [listener_of_found registered found]
              by_cases ready : conn.state = .ready
              · rw [if_neg (not_not.mpr ready), if_pos ready]
                by_cases nothing : data = [] ∧ isFin = false
                · rw [if_pos nothing, if_pos nothing]
                  rfl
                · rw [if_neg nothing, if_neg nothing]
                  exact pending_enqueueOrAbort found
              · rw [if_pos ready, if_neg ready, Option.filter_none, Option.toList_none, ite_self]
                rfl
  | streamControl cnx streamId stopSending outside =>
      rw [handle, failing]
      cases registered : backends.pool.index cnx with
      | none =>
          rw [listener_of_none (by rw [registered]; rfl)]
          rfl
      | some id =>
          dsimp only
          rw [hookStreamControl]
          cases found : backends.conns id with
          | none =>
              rw [listener_of_none (by rw [registered, Option.bind_some, found])]
              rfl
          | some conn =>
              dsimp only
              rw [listener_of_found registered found]
              by_cases ready : conn.state = .ready
              · rw [if_neg (not_not.mpr ready), if_pos ready]
                exact pending_enqueueOrAbort found
              · rw [if_pos ready, if_neg ready]
                rfl
  | close cnx outside =>
      rw [handle, failing]
      cases registered : backends.pool.index cnx with
      | none =>
          rw [listener_of_none (by rw [registered]; rfl)]
          rfl
      | some id =>
          change (backends.hookClose id outside).pending transport = _
          rw [hookClose]
          cases found : backends.conns id with
          | none =>
              rw [listener_of_none (by rw [registered, Option.bind_some, found])]
              rfl
          | some conn =>
              dsimp only
              rw [listener_of_found registered found]
              by_cases ready : conn.state = .ready
              · rw [if_pos ready, if_pos ready]
                exact pending_signals
              · rw [if_neg ready, if_neg ready]
                rfl
  | receive own =>
      have different : transport ≠ own := by
        rintro rfl
        exact others rfl
      change (backends.receive own).1.pending transport = backends.pending transport
      rw [receive]
      dsimp only
      split
      · split <;> rfl
      · split
        · rfl
        · simp [pending, different]
  | release slot => rfl

/-- The worker takes the last key of a list, or none. -/
theorem pending_receive (backends : Backends) (transport : Nat) :
    (backends.receive transport).1.pending transport = backends.pending transport ∨
      ∃ key, backends.pending transport = (backends.receive transport).1.pending transport ++ [key] ∧
        (backends.receive transport).2 = some (.failure key) := by
  rw [receive]
  dsimp only
  split
  · split <;> exact .inl rfl
  · split
    · exact .inl rfl
    · rename_i key last
      refine .inr ⟨key, ?_, rfl⟩
      simp only [pending, Function.update_self]
      exact (List.dropLast_append_getLast? key last).symm

end Backends

/-! ## Capacities -/

/-- The capacity of a list after it has been asked to hold some items more. -/
def ensureUnusedCapacity (grow : Nat → Nat → Nat) (capacity length more : Nat) : Nat :=
  if length + more ≤ capacity then capacity else grow capacity (length + more)

/-- What a list promises that grows: it can hold what it was asked for. -/
def Guarantees (grow : Nat → Nat → Nat) : Prop := ∀ capacity needed, needed ≤ grow capacity needed

/-- A list that grows by no more than it has to. -/
def least (_ needed : Nat) : Nat := needed

theorem guarantees_least : Guarantees least := fun _ _ => le_rfl

/-- The backends, with the capacity of each transport's list of failures. -/
structure Reserve where
  backends : Backends
  capacity : Nat → Nat

namespace Reserve

open Backends

/-- The endpoints that have no connection. A connection that is created in between is not asked
for twice: asking again for the same room changes nothing. -/
def missing (backends : Backends) (transport : Nat) : List Endpoint :=
  (backends.transports transport).endpoints.filter fun endpoint =>
    (backends.existingConn transport endpoint).isNone

/-- Room is reserved for one key more whenever a connection is to be created. -/
def capacityAfter (grow : Nat → Nat → Nat) (reserve : Reserve) : Event → Nat → Nat
  | .resolve transport _ outside =>
      if outside.reserve = false then reserve.capacity
      else Function.update reserve.capacity transport
        ((missing reserve.backends transport).foldl (fun capacity _ =>
          ensureUnusedCapacity grow capacity (reserve.backends.pending transport).length 1)
          (reserve.capacity transport))
  | _ => reserve.capacity

def step (grow : Nat → Nat → Nat) (reserve : Reserve) (event : Event) : Reserve where
  backends := reserve.backends.step event
  capacity := reserve.capacityAfter grow event

def init (backends : Backends) : Reserve where
  backends := backends
  capacity := fun _ => 0

/-- What is to hold of the lists of failures: they fit into their capacity, each failure is on the
list of its transport, and stays there, once, until the worker takes it. -/
structure Held (grow : Nat → Nat → Nat) (reserve : Reserve) (event : Event) : Prop where
  room : ∀ transport, ((reserve.step grow event).backends.pending transport).length ≤
    (reserve.step grow event).capacity transport
  noted : ∀ conn ∈ reserve.backends.failing event,
    conn.connectionKey ∈ (reserve.step grow event).backends.pending conn.transport
  kept : ∀ transport, ∀ key ∈ reserve.backends.pending transport,
    key ∈ (reserve.step grow event).backends.pending transport ∨
      event = .receive transport ∧ (reserve.backends.receive transport).2 = some (.failure key)
  once : ∀ transport, ((reserve.step grow event).backends.pending transport).Nodup

/-- Where connections of a transport fail, there are no more keys on its list than have been
reserved for. -/
def Fitting (reserve : Reserve) (event : Event) : Prop :=
  ∀ conn ∈ reserve.backends.failing event,
    (noted conn.transport (reserve.backends.failing event)
      (reserve.backends.pending conn.transport)).length ≤ reserve.capacity conn.transport

/-- The lists fit into their capacity, and have no key twice. -/
structure Sound (reserve : Reserve) : Prop where
  room : ∀ transport, (reserve.backends.pending transport).length ≤ reserve.capacity transport
  once : ∀ transport, (reserve.backends.pending transport).Nodup

variable {grow : Nat → Nat → Nat} {reserve : Reserve} {event : Event}

theorem le_ensureUnusedCapacity (guarantees : Guarantees grow) (capacity length more : Nat) :
    capacity ≤ ensureUnusedCapacity grow capacity length more := by
  rw [ensureUnusedCapacity]
  split
  · exact le_rfl
  · rename_i short
    exact (le_of_lt (not_le.mp short)).trans (guarantees _ _)

/-- More capacity is no less after it has grown. -/
theorem ensureUnusedCapacity_least (guarantees : Guarantees grow) {small large : Nat}
    (more : small ≤ large) (length : Nat) : ensureUnusedCapacity least small length 1 ≤
      ensureUnusedCapacity grow large length 1 := by
  rw [ensureUnusedCapacity, ensureUnusedCapacity]
  split
  · exact more.trans (le_ensureUnusedCapacity guarantees large length 1)
  · split
    · exact ‹length + 1 ≤ large›
    · exact guarantees _ _

theorem foldl_ensure_least (guarantees : Guarantees grow) (endpoints : List Endpoint)
    {small large : Nat} (more : small ≤ large) (length : Nat) :
    endpoints.foldl (fun capacity _ => ensureUnusedCapacity least capacity length 1) small ≤
      endpoints.foldl (fun capacity _ => ensureUnusedCapacity grow capacity length 1) large := by
  induction endpoints generalizing small large with
  | nil => exact more
  | cons endpoint endpoints ih => exact ih (ensureUnusedCapacity_least guarantees more length)

theorem le_foldl_ensure (guarantees : Guarantees grow) (endpoints : List Endpoint)
    (capacity length : Nat) : capacity ≤
      endpoints.foldl (fun capacity _ => ensureUnusedCapacity grow capacity length 1) capacity := by
  induction endpoints generalizing capacity with
  | nil => exact le_rfl
  | cons endpoint endpoints ih =>
      exact (le_ensureUnusedCapacity guarantees capacity length 1).trans (ih _)

theorem le_capacityAfter (guarantees : Guarantees grow) (reserve : Reserve) (event : Event)
    (transport : Nat) : reserve.capacity transport ≤ reserve.capacityAfter grow event transport := by
  rw [capacityAfter.eq_def]
  split
  · split
    · exact le_rfl
    · rename_i own _ _ _
      by_cases same : transport = own
      · subst same
        rw [Function.update_self]
        exact le_foldl_ensure guarantees _ _ _
      · rw [Function.update_of_ne same]
  · exact le_rfl

/-- The least capacity stays the least. -/
theorem capacityAfter_least (guarantees : Guarantees grow) {other : Reserve}
    (same : other.backends = reserve.backends)
    (less : ∀ transport, other.capacity transport ≤ reserve.capacity transport) (event : Event)
    (transport : Nat) :
    other.capacityAfter least event transport ≤ reserve.capacityAfter grow event transport := by
  rw [capacityAfter.eq_def, capacityAfter.eq_def]
  split
  · split
    · exact less transport
    · rename_i own _ _ _
      rw [same]
      by_cases here : transport = own
      · subst here
        rw [Function.update_self, Function.update_self]
        exact foldl_ensure_least guarantees _ (less transport) _
      · rw [Function.update_of_ne here, Function.update_of_ne here]
        exact less transport
  · exact less transport

/-- Nothing is lost, and nothing is on a list twice. -/
theorem Sound.held (sound : reserve.Sound)
    (room : ∀ transport, ((reserve.step grow event).backends.pending transport).length ≤
      (reserve.step grow event).capacity transport) : Held grow reserve event where
  room := room
  noted := by
    intro conn failed
    have others : event ≠ .receive conn.transport := by
      rintro rfl
      cases failed
    change _ ∈ (reserve.backends.step event).pending conn.transport
    rw [pending_step event others]
    exact mem_noted.mpr (.inr ⟨conn, failed, rfl, rfl⟩)
  kept := by
    intro transport key listed
    change key ∈ (reserve.backends.step event).pending transport ∨ _
    by_cases taken : event = .receive transport
    · subst taken
      obtain same | ⟨last, whole, received⟩ := reserve.backends.pending_receive transport
      · exact .inl (by
          change key ∈ (reserve.backends.receive transport).1.pending transport
          rw [same]
          exact listed)
      · rw [whole] at listed
        obtain kept | taken := List.mem_append.mp listed
        · exact .inl kept
        · rw [List.mem_singleton.mp taken]
          exact .inr ⟨rfl, received⟩
    · rw [pending_step event taken]
      exact .inl (mem_noted.mpr (.inl listed))
  once := by
    intro transport
    change ((reserve.backends.step event).pending transport).Nodup
    by_cases taken : event = .receive transport
    · subst taken
      change ((reserve.backends.receive transport).1.pending transport).Nodup
      have before := sound.once transport
      obtain same | ⟨last, whole, -⟩ := reserve.backends.pending_receive transport
      · rw [same]
        exact before
      · rw [whole] at before
        exact (List.nodup_append.mp before).1
    · rw [pending_step event taken]
      exact nodup_noted (sound.once transport)

/-- A list on which no key comes has its room still. -/
theorem length_pending_step {transport : Nat}
    (none_ : ∀ conn ∈ reserve.backends.failing event, conn.transport ≠ transport) :
    ((reserve.backends.step event).pending transport).length ≤
      (reserve.backends.pending transport).length := by
  by_cases taken : event = .receive transport
  · subst taken
    change ((reserve.backends.receive transport).1.pending transport).length ≤ _
    obtain same | ⟨last, whole, -⟩ := reserve.backends.pending_receive transport
    · rw [same]
    · rw [whole, List.length_append]
      exact Nat.le_add_right _ _
  · rw [pending_step event taken, noted, List.filter_eq_nil_iff.mpr]
    · exact le_rfl
    · intro conn failed
      simpa using none_ conn failed

/-- Events by which connections fail reserve nothing. -/
theorem capacityAfter_failing {conn : BackendConn} (failed : conn ∈ reserve.backends.failing event) :
    reserve.capacityAfter grow event = reserve.capacity := by
  cases event with
  | resolve transport callback outside => cases failed
  | _ => rfl

/-- There is room after an event in which no more keys come than were reserved for. -/
theorem Sound.room_step (sound : reserve.Sound) (guarantees : Guarantees grow) {least : Reserve}
    (same : least.backends = reserve.backends)
    (less : ∀ transport, least.capacity transport ≤ reserve.capacity transport)
    (fitting : least.Fitting event) (transport : Nat) :
    ((reserve.step grow event).backends.pending transport).length ≤
      (reserve.step grow event).capacity transport := by
  change ((reserve.backends.step event).pending transport).length ≤
    reserve.capacityAfter grow event transport
  by_cases hit : ∃ conn ∈ reserve.backends.failing event, conn.transport = transport
  · obtain ⟨conn, failed, rfl⟩ := hit
    have others : event ≠ .receive conn.transport := by
      rintro rfl
      cases failed
    have fits := fitting conn (same ▸ failed)
    rw [same] at fits
    rw [capacityAfter_failing failed, pending_step event others]
    exact fits.trans (less _)
  · push Not at hit
    exact (length_pending_step hit).trans ((sound.room transport).trans
      (le_capacityAfter guarantees reserve event transport))

theorem Held.sound (held : Held grow reserve event) : (reserve.step grow event).Sound :=
  ⟨held.room, held.once⟩

theorem Held.fitting (held : Held grow reserve event) : reserve.Fitting event := by
  intro conn failed
  have others : event ≠ .receive conn.transport := by
    rintro rfl
    cases failed
  have room := held.room conn.transport
  change ((reserve.backends.step event).pending conn.transport).length ≤
    reserve.capacityAfter grow event conn.transport at room
  rwa [capacityAfter_failing failed, pending_step event others] at room

/-- What fits into the least capacity fits into every other one. -/
theorem meets_held (guarantees : Guarantees grow) (events : List Backends.Event) {other : Reserve}
    (same : other.backends = reserve.backends)
    (less : ∀ transport, other.capacity transport ≤ reserve.capacity transport)
    (sound : reserve.Sound) (fitting : Run.Meets (step least) Fitting other events) :
    Run.Meets (step grow) (Held grow) reserve events := by
  induction events generalizing reserve other with
  | nil => trivial
  | cons event events ih =>
      have held := sound.held (sound.room_step guarantees same less fitting.1)
      refine ⟨held, ih ?_ (capacityAfter_least guarantees same less event) held.sound fitting.2⟩
      change other.backends.step event = reserve.backends.step event
      rw [same]

/-- Every append of a failure notice finds room, whatever the lists reserve beyond what they are
asked for, if and only if never more keys are on a list, when a connection fails, than there were
when one of the connections was created, and one. -/
theorem notices_fit (maxConns recvSlots maxSlotsPerConn : Nat) (transports : Nat → DirectTransport)
    (events : List Backends.Event) :
    let start := init (.init (.init maxConns recvSlots maxSlotsPerConn) transports)
    (∀ grow, Guarantees grow → Run.Meets (step grow) (Held grow) start events) ↔
      Run.Meets (step least) Fitting start events := by
  intro start
  refine ⟨fun held => (held least guarantees_least).mono fun _ _ held => held.fitting,
    fun fitting grow guarantees => meets_held guarantees events rfl (fun _ => le_rfl) ?_ fitting⟩
  exact ⟨fun _ => le_rfl, fun _ => List.nodup_nil⟩

/-- Two connections of a transport are created while no notice is pending, and both fail. -/
theorem second_notice_has_no_room : ∃ grow, Guarantees grow ∧
    ¬ Run.Meets (step grow) (Held grow)
      (init (.init (.init 512 8 256) fun _ => {
        endpoints := [{ host := "first", port := 4433 }, { host := "second", port := 4433 }] }))
      [.resolve 0 none { now := 0 }, .resolved 0 .address { now := 0 },
        .resolved 1 .address { now := 0 }, .connected 0, .connected 1, .close 0 { now := 1 },
        .close 1 { now := 1 }] := by
  refine ⟨least, guarantees_least, fun held => ?_⟩
  obtain ⟨-, -, -, -, -, -, last, -⟩ := held
  have room := last.room 0
  exact absurd room (by decide +kernel)

end Reserve

end LyuneGateway.Backend
