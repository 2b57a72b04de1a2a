import LyuneGateway.Backend.Registry
import LyuneGateway.Worker.Handover
import LyuneGateway.Worker.Telling
import LyuneGateway.Worker.Turn

/-!
# Walking over the registry

A worker handles what its transports deliver in one pass over the registry. What a
delivery makes it say of a connection is sent on the lifecycle route of a realm.
If the catalog declares this route and the worker has not used it yet, a transport
is made for it and registered on the direct path, which the pass may be over.
-/

namespace LyuneGateway.Worker

open Foundation Io Protocol Session Backend

/-- The realm on whose lifecycle route the action is. -/
def Action.spoken : Action → Option RealmId
  | .published _ _ _ notice => some notice.realm
  | _ => none

def Turn.drained : Turn → Bool
  | .event own => own.drained
  | .chunkEnd .. => true

def Turn.tells (worker : GatewayWorker) : Turn → Option RealmId
  | .event own => own.tells worker
  | .chunkEnd .. => none

namespace GatewayWorker

variable {worker after : GatewayWorker}

/-- The routes that a worker has looked up: every connection that it spoke of has a token. -/
def lookups (worker after : GatewayWorker) : List ScopedRoute :=
  match worker.policy.lifecycleRoute with
  | none => []
  | some route =>
      ((after.log.drop worker.log.length).filterMap Action.spoken).map fun realm => ⟨realm, route⟩

theorem endChunk_via {allowed : Op → Prop} (key : StreamKey) (spill : Bytes)
    (refused isFin : Bool) (ask : allowed .ask) (pushes : ∀ change, allowed (.pushes change))
    (streams : Streams allowed) :
    Via allowed worker (worker.endChunk key spill refused isFin) := by
  unfold endChunk
  simp only
  split
  · exact .refl
  have kept := @keepPush_via worker allowed key (worker.egress.pushes.lookup key).isSome spill ask
    pushes
  split <;> rename_i answer <;> rw [answer] at kept
  · exact kept
  rw [Option.getD_some] at kept
  split
  · exact kept.trans (Via.op (pushes fun pushes => pushes.erase key) rfl)
  split
  · exact kept.trans (abortBackendPush_via streams pushes)
  · exact kept

theorem endChunk_mum (key : StreamKey) (spill : Bytes) (refused isFin : Bool) :
    Via Op.Mum worker (worker.endChunk key spill refused isFin) :=
  endChunk_via key spill refused isFin trivial (fun _ => trivial) ⟨fun _ _ _ => trivial,
    fun _ _ _ => trivial, fun _ _ => trivial, fun _ => trivial, fun _ _ _ _ => trivial⟩

/-- Of whom a worker speaks in a turn. -/
theorem turn_adds (indexed : worker.conns.Indexed) {turn : Turn} (drained : turn.drained = true) :
    Presence.Adds (fun realm => turn.tells worker = some realm) worker.presence
      (worker.takeTurn turn).presence := by
  cases turn with
  | event event => exact step_adds indexed drained
  | chunkEnd key spill refused isFin =>
      exact .of_calls (congrArg Presence.calls (Via.presence
        ((endChunk_mum key spill refused isFin).mono fun _ _ mum => mum.presence)))

theorem turn_posts {turn : Turn} (drained : turn.drained = true) :
    Posts worker (worker.takeTurn turn) := by
  cases turn with
  | event event =>
      refine step_posts ?_
      cases event with
      | handoff | outside => cases drained
      | _ => rfl
  | chunkEnd key spill refused isFin =>
      have posting : Via Op.Posting worker (worker.endChunk key spill refused isFin) :=
        endChunk_via key spill refused isFin trivial (fun _ => trivial) Op.Posting.streams
      exact .of_via (posting.mono fun _ _ posting => posting.posts)

theorem turn_indexed (indexed : worker.conns.Indexed) (turn : Turn) :
    (worker.takeTurn turn).conns.Indexed := by
  cases turn with
  | event event => exact step_indexed indexed event
  | chunkEnd key spill refused isFin =>
      exact Via.indexed ((endChunk_mum key spill refused isFin).mono fun _ _ mum =>
        mum.keepsIndexed) indexed

/-- A delivery is handled by turns of this kind. -/
theorem drainTransport_drained (transport : Nat) (realm : RealmId) (recv : TransportRecv)
    (memory : Nat → Bool) :
    ∃ turns : List Turn, (∀ turn ∈ turns, turn.drained = true) ∧
      worker.drainTransport transport realm recv memory = Run.final takeTurn worker turns := by
  have single {event : Event} (drained : event.drained = true) : ∃ turns : List Turn,
      (∀ turn ∈ turns, turn.drained = true) ∧ worker.step event = Run.final takeTurn worker turns :=
    ⟨[.event event], fun turn listed => List.mem_singleton.mp listed ▸ drained, rfl⟩
  unfold drainTransport
  simp only
  split
  · exact @single (.streamControl _ _ _) rfl
  · exact @single (.streamControl _ _ _) rfl
  split
  · exact @single (.authResponse _ _ _) rfl
  split
  · rename_i route found
    obtain ⟨turns, drained, same⟩ := @single (.response _ recv.data recv.isFin) rfl
    rw [step, found] at same
    exact ⟨turns, drained, same⟩
  split
  · obtain ⟨frames, spill, refused, same⟩ := @handlePush_turns worker transport realm recv memory
    refine ⟨_, fun turn listed => ?_, same⟩
    obtain frame | rest := List.mem_append.mp listed
    · obtain ⟨parsed, -, rfl⟩ := List.mem_map.mp frame
      rfl
    · rw [List.mem_singleton.mp rest]
      rfl
  · exact ⟨[], by simp, rfl⟩

/-- A worker looks up no routes but those of the realms that it speaks of. -/
theorem lookups_of_adds {told : RealmId → Prop} (posts : Posts worker after)
    (adds : Presence.Adds told worker.presence after.presence) :
    ∀ scope ∈ worker.lookups after, told scope.realm ∧
      worker.policy.lifecycleRoute = some scope.route := by
  intro scope listed
  obtain ⟨more, extends_, -⟩ := posts.log
  unfold lookups at listed
  split at listed
  · cases listed
  rename_i route routed
  rw [extends_, List.drop_left] at listed
  obtain ⟨realm, spoken, rfl⟩ := List.mem_map.mp listed
  obtain ⟨action, added, heard⟩ := List.mem_filterMap.mp spoken
  refine ⟨?_, routed⟩
  cases action with
  | published client kind reason notice =>
      cases heard
      obtain ⟨said, same, known⟩ := adds client
      have calls : worker.calls client ++ more.filterMap (Action.call client) =
          worker.calls client ++ said := by
        rw [calls, ← List.filterMap_append, ← extends_]
        exact same
      refine known ⟨kind, reason, notice⟩ ?_
      rw [← List.append_cancel_left calls]
      exact List.mem_filterMap.mpr ⟨_, added, by simp [Action.call]⟩
  | _ => cases heard

end GatewayWorker

/-- A pass over the entries of a path, and those that it has come by. -/
structure RegistryWalk where
  worker : GatewayWorker
  routing : Routing
  index : Nat := 0
  visited : List TransportEntry := []

namespace RegistryWalk

/-- What happens in a pass: it goes on to the next entry, or part of a delivery is handled. -/
inductive Move where
  | next
  | turn (turn : Turn)

/-- The worker, which finds its transports in the registry. -/
def present (hashing : Hashing) (walk : RegistryWalk) : GatewayWorker :=
  { walk.worker with registry := fun scope => (walk.routing.findTransport hashing scope).1 }

/-- Look routes up one after the other. -/
def lookUp (hashing : Hashing) (routing : Routing) (scopes : List ScopedRoute) : Routing :=
  scopes.foldl (fun routing scope => (routing.findTransport hashing scope).2) routing

def step (hashing : Hashing) (path : TransportPath) (walk : RegistryWalk) : Move → RegistryWalk
  | .next =>
      match Cursor.next (walk.routing.registry.table path).transports walk.index with
      | none => walk
      | some (entry, position) =>
          { walk with index := position, visited := walk.visited ++ [entry] }
  | .turn turn =>
      let worker := walk.present hashing
      let after := worker.takeTurn turn
      { walk with
        worker := after
        routing := lookUp hashing walk.routing (worker.lookups after) }

/-- The worker speaks of a realm whose lifecycle route is still without a transport that it can
have. -/
def unsettles (hashing : Hashing) (walk : RegistryWalk) (turn : Turn) : Bool :=
  match turn.tells (walk.present hashing), walk.worker.policy.lifecycleRoute with
  | some realm, some route => walk.routing.creates ⟨realm, route⟩
  | _, _ => false

/-- The turn is about a delivery and makes no transport, if the pass is over the direct path. -/
def steady (hashing : Hashing) (path : TransportPath) (walk : RegistryWalk) : Move → Bool
  | .next => true
  | .turn turn => turn.drained && !(path = .direct && walk.unsettles hashing turn)

variable {hashing : Hashing} {path : TransportPath} {walk : RegistryWalk} {routing : Routing}

theorem lookUp_of_idle {scopes : List ScopedRoute}
    (idle : ∀ scope ∈ scopes, routing.creates scope = false) :
    lookUp hashing routing scopes = routing := by
  induction scopes with
  | nil => rfl
  | cons scope scopes ih =>
      obtain ⟨first, rest⟩ := List.forall_mem_cons.mp idle
      rw [lookUp, List.foldl_cons, Routing.findTransport_of_not_creates first]
      exact ih rest

theorem relay_lookUp (scopes : List ScopedRoute) :
    (lookUp hashing routing scopes).registry.relay = routing.registry.relay := by
  induction scopes generalizing routing with
  | nil => rfl
  | cons scope scopes ih => exact ih.trans Routing.findTransport_relay

/-- The pass has come by the entries before its position, and these are where they were. -/
structure InPlace (path : TransportPath) (table : RouteTable) (walk : RegistryWalk) : Prop where
  indexed : walk.worker.conns.Indexed
  same : walk.routing.registry.table path = table
  visited : walk.visited = Cursor.passed table.transports walk.index

theorem InPlace.step {table : RouteTable} (inPlace : InPlace path table walk) {move : Move}
    (steady : walk.steady hashing path move = true) :
    InPlace path table (walk.step hashing path move) := by
  cases move with
  | next =>
      unfold RegistryWalk.step
      simp only
      rw [inPlace.same]
      cases found : Cursor.next table.transports walk.index with
      | none => exact inPlace
      | some next =>
          obtain ⟨entry, position⟩ := next
          refine ⟨inPlace.indexed, inPlace.same, ?_⟩
          rw [Cursor.passed_of_next_some found, ← inPlace.visited]
  | turn turn =>
      obtain ⟨drained, settled⟩ := Bool.and_eq_true_iff.mp steady
      have indexed : (walk.present hashing).conns.Indexed := inPlace.indexed
      refine ⟨GatewayWorker.turn_indexed indexed turn, ?_, inPlace.visited⟩
      change (lookUp hashing walk.routing ((walk.present hashing).lookups
        ((walk.present hashing).takeTurn turn))).registry.table path = table
      cases path with
      | relay => exact (relay_lookUp _).trans inPlace.same
      | direct =>
          rw [lookUp_of_idle, inPlace.same]
          intro scope listed
          obtain ⟨told, route⟩ := GatewayWorker.lookups_of_adds (GatewayWorker.turn_posts drained)
            (GatewayWorker.turn_adds indexed drained) scope listed
          have routed : walk.worker.policy.lifecycleRoute = some scope.route := route
          simpa [unsettles, told, routed] using settled

/-- As long as the worker does not have to make a transport for a realm that it speaks of, a pass
over its transports changes nothing that it is over, and comes by each of them once; a pass over the
relay path never does. -/
theorem pass_visits_all (hashing : Hashing) (path : TransportPath) (config : Config)
    (router : MessageRouter) (fate : Nat → Bool) (history : List Event) (routing : Routing)
    (moves : List Move)
    (meets : Run.Meets (step hashing path) (fun walk move => walk.steady hashing path move = true)
      { worker := (GatewayWorker.init config router fate).run history, routing := routing }
      moves) :
    let walk := Run.final (step hashing path)
      { worker := (GatewayWorker.init config router fate).run history, routing := routing } moves
    let table := routing.registry.table path
    walk.routing.registry.table path = table ∧ walk.visited <+: table.entries ∧
      (Cursor.next (walk.routing.registry.table path).transports walk.index = none →
        walk.visited = table.entries) := by
  have indexed : ((GatewayWorker.init config router fate).run history).conns.Indexed :=
    @Run.invariant _ _ GatewayWorker.step (fun _ _ => True)
      (fun worker => worker.conns.Indexed)
      (fun _ event indexed _ => GatewayWorker.step_indexed indexed event) history _
      (GatewayWorker.init_indexed config router fate)
      (Run.meets_of_forall (fun _ _ _ => trivial) _)
  have inPlace := @Run.invariant _ _ (step hashing path) _
    (InPlace path (routing.registry.table path)) (fun _ _ sofar steady => sofar.step steady)
    moves { worker := (GatewayWorker.init config router fate).run history, routing := routing }
    ⟨indexed, rfl, rfl⟩ meets
  refine ⟨inPlace.same, ?_, fun ended => ?_⟩
  · rw [inPlace.visited]
    exact Cursor.passed_isPrefix _ _
  · rw [inPlace.visited]
    rw [inPlace.same] at ended
    exact Cursor.passed_of_next_none ended

/-- A table that is laid out anew for a new entry. -/
def rehashing : Hashing where
  place slots entry := some entry :: slots
  keeps _ _ := .refl _

/-- The transports of two routes of the realm, of which the first is told of connections. -/
def twoRoutes : Routing where
  registry := { direct := { transports :=
    [some (⟨7, {}⟩, 9), none, some (⟨7, { routeKey := 1 }⟩, 8)] } }

/-- A pass in which a connection is admitted. -/
def passAdmitting : List Move := [.next, .turn (.event GatewayWorker.grantFirst), .next, .next]

set_option maxRecDepth 10000 in
theorem pass_visits_all_admitting :
    let walk := Run.final (step rehashing .direct)
      { worker := (GatewayWorker.init GatewayWorker.observed (.init 1 16) fun _ => true).run
          GatewayWorker.askForAdmission
        routing := twoRoutes } passAdmitting
    let table := twoRoutes.registry.table .direct
    walk.routing.registry.table .direct = table ∧ walk.visited <+: table.entries ∧
      (Cursor.next (walk.routing.registry.table .direct).transports walk.index = none →
        walk.visited = table.entries) :=
  pass_visits_all rehashing .direct GatewayWorker.observed (.init 1 16) (fun _ => true)
    GatewayWorker.askForAdmission twoRoutes passAdmitting (by decide +kernel)

/-- The route that is told of connections is declared, but it has not been used yet. -/
def routeDeclared : Routing where
  registry := { direct := { transports := [some (⟨7, { routeKey := 1 }⟩, 8)] } }
  catalog := some { slab := { slots := [{ route := ⟨7, {}⟩ }], len := 1, fits := Nat.le_refl 1 } }
  factory := some { capacity := 4 }

set_option maxRecDepth 10000 in
/-- The admission makes a transport, and the pass comes by the same entry again. -/
example :
    (Run.final (step rehashing .direct)
      { worker := (GatewayWorker.init GatewayWorker.observed (.init 1 16) fun _ => true).run
          GatewayWorker.askForAdmission
        routing := routeDeclared }
      [.next, .turn (.event GatewayWorker.grantFirst), .next]).visited =
      [(⟨7, { routeKey := 1 }⟩, 8), (⟨7, { routeKey := 1 }⟩, 8)] := by
  decide +kernel

end RegistryWalk

end LyuneGateway.Worker
