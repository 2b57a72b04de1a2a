import LyuneGateway.Worker.Silence

/-!
# Sending connections to their home

A connection is sent away in answer to its authentication, or by the sweep that
looks for connections whose home has moved. It stays until its client has gone.
-/

namespace LyuneGateway.Worker

open Foundation Io Protocol Session

/-- The connection that the sweep sends to its home. -/
def Event.sendsHome (worker : GatewayWorker) : Event → Option ConnectionContext
  | .rehome slot => (worker.context slot).filter fun ctx =>
      !ctx.peerNode && worker.redirects ctx.realm ctx.destId
  | _ => none

/-- The connection that an event sends to another node. -/
def Event.redirected (worker : GatewayWorker) (event : Event) : Option ConnectionContext :=
  (event.turnsAway worker).or (event.sendsHome worker)

/-- The action does not send a connection away. -/
def Action.Stays (action : Action) : Prop :=
  ∀ client, action ≠ .close client AppError.redirected.code

theorem Action.Calm.stays {action : Action} (calm : action.Calm) : action.Stays := by
  rintro client rfl
  exact calm.2 rfl

namespace GatewayWorker

variable {worker : GatewayWorker}

/-- A redirect ends with the one action that closes the connection. -/
theorem redirectToHome_log {slot destId : Nat} {ctx : ConnectionContext}
    (found : worker.context slot = some ctx)
    (known : (worker.redirectTarget ctx.realm destId).isSome = true) (first : Option (Nat × Bytes)) :
    ∃ told, (worker.redirectToHome slot destId first).2.log =
        told ++ [.close ctx.transport.ptr AppError.redirected.code] ∧
      ∃ more, told = worker.log ++ more ∧ ∀ action ∈ more, action.Stays := by
  obtain ⟨⟨home, address⟩, target⟩ := Option.isSome_iff_exists.mp known
  have answered : Undisturbed worker (worker.answerFirst ctx first) := by
    unfold answerFirst
    split
    · exact .refl
    · exact .writeClient _ _ _ true .backend
  simp only [redirectToHome, found, target, closeClient]
  split
  · obtain ⟨more, same, calm⟩ := answered.log
    exact ⟨_, rfl, more, same, fun action listed => (calm action listed).stays⟩
  · obtain ⟨more, same, calm⟩ := (answered.trans (.openClient slot _ true .gateway)).log
    exact ⟨_, rfl, more, same, fun action listed => (calm action listed).stays⟩

theorem known_of_redirects {realm : RealmId} {destId : Nat}
    (leaves : worker.redirects realm destId = true) :
    (worker.redirectTarget realm destId).isSome = true := by
  simp only [redirects, Bool.and_eq_true] at leaves
  exact leaves.2

theorem answered_eq_some {event : Event} {ctx : ConnectionContext} {grant : AuthGrant}
    (answered : event.answered worker = some (ctx, grant)) :
    ∃ key data pending slot, event = .authResponse key data true ∧
      worker.inflight.lookupAuth key = some pending ∧ worker.ask.1 = true ∧
      worker.conns.slotFor pending.clientSession = some slot ∧ worker.context slot = some ctx ∧
      (classify (pending.buffer ++ data)).result = .success ∧
      (classify (pending.buffer ++ data)).grant = grant := by
  unfold Event.answered at answered
  split at answered
  · rename_i key data
    obtain ⟨pending, waiting, more⟩ := Option.bind_eq_some_iff.mp answered
    obtain ⟨own, held, decided⟩ := Option.bind_eq_some_iff.mp more
    obtain ⟨slot, resolved, found⟩ := Option.bind_eq_some_iff.mp held
    split at decided
    · rename_i both
      cases decided
      exact ⟨key, data, pending, slot, rfl, waiting, both.1, resolved, found, both.2, rfl⟩
    · cases decided
  · cases answered

theorem turnsAway_eq_some {event : Event} {ctx : ConnectionContext}
    (away : event.turnsAway worker = some ctx) :
    ∃ grant, event.answered worker = some (ctx, grant) ∧
      worker.redirects ctx.realm grant.destId = true := by
  obtain ⟨⟨own, grant⟩, kept, rfl⟩ := Option.map_eq_some_iff.mp away
  obtain ⟨answered, leaves⟩ := Option.filter_eq_some_iff.mp kept
  exact ⟨grant, answered, leaves⟩

theorem admits_eq_some {event : Event} {ctx : ConnectionContext}
    (admits : event.admits worker = some ctx) :
    ∃ grant, event.answered worker = some (ctx, grant) ∧
      worker.redirects ctx.realm grant.destId = false := by
  obtain ⟨⟨own, grant⟩, kept, rfl⟩ := Option.map_eq_some_iff.mp admits
  obtain ⟨answered, stays⟩ := Option.filter_eq_some_iff.mp kept
  exact ⟨grant, answered, by simpa using stays⟩

theorem sendsHome_eq_some {event : Event} {ctx : ConnectionContext}
    (home : event.sendsHome worker = some ctx) :
    ∃ slot, event = .rehome slot ∧ worker.context slot = some ctx ∧ ctx.peerNode = false ∧
      worker.redirects ctx.realm ctx.destId = true := by
  unfold Event.sendsHome at home
  split at home
  · rename_i slot
    obtain ⟨found, moves⟩ := Option.filter_eq_some_iff.mp home
    simp only [Bool.and_eq_true, Bool.not_eq_true'] at moves
    exact ⟨slot, rfl, found, moves.1, moves.2⟩
  · cases home

/-- The end of the response of the authentication service completes the authentication. -/
theorem collectAuthResponse_last {key : StreamKey} {data : Bytes} {pending : PendingAuth}
    (waiting : worker.inflight.lookupAuth key = some pending) (granted : worker.ask.1 = true) :
    worker.collectAuthResponse key data true =
      { worker.ask.2 with
        inflight := (worker.ask.2.inflight.appendAuth key data).takeAuth key }.completeAuth
        { pending with buffer := pending.buffer ++ data } := by
  have asked : worker.ask = (true, worker.ask.2) := Prod.ext granted rfl
  rw [collectAuthResponse, waiting, asked]
  rfl

theorem completeAuth_of_redirects {auth : PendingAuth} {slot : Nat} {ctx : ConnectionContext}
    (resolved : worker.conns.slotFor auth.clientSession = some slot)
    (found : worker.context slot = some ctx) (success : (classify auth.buffer).result = .success)
    (leaves : worker.redirects ctx.realm (classify auth.buffer).grant.destId = true) :
    worker.completeAuth auth = (worker.redirectToHome slot (classify auth.buffer).grant.destId
      (if auth.responseSuppressed then none else some (auth.clientStreamId, auth.buffer))).2 := by
  simp only [completeAuth, resolved, found, success]
  rw [redirectIfNotHome_of_redirects found leaves]

/-- What a redirected connection is: one of the worker's. -/
theorem redirected_found {event : Event} {ctx : ConnectionContext}
    (leaves : event.redirected worker = some ctx) : ∃ slot, worker.context slot = some ctx := by
  obtain away | ⟨-, home⟩ := Option.or_eq_some_iff.mp leaves
  · obtain ⟨grant, answered, -⟩ := turnsAway_eq_some away
    obtain ⟨_, _, _, slot, -, -, -, -, found, -⟩ := answered_eq_some answered
    exact ⟨slot, found⟩
  · obtain ⟨slot, -, found, -⟩ := sendsHome_eq_some home
    exact ⟨slot, found⟩

/-- A step that sends a connection away ends with closing it, and closes no other for it. -/
theorem step_redirected {event : Event} {ctx : ConnectionContext}
    (leaves : event.redirected worker = some ctx) :
    ∃ more, (worker.step event).log =
        worker.log ++ more ++ [.close ctx.transport.ptr AppError.redirected.code] ∧
      ∀ action ∈ more, action.Stays := by
  obtain away | ⟨-, home⟩ := Option.or_eq_some_iff.mp leaves
  · obtain ⟨grant, answered, redirects⟩ := turnsAway_eq_some away
    obtain ⟨key, data, pending, slot, rfl, waiting, granted, resolved, found, success, rfl⟩ :=
      answered_eq_some answered
    have completed := @completeAuth_of_redirects { worker.ask.2 with
      inflight := (worker.ask.2.inflight.appendAuth key data).takeAuth key }
      { pending with buffer := pending.buffer ++ data } slot ctx resolved found success redirects
    have taken : worker.step (.authResponse key data true) = _ :=
      (collectAuthResponse_last waiting granted).trans completed
    obtain ⟨told, log, more, same, stays⟩ := @redirectToHome_log { worker.ask.2 with
      inflight := (worker.ask.2.inflight.appendAuth key data).takeAuth key } slot _ ctx found
      (known_of_redirects redirects) (if pending.responseSuppressed then none
        else some (pending.clientStreamId, pending.buffer ++ data))
    rw [taken]
    exact ⟨more, by rw [log, same]; rfl, stays⟩
  · obtain ⟨slot, rfl, found, client, redirects⟩ := sendsHome_eq_some home
    have known := known_of_redirects redirects
    simp only [GatewayWorker.redirects, Bool.and_eq_true, Bool.not_eq_true',
      decide_eq_true_eq] at redirects
    have taken : worker.step (.rehome slot) = (worker.redirectToHome slot ctx.destId none).2 := by
      simp [step, rehome, found, client, redirects.1.1, redirects.1.2]
    obtain ⟨told, log, more, same, stays⟩ := redirectToHome_log found known none
    rw [taken]
    exact ⟨more, by rw [log, same], stays⟩

/-- Nothing but a redirect closes a connection as redirected. -/
theorem Permits.stays {event : Event} {op : Op} (permits : Permits worker event op)
    (stays : event.turnsAway worker = none) (sweeps : ∀ slot, event ≠ .rehome slot)
    (after : GatewayWorker) : Grows Action.Stays after (op.apply after) := by
  have calm {next : GatewayWorker} (undisturbed : Undisturbed after next) :
      Grows Action.Stays after next := undisturbed.log.mono fun _ => Action.Calm.stays
  have unchanged {next : GatewayWorker} (same : next.log = after.log) :
      Grows Action.Stays after next := ⟨[], by rw [same, List.append_nil], by simp⟩
  cases permits with
  | quiet quiet => exact calm (quiet.calm after)
  | pushes | remove | unbind => exact .refl
  | dispatched => exact .record fun _ same => by cases same
  | accept | acceptPeer =>
      refine unchanged ?_
      simp only [Op.apply, addConnection]
      split <;> rfl
  | bind => exact calm (.resolveBind _ _ _)
  | admitClient =>
      refine (grows_admitSession _ _ _ _).mono ?_
      rintro action (calmly | ⟨_, _, -, rfl⟩)
      · exact calmly.stays
      · exact fun _ same => by cases same
  | turnAway waiting granted resolved found success leaves =>
      have held : worker.conns.context _ = some _ := found
      simp [Event.turnsAway, Event.answered, waiting, ConnectionManager.getByHandle, resolved,
        held, granted, success, leaves] at stays
  | sendHome => exact absurd rfl (sweeps _)
  | revoke => exact calm (.revokeAdmission _ _)
  | renew =>
      refine (grows_publish _ _ _).mono ?_
      rintro action (calmly | ⟨_, -, rfl⟩)
      · exact calmly.stays
      · exact fun _ same => by cases same
  | placement => exact unchanged (refreshPlacement_frame _ _).1
  | outside | popped => exact unchanged (changeOutside_frame _).1
  | group => exact calm (.applyGroupChange _ _ _ _)
  | kick =>
      refine (grows_kickOne _ _).mono ?_
      rintro action (calmly | ⟨_, _, -, -, -, rfl⟩)
      · exact calmly.stays
      · intro client same
        cases same

theorem step_stays {event : Event} (stays : event.redirected worker = none) :
    Grows Action.Stays worker (worker.step event) := by
  obtain ⟨remains, settled⟩ := Option.or_eq_none_iff.mp stays
  by_cases sweeps : ∃ slot, event = .rehome slot
  · obtain ⟨slot, rfl⟩ := sweeps
    have still : worker.rehome slot = worker := by
      unfold rehome
      split
      · rfl
      rename_i ctx found
      split
      · rfl
      split
      · rfl
      rename_i client away
      simp only [not_or, Bool.not_eq_true] at client away
      have unknown : worker.redirectTarget ctx.realm ctx.destId = none := by
        simpa [Event.sendsHome, found, client.1, redirects, client.2, away] using settled
      simp [redirectToHome, found, unknown]
    rw [show worker.step (.rehome slot) = worker from still]
    exact .refl
  · refine @Run.Reaches.invariant _ _ _ _ _ _ (fun after => Grows Action.Stays worker after)
      (fun after op grows permits => grows.trans ?_) (step_via event) .refl
    exact Permits.stays permits remains (fun slot same => sweeps ⟨slot, same⟩) after

end GatewayWorker

/-- A worker, the clients whose successful authentication was answered with a redirect, and how
often each client has been sent away since its last successful authentication. -/
structure Journey where
  worker : GatewayWorker
  away : List Nat := []
  redirects : Nat → Nat := fun _ => 0

namespace Journey

def start (worker : GatewayWorker) : Journey where
  worker := worker

def step (journey : Journey) (event : Event) : Journey where
  worker := journey.worker.step event
  away :=
    match event.turnsAway journey.worker with
    | some ctx => ctx.transport.ptr :: journey.away
    | none => journey.away
  redirects client :=
    (if (event.answered journey.worker).any fun answer => answer.1.transport.ptr = client then 0
      else journey.redirects client) +
    ((journey.worker.step event).log.drop journey.worker.log.length).count
      (.close client AppError.redirected.code)

/-- Who was sent away is not admitted and belongs to no destination, and no authentication is
followed by more than one redirect. -/
structure OutOfService (journey : Journey) : Prop where
  silent : ∀ slot ctx, journey.worker.context slot = some ctx →
    ctx.transport.ptr ∈ journey.away → ctx.isAdmitted journey.worker.now = false ∧
      ∀ realm destId, slot ∉ journey.worker.conns.destConnections realm destId
  once : ∀ client, journey.redirects client ≤ 1

/-- Only a connection that is out of service is sent away for its authentication, and none of those
is admitted later on. The sweep sends nobody home twice, and time does not run backwards. -/
def orderly (journey : Journey) (event : Event) : Bool :=
  (event.turnsAway journey.worker).all (fun ctx =>
    !ctx.isAdmitted journey.worker.now && ctx.destId = 0) &&
  (event.admits journey.worker).all (fun ctx => ctx.transport.ptr ∉ journey.away) &&
  (event.sendsHome journey.worker).all (fun ctx => journey.redirects ctx.transport.ptr = 0) &&
  match event with
  | .outside (.clock now) => journey.worker.now ≤ now
  | _ => true

variable {journey : Journey} {event : Event}

/-- A step redirects one connection, once, or none. -/
theorem count_redirects (client : Nat) :
    ((journey.worker.step event).log.drop journey.worker.log.length).count
      (.close client AppError.redirected.code) =
    if (event.redirected journey.worker).any fun ctx => ctx.transport.ptr = client then 1
    else 0 := by
  have none_of_stays {more : List Action} (stays : ∀ action ∈ more, action.Stays) :
      more.count (.close client AppError.redirected.code) = 0 :=
    List.count_eq_zero.mpr fun listed => stays _ listed client rfl
  cases leaves : event.redirected journey.worker with
  | none =>
      obtain ⟨more, log, stays⟩ := GatewayWorker.step_stays leaves
      rw [log, List.drop_left, none_of_stays stays]
      rfl
  | some ctx =>
      obtain ⟨more, log, stays⟩ := GatewayWorker.step_redirected leaves
      rw [log, List.append_assoc, List.drop_left, List.count_append, none_of_stays stays]
      by_cases own : ctx.transport.ptr = client
      · simp [own]
      · simp [own]

/-- What runs keep. -/
structure Kept (journey : Journey) : Prop where
  indexed : journey.worker.conns.Indexed
  distinct : Distinct journey.worker
  silent : Silent (fun client => client ∈ journey.away) journey.worker.now journey.worker.conns
  known : ∀ client, client ∈ journey.away → client ≤ journey.worker.nextTransport
  once : ∀ client, journey.redirects client ≤ 1

theorem Kept.outOfService (kept : Kept journey) : journey.OutOfService where
  silent slot ctx found away := ⟨(kept.silent slot ctx found away).1,
    kept.silent.not_mem_destConnections kept.indexed found away⟩
  once := kept.once

/-- Who is sent away for its authentication was silent, and stays so. -/
theorem Kept.silent_away (kept : Kept journey) (orderly : journey.orderly event = true) :
    Silent (fun client => client ∈ (journey.step event).away) journey.worker.now
      journey.worker.conns := by
  intro slot ctx found out
  cases turned : event.turnsAway journey.worker with
  | none =>
      simp only [step, turned] at out
      exact kept.silent slot ctx found out
  | some own =>
      simp only [step, turned, List.mem_cons] at out
      obtain same | already := out
      · obtain ⟨other, held⟩ := GatewayWorker.redirected_found (Option.or_eq_some_iff.mpr (.inl turned))
        have here := kept.distinct.distinct slot other ctx own found held same
        subst here
        rw [show journey.worker.context slot = some ctx from found, Option.some.injEq] at held
        simp only [Journey.orderly, turned, Option.all_some, Bool.and_eq_true, Bool.not_eq_true',
          decide_eq_true_eq] at orderly
        exact held ▸ orderly.1.1.1
      · exact kept.silent slot ctx found already

theorem now_step (timely : journey.orderly event = true) :
    journey.worker.now ≤ (journey.worker.step event).now := by
  by_cases told : ∃ nodes now, event = .placement nodes now
  · obtain ⟨nodes, now, rfl⟩ := told
    simp only [GatewayWorker.step, GatewayWorker.refreshPlacement]
    split
    · exact le_rfl
    · split <;> exact le_rfl
  by_cases outer : ∃ change, event = .outside change
  · obtain ⟨change, rfl⟩ := outer
    cases change with
    | clock now =>
        simp only [orderly, Bool.and_eq_true, decide_eq_true_eq] at timely
        exact timely.2
    | registry | addresses | links | router => exact le_rfl
  · have same := @GatewayWorker.setting_step journey.worker event
      (fun nodes now same => told ⟨nodes, now, same⟩) fun change same => outer ⟨change, same⟩
    exact (congrArg GatewayWorker.Setting.now same).ge

theorem once_step (once : ∀ client, journey.redirects client ≤ 1)
    (orderly : journey.orderly event = true) (client : Nat) :
    (journey.step event).redirects client ≤ 1 := by
  simp only [Journey.step, count_redirects]
  cases leaves : event.redirected journey.worker with
  | none =>
      simp only [Option.any_none, Bool.false_eq_true, if_false, Nat.add_zero]
      split
      · exact Nat.zero_le 1
      · exact once client
  | some ctx =>
      by_cases own : ctx.transport.ptr = client
      · have before : (if (event.answered journey.worker).any fun answer =>
            answer.1.transport.ptr = client then 0 else journey.redirects client) = 0 := by
          obtain away | ⟨-, home⟩ := Option.or_eq_some_iff.mp leaves
          · obtain ⟨grant, answered, -⟩ := GatewayWorker.turnsAway_eq_some away
            simp [answered, own]
          · simp only [Journey.orderly, home, Option.all_some, Bool.and_eq_true,
              decide_eq_true_eq] at orderly
            rw [← own, orderly.1.2, ite_self]
        simp [before, own]
      · simp only [Option.any_some, own, decide_false, Bool.false_eq_true, if_false, Nat.add_zero]
        split
        · exact Nat.zero_le 1
        · exact once client

theorem Kept.step (kept : Kept journey) (orderly : journey.orderly event = true) :
    Kept (journey.step event) := by
  have known : ∀ client, client ∈ (journey.step event).away →
      client ≤ journey.worker.nextTransport := by
    intro client out
    cases turned : event.turnsAway journey.worker with
    | none =>
        simp only [Journey.step, turned] at out
        exact kept.known client out
    | some ctx =>
        simp only [Journey.step, turned, List.mem_cons] at out
        obtain rfl | already := out
        · obtain ⟨slot, found⟩ :=
            GatewayWorker.redirected_found (Option.or_eq_some_iff.mpr (.inl turned))
          exact kept.distinct.issued slot ctx found
        · exact kept.known client already
  have outside : ∀ ctx, event.admits journey.worker = some ctx →
      ctx.transport.ptr ∉ (journey.step event).away := by
    intro ctx admits
    obtain ⟨grant, answered, stays⟩ := GatewayWorker.admits_eq_some admits
    have turned : event.turnsAway journey.worker = none := by
      simp [Event.turnsAway, answered, stays]
    simp only [Journey.step, turned]
    simp only [Journey.orderly, admits, Option.all_some, Bool.and_eq_true,
      decide_eq_true_eq] at orderly
    exact orderly.1.1.2
  have silencing := Silencing.step kept.indexed (kept.silent_away orderly) known outside
  obtain ⟨distinct, later⟩ := kept.distinct.step kept.indexed event
  refine ⟨silencing.indexed, distinct, silencing.silent.later (now_step orderly),
    silencing.known, once_step kept.once orderly⟩

/-- In every state of an orderly run, who was sent away is out of service. -/
theorem redirected_is_out_of_service {config : Config} {router : MessageRouter} {fate : Nat → Bool}
    {after : Journey} (reached : Run.Reaches step (fun journey event => journey.orderly event = true)
      (start (.init config router fate)) after) : after.OutOfService := by
  have kept : Kept after := by
    refine reached.invariant (fun _ _ kept orderly => kept.step orderly) ?_
    refine ⟨GatewayWorker.init_indexed config router fate, .init config router fate, ?_, ?_, ?_⟩
    · exact fun _ _ found => nomatch found
    · exact fun _ listed => nomatch listed
    · exact fun _ => Nat.zero_le 1
  exact kept.outOfService

/-- A worker of node 1 under affinity, whose clients have to authenticate. -/
def gate : GatewayWorker :=
  .init {
    self := ⟨1, 0⟩
    strategy := .affinity
    policy := { required := true, route := some {} } } (.init 1 16) fun _ => true

/-- The authentication service and node 2 are known, and a client comes. -/
def arrival : List Event :=
  [.outside (.registry fun _ => some 9), .outside (.addresses fun _ => some (text "node2")),
    .accept .rawQuic true (some 7)]

/-- The client asks to be authenticated and is granted the destination 3, on one of its streams and
one of the backend's. -/
def authentication (streamId stream : Nat) : List Event :=
  [.frame 0 streamId (controlFrame .authRequest .required []),
    .authResponse ⟨9, stream⟩ (controlFrame .authSuccess .none
      (BigEndian.write 8 3 ++ BigEndian.write 4 0)).bytes true]

/-- Node 2, where destination 3 is at home from then on, has joined some time ago. -/
def joined : List Event := [.placement [1, 2] 0, .placement [1, 2] placementGraceUs]

set_option maxRecDepth 10000 in
/-- A client is sent away for its first authentication. -/
theorem redirected_is_out_of_service_first :
    (Run.final step (start gate) (joined ++ arrival ++ authentication 0 0)).OutOfService :=
  redirected_is_out_of_service ⟨_, by decide +kernel, rfl⟩

/-- A client that is admitted here authenticates again after its home has moved. -/
def reauthentication : List Event := arrival ++ authentication 0 0 ++ joined ++ authentication 4 2

set_option maxRecDepth 10000 in
/-- It is sent away, and remains admitted and bound to its destination. -/
theorem redirected_again_is_in_service :
    ¬ (Run.final step (start gate) reauthentication).OutOfService := by
  intro outOfService
  have admitted : ((Run.final step (start gate) reauthentication).worker.context 0).any (fun ctx =>
      ctx.transport.ptr ∈ (Run.final step (start gate) reauthentication).away &&
        ctx.isAdmitted (Run.final step (start gate) reauthentication).worker.now) = true := by
    decide +kernel
  obtain ⟨ctx, found, serves⟩ := (Option.any_eq_true _ _).mp admitted
  simp only [Bool.and_eq_true, decide_eq_true_eq] at serves
  simp [(outOfService.silent 0 ctx found serves.1).1] at serves

end Journey

end LyuneGateway.Worker
